import SchemaEvolution.Database.Modification.Basic
import SchemaEvolution.Database.Node

/-!
# Definitions of tables

What a statement says about a table comes as a list of declarations.  They are taken one after the
other, and the first that cannot be met is a fault.  Together they make a `Draft`, which is a table
with the indexes that its constraints need.

* `Surroundings` is what definitions are read in.
* `Draft.declare` takes one declaration, and `Draft.ofDeclarations` all of them.
-/

namespace SchemaEvolution.Database.Schema

open Binding

/-! ## Surroundings -/

/-- What definitions are read in. -/
structure Surroundings where
  inner : Binder
  database : Database
  /-- The store that they are in. -/
  store : String
  /-- A name between quotation marks may be a text. -/
  quotedTexts : Bool := true

namespace Surroundings

/-- The context of expressions that belong to a table. -/
def context (s : Surroundings) (t : StoredTable) (place : Place) : Context :=
  { tableContext s.database s.store t place with
    functions := .known, quotedTexts := s.quotedTexts, isTraced := true }

/-- The meaning of an expression that belongs to a table, with what was noted about its names. -/
def meaning (s : Surroundings) (t : StoredTable) (place : Place) (e : Expression) :
    Except Fault (Meaning × BindState) :=
  let ctx := s.context t place
  Bind.traced ctx (s.inner.one ctx e)

end Surroundings

/-! ## Drafts -/

/-- A table while its declarations are taken. -/
structure Draft where
  table : StoredTable
  /-- The indexes that its constraints need, the newest first. -/
  indexes : List StoredIndex := []
  /-- There is a key. -/
  hasKey : Bool := false
  /-- The name of the next constraint. -/
  constraintName : Option Name := none
  isStrict : Bool := false
  hasNumbers : Bool := true
  /-- The key of rows that have numbers is in the order of another one. -/
  keyDescending : Bool := false

namespace Draft

/-- The place of the last column. -/
def last (d : Draft) : Nat :=
  d.table.columns.length - 1

/-- The last column. -/
def lastColumn (d : Draft) : StoredColumn :=
  d.table.column d.last

/-- The draft with a column changed. -/
def modifyColumn (d : Draft) (place : Nat) (change : StoredColumn → StoredColumn) : Draft :=
  { d with table := { d.table with columns := d.table.columns.modify place change } }

/-! ### Columns -/

/-- The characters in reverse order without a word and the white space behind it. -/
def withoutWord? (word : String) (reversed : List Char) : Option (List Char) :=
  let front := String.ofList (reversed.take word.length).reverse
  if sameName front word then some ((reversed.drop word.length).dropWhile Token.isSpace) else none

/-- A type without the words of a computed column at its end. -/
def withoutGenerated (sqlType : String) : String :=
  let reversed := sqlType.toList.reverse
  match if 16 ≤ reversed.length then withoutWord? "always" reversed else none with
  | some rest => String.ofList ((withoutWord? "generated" rest).getD rest).reverse
  | none => sqlType

/-- A mark that quotes something. -/
def isQuote (c : Char) : Bool :=
  Token.isMark c || c == '['

/-- A type without the marks around it. -/
def withoutMarks (sqlType : String) : String :=
  match sqlType.toList with
  | c :: d :: cs =>
    if isQuote c && !((d :: cs).dropLast.any isQuote) then String.ofList (d :: cs).dropLast
    else sqlType
  | _ => sqlType

/-- The types that strict tables know, with their affinities. -/
def standardTypes : List (String × Affinity) :=
  [("ANY", .numeric), ("BLOB", .blob), ("INT", .integer), ("INTEGER", .integer), ("REAL", .real),
    ("TEXT", .text)]

/-- A column of a type as it is written. -/
def columnOf (name written : String) : StoredColumn :=
  let plain := withoutGenerated written
  let sqlType := if plain.length < 3 then plain else withoutMarks plain
  match standardTypes.find? fun (w, _) => sameName w sqlType with
  | some (w, affinity) => { name := name, sqlType := w, affinity := affinity }
  | none => { name := name, sqlType := sqlType, affinity := .ofType sqlType }

/-- Adds a column. -/
def addColumn (d : Draft) (name : String) (written : String) : Except Fault Draft := do
  if mostColumns ≤ d.table.columns.length then throw (.tooMany s!"columns on {d.table.name}")
  if (d.table.place? name).isSome then throw (.duplicateColumn name)
  let columns := d.table.columns ++ [columnOf name written]
  return { d with table := { d.table with columns := columns }, constraintName := none }

/-- The last column holds something if nothing is given. -/
def setDefault (d : Draft) (e : Expression) (written : String) : Except Fault Draft := do
  let c := d.lastColumn
  if !e.isConstant (written.length + 2) then throw (.notConstant c.name)
  if c.generation.isSome then throw .generatedDefault
  return d.modifyColumn d.last fun c => { c with default := some ⟨e, written⟩ }

/-- A computed column is kept with the row, if its kind is one. -/
def isStoredKind? : Option Name → Option Bool
  | none => some false
  | some n =>
    if sameName n.written "virtual" then some false
    else if sameName n.written "stored" then some true
    else none

/-- The last column is computed. -/
def setGeneration (d : Draft) (e : Expression) (kind : Option Name) : Except Fault Draft := do
  let c := d.lastColumn
  match isStoredKind? kind with
  | none => throw (.generatedColumn c.name)
  | some isStored =>
    if c.default.isSome || c.generation.isSome then throw (.generatedColumn c.name)
    if c.inKey then throw .generatedKey
    let own := match e with
      | .name [_] => .unary .plus e
      | e => e
    return d.modifyColumn d.last fun c => { c with generation := some ⟨own, isStored⟩ }

/-- The last column is compared under a collation, also in the indexes on it alone. -/
def setCollation (d : Draft) (n : Name) : Except Fault Draft := do
  match Collation.ofName? n.text with
  | none => throw (.noSuchCollation n.text)
  | some collation =>
    let changed (i : StoredIndex) : StoredIndex := { i with
      terms := i.terms.map fun t =>
        if t.column = some d.last then { t with collation := collation } else t }
    let d := { d with indexes := d.indexes.map changed }
    return d.modifyColumn d.last fun c => { c with collation := collation }

/-! ### Indexes of constraints -/

/-- A term that a constraint is about: a text stands for a name. -/
def termExpression (t : OrderTerm) : Expression :=
  match t.expression with
  | .literal (.text s) => .name [{ text := s }]
  | .collated (.literal (.text s)) n => .collated (.name [{ text := s }]) n
  | e => e

/-- An expression without the collations around it. -/
def plainTerm : Expression → Expression
  | .collated e _ => plainTerm e
  | e => e

/-- The collation of a term of an index. -/
def termCollation (e : Expression) (own : Collation) : Except Fault Collation :=
  match e with
  | .collated _ n =>
    match Collation.ofName? n.text with
    | some c => .ok c
    | none => .error (.noSuchCollation n.text)
  | _ => .ok own

/-- The terms may not say where missing values come. -/
def checkNulls (terms : List OrderTerm) : Except Fault Unit := do
  for t in terms do
    if let some first := t.nullsFirst then throw (.nullsInIndex !first)

/-- There are not too many terms. -/
def checkCount (terms : List OrderTerm) : Except Fault Unit := do
  if mostColumns < terms.length then throw (.tooMany "columns in index")

/-- The column that a meaning is, if it is one of the table. -/
def columnPlace? (t : StoredTable) (m : Meaning) : Option Nat :=
  match m.column with
  | some ⟨0, _, some i⟩ => some i
  | some ⟨0, _, none⟩ => t.numberColumn
  | _ => none

/-- A term of an index on a table. -/
def indexTerm (s : Surroundings) (t : StoredTable) (term : OrderTerm) :
    Except Fault (IndexTerm × BindState) := do
  let e := termExpression term
  let plain := plainTerm e
  let (m, noted) ← s.meaning t .index plain
  let column := match plain with
    | .name _ => columnPlace? t m
    | _ => none
  let own := match column with
    | some i => (t.column i).collation
    | none => .binary
  return ({
    column := column, expression := plain, collation := ← termCollation e own
    descending := term.descending }, noted)

/-- The terms of a constraint, which must be columns. -/
def constraintTerms (s : Surroundings) (t : StoredTable) (terms : List OrderTerm) :
    Except Fault (List IndexTerm) := do
  checkCount terms
  terms.mapM fun term => do
    let e := termExpression term
    let plain := plainTerm e
    let (m, _) ← s.meaning t .index plain
    match plain, columnPlace? t m with
    | .name _, some i =>
      return {
        column := some i, collation := ← termCollation e (t.column i).collation
        descending := term.descending }
    | _, _ => throw .expressionsInKey

/-- The name of an index that a constraint needs. -/
def nextIndexName (d : Draft) : String :=
  s!"sqlite_autoindex_{d.table.name}_{String.ofList (digits (d.indexes.length + 1))}"

/-- An index that serves one constraint serves another one as well. -/
def share (old new : StoredIndex) : Except Fault StoredIndex := do
  if old.conflict.isSome && new.conflict.isSome && old.conflict != new.conflict then
    throw .conflictingClauses
  let origin := if new.origin = .key then .key else old.origin
  return { old with conflict := old.conflict <|> new.conflict, origin := origin }

/-- Adds the index that a constraint needs, unless there is one. -/
def addIndex (d : Draft) (origin : IndexOrigin) (terms : List IndexTerm)
    (conflict : Option Conflict) : Except Fault Draft := do
  let new : StoredIndex := {
    name := d.nextIndexName, table := d.table.name, origin := origin, terms := terms
    isUnique := true, conflict := conflict }
  match d.indexes.findIdx? new.hasTermsOf with
  | some i =>
    let shared ← share (d.indexes.getD i default) new
    return { d with indexes := d.indexes.set i shared }
  | none => return { d with indexes := new :: d.indexes }

/-- The last column as a term of an index. -/
def lastTerm (d : Draft) (descending : Bool) : IndexTerm where
  column := some d.last
  collation := d.lastColumn.collation
  descending := descending

/-! ### Keys -/

/-- A column becomes part of the key. -/
def intoKey (d : Draft) (place : Nat) : Except Fault Draft := do
  if (d.table.column place).generation.isSome then throw .generatedKey
  return d.modifyColumn place fun c => { c with inKey := true }

/-- The places of the columns that terms name. -/
def namedPlaces (t : StoredTable) (terms : List OrderTerm) : List Nat :=
  terms.filterMap fun term =>
    match plainTerm (termExpression term) with
    | .name [n] => t.place? n.text
    | _ => none

/-- Adds a key: the last column, or what terms say. -/
def addKey (s : Surroundings) (d : Draft) (terms : Option (List OrderTerm)) (descending : Bool)
    (conflict : Option Conflict) (autoincrement : Bool) : Except Fault Draft := do
  if d.hasKey then throw (.secondPrimaryKey d.table.name)
  let places := match terms with
    | some ts => namedPlaces d.table ts
    | none => [d.last]
  let d ← places.foldlM intoKey { d with hasKey := true }
  let single := match terms with
    | some [_] | none => places.getLast?
    | some _ => none
  let number := single.filter fun i => (d.table.column i).sqlType == "INTEGER" && !descending
  match number with
  | some i =>
    checkNulls (terms.getD [])
    return { d with
      keyDescending := (terms.getD []).any (·.descending)
      table := { d.table with
        numberColumn := some i, numberConflict := conflict, autoincrement := autoincrement } }
  | none =>
    if autoincrement then throw .autoincrement
    match terms with
    | none => d.addIndex .key [d.lastTerm descending] conflict
    | some ts =>
      checkNulls ts
      d.addIndex .key (← constraintTerms s d.table ts) conflict

/-- Values of the last column alone, or of what terms say, must differ. -/
def addUnique (s : Surroundings) (d : Draft) (terms : Option (List OrderTerm))
    (conflict : Option Conflict) : Except Fault Draft := do
  match terms with
  | none =>
    let d := d.modifyColumn d.last fun c => { c with isUnique := true }
    d.addIndex .unique [d.lastTerm false] conflict
  | some ts =>
    checkNulls ts
    d.addIndex .unique (← constraintTerms s d.table ts) conflict

/-! ### Conditions and foreign keys -/

/-- A text that begins with a quoted name or text, as that; other texts as they are. -/
def dequoted (s : String) : String :=
  match Lexeme.scan s.toList with
  | ⟨.quotedName _ n, _, _, _⟩ :: _ => n
  | ⟨.text t, _, _, _⟩ :: _ => t
  | _ => s

/-- Adds a condition. -/
def addCheck (d : Draft) (e : Expression) (written : String) : Draft :=
  let name := match d.constraintName with
    | some n => n.text
    | none => dequoted written
  { d with table := { d.table with checks := d.table.checks ++ [⟨name, e⟩] } }

/-- Adds a foreign key. -/
def addForeignKey (d : Draft) (places : List Nat) (r : ReferenceClause) : Draft :=
  let key : ForeignKey := {
    columns := places.zipIdx.map fun (place, i) => (place, (r.columns[i]?).map (·.text))
    table := r.table.text, onDelete := r.onDelete, onUpdate := r.onUpdate }
  { d with table := { d.table with foreignKeys := key :: d.table.foreignKeys } }

/-- The last column is a foreign key. -/
def addReference (d : Draft) (r : ReferenceClause) : Except Fault Draft := do
  if !r.columns.isEmpty && r.columns.length != 1 then
    throw (.referenceWidth d.lastColumn.name r.table.written)
  return d.addForeignKey [d.last] r

/-- Several columns are a foreign key. -/
def addReferences (d : Draft) (columns : List Name) (r : ReferenceClause) :
    Except Fault Draft := do
  if !r.columns.isEmpty && r.columns.length != columns.length then throw .referenceCount
  let places ← columns.mapM fun n =>
    match d.table.place? n.text with
    | some i => .ok i
    | none => .error (.referenceUnknownColumn n.text)
  return d.addForeignKey places r

/-- The last foreign key is checked at the end of the transaction, or not. -/
def setDeferral (d : Draft) (deferred : Bool) : Draft :=
  { d with table := { d.table with
      foreignKeys := d.table.foreignKeys.modify 0 fun key => { key with isDeferred := deferred } } }

/-! ### Options -/

/-- An option is one that tables have. -/
def checkOption (isWithout : Bool) (n : Name) : Except Fault Unit := do
  let known := if isWithout then "rowid" else "strict"
  if !sameName n.written known then throw (.unknownOption n.written)

/-- Takes an option of the table. -/
def addOption (d : Draft) (isWithout : Bool) (n : Name) : Except Fault Draft := do
  checkOption isWithout n
  return if isWithout then { d with hasNumbers := false } else { d with isStrict := true }

/-! ### Completion -/

/-- A column of a strict table. -/
def strictColumn (t : StoredTable) (c : StoredColumn) (place : Nat) :
    Except Fault StoredColumn := do
  if c.sqlType.isEmpty then throw (.missingType t.name c.name)
  if !(standardTypes.any fun (w, _) => w == c.sqlType) then
    throw (.unknownType t.name c.name c.sqlType)
  let c := if c.sqlType == "ANY" then { c with affinity := .blob } else c
  let isNeeded := c.inKey && t.numberColumn != some place && c.notNull.isNone
  return if isNeeded then { c with notNull := some .abort } else c

/-- The table takes only cells of the types of its columns. -/
def asStrict (d : Draft) : Except Fault Draft := do
  let columns ← d.table.columns.zipIdx.mapM fun (c, i) => strictColumn d.table c i
  return { d with table := { d.table with columns := columns, isStrict := true } }

/-- Terms of a key, each of them once. -/
def distinctTerms (terms : List IndexTerm) : List IndexTerm :=
  terms.foldl (fun found t =>
    if found.any fun u => u.column == t.column && u.collation == t.collation then found
    else found ++ [t]) []

/-- The rows of the table are stored in the order of its key. -/
def withoutNumbers (d : Draft) : Except Fault Draft := do
  if d.table.autoincrement then throw .autoincrementWithoutNumbers
  if !d.hasKey then throw (.missingPrimaryKey d.table.name)
  let keyed ← match d.table.numberColumn with
    | some i =>
      let term : IndexTerm := {
        column := some i, collation := (d.table.column i).collation
        descending := d.keyDescending }
      d.addIndex .key [term] d.table.numberConflict
    | none => pure d
  let needed (c : StoredColumn) : StoredColumn :=
    if c.inKey && c.notNull.isNone then { c with notNull := some .abort } else c
  return { keyed with
    indexes := keyed.indexes.map fun i =>
      if i.origin = .key then { i with terms := distinctTerms i.terms } else i
    table := { keyed.table with
      columns := keyed.table.columns.map needed
      hasNumbers := false, numberColumn := none, numberConflict := none } }

/-- The fault that came last. -/
def lastFault (results : List (Except Fault Unit)) : Except Fault Unit :=
  match results.filterMap fun | .error f => some f | .ok () => none with
  | [] => .ok ()
  | faults => match faults.getLast? with
    | some f => .error f
    | none => .ok ()

/-- What the names in a complete table stand for. -/
def notes (s : Surroundings) (d : Draft) : Except Fault (List BindState) := do
  let checks ← d.table.checks.mapM fun c => Prod.snd <$> s.meaning d.table .check c.condition
  let generated ← d.table.columns.filterMapM fun c =>
    c.generation.mapM fun g => Prod.snd <$> s.meaning d.table .generated g.expression
  return checks ++ generated

/-- All conditions and computed columns of the table mean something. -/
def checkMeanings (s : Surroundings) (d : Draft) : Except Fault Unit :=
  let checks : Except Fault Unit := do
    for c in d.table.checks do let _ ← s.meaning d.table .check c.condition
  let generated := d.table.columns.filterMap (·.generation)
  let computed := generated.map fun g => discard (s.meaning d.table .generated g.expression)
  let given : Except Fault Unit :=
    if !generated.isEmpty && generated.length = d.table.columns.length then .error .onlyGenerated
    else .ok ()
  lastFault (checks :: computed ++ [given])

/-- Nothing more is said about the table. -/
def completed (s : Surroundings) (d : Draft) : Except Fault Draft := do
  let d ← if d.isStrict then d.asStrict else pure d
  let d ← if d.hasNumbers then pure d else d.withoutNumbers
  checkMeanings s d
  return d

/-! ### Declarations -/

/-- Takes a declaration. -/
def declare (s : Surroundings) (d : Draft) : Declaration → Except Fault Draft
  | .column n sqlType => d.addColumn n.text sqlType
  | .constraintName n => .ok { d with constraintName := some n }
  | .constraintEnd => .ok { d with constraintName := none }
  | .defaultValue e written => d.setDefault e written
  | .nullable | .columnsEnd _ => .ok d
  | .notNull conflict =>
    .ok (d.modifyColumn d.last fun c => { c with notNull := some (conflict.getD .abort) })
  | .key descending conflict autoincrement => d.addKey s none descending conflict autoincrement
  | .keyOf terms autoincrement conflict => d.addKey s (some terms) false conflict autoincrement
  | .unique conflict => d.addUnique s none conflict
  | .uniqueOf terms conflict => d.addUnique s (some terms) conflict
  | .collate n => d.setCollation n
  | .generated e kind => d.setGeneration e kind
  | .references r => d.addReference r
  | .referencesOf columns r => d.addReferences columns r
  | .deferral deferred => .ok (d.setDeferral deferred)
  | .check e written => .ok (d.addCheck e written)
  | .option isWithout n => d.addOption isWithout n
  | .complete => d.completed s

/-- The table of a name that declarations make, unless they end with a fault. -/
def ofDeclarations (s : Surroundings) (name : String) (ds : List Declaration)
    (fault : Option Fault) : Except Fault Draft := do
  let d ← ds.foldlM (declare s) { table := { name := name } }
  match fault with
  | some fault => throw fault
  | none => return d

end Draft

end SchemaEvolution.Database.Schema
