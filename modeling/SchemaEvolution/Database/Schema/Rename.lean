import SchemaEvolution.Database.Schema.Text
import SchemaEvolution.Database.Schema.Trace

/-!
# Renaming tables and columns

The new name is put in the place of the old one in all definitions, wherever a name was found to
stand for the table or the column.  Then the catalogs are read again, and all definitions must still
be right.

* `Schema.renameTable` and `Schema.renameColumn` rename a table, or a column of it.
-/

namespace SchemaEvolution.Database.Schema

/-- A change of the definitions of a database. -/
abbrev SchemaChange := Database → Except Fault Database

/-! ## What may be changed -/

/-- A table is one whose definition may be changed. -/
def checkAlterable (t : StoredTable) : Except Fault Unit := do
  if isInternalName t.name || t.isModule then throw (.protectedTable t.name "altered")

/-- A table is not a view. -/
def checkStored (t : StoredTable) (action : String) : Except Fault Unit := do
  if t.isView then throw (.viewColumn s!"{action} view" t.name)

/-- The place of a column that is to be changed. -/
def columnToChange (t : StoredTable) (n : Name) : Except Fault Nat :=
  match t.place? n.text with
  | some i => .ok i
  | none => .error (.noColumnToChange n.written)

/-! ## Texts -/

/-- The catalog of a store with the texts of some entries changed.  Where the catalog may be changed
as a table, a text that is not right stays as it is. -/
def changeTexts (db : Database) (store : String) (concerns : CatalogEntry → Bool)
    (change : CatalogEntry → String → Except Fault String) : Except Fault Database := do
  let st := db.store store
  let entries ← st.entries.mapM fun e =>
    match e.sql with
    | some sql =>
      if concerns e && !isInternalName e.name then do
        match change e sql with
        | .ok new => return { e with sql := some new }
        | .error fault =>
          if db.isOn .writableCatalog then return e else throw (.errorIn e.kind e.name fault)
      else return e
    | none => return e
  return db.modifyStore store fun st => { st with entries := entries }

/-- Texts in quotation marks as texts in quotes, in the definitions of a store. -/
def fixTexts (db : Database) (store : String) : Except Fault Database :=
  changeTexts db store (fun _ => true) fun _ sql => do
    let found ← trace (surroundings db store true) sql
    let defaults := match found.command with
      | .createTable .. => defaultTexts (Lexeme.scan sql.toList)
      | _ => []
    return replaced (textAt (found.texts ++ defaults)) sql

/-- Looks at all definitions before a column is changed, and puts their texts in quotes. -/
def preparedForColumn (db : Database) (store : String) : Except Fault Database := do
  examine db store true .errorIn
  let new ← fixTexts db store
  if (db.store store).isTemporary then return new else fixTexts new "temp"

/-! ## Tables -/

/-- The places of references to a table among declarations. -/
def referencePlaces (table : String) (ds : List Declaration) : List Nat :=
  ds.filterMap fun
    | .references r | .referencesOf _ r =>
      if sameName r.table.text table then some r.table.place else none
    | _ => none

/-- The table that a step of a trigger changes. -/
def stepTable? : TriggerStep → Option ObjectName
  | .insert i => some i.table
  | .update u => some u.table
  | .delete d => some d.table
  | .select _ => none

/-- The places in a definition where a table is named; by the old rules, those within queries and
expressions do not count. -/
def tablePlaces (db : Database) (store table target : String) (found : Traced) : List Nat :=
  let isOld := db.isOn .legacyRenaming
  let isIt (n : Name) : Bool := sameName n.text target
  let mentioned := found.mentions.filterMap fun m =>
    let isName := m.referent = .source ∨ m.referent = .qualifier
    if isName && sameName m.store table && sameName m.table target then some m.place else none
  let direct := match found.command with
    | .createTable head ds _ _ =>
      (if !isOld || db.isOn .foreignKeys then referencePlaces target ds else []) ++
        if isIt head.name.name then [head.name.name.place] else []
    | .createIndex _ _ name _ _ _ => if isIt name then [name.place] else []
    | .createTrigger _ head steps _ =>
      let own := (triggerTable? db store head).any fun (s, _) => sameName s table
      let steps := if isOld then [] else steps.toOption.getD []
      (if own && isIt head.table.name then [head.table.name.place] else []) ++
        (steps.filterMap stepTable?).filterMap fun n =>
          if isIt n.name then some n.name.place else none
    | _ => []
  direct ++ mentioned

/-- The definitions of a store with a table of one of the stores renamed in them. -/
def renameInTexts (db : Database) (store table target newName : String)
    (concerns : CatalogEntry → Bool) : Except Fault Database :=
  changeTexts db store concerns fun _ sql => do
    let found ←
      if db.isOn .legacyRenaming then pure ⟨← commandOf sql, []⟩
      else trace (surroundings db store true) sql
    return replaced (quotedAt (tablePlaces db store table target found) newName) sql

/-- The name of the index of a constraint, on a table that is renamed. -/
def renamedIndex (old newName index : String) : String :=
  if "sqlite_autoindex".toList.isPrefixOf (foldName index).toList then
    "sqlite_autoindex_" ++ newName ++ String.ofList (index.toList.drop (old.length + 17))
  else index

/-- An entry of the catalog whose table is renamed. -/
def renamedEntry (old newName : String) (e : CatalogEntry) : CatalogEntry :=
  let hasTable := ["table", "index", "trigger"].contains e.kind
  if hasTable && sameName e.table old then
    let name :=
      if e.kind == "table" then newName
      else if e.kind == "index" then renamedIndex old newName e.name
      else e.name
    { e with table := newName, name := name }
  else e

/-- The greatest numbers that tables have used, with a table renamed. -/
def renameSequence (old newName : String) (st : Store) : Store :=
  { st with tables := st.tables.map fun t =>
      if t.name == Modification.sequenceTable then
        { t with rows := t.rows.map fun row =>
            if row.cells.head? == some (.text old) then
              { row with cells := .text newName :: row.cells.tail }
            else row }
      else t }

/-- The triggers of the session, with a table of another store renamed. -/
def renameTemporary (db : Database) (store old newName : String) : Except Fault Database := do
  let isOnTable (e : CatalogEntry) : Bool :=
    sameName e.table old && (db.store "temp").triggers.any fun g =>
      g.name == e.name && sameName g.tableStore store
  let new ← renameInTexts db "temp" store old newName fun e => ["view", "trigger"].contains e.kind
  return new.modifyStore "temp" fun st => { st with
    entries := st.entries.map fun e => if isOnTable e then { e with table := newName } else e }

/-- Renames a table. -/
def renameTable (n : ObjectName) (newName : Name) : SchemaChange := fun db => do
  let (store, t) ← db.locate n
  let name := newName.text
  let st := db.store store
  if (db.find? (some store) name).isSome || (st.index? name).isSome then throw (.nameTaken name)
  checkAlterable t
  if db.isReserved name then throw (.reservedName name)
  if t.isView then throw (.alteredView t.name)
  let texts ← renameInTexts db store store t.name name fun e =>
    e.kind != "index" || sameName e.table t.name
  let moved := texts.modifyStore store fun st =>
    renameSequence t.name name { st with entries := st.entries.map (renamedEntry t.name name) }
  let all ← if st.isTemporary then pure moved else renameTemporary moved store t.name name
  let new ← reload all store "rename"
  examine new store true (.consequence · · "rename")
  return new

/-! ## Columns -/

/-- A column that is renamed. -/
structure RenamedColumn where
  store : String
  table : StoredTable
  place : Nat

namespace RenamedColumn

/-- The name that the column has. -/
def name (c : RenamedColumn) : String :=
  (c.table.column c.place).name

/-- The places of the names that are that of the column. -/
def among (c : RenamedColumn) (names : List Name) : List Nat :=
  (names.filter fun n => sameName n.text c.name).map (·.place)

/-- The column as names refer to it. -/
def referent (c : RenamedColumn) : Binding.Referent :=
  .column (if c.table.numberColumn = some c.place then none else some c.place)

/-- The places in a foreign key. -/
def inReference (c : RenamedColumn) (r : ReferenceClause) : List Nat :=
  if sameName r.table.text c.table.name then c.among r.columns else []

/-- The places in the terms of a constraint. -/
def inTerms (c : RenamedColumn) (terms : List OrderTerm) : List Nat :=
  c.among <| terms.filterMap fun t =>
    match Draft.plainTerm t.expression with
    | .name [n] => some n
    | _ => none

/-- The places in the declarations of a table, which may be another one. -/
def inDeclarations (c : RenamedColumn) (isOwn : Bool) (ds : List Declaration) : List Nat :=
  ds.flatMap fun
    | .column n _ => if isOwn then c.among [n] else []
    | .keyOf terms _ _ | .uniqueOf terms _ => if isOwn then c.inTerms terms else []
    | .references r => c.inReference r
    | .referencesOf columns r => (if isOwn then c.among columns else []) ++ c.inReference r
    | _ => []

/-- The places in the columns that a step of a trigger sets. -/
def inStep (c : RenamedColumn) (db : Database) (s : TriggerStep) : List Nat :=
  let isOwn := (stepTable? s).any fun n =>
    (db.find? (some c.store) n.name.text).any fun (_, t) => t.name == c.table.name
  if !isOwn then []
  else match s with
    | .insert i =>
      c.among (i.columns.getD [] ++ i.clauses.flatMap fun clause =>
        clause.assignments.flatMap (·.columns))
    | .update u => c.among (u.assignments.flatMap (·.columns))
    | _ => []

/-- The places in a definition where the column is named. -/
def places (c : RenamedColumn) (db : Database) (store : String) (found : Traced) : List Nat :=
  let mentioned := found.mentions.filterMap fun m =>
    if m.referent = c.referent ∧ sameName m.store c.store ∧ sameName m.table c.table.name then
      some m.place
    else none
  let direct := match found.command with
    | .createTable head ds _ _ => c.inDeclarations (head.name.name.isIn [c.table.name]) ds
    | .createTrigger _ head steps _ =>
      let isOwn := (triggerTable? db store head).any fun (s, t) =>
        sameName s c.store && t.name == c.table.name
      (if isOwn then c.among head.columns else []) ++ (steps.toOption.getD []).flatMap (c.inStep db)
    | _ => []
  direct ++ mentioned

/-- The definitions of a store with the column renamed in them. -/
def inTexts (c : RenamedColumn) (newName : Name) (db : Database) (store : String)
    (concerns : CatalogEntry → Bool) : Except Fault Database :=
  let isQuoted := newName.written.toList.head?.any Draft.isQuote
  changeTexts db store concerns fun _ sql => do
    let found ← trace (surroundings db store true) sql
    return replaced (nameAt (c.places db store found) newName.text isQuoted) sql

end RenamedColumn

/-- Renames a column. -/
def renameColumn (n : ObjectName) (column newName : Name) : SchemaChange := fun db => do
  let (store, t) ← db.locate n
  checkAlterable t
  checkStored t "rename columns of"
  let c : RenamedColumn := { store := store, table := t, place := ← columnToChange t column }
  let fixed ← preparedForColumn db store
  let texts ← c.inTexts newName fixed store fun e => e.kind != "index" || e.table == t.name
  let all ←
    if (db.store store).isTemporary then pure texts
    else c.inTexts newName texts "temp" fun e => ["view", "trigger"].contains e.kind
  let new ← reload all store "rename"
  examine new store false (.consequence · · "rename")
  return new

end SchemaEvolution.Database.Schema
