import SchemaEvolution.Database.Modification.Constraint
import SchemaEvolution.Database.Page
import SchemaEvolution.Database.Schema.Trace

/-!
# Creating tables, indexes, views and triggers

What is created is listed in the catalog of a store, with its text from its name on.  A name may be
used once in a store: tables and views share their names, and so do tables and indexes.

* `Schema.createTable`, `createTableAs`, `createIndex`, `createView` and `createTrigger` do so.
-/

namespace SchemaEvolution.Database.Schema

open Binding Modification

/-! ## Names -/

/-- The store in which a new table or view is to be. -/
def newStore (db : Database) (head : CreationHead) : Except Fault String :=
  match head.name.database with
  | none => .ok (if head.isTemporary then "temp" else "main")
  | some n =>
    match db.store? n.text with
    | none => .error (.unknownDatabase n.written)
    | some s =>
      if head.isTemporary && !s.isTemporary then .error .temporaryQualified else .ok s.name

/-- The name of a new table or view is free; if it is not, but may be taken, nothing is done. -/
def isFree (db : Database) (store : String) (head : CreationHead) : Except Fault Bool := do
  let name := head.name.name.text
  if db.isReserved name then throw (.reservedName name)
  match db.find? (some store) name with
  | some (_, t) =>
    if head.ifMissing then return false
    throw (.objectExists (if t.isView then "view" else "table") head.name.name.written)
  | none =>
    if ((db.store store).index? name).isSome then throw (.nameOfIndex name)
    return true

/-! ## Tables -/

/-- The indexes with pages of their own, the first of them first. -/
def ownIndexes (d : Draft) : List StoredIndex :=
  d.indexes.reverse.filter fun i => !(i.origin = .key && !d.table.hasNumbers)

/-- The store with a new table, its indexes, and their entries in the catalog. -/
def addNewTable (st : Store) (d : Draft) (sql : String) (rows : List StoredRow) : Store :=
  let (page, st) := st.takePage
  let first := (addTable st d page rows).addEntry "table" d.table.name d.table.name page (some sql)
  (ownIndexes d).foldl (fun (st : Store) (i : StoredIndex) =>
    let (page, st) := st.takePage
    (withIndexPage st i.name page).addEntry "index" i.name i.table page none) first

/-- The text of the table that keeps the greatest numbers. -/
def sequenceText : String :=
  "CREATE TABLE " ++ sequenceTable ++ "(name,seq)"

/-- The store with a table that keeps the greatest numbers. -/
def withSequence (st : Store) : Store :=
  if (st.table? sequenceTable).isSome then st
  else
    let columns := [Draft.columnOf "name" "", Draft.columnOf "seq" ""]
    addNewTable st { table := { name := sequenceTable, columns := columns } } sequenceText []

/-- The database with a new table. -/
def withTable (inner : Binder) (db : Database) (store : String) (d : Draft) (sql : String)
    (rows : List StoredRow) : Except Fault Database := do
  let new := db.modifyStore store fun st =>
    let st := { addNewTable st d sql rows with version := st.version + 1 }
    if d.table.autoincrement then withSequence st else st
  match (new.store store).table? d.table.name with
  | some t =>
    discard (Bind.result { database := new } (generatedColumns inner new store t))
    return new
  | none => return new

/-- Creates a table as declarations say. -/
def createTable (inner : Binder) (head : CreationHead) (ds : List Declaration)
    (fault : Option Fault) (written : String) (db : Database) : Except Fault Database := do
  let store ← newStore db head
  if ← isFree db store head then
    let s : Surroundings := { inner := inner, database := db, store := store }
    let d ← Draft.ofDeclarations s head.name.name.text ds fault
    withTable inner db store d ("CREATE TABLE " ++ written) []
  else
    for d in ds do
      if let .option isWithout n := d then Draft.checkOption isWithout n
    match fault with
    | some fault => throw fault
    | none => return db

/-- How many characters a name takes up between quotation marks. -/
def quotedLength (s : String) : Nat :=
  (doubledLength s.toList) + 2
where
  /-- How many characters there are, quotation marks counting twice. -/
  doubledLength (cs : List Char) : Nat :=
    cs.length + (cs.filter (· == '"')).length

/-- The text of a table that is made of a query. -/
def tableText (name : String) (columns : List (String × Affinity)) : String :=
  let size := sumOf (columns.map fun (n, _) => quotedLength n + 5) + quotedLength name
  let (first, next, last) := if size < 50 then ("", ",", ")") else ("\n  ", ",\n  ", "\n)")
  let column (c : String × Affinity) : String :=
    bareOrQuoted c.1 ++ (if c.2.typeName.isEmpty then "" else " ") ++ c.2.typeName
  "CREATE TABLE " ++ bareOrQuoted name ++ "(" ++ first ++ next.intercalate (columns.map column) ++
    last

/-- The names and affinities of the columns of a table that is made of a query. -/
def queryColumns (q : BoundQuery) : List (String × Affinity) :=
  let names := distinctNames (q.columns.zipIdx.map fun (c, i) => usableName i c.lasting)
  names.zip (q.columns.map fun c => c.affinity.getD .blob)

/-- Rows as a table stores them. -/
def storedAs (columns : List Affinity) (rows : List (List Cell)) : List StoredRow :=
  rows.zipIdx.map fun (cells, i) =>
    ⟨Int64.ofNat (i + 1), (cells.zip columns).map fun (c, a) => c.stored a⟩

/-- Creates a table of the rows of a query. -/
def createTableAs (inner : Binder) (head : CreationHead) (q : Query) (db : Database) :
    Except Stop Database := do
  let fromFault {α : Type} (r : Except Fault α) : Except Stop α := r.mapError Stop.abort
  let store ← fromFault (newStore db head)
  if !(← fromFault (isFree db store head)) then return db
  let bound ← fromFault (Bind.result { database := db } (inner.query { database := db } q))
  let columns := queryColumns bound
  let name := head.name.name.text
  let declared := columns.map fun (n, a) => Draft.columnOf n a.typeName
  let d : Draft := { table := { name := name, columns := declared } }
  let rows ← bound.all { database := db }
  let stored := storedAs (declared.map (·.affinity)) rows
  fromFault (withTable inner db store d (tableText name columns) stored)

/-! ## Indexes -/

/-- The store in which a new index is to be: that of its table, if its name does not say. -/
def indexStore (db : Database) (head : CreationHead) (table : Name) : Except Fault String :=
  match head.name.database with
  | some n =>
    match db.store? n.text with
    | some s => .ok s.name
    | none => .error (.unknownDatabase n.written)
  | none =>
    match db.find? none table.text with
    | some (store, _) => .ok (if (db.store store).isTemporary then store else "main")
    | none => .ok "main"

/-- The table of a new index. -/
def indexedTable (db : Database) (store : String) (table : Name) : Except Fault StoredTable := do
  match (db.find? (some store) table.text).map Prod.snd <|> moduleTable? table.text with
  | none => throw (.noSuchTable [store, table.text])
  | some t =>
    if isInternalName t.name then throw (.protectedTable t.name "indexed")
    if t.isView then throw (.notIndexable "views")
    if t.isModule then throw (.notIndexable "virtual tables")
    return t

/-- The name of a new index is free; if another index has it, but may, nothing is done. -/
def isFreeIndex (db : Database) (store : String) (head : CreationHead) : Except Fault Bool := do
  let name := head.name.name.text
  if db.isReserved name then throw (.reservedName name)
  if (db.find? (some store) name).isSome then throw (.nameOfTable name)
  if ((db.store store).index? name).isSome then
    if head.ifMissing then return false
    throw (.indexExists name)
  return true

/-- Two keys that follow one another are the same, and have no missing values. -/
def hasRepeated (terms : List SortTerm) : List (List Cell) → Bool
  | a :: b :: keys =>
    !a.any (·.isNull) && (SortTerm.compareAll terms a b).isEq || hasRepeated terms (b :: keys)
  | _ => false

/-- The rows of a table differ where an index demands it. -/
def checkRows (inner : Binder) (db : Database) (store : String) (t : StoredTable)
    (i : StoredIndex) : Except Stop Unit := do
  let o ← (Bind.result { database := db } (indexOrder inner db store t i)).mapError Stop.abort
  for m in o.terms.map (·.meaning) ++ o.conditions do
    if m.uses.isEmpty then discard (m.value { database := db })
  let given := t.rows.map (give t)
  let present ← given.filterM fun row => o.has db row
  let keys ← present.mapM fun row => o.key db row
  if i.isUnique then
    let sorted := sortBy (SortTerm.compareAll o.terms) (keys.map (·, ()))
    if hasRepeated o.terms (sorted.map Prod.fst) then
      throw (.abort (.violation ((Unique.order o).violation { store := store, table := t })))

/-- Creates an index. -/
def createIndex (inner : Binder) (head : CreationHead) (isUnique : Bool) (table : Name)
    (terms : List OrderTerm) (condition : Option Expression) (written : String) (db : Database) :
    Except Stop Database := do
  let prepared : Except Fault (Option (String × StoredTable × StoredIndex)) := do
    Draft.checkNulls terms
    let store ← indexStore db head table
    let t ← indexedTable db store table
    if !(← isFreeIndex db store head) then return none
    let s : Surroundings := { inner := inner, database := db, store := store }
    return some (store, t, ← indexOf s t head.name.name.text isUnique terms condition)
  match ← prepared.mapError Stop.abort with
  | none => return db
  | some (store, t, i) =>
    checkRows inner db store t i
    let first := if isUnique then "CREATE UNIQUE INDEX " else "CREATE INDEX "
    return db.modifyStore store fun st =>
      let (page, st) := st.takePage
      let new := { st with
        indexes := { i with page := page } :: st.indexes, version := st.version + 1 }
      new.addEntry "index" i.name i.table page (some (first ++ written))

/-! ## Views and triggers -/

/-- A text contains a parameter. -/
def hasParameter (written : String) : Bool :=
  (Lexeme.scan written.toList).any (·.token matches .parameter _)

/-- What is defined in a store refers to no other one, unless the store is the temporary one. -/
def checkReferences (st : Store) (kind : String) (name : Name) (depth : Nat) (nodes : List Node) :
    Except Fault Unit := do
  if !st.isTemporary then
    for n in nodes.flatMap (Node.all depth) do
      if let some { database := some d, .. } := n.sourceName? then
        if !sameName d.text st.name then throw (.crossReference kind name.written d.text)

/-- Creates a view. -/
def createView (head : CreationHead) (columns : List Name) (q : Query) (written : String)
    (db : Database) : Except Fault Database := do
  if hasParameter written then throw .parametersInView
  let store ← newStore db head
  if !(← isFree db store head) then return db
  let name := head.name.name
  checkReferences (db.store store) "view" name (written.length + 1) [.query q]
  return db.modifyStore store fun st =>
    let t : StoredTable := { name := name.text, kind := .view columns q }
    let new := { st with tables := st.tables ++ [t], version := st.version + 1 }
    new.addEntry "view" name.text name.text 0 (some ("CREATE VIEW " ++ written))

/-- The store in which a new trigger is to be: that of its table, if that is the temporary one. -/
def triggerStore (db : Database) (head : CreationHead) (table : ObjectName) :
    Except Fault String :=
  match head.name.database with
  | some n =>
    if head.isTemporary then .error .temporaryTriggerQualified
    else match db.store? n.text with
      | some s => .ok s.name
      | none => .error (.unknownDatabase n.written)
  | none =>
    let found := (db.find? (table.database.map (·.text)) table.name.text).map Prod.fst
    if head.isTemporary || found.any fun s => (db.store s).isTemporary then .ok "temp"
    else .ok "main"

/-- The table of a new trigger, with its store. -/
def triggeringTable (db : Database) (store : String) (name : Name) (table : ObjectName) :
    Except Fault (String × StoredTable) := do
  let isTemporary := (db.store store).isTemporary
  if let some d := table.database then
    if !isTemporary && !sameName d.text store then
      throw (.crossReference "trigger" name.written d.text)
  let within := if isTemporary then table.database.map (·.text) else some store
  let found := db.find? within table.name.text <|>
    (moduleTable? table.name.text).map (store, ·)
  match found with
  | some found => return found
  | none => throw (.noSuchTable (within.toList ++ [table.name.text]))

/-- A table can have a trigger that acts at some time. -/
def checkTriggerTime (t : StoredTable) (head : TriggerHead) : Except Fault Unit := do
  let name := head.table.name.text
  match t.isView, head.time with
  | true, .before => throw (.triggerOnView "BEFORE" name)
  | true, .after => throw (.triggerOnView "AFTER" name)
  | false, .instead => throw (.triggerOnTable name)
  | _, _ => return ()

/-- Creates a trigger. -/
def createTrigger (head : CreationHead) (trigger : TriggerHead)
    (steps : Except Fault (List TriggerStep)) (written : String) (db : Database) :
    Except Fault Database := do
  let name := head.name.name
  let store ← triggerStore db head trigger.table
  let (tableStore, t) ← triggeringTable db store name trigger.table
  if t.isModule then throw .triggerOnVirtualTable
  if db.isReserved name.text then throw (.reservedName name.text)
  let st := db.store store
  if (st.trigger? name.text).isSome then
    if !head.ifMissing then throw (.triggerExists name.written)
    discard steps
    return db
  if isInternalName t.name then throw .triggerOnSystemTable
  checkTriggerTime t trigger
  let steps ← steps
  if hasParameter written then throw .parametersInTrigger
  let nodes := steps.flatMap TriggerStep.nodes ++ trigger.condition.toList.map Node.expression
  checkReferences st "trigger" name (written.length + 1) nodes
  return db.modifyStore store fun st =>
    let g : StoredTrigger := {
      name := name.text, head := trigger, steps := steps, table := t.name,
      tableStore := tableStore }
    let new := { st with triggers := g :: st.triggers, version := st.version + 1 }
    new.addEntry "trigger" name.text trigger.table.name.text 0 (some ("CREATE TRIGGER " ++ written))

end SchemaEvolution.Database.Schema
