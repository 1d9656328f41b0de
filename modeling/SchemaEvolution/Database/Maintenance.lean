import SchemaEvolution.Database.Schema.Drop

/-!
# Maintenance

Statements about whole stores: they are written anew, given orders again, attached and detached.

* `Maintenance.vacuum` puts the catalog of a store in order.
* `Maintenance.reindex` only looks at what it is about, and `analyze` notes statistics about it.
* `Maintenance.attach` and `detach` add and remove stores.
-/

namespace SchemaEvolution.Database.Maintenance

open Binding

/-! ## Order in the catalog -/

/-- The entries of a table, followed by those of the indexes of its constraints. -/
def groupOf (all : List CatalogEntry) (e : CatalogEntry) : List CatalogEntry :=
  e :: all.filter fun i => i.kind == "index" && i.sql.isNone && i.table == e.name

/-- Entries in order: tables, indexes, and then what has no page. -/
def inOrder (entries : List CatalogEntry) : List CatalogEntry :=
  let tables := entries.filter (·.kind == "table")
  let indexes := entries.filter fun e => e.kind == "index" && e.sql.isSome
  let others := entries.filter fun e => e.kind != "table" && e.kind != "index"
  tables.flatMap (groupOf entries) ++ indexes ++ others

/-- The store with the rows of its tables numbered from one on, but for tables in which a column
shows the numbers or an index refers to them. -/
def renumbered (st : Store) : Store :=
  let isFree (t : StoredTable) : Bool :=
    t.isStored && t.hasNumbers && t.numberColumn.isNone && (st.indexesOn t.name).isEmpty
  (st.tables.filter isFree).foldl (fun st t =>
    let rows := t.rows.zipIdx.map fun (row, i) => { row with number := Int64.ofNat (i + 1) }
    st.setRows t.name rows) st

/-- The store with its catalog in order, and without free pages.  What becomes of those that there
will be, is as it was asked for. -/
def compacted (reclaims : Option Nat) (st : Store) : Store :=
  let st := { st with
    entries := inOrder st.entries, isWritten := true
    tuning := { st.tuning with reclaims := reclaims.getD st.tuning.reclaims } }
  let number (i : Nat) : Nat :=
    if st.isReclaiming then trackedCount st.tuning.pageSize (i + 1) else i + 2
  let page (old : Nat) : Nat := ((st.roots.findIdx? (· = old)).map number).getD old
  let moved := st.withRoots page
  Store.withPages { moved with
    entries := moved.entries.zipIdx.map fun (e, i) => { e with number := Int64.ofNat (i + 1) }
    pageCount := if st.isReclaiming then 1 else st.roots.length + 1
    freePages := []
    trees := [] }

/-- The number of the last row that is written when a catalog is written anew: what has no page is
copied at the end, as rows are. -/
def lastCopied? (st : Store) : Option Int64 :=
  if st.entries.any fun e => e.kind != "table" && e.kind != "index" then
    some (Int64.ofNat st.entries.length)
  else none

/-- Writes a store anew. -/
def vacuum (name : Option Name) (isCopy : Bool) (db : Database) : Except Fault Database := do
  let store ← match name with
    | none => pure "main"
    | some n =>
      match db.store? n.text with
      | some s => pure s.name
      | none => throw (.unknownDatabase n.written)
  if (db.store store).isTemporary then return db
  if db.isInTransaction then throw .vacuumInTransaction
  let copied := { db with lastNumber := (lastCopied? (db.store store)).getD db.lastNumber }
  if isCopy then return copied
  return copied.modifyStore store fun st => compacted db.settings.nextReclaims (renumbered st)

/-! ## Looking at tables and indexes -/

/-- There is a table or index of a name. -/
def isIndexed (db : Database) (n : ObjectName) : Bool :=
  (db.locate? n).isSome || (Schema.storesOf db n).any fun s => (s.index? n.name.text).isSome

/-- Orders everything anew that a name is about. -/
def reindex (name : Option ObjectName) (db : Database) : Except Fault Database := do
  if let some n := name then
    let isCollation := n.database.isNone && (Collation.ofName? n.name.text).isSome
    if !isCollation && !isIndexed db n then throw .nothingToReindex
  return db

/-- Notes statistics about everything that a name is about, or about all but temporary tables. -/
def analyze (inner : Binder) (name : Option ObjectName) (db : Database) :
    Except Stop Database := do
  let noted := Statistics.analyzed inner db.settings.analysisLimit
  match name with
  | none =>
    let stores := (db.stores.filter (!·.isTemporary)).map (·.name)
    stores.foldlM (fun db store => noted store .store db) db
  | some n =>
    if let (none, some st) := (n.database, db.store? n.name.text) then
      return ← noted st.name .store db
    let indexed := (Schema.storesOf db n).findSome? fun st =>
      (st.index? n.name.text).map fun i => (st.name, i)
    match indexed, db.locate? n with
    | some (store, i), _ => noted store (.index i.table i.name) db
    | none, some (store, t) => noted store (.table t.name) db
    | none, none => throw (.abort (.noSuchTable n.path))

/-! ## Attached stores -/

/-- How many stores can be attached. -/
def mostAttached : Nat := 10

/-- The text that an argument gives; a name stands for itself. -/
def argument (inner : Binder) (db : Database) (e : Expression) : Except Stop String := do
  match e with
  | .name [n] => return n.text
  | e =>
    let m ← (Bind.result { database := db } (inner.one { database := db } e)).mapError Stop.abort
    return (← m.value { database := db }).string

/-- Attaches an empty store. -/
def attach (inner : Binder) (file name : Expression) (db : Database) : Except Stop Database := do
  discard (argument inner db file)
  let name ← argument inner db name
  if mostAttached + 2 ≤ db.stores.length then throw (.abort .tooManyAttached)
  if (db.store? name).isSome then throw (.abort (.databaseInUse name))
  return { db with stores := db.stores ++ [{ name := name }] }

/-- Detaches a store. -/
def detach (inner : Binder) (name : Expression) (db : Database) : Except Stop Database := do
  let name ← argument inner db name
  match db.store? name with
  | none => throw (.abort (.noSuchDatabase name))
  | some s =>
    if s.name == "main" || s.isTemporary then throw (.abort (.cannotDetach name))
    return { db with stores := db.stores.filter (·.name != s.name) }

end SchemaEvolution.Database.Maintenance
