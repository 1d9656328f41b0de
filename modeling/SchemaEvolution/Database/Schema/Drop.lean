import SchemaEvolution.Database.Modification.Update
import SchemaEvolution.Database.Schema.Trace
import SchemaEvolution.Database.Statistics

/-!
# Dropping tables, indexes, views and triggers

What is dropped goes from the catalog, and with a table its indexes and triggers do.  The rows of a
table are deleted first, if foreign keys refer to them: these must not be broken.

* `Schema.dropTable`, `dropView`, `dropIndex` and `dropTrigger` do so.
-/

namespace SchemaEvolution.Database.Schema

open Binding Modification

/-! ## Tables and views -/

/-- The table may not be dropped. -/
def isProtected (t : StoredTable) : Bool :=
  let isKept (name : String) : Bool := name.toList.isPrefixOf (foldName t.name).toList
  t.isModule ||
    isInternalName t.name && !isKept "sqlite_stat" && !isKept "sqlite_parameters"

/-- The table or view that is to be dropped. -/
def toDrop (db : Database) (n : ObjectName) (isView : Bool) :
    Except Fault (String × StoredTable) := do
  let missing : Fault := if isView then .noSuchView n.path else .noSuchTable n.path
  match db.locate? n with
  | none => throw missing
  | some (store, t) =>
    if isProtected t then throw (.protectedTable t.name "dropped")
    if isView && !t.isView then throw (.useDrop "TABLE" t.name)
    if !isView && t.isView then throw (.useDrop "VIEW" t.name)
    return (store, t)

/-- The rows of a table must be deleted before it is dropped. -/
def needsDeletion (db : Database) (store : String) (t : StoredTable) : Bool :=
  db.isOn .foreignKeys && t.isStored &&
    (!(keysTo db store t).isEmpty ||
      (db.violations != 0 || db.leniences != 0) && t.foreignKeys.any fun key =>
        key.isDeferred || db.isOn .deferredKeys)

/-- Deletes the rows of a table that is to be dropped. -/
def deleteRows (inner : Binder) (db : Database) (n : ObjectName) : Except Stop Database := do
  let site : Site := { context := { database := db }, allowsTriggers := false }
  let run ← (Bind.result { database := db }
    (deletion (Modification.level inner mostLevels) inner site { table := n })).mapError Stop.abort
  let (result, work) := (run []).run.run { database := db }
  result
  if (work.broken != 0 || work.database.leniences != 0) && !db.isOn .deferredKeys then
    throw (.abort (.violation .foreignKey))
  return work.counted

/-- The store without a table, its indexes, and all that is listed with it. -/
def withoutTable (st : Store) (t : StoredTable) : Store :=
  { st with
    entries := st.entries.filter fun e => e.table != t.name || e.kind == "trigger"
    tables := st.tables.filter fun other => !sameName other.name t.name
    indexes := st.indexes.filter fun i => !sameName i.table t.name
    version := st.version + 1 }

/-- The store without the triggers on a table. -/
def withoutTriggers (tableStore : String) (t : StoredTable) (st : Store) : Store :=
  let isOn (g : StoredTrigger) : Bool := sameName g.table t.name && sameName g.tableStore tableStore
  let dropped := (st.triggers.filter isOn).map (·.name)
  { st with
    triggers := st.triggers.filter (!isOn ·)
    entries := st.entries.filter fun e => !(e.kind == "trigger" && dropped.contains e.name) }

/-- The store without the greatest number that a table has used. -/
def withoutNumber (t : StoredTable) (st : Store) : Store :=
  if !t.autoincrement then st
  else match st.table? sequenceTable with
    | some sequence => st.setRows sequenceTable
      (sequence.rows.filter fun row => row.cells.head? != some (.text t.name))
    | none => st

/-- The database without a table or view. -/
def remove (db : Database) (store : String) (t : StoredTable) : Database :=
  let db := { db with stores := db.stores.map (withoutTriggers store t) }
  db.modifyStore store fun st =>
    withoutTable (Statistics.withoutNotes (.table t.name) (withoutNumber t st)) t

/-- Drops a table. -/
def dropTable (inner : Binder) (n : ObjectName) (ifExists : Bool) (db : Database) :
    Except Stop Database := do
  if ifExists && (db.locate? n).isNone then return db
  let (store, t) ← (toDrop db n false).mapError Stop.abort
  let emptied ← if needsDeletion db store t then deleteRows inner db n else pure db
  return remove emptied store t

/-- Drops a view. -/
def dropView (n : ObjectName) (ifExists : Bool) (db : Database) : Except Fault Database := do
  if ifExists && (db.locate? n).isNone then return db
  let (store, t) ← toDrop db n true
  return remove db store t

/-! ## Indexes and triggers -/

/-- The stores that a name can lead to, in the order in which they are looked at. -/
def storesOf (db : Database) (n : ObjectName) : List Store :=
  match n.database with
  | some d => (db.store? d.text).toList
  | none => db.searched

/-- Drops an index. -/
def dropIndex (n : ObjectName) (ifExists : Bool) (db : Database) : Except Fault Database := do
  match (storesOf db n).findSome? fun s => (s.index? n.name.text).map (s, ·) with
  | none => if ifExists then return db else throw (.noSuchIndex n.path)
  | some (s, i) =>
    if i.origin != .statement then throw .constraintIndex
    return db.modifyStore s.name fun st =>
      let st := Statistics.withoutNotes (.index i.table i.name) st
      { st with
        indexes := st.indexes.filter (·.name != i.name)
        entries := st.entries.filter fun e => !(e.kind == "index" && e.name == i.name)
        version := st.version + 1 }

/-- Drops a trigger. -/
def dropTrigger (n : ObjectName) (ifExists : Bool) (db : Database) : Except Fault Database := do
  match (storesOf db n).findSome? fun s => (s.trigger? n.name.text).map (s, ·) with
  | none => if ifExists then return db else throw (.noSuchTrigger n.path)
  | some (s, g) =>
    return db.modifyStore s.name fun st => { st with
      triggers := st.triggers.filter (·.name != g.name)
      entries := st.entries.filter fun e => !(e.kind == "trigger" && e.name == g.name)
      version := st.version + 1 }

end SchemaEvolution.Database.Schema
