import SchemaEvolution.Database.Binding.Query
import SchemaEvolution.Database.Grammar.Command
import SchemaEvolution.Database.Schema.Definition

/-!
# Reading the catalog

The catalog of a store keeps the text of each definition.  What the texts mean is found by reading
them again, which is done whenever texts have been changed.  The rows of a table stay, as its page
says which they are.

* `Schema.define` adds what one entry defines.
* `Schema.reload` reads all catalogs again, and `Schema.refreshed` those that are to be.
-/

namespace SchemaEvolution.Database.Schema

open Binding

/-! ## Definitions -/

/-- The command that a text is. -/
def commandOf (sql : String) : Except Fault Command :=
  (·.command) <$> Grammar.command (Lexeme.scan sql.toList)

/-- The first of the terms of an index that cannot be met counts before its condition. -/
def indexTerms (s : Surroundings) (t : StoredTable) (terms : List OrderTerm)
    (condition : Option Expression) : Except Fault (List IndexTerm × List BindState) := do
  let first := (terms.head?.map (Draft.indexTerm s t)).map discard
  let noted ← match condition.mapM (s.meaning t .indexCondition) with
    | .ok found => pure (found.map Prod.snd)
    | .error fault =>
      match first with
      | some (.error other) => throw other
      | _ => throw fault
  let found ← terms.mapM (Draft.indexTerm s t)
  return (found.map Prod.fst, found.map Prod.snd ++ noted.toList)

/-- The index that a statement describes. -/
def indexOf (s : Surroundings) (t : StoredTable) (name : String) (isUnique : Bool)
    (terms : List OrderTerm) (condition : Option Expression) : Except Fault StoredIndex := do
  Draft.checkNulls terms
  Draft.checkCount terms
  let (terms, _) ← indexTerms s t terms condition
  return { name := name, table := t.name, terms := terms, isUnique := isUnique,
           condition := condition }

/-- The store that holds the table of a trigger. -/
def triggerTable? (db : Database) (store : String) (head : TriggerHead) :
    Option (String × StoredTable) :=
  let isTemporary := (db.store store).isTemporary
  let within := (head.table.database.map (·.text)) <|> if isTemporary then none else some store
  db.find? within head.table.name.text

/-! ## Entries -/

/-- The store with a table on a page, and the indexes that its constraints need. -/
def addTable (st : Store) (d : Draft) (page : Nat) (rows : List StoredRow) : Store :=
  let isMain (i : StoredIndex) : Bool := decide (i.origin = .key) && !d.table.hasNumbers
  { st with
    tables := st.tables ++ [{ d.table with page := page, rows := rows }]
    indexes := (d.indexes.map fun i => if isMain i then { i with page := page } else i) ++
      st.indexes }

/-- The store with an index on a page. -/
def withIndexPage (st : Store) (name : String) (page : Nat) : Store :=
  { st with
    indexes := st.indexes.map fun i => if i.name == name then { i with page := page } else i }

/-- The rows on a page. -/
def rowsOn (st : Store) (page : Nat) : List StoredRow :=
  ((st.tables.find? fun t => t.isStored && t.page == page).map (·.rows)).getD []

/-- The store with what an entry of its catalog defines; the rows are those of another store. -/
def define (s : Surroundings) (old st : Store) (e : CatalogEntry) : Except Fault Store := do
  match e.sql with
  | none => return withIndexPage st e.name e.page
  | some sql =>
    match ← commandOf sql with
    | .createTable head ds fault _ =>
      let d ← Draft.ofDeclarations s head.name.name.text ds fault
      return addTable st d e.page (rowsOn old e.page)
    | .createView head columns q _ =>
      let t : StoredTable := { name := head.name.name.text, kind := .view columns q }
      return { st with tables := st.tables ++ [t] }
    | .createIndex head isUnique table terms condition _ =>
      match st.table? table.text with
      | none => throw (.noSuchTable [st.name, table.text])
      | some t =>
        let i ← indexOf s t head.name.name.text isUnique terms condition
        return { st with indexes := { i with page := e.page } :: st.indexes }
    | .createTrigger head trigger steps _ =>
      let db := s.database.modifyStore st.name fun _ => st
      match triggerTable? db st.name trigger with
      | none => if st.isTemporary then return st else throw (.noSuchTable trigger.table.path)
      | some (store, t) =>
        let g : StoredTrigger := {
          name := head.name.name.text, head := trigger, steps := ← steps, table := t.name
          tableStore := store }
        return { st with triggers := g :: st.triggers }
    | _ => throw (.malformedSchema e.name none)

/-- The database with a store that holds all that its catalog defines; a fault is told by a function
of the entry that has it. -/
def reread (db : Database) (store : String) (tell : CatalogEntry → Fault → Fault) :
    Except Fault Database := do
  let old := db.store store
  let s : Surroundings := { inner := binder db 0, database := db, store := store }
  let bare := { old with tables := [], indexes := [], triggers := [], isStale := false }
  let new ← old.entries.foldlM (fun st e => (define s old st e).mapError (tell e)) bare
  return db.modifyStore store fun _ => new

/-- The database with the catalog of a store read again; faults say what was changed. -/
def reloadStore (db : Database) (store change : String) : Except Fault Database := do
  let new ← reread db store fun e => .consequence e.kind e.name change
  return new.modifyStore store fun st => { st with version := st.version + 1 }

/-- The database with the catalogs of a store and of the temporary one read again. -/
def reload (db : Database) (store change : String) : Except Fault Database := do
  let db ← reloadStore db store change
  if (db.store store).isTemporary then return db else reloadStore db "temp" change

/-- The fault of an entry that cannot be read, which is not told where the catalog may be changed as
a table. -/
def entryFault (db : Database) (e : CatalogEntry) (fault : Fault) : Fault :=
  if db.isOn .writableCatalog then .malformed
  else
    match fault with
    | .malformedSchema .. => fault
    | fault => .malformedSchema e.name (some fault)

/-- The table with nothing in columns of which its rows know nothing. -/
def filledUp (t : StoredTable) : StoredTable :=
  { t with rows := t.rows.map fun row =>
      { row with
        cells := row.cells ++ List.replicate (t.columns.length - row.cells.length) .null } }

/-- The database with the catalogs read again that are to be. -/
def refreshed (db : Database) : Except Fault Database :=
  (db.stores.filter (·.isStale)).foldlM (fun db st => do
    let new ← reread db st.name (entryFault db)
    return new.modifyStore st.name fun st => { st with tables := st.tables.map filledUp }) db

end SchemaEvolution.Database.Schema
