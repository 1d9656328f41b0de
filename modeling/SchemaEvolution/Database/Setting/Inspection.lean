import SchemaEvolution.Database.Binding.Table
import SchemaEvolution.Database.Binding.View
import SchemaEvolution.Database.Link
import SchemaEvolution.Database.Release
import SchemaEvolution.Database.Setting.Basic

/-!
# What is known of tables

Some settings only tell something: about the columns of a table, its indexes and foreign keys, or
about all that there is.

* `Setting.ofTables` lists those about tables and indexes.
* `Setting.ofLists` lists those about everything.
-/

namespace SchemaEvolution.Database.Setting

open Binding

/-! ## Tables and columns -/

/-- The columns of the tables that modules compute, by the names of the tables; some are hidden. -/
abbrev ModuleColumns := String → Option (List (String × Bool))

/-- The table that a statement is about, with its store. -/
def table? (modules : ModuleColumns) (i : Inquiry) (db : Database) :
    Option (String × StoredTable) := do
  let name ← i.argument
  let ofModule : Option (String × StoredTable) := (modules name).map fun columns =>
    ("main", {
      name := name, kind := .module
      columns := columns.map fun (n, isHidden) => { name := n, isHidden := isHidden } })
  db.find? i.store name <|> ofModule

/-- The columns of a table or view. -/
def columnsOf (inner : Binder) (db : Database) (store : String) (t : StoredTable) :
    Except Fault (List StoredColumn) :=
  Bind.result { database := db } (viewColumns inner { database := db } store t)

/-- The text by which a default is shown. -/
def shownDefault (c : StoredColumn) : Cell :=
  match c.default with
  | some d => .text d.written
  | none => .null

/-- The places of the key of a table, in the order of the key. -/
def keyPlaces (db : Database) (store : String) (t : StoredTable) : List Nat :=
  match t.numberColumn with
  | some i => [i]
  | none =>
    match ((db.store store).keyIndex? t) with
    | some index => index.terms.filterMap (·.column)
    | none => []

/-- A column as the information about a table shows it. -/
def columnRow (keys : List Nat) (c : StoredColumn) (number place : Nat) : List Cell :=
  let keyPlace := match keys.findIdx? (· = place) with
    | some n => n + 1
    | none => 0
  [.ofNat number, .text c.name, .text c.sqlType, .ofBool c.notNull.isSome, shownDefault c,
    .ofNat keyPlace]

/-- How a column is hidden: it is computed, and stored or not. -/
def hiddenness (c : StoredColumn) : Nat :=
  match c.generation with
  | some g => if g.isStored then 3 else 2
  | none => if c.isHidden then 1 else 0

/-- The columns of a table: all of them with how they are hidden, or those that are not. -/
def tableInfo (isWhole : Bool) (modules : ModuleColumns) (inner : Binder) (i : Inquiry)
    (db : Database) : Except Fault (List (List Cell)) := do
  match table? modules i db with
  | none => return []
  | some (store, t) =>
    let columns := (← columnsOf inner db store t).zipIdx
    let keys := keyPlaces db store t
    if isWhole then
      return columns.map fun (c, n) => columnRow keys c n n ++ [.ofNat (hiddenness c)]
    let shown := columns.filter fun (c, _) => hiddenness c = 0
    return shown.zipIdx.map fun ((c, place), n) => columnRow keys c n place

/-- What a table is called where tables are listed. -/
def kindWord (t : StoredTable) : String :=
  if t.isView then "view" else if t.isModule then "virtual" else "table"

/-- The name under which a table is listed. -/
def listedName (t : StoredTable) : String :=
  if t.name == "sqlite_master" then "sqlite_schema"
  else if t.name == "sqlite_temp_master" then "sqlite_temp_schema"
  else t.name

/-- The tables of all stores, or of one. -/
def tableList (inner : Binder) (i : Inquiry) (db : Database) : List (List Cell) :=
  let stores := db.stores.filter fun s => i.store.all (sameName s.name)
  stores.flatMap fun s =>
    let tables := s.listed.filter fun t => i.argument.all (sameName t.name)
    tables.map fun t =>
      let width := ((columnsOf inner db s.name t).toOption.getD []).length
      [.text s.name, .text (listedName t), .text (kindWord t), .ofNat width,
        .ofBool !t.hasNumbers, .ofBool t.isStrict]

/-! ## Indexes -/

/-- The letter for what an index is there for. -/
def originLetter : IndexOrigin → String
  | .statement => "c"
  | .unique => "u"
  | .key => "pk"

/-- The indexes on a table. -/
def indexList (i : Inquiry) (db : Database) : List (List Cell) :=
  match table? (fun _ => none) i db with
  | none => []
  | some (store, t) =>
    ((db.store store).indexesOn t.name).zipIdx.map fun (index, n) =>
      [.ofNat n, .text index.name, .ofBool index.isUnique, .text (originLetter index.origin),
        .ofBool index.condition.isSome]

/-- The index that a statement is about, with its table and the store; the key of a table whose rows
have no numbers goes by the name of the table as well. -/
def index? (i : Inquiry) (db : Database) : Option (Store × StoredTable × StoredIndex) := do
  let name ← i.argument
  let stores := match i.store with
    | some s => (db.store? s).toList
    | none => db.searched
  let named := stores.findSome? fun s => do
    let index ← s.index? name
    return (s, ← s.table? index.table, index)
  let ofTable : Option (Store × StoredTable × StoredIndex) := do
    let (store, t) ← db.find? i.store name
    guard (!t.hasNumbers)
    return (db.store store, t, ← (db.store store).keyIndex? t)
  named <|> ofTable

/-- The number of the column of a term of an index. -/
def columnNumber (term : IndexTerm) : Cell :=
  match term.column with
  | some i => .ofNat i
  | none => .integer (-2)

/-- The name of the column of a term of an index. -/
def columnName (t : StoredTable) (term : IndexTerm) : Cell :=
  match term.column with
  | some i => .text (t.column i).name
  | none => .null

/-- The terms of an index. -/
def indexInfo (i : Inquiry) (db : Database) : List (List Cell) :=
  match index? i db with
  | none => []
  | some (_, t, index) =>
    index.terms.zipIdx.map fun (term, n) => [.ofNat n, columnNumber term, columnName t term]

/-- The columns that an index holds beside its terms, each with its collation. -/
def furtherColumns (s : Store) (t : StoredTable) (index : StoredIndex) :
    List (Nat × Collation) :=
  let own := index.terms.filterMap (·.column)
  if index.origin = .key then
    ((List.range t.columns.length).filter fun c => !own.contains c).map fun c => (c, .binary)
  else
    let terms := ((s.keyIndex? t).map (·.terms)).getD []
    terms.filterMap fun k =>
      match k.column with
      | some c => if own.contains c then none else some (c, k.collation)
      | none => none

/-- All that an index holds: its terms, and what leads from it to the rows. -/
def indexColumns (i : Inquiry) (db : Database) : List (List Cell) :=
  match index? i db with
  | none => []
  | some (s, t, index) =>
    let own := index.terms.zipIdx.map fun (term, n) =>
      [.ofNat n, columnNumber term, columnName t term, .ofBool term.descending,
        .text term.collation.name, .ofNat 1]
    let further :=
      if t.hasNumbers then [[.ofNat own.length, .integer (-1), .null, .ofNat 0, .text "BINARY",
        .ofNat 0]]
      else (furtherColumns s t index).zipIdx.map fun ((c, collation), n) =>
        [.ofNat (own.length + n), .ofNat c, .text (t.column c).name, .ofNat 0,
          .text collation.name, .ofNat 0]
    own ++ further

/-! ## Foreign keys -/

/-- The words for what happens to a foreign key. -/
def actionWords : KeyAction → String
  | .noAction => "NO ACTION"
  | .restrict => "RESTRICT"
  | .cascade => "CASCADE"
  | .setNull => "SET NULL"
  | .setDefault => "SET DEFAULT"

/-- The foreign keys of a table. -/
def foreignKeyList (i : Inquiry) (db : Database) : List (List Cell) :=
  match table? (fun _ => none) i db with
  | none => []
  | some (_, t) =>
    t.foreignKeys.zipIdx.flatMap fun (k, n) =>
      k.columns.zipIdx.map fun ((place, target), j) =>
        [.ofNat n, .ofNat j, .text k.table, .text (t.column place).name,
          (target.map Cell.text).getD .null, .text (actionWords k.onUpdate),
          .text (actionWords k.onDelete), .text "NONE"]

/-! ## Everything -/

/-- The stores of a session. -/
def databaseList (db : Database) : List (List Cell) :=
  let shown := db.stores.zipIdx.filter fun (s, _) => s.tuning.isOpen
  shown.map fun (s, i) => [.ofNat i, .text s.name, .text ""]

/-- Names with their numbers. -/
def numbered (names : List String) : List (List Cell) :=
  names.zipIdx.map fun (name, i) => [.ofNat i, .text name]

/-! ## Settings -/

/-- A setting that tells something about what its argument names. -/
def about (name : String) (columns : List String)
    (rows : Binder → Inquiry → Database → Except Fault (List (List Cell))) : Setting where
  name := name
  columns := columns
  takesArgument := true
  takesStore := true
  needsDefinitions := true
  ask := fun inner i db => do return (← rows inner i db, db)

/-- The columns of the information about a table. -/
def infoColumns : List String :=
  ["cid", "name", "type", "notnull", "dflt_value", "pk"]

/-- The settings that tell something about a table or an index. -/
def ofTables (modules : ModuleColumns) : List Setting := [
  about "table_info" infoColumns (tableInfo false modules),
  about "table_xinfo" (infoColumns ++ ["hidden"]) (tableInfo true modules),
  { about "table_list" ["schema", "name", "type", "ncol", "wr", "strict"]
      (fun inner i db => .ok (tableList inner i db)) with takesStore := false },
  about "index_list" ["seq", "name", "unique", "origin", "partial"] fun _ i db =>
    .ok (indexList i db),
  about "index_info" ["seqno", "cid", "name"] fun _ i db => .ok (indexInfo i db),
  about "index_xinfo" ["seqno", "cid", "name", "desc", "coll", "key"] fun _ i db =>
    .ok (indexColumns i db),
  about "foreign_key_list"
    ["id", "seq", "table", "from", "to", "on_update", "on_delete", "match"] fun _ i db =>
      .ok (foreignKeyList i db),
  about "foreign_key_check" ["table", "rowid", "parent", "fkid"] fun _ i db =>
    unlinkedRows db i.argument i.store]

/-- The settings that list something. -/
def ofLists : List Setting := [
  computed "database_list" ["seq", "name", "file"] fun _ db => .ok (databaseList db),
  computed "collation_list" ["seq", "name"] fun _ _ => .ok (numbered ["RTRIM", "NOCASE", "BINARY"]),
  computed "module_list" ["name"] fun _ _ => .ok <|
    ["json_tree", "json_each", "fts4aux", "fts3", "fts4", "fts3tokenize", "fts5vocab", "rtree_i32",
      "fts5", "rtree", "dbstat"].map fun name => [.text name],
  computed "compile_options" ["compile_options"] fun _ _ => .ok <|
    Release.options.map fun o => [.text o],
  computed "function_list" ["name", "builtin", "type", "enc", "narg", "flags"] fun _ _ => .ok []]

end SchemaEvolution.Database.Setting
