import SchemaEvolution.Database.Store
import SchemaEvolution.Database.Switch
import SchemaEvolution.Text.Encoding

/-!
# The state of a database

A `Database` has a main store, a temporary one, and those that are attached.  Beside them it keeps
what a rollback would restore, the settings of the session, and what the session can ask about the
statement before.
-/

namespace SchemaEvolution

namespace Database

/-- The settings of a session. -/
structure Settings where
  /-- What is on. -/
  switches : List Switch := Switch.initial
  encoding : Encoding := .utf8
  /-- Something has been defined, so that the encoding stays. -/
  isEncodingFixed : Bool := false
  /-- Where temporary tables are kept. -/
  temporaryPlace : Nat := 0
  analysisLimit : Nat := 0
  /-- How long a statement waits for others. -/
  patience : Nat := 5000
  threads : Nat := 0
  softLimit : Int := 0
  hardLimit : Int := 0
  /-- After how many pages a log is written back. -/
  logLength : Nat := 1000
  /-- Stores that are attached are kept from others. -/
  isExclusive : Bool := false
  /-- What becomes of free pages once a store is written anew. -/
  nextReclaims : Option Nat := none

namespace Settings

/-- A switch is on. -/
def has (s : Settings) (w : Switch) : Bool :=
  s.switches.contains w

/-- The settings with a switch turned. -/
def turned (w : Switch) (isOn : Bool) (s : Settings) : Settings :=
  let others := s.switches.filter (· != w)
  { s with switches := if isOn then w :: others else others }

end Settings

/-- A place within a transaction to which it can go back. -/
structure Savepoint where
  name : String
  stores : List Store
  /-- How many foreign keys were left to be checked, and how many of them only by a setting. -/
  violations : Int
  leniences : Int

end Database

/-- Tables, and all that a session on them knows. -/
structure Database where
  /-- The main store, the temporary one, and those that are attached. -/
  stores : List Database.Store := [{ name := "main" }, { name := "temp", tuning := .temporary }]
  settings : Database.Settings := {}
  /-- The stores at the beginning of the transaction, if one is open. -/
  saved : Option (List Database.Store) := none
  /-- The savepoints, the latest first. -/
  savepoints : List Database.Savepoint := []
  /-- The transaction was opened by its first savepoint, and ends with that. -/
  isOpenedBySavepoint : Bool := false
  /-- How many foreign keys, left to be checked at the end of the transaction, refer to nothing. -/
  violations : Int := 0
  /-- How many of other foreign keys were left to be checked then by a setting. -/
  leniences : Int := 0
  /-- The definitions have been read. -/
  hasRead : Bool := false
  /-- The number of the row that was inserted last. -/
  lastNumber : Int64 := 0
  /-- How many rows the last statement changed, and all statements together. -/
  changes : Nat := 0
  totalChanges : Nat := 0
  /-- How many transactions are open one within the other, as the session counts them. -/
  depth : Nat := 0
  /-- The time, in milliseconds since 1970. -/
  now : Int := 1735689600000

instance : Inhabited Database := ⟨{}⟩

namespace Database

/-! ## Looking up -/

/-- The store of a name. -/
def store? (db : Database) (name : String) : Option Store :=
  db.stores.find? fun s => sameName name s.name

/-- The store of a name, or an empty one. -/
def store (db : Database) (name : String) : Store :=
  (db.store? name).getD { name := name }

/-- The stores in the order in which names are looked up: the temporary one comes first. -/
def searched (db : Database) : List Store :=
  db.stores.filter (·.isTemporary) ++ db.stores.filter (!·.isTemporary)

/-- The table of a name in a store, or in the first store that has it, with the store's name. -/
def find? (db : Database) (store : Option String) (name : String) :
    Option (String × StoredTable) :=
  match store with
  | some s => do
    let s ← db.store? s
    return (s.name, ← s.tableOrCatalog? name)
  | none =>
    let found := db.searched.findSome? fun s => (s.table? name).map (s.name, ·)
    let asCatalog (store other : String) : Option (String × StoredTable) :=
      if sameName name other then some (store, (db.store store).catalog) else none
    found <|> asCatalog "main" "sqlite_schema" <|> asCatalog "temp" "sqlite_temp_schema"

/-- The modules that have a table of their own name. -/
def moduleNames : List String :=
  ["json_each", "json_tree", "dbstat"]

/-- The settings that have a table, of their name behind `pragma_`. -/
def tableSettings : List String :=
  Switch.named.map Prod.fst ++ [
    "analysis_limit", "application_id", "auto_vacuum", "busy_timeout", "cache_size", "cache_spill",
    "collation_list", "compile_options", "data_version", "database_list", "default_cache_size",
    "encoding", "foreign_key_check", "foreign_key_list", "freelist_count", "function_list",
    "hard_heap_limit", "index_info", "index_list", "index_xinfo", "integrity_check",
    "journal_mode", "journal_size_limit", "locking_mode", "max_page_count", "module_list",
    "optimize", "page_count", "page_size", "pragma_list", "quick_check", "schema_version",
    "secure_delete", "soft_heap_limit", "synchronous", "table_info", "table_list", "table_xinfo",
    "temp_store", "threads", "user_version"]

/-- The table that a module computes, if a name is that of a module. -/
def moduleTable? (name : String) : Option StoredTable :=
  let isSetting := tableSettings.any fun n => sameName name ("pragma_" ++ n)
  if moduleNames.any (sameName name) || isSetting then
    some { name := foldName name, kind := .module }
  else none

/-- The table of a name, or that of a module. -/
def locate? (db : Database) (n : ObjectName) : Option (String × StoredTable) :=
  db.find? (n.database.map (·.text)) n.name.text <|>
    (moduleTable? n.name.text).map fun t => ("main", t)

/-- The table of a name, which must be there. -/
def locate (db : Database) (n : ObjectName) : Except Fault (String × StoredTable) :=
  match db.locate? n with
  | some found => .ok found
  | none => .error (.noSuchTable n.path)

/-- A switch of the session is on. -/
def isOn (db : Database) (w : Switch) : Bool :=
  db.settings.has w

/-- A name is kept from statements. -/
def isReserved (db : Database) (name : String) : Bool :=
  isInternalName name && !db.isOn .writableCatalog

/-- A transaction is open. -/
def isInTransaction (db : Database) : Bool :=
  db.saved.isSome

/-! ## Changing -/

/-- The database with a store changed. -/
def modifyStore (db : Database) (name : String) (change : Store → Store) : Database :=
  { db with stores := db.stores.map fun s => if sameName s.name name then change s else s }

/-- The database with the rows of a table changed. -/
def setRows (db : Database) (store table : String) (rows : List StoredRow) : Database :=
  db.modifyStore store fun s => s.setRows table rows

/-- What a query can find out about a database: its definitions and its rows. -/
def contents (db : Database) : List (String × List CatalogEntry × List (List StoredRow)) :=
  db.stores.map fun s => (s.name, s.entries, s.tables.map (·.rows))

end Database

end SchemaEvolution
