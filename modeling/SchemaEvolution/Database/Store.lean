import SchemaEvolution.Database.Affinity
import SchemaEvolution.Database.Command
import SchemaEvolution.Database.Directory
import SchemaEvolution.Database.Tuning

/-!
# Stored tables

A `Store` holds tables with their rows, indexes, triggers and views.  All of them are listed in its
catalog, each with the text that made it; what the texts mean is kept beside them.

* `StoredTable` is a table, a view, or a table that a module computes.
* `StoredIndex` is an order of the rows of a table, and may demand that they differ in it.
* `StoredTrigger` is what is done upon a change of rows.
* `CatalogEntry` is a row of the catalog.
-/

namespace SchemaEvolution.Database

/-! ## Tables -/

/-- How a column is computed from others. -/
structure Generation where
  expression : Expression
  /-- The result is kept with the row. -/
  isStored : Bool

/-- What a column holds if nothing is given. -/
structure DefaultValue where
  expression : Expression
  /-- The expression as it is written. -/
  written : String

/-- A column of a table. -/
structure StoredColumn where
  name : String
  sqlType : String := ""
  affinity : Affinity := .blob
  collation : Collation := .binary
  /-- What is done about a missing value, if there must be one. -/
  notNull : Option Conflict := none
  default : Option DefaultValue := none
  generation : Option Generation := none
  /-- It belongs to the key. -/
  inKey : Bool := false
  /-- Its values alone must differ. -/
  isUnique : Bool := false
  /-- It is not among all columns. -/
  isHidden : Bool := false
deriving Inhabited

/-- Columns that refer to the columns of another table. -/
structure ForeignKey where
  /-- The places of the columns, each with the column that it refers to, if that is said. -/
  columns : List (Nat × Option String)
  table : String
  onDelete : KeyAction := .noAction
  onUpdate : KeyAction := .noAction
  /-- It is checked at the end of the transaction. -/
  isDeferred : Bool := false

/-- A condition that all rows fulfil. -/
structure Check where
  /-- The name of the condition, or its text. -/
  name : String
  condition : Expression

/-- A row of a table. -/
structure StoredRow where
  number : Int64
  cells : List Cell
deriving DecidableEq, Inhabited

/-- What gives a table its rows. -/
inductive TableKind where
  /-- The rows are stored. -/
  | stored
  /-- The rows are those of a query. -/
  | view (columns : List Name) (query : Query)
  /-- The rows are computed by a module. -/
  | module

/-- A table. -/
structure StoredTable where
  name : String
  columns : List StoredColumn := []
  kind : TableKind := .stored
  /-- The rows in the order of their numbers. -/
  rows : List StoredRow := []
  /-- The page on which it starts. -/
  page : Nat := 0
  /-- The column that shows the number of a row. -/
  numberColumn : Option Nat := none
  /-- What is done about a number that is there already. -/
  numberConflict : Option Conflict := none
  /-- A number is never used twice. -/
  autoincrement : Bool := false
  /-- Rows have numbers, and are stored in their order; otherwise that of the key counts. -/
  hasNumbers : Bool := true
  /-- Columns take only cells of their types. -/
  isStrict : Bool := false
  checks : List Check := []
  /-- The foreign keys, the newest first. -/
  foreignKeys : List ForeignKey := []

instance : Inhabited StoredTable := ⟨{ name := "" }⟩

namespace StoredTable

/-- The place of a column. -/
def place? (t : StoredTable) (column : String) : Option Nat :=
  t.columns.findIdx? fun c => sameName column c.name

/-- The column at a place. -/
def column (t : StoredTable) (place : Nat) : StoredColumn :=
  t.columns.getD place default

/-- It is a view. -/
def isView (t : StoredTable) : Bool :=
  t.kind matches .view ..

/-- It is computed by a module. -/
def isModule (t : StoredTable) : Bool :=
  t.kind matches .module

/-- Its rows are stored. -/
def isStored (t : StoredTable) : Bool :=
  t.kind matches .stored

/-- The number of its rows can be named. -/
def showsNumbers (t : StoredTable) : Bool :=
  t.hasNumbers && !t.isView

/-- The places of the columns that are given values, and not computed. -/
def givenPlaces (t : StoredTable) : List Nat :=
  (List.range t.columns.length).filter fun i =>
    (t.column i).generation.isNone && !(t.column i).isHidden

end StoredTable

/-! ## Indexes -/

/-- A term of an index: a column, or an expression. -/
structure IndexTerm where
  column : Option Nat
  expression : Expression := .literal .null
  collation : Collation := .binary
  descending : Bool := false

/-- What an index is there for. -/
inductive IndexOrigin where
  /-- A statement asked for it. -/
  | statement
  /-- A constraint needs it. -/
  | unique
  /-- The key of the table needs it. -/
  | key
deriving DecidableEq

/-- An order of the rows of a table. -/
structure StoredIndex where
  name : String
  table : String
  origin : IndexOrigin := .statement
  terms : List IndexTerm
  /-- No two rows are the same in it. -/
  isUnique : Bool := false
  /-- What is done about a row that is. -/
  conflict : Option Conflict := none
  /-- Only rows that fulfil the condition are in it. -/
  condition : Option Expression := none
  page : Nat := 0

instance : Inhabited StoredIndex := ⟨{ name := "", table := "", terms := [] }⟩

namespace StoredIndex

/-- All terms are columns. -/
def isPlain (i : StoredIndex) : Bool :=
  i.terms.all (·.column.isSome)

/-- The names of the columns in an index. -/
def columnNames (i : StoredIndex) (t : StoredTable) : List String :=
  i.terms.filterMap fun term => term.column.map fun c => (t.column c).name

/-- The same columns with the same collations, whatever their directions. -/
def hasTermsOf (i j : StoredIndex) : Bool :=
  i.terms.length == j.terms.length &&
    (i.terms.zip j.terms).all fun (a, b) => a.column == b.column && a.collation == b.collation

end StoredIndex

/-! ## Triggers -/

/-- What is done upon a change of rows. -/
structure StoredTrigger where
  name : String
  head : TriggerHead
  steps : List TriggerStep
  /-- The table, and the store that it is in. -/
  table : String
  tableStore : String

/-! ## Stores -/

/-- A row of the catalog. -/
structure CatalogEntry where
  number : Int64
  kind : String
  name : String
  table : String
  page : Nat
  sql : Option String
deriving DecidableEq

namespace CatalogEntry

/-- The entry as the cells of a row. -/
def cells (e : CatalogEntry) : List Cell :=
  [.text e.kind, .text e.name, .text e.table, .ofNat e.page, (e.sql.map Cell.text).getD .null]

/-- The entry that a row is. -/
def ofRow (row : StoredRow) : CatalogEntry where
  number := row.number
  kind := (row.cells.getD 0 .null).string
  name := (row.cells.getD 1 .null).string
  table := (row.cells.getD 2 .null).string
  page := (row.cells.getD 3 .null).int64.toInt.toNat
  sql := (row.cells[4]?).bind fun c => if c.isNull then none else some c.string

end CatalogEntry

/-- Tables with their rows, indexes, triggers and views. -/
structure Store where
  name : String
  entries : List CatalogEntry := []
  tables : List StoredTable := []
  /-- The indexes, the newest first. -/
  indexes : List StoredIndex := []
  /-- The triggers, the newest first. -/
  triggers : List StoredTrigger := []
  /-- How often the definitions have changed. -/
  version : Nat := 0
  userVersion : Int64 := 0
  applicationId : Int64 := 0
  /-- How many pages a session is to keep at hand, if that is said. -/
  defaultCache : Nat := 0
  /-- Something has been written. -/
  isWritten : Bool := false
  /-- How many pages there are. -/
  pageCount : Nat := 1
  /-- The pages that nothing is on, in the order in which they were given up. -/
  freePages : List Nat := []
  /-- The trees of pages by their first pages, each with its other pages. -/
  trees : List (Nat × List Nat) := []
  tuning : Tuning := {}
  /-- What the catalog says is to be read again. -/
  isStale : Bool := false

instance : Inhabited Store := ⟨{ name := "" }⟩

namespace Store

/-! ### Looking up -/

/-- It is the store that ends with the session. -/
def isTemporary (s : Store) : Bool :=
  s.name == "temp"

/-- The name of the catalog as a table. -/
def catalogName (s : Store) : String :=
  if s.isTemporary then "sqlite_temp_master" else "sqlite_master"

/-- The other names of the catalog, where the store is known. -/
def otherCatalogNames (s : Store) : List String :=
  if s.isTemporary then ["sqlite_temp_schema", "sqlite_schema", "sqlite_master"]
  else ["sqlite_schema"]

/-- The catalog as a table. -/
def catalog (s : Store) : StoredTable where
  name := s.catalogName
  columns := [
    { name := "type", sqlType := "TEXT", affinity := .text },
    { name := "name", sqlType := "TEXT", affinity := .text },
    { name := "tbl_name", sqlType := "TEXT", affinity := .text },
    { name := "rootpage", sqlType := "INT", affinity := .integer },
    { name := "sql", sqlType := "TEXT", affinity := .text }]
  rows := s.entries.map fun e => ⟨e.number, e.cells⟩
  page := 1

/-- The tables with the catalog, as they are listed. -/
def listed (s : Store) : List StoredTable :=
  Directory.listed (·.name) (s.catalog :: s.tables)

/-- The table of a name; the catalog has one as well. -/
def table? (s : Store) (name : String) : Option StoredTable :=
  if sameName name s.catalogName then some s.catalog
  else s.tables.find? fun t => sameName name t.name

/-- The table of a name, where the catalog has further names. -/
def tableOrCatalog? (s : Store) (name : String) : Option StoredTable :=
  match s.table? name with
  | some t => some t
  | none => if s.otherCatalogNames.any (sameName name) then some s.catalog else none

/-- The index of a name. -/
def index? (s : Store) (name : String) : Option StoredIndex :=
  s.indexes.find? fun i => sameName name i.name

/-- The trigger of a name. -/
def trigger? (s : Store) (name : String) : Option StoredTrigger :=
  s.triggers.find? fun g => sameName name g.name

/-- What is done about a row that breaks the demand of an index: the rows in its way are
replaced. -/
def replaces (i : StoredIndex) : Bool :=
  i.isUnique && i.conflict == some .replace

/-- The indexes on a table: the newest first, but those that replace rows behind the others. -/
def indexesOn (s : Store) (table : String) : List StoredIndex :=
  let all := s.indexes.filter fun i => sameName table i.table
  all.filter (!replaces ·) ++ all.filter replaces

/-- The index that is the key of a table whose rows have no numbers. -/
def keyIndex? (s : Store) (t : StoredTable) : Option StoredIndex :=
  (s.indexesOn t.name).find? (·.origin = .key)

/-! ### Changing -/

/-- The store with the rows of a table changed.  What is defined stays as it is if they are those of
the catalog. -/
def setRows (s : Store) (table : String) (rows : List StoredRow) : Store :=
  if sameName table s.catalogName then { s with entries := rows.map CatalogEntry.ofRow }
  else { s with
    tables := s.tables.map fun t => if sameName t.name table then { t with rows := rows } else t }

/-- The store with a further entry in its catalog. -/
def addEntry (s : Store) (kind name table : String) (page : Nat) (sql : Option String) : Store :=
  let last := (s.entries.getLast?.map (·.number)).getD 0
  { s with entries := s.entries ++ [⟨last + 1, kind, name, table, page, sql⟩] }

end Store

end SchemaEvolution.Database
