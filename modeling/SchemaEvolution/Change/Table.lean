import SchemaEvolution.Change.Column
import SchemaEvolution.Change.Index
import SchemaEvolution.Sql.Dialect

/-!
# Tables

A `TableDefinition` is a table to create.  It is declared item by item (`TableItem`): a key or a
column is added and may be refined by modifiers at once, through a `TableCursor` on its position.

The columns that get an index of their own are kept in a list without repetitions: a foreign key and
the modifier `index` put a name there, `withoutIndex` takes it out.
-/

namespace SchemaEvolution

/-- A column of a table to create. -/
inductive TableColumn where
  /-- A primary or foreign key, whose type the dialect chooses. -/
  | key (name : String) (options : KeyOptions)
  | ordinary (column : Column)
deriving DecidableEq

namespace TableColumn

/-- The name of the column. -/
def name : TableColumn → String
  | key name _ => name
  | ordinary column => column.name

/-- What a statement says to define the column. -/
def definition (d : Dialect) : TableColumn → Except Rejection Statement
  | key name options => .ok [.clause (d.keyColumn name options)]
  | ordinary column => column.definition

/-- Equality of columns whose defaults are compared as values. -/
def equal : TableColumn → TableColumn → Bool
  | key n o, key n' o' => n == n' && o == o'
  | ordinary c, ordinary c' => c.equal c'
  | _, _ => false

end TableColumn

/-- A table to create (`CreateTable`). -/
structure TableDefinition where
  name : String
  columns : List TableColumn := []
  /-- The columns with an index of their own. -/
  indexes : List String := []
  /-- A table of the same name is dropped before. -/
  dropIfExists : Bool := false
  /-- A table of the same name is left alone. -/
  ifNotExists : Bool := false
deriving DecidableEq

/-- A table together with the position of the column that is being declared (`KeyBuilder`,
`ColumnBuilder`). -/
structure TableCursor where
  table : TableDefinition
  position : Nat

/-- Something that is said about a key. -/
inductive KeyModifier where
  | notNull
  | nullable
  | index
  | withoutIndex
deriving DecidableEq

/-- Something that is said about a column within its table. -/
inductive ColumnRefinement where
  | modify (modifier : ColumnModifier)
  | index
deriving DecidableEq

/-- One item of a table's declaration. -/
inductive TableItem where
  | dropIfExists
  | ifNotExists
  /-- The columns `created_at` and `updated_at`. -/
  | timestamps
  /-- A primary key, named `id` unless it is given another name. -/
  | primaryKey (name : Option String) (modifiers : List KeyModifier)
  | foreignKey (name : String) (modifiers : List KeyModifier)
  | column (name sqlType : String) (refinements : List ColumnRefinement)
  /-- A column that was declared apart from the table. -/
  | declared (column : Column) (refinements : List ColumnRefinement)
deriving DecidableEq

namespace TableDefinition

/-- Gives a column an index, if it has none (`add_index`). -/
def addIndex (t : TableDefinition) (column : String) : TableDefinition :=
  if t.indexes.contains column then t else { t with indexes := t.indexes ++ [column] }

/-- Takes a column's index away (`remove_index`). -/
def removeIndex (t : TableDefinition) (column : String) : TableDefinition :=
  { t with indexes := t.indexes.filter (· != column) }

/-- Adds a column at the end. -/
def push (t : TableDefinition) (column : TableColumn) : TableCursor :=
  ⟨{ t with columns := t.columns ++ [column] }, t.columns.length⟩

/-- Adds a primary key. -/
def addPrimaryKey (t : TableDefinition) (name : String) : TableCursor :=
  t.push (.key name { primary := true })

/-- Adds a foreign key, with an index. -/
def addForeignKey (t : TableDefinition) (name : String) : TableCursor :=
  (t.addIndex name).push (.key name { primary := false })

/-- Adds an ordinary column. -/
def addColumn (t : TableDefinition) (column : Column) : TableCursor :=
  t.push (.ordinary column)

end TableDefinition

namespace TableCursor

/-- The table with the column at the cursor changed. -/
def update (c : TableCursor) (change : TableColumn → TableColumn) : TableCursor :=
  { c with table.columns := c.table.columns.modify c.position change }

/-- The table changed by the name of the column at the cursor. -/
def withName (c : TableCursor) (change : TableDefinition → String → TableDefinition) :
    TableCursor :=
  match c.table.columns[c.position]? with
  | some column => { c with table := change c.table column.name }
  | none => c

/-- Sets whether the key at the cursor may be empty. -/
def setKeyNullable (c : TableCursor) (nullable : Bool) : TableCursor :=
  c.update fun
    | .key name options => .key name { options with nullable := some nullable }
    | column => column

/-- Says something about the key at the cursor. -/
def modifyKey (c : TableCursor) : KeyModifier → TableCursor
  | .notNull => c.setKeyNullable false
  | .nullable => c.setKeyNullable true
  | .index => c.withName .addIndex
  | .withoutIndex => c.withName .removeIndex

/-- Says something about the ordinary column at the cursor. -/
def refine (c : TableCursor) : ColumnRefinement → TableCursor
  | .modify modifier =>
    c.update fun
      | .ordinary column => .ordinary (column.modify modifier)
      | column => column
  | .index => c.withName .addIndex

/-- Says several things about a key, and returns the table. -/
def modifyKeyAll (c : TableCursor) (modifiers : List KeyModifier) : TableDefinition :=
  (modifiers.foldl modifyKey c).table

/-- Says several things about an ordinary column, and returns the table. -/
def refineAll (c : TableCursor) (refinements : List ColumnRefinement) : TableDefinition :=
  (refinements.foldl refine c).table

end TableCursor

namespace TableDefinition

/-- The table with one more item declared. -/
def declare (t : TableDefinition) : TableItem → TableDefinition
  | .dropIfExists => { t with dropIfExists := true }
  | .ifNotExists => { t with ifNotExists := true }
  | .timestamps =>
    ((t.addColumn { name := "created_at", sqlType := "TIMESTAMP" }).table.addColumn
      { name := "updated_at", sqlType := "TIMESTAMP" }).table
  | .primaryKey name modifiers => (t.addPrimaryKey (name.getD "id")).modifyKeyAll modifiers
  | .foreignKey name modifiers => (t.addForeignKey name).modifyKeyAll modifiers
  | .column name sqlType refinements =>
    (t.addColumn { name := name, sqlType := sqlType }).refineAll refinements
  | .declared column refinements => (t.addColumn column).refineAll refinements

/-- The table that a sequence of items declares. -/
def ofItems (name : String) (items : List TableItem) : TableDefinition :=
  items.foldl declare { name := name }

/-- The name of the index of a column's own (`index_name`). -/
def indexName (t : TableDefinition) (column : String) : String :=
  "index_" ++ t.name ++ "_" ++ column

/-- The index of a column's own; it is left alone if it exists when the table is. -/
def indexOn (t : TableDefinition) (column : String) : IndexDefinition where
  name := t.indexName column
  table := t.name
  columns := [column]
  ifNotExists := t.ifNotExists

/-- The statement that drops a table (`DropTable::statements`). -/
def dropStatement (name : String) (ifExists : Bool) : Statement :=
  .clause "DROP TABLE" :: Statement.clauseIf ifExists "IF EXISTS" ++ [.name name]

/-- The statement that creates the table, given the definitions of its columns. -/
def createStatement (t : TableDefinition) (definitions : List Statement) : Statement :=
  .clause "CREATE TABLE" :: Statement.clauseIf t.ifNotExists "IF NOT EXISTS" ++
    .name t.name :: Statement.parenthesized definitions

/-- The statements for a table, which must have a column: those for the table itself, then those for
the indexes of its columns (`CreateTable::statements`). -/
def compile (d : Dialect) (t : TableDefinition) : Except Rejection (List Statement) := do
  if t.columns.isEmpty then throw (.tableWithoutColumns t.name)
  let definitions ← t.columns.mapM (TableColumn.definition d)
  let indexes ← t.indexes.mapM fun column => (t.indexOn column).compile
  return (if t.dropIfExists then [dropStatement t.name true] else []) ++
    t.createStatement definitions :: indexes.flatten

/-- Equality of tables whose defaults are compared as values. -/
def equal (a b : TableDefinition) : Bool :=
  a.name == b.name && a.columns.isEqv b.columns TableColumn.equal && a.indexes == b.indexes &&
    a.dropIfExists == b.dropIfExists && a.ifNotExists == b.ifNotExists

end TableDefinition

end SchemaEvolution
