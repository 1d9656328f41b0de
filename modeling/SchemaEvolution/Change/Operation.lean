import SchemaEvolution.Change.Alteration
import SchemaEvolution.Change.Table

/-!
# Operations

An `Operation` is one change to tables and indexes.  Compiling it gives the statements that carry it
out, in order; it depends on the dialect by its capabilities and its key columns only.
-/

namespace SchemaEvolution

/-- One change to tables and indexes. -/
inductive Operation where
  | createTable (table : TableDefinition)
  | alterTable (table : String) (changes : List ColumnChange)
  | dropTable (table : String) (ifExists : Bool)
  | renameTable (table newName : String)
  | createIndex (index : IndexDefinition)
  | dropIndex (index : String) (ifExists : Bool)
deriving DecidableEq

namespace Operation

/-- The kind of an operation, as reports name it (`kind`). -/
def kind : Operation → String
  | createTable _ => "create_table"
  | alterTable .. => "alter_table"
  | dropTable .. => "drop_table"
  | renameTable .. => "rename_table"
  | createIndex _ => "create_index"
  | dropIndex .. => "drop_index"

/-- The statement that renames a table (`RenameTable::statements`). -/
def renameStatement (table newName : String) : Statement :=
  [.clause "ALTER TABLE", .name table, .clause "RENAME TO", .name newName]

/-- The statements that carry out an operation, or the first reason against them
(`Operation::statements`). -/
def compile (d : Dialect) : Operation → Except Rejection (List Statement)
  | createTable table => table.compile d
  | alterTable table changes => changes.mapM (ColumnChange.compile d.capabilities table)
  | dropTable table ifExists => .ok [TableDefinition.dropStatement table ifExists]
  | renameTable table newName => .ok [renameStatement table newName]
  | createIndex index => index.compile
  | dropIndex index ifExists => .ok [IndexDefinition.dropStatement index ifExists]

/-- Equality of operations whose defaults are compared as values. -/
def equal : Operation → Operation → Bool
  | createTable t, createTable t' => t.equal t'
  | alterTable t cs, alterTable t' cs' => t == t' && cs.isEqv cs' ColumnChange.equal
  | a, b => a == b

end Operation

end SchemaEvolution
