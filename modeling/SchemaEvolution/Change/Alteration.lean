import SchemaEvolution.Change.Column
import SchemaEvolution.Sql.Dialect

/-!
# Changes to the columns of a table

Each change to a column is one statement of its own.  Dialects differ in two of them: whether a
column can be dropped under `IF EXISTS`, and how its type is changed.
-/

namespace SchemaEvolution

/-- A change to a column of an existing table (`AlterOperation`). -/
inductive ColumnChange where
  | add (column : Column)
  | drop (name : String) (ifExists : Bool)
  | rename (name newName : String)
  /-- A new type, in the words of the database. -/
  | retype (name sqlType : String)
deriving DecidableEq

namespace ColumnChange

/-- The clauses that give a column a new type. -/
def retypeClauses (can : Capabilities) (name sqlType : String) : Statement :=
  if can.columnModification then [.clause "MODIFY COLUMN", .name name, .clause sqlType]
  else
    [.clause "ALTER COLUMN", .name name, .clause "TYPE", .clause sqlType] ++
      (if can.converts then [.clause "USING", .name name, .clause "::", .clause sqlType] else [])

/-- The clauses of a change, after the name of the table. -/
def clauses (can : Capabilities) : ColumnChange → Except Rejection Statement
  | add column => return .clause "ADD COLUMN" :: (← column.definition)
  | drop name ifExists =>
    return .clause "DROP COLUMN" ::
      Statement.clauseIf (ifExists && can.conditionalDrop) "IF EXISTS" ++ [.name name]
  | rename name newName =>
    return [.clause "RENAME COLUMN", .name name, .clause "TO", .name newName]
  | retype name sqlType => return retypeClauses can name sqlType

/-- The statement for a change to a column of a table (`AlterTable::statement`). -/
def compile (can : Capabilities) (table : String) (change : ColumnChange) :
    Except Rejection Statement := do
  return .clause "ALTER TABLE" :: .name table :: (← change.clauses can)

/-- Equality of changes whose defaults are compared as values. -/
def equal : ColumnChange → ColumnChange → Bool
  | add c, add c' => c.equal c'
  | a, b => a == b

end ColumnChange

end SchemaEvolution
