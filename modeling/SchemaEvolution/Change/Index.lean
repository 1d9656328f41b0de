import SchemaEvolution.Migration.Error
import SchemaEvolution.Sql.Statement

/-!
# Indexes

An index to create, and the statements for creating and dropping one.
-/

namespace SchemaEvolution

/-- An index on columns of a table (`CreateIndex`). -/
structure IndexDefinition where
  name : String
  table : String
  columns : List String
  unique : Bool := false
  /-- The access method, in the words of the database. -/
  method : Option String := none
  /-- An index of the same name is dropped before. -/
  dropIfExists : Bool := false
  /-- An index of the same name is left alone. -/
  ifNotExists : Bool := false
deriving DecidableEq

namespace IndexDefinition

/-- The statement that drops an index (`DropIndex::statements`). -/
def dropStatement (name : String) (ifExists : Bool) : Statement :=
  .clause "DROP INDEX" :: Statement.clauseIf ifExists "IF EXISTS" ++ [.name name]

/-- The statement that creates the index. -/
def createStatement (i : IndexDefinition) : Statement :=
  .clause (if i.unique then "CREATE UNIQUE INDEX" else "CREATE INDEX") ::
    Statement.clauseIf i.ifNotExists "IF NOT EXISTS" ++
    [.name i.name, .clause "ON", .name i.table] ++
    (match i.method with
      | some method => [.clause "USING", .name method]
      | none => []) ++
    Statement.names (i.columns.map .of)

/-- The statements for an index, which must have a column (`CreateIndex::statements`). -/
def compile (i : IndexDefinition) : Except Rejection (List Statement) :=
  if i.columns.isEmpty then .error (.indexWithoutColumns i.name i.table)
  else .ok ((if i.dropIfExists then [dropStatement i.name true] else []) ++ [i.createStatement])

end IndexDefinition

end SchemaEvolution
