import SchemaEvolution.Migration.Error
import SchemaEvolution.Sql.Statement

/-!
# Columns

A `Column` is an ordinary column as it is declared: its name, its type in the words of the database,
and what is said about it by modifiers.  `Column.definition` is what a statement says of it, the
same in every dialect; it exists unless the default is a real number that is not finite.
-/

namespace SchemaEvolution

/-- An ordinary column (`ColumnDeclaration`). -/
structure Column where
  name : String
  sqlType : String
  /-- Whether the column may be empty; nothing is said about it without a value. -/
  nullable : Option Bool := none
  /-- The value of the column in a row that gives none. -/
  defaultValue : Option Value := none
  unique : Bool := false
deriving DecidableEq

/-- Something that is said about a column. -/
inductive ColumnModifier where
  | notNull
  | nullable
  | unique
  | defaultsTo (value : Value)
deriving DecidableEq

namespace Column

/-- The column after one more thing is said about it; the last word counts. -/
def modify (c : Column) : ColumnModifier → Column
  | .notNull => { c with nullable := some false }
  | .nullable => { c with nullable := some true }
  | .unique => { c with unique := true }
  | .defaultsTo value => { c with defaultValue := some value }

/-- The column after a sequence of modifiers. -/
def modifyAll (c : Column) (modifiers : List ColumnModifier) : Column :=
  modifiers.foldl modify c

/-- The default, if it is a real number that is not finite. -/
def nonFiniteDefault? (c : Column) : Option Binary64 :=
  match c.defaultValue with
  | some (.real x) => if x.isFinite then none else some x
  | _ => none

/-- The clauses after name and type. -/
def constraints (c : Column) : Statement :=
  Statement.clauseIf (c.nullable == some false) "NOT NULL" ++
    (match c.defaultValue with
      | some value => [.clause "DEFAULT", .literal value]
      | none => []) ++
    Statement.clauseIf c.unique "UNIQUE"

/-- What a statement says to define the column (`append_definition`). -/
def definition (c : Column) : Except Rejection Statement :=
  match c.nonFiniteDefault? with
  | some x => .error (.nonFiniteDefault c.name x)
  | none => .ok (.name c.name :: .clause c.sqlType :: c.constraints)

/-- Equality of columns whose defaults are compared as values. -/
def equal (a b : Column) : Bool :=
  a.name == b.name && a.sqlType == b.sqlType && a.nullable == b.nullable &&
    (match a.defaultValue, b.defaultValue with
      | some v, some w => v.equal w
      | none, none => true
      | _, _ => false) &&
    a.unique == b.unique

end Column

end SchemaEvolution
