import SchemaEvolution.Database.Cell
import SchemaEvolution.Database.Name

/-!
# Expressions and queries

Expressions and queries as they are written: names are not looked up, and numbers are not read yet.
-/

namespace SchemaEvolution.Database

/-- An operator before or behind one operand. -/
inductive UnaryOperator where
  | minus
  | plus
  | complement
  | not
  | isNull
  | notNull
deriving DecidableEq, Repr

/-- How two cells are compared. -/
inductive Comparison where
  | equal
  | unequal
  | less
  | atMost
  | greater
  | atLeast
  /-- The two are equal, or both are nothing. -/
  | same
  | different
deriving DecidableEq, Repr

/-- An operator between two operands. -/
inductive BinaryOperator where
  | and
  | or
  | compare (c : Comparison)
  | bitAnd
  | bitOr
  | shiftLeft
  | shiftRight
  | add
  | subtract
  | multiply
  | divide
  | remainder
  | concatenate
deriving DecidableEq, Repr

/-- What becomes of a row that would break a constraint, and of the statement. -/
inductive Conflict where
  /-- The transaction is rolled back. -/
  | rollback
  /-- The statement is undone. -/
  | abort
  /-- The statement ends; what it did before stays. -/
  | fail
  /-- The row is left out. -/
  | ignore
  /-- The rows in the way are dropped. -/
  | replace
deriving DecidableEq, Inhabited

/-- The operator between the parts of a compound query. -/
inductive Compound where
  | union
  | unionAll
  | except
  | intersect
deriving DecidableEq

/-- How a source is joined to those before it. -/
structure Join where
  isNatural : Bool := false
  /-- Rows before it without a match stay. -/
  keepsLeft : Bool := false
  /-- Rows of the source without a match stay. -/
  keepsRight : Bool := false
  isCross : Bool := false
deriving DecidableEq, Inhabited

/-- What a window frame is measured in. -/
inductive FrameUnit where
  | range
  | rows
  | groups
deriving DecidableEq

/-- An end of a frame; two of them come with a distance. -/
inductive FrameBound where
  | unboundedPreceding
  | preceding
  | currentRow
  | following
  | unboundedFollowing
deriving DecidableEq

/-- What a frame leaves out. -/
inductive FrameExclusion where
  | nothing
  | currentRow
  | group
  | ties
deriving DecidableEq

mutual

/-- An expression as it is written. -/
inductive Expression where
  | literal (c : Cell)
  /-- A number without a sign. -/
  | numeral (written : List Char)
  /-- The current date, time, or both. -/
  | clock (word : String)
  | parameter (written : String)
  /-- A column with its qualifiers before it. -/
  | name (path : List Name)
  | unary (op : UnaryOperator) (e : Expression)
  | binary (op : BinaryOperator) (a b : Expression)
  | collated (e : Expression) (collation : Name)
  | cast (e : Expression) (sqlType : String)
  | call (c : Call)
  /-- The result of the first condition that holds, or that is equal to the base. -/
  | choice (base : Option Expression) (conditions results : List Expression)
      (otherwise : Option Expression)
  | between (e low high : Expression)
  | inList (e : Expression) (es : List Expression)
  | inQuery (e : Expression) (q : Query)
  | inTable (e : Expression) (table : ObjectName) (arguments : List Expression)
  /-- Several values in parentheses. -/
  | tuple (es : List Expression)
  | exists (q : Query)
  | subquery (q : Query)
  /-- A fault that a trigger raises; without one, the row is left out. -/
  | raise (action : Conflict) (message : String)

/-- The call of a function. -/
structure Call where
  name : Name
  arguments : List Expression := []
  /-- The arguments are an asterisk. -/
  isStar : Bool := false
  isDistinct : Bool := false
  order : List OrderTerm := []
  filter : Option Expression := none
  window : Option Window := none

/-- A term of an order. -/
structure OrderTerm where
  expression : Expression
  descending : Bool := false
  nullsFirst : Option Bool := none

/-- A window of rows around each row. -/
structure Window where
  /-- The name under which it is defined. -/
  name : Option Name := none
  /-- The window that this one refines. -/
  base : Option Name := none
  /-- It is that window itself. -/
  isReference : Bool := false
  partition : List Expression := []
  order : List OrderTerm := []
  hasFrame : Bool := false
  unit : FrameUnit := .range
  first : FrameBound := .unboundedPreceding
  firstDistance : Option Expression := none
  last : FrameBound := .currentRow
  lastDistance : Option Expression := none
  exclusion : FrameExclusion := .nothing

/-- A query: selections with operators between them, an order, and a part of the rows. -/
structure Query where
  /-- Queries that have names. -/
  tables : List CommonTable := []
  first : Selection
  others : List Selection := []
  order : List OrderTerm := []
  limit : Option Expression := none
  offset : Option Expression := none

/-- A query that has a name within another one. -/
structure CommonTable where
  name : Name
  columns : List Name
  query : Query

/-- A choice of rows from sources. -/
structure Selection where
  /-- How it is combined with the selections before it. -/
  compound : Compound := .unionAll
  /-- It is a row of values. -/
  isValues : Bool := false
  isDistinct : Bool := false
  columns : List ResultColumn
  sources : List Source := []
  condition : Option Expression := none
  groups : List Expression := []
  having : Option Expression := none
  windows : List Window := []

/-- A column of a result. -/
inductive ResultColumn where
  | all
  | allOf (source : Name)
  /-- An expression with its alias, and as it is written. -/
  | expression (e : Expression) (givenName : Option Name) (written : String)

/-- Something that rows are taken from. -/
structure Source where
  join : Join := {}
  item : SourceItem
  givenName : Option Name := none
  on : Option Expression := none
  /-- The columns in which it agrees with the sources before it. -/
  shared : List Name := []
  /-- No index may be used, or only that of a name. -/
  avoidsIndexes : Bool := false
  index : Option Name := none

/-- A table, a table with arguments, a query, or sources in parentheses. -/
inductive SourceItem where
  | table (name : ObjectName)
  | function (name : ObjectName) (arguments : List Expression)
  | query (q : Query)
  | group (sources : List Source)

end

instance : Inhabited Expression := ⟨.literal .null⟩

namespace Query

/-- The selections of a query. -/
def selections (q : Query) : List Selection :=
  q.first :: q.others

end Query

end SchemaEvolution.Database
