import SchemaEvolution.Database.Expression
import SchemaEvolution.Database.Fault
import SchemaEvolution.Database.Token

/-!
# Commands

A `Command` is what a statement asks for, as it is written.  What a statement says about a new table
comes as a list of declarations, in the order in which they are read: an error in one of them counts
before an error of the grammar behind it, so the list may end with a fault.
-/

namespace SchemaEvolution.Database

/-- What happens to the rows that refer to a row that is dropped or gets another key. -/
inductive KeyAction where
  | noAction
  | restrict
  | cascade
  | setNull
  | setDefault
deriving DecidableEq, Inhabited

/-- The table and columns that a foreign key refers to, and what happens to it. -/
structure ReferenceClause where
  table : Name
  columns : List Name := []
  onDelete : KeyAction := .noAction
  onUpdate : KeyAction := .noAction

/-- Something that is said about a new table. -/
inductive Declaration where
  /-- A column with its type. -/
  | column (name : Name) (sqlType : String)
  /-- The name of the next constraint. -/
  | constraintName (name : Name)
  /-- What the last column holds if nothing is given. -/
  | defaultValue (e : Expression) (written : String)
  /-- The last column may hold nothing, or must hold something. -/
  | nullable
  | notNull (conflict : Option Conflict)
  /-- The last column is the key. -/
  | key (descending : Bool) (conflict : Option Conflict) (autoincrement : Bool)
  | unique (conflict : Option Conflict)
  | collate (collation : Name)
  /-- The last column is computed. -/
  | generated (e : Expression) (kind : Option Name)
  /-- The last column is a foreign key. -/
  | references (r : ReferenceClause)
  /-- The last foreign key is checked at the end of the transaction. -/
  | deferral (deferred : Bool)
  /-- A condition, as it is written. -/
  | check (e : Expression) (written : String)
  /-- Several columns are the key. -/
  | keyOf (terms : List OrderTerm) (autoincrement : Bool) (conflict : Option Conflict)
  | uniqueOf (terms : List OrderTerm) (conflict : Option Conflict)
  | referencesOf (columns : List Name) (r : ReferenceClause)
  /-- The name of the next constraint is given up. -/
  | constraintEnd
  /-- The columns end at a lexeme. -/
  | columnsEnd (place : Nat)
  /-- An option of the table; some begin with `WITHOUT`. -/
  | option (isWithout : Bool) (name : Name)
  /-- There is nothing more to say. -/
  | complete

/-- What is set, and to what: a column, or several columns by a row. -/
structure Assignment where
  columns : List Name
  /-- The columns stand in parentheses. -/
  isTuple : Bool
  value : Expression

/-- What an insertion does about a row that is there already. -/
structure ConflictClause where
  /-- The columns in which the rows agree; without any, it is about all constraints. -/
  target : List OrderTerm := []
  condition : Option Expression := none
  /-- The changes of the row that is there; without any, the new row is left out. -/
  assignments : List Assignment := []
  updates : Bool := false
  updateCondition : Option Expression := none

/-- An insertion of rows. -/
structure Insertion where
  tables : List CommonTable := []
  conflict : Option Conflict := none
  table : ObjectName
  givenName : Option Name := none
  columns : Option (List Name) := none
  /-- The rows; without them, one of default values. -/
  rows : Option Query
  clauses : List ConflictClause := []
  returning : List ResultColumn := []

/-- A change of rows. -/
structure Update where
  tables : List CommonTable := []
  conflict : Option Conflict := none
  table : ObjectName
  givenName : Option Name := none
  avoidsIndexes : Bool := false
  index : Option Name := none
  assignments : List Assignment
  sources : List Source := []
  condition : Option Expression := none
  returning : List ResultColumn := []

/-- A deletion of rows. -/
structure Deletion where
  tables : List CommonTable := []
  table : ObjectName
  givenName : Option Name := none
  avoidsIndexes : Bool := false
  index : Option Name := none
  condition : Option Expression := none
  returning : List ResultColumn := []

/-- Something that a trigger does. -/
inductive TriggerStep where
  | insert (i : Insertion)
  | update (u : Update)
  | delete (d : Deletion)
  | select (q : Query)

/-- When a trigger acts. -/
inductive TriggerTime where
  | before
  | after
  | instead
deriving DecidableEq, Inhabited

/-- A change of rows upon which a trigger acts. -/
inductive RowEvent where
  | insert
  | update
  | delete
deriving DecidableEq, Inhabited

/-- What a trigger is, without its steps. -/
structure TriggerHead where
  time : TriggerTime
  event : RowEvent
  /-- An update of other columns than these does not count; without any, every update counts. -/
  columns : List Name := []
  table : ObjectName
  condition : Option Expression := none

/-- How a new table, index, view or trigger is introduced. -/
structure CreationHead where
  isTemporary : Bool := false
  ifMissing : Bool := false
  name : ObjectName

/-- A change of one table. -/
inductive TableChange where
  | rename (newName : Name)
  /-- The declarations of the column, perhaps with the fault that ends them. -/
  | addColumn (declarations : List Declaration) (fault : Option Fault) (written : String)
  | dropColumn (column : Name)
  | renameColumn (column newName : Name)

/-- What a statement about a setting asks for. -/
structure Pragma where
  name : ObjectName
  argument : Option String := none

/-- What a statement asks for.  What is created comes as it is written, from its name on. -/
inductive Command where
  /-- A transaction, which may be one that writes from its beginning on. -/
  | beginning (writes : Bool)
  | commit
  | rollback
  | savepoint (name : Name)
  | release (name : Name)
  | rollbackTo (name : Name)
  /-- The declarations of the table, perhaps with the fault that ends them. -/
  | createTable (head : CreationHead) (declarations : List Declaration) (fault : Option Fault)
      (written : String)
  | createTableAs (head : CreationHead) (q : Query)
  | createIndex (head : CreationHead) (isUnique : Bool) (table : Name) (terms : List OrderTerm)
      (condition : Option Expression) (written : String)
  | createView (head : CreationHead) (columns : List Name) (q : Query) (written : String)
  /-- The steps of the trigger, or the fault in them. -/
  | createTrigger (head : CreationHead) (trigger : TriggerHead)
      (steps : Except Fault (List TriggerStep)) (written : String)
  | createVirtualTable (head : CreationHead) (module : Name) (arguments : List String)
      (written : String)
  | dropTable (name : ObjectName) (ifExists : Bool)
  | dropView (name : ObjectName) (ifExists : Bool)
  | dropIndex (name : ObjectName) (ifExists : Bool)
  | dropTrigger (name : ObjectName) (ifExists : Bool)
  | alterTable (name : ObjectName) (change : TableChange)
  | select (q : Query)
  | insert (i : Insertion)
  | update (u : Update)
  | delete (d : Deletion)
  | pragma (p : Pragma)
  | vacuum (database : Option Name) (into : Option Expression)
  | analyze (name : Option ObjectName)
  | reindex (name : Option ObjectName)
  | attach (file name : Expression)
  | detach (name : Expression)
  /-- A command that is only looked at. -/
  | explain (plan : Bool) (c : Command)

end SchemaEvolution.Database
