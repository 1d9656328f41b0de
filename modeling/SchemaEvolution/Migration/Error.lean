import SchemaEvolution.Sql.Value

/-!
# Errors

A `MigrationError` is everything that can end a migration: trouble with the connection, a statement
that the database refuses, a change that cannot be written as statements (`Rejection`), and a row of
the ledger that cannot be read (`RecordFault`).  Each type has its wording in a function `message`.
-/

namespace SchemaEvolution

/-- Why a change cannot be written as statements. -/
inductive Rejection where
  | tableWithoutColumns (table : String)
  | indexWithoutColumns (index table : String)
  | nonFiniteDefault (column : String) (value : Binary64)
  /-- A reason in the words of a migration body. -/
  | stated (reason : String)
deriving DecidableEq

namespace Rejection

/-- The reason in words. -/
def message : Rejection → String
  | tableWithoutColumns table => s!"table '{table}' declares no columns"
  | indexWithoutColumns index table => s!"index '{index}' on '{table}' has no columns"
  | nonFiniteDefault column value =>
    s!"column '{column}' has a non-finite default: {value.plain}"
  | stated reason => reason

end Rejection

/-- Why a row is not a ledger entry. -/
inductive RecordFault where
  | columnCount (count : Nat)
  | idNotInteger (value : Value)
  | nameNotText (id : Int64) (value : Value)
  | timestampNotText (value : Value)
  | unreadableTimestamp (text : String)
  | countNotInteger
  /-- A reason in the words of a migration body. -/
  | stated (reason : String)
deriving DecidableEq

namespace RecordFault

/-- The reason in words. -/
def message : RecordFault → String
  | columnCount count => s!"expected 4 columns, got {String.ofList (digits count)}"
  | idNotInteger value => s!"id is not an integer: {value.shown}"
  | nameNotText id value =>
    s!"name of record {String.ofList (signedDigits id.toInt)} is not text: {value.shown}"
  | timestampNotText value => s!"timestamp is not text: {value.shown}"
  | unreadableTimestamp text => s!"invalid timestamp: {text}"
  | countNotInteger => "COUNT(*) returned no integer"
  | stated reason => reason

end RecordFault

/-- What ends a migration (`MigrateError`). -/
inductive MigrationError where
  /-- The connection or its transaction failed (`Database`). -/
  | connection (source : String)
  /-- The database refused a statement (`OperationFailure`). -/
  | statement (sql source : String)
  /-- A statement would have repeated a value that must be unique (`UniqueViolation`). -/
  | uniqueness (sql source : String)
  /-- Another runner has put the name into the ledger (`DuplicateName`). -/
  | recordedConcurrently (name : String)
  /-- The dialect has no words for a change (`UnsupportedSyntax`). -/
  | unsupported (reason : String)
  /-- A change cannot be written as statements (`InvalidOperation`). -/
  | invalidOperation (reason : Rejection)
  /-- A row of the ledger cannot be read (`InvalidRecord`). -/
  | invalidRecord (fault : RecordFault)
deriving DecidableEq

namespace MigrationError

/-- The error in words. -/
def message : MigrationError → String
  | connection source => s!"Database error: {source}"
  | statement sql source => s!"Statement failed: {source} (sql: {sql})"
  | uniqueness sql source => s!"Unique constraint violated: {source} (sql: {sql})"
  | recordedConcurrently name =>
    s!"Migration '{name}' was recorded concurrently by another runner"
  | unsupported reason => s!"Unsupported syntax: {reason}"
  | invalidOperation reason => s!"Invalid operation: {reason.message}"
  | invalidRecord fault => s!"Invalid migration record: {fault.message}"

/-- The error tells of a value that is there already (`is_unique_violation`). -/
def isUniqueViolation : MigrationError → Bool
  | uniqueness .. | recordedConcurrently _ => true
  | _ => false

/-- The statement that the error blames. -/
def sql? : MigrationError → Option String
  | statement sql _ | uniqueness sql _ => some sql
  | _ => none

/-- The same error, blaming another statement if it blames one. -/
def withSql (sql : String) : MigrationError → MigrationError
  | statement _ source => statement sql source
  | uniqueness _ source => uniqueness sql source
  | e => e

end MigrationError

end SchemaEvolution
