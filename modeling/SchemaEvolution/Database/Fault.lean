import SchemaEvolution.Database.Expression
import SchemaEvolution.Migration.Error

/-!
# Faults of the table database

The reasons for which the table database refuses a statement, with their wording and number.
-/

namespace SchemaEvolution.Database

/-- A constraint on rows that a statement would break. -/
inductive Violation where
  /-- A column that needs a value has none. -/
  | missingValue (table column : String)
  /-- A key that must be unique is there already. -/
  | repeatedKey (table : String) (columns : List String)
  /-- The number of a row is there already. -/
  | repeatedNumber (table : String)
  /-- Other values that must be unique are there already. -/
  | repeatedValues (table : String) (columns : List String)
  /-- The values of an index on expressions are there already. -/
  | repeatedEntry (index : String)
  | check (name : String)
  /-- A row refers to a row that is not there. -/
  | foreignKey
  /-- A cell does not have the class that its column demands. -/
  | wrongType (className sqlType table column : String)

/-- Why a statement is refused. -/
inductive Fault where
  -- The text
  /-- The statement cannot be read from some token on. -/
  | unexpected (token : String)
  /-- The statement contains characters that are no token. -/
  | unreadable (text : String)
  /-- The statement ends too early. -/
  | incomplete
  | tooDeep
  | expressionTooDeep
  | parameterNumber
  | tooManyParameters
  | afterColumnName (name : String)
  | unknownJoin (words : List String)
  | joinNeeded (clause : String)
  | clauseBefore (clause : String) (next : Compound)
  | duplicateCommonTable (name : String)
  | qualifiedTableInTrigger
  | indexInTrigger
  | noIndexInTrigger
  | returningInTrigger
  | returningAllOf
  -- Names
  | unknownDatabase (name : String)
  | noSuchTable (path : List String)
  | noSuchView (path : List String)
  | noSuchIndex (path : List String)
  | noSuchTrigger (path : List String)
  | noSuchColumn (path : List String)
  /-- A name between quotation marks stands for no column. -/
  | noSuchQuotedColumn (name : String)
  | ambiguousColumn (path : List String)
  | noSuchFunction (name : String)
  | noSuchCollation (name : String)
  | noSuchModule (name : String)
  | noSuchWindow (name : String)
  | noSuchSavepoint (name : String)
  | noSuchDatabase (name : String)
  | nothingToReindex
  -- Queries
  | noTables
  | rowMisused
  | wrongWidth (given wanted : Nat)
  | wrongElementWidth (index given wanted : Nat)
  | unevenRows
  | unevenSelections (c : Compound)
  /-- A term of an order or group is a place in the result that is not there. -/
  | placeOutOfRange (term : Nat) (clause : String) (columns : Nat)
  | orderMatchesNothing (term : Nat)
  | havingWithoutAggregate
  | aggregateInGroup
  | aggregateMisused (name : String)
  | aliasedAggregateMisused (name : String)
  | aliasedWindowMisused (name : String)
  /-- A function of several rows stands where there is only one. -/
  | aggregateOfOneRow (name : String)
  | windowMisused (name : String)
  | notWindowFunction (name : String)
  | windowClauseMisused (clause name : String)
  | distinctArguments
  | distinctWindow
  | filterOfWindow
  | rangeWithoutOrder
  | wrongArgumentCount (name : String)
  | sharedColumnMissing (name : String)
  | naturalWithCondition
  | onClauseReach
  | notTableFunction (name : String)
  | tooManyFunctionArguments (name : String) (most : Nat)
  | commonTableWidth (name : String) (values columns : Nat)
  | circularCommonTable (name : String)
  | recursionRepeated (name : String)
  /-- A query that is computed from itself has itself as a source, and within a further query. -/
  | recursionNested (name : String)
  | recursiveAggregate
  | recursiveWindow
  | circularView (name : String)
  | viewWidth (columns : Nat) (view : String) (given : Nat)
  | hexTooBig (text : String)
  | unableToUse (function : String)
  | raiseOutsideTrigger
  | likelihoodArgument
  | windowOverride (clause name : String)
  | frameDistance (kind edge : String)
  /-- A frame begins behind its end. -/
  | reversedFrame
  | functionFault (text : String)
  | tooManyAttached
  /-- A text or blob is longer than it can be. -/
  | tooBig
  /-- There is more of something than there can be. -/
  | tooMany (what : String)
  | tooManyTerms
  | tooManyJoined
  -- Places where something is not allowed
  | prohibited (what place : String)
  /-- The present counts for a function in a definition. -/
  | clockMisused (function definition : String)
  | parametersInView
  | parametersInTrigger
  /-- Something that is defined refers to another database. -/
  | crossReference (kind name database : String)
  -- Changes of rows
  | protectedTable (name action : String)
  | protectedView (name : String)
  | generatedInsert (column : String)
  | generatedUpdate (column : String)
  /-- A column that is to be given a value is missing. -/
  | noColumnToFill (path : List String) (column : String)
  | wrongValueCount (values columns : Nat)
  | wrongRowLength (path : List String) (columns values : Nat)
  | assignmentCount (columns values : Nat)
  | conflictTargetUnmatched
  | upsertOnView
  | unknownDefaultFunction (name : String)
  | foreignKeyMismatch (child parent : String)
  | wrongClass
  | numbersExhausted
  /-- There is no room for further pages. -/
  | full
  /-- Nothing can be changed. -/
  | readOnly
  | tooManyTriggerLevels
  | raised (message : String)
  | violation (v : Violation)
  -- Definitions
  /-- A name is kept for the database's own tables. -/
  | reservedName (name : String)
  | objectExists (kind written : String)
  /-- An index has the name of a table to create. -/
  | nameOfIndex (name : String)
  /-- A table has the name of an index to create. -/
  | nameOfTable (name : String)
  | indexExists (name : String)
  | triggerExists (name : String)
  | temporaryQualified
  | temporaryTriggerQualified
  /-- An index belongs to a constraint, and cannot be dropped. -/
  | constraintIndex
  | duplicateColumn (name : String)
  | secondPrimaryKey (table : String)
  | missingPrimaryKey (table : String)
  | autoincrement
  | autoincrementWithoutNumbers
  | notConstant (column : String)
  | generatedDefault
  | generatedKey
  | generatedColumn (column : String)
  | onlyGenerated
  | generatedLoop (column : String)
  | missingType (table column : String)
  | unknownType (table column sqlType : String)
  | unknownOption (name : String)
  | referenceWidth (column table : String)
  | referenceCount
  | referenceUnknownColumn (column : String)
  | expressionsInKey
  | nullsInIndex (last : Bool)
  /-- Two constraints that share an index say different things about conflicts. -/
  | conflictingClauses
  | notIndexable (what : String)
  | useDrop (wanted : String) (name : String)
  | triggerOnView (time name : String)
  | triggerOnTable (name : String)
  | triggerOnSystemTable
  | triggerOnVirtualTable
  -- Alterations
  | nameTaken (name : String)
  | cannotAdd (reason : String)
  | cannotAddStored
  | addedCheckFails
  | addedMissingValue
  | addedWrongType
  | alteredView (name : String)
  | alteredModule
  /-- A column that is to be changed is missing. -/
  | noColumnToChange (written : String)
  | constrainedColumn (constraint column : String)
  | onlyColumn (column : String)
  | viewColumn (action name : String)
  /-- A change of a table would leave something that is no longer right. -/
  | consequence (kind name change : String) (fault : Fault)
  /-- Something that is defined is not right. -/
  | errorIn (kind name : String) (fault : Fault)
  | malformedSchema (name : String) (fault : Option Fault)
  /-- What is stored makes no sense. -/
  | malformed
  -- Transactions
  | nestedTransaction
  | noTransaction (action : String)
  | vacuumInTransaction
  | databaseInUse (name : String)
  -- Settings
  | unknownEncoding (name : String)
  /-- Temporary tables stay where they are as long as a transaction is open. -/
  | temporaryInUse
  | safetyInTransaction
  /-- Rows are in use by a statement that is not done. -/
  | tableLocked
  | cannotDetach (name : String)

/-- A number's place in a sequence. -/
def ordinal (n : Nat) : String :=
  let ending :=
    if n / 10 % 10 = 1 then "th"
    else match n % 10 with
      | 1 => "st"
      | 2 => "nd"
      | 3 => "rd"
      | _ => "th"
  String.ofList (digits n) ++ ending

/-- The operator of a compound query. -/
def Compound.word : Compound → String
  | union => "UNION"
  | unionAll => "UNION ALL"
  | except => "EXCEPT"
  | intersect => "INTERSECT"

namespace Violation

/-- Columns of a table, each behind the table's name. -/
def places (table : String) (columns : List String) : String :=
  ", ".intercalate (columns.map fun c => s!"{table}.{c}")

/-- The violation in words. -/
def reason : Violation → String
  | missingValue table column => s!"NOT NULL constraint failed: {table}.{column}"
  | repeatedKey table columns | repeatedValues table columns =>
    s!"UNIQUE constraint failed: {places table columns}"
  | repeatedNumber table => s!"UNIQUE constraint failed: {table}.rowid"
  | repeatedEntry index => s!"UNIQUE constraint failed: index '{index}'"
  | check name => s!"CHECK constraint failed: {name}"
  | foreignKey => "FOREIGN KEY constraint failed"
  | wrongType className sqlType table column =>
    s!"cannot store {className} value in {sqlType} column {table}.{column}"

/-- The number of a violation. -/
def code : Violation → Nat
  | missingValue .. => 1299
  | repeatedKey .. => 1555
  | repeatedNumber .. => 2579
  | repeatedValues .. | repeatedEntry .. => 2067
  | check .. => 275
  | foreignKey => 787
  | wrongType .. => 3091

end Violation

namespace Fault

/-- A name of several parts. -/
def joined (path : List String) : String :=
  ".".intercalate path

/-- A number in words. -/
def count (n : Nat) : String :=
  String.ofList (digits n)

/-- An ending that is left out behind the number one. -/
def plural (n : Nat) : String :=
  if n = 1 then "" else "s"

/-- Faults of a text, in words. -/
def textReason : Fault → String
  | unexpected token => s!"near \"{token}\": syntax error"
  | unreadable text => s!"unrecognized token: \"{text}\""
  | incomplete => "incomplete input"
  | tooDeep => "parser stack overflow"
  | expressionTooDeep => "Expression tree is too large (maximum depth 1000)"
  | parameterNumber => "variable number must be between ?1 and ?32766"
  | tooManyParameters => "too many SQL variables"
  | afterColumnName name => s!"syntax error after column name \"{name}\""
  | unknownJoin words => "unknown join type: " ++ " ".intercalate words
  | joinNeeded clause => s!"a JOIN clause is required before {clause}"
  | clauseBefore clause next => s!"{clause} clause should come after {next.word} not before"
  | duplicateCommonTable name => s!"duplicate WITH table name: {name}"
  | qualifiedTableInTrigger =>
    "qualified table names are not allowed on INSERT, UPDATE, and DELETE statements within triggers"
  | indexInTrigger =>
    "the INDEXED BY clause is not allowed on UPDATE or DELETE statements within triggers"
  | noIndexInTrigger =>
    "the NOT INDEXED clause is not allowed on UPDATE or DELETE statements within triggers"
  | returningInTrigger => "cannot use RETURNING in a trigger"
  | returningAllOf => "RETURNING may not use \"TABLE.*\" wildcards"
  | _ => ""

/-- Names that stand for nothing, in words. -/
def nameReason : Fault → String
  | unknownDatabase name => s!"unknown database {name}"
  | noSuchTable path => s!"no such table: {joined path}"
  | noSuchView path => s!"no such view: {joined path}"
  | noSuchIndex path => s!"no such index: {joined path}"
  | noSuchTrigger path => s!"no such trigger: {joined path}"
  | noSuchColumn path => s!"no such column: {joined path}"
  | noSuchQuotedColumn name =>
    s!"no such column: \"{name}\" - should this be a string literal in single-quotes?"
  | ambiguousColumn path => s!"ambiguous column name: {joined path}"
  | noSuchFunction name => s!"no such function: {name}"
  | noSuchCollation name => s!"no such collation sequence: {name}"
  | noSuchModule name => s!"no such module: {name}"
  | noSuchWindow name => s!"no such window: {name}"
  | noSuchSavepoint name => s!"no such savepoint: {name}"
  | noSuchDatabase name => s!"no such database: {name}"
  | nothingToReindex => "unable to identify the object to be reindexed"
  | _ => ""

/-- Faults of queries, in words. -/
def queryReason : Fault → String
  | noTables => "no tables specified"
  | rowMisused => "row value misused"
  | wrongWidth given wanted =>
    s!"sub-select returns {count given} columns - expected {count wanted}"
  | wrongElementWidth _ given wanted =>
    s!"IN(...) element has {count given} term{plural given} - expected {count wanted}"
  | unevenRows => "all VALUES must have the same number of terms"
  | unevenSelections c =>
    s!"SELECTs to the left and right of {c.word} do not have the same number of result columns"
  | placeOutOfRange term clause columns =>
    s!"{ordinal term} {clause} BY term out of range - should be between 1 and {count columns}"
  | orderMatchesNothing term =>
    s!"{ordinal term} ORDER BY term does not match any column in the result set"
  | havingWithoutAggregate => "HAVING clause on a non-aggregate query"
  | aggregateInGroup => "aggregate functions are not allowed in the GROUP BY clause"
  | aggregateMisused name => s!"misuse of aggregate function {name}()"
  | aliasedAggregateMisused name => s!"misuse of aliased aggregate {name}"
  | aliasedWindowMisused name => s!"misuse of aliased window function {name}"
  | aggregateOfOneRow name => s!"misuse of aggregate: {name}()"
  | windowMisused name => s!"misuse of window function {name}()"
  | notWindowFunction name => s!"{name}() may not be used as a window function"
  | windowClauseMisused clause name => s!"{clause} may not be used with non-aggregate {name}()"
  | distinctArguments => "DISTINCT aggregates must have exactly one argument"
  | distinctWindow => "DISTINCT is not supported for window functions"
  | filterOfWindow => "FILTER clause may only be used with aggregate window functions"
  | rangeWithoutOrder => "RANGE with offset PRECEDING/FOLLOWING requires one ORDER BY expression"
  | wrongArgumentCount name => s!"wrong number of arguments to function {name}()"
  | sharedColumnMissing name =>
    s!"cannot join using column {name} - column not present in both tables"
  | naturalWithCondition => "a NATURAL join may not have an ON or USING clause"
  | onClauseReach => "ON clause references tables to its right"
  | notTableFunction name => s!"'{name}' is not a function"
  | tooManyFunctionArguments name most =>
    s!"too many arguments on {name}() - max {count most}"
  | commonTableWidth name values columns =>
    s!"table {name} has {count values} values for {count columns} columns"
  | circularCommonTable name => s!"circular reference: {name}"
  | recursionRepeated name => s!"multiple references to recursive table: {name}"
  | recursionNested name => s!"multiple recursive references: {name}"
  | recursiveAggregate => "recursive aggregate queries not supported"
  | recursiveWindow => "cannot use window functions in recursive queries"
  | circularView name => s!"view {name} is circularly defined"
  | viewWidth columns view given =>
    s!"expected {count columns} columns for '{view}' but got {count given}"
  | hexTooBig text => s!"hex literal too big: {text}"
  | unableToUse function => s!"unable to use function {function} in the requested context"
  | raiseOutsideTrigger => "RAISE() may only be used within a trigger-program"
  | likelihoodArgument =>
    "second argument to likelihood() must be a constant between 0.0 and 1.0"
  | windowOverride clause name => s!"cannot override {clause} of window: {name}"
  | reversedFrame => "unsupported frame specification"
  | frameDistance kind edge => s!"frame {edge} offset must be a non-negative {kind}"
  | functionFault text => text
  | tooManyAttached => "too many attached databases - max 10"
  | tooBig => "string or blob too big"
  | tooMany what => s!"too many {what}"
  | tooManyTerms => "too many FROM clause terms, max: 200"
  | tooManyJoined => "at most 64 tables in a join"
  | prohibited what place => s!"{what} prohibited in {place}"
  | clockMisused function definition =>
    s!"non-deterministic use of {function}() in {definition}"
  | parametersInView => "parameters are not allowed in views"
  | parametersInTrigger => "trigger cannot use variables"
  | crossReference kind name database =>
    s!"{kind} {name} cannot reference objects in database {database}"
  | _ => ""

/-- Faults of changes of rows, in words. -/
def changeReason : Fault → String
  | protectedTable name action => s!"table {name} may not be {action}"
  | protectedView name => s!"cannot modify {name} because it is a view"
  | generatedInsert column => s!"cannot INSERT into generated column \"{column}\""
  | generatedUpdate column => s!"cannot UPDATE generated column \"{column}\""
  | noColumnToFill path column => s!"table {joined path} has no column named {column}"
  | wrongValueCount values columns => s!"{count values} values for {count columns} columns"
  | wrongRowLength path columns values =>
    s!"table {joined path} has {count columns} columns but {count values} values were supplied"
  | assignmentCount columns values => s!"{count columns} columns assigned {count values} values"
  | conflictTargetUnmatched =>
    "ON CONFLICT clause does not match any PRIMARY KEY or UNIQUE constraint"
  | upsertOnView => "cannot UPSERT a view"
  | unknownDefaultFunction name => s!"unknown function: {name}()"
  | foreignKeyMismatch child parent =>
    s!"foreign key mismatch - \"{child}\" referencing \"{parent}\""
  | wrongClass => "datatype mismatch"
  | numbersExhausted | full => "database or disk is full"
  | readOnly => "attempt to write a readonly database"
  | tooManyTriggerLevels => "too many levels of trigger recursion"
  | raised message => message
  | violation v => v.reason
  | _ => ""

/-- Faults of definitions, in words. -/
def definitionReason : Fault → String
  | reservedName name => s!"object name reserved for internal use: {name}"
  | objectExists kind written => s!"{kind} {written} already exists"
  | nameOfIndex name => s!"there is already an index named {name}"
  | nameOfTable name => s!"there is already a table named {name}"
  | indexExists name => s!"index {name} already exists"
  | triggerExists name => s!"trigger {name} already exists"
  | temporaryQualified => "temporary table name must be unqualified"
  | temporaryTriggerQualified => "temporary trigger may not have qualified name"
  | constraintIndex =>
    "index associated with UNIQUE or PRIMARY KEY constraint cannot be dropped"
  | duplicateColumn name => s!"duplicate column name: {name}"
  | secondPrimaryKey table => s!"table \"{table}\" has more than one primary key"
  | missingPrimaryKey table => s!"PRIMARY KEY missing on table {table}"
  | autoincrement => "AUTOINCREMENT is only allowed on an INTEGER PRIMARY KEY"
  | autoincrementWithoutNumbers => "AUTOINCREMENT not allowed on WITHOUT ROWID tables"
  | notConstant column => s!"default value of column [{column}] is not constant"
  | generatedDefault => "cannot use DEFAULT on a generated column"
  | generatedKey => "generated columns cannot be part of the PRIMARY KEY"
  | generatedColumn column => s!"error in generated column \"{column}\""
  | onlyGenerated => "must have at least one non-generated column"
  | generatedLoop column => s!"generated column loop on \"{column}\""
  | missingType table column => s!"missing datatype for {table}.{column}"
  | unknownType table column sqlType =>
    s!"unknown datatype for {table}.{column}: \"{sqlType}\""
  | unknownOption name => s!"unknown table option: {name}"
  | referenceWidth column table =>
    s!"foreign key on {column} should reference only one column of table {table}"
  | referenceCount =>
    "number of columns in foreign key does not match the number of columns in the referenced table"
  | referenceUnknownColumn column =>
    s!"unknown column \"{column}\" in foreign key definition"
  | expressionsInKey => "expressions prohibited in PRIMARY KEY and UNIQUE constraints"
  | nullsInIndex last => "unsupported use of NULLS " ++ (if last then "LAST" else "FIRST")
  | conflictingClauses => "conflicting ON CONFLICT clauses specified"
  | notIndexable what => s!"{what} may not be indexed"
  | useDrop wanted name => s!"use DROP {wanted} to delete {wanted.map Char.toLower} {name}"
  | triggerOnView time name => s!"cannot create {time} trigger on view: {name}"
  | triggerOnTable name => s!"cannot create INSTEAD OF trigger on table: {name}"
  | triggerOnSystemTable => "cannot create trigger on system table"
  | triggerOnVirtualTable => "cannot create triggers on virtual tables"
  | _ => ""

/-- Faults of alterations, in words. -/
def alterationReason : Fault → String
  | nameTaken name => s!"there is already another table or index with this name: {name}"
  | cannotAdd reason => s!"Cannot add a {reason}"
  | cannotAddStored => "cannot add a STORED column"
  | addedCheckFails => "CHECK constraint failed"
  | addedMissingValue => "NOT NULL constraint failed"
  | addedWrongType => "type mismatch on DEFAULT"
  | alteredModule => "virtual tables may not be altered"
  | alteredView name => s!"view {name} may not be altered"
  | noColumnToChange written => s!"no such column: \"{written}\""
  | constrainedColumn constraint column => s!"cannot drop {constraint} column: \"{column}\""
  | onlyColumn column => s!"cannot drop column \"{column}\": no other columns exist"
  | viewColumn action name => s!"cannot {action} \"{name}\""
  | _ => ""

/-- Faults of transactions and settings, in words. -/
def transactionReason : Fault → String
  | nestedTransaction => "cannot start a transaction within a transaction"
  | noTransaction action => s!"cannot {action} - no transaction is active"
  | vacuumInTransaction => "cannot VACUUM from within a transaction"
  | databaseInUse name => s!"database {name} is already in use"
  | unknownEncoding name => s!"unsupported encoding: {name}"
  | temporaryInUse => "temporary storage cannot be changed from within a transaction"
  | safetyInTransaction => "Safety level may not be changed inside a transaction"
  | tableLocked => "database table is locked"
  | cannotDetach name => s!"cannot detach database {name}"
  | _ => ""

/-- The reason in words. -/
def reason : Fault → String
  | consequence kind name change fault =>
    s!"error in {kind} {name} after {change}: {fault.reason}"
  | errorIn kind name fault => s!"error in {kind} {name}: {fault.reason}"
  | malformedSchema name none => s!"malformed database schema ({name})"
  | malformedSchema name (some fault) =>
    s!"malformed database schema ({name}) - {fault.reason}"
  | malformed => "database disk image is malformed"
  | fault =>
    textReason fault ++ nameReason fault ++ queryReason fault ++ changeReason fault ++
      definitionReason fault ++ alterationReason fault ++ transactionReason fault

/-- The number of a fault. -/
def code : Fault → Nat
  | violation v => v.code
  | wrongClass => 20
  | numbersExhausted | full => 13
  | readOnly => 8
  | tableLocked => 6
  | tooBig => 18
  | noSuchCollation _ => 257
  | raised _ => 1811
  | malformedSchema .. | malformed => 11
  | _ => 1

/-- The reason and number in words. -/
def message (f : Fault) : String :=
  s!"error returned from database: (code: {count f.code}) {f.reason}"

/-- The error of a statement that was refused. -/
def toError (sql : String) (f : Fault) : MigrationError :=
  if f.code = 1555 ∨ f.code = 2067 then .uniqueness sql f.message else .statement sql f.message

end Fault

/-- What ends a statement before it is done. -/
inductive Stop where
  /-- A fault, and what becomes of what was done. -/
  | fault (f : Fault) (extent : Conflict := .abort)
  /-- The row is left out. -/
  | skipRow

namespace Stop

/-- A fault that undoes the statement. -/
def abort (f : Fault) : Stop :=
  .fault f .abort

end Stop

end SchemaEvolution.Database
