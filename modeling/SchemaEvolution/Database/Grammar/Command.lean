import SchemaEvolution.Database.Grammar.Table

/-!
# The grammar of commands

`Grammar.command` reads a whole command, up to a semicolon or the end of the text.  Recursion is
bounded by the number of lexemes.
-/

namespace SchemaEvolution.Database.Grammar

open Reader

/-! ## Changes of rows -/

/-- Takes what is done about a conflict behind `OR`, if it is said. -/
def orConflict : Reader (Option Conflict) := do
  if ← wordIf "OR" then some <$> conflict else return none

/-- Takes the name of a table with its alias. -/
def aliasedTable : Reader (ObjectName × Option Name) := do
  let n ← objectName
  if ← wordIf "AS" then return (n, some (← name)) else return (n, none)

/-- Takes an assignment. -/
def assignment (inner : Level) : Reader Assignment := do
  if ← atSign "(" then
    let columns ← nameList
    sign "="
    return { columns := columns, isTuple := true, value := ← inner.any }
  else
    let column ← name
    sign "="
    return { columns := [column], isTuple := false, value := ← inner.any }

/-- Takes assignments. -/
def assignments (inner : Level) : Reader (List Assignment) :=
  separated (assignment inner)

/-- Takes what is to be returned, if something is. -/
def returningIf (inner : Level) : Reader (List ResultColumn) := do
  if ← wordIf "RETURNING" then resultColumns inner else return []

/-- Takes what is done about a conflict, behind `ON CONFLICT`. -/
def conflictClause (inner : Level) : Reader ConflictClause := do
  let hasTarget ← atSign "("
  let target ← if hasTarget then parenthesized (orderTerms inner) else pure []
  let condition ← if hasTarget then inner.behind "WHERE" else pure none
  word "DO"
  if ← wordIf "NOTHING" then return { target := target, condition := condition }
  word "UPDATE"
  word "SET"
  let changes ← assignments inner
  return {
    target := target, condition := condition, assignments := changes, updates := true,
    updateCondition := ← inner.behind "WHERE" }

/-- Takes all that is done about conflicts; a clause without a target is the last one. -/
def conflictClauses (inner : Level) : Reader (List ConflictClause) := do
  let step (found : List ConflictClause) : Reader (Option (List ConflictClause)) := do
    if found.head?.any (·.target.isEmpty) then return none
    if ← wordsIf "ON" ["CONFLICT"] then return some ((← conflictClause inner) :: found)
    return none
  return (← iterate step (← rest).length []).reverse

/-- Takes an insertion behind its first word. -/
def insertion (inner : Level) (isReplace : Bool) : Reader Insertion := do
  let conflict ← if isReplace then pure (some Conflict.replace) else orConflict
  word "INTO"
  let (table, givenName) ← aliasedTable
  let columns ← if ← atSign "(" then some <$> nameList else pure none
  let i : Insertion :=
    { conflict := conflict, table := table, givenName := givenName, columns := columns
      rows := none }
  if ← wordIf "DEFAULT" then
    word "VALUES"
    return { i with returning := ← returningIf inner }
  if !(← atQuery) then unexpected
  let rows ← inner.query
  let clauses ← conflictClauses inner
  return { i with rows := some rows, clauses := clauses, returning := ← returningIf inner }

/-- Takes which index is to be used: whether none may be, and the name of one. -/
def indexHint : Reader (Bool × Option Name) := do
  if ← wordsIf "NOT" ["INDEXED"] then return (true, none)
  if ← wordsIf "INDEXED" ["BY"] then return (false, some (← name))
  return (false, none)

/-- Takes an update behind its first word. -/
def updating (inner : Level) : Reader Update := do
  let conflict ← orConflict
  let (table, givenName) ← aliasedTable
  let (avoidsIndexes, index) ← indexHint
  word "SET"
  let changes ← assignments inner
  let sources ← sourcesIf inner
  let condition ← inner.behind "WHERE"
  let returning ← returningIf inner
  if mostColumns < (changes.flatMap (·.columns)).length then throw (.tooMany "columns in set list")
  return {
    conflict := conflict, table := table, givenName := givenName, avoidsIndexes := avoidsIndexes,
    index := index, assignments := changes, sources := sources, condition := condition,
    returning := returning }

/-- Takes a deletion behind its first word. -/
def deletion (inner : Level) : Reader Deletion := do
  word "FROM"
  let (table, givenName) ← aliasedTable
  let (avoidsIndexes, index) ← indexHint
  let condition ← inner.behind "WHERE"
  return {
    table := table, givenName := givenName, avoidsIndexes := avoidsIndexes, index := index,
    condition := condition, returning := ← returningIf inner }

/-- Takes a query or a change of rows, if there is one. -/
def rowCommand? (inner : Level) : Reader (Option TriggerStep) := do
  let tables ← commonTablesIf inner
  if ← wordIf "INSERT" then
    return some (.insert { ← insertion inner false with tables := tables })
  if ← wordIf "REPLACE" then
    return some (.insert { ← insertion inner true with tables := tables })
  if ← wordIf "UPDATE" then
    return some (.update { ← updating inner with tables := tables })
  if ← wordIf "DELETE" then
    return some (.delete { ← deletion inner with tables := tables })
  if ← atQuery then
    return some (.select { ← plainQuery inner with tables := tables })
  if tables.isEmpty then return none else unexpected

/-! ## Triggers -/

/-- Takes the table of a step, which is named without a database. -/
def stepTable : Reader ObjectName := do
  let n ← objectName
  let _ ← peek
  if n.database.isSome then throw .qualifiedTableInTrigger
  return n

/-- Takes which index is to be used, which a step must not say. -/
def stepIndex : Reader Unit := do
  let (avoidsIndexes, index) ← indexHint
  let _ ← peek
  if index.isSome then throw .indexInTrigger
  if avoidsIndexes then throw .noIndexInTrigger

/-- Takes an insertion behind its first word, as a step of a trigger. -/
def insertionStep (inner : Level) (isReplace : Bool) : Reader TriggerStep := do
  let conflict ← if isReplace then pure (some Conflict.replace) else orConflict
  word "INTO"
  let table ← stepTable
  let columns ← if ← atSign "(" then some <$> nameList else pure none
  if !(← atQuery) then unexpected
  let rows ← inner.query
  let clauses ← conflictClauses inner
  let returning ← returningIf inner
  let _ ← peek
  if !returning.isEmpty then throw .returningInTrigger
  return .insert
    { conflict := conflict, table := table, columns := columns, rows := some rows
      clauses := clauses }

/-- Takes an update behind its first word, as a step of a trigger. -/
def updateStep (inner : Level) : Reader TriggerStep := do
  let conflict ← orConflict
  let table ← stepTable
  stepIndex
  word "SET"
  let changes ← assignments inner
  let sources ← sourcesIf inner
  return .update
    { conflict := conflict, table := table, assignments := changes, sources := sources
      condition := ← inner.behind "WHERE" }

/-- Takes a deletion behind its first word, as a step of a trigger. -/
def deletionStep (inner : Level) : Reader TriggerStep := do
  word "FROM"
  let table ← stepTable
  stepIndex
  return .delete { table := table, condition := ← inner.behind "WHERE" }

/-- Takes a step of a trigger. -/
def triggerStep (inner : Level) : Reader TriggerStep := do
  if ← wordIf "INSERT" then insertionStep inner false
  else if ← wordIf "REPLACE" then insertionStep inner true
  else if ← wordIf "UPDATE" then updateStep inner
  else if ← wordIf "DELETE" then deletionStep inner
  else if (← atWord "WITH") || (← atQuery) then return .select (← query inner)
  else unexpected

/-- Takes the steps of a trigger up to their end. -/
def triggerSteps (inner : Level) : Reader (List TriggerStep) := do
  let one : Reader TriggerStep := do
    let step ← triggerStep inner
    sign ";"
    return step
  let first ← one
  let more ← many do if ← atWord "END" then return none else some <$> one
  word "END"
  return first :: more

/-- Takes when a trigger acts. -/
def triggerHead (inner : Level) : Reader TriggerHead := do
  let time ←
    if ← wordIf "BEFORE" then pure TriggerTime.before
    else if ← wordIf "AFTER" then pure .after
    else if ← wordsIf "INSTEAD" ["OF"] then pure .instead
    else pure .before
  let event ←
    match ← oneOf? [("INSERT", RowEvent.insert), ("DELETE", .delete), ("UPDATE", .update)] with
    | some event => pure event
    | none => unexpected
  let columns ←
    if event = .update && (← wordIf "OF") then separated name else pure []
  word "ON"
  let table ← objectName
  let _ ← wordsIf "FOR" ["EACH", "ROW"]
  return {
    time := time, event := event, columns := columns, table := table,
    condition := ← inner.behind "WHEN" }

/-! ## Creation -/

/-- A command must end here. -/
def atEnd : Reader Unit := do
  let l ← peek
  if !(l.token = .finish || l.token = .sign ";") then unexpected

/-- What stands between two states and the end of the command, as it is written. -/
def writtenToEnd (before after : List Lexeme) : String :=
  written before after ++ String.ofList ((after.head?.map (·.blanks)).getD [])

/-- A text without white space at its end, and without semicolons if asked for. -/
def trimEnd (s : String) (semicolons : Bool) : String :=
  let drops (c : Char) : Bool := Token.isSpace c || semicolons && c == ';'
  String.ofList (s.toList.reverse.dropWhile drops).reverse

/-- Takes `IF NOT EXISTS` if it is there. -/
def ifNotExists : Reader Bool :=
  wordsIf "IF" ["NOT", "EXISTS"]

/-- Takes `IF EXISTS` if it is there. -/
def ifExists : Reader Bool :=
  wordsIf "IF" ["EXISTS"]

/-- Takes a name, and the lexemes from the name itself on. -/
def headOf (isTemporary ifMissing : Bool) : Reader (CreationHead × List Lexeme) := do
  let before ← rest
  let n ← objectName
  return ({ isTemporary := isTemporary, ifMissing := ifMissing, name := n },
    if n.database.isSome then before.drop 2 else before)

/-- The declarations of a table that count if the command does not end behind them. -/
def withoutLast (ds : List Declaration) : List Declaration :=
  let isLast : Declaration → Bool
    | .complete | .option .. => true
    | _ => false
  let kept := ds.takeWhile (!isLast ·)
  kept ++ ((ds.drop kept.length).dropLast).dropLast

/-- Takes a new table behind its first words. -/
def newTable (inner : Level) (isTemporary : Bool) : Reader Command := do
  let (head, before) ← headOf isTemporary (← ifNotExists)
  if ← wordIf "AS" then
    let q ← inner.query
    atEnd
    return .createTableAs head q
  sign "("
  let (declarations, fault) ← tableDeclarations inner
  if fault.isSome then return .createTable head declarations fault ""
  let hasOptions := declarations.any (· matches .option ..)
  match ← attempt atEnd with
  | .error fault => return .createTable head (withoutLast declarations) (some fault) ""
  | .ok () =>
    let after ← rest
    return .createTable head declarations none
      (if hasOptions then writtenToEnd before after else written before after)

/-- Takes a new index behind its first words. -/
def newIndex (inner : Level) (isUnique : Bool) : Reader Command := do
  let (head, before) ← headOf false (← ifNotExists)
  word "ON"
  let table ← name
  let terms ← parenthesized (orderTerms inner)
  let condition ← inner.behind "WHERE"
  atEnd
  return .createIndex head isUnique table terms condition (writtenToEnd before (← rest))

/-- Takes a new view behind its first words. -/
def newView (inner : Level) (isTemporary : Bool) : Reader Command := do
  let (head, before) ← headOf isTemporary (← ifNotExists)
  let columns ← columnNamesIf
  word "AS"
  let q ← inner.query
  atEnd
  return .createView head columns q (trimEnd (writtenToEnd before (← rest)) false)

/-- Takes a new trigger behind its first words. -/
def newTrigger (inner : Level) (isTemporary : Bool) : Reader Command := do
  let (head, before) ← headOf isTemporary (← ifNotExists)
  let trigger ← triggerHead inner
  word "BEGIN"
  let steps ← attempt do
    let steps ← triggerSteps inner
    let after ← rest
    atEnd
    return (steps, written before after)
  return .createTrigger head trigger (steps.map Prod.fst)
    ((steps.map Prod.snd).toOption.getD "")

/-- Takes the arguments of a virtual table, each as it is written. -/
def moduleArguments : Reader (List String) := do
  let step (s : Nat × List String × List Lexeme) :
      Reader (Option (Nat × List String × List Lexeme)) := do
    let (depth, done, current) := s
    let l ← peek
    if l.token = .finish then throw .incomplete
    advance
    if l.token = .sign ")" && depth = 1 then
      return some (0, done ++ [Lexeme.slice current], [])
    if depth = 0 then return none
    if l.token = .sign "," && depth = 1 then
      return some (1, done ++ [Lexeme.slice current], [])
    let depth :=
      if l.token = .sign "(" then depth + 1
      else if l.token = .sign ")" then depth - 1
      else depth
    return some (depth, done, current ++ [l])
  let stopped (s : Nat × List String × List Lexeme) :
      Reader (Option (Nat × List String × List Lexeme)) :=
    if s.1 = 0 then return none else step s
  let (_, arguments, _) ← iterate stopped (← rest).length (1, [], [])
  return arguments

/-- Takes a new virtual table behind its first words. -/
def newVirtualTable : Reader Command := do
  word "TABLE"
  let (head, before) ← headOf false (← ifNotExists)
  word "USING"
  let moduleName ← name
  let arguments ← if ← signIf "(" then moduleArguments else pure []
  atEnd
  return .createVirtualTable head moduleName arguments (writtenToEnd before (← rest))

/-- Takes a creation behind its first word. -/
def creation (inner : Level) : Reader Command := do
  if ← wordIf "UNIQUE" then
    word "INDEX"
    newIndex inner true
  else if ← wordIf "INDEX" then newIndex inner false
  else if ← wordIf "VIRTUAL" then newVirtualTable
  else
    let isTemporary ← Option.isSome <$> oneOf? [("TEMP", ()), ("TEMPORARY", ())]
    if ← wordIf "TABLE" then newTable inner isTemporary
    else if ← wordIf "VIEW" then newView inner isTemporary
    else if ← wordIf "TRIGGER" then newTrigger inner isTemporary
    else unexpected

/-! ## Other commands -/

/-- Takes a removal behind its first word. -/
def removal : Reader Command := do
  if ← wordIf "TABLE" then
    let missing ← ifExists
    return .dropTable (← objectName) missing
  else if ← wordIf "VIEW" then
    let missing ← ifExists
    return .dropView (← objectName) missing
  else if ← wordIf "INDEX" then
    let missing ← ifExists
    return .dropIndex (← objectName) missing
  else if ← wordIf "TRIGGER" then
    let missing ← ifExists
    return .dropTrigger (← objectName) missing
  else unexpected

/-- Takes the change of a table behind its name. -/
def tableChange (inner : Level) : Reader TableChange := do
  if ← wordIf "RENAME" then
    if ← wordIf "TO" then return .rename (← name)
    let _ ← wordIf "COLUMN"
    let old ← name
    word "TO"
    return .renameColumn old (← name)
  else if ← wordIf "DROP" then
    let _ ← wordIf "COLUMN"
    return .dropColumn (← name)
  else if ← wordIf "ADD" then
    let _ ← wordIf "COLUMN"
    let before ← rest
    let (declarations, fault) ← columnDeclarations inner
    return .addColumn declarations fault (trimEnd (writtenToEnd before (← rest)) true)
  else unexpected

/-- Takes the argument of a setting: a number, whose sign only counts if it is a minus, or a
name. -/
def pragmaArgument : Reader String := do
  let l ← peek
  if l.token matches .number _ then return ← signedNumber
  if ← signIf "+" then
    if (← atSign "+") || (← atSign "-") then unexpected
    return ← signedNumber
  if ← atSign "-" then return ← signedNumber
  match ["ON", "DELETE", "DEFAULT"].find? l.token.isWord with
  | some w =>
    advance
    return w
  | none => return (← name).text

/-- Takes a setting behind its first word. -/
def pragma : Reader Command := do
  let n ← objectName
  if ← signIf "=" then return .pragma { name := n, argument := some (← pragmaArgument) }
  if ← atSign "(" then
    return .pragma { name := n, argument := some (← parenthesized pragmaArgument) }
  return .pragma { name := n }

/-- Takes the name of a transaction, which says nothing. -/
def transactionName : Reader Unit := do
  if ← wordIf "TRANSACTION" then let _ ← nameOfKind? isNameWord true

/-- Takes a command about transactions, if there is one. -/
def transactionCommand? : Reader (Option Command) := do
  if ← wordIf "BEGIN" then
    let kind ← oneOf? [("DEFERRED", false), ("IMMEDIATE", true), ("EXCLUSIVE", true)]
    transactionName
    return some (.beginning (kind.getD false))
  else if (← wordIf "COMMIT") || (← wordIf "END") then
    transactionName
    return some .commit
  else if ← wordIf "ROLLBACK" then
    transactionName
    if ← wordIf "TO" then
      let _ ← wordIf "SAVEPOINT"
      return some (.rollbackTo (← name))
    return some .rollback
  else if ← wordIf "SAVEPOINT" then return some (.savepoint (← name))
  else if ← wordIf "RELEASE" then
    let _ ← wordIf "SAVEPOINT"
    return some (.release (← name))
  else return none

/-- Takes the name of an object if there is one. -/
def objectNameIf : Reader (Option ObjectName) := do
  if ← atToken fun t => t = .finish || t = .sign ";" then return none
  some <$> objectName

/-- Takes a command about the whole database, if there is one. -/
def maintenanceCommand? (inner : Level) : Reader (Option Command) := do
  if ← wordIf "PRAGMA" then some <$> pragma
  else if ← wordIf "VACUUM" then
    let database ← if ← atWord "INTO" then pure none else nameOfKind? isNameWord true
    return some (.vacuum database (← inner.behind "INTO"))
  else if ← wordIf "ANALYZE" then return some (.analyze (← objectNameIf))
  else if ← wordIf "REINDEX" then return some (.reindex (← objectNameIf))
  else if ← wordIf "ATTACH" then
    let _ ← wordIf "DATABASE"
    let file ← inner.any
    word "AS"
    let givenName ← inner.any
    let _ ← inner.behind "KEY"
    return some (.attach file givenName)
  else if ← wordIf "DETACH" then
    let _ ← wordIf "DATABASE"
    return some (.detach (← inner.any))
  else return none

/-- Takes a command, up to its end. -/
def plainCommand (inner : Level) : Reader Command := do
  if ← wordIf "CREATE" then return ← creation inner
  let c ←
    if ← wordIf "DROP" then removal
    else if ← wordsIf "ALTER" ["TABLE"] then
      let n ← objectName
      pure (.alterTable n (← tableChange inner))
    else
      match ← transactionCommand? with
      | some c => pure c
      | none =>
        match ← maintenanceCommand? inner with
        | some c => pure c
        | none =>
          match ← rowCommand? inner with
          | some (.insert i) => pure (.insert i)
          | some (.update u) => pure (.update u)
          | some (.delete d) => pure (.delete d)
          | some (.select q) => pure (.select q)
          | none => unexpected
  if !(c matches .alterTable _ (.addColumn _ (some _) _)) then atEnd
  return c

/-- Takes a command, or one that is only looked at. -/
def anyCommand (inner : Level) : Reader Command := do
  if ← wordIf "EXPLAIN" then
    let isPlan ← wordsIf "QUERY" ["PLAN"]
    return .explain isPlan (← plainCommand inner)
  plainCommand inner

/-- A command with its parameters that have names. -/
structure ReadCommand where
  command : Command
  parameters : List (String × Nat)
  /-- What follows the command. -/
  rest : List Lexeme

/-- Reads the command at the front of the lexemes of a text. -/
def command (lexemes : List Lexeme) : Except Fault ReadCommand := do
  let (c, s) ← (anyCommand (level (lexemes.length + 1))).run { lexemes := lexemes }
  return { command := c, parameters := s.parameters, rest := s.lexemes }

end SchemaEvolution.Database.Grammar
