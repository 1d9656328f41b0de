import SchemaEvolution.Database.Grammar.Query

/-!
# The grammar of declarations

What a statement says about a new table, or about a new column.  It is read declaration by
declaration: a fault in the text ends the list, and the declarations before it are kept, since what
is wrong with them counts first.  Only the last of them does not, if the fault follows it at once.
-/

namespace SchemaEvolution.Database.Grammar

open Reader

/-! ## Parts of declarations -/

/-- The words for what is done about a conflict. -/
def conflictWords : List (String × Conflict) :=
  [("ROLLBACK", .rollback), ("ABORT", .abort), ("FAIL", .fail), ("IGNORE", .ignore),
    ("REPLACE", .replace)]

/-- Takes what is done about a conflict. -/
def conflict : Reader Conflict := do
  match ← oneOf? conflictWords with
  | some c => return c
  | none => unexpected

/-- Takes what is done about a conflict if it is said. -/
def conflictIf : Reader (Option Conflict) := do
  if ← wordsIf "ON" ["CONFLICT"] then some <$> conflict else return none

/-- A text without white space around it. -/
def withoutSpace (cs : List Char) : String :=
  String.ofList ((cs.dropWhile Token.isSpace).reverse.dropWhile Token.isSpace).reverse

/-- Takes something in parentheses, and returns what stands between them as it is written. -/
def parenthesizedText {α : Type} (inner : Reader α) : Reader (α × String) := do
  sign "("
  let before ← rest
  let a ← inner
  let after ← rest
  sign ")"
  let between := (before.take (before.length - after.length)).flatMap Lexeme.all
  return (a, withoutSpace (between ++ (after.head?.map (·.blanks)).getD []))

/-- Takes an action upon a change of a key. -/
def keyAction : Reader KeyAction := do
  if ← wordIf "SET" then
    match ← oneOf? [("NULL", KeyAction.setNull), ("DEFAULT", .setDefault)] with
    | some action => return action
    | none => unexpected
  else if ← wordsIf "NO" ["ACTION"] then return .noAction
  else
    match ← oneOf? [("CASCADE", KeyAction.cascade), ("RESTRICT", .restrict)] with
    | some action => return action
    | none => unexpected

/-- Takes what happens to a foreign key, if it is said. -/
def referenceAction (r : ReferenceClause) : Reader (Option ReferenceClause) := do
  if ← wordIf "MATCH" then
    let _ ← name
    return some r
  else if ← wordIf "ON" then
    match ← oneOf? [("INSERT", RowEvent.insert), ("DELETE", .delete), ("UPDATE", .update)] with
    | some .delete => return some { r with onDelete := ← keyAction }
    | some .update => return some { r with onUpdate := ← keyAction }
    | some .insert =>
      let _ ← keyAction
      return some r
    | none => unexpected
  else return none

/-- Takes what a foreign key refers to, behind `REFERENCES`. -/
def referenceClause : Reader ReferenceClause := do
  let table ← name
  let columns ← columnNamesIf
  iterate referenceAction (← rest).length { table := table, columns := columns }

/-- Takes whether a foreign key is checked later, behind `DEFERRABLE`. -/
def deferral (deferrable : Bool) : Reader Declaration := do
  if ← wordIf "INITIALLY" then
    match ← oneOf? [("DEFERRED", true), ("IMMEDIATE", false)] with
    | some deferred => return .deferral (deferrable && deferred)
    | none => unexpected
  else return .deferral false

/-- Takes a literal that can be a default. -/
def defaultTerm : Reader Expression := do
  let l ← peek
  match l.token with
  | .number cs => advance; return .numeral (← numeral cs)
  | .blob bytes => advance; return .literal (.blob bytes)
  | .text s => advance; return .literal (.text s)
  | token =>
    if token.isWord "NULL" then
      advance
      return .literal .null
    match ["CURRENT_DATE", "CURRENT_TIME", "CURRENT_TIMESTAMP"].find? token.isWord with
    | some w => advance; return .clock w
    | none => unexpected

/-- Takes a default, behind `DEFAULT`. -/
def defaultValue (inner : Level) : Reader Declaration := do
  if ← atSign "(" then
    let (e, written) ← parenthesizedText inner.any
    return .defaultValue e written
  if (← atSign "+") || (← atSign "-") then
    let isMinus ← atSign "-"
    let (e, written) ← withWritten do
      advance
      defaultTerm
    return .defaultValue (.unary (if isMinus then .minus else .plus) e) written
  let l ← peek
  match nameOf? isFreeWord false l with
  | some n =>
    let isClock := ["CURRENT_DATE", "CURRENT_TIME", "CURRENT_TIMESTAMP"].any l.token.isWord
    if isClock then return .defaultValue (← defaultTerm) n.written
    advance
    let value : Cell :=
      if l.token.isWord "TRUE" then .integer 1
      else if l.token.isWord "FALSE" then .integer 0
      else .text n.text
    return .defaultValue (.literal value) n.written
  | none =>
    let (e, written) ← withWritten defaultTerm
    return .defaultValue e written

/-- Takes how a column is computed. -/
def generated (inner : Level) : Reader Declaration := do
  let e ← parenthesized inner.any
  return .generated e (← nameOfKind? isFreeWord false)

/-! ## Columns -/

/-- Takes something that is said about a column, if there is more. -/
def columnClause? (inner : Level) : Reader (Option Declaration) := do
  if ← wordIf "CONSTRAINT" then return some (.constraintName (← name))
  if ← wordIf "DEFAULT" then some <$> defaultValue inner
  else if ← wordIf "NULL" then
    let _ ← conflictIf
    return some .nullable
  else if ← wordIf "NOT" then
    if ← wordIf "NULL" then return some (.notNull (← conflictIf))
    word "DEFERRABLE"
    some <$> deferral false
  else if ← wordIf "DEFERRABLE" then some <$> deferral true
  else if ← wordsIf "PRIMARY" ["KEY"] then
    let descending := (← direction?).getD false
    let conflict ← conflictIf
    return some (.key descending conflict (← wordIf "AUTOINCREMENT"))
  else if ← wordIf "UNIQUE" then return some (.unique (← conflictIf))
  else if ← wordIf "CHECK" then
    let (e, written) ← parenthesizedText inner.any
    return some (.check e written)
  else if ← wordIf "REFERENCES" then return some (.references (← referenceClause))
  else if ← wordIf "COLLATE" then return some (.collate (← freeName))
  else if ← wordsIf "GENERATED" ["ALWAYS", "AS"] then some <$> generated inner
  else if ← wordIf "AS" then some <$> generated inner
  else return none

/-- Takes the name and type of a column. -/
def columnHead : Reader Declaration := do
  let n ← name
  return .column n (← typeName)

/-! ## Constraints of tables -/

/-- Takes a constraint of a table, if there is one. -/
def tableConstraint? (inner : Level) : Reader (Option Declaration) := do
  if ← wordIf "CONSTRAINT" then return some (.constraintName (← name))
  if ← wordsIf "PRIMARY" ["KEY"] then
    let (terms, autoincrement) ← parenthesized do
      let terms ← orderTerms inner
      return (terms, ← wordIf "AUTOINCREMENT")
    return some (.keyOf terms autoincrement (← conflictIf))
  else if ← wordIf "UNIQUE" then
    let terms ← parenthesized (orderTerms inner)
    return some (.uniqueOf terms (← conflictIf))
  else if ← wordIf "CHECK" then
    let (e, written) ← parenthesizedText inner.any
    let _ ← conflictIf
    return some (.check e written)
  else if ← wordsIf "FOREIGN" ["KEY"] then
    let columns ← columnNames
    word "REFERENCES"
    return some (.referencesOf columns (← referenceClause))
  else return none

/-- Takes whether the last foreign key of a table is checked later, if it is said. -/
def tableDeferral? : Reader (Option Declaration) := do
  if ← wordIf "NOT" then
    word "DEFERRABLE"
    some <$> deferral false
  else if ← wordIf "DEFERRABLE" then some <$> deferral true
  else return none

/-! ## Lists of declarations -/

/-- What can come next in a list of declarations. -/
inductive Phase where
  | column
  | clauses
  | constraint
  | constraints
  | reference
  | firstOption
  | moreOptions
  | finished
deriving DecidableEq

/-- Takes an option of a table. -/
def tableOption : Reader (List Declaration × Phase) := do
  if ← wordIf "WITHOUT" then return ([.option true (← name)], .moreOptions)
  return ([.option false (← name)], .moreOptions)

/-- A constraint of a table begins. -/
def atConstraint : Reader Bool :=
  atToken fun t => ["CONSTRAINT", "PRIMARY", "UNIQUE", "CHECK", "FOREIGN"].any t.isWord

/-- Takes a constraint of a table, which must be there. -/
def tableConstraint (inner : Level) : Reader (List Declaration × Phase) := do
  match ← tableConstraint? inner with
  | some d => return ([d], if d matches .referencesOf .. then .reference else .constraints)
  | none => unexpected

/-- Notes where the columns end. -/
def columnsEnd : Reader Declaration := do
  return .columnsEnd (← peek).place

/-- Takes what comes next between constraints of a table. -/
def betweenConstraints (inner : Level) : Reader (List Declaration × Phase) := do
  if ← signIf ")" then return ([], .firstOption)
  if ← signIf "," then return ([.constraintEnd], .constraint)
  tableConstraint inner

/-- Takes what comes next in the declarations of a table. -/
def declarationStep (inner : Level) : Phase → Reader (List Declaration × Phase)
  | .column => do return ([← columnHead], .clauses)
  | .clauses => do
    let here ← columnsEnd
    if ← signIf ")" then return ([here], .firstOption)
    if ← signIf "," then
      if ← atConstraint then return ([here], .constraint) else return ([], .column)
    match ← columnClause? inner with
    | some d => return ([d], .clauses)
    | none => unexpected
  | .constraint => tableConstraint inner
  | .constraints => betweenConstraints inner
  | .reference => do
    match ← tableDeferral? with
    | some d => return ([d], .constraints)
    | none => betweenConstraints inner
  | .firstOption => do
    let l ← peek
    if l.token.isWord "WITHOUT" || (nameOf? isNameWord true l).isSome then tableOption
    else return ([.complete], .finished)
  | .moreOptions => do
    if ← signIf "," then tableOption else return ([.complete], .finished)
  | .finished => unexpected

/-- A step fails at the very next lexeme: it would also do so if the text ended behind that. -/
def failsAtOnce (step : Reader (List Declaration × Phase)) (s : Input) : Bool :=
  let last : Lexeme := { token := .finish, written := [] }
  match step.run { s with lexemes := s.lexemes.take 1 ++ [last] } with
  | .error .incomplete => s.lexemes.head?.all (·.token = .finish)
  | .error _ => true
  | .ok _ => false

/-- The last declaration may go on. -/
def Phase.isOpen : Phase → Bool
  | .clauses | .constraints | .reference | .moreOptions => true
  | _ => false

/-- Takes the declarations from a phase on, at most so many steps.  A fault that a step meets at the
very next lexeme takes the place of what the last declaration may have wrong, if that may go on. -/
def declarationsFrom (step : Phase → Reader (List Declaration × Phase)) :
    (steps : Nat) → Phase → List Declaration → Reader (List Declaration × Option Fault)
  | 0, _, ds => return (ds, some .tooDeep)
  | steps + 1, phase, ds => do
    if phase = .finished then return (ds, none)
    let s ← get
    match ← attempt (step phase) with
    | .ok (more, next) => declarationsFrom step steps next (ds ++ more)
    | .error fault =>
      return (if phase.isOpen && failsAtOnce (step phase) s then ds.dropLast else ds, some fault)

/-- Takes the declarations of a table behind its opening parenthesis, with its options. -/
def tableDeclarations (inner : Level) : Reader (List Declaration × Option Fault) := do
  declarationsFrom (declarationStep inner) (2 * (← rest).length + 2) .column []

/-- Takes what comes next in the declarations of a new column. -/
def columnStep (inner : Level) : Phase → Reader (List Declaration × Phase)
  | .column => do return ([← columnHead], .clauses)
  | _ => do
    match ← columnClause? inner with
    | some d => return ([d], .clauses)
    | none =>
      let l ← peek
      if l.token = .finish || l.token = .sign ";" then return ([], .finished) else unexpected

/-- Takes the declarations of a new column. -/
def columnDeclarations (inner : Level) : Reader (List Declaration × Option Fault) := do
  declarationsFrom (columnStep inner) (2 * (← rest).length + 2) .column []

end SchemaEvolution.Database.Grammar
