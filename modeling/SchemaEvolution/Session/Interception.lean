import SchemaEvolution.Session.Recorder

/-!
# Interception

A session can be put behind rules that answer statements in its place, with rows or with an error.
A rule may be good for a number of uses only.  Statements without a rule reach the session.
-/

namespace SchemaEvolution

/-- An answer to the statements that begin in some way. -/
structure Rule where
  opening : String
  /-- How many uses are left; any number without a value. -/
  uses : Option Nat
  answer : Except MigrationError (List Row)

namespace Rule

/-- The rule has a use left. -/
def isLeft (r : Rule) : Bool :=
  r.uses != some 0

/-- The rule with one use less. -/
def used (r : Rule) : Rule :=
  { r with uses := r.uses.map (· - 1) }

/-- The answer of the first rule that fits a statement, and the rules that are left after it.  An
error blames the statement. -/
def firstAnswer (sql : String) :
    List Rule → Option (Except MigrationError (List Row) × List Rule)
  | [] => none
  | rule :: rules =>
    if rule.isLeft && beginsWith sql rule.opening then
      some (rule.answer.mapError (.withSql sql), rule.used :: rules)
    else (firstAnswer sql rules).map fun (answer, left) => (answer, rule :: left)

end Rule

namespace Session

/-- The session behind rules, which are part of the state. -/
def intercepted {σ : Type} (s : Session σ) : Session (List Rule × σ) where
  dialect := s.dialect
  call statement := fun (rules, state) =>
    match Rule.firstAnswer (s.dialect.render statement) rules with
    | some (answer, left) => (answer, left, state)
    | none =>
      let (answer, state') := s.call statement state
      (answer, rules, state')

end Session

end SchemaEvolution
