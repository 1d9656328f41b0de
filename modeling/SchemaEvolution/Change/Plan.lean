import SchemaEvolution.Change.Operation

/-!
# Plans

A `Plan` is what a migration body declares: steps in order, each an operation or a block of steps
that is entered only if a table exists, or only if it does not.
-/

namespace SchemaEvolution

/-- One step of a plan. -/
inductive Step where
  | operation (op : Operation)
  /-- A block that is entered only if it is as expected whether the table exists (`Guard`). -/
  | guarded (table : String) (expectsTable : Bool) (block : List Step)

/-- The steps that a migration body declares, in order (`Schema`). -/
abbrev Plan := List Step

/-- What comes of a migration body: the plan it declares, or the error it stops with. -/
abbrev Body := Except MigrationError Plan

mutual

/-- Equality of steps whose defaults are compared as values. -/
def Step.equal : Step → Step → Bool
  | .operation op, .operation op' => op.equal op'
  | .guarded table expects block, .guarded table' expects' block' =>
    table == table' && expects == expects' && Plan.equal block block'
  | _, _ => false

/-- Equality of plans whose defaults are compared as values. -/
def Plan.equal : Plan → Plan → Bool
  | [], [] => true
  | step :: steps, step' :: steps' => step.equal step' && Plan.equal steps steps'
  | _, _ => false

end

mutual

/-- The number of operations and blocks in a step. -/
def Step.size : Step → Nat
  | .operation _ => 1
  | .guarded _ _ block => 1 + Plan.size block

/-- The number of operations and blocks in a plan, at any depth. -/
def Plan.size : Plan → Nat
  | [] => 0
  | step :: steps => step.size + Plan.size steps

end

@[simp] theorem Plan.size_append (a b : Plan) :
    Plan.size (a ++ b) = Plan.size a + Plan.size b := by
  induction a with
  | nil => simp [Plan.size]
  | cons step steps ih => simp [Plan.size, ih, Nat.add_assoc]

@[simp] theorem Plan.size_reverse (plan : Plan) : Plan.size plan.reverse = Plan.size plan := by
  induction plan with
  | nil => rfl
  | cons step steps ih =>
    rw [List.reverse_cons, Plan.size_append, ih]
    simp only [Plan.size]
    omega

/-- The size of a stack is that of what is below its top, and that of the top. -/
theorem Plan.size_stack {stack : Array Step} {step : Step} (h : stack.back? = some step) :
    Plan.size stack.toList = Plan.size stack.pop.toList + step.size := by
  obtain ⟨below, rfl⟩ := Array.back?_eq_some_iff.mp h
  simp [Plan.size]

end SchemaEvolution
