import SchemaEvolution.Change.Plan

/-!
# Walking through a plan

The steps of a plan are taken one after the other.  An operation is performed; the block of a guard
is entered or not, and walked through before the step that follows it.  A `Walker` says how
operations are performed and which blocks are entered.

`Plan.walk` is the loop: it keeps the pending steps on a stack, the next one on top, to which an
entered block is added.  `Plan.walkNested` recurses into the block instead.
-/

namespace SchemaEvolution

/-- What is done on the way through a plan. -/
structure Walker (m : Type → Type) where
  /-- Performs an operation. -/
  perform : Operation → m Unit
  /-- Says whether the block of a guard is to be entered. -/
  enters : (table : String) → (expectsTable : Bool) → m Bool

variable {m : Type → Type} [Monad m]

/-- Walks through the steps of a stack from the top, which is its end.  The steps of a block that is
entered go onto the stack in reverse, so that they come next, the first one first.  This is the loop
of `execute`, and that of `sql_for_session`. -/
def Plan.drain (w : Walker m) (stack : Array Step) : m Unit :=
  match _top : stack.back? with
  | none => pure ()
  | some (.operation op) => do
    w.perform op
    Plan.drain w stack.pop
  | some (.guarded table expectsTable block) => do
    if ← w.enters table expectsTable then
      Plan.drain w (stack.pop ++ block.reverse)
    else
      Plan.drain w stack.pop
termination_by Plan.size stack.toList
decreasing_by
  · simp [Plan.size_stack _top, Step.size]
  · simp only [Plan.size_stack _top, Step.size, Array.toList_appendList, Plan.size_append,
      Plan.size_reverse]
    omega
  · simp only [Plan.size_stack _top, Step.size]; omega

/-- Walks through steps in order. -/
def Plan.walk (w : Walker m) (plan : Plan) : m Unit :=
  Plan.drain w plan.reverse.toArray

mutual

/-- Walks through one step, its block included. -/
def Step.walkNested (w : Walker m) : Step → m Unit
  | .operation op => w.perform op
  | .guarded table expectsTable block => do
    if ← w.enters table expectsTable then Plan.walkNested w block else pure ()

/-- Walks through steps in order, each with its block. -/
def Plan.walkNested (w : Walker m) : Plan → m Unit
  | [] => pure ()
  | step :: steps => do
    step.walkNested w
    Plan.walkNested w steps

end

end SchemaEvolution
