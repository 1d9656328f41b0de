import SchemaEvolution.Change.Walk

/-!
# Walking from a stack

`Plan.walk` takes the steps of a plan from a stack.  Here it is shown to go through them block by
block, whatever a walker does.

* `Plan.drain_push_operation`, `Plan.drain_push_guarded`: what becomes of the step on top.
* `Plan.drain_append_reverse`: draining a stack with a plan on top is walking through the plan,
  block by block, and then draining what is below.
* `Plan.walk_eq_walkNested`: so the stack makes no difference.
-/

namespace SchemaEvolution.Plan

variable {m : Type → Type} [Monad m] (w : Walker m)

/-- An empty stack needs nothing. -/
theorem drain_empty : drain w #[] = pure () := by
  unfold drain
  rfl

/-- An operation on top of a stack is performed before what is below it. -/
theorem drain_push_operation (stack : Array Step) (op : Operation) :
    drain w (stack.push (.operation op)) = (do w.perform op; drain w stack) := by
  rw [drain]
  split
  · rename_i htop
    simp at htop
  · rename_i htop
    simp only [Array.back?_push, Option.some.injEq, Step.operation.injEq] at htop
    rw [htop, Array.pop_push]
  · rename_i htop
    simp at htop

/-- A guard on top of a stack is replaced by its block in reverse, or by nothing. -/
theorem drain_push_guarded (stack : Array Step) (table : String) (expectsTable : Bool)
    (block : Plan) :
    drain w (stack.push (.guarded table expectsTable block)) =
      (do
        if ← w.enters table expectsTable then
          drain w (stack ++ block.reverse)
        else
          drain w stack) := by
  rw [drain]
  split
  · rename_i htop
    simp at htop
  · rename_i htop
    simp at htop
  · rename_i htop
    simp only [Array.back?_push, Option.some.injEq, Step.guarded.injEq] at htop
    obtain ⟨rfl, rfl, rfl⟩ := htop
    rw [Array.pop_push]

variable [LawfulMonad m]

mutual

/-- Draining a stack begins with the step on top, its block included. -/
theorem drain_push : ∀ (step : Step) (stack : Array Step),
    drain w (stack.push step) = (do step.walkNested w; drain w stack)
  | .operation op, stack => by
    rw [drain_push_operation, Step.walkNested]
  | .guarded table expectsTable block, stack => by
    rw [drain_push_guarded, Step.walkNested, bind_assoc]
    congr 1
    funext entered
    cases entered with
    | false => simp
    -- The block went onto the stack in reverse, above the steps that were there.
    | true => exact drain_append_reverse block stack

/-- Draining a stack begins with the plan that was put on top in reverse. -/
theorem drain_append_reverse : ∀ (plan : Plan) (stack : Array Step),
    drain w (stack ++ plan.reverse) = (do walkNested w plan; drain w stack)
  | [], stack => by
    simp [walkNested]
  | step :: steps, stack => by
    have hpush : stack ++ (step :: steps).reverse = (stack ++ steps.reverse).push step := by
      apply Array.toList_inj.mp
      simp
    rw [hpush, drain_push step, walkNested, bind_assoc]
    congr 1
    funext _
    exact drain_append_reverse steps stack

end

/-- Walking through a plan from a stack and block by block is the same. -/
theorem walk_eq_walkNested (plan : Plan) : walk w plan = walkNested w plan := by
  have hempty : plan.reverse.toArray = (#[] : Array Step) ++ plan.reverse := by
    simp
  rw [walk, hempty, drain_append_reverse, drain_empty]
  exact bind_pure _

end SchemaEvolution.Plan
