import SchemaEvolution.Migration.Execution
import SchemaEvolution.Proofs.Scripts
import SchemaEvolution.Proofs.Walks

/-!
# The effect of executing a plan

`Plan.execute` takes the steps of a plan from a stack.  What it does to a session is `Plan.effect`,
which knows neither scripts nor a stack: it goes through the steps in order, and through the block
of a guard whose table is as expected before it goes on.

* `Plan.run_walkNested`: executing block by block has the effect of the plan, and so has executing
  from a stack (`Plan.run_execute`).
* `Plan.effect_append` and `Plan.effect_guarded`: plans one after the other, and a guard among other
  steps.
* `Plan.effect_enclosed`: a plan inside blocks inside blocks, which is reached if all of them are
  entered (`Session.approach`).
* `Plan.execute_eq_effect` puts all this together.
-/

namespace SchemaEvolution

/-! ## The effect of a plan -/

variable {σ : Type}

mutual

/-- What a step does to a session.  An operation that cannot be compiled calls nothing. -/
def Step.effect (s : Session σ) : Step → σ → Run σ Unit
  | .operation op, state =>
    match op.compile s.dialect with
    | .ok statements => s.callAll statements state
    | .error reason => ⟨.error (.invalidOperation reason), state, []⟩
  | .guarded table expectsTable block, state =>
    (s.ask (s.dialect.catalog.lookup table) state).andThen fun rows state' =>
      if (!rows.isEmpty) == expectsTable then Plan.effect s block state'
      else ⟨.ok (), state', []⟩

/-- What a plan does to a session: what its steps do in order, up to the first error. -/
def Plan.effect (s : Session σ) : Plan → σ → Run σ Unit
  | [], state => ⟨.ok (), state, []⟩
  | step :: steps, state => (step.effect s state).andThen fun _ => Plan.effect s steps

end

variable (s : Session σ)

/-- Executing an operation calls its statements, if it has any. -/
theorem Operation.run_execute (op : Operation) (state : σ) :
    s.run (op.execute s.dialect) state = Step.effect s (.operation op) state := by
  rw [Operation.execute, Step.effect]
  cases op.compile s.dialect with
  | error reason => rfl
  | ok statements => exact s.run_sendAll statements state

mutual

/-- Executing a step with its block has the effect of the step. -/
theorem Step.run_walkNested : ∀ (step : Step) (state : σ),
    s.run (step.walkNested (executor s.dialect)) state = step.effect s state
  | .operation op, state => by
    rw [Step.walkNested]
    exact Operation.run_execute s op state
  | .guarded table expectsTable block, state => by
    have hasked : (executor s.dialect).enters table expectsTable =
        isEntered s.dialect table expectsTable := rfl
    rw [Step.walkNested, Step.effect, hasked, isEntered, TableCatalog.hasTable]
    simp only [bind_assoc, pure_bind]
    rw [Session.run_bind, Session.run_send]
    congr 1
    funext rows state'
    split
    · exact Plan.run_walkNested block state'
    · rfl

/-- Executing a plan block by block has the effect of the plan. -/
theorem Plan.run_walkNested : ∀ (plan : Plan) (state : σ),
    s.run (Plan.walkNested (executor s.dialect) plan) state = Plan.effect s plan state
  | [], state => by
    rw [Plan.walkNested, Plan.effect]
    rfl
  | step :: steps, state => by
    rw [Plan.walkNested, Plan.effect, Session.run_bind, Step.run_walkNested step state]
    congr 1
    funext _ state'
    exact Plan.run_walkNested steps state'

end

/-- Executing a plan has its effect. -/
theorem Plan.run_execute (plan : Plan) (state : σ) :
    s.run (Plan.execute s.dialect plan) state = Plan.effect s plan state := by
  rw [Plan.execute, Plan.walk_eq_walkNested, Plan.run_walkNested]

/-- Plans one after the other have their effects one after the other. -/
theorem Plan.effect_append (a b : Plan) (state : σ) :
    Plan.effect s (a ++ b) state =
      (Plan.effect s a state).andThen fun _ => Plan.effect s b := by
  induction a generalizing state with
  | nil => rw [List.nil_append, Plan.effect, Run.andThen_ok, List.nil_append]
  | cons step steps ih =>
    rw [List.cons_append, Plan.effect, Plan.effect, Run.andThen_assoc]
    congr 1
    funext _ state'
    exact ih state'

/-- The effect of a plan up to a guard, the question the guard asks, and the effect of what is left,
with the block in place of the guard or without it. -/
theorem Plan.effect_guarded (before block rest : Plan) (table : String) (expectsTable : Bool)
    (state : σ) :
    Plan.effect s (before ++ .guarded table expectsTable block :: rest) state =
      (Plan.effect s before state).andThen fun _ state =>
        (s.ask (s.dialect.catalog.lookup table) state).andThen fun rows =>
          Plan.effect s (if (!rows.isEmpty) == expectsTable then block ++ rest else rest) := by
  rw [Plan.effect_append]
  congr 1
  funext _ state
  rw [Plan.effect, Step.effect, Run.andThen_assoc]
  congr 1
  funext rows state'
  cases (!rows.isEmpty) == expectsTable with
  | false => simp
  | true => simp [Plan.effect_append]

/-! ## Blocks within blocks -/

/-- What is around a place inside a block: the steps before the block, its guard, and the steps
after it. -/
structure Enclosure where
  before : Plan
  table : String
  expectsTable : Bool
  rest : Plan

/-- The plan with another one inside blocks, of which the first is the outermost. -/
def Plan.enclosed (enclosures : List Enclosure) (plan : Plan) : Plan :=
  enclosures.foldr
    (fun e inner => e.before ++ .guarded e.table e.expectsTable inner :: e.rest) plan

/-- Goes to a place inside blocks: through what is declared before each of them, asking their guards
on the way, up to the first one that is not entered.  The value says whether the place is reached,
and which steps are left from there on outwards. -/
def Session.approach (s : Session σ) : List Enclosure → σ → Run σ (Bool × Plan)
  | [], state => ⟨.ok (true, []), state, []⟩
  | e :: enclosures, state =>
    (Plan.effect s e.before state).andThen fun _ state =>
      (s.ask (s.dialect.catalog.lookup e.table) state).andThen fun rows state =>
        if (!rows.isEmpty) == e.expectsTable then
          (s.approach enclosures state).andThen fun (reached, pending) state =>
            ⟨.ok (reached, pending ++ e.rest), state, []⟩
        else ⟨.ok (false, e.rest), state, []⟩

/-- A plan inside blocks has its effect if its place is reached, and none otherwise. -/
theorem Plan.effect_enclosed (enclosures : List Enclosure) (plan : Plan) (state : σ) :
    Plan.effect s (Plan.enclosed enclosures plan) state =
      (s.approach enclosures state).andThen fun (reached, pending) =>
        Plan.effect s ((if reached then plan else []) ++ pending) := by
  -- From the outermost block inwards; what is pending is the rest of all the blocks around.
  induction enclosures generalizing state with
  | nil => simp [Plan.enclosed, Session.approach]
  | cons e enclosures ih =>
    have hcons : Plan.enclosed (e :: enclosures) plan =
        e.before ++ .guarded e.table e.expectsTable (Plan.enclosed enclosures plan) :: e.rest := rfl
    rw [hcons, Plan.effect_guarded, Session.approach, Run.andThen_assoc]
    congr 1
    funext _ state
    rw [Run.andThen_assoc]
    congr 1
    funext rows state
    cases (!rows.isEmpty) == e.expectsTable with
    | false => simp
    | true =>
      simp only [if_true]
      rw [Plan.effect_append, ih, Run.andThen_assoc, Run.andThen_assoc]
      congr 1
      funext found state
      rw [Run.andThen_ok, ← Plan.effect_append, List.append_assoc]
      rfl

/-- Executing a plan from a stack has the effect of the plan on every session: the same result, the
same state at the end and the same calls with the same answers in the same order.

In particular, take a guard at any depth.  It is reached through all that is declared before it, and
asks its question only then; what is left is what follows it, with its block in front or without it.
If one of the blocks around it is not entered, it plays no part.  And plans one after the other are
executed one after the other. -/
theorem Plan.execute_eq_effect (s : Session σ) :
    (∀ plan state,
      s.run (Plan.execute s.dialect plan) state = Plan.effect s plan state) ∧
    (∀ enclosures before table expectsTable block rest state,
      s.run (Plan.execute s.dialect
          (Plan.enclosed enclosures (before ++ .guarded table expectsTable block :: rest))) state =
        (s.approach enclosures state).andThen fun (reached, pending) state =>
          if reached then
            (s.run (Plan.execute s.dialect before) state).andThen fun _ state =>
              (s.ask (s.dialect.catalog.lookup table) state).andThen fun rows =>
                s.run (Plan.execute s.dialect
                  ((if (!rows.isEmpty) == expectsTable then block ++ rest else rest) ++ pending))
          else s.run (Plan.execute s.dialect pending) state) ∧
    (∀ a b state,
      s.run (Plan.execute s.dialect (a ++ b)) state =
        (s.run (Plan.execute s.dialect a) state).andThen fun _ =>
          s.run (Plan.execute s.dialect b)) := by
  have hrun : ∀ plan, s.run (Plan.execute s.dialect plan) = Plan.effect s plan := fun plan =>
    funext (Plan.run_execute s plan)
  refine ⟨Plan.run_execute s, ?_, ?_⟩
  · intro enclosures before table expectsTable block rest state
    simp only [hrun]
    rw [Plan.effect_enclosed]
    congr 1
    funext found state
    obtain ⟨reached, pending⟩ := found
    cases reached with
    | false => rfl
    | true =>
      simp only [if_true, List.append_assoc, List.cons_append]
      rw [Plan.effect_guarded]
      congr 1
      funext _ state
      congr 1
      funext rows
      split <;> simp only [List.append_assoc]
  · intro a b state
    simp only [hrun]
    exact Plan.effect_append s a b state

end SchemaEvolution
