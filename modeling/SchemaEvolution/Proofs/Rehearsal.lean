import SchemaEvolution.Change.Preview
import SchemaEvolution.Proofs.Conversations
import SchemaEvolution.Proofs.Course

/-!
# Previews and rehearsals

A rehearsal executes a plan on a session that writes every statement down and answers nothing.  A
preview goes through the plan without a session.  Both come to the same operations in the same order
(`Plan.traversal`), and stop at the first one that cannot be compiled.

* `Operation.verdict` and `Operation.issued`: how operations in order end, and the texts that they
  give until then.
* `Plan.run_previewer`, `Plan.preview_eq`: a preview has the texts of its traversal.
* `Plan.carries_effect`: so does a rehearsal, up to the questions to the catalog.
* `Plan.preview_iff_rehearse` puts the two together.
-/

namespace SchemaEvolution

/-! ## Operations in order -/

mutual

/-- The operations of a step that a database without tables comes to. -/
def Step.traversal : Step → List Operation
  | .operation op => [op]
  | .guarded _ expectsTable block => if expectsTable then [] else Plan.traversal block

/-- The operations of a plan that a database without tables comes to, in order. -/
def Plan.traversal : Plan → List Operation
  | [] => []
  | step :: steps => step.traversal ++ Plan.traversal steps

end

namespace Operation

variable (d : Dialect)

/-- How operations in order end: well, or with the first reason against one of them. -/
def verdict : List Operation → Except Rejection Unit
  | [] => .ok ()
  | op :: ops =>
    match op.compile d with
    | .ok _ => verdict ops
    | .error reason => .error reason

/-- The texts of the statements of operations in order, up to the first one that cannot be compiled.
-/
def issued : List Operation → List String
  | [] => []
  | op :: ops =>
    match op.compile d with
    | .ok statements => statements.map d.render ++ issued ops
    | .error _ => []

theorem issued_singleton {op : Operation} {statements : List Statement}
    (h : op.compile d = .ok statements) : issued d [op] = statements.map d.render := by
  rw [issued, h]
  exact List.append_nil _

theorem verdict_append (a b : List Operation) :
    verdict d (a ++ b) = (verdict d a).bind fun _ => verdict d b := by
  induction a with
  | nil => rfl
  | cons op ops ih =>
    rw [List.cons_append, verdict, verdict]
    cases op.compile d with
    | ok statements => exact ih
    | error reason => rfl

theorem issued_append_of_ok {a : List Operation} (h : verdict d a = .ok ()) (b : List Operation) :
    issued d (a ++ b) = issued d a ++ issued d b := by
  induction a with
  | nil => rfl
  | cons op ops ih =>
    rw [verdict] at h
    rw [List.cons_append, issued, issued]
    cases hcompile : op.compile d with
    | ok statements =>
      rw [hcompile] at h
      simp only [ih h, List.append_assoc]
    | error reason =>
      rw [hcompile] at h
      cases h

/-- Nothing is issued after an operation that cannot be compiled. -/
theorem issued_append_of_error {a : List Operation} {reason : Rejection}
    (h : verdict d a = .error reason) (b : List Operation) : issued d (a ++ b) = issued d a := by
  induction a with
  | nil => cases h
  | cons op ops ih =>
    rw [verdict] at h
    rw [List.cons_append, issued, issued]
    cases hcompile : op.compile d with
    | ok statements =>
      rw [hcompile] at h
      simp only [ih h]
    | error reason => rfl

/-- Operations that end badly do so at one of them; those before it have been issued, and nothing
else. -/
theorem exists_of_verdict {ops : List Operation} {reason : Rejection}
    (h : verdict d ops = .error reason) : ∃ before op after statements,
      ops = before ++ op :: after ∧ before.mapM (compile d) = .ok statements ∧
      op.compile d = .error reason ∧ issued d ops = statements.flatten.map d.render := by
  induction ops with
  | nil => cases h
  | cons op ops ih =>
    rw [verdict] at h
    rw [issued]
    cases hcompile : op.compile d with
    | ok statements =>
      rw [hcompile] at h
      obtain ⟨before, op', after, rest, rfl, hbefore, hreason, hissued⟩ := ih h
      refine ⟨op :: before, op', after, statements :: rest, rfl, ?_, hreason, ?_⟩
      · rw [List.mapM_cons, hcompile, hbefore]
        rfl
      · rw [List.flatten_cons, List.map_append, ← hissued]
    | error reason' =>
      rw [hcompile] at h
      cases h
      exact ⟨[], op, ops, [], rfl, rfl, hcompile, rfl⟩

end Operation

/-! ## Previews -/

/-- An operation adds the texts of its statements to a preview. -/
theorem Operation.run_previewer (d : Dialect) (op : Operation) (texts : List String) :
    ((previewer d).perform op).run texts =
      (op.compile d).map fun statements => ((), texts ++ statements.map d.render) := by
  simp only [previewer]
  cases op.compile d <;> rfl

mutual

/-- A step adds the texts of its traversal to a preview. -/
theorem Step.run_previewer (d : Dialect) : ∀ (step : Step) (texts : List String),
    (step.walkNested (previewer d)).run texts =
      (Operation.verdict d step.traversal).map fun _ =>
        ((), texts ++ Operation.issued d step.traversal)
  | .operation op, texts => by
    rw [Step.walkNested, Step.traversal, Operation.run_previewer, Operation.verdict]
    cases hcompile : op.compile d with
    | error reason => rfl
    | ok statements =>
      rw [Operation.issued_singleton d hcompile]
      rfl
  | .guarded table expectsTable block, texts => by
    rw [Step.walkNested, Step.traversal]
    cases expectsTable with
    | true =>
      rw [if_pos rfl, Operation.issued, List.append_nil]
      rfl
    | false => exact Plan.run_previewer d block texts

/-- A plan adds the texts of its traversal to a preview. -/
theorem Plan.run_previewer (d : Dialect) : ∀ (plan : Plan) (texts : List String),
    (Plan.walkNested (previewer d) plan).run texts =
      (Operation.verdict d plan.traversal).map fun _ =>
        ((), texts ++ Operation.issued d plan.traversal)
  | [], texts => by
    rw [Plan.walkNested, Plan.traversal, Operation.issued, List.append_nil]
    rfl
  | step :: steps, texts => by
    rw [Plan.walkNested, Plan.traversal, StateT.run_bind, Step.run_previewer d step texts,
      Operation.verdict_append]
    cases hstep : Operation.verdict d step.traversal with
    | error reason => rfl
    | ok _ =>
      rw [Operation.issued_append_of_ok d hstep, ← List.append_assoc]
      exact Plan.run_previewer d steps _

end

/-- The preview of a plan has the texts of its traversal. -/
theorem Plan.preview_eq (d : Dialect) (plan : Plan) : Plan.preview d plan =
    (Operation.verdict d plan.traversal).map fun _ => Operation.issued d plan.traversal := by
  rw [Plan.preview, Plan.walk_eq_walkNested, Plan.run_previewer]
  cases Operation.verdict d plan.traversal <;> rfl

/-- And so has that of a migration body. -/
theorem Body.preview_eq_verdict (d : Dialect) (plan : Plan) :
    Body.preview d (.ok plan) = ((Operation.verdict d plan.traversal).map
      fun _ => Operation.issued d plan.traversal).mapError .invalidOperation :=
  congrArg (Except.mapError MigrationError.invalidOperation) (plan.preview_eq d)

/-! ## Texts that are recorded -/

/-- The texts that are no questions to a catalog. -/
def commands (log : List String) : List String :=
  log.filter fun text => !beginsWith text "SELECT * FROM"

theorem commands_append (a b : List String) : commands (a ++ b) = commands a ++ commands b :=
  List.filter_append ..

/-- A statement that defines something is no question. -/
theorem Statement.Defines.asksNothing {statement : Statement} (h : statement.Defines)
    (d : Dialect) : beginsWith (d.render statement) "SELECT * FROM" = false := by
  rcases h with h | h | h
  · exact d.beginsWith_eq_false h rfl (by decide)
  · exact d.beginsWith_eq_false h rfl (by decide)
  · exact d.beginsWith_eq_false h rfl (by decide)

theorem TableCatalog.asks (catalog : TableCatalog) (table : String) (d : Dialect) :
    beginsWith (d.render (catalog.lookup table)) "SELECT * FROM" = true :=
  d.beginsWith_render_clause "SELECT * FROM" _

/-- The statements of an operation are no questions. -/
theorem Operation.commands_compile {d : Dialect} {op : Operation} {statements : List Statement}
    (h : op.compile d = .ok statements) :
    commands (statements.map d.render) = statements.map d.render := by
  refine List.filter_eq_self.mpr fun text htext => ?_
  obtain ⟨statement, hmem, rfl⟩ := List.mem_map.mp htext
  rw [(defines_of_mem_compile h hmem).asksNothing d]
  rfl

namespace Session

variable (d : Dialect) (log : List String)

/-- A recording session without responses writes a statement down and returns no rows. -/
theorem ask_recording (statement : Statement) :
    (recording d []).ask statement log =
      ⟨.ok [], log ++ [d.render statement], [.called statement (.ok [])]⟩ := rfl

/-- A recording session goes where its statements are written down. -/
theorem stateAfter_recording (responses : List Response) (statements : List Statement) :
    (recording d responses).stateAfter statements log = log ++ statements.map d.render := by
  induction statements generalizing log with
  | nil => simp
  | cons statement statements ih =>
    rw [stateAfter_cons, ih, List.map_cons, ← List.singleton_append, ← List.append_assoc]
    rfl

theorem callAll_recording (statements : List Statement) :
    ((recording d []).callAll statements log).result = .ok () ∧
      ((recording d []).callAll statements log).state = log ++ statements.map d.render := by
  induction statements generalizing log with
  | nil => exact ⟨rfl, (List.append_nil log).symm⟩
  | cons statement statements ih =>
    obtain ⟨hresult, hstate⟩ := ih (log ++ [d.render statement])
    rw [callAll, ask_recording, Run.andThen_ok]
    refine ⟨hresult, hstate.trans ?_⟩
    rw [List.map_cons, List.append_assoc, List.singleton_append]

end Session

/-! ## Rehearsals -/

/-- A run on a recording session ends as some operations do, and records what they issue. -/
def Run.Carries (r : Run (List String) Unit) (d : Dialect) (ops : List Operation)
    (log : List String) : Prop :=
  r.result = (Operation.verdict d ops).mapError .invalidOperation ∧
    commands r.state = commands log ++ Operation.issued d ops

/-- Runs in sequence carry operations in sequence. -/
theorem Run.Carries.andThen {d : Dialect} {a b : List Operation} {log : List String}
    {r : Run (List String) Unit} {next : Unit → List String → Run (List String) Unit}
    (h : r.Carries d a log) (hnext : ∀ state, (next () state).Carries d b state) :
    (r.andThen next).Carries d (a ++ b) log := by
  obtain ⟨result, state, events⟩ := r
  obtain ⟨hresult, hstate⟩ := h
  dsimp only at hresult hstate
  subst hresult
  rw [Carries, Operation.verdict_append]
  cases ha : Operation.verdict d a with
  | error reason =>
    rw [Operation.issued_append_of_error d ha]
    exact ⟨rfl, hstate⟩
  | ok _ =>
    obtain ⟨hresult', hstate'⟩ := hnext state
    rw [Operation.issued_append_of_ok d ha, ← List.append_assoc, ← hstate]
    exact ⟨hresult', hstate'⟩

mutual

/-- On a recording session a step carries its traversal. -/
theorem Step.carries_effect (d : Dialect) : ∀ (step : Step) (log : List String),
    (step.effect (.recording d []) log).Carries d step.traversal log
  | .operation op, log => by
    have hdialect : (Session.recording d []).dialect = d := rfl
    rw [Step.effect, Step.traversal, Run.Carries, Operation.verdict, hdialect]
    cases hcompile : op.compile d with
    | error reason =>
      rw [Operation.issued, hcompile]
      exact ⟨rfl, (List.append_nil _).symm⟩
    | ok statements =>
      obtain ⟨hresult, hstate⟩ := Session.callAll_recording d log statements
      refine ⟨hresult, ?_⟩
      rw [Operation.issued_singleton d hcompile]
      rw [hstate, commands_append, Operation.commands_compile hcompile]
  | .guarded table expectsTable block, log => by
    -- The question is recorded, answered by no rows, and does not count as a command.
    have hasked : commands (log ++ [d.render (d.catalog.lookup table)]) = commands log := by
      simp [commands, TableCatalog.asks]
    rw [Step.effect, Session.ask_recording, Run.andThen_ok, Step.traversal]
    cases expectsTable with
    | true => exact ⟨rfl, hasked.trans (List.append_nil _).symm⟩
    | false =>
      obtain ⟨hresult, hstate⟩ :=
        Plan.carries_effect d block (log ++ [d.render (d.catalog.lookup table)])
      rw [hasked] at hstate
      exact ⟨hresult, hstate⟩

/-- On a recording session a plan carries its traversal. -/
theorem Plan.carries_effect (d : Dialect) : ∀ (plan : Plan) (log : List String),
    (Plan.effect (.recording d []) plan log).Carries d plan.traversal log
  | [], log => by
    rw [Plan.effect, Plan.traversal]
    exact ⟨rfl, (List.append_nil _).symm⟩
  | step :: steps, log => by
    rw [Plan.effect, Plan.traversal]
    exact (Step.carries_effect d step log).andThen (Plan.carries_effect d steps)

end

namespace Plan

/-- Executes a plan on a session that records every statement and has no rows for any. -/
def rehearse (d : Dialect) (plan : Plan) : Run (List String) Unit :=
  (Session.recording d []).run (Plan.execute d plan) []

variable (d : Dialect) (plan : Plan)

theorem rehearse_eq_effect : rehearse d plan = effect (.recording d []) plan [] :=
  run_execute (.recording d []) plan []

theorem carries_rehearse : (rehearse d plan).Carries d plan.traversal [] := by
  rw [rehearse_eq_effect]
  exact carries_effect d plan []

/-- A rehearsal records the texts of what it calls. -/
theorem state_rehearse : (rehearse d plan).state = (rehearse d plan).calls.map d.render := by
  have hstate := (Session.recording d []).state_run (Plan.execute d plan) []
  rw [Session.stateAfter_recording, List.nil_append] at hstate
  exact hstate

/-- Those that begin as questions are the questions to the catalog. -/
theorem asks_iff_of_mem_calls {statement : Statement} (h : statement ∈ (rehearse d plan).calls) :
    beginsWith (d.render statement) "SELECT * FROM" = true ↔
      ∃ table, statement = d.catalog.lookup table := by
  constructor
  · intro hasks
    obtain ⟨answer, hcalled⟩ := Run.mem_calls_iff.mp h
    rw [rehearse_eq_effect] at hcalled
    obtain ⟨_, _, hevent, hdefines | hlookup⟩ :=
      mem_events_effect (.recording d []) plan [] hcalled
    · cases hevent
      rw [hdefines.asksNothing d] at hasks
      cases hasks
    · cases hevent
      exact hlookup
  · rintro ⟨table, rfl⟩
    exact d.catalog.asks table d

/-- A preview and a rehearsal agree.

* The preview has texts if the rehearsal comes to an end, and then they are what was recorded
  without the questions to the catalog.  It has an error if the rehearsal ends in this error.
* An error is the reason against an operation that the traversal comes to.  What was recorded,
  without the questions, are the texts of the operations before it.
* What was recorded are the texts of what was called, and what begins as a question is one. -/
theorem preview_iff_rehearse :
    (∀ texts, Body.preview d (.ok plan) = .ok texts ↔
      (rehearse d plan).result = .ok () ∧ texts = commands (rehearse d plan).state) ∧
    (∀ e, Body.preview d (.ok plan) = .error e ↔ (rehearse d plan).result = .error e) ∧
    (∀ e, Body.preview d (.ok plan) = .error e → ∃ before op after statements reason,
      plan.traversal = before ++ op :: after ∧
      before.mapM (Operation.compile d) = .ok statements ∧ op.compile d = .error reason ∧
      e = .invalidOperation reason ∧
      commands (rehearse d plan).state = statements.flatten.map d.render) ∧
    (rehearse d plan).state = (rehearse d plan).calls.map d.render ∧
    ∀ statement ∈ (rehearse d plan).calls,
      (beginsWith (d.render statement) "SELECT * FROM" = true ↔
        ∃ table, statement = d.catalog.lookup table) := by
  obtain ⟨hresult, hstate⟩ := carries_rehearse d plan
  have hissued : commands (rehearse d plan).state = Operation.issued d plan.traversal := hstate
  rw [Body.preview_eq_verdict, hresult, hissued]
  refine ⟨?_, ?_, ?_, state_rehearse d plan, fun _ => asks_iff_of_mem_calls d plan⟩
  · intro texts
    cases Operation.verdict d plan.traversal with
    | ok _ => simp [Except.map, Except.mapError, eq_comm]
    | error reason => simp [Except.map, Except.mapError]
  · intro e
    cases Operation.verdict d plan.traversal with
    | ok _ => simp [Except.map, Except.mapError]
    | error reason => simp [Except.map, Except.mapError]
  · intro e he
    cases hverdict : Operation.verdict d plan.traversal with
    | ok _ =>
      rw [hverdict] at he
      cases he
    | error reason =>
      rw [hverdict] at he
      cases he
      obtain ⟨before, op, after, statements, htraversal, hbefore, hreason, htexts⟩ :=
        Operation.exists_of_verdict d hverdict
      exact ⟨before, op, after, statements, reason, htraversal, hbefore, hreason, rfl, htexts⟩

end Plan

end SchemaEvolution
