import SchemaEvolution.Migration.Run
import SchemaEvolution.Proofs.Execution
import SchemaEvolution.Proofs.Ledger

/-!
# The course of a migration

Running a migration takes one of six courses (`Migration.Course`): the ledger cannot be asked, the
name is found in it, the body fails, the plan fails, the name cannot be inserted, or everything goes
well.  `Migration.course` says that there is no other, and what comes of each; what holds of every
run is shown by going through them.

* `Ledger.look` prepares the ledger and looks a name up.  `Ledger.look_eq_ok` and
  `Ledger.look_eq_error` say how it ends, and `Ledger.calls_look` what it calls.
* `Session.calls_callAll`, `Plan.mem_events_effect`: which statements are called on the way.
* `Plan.Reaches`: executing a plan comes to an operation.  Such an operation that cannot be compiled
  is where the execution stops (`Plan.Reaches.effect_of_rejected`), and an execution that stops has
  such an operation or a refused call (`Plan.origin_of_error`).
-/

namespace SchemaEvolution

variable {σ : Type}

/-! ## Calls -/

/-- Calls that all succeed are calls of all the statements. -/
theorem Session.calls_callAll {s : Session σ} {statements : List Statement} {start state : σ}
    {events : List Event} (h : s.callAll statements start = ⟨.ok (), state, events⟩) :
    (⟨.ok (), state, events⟩ : Run σ Unit).calls = statements := by
  induction statements generalizing start events with
  | nil =>
    rw [callAll, Run.mk.injEq] at h
    rw [← h.2.2]
    rfl
  | cons statement statements ih =>
    obtain ⟨rows, middle, first, second, hfirst, hsecond, rfl⟩ := Run.andThen_eq_ok h
    rw [ask, Run.mk.injEq] at hfirst
    rw [← hfirst.2.2]
    exact congrArg (statement :: ·) (ih hsecond)

/-- A call that fails on the way is one of the statements. -/
theorem Session.refused_callAll {s : Session σ} {statements : List Statement} {start state : σ}
    {e : MigrationError} {events : List Event}
    (h : s.callAll statements start = ⟨.error e, state, events⟩) :
    ∃ statement ∈ statements, .called statement (.error e) ∈ events := by
  induction statements generalizing start events with
  | nil => simp [callAll] at h
  | cons statement statements ih =>
    rcases Run.andThen_eq_error h with hfirst | ⟨rows, middle, first, second, -, hsecond, rfl⟩
    · rw [ask, Run.mk.injEq] at hfirst
      refine ⟨statement, List.mem_cons_self, ?_⟩
      rw [← hfirst.2.2, hfirst.1]
      exact List.mem_singleton_self _
    · obtain ⟨t, ht, hcalled⟩ := ih hsecond
      exact ⟨t, List.mem_cons_of_mem _ ht, List.mem_append_right _ hcalled⟩

/-- Only the statements are called. -/
theorem Session.mem_events_callAll {s : Session σ} {statements : List Statement} {start : σ}
    {event : Event} (h : event ∈ (s.callAll statements start).events) :
    ∃ statement ∈ statements, ∃ answer, event = .called statement answer := by
  induction statements generalizing start with
  | nil => simp [callAll] at h
  | cons statement statements ih =>
    rcases Run.mem_events_andThen h with h | ⟨_, middle, h⟩
    · exact ⟨statement, List.mem_cons_self, _, List.mem_singleton.mp h⟩
    · obtain ⟨t, ht, answer, hevent⟩ := ih h
      exact ⟨t, List.mem_cons_of_mem _ ht, answer, hevent⟩

/-- A statement that a plan calls on a session: it defines something, or asks the catalog. -/
def Statement.IsOfPlan (d : Dialect) (statement : Statement) : Prop :=
  statement.Defines ∨ ∃ table, statement = d.catalog.lookup table

theorem Statement.IsOfPlan.sparesLedger {d : Dialect} {statement : Statement}
    (h : statement.IsOfPlan d) : statement.SparesLedger d := by
  rcases h with hdefines | ⟨table, rfl⟩
  · exact hdefines.sparesLedger
  · exact sparesLedger_catalogLookup d.catalog table

mutual

/-- A step calls statements that define something, and asks the catalog. -/
theorem Step.mem_events_effect (s : Session σ) {event : Event} :
    ∀ (step : Step) (state : σ), event ∈ (step.effect s state).events →
      ∃ statement answer, event = .called statement answer ∧ statement.IsOfPlan s.dialect
  | .operation op, state => by
    intro h
    rw [Step.effect] at h
    cases hcompile : op.compile s.dialect with
    | error reason => simp [hcompile] at h
    | ok statements =>
      rw [hcompile] at h
      obtain ⟨statement, hmem, answer, hevent⟩ := Session.mem_events_callAll h
      exact ⟨statement, answer, hevent, Or.inl (Operation.defines_of_mem_compile hcompile hmem)⟩
  | .guarded table expectsTable block, state => by
    intro h
    rw [Step.effect] at h
    rcases Run.mem_events_andThen h with h | ⟨rows, middle, h⟩
    · exact ⟨_, _, List.mem_singleton.mp h, Or.inr ⟨table, rfl⟩⟩
    · split at h
      · exact Plan.mem_events_effect s block middle h
      · simp at h

/-- A plan calls statements that define something, and asks the catalog. -/
theorem Plan.mem_events_effect (s : Session σ) {event : Event} :
    ∀ (plan : Plan) (state : σ), event ∈ (Plan.effect s plan state).events →
      ∃ statement answer, event = .called statement answer ∧ statement.IsOfPlan s.dialect
  | [], state => by
    intro h
    simp [Plan.effect] at h
  | step :: steps, state => by
    intro h
    rw [Plan.effect] at h
    rcases Run.mem_events_andThen h with h | ⟨_, middle, h⟩
    · exact Step.mem_events_effect s step state h
    · exact Plan.mem_events_effect s steps middle h

end

namespace Plan

variable {s : Session σ} {plan : Plan} {state final : σ} {steps : List Event}

/-- Executing a plan comes to an operation, in some state and after some events: past the steps
before it, and into the blocks around it. -/
inductive Reaches (s : Session σ) : Plan → σ → Operation → σ → List Event → Prop
  | here {op rest state} : Reaches s (.operation op :: rest) state op state []
  | past {step rest state middle first op final events}
      (hstep : step.effect s state = ⟨.ok (), middle, first⟩)
      (hrest : Reaches s rest middle op final events) :
      Reaches s (step :: rest) state op final (first ++ events)
  | inside {table expectsTable block rest state rows entered op final events}
      (hprobe : s.ask (s.dialect.catalog.lookup table) state =
        ⟨.ok rows, entered, [.called (s.dialect.catalog.lookup table) (.ok rows)]⟩)
      (hexpected : ((!rows.isEmpty) == expectsTable) = true)
      (hblock : Reaches s block entered op final events) :
      Reaches s (.guarded table expectsTable block :: rest) state op final
        (.called (s.dialect.catalog.lookup table) (.ok rows) :: events)

/-- An operation that is reached and cannot be compiled is where the execution stops. -/
theorem Reaches.effect_of_rejected {op : Operation} {reason : Rejection}
    (h : Reaches s plan state op final steps) (hcompile : op.compile s.dialect = .error reason) :
    effect s plan state = ⟨.error (.invalidOperation reason), final, steps⟩ := by
  induction h with
  | here =>
    rw [effect, Step.effect, hcompile]
    rfl
  | past hstep _ ih =>
    rw [effect, hstep, Run.andThen_ok, ih hcompile]
  | inside hprobe hexpected _ ih =>
    rw [effect, Step.effect, hprobe, Run.andThen_ok, if_pos hexpected, ih hcompile]
    rfl

end Plan

mutual

/-- A step that stops has a refused call, or comes to an operation that cannot be compiled. -/
theorem Step.origin_of_error {s : Session σ} {e : MigrationError} :
    ∀ {step : Step} {state final : σ} {steps : List Event},
      step.effect s state = ⟨.error e, final, steps⟩ →
      (∃ statement, .called statement (.error e) ∈ steps) ∨
        ∃ op reason, (∀ rest, Plan.Reaches s (step :: rest) state op final steps) ∧
          op.compile s.dialect = .error reason ∧ e = .invalidOperation reason
  | .operation op, state, final, steps => by
    intro h
    rw [Step.effect] at h
    cases hcompile : op.compile s.dialect with
    | error reason =>
      rw [hcompile, Run.mk.injEq, Except.error.injEq] at h
      obtain ⟨rfl, rfl, rfl⟩ := h
      exact Or.inr ⟨op, reason, fun _ => .here, hcompile, rfl⟩
    | ok statements =>
      rw [hcompile] at h
      obtain ⟨statement, -, hcalled⟩ := Session.refused_callAll h
      exact Or.inl ⟨statement, hcalled⟩
  | .guarded table expectsTable block, state, final, steps => by
    intro h
    rw [Step.effect] at h
    rcases Run.andThen_eq_error h with hprobe | ⟨rows, middle, first, second, hprobe, hblock, rfl⟩
    · rw [Session.ask, Run.mk.injEq] at hprobe
      refine Or.inl ⟨s.dialect.catalog.lookup table, ?_⟩
      rw [← hprobe.2.2, hprobe.1]
      exact List.mem_singleton_self _
    · have hfirst : first = [.called (s.dialect.catalog.lookup table) (.ok rows)] := by
        rw [Session.ask, Run.mk.injEq] at hprobe
        rw [← hprobe.2.2, hprobe.1]
      subst hfirst
      split at hblock
      · rename_i hexpected
        rcases Plan.origin_of_error hblock with ⟨statement, hcalled⟩ | ⟨op, reason, hreach, hrest⟩
        · exact Or.inl ⟨statement, List.mem_append_right _ hcalled⟩
        · exact Or.inr ⟨op, reason, fun _ => .inside hprobe hexpected hreach, hrest⟩
      · cases hblock

/-- A plan that stops has a refused call, or comes to an operation that cannot be compiled. -/
theorem Plan.origin_of_error {s : Session σ} {e : MigrationError} :
    ∀ {plan : Plan} {state final : σ} {steps : List Event},
      Plan.effect s plan state = ⟨.error e, final, steps⟩ →
      (∃ statement, .called statement (.error e) ∈ steps) ∨
        ∃ op reason, Plan.Reaches s plan state op final steps ∧
          op.compile s.dialect = .error reason ∧ e = .invalidOperation reason
  | [], state, final, steps => by
    intro h
    simp [Plan.effect] at h
  | step :: rest, state, final, steps => by
    intro h
    rw [Plan.effect] at h
    rcases Run.andThen_eq_error h with hstep | ⟨_, middle, first, second, hstep, hrest, rfl⟩
    · refine (Step.origin_of_error hstep).imp_right ?_
      rintro ⟨op, reason, hreach, hcompile⟩
      exact ⟨op, reason, hreach rest, hcompile⟩
    · rcases Plan.origin_of_error hrest with ⟨statement, hcalled⟩ | ⟨op, reason, hreach, hcompile⟩
      · exact Or.inl ⟨statement, List.mem_append_right _ hcalled⟩
      · exact Or.inr ⟨op, reason, .past hstep hreach, hcompile⟩

end

/-! ## Looking a name up -/

namespace Ledger

variable {s : Session σ} {name : String} {start state : σ} {events : List Event}

/-- Prepares the ledger and looks a name up. -/
def look (s : Session σ) (name : String) (start : σ) : Run σ (List Row) :=
  (s.callAll (setup s.dialect) start).andThen fun _ => s.ask (lookup name)

/-- Looking a name up is a script of its own. -/
theorem run_look (s : Session σ) (name : String) (start : σ) :
    s.run (do Script.sendAll (setup s.dialect); Script.send (lookup name)) start =
      look s name start := by
  rw [Session.run_bind, Session.run_sendAll, look]
  congr 1
  funext _ ready
  exact s.run_send (lookup name) ready

/-- A lookup that succeeds comes after a preparation that does. -/
theorem look_eq_ok {rows : List Row} (h : look s name start = ⟨.ok rows, state, events⟩) :
    ∃ ready first, s.callAll (setup s.dialect) start = ⟨.ok (), ready, first⟩ ∧
      s.call (lookup name) ready = (.ok rows, state) ∧
      events = first ++ [.called (lookup name) (.ok rows)] := by
  obtain ⟨_, ready, first, second, hfirst, hsecond, rfl⟩ := Run.andThen_eq_ok h
  rw [Session.ask, Run.mk.injEq] at hsecond
  refine ⟨ready, first, hfirst, Prod.ext hsecond.1 hsecond.2.1, ?_⟩
  rw [← hsecond.2.2, hsecond.1]

/-- A lookup that succeeds calls the statements of the preparation and then the lookup. -/
theorem calls_look {rows : List Row}
    (h : look s name start = ⟨.ok rows, state, events⟩) :
    (⟨.ok rows, state, events⟩ : Run σ (List Row)).calls = setup s.dialect ++ [lookup name] := by
  obtain ⟨ready, first, hsetup, -, rfl⟩ := look_eq_ok h
  rw [Run.calls_append]
  exact congrArg (· ++ [lookup name]) (Session.calls_callAll hsetup)

/-- A lookup that succeeds leads where its statements lead. -/
theorem state_look {rows : List Row}
    (h : look s name start = ⟨.ok rows, state, events⟩) :
    state = s.stateAfter (setup s.dialect ++ [lookup name]) start := by
  have hstate := s.state_run
    (do Script.sendAll (setup s.dialect); Script.send (lookup name)) start
  rw [run_look, h, calls_look h] at hstate
  exact hstate

/-- A lookup that fails does so in the preparation or in the lookup itself. -/
theorem look_eq_error {e : MigrationError} (h : look s name start = ⟨.error e, state, events⟩) :
    s.callAll (setup s.dialect) start = ⟨.error e, state, events⟩ ∨
      ∃ ready first, s.callAll (setup s.dialect) start = ⟨.ok (), ready, first⟩ ∧
        s.call (lookup name) ready = (.error e, state) ∧
        events = first ++ [.called (lookup name) (.error e)] := by
  rcases Run.andThen_eq_error h with h | ⟨_, ready, first, second, hfirst, hsecond, rfl⟩
  · exact Or.inl h
  · rw [Session.ask, Run.mk.injEq] at hsecond
    refine Or.inr ⟨ready, first, hfirst, Prod.ext hsecond.1 hsecond.2.1, ?_⟩
    rw [← hsecond.2.2, hsecond.1]

/-- Looking a name up calls the statements of the preparation and the lookup. -/
theorem mem_events_look {event : Event} (h : event ∈ (look s name start).events) :
    ∃ statement answer, event = .called statement answer ∧
      (statement ∈ setup s.dialect ∨ statement = lookup name) := by
  rcases Run.mem_events_andThen h with h | ⟨_, ready, h⟩
  · obtain ⟨statement, hmem, answer, hevent⟩ := Session.mem_events_callAll h
    exact ⟨statement, answer, hevent, Or.inl hmem⟩
  · exact ⟨_, _, List.mem_singleton.mp h, Or.inr rfl⟩

/-- Looking a name up calls no insertion. -/
theorem spares_of_called_look {result answer : Except MigrationError (List Row)}
    {statement : Statement} (h : look s name start = ⟨result, state, events⟩)
    (hcalled : .called statement answer ∈ events) : statement.SparesLedger s.dialect := by
  have hlooked : Event.called statement answer ∈ (look s name start).events := by rwa [h]
  obtain ⟨t, _, hevent, hsetup | rfl⟩ := mem_events_look hlooked
  · cases hevent
    exact Statement.sparesLedger_setup hsetup
  · cases hevent
    exact Statement.sparesLedger_lookup name

/-- A lookup is not among the statements of the preparation. -/
theorem lookup_not_mem_setup (d : Dialect) : lookup name ∉ setup d := by
  intro h
  have hinitial : (lookup name).initial? = some 'S' := rfl
  have hdefines := TableDefinition.defines_of_mem_compile (compile_table d) h
  simp [Statement.Defines, hinitial] at hdefines

/-- Looking a name up invokes no body. -/
theorem invoked_not_mem_look {result : Except MigrationError (List Row)}
    (h : look s name start = ⟨result, state, events⟩) : .invoked ∉ events := by
  intro hmem
  have hlooked : Event.invoked ∈ (look s name start).events := by rwa [h]
  obtain ⟨_, _, hevent, _⟩ := mem_events_look hlooked
  cases hevent

/-- Preparing the ledger does not look a name up. -/
theorem lookup_not_called_setup {answer : Except MigrationError (List Row)}
    {prepared : Except MigrationError Unit}
    (h : s.callAll (setup s.dialect) start = ⟨prepared, state, events⟩) :
    .called (lookup name) answer ∉ events := by
  intro hmem
  have hcalled : Event.called (lookup name) answer ∈
      (s.callAll (setup s.dialect) start).events := by rwa [h]
  obtain ⟨statement, hsetup, _, hevent⟩ := Session.mem_events_callAll hcalled
  cases hevent
  exact lookup_not_mem_setup s.dialect hsetup

/-- The answer to the lookup is what comes of looking a name up. -/
theorem eq_of_called_look {result answer : Except MigrationError (List Row)}
    (h : look s name start = ⟨result, state, events⟩)
    (hcalled : .called (lookup name) answer ∈ events) : result = answer := by
  have hlast : ∀ {ready first result'},
      s.callAll (setup s.dialect) start = ⟨.ok (), ready, first⟩ →
      .called (lookup name) answer ∈ first ++ [.called (lookup name) result'] →
      result' = answer := by
    intro ready first result' hsetup hmem
    rcases List.mem_append.mp hmem with hmem | hmem
    · exact absurd hmem (lookup_not_called_setup hsetup)
    · cases List.mem_singleton.mp hmem
      rfl
  cases result with
  | error e =>
    rcases look_eq_error h with hsetup | ⟨ready, first, hsetup, -, rfl⟩
    · exact absurd hcalled (lookup_not_called_setup hsetup)
    · exact hlast hsetup hcalled
  | ok rows =>
    obtain ⟨ready, first, hsetup, -, rfl⟩ := look_eq_ok h
    exact hlast hsetup hcalled

/-- A lookup that fails does so because one of its statements is refused. -/
theorem exists_refused_look {e : MigrationError}
    (h : look s name start = ⟨.error e, state, events⟩) :
    ∃ statement ∈ setup s.dialect ++ [lookup name], .called statement (.error e) ∈ events := by
  rcases look_eq_error h with hsetup | ⟨ready, first, -, -, rfl⟩
  · obtain ⟨statement, hmem, hcalled⟩ := Session.refused_callAll hsetup
    exact ⟨statement, List.mem_append_left _ hmem, hcalled⟩
  · exact ⟨lookup name, by simp, by simp⟩

end Ledger

/-! ## The courses -/

namespace Migration

/-- The courses that running a migration can take, each with what comes of it. -/
inductive Course (s : Session σ) (now : Timestamp) (name : String) (body : Body) (start : σ) :
    Run σ Outcome → Prop
  /-- The ledger cannot be prepared or asked. -/
  | unasked {e state events}
      (hlook : Ledger.look s name start = ⟨.error e, state, events⟩) :
      Course s now name body start ⟨.error e, state, events⟩
  /-- The name is found in the ledger. -/
  | found {rows state events}
      (hlook : Ledger.look s name start = ⟨.ok rows, state, events⟩) (hrows : rows ≠ []) :
      Course s now name body start ⟨.ok .alreadyApplied, state, events⟩
  /-- The body is invoked and fails. -/
  | bodyFailed {e state events}
      (hlook : Ledger.look s name start = ⟨.ok [], state, events⟩) (hbody : body = .error e) :
      Course s now name body start ⟨.error e, state, events ++ [.invoked]⟩
  /-- The body declares a plan that fails. -/
  | planFailed {plan e state events executed steps}
      (hlook : Ledger.look s name start = ⟨.ok [], state, events⟩) (hbody : body = .ok plan)
      (hplan : Plan.effect s plan state = ⟨.error e, executed, steps⟩) :
      Course s now name body start ⟨.error e, executed, events ++ .invoked :: steps⟩
  /-- The plan is carried out, and the name cannot be inserted. -/
  | unrecorded {plan e state events executed steps final}
      (hlook : Ledger.look s name start = ⟨.ok [], state, events⟩) (hbody : body = .ok plan)
      (hplan : Plan.effect s plan state = ⟨.ok (), executed, steps⟩)
      (hinsert : s.call (Ledger.insertion now name) executed = (.error e, final)) :
      Course s now name body start
        ⟨.error (Ledger.insertionError name e), final,
          events ++ .invoked :: (steps ++ [.called (Ledger.insertion now name) (.error e)])⟩
  /-- The plan is carried out, and the name is inserted. -/
  | recorded {plan rows state events executed steps final}
      (hlook : Ledger.look s name start = ⟨.ok [], state, events⟩) (hbody : body = .ok plan)
      (hplan : Plan.effect s plan state = ⟨.ok (), executed, steps⟩)
      (hinsert : s.call (Ledger.insertion now name) executed = (.ok rows, final)) :
      Course s now name body start
        ⟨.ok .applied, final,
          events ++ .invoked :: (steps ++ [.called (Ledger.insertion now name) (.ok rows)])⟩

variable (s : Session σ) (now : Timestamp) (name : String) (body : Body) (start : σ)

/-- Running a migration looks its name up, and applies it if it is not there. -/
theorem run_eq : s.run (run s.dialect now name body) start =
    (Ledger.look s name start).andThen fun rows state =>
      if rows.isEmpty then s.run (apply s.dialect now name body) state
      else ⟨.ok .alreadyApplied, state, []⟩ := by
  rw [run, Ledger.prepare_eq_sendAll, Session.run_bind, Session.run_sendAll, Ledger.look,
    Run.andThen_assoc]
  congr 1
  funext _ ready
  rw [Ledger.contains]
  simp only [bind_assoc, pure_bind]
  rw [Session.run_bind, Session.run_send]
  congr 1
  funext rows state
  cases rows with
  | nil => rfl
  | cons row rows => rfl

/-- Applying a migration whose body declares a plan executes the plan and inserts the name. -/
theorem run_apply (plan : Plan) (state : σ) :
    s.run (apply s.dialect now name (.ok plan)) state =
      ((Plan.effect s plan state).andThen fun _ executed =>
        s.run (do Ledger.record now name; return .applied) executed).after .invoked := by
  rw [apply, Script.invokeBody, Script.invoke_bind, Session.run_invoke_ok, pure_bind,
    Session.run_bind, Plan.run_execute]

/-- Running a migration takes one of the courses. -/
theorem course : Course s now name body start (s.run (run s.dialect now name body) start) := by
  rw [run_eq]
  rcases hlook : Ledger.look s name start with ⟨e | rows, state, events⟩
  · exact .unasked hlook
  rw [Run.andThen_ok]
  cases rows with
  | cons row rows =>
    simp only [List.isEmpty_cons, Bool.false_eq_true, if_false, List.append_nil]
    exact .found hlook (by simp)
  | nil =>
    simp only [List.isEmpty_nil, if_true]
    cases body with
    | error e => exact .bodyFailed hlook rfl
    | ok plan =>
      rw [run_apply]
      rcases hplan : Plan.effect s plan state with ⟨e | _, executed, steps⟩
      · exact .planFailed hlook rfl hplan
      rw [Run.andThen_ok, Ledger.record, Script.call_bind]
      unfold Session.run
      rcases hinsert : s.call (Ledger.insertion now name) executed with ⟨e | rows, final⟩
      · exact .unrecorded hlook rfl hplan hinsert
      · exact .recorded hlook rfl hplan hinsert

end Migration

end SchemaEvolution
