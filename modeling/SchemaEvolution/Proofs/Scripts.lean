import SchemaEvolution.Session.Basic

/-!
# Running scripts

A script is a program, and running it on a session goes part by part.  There are three groups.

* Scripts form a lawful monad (`Script.bind_assoc`), so that their parts can be regrouped.
* `Run.andThen` goes on after a run that ended in a value, and stops after one that ended in an
  error.  `Session.run_bind` says that running a script and then another one is just that.
* `Session.ask` and `Session.callAll` call one statement and several ones, without a script;
  `Session.stateAfter` is the state that calls lead to.  `Session.state_run` says that a run leads
  where its calls lead, so what a run does to a session can be read off its calls.
-/

namespace SchemaEvolution

/-! ## Scripts -/

namespace Script

variable {α β γ : Type}

theorem call_bind (statement : Statement) (report : MigrationError → MigrationError)
    (next : List Row → Script α) (f : α → Script β) :
    call statement report next >>= f = call statement report fun rows => next rows >>= f := rfl

theorem invoke_bind (body : Body) (next : Plan → Script α) (f : α → Script β) :
    invoke body next >>= f = invoke body fun plan => next plan >>= f := rfl

/-- What follows a script and what follows that can be put together first. -/
theorem bind_assoc (x : Script α) (f : α → Script β) (g : β → Script γ) :
    x >>= f >>= g = x >>= fun a => f a >>= g := by
  induction x with
  | done result => cases result <;> rfl
  | call statement report next ih =>
    rw [call_bind, call_bind, call_bind]
    congr 1
    funext rows
    exact ih rows
  | invoke body next ih =>
    rw [invoke_bind, invoke_bind, invoke_bind]
    congr 1
    funext plan
    exact ih plan

/-- A script followed by nothing is the script. -/
theorem bind_pure (x : Script α) : x >>= pure = x := by
  induction x with
  | done result => cases result <;> rfl
  | call statement report next ih =>
    rw [call_bind]
    congr 1
    funext rows
    exact ih rows
  | invoke body next ih =>
    rw [invoke_bind]
    congr 1
    funext plan
    exact ih plan

instance : LawfulMonad Script :=
  .mk' Script (fun x => bind_pure x) (fun _ _ => rfl) bind_assoc

end Script

/-! ## Runs in sequence -/

namespace Run

variable {σ α β γ : Type}

/-- Goes on with another run after one that ended in a value. -/
def andThen (r : Run σ α) (next : α → σ → Run σ β) : Run σ β :=
  match r.result with
  | .ok a =>
    let r' := next a r.state
    { r' with events := r.events ++ r'.events }
  | .error e => ⟨.error e, r.state, r.events⟩

@[simp] theorem andThen_ok (a : α) (state : σ) (events : List Event) (next : α → σ → Run σ β) :
    (⟨.ok a, state, events⟩ : Run σ α).andThen next =
      ⟨(next a state).result, (next a state).state, events ++ (next a state).events⟩ := rfl

@[simp] theorem andThen_error (e : MigrationError) (state : σ) (events : List Event)
    (next : α → σ → Run σ β) :
    (⟨.error e, state, events⟩ : Run σ α).andThen next = ⟨.error e, state, events⟩ := rfl

/-- An event before a run in two parts is one before its first part. -/
theorem after_andThen (r : Run σ α) (event : Event) (next : α → σ → Run σ β) :
    (r.after event).andThen next = (r.andThen next).after event := by
  obtain ⟨result, state, events⟩ := r
  cases result <;> rfl

/-- Runs in sequence can be grouped in any way. -/
theorem andThen_assoc (r : Run σ α) (f : α → σ → Run σ β) (g : β → σ → Run σ γ) :
    (r.andThen f).andThen g = r.andThen fun a state => (f a state).andThen g := by
  obtain ⟨result, state, events⟩ := r
  cases result with
  | error e => rfl
  | ok a =>
    rw [andThen_ok, andThen_ok]
    obtain ⟨result', state', events'⟩ := f a state
    cases result' with
    | error e => rfl
    | ok b => simp [List.append_assoc]

theorem eq_of_result {r : Run σ α} {result : Except MigrationError α} (h : r.result = result) :
    r = ⟨result, r.state, r.events⟩ := by
  rw [← h]

/-- A statement was called and answered with rows. -/
def Answered (r : Run σ α) (statement : Statement) : Prop :=
  ∃ rows, .called statement (.ok rows) ∈ r.events

/-- A statement was called and answered with an error. -/
def Refused (r : Run σ α) (statement : Statement) : Prop :=
  ∃ e, .called statement (.error e) ∈ r.events

theorem mem_calls_iff {r : Run σ α} {statement : Statement} :
    statement ∈ r.calls ↔ ∃ answer, .called statement answer ∈ r.events := by
  constructor
  · intro h
    obtain ⟨event, hevent, hstatement⟩ := List.mem_filterMap.mp h
    cases event with
    | called t answer =>
      cases hstatement
      exact ⟨answer, hevent⟩
    | invoked => cases hstatement
  · rintro ⟨answer, h⟩
    exact List.mem_filterMap.mpr ⟨_, h, rfl⟩

theorem invoked_iff {r : Run σ α} : r.invoked = true ↔ .invoked ∈ r.events := by
  rw [invoked, List.any_eq_true]
  constructor
  · rintro ⟨event, hevent, hinvoked⟩
    cases event with
    | called => cases hinvoked
    | invoked => exact hevent
  · intro h
    exact ⟨.invoked, h, rfl⟩

@[simp] theorem calls_after_called (r : Run σ α) (statement : Statement)
    (answer : Except MigrationError (List Row)) :
    (r.after (.called statement answer)).calls = statement :: r.calls := rfl

theorem calls_append (result : Except MigrationError α) (state : σ)
    (first second : List Event) :
    (⟨result, state, first ++ second⟩ : Run σ α).calls =
      (⟨result, state, first⟩ : Run σ α).calls ++ (⟨result, state, second⟩ : Run σ α).calls :=
  List.filterMap_append

/-- Runs in sequence end in an error if the first one does, or if the second one does after it. -/
theorem andThen_eq_error {r : Run σ α} {next : α → σ → Run σ β} {e : MigrationError} {state : σ}
    {events : List Event} (h : r.andThen next = ⟨.error e, state, events⟩) :
    r = ⟨.error e, state, events⟩ ∨
      ∃ a middle first second, r = ⟨.ok a, middle, first⟩ ∧
        next a middle = ⟨.error e, state, second⟩ ∧ events = first ++ second := by
  obtain ⟨result, middle, first⟩ := r
  cases result with
  | error e' =>
    rw [andThen_error, Run.mk.injEq] at h
    obtain ⟨he, rfl, rfl⟩ := h
    cases he
    exact Or.inl rfl
  | ok a =>
    rw [andThen_ok, Run.mk.injEq] at h
    obtain ⟨hresult, hstate, hevents⟩ := h
    refine Or.inr ⟨a, middle, first, (next a middle).events, rfl, ?_, hevents.symm⟩
    rw [← hresult, ← hstate]

/-- Runs in sequence end in a value if both do. -/
theorem andThen_eq_ok {r : Run σ α} {next : α → σ → Run σ β} {b : β} {state : σ}
    {events : List Event} (h : r.andThen next = ⟨.ok b, state, events⟩) :
    ∃ a middle first second, r = ⟨.ok a, middle, first⟩ ∧
      next a middle = ⟨.ok b, state, second⟩ ∧ events = first ++ second := by
  obtain ⟨result, middle, first⟩ := r
  cases result with
  | error e =>
    rw [andThen_error, Run.mk.injEq] at h
    cases h.1
  | ok a =>
    rw [andThen_ok, Run.mk.injEq] at h
    obtain ⟨hresult, hstate, hevents⟩ := h
    refine ⟨a, middle, first, (next a middle).events, rfl, ?_, hevents.symm⟩
    rw [← hresult, ← hstate]

/-- What happens in runs in sequence happens in one of the parts. -/
theorem mem_events_andThen {r : Run σ α} {next : α → σ → Run σ β} {event : Event}
    (h : event ∈ (r.andThen next).events) :
    event ∈ r.events ∨ ∃ a state, event ∈ (next a state).events := by
  obtain ⟨result, state, events⟩ := r
  cases result with
  | error e => exact Or.inl h
  | ok a => exact (List.mem_append.mp h).imp_right fun hnext => ⟨a, state, hnext⟩

end Run

/-! ## Sessions -/

namespace Session

variable {σ α β : Type}

@[simp] theorem run_done (s : Session σ) (result : Except MigrationError α) (state : σ) :
    s.run (.done result) state = ⟨result, state, []⟩ := rfl

@[simp] theorem run_invoke_ok (s : Session σ) (plan : Plan) (next : Plan → Script α) (state : σ) :
    s.run (.invoke (.ok plan) next) state = (s.run (next plan) state).after .invoked := rfl

@[simp] theorem run_invoke_error (s : Session σ) (e : MigrationError) (next : Plan → Script α)
    (state : σ) : s.run (.invoke (.error e) next) state = ⟨.error e, state, [.invoked]⟩ := rfl

/-- Running a script and what follows it is running one after the other. -/
theorem run_bind (s : Session σ) (x : Script α) (f : α → Script β) (state : σ) :
    s.run (x >>= f) state = (s.run x state).andThen fun a => s.run (f a) := by
  induction x generalizing state with
  | done result => cases result <;> rfl
  | call statement report next ih =>
    rw [Script.call_bind]
    unfold run
    rcases s.call statement state with ⟨e | rows, state'⟩
    · rfl
    · rw [Run.after_andThen, ← ih]
  | invoke body next ih =>
    rw [Script.invoke_bind]
    cases body with
    | error e => rfl
    | ok plan =>
      unfold run
      rw [Run.after_andThen, ← ih]

/-- Calls one statement. -/
def ask (s : Session σ) (statement : Statement) (state : σ) : Run σ (List Row) :=
  let (answer, state') := s.call statement state
  ⟨answer, state', [.called statement answer]⟩

/-- Calls statements in order, up to the first one that fails. -/
def callAll (s : Session σ) : List Statement → σ → Run σ Unit
  | [], state => ⟨.ok (), state, []⟩
  | statement :: statements, state =>
    (s.ask statement state).andThen fun _ => s.callAll statements

/-- The script that calls one statement does so. -/
theorem run_send (s : Session σ) (statement : Statement) (state : σ) :
    s.run (Script.send statement) state = s.ask statement state := by
  unfold Script.send ask run
  rcases s.call statement state with ⟨e | rows, state'⟩ <;> rfl

/-- The script that calls statements in order does so. -/
theorem run_sendAll (s : Session σ) (statements : List Statement) (state : σ) :
    s.run (Script.sendAll statements) state = s.callAll statements state := by
  induction statements generalizing state with
  | nil => rfl
  | cons statement statements ih =>
    rw [Script.sendAll, run_bind, run_send, callAll]
    congr 1
    funext _ state'
    exact ih state'

/-- The state after calls of statements, whatever they answer. -/
def stateAfter (s : Session σ) (statements : List Statement) (state : σ) : σ :=
  statements.foldl (fun state statement => (s.call statement state).2) state

@[simp] theorem stateAfter_nil (s : Session σ) (state : σ) : s.stateAfter [] state = state := rfl

@[simp] theorem stateAfter_cons (s : Session σ) (statement : Statement)
    (statements : List Statement) (state : σ) :
    s.stateAfter (statement :: statements) state =
      s.stateAfter statements (s.call statement state).2 := rfl

/-- A run leads where its calls lead. -/
theorem state_run (s : Session σ) (x : Script α) (state : σ) :
    (s.run x state).state = s.stateAfter (s.run x state).calls state := by
  induction x generalizing state with
  | done result => rfl
  | call statement report next ih =>
    unfold run
    rcases h : s.call statement state with ⟨e | rows, state'⟩
    · simp [Run.calls, h]
    · rw [Run.calls_after_called, stateAfter_cons, h]
      exact ih rows state'
  | invoke body next ih =>
    cases body with
    | error e => rfl
    | ok plan => exact ih plan state

/-- What a run reports of a call is what the session answered. -/
theorem exists_call_of_called {s : Session σ} {x : Script α} {state : σ} {statement : Statement}
    {answer : Except MigrationError (List Row)}
    (h : .called statement answer ∈ (s.run x state).events) :
    ∃ before, (s.call statement before).1 = answer := by
  induction x generalizing state with
  | done result => simp at h
  | call t report next ih =>
    unfold run at h
    rcases hcall : s.call t state with ⟨e | rows, state'⟩
    · rw [hcall] at h
      cases List.mem_singleton.mp h
      exact ⟨state, congrArg Prod.fst hcall⟩
    · rw [hcall] at h
      rcases List.mem_cons.mp h with h | h
      · cases h
        exact ⟨state, congrArg Prod.fst hcall⟩
      · exact ih rows h
  | invoke body next ih =>
    cases body with
    | error e => simp at h
    | ok plan =>
      rcases List.mem_cons.mp h with h | h
      · cases h
      · exact ih plan h

/-- A run that ends in a value has no call that fails. -/
theorem not_refused_of_ok {s : Session σ} {x : Script α} {state : σ} {a : α}
    (h : (s.run x state).result = .ok a) (statement : Statement) :
    ¬(s.run x state).Refused statement := by
  induction x generalizing state with
  | done result => simp [Run.Refused]
  | call t report next ih =>
    unfold run at h ⊢
    rcases hcall : s.call t state with ⟨e | rows, state'⟩
    · rw [hcall] at h
      cases h
    · rw [hcall] at h
      rintro ⟨e, hcalled⟩
      rcases List.mem_cons.mp hcalled with hcalled | hcalled
      · cases hcalled
      · exact ih rows h ⟨e, hcalled⟩
  | invoke body next ih =>
    cases body with
    | error e => cases h
    | ok plan =>
      rintro ⟨e, hcalled⟩
      rcases List.mem_cons.mp hcalled with hcalled | hcalled
      · cases hcalled
      · exact ih plan h ⟨e, hcalled⟩

/-- What each of some calls leaves as it was is as it was after them. -/
theorem kept_stateAfter {δ : Type} {s : Session σ} {view : σ → δ} {statements : List Statement}
    (h : ∀ statement ∈ statements, ∀ state, view (s.call statement state).2 = view state)
    (state : σ) : view (s.stateAfter statements state) = view state := by
  induction statements generalizing state with
  | nil => rfl
  | cons statement statements ih =>
    rw [stateAfter_cons, ih fun t ht => h t (List.mem_cons_of_mem _ ht)]
    exact h statement List.mem_cons_self state

end Session

end SchemaEvolution
