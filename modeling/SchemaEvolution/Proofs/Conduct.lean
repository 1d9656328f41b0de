import Mathlib.Data.List.Basic
import SchemaEvolution.Proofs.Conversations
import SchemaEvolution.Proofs.Transactions

/-!
# The conduct of a migration

Whatever a session answers and whatever the body does, a run of a migration keeps to some rules
(`Migration.Conduct`).  They are about the events of the run: when the body is invoked, when the
name is inserted, what follows an error, and where the error at the end comes from.

* `Session.eq_nil_of_refused`: nothing follows a call that is refused.
* `Migration.Course.insertsNothing_or`: only the last call of a run can be an insertion.
* `Migration.conduct` goes through the courses of a migration.
-/

namespace SchemaEvolution

variable {σ : Type}

/-! ## Positions in a list -/

/-- A list has the same parts around an element that occurs only once. -/
theorem eq_of_append_cons_eq {α : Type} {a : α} {before after xs ys : List α}
    (h : before ++ a :: after = xs ++ a :: ys) (hxs : a ∉ xs) (hys : a ∉ ys) :
    before = xs ∧ after = ys := by
  have hparts := (List.append_cons_inj_of_notMem hxs hys).mp h.symm
  exact ⟨hparts.1.symm, hparts.2.2.symm⟩

/-- An element at a place in a list is the last one if it is none of those before. -/
theorem eq_of_append_cons_eq_concat {α : Type} {a b : α} {before after xs : List α}
    (h : before ++ a :: after = xs ++ [b]) (ha : a ∉ xs) : before = xs ∧ a = b ∧ after = [] := by
  rcases List.eq_nil_or_concat after with rfl | ⟨middle, c, rfl⟩
  · obtain ⟨hxs, hb⟩ := List.append_inj' h rfl
    exact ⟨hxs, List.head_eq_of_cons_eq hb, rfl⟩
  · have hsplit : (before ++ a :: middle) ++ [c] = xs ++ [b] := by simpa using h
    obtain ⟨rfl, -⟩ := List.append_inj' hsplit rfl
    exact absurd (by simp) ha

/-! ## Refused calls -/

/-- Nothing follows a call that is refused. -/
theorem Session.eq_nil_of_refused {α : Type} {s : Session σ} {x : Script α} {state : σ}
    {before after : List Event} {statement : Statement} {e : MigrationError}
    (h : (s.run x state).events = before ++ .called statement (.error e) :: after) :
    after = [] := by
  induction x generalizing state before with
  | done result => simp at h
  | call t report next ih =>
    unfold run at h
    rcases hcall : s.call t state with ⟨e' | rows, state'⟩
    · rw [hcall] at h
      obtain ⟨-, -, hafter⟩ := eq_of_append_cons_eq_concat (h.symm.trans (List.nil_append _).symm)
        (by simp)
      exact hafter
    · rw [hcall] at h
      cases before with
      | nil => simp [Run.after] at h
      | cons event before => exact ih rows (List.tail_eq_of_cons_eq h)
  | invoke body next ih =>
    cases body with
    | error e =>
      cases before with
      | nil => simp at h
      | cons event before => simp at h
    | ok plan =>
      cases before with
      | nil => simp [Run.after] at h
      | cons event before => exact ih plan (List.tail_eq_of_cons_eq h)

/-- Calls that all succeed are answered one by one. -/
theorem Session.answered_callAll {s : Session σ} {statements : List Statement} {start state : σ}
    {events : List Event} (h : s.callAll statements start = ⟨.ok (), state, events⟩)
    {statement : Statement} (hmem : statement ∈ statements) :
    ∃ rows, .called statement (.ok rows) ∈ events := by
  induction statements generalizing start events with
  | nil => simp at hmem
  | cons t statements ih =>
    obtain ⟨rows, middle, first, second, hfirst, hsecond, rfl⟩ := Run.andThen_eq_ok h
    rcases List.mem_cons.mp hmem with rfl | hmem
    · rw [ask, Run.mk.injEq] at hfirst
      refine ⟨rows, List.mem_append_left _ ?_⟩
      rw [← hfirst.2.2, hfirst.1]
      exact List.mem_singleton_self _
    · obtain ⟨rows', hcalled⟩ := ih hsecond hmem
      exact ⟨rows', List.mem_append_right _ hcalled⟩

namespace Ledger

variable {s : Session σ} {name : String} {start state : σ} {events : List Event}
  {result : Except MigrationError (List Row)}

theorem insertsNothing_of_mem_look (hlook : look s name start = ⟨result, state, events⟩)
    {event : Event} (h : event ∈ events) :
    ∃ statement answer, event = .called statement answer ∧ statement.InsertsNothing := by
  have hmem : event ∈ (look s name start).events := by rwa [hlook]
  obtain ⟨statement, answer, hevent, hsetup | rfl⟩ := mem_events_look hmem
  · exact ⟨statement, answer, hevent, Statement.insertsNothing_setup hsetup⟩
  · exact ⟨_, answer, hevent, Statement.insertsNothing_lookup name⟩

end Ledger

namespace Plan

variable {s : Session σ} {plan : Plan} {state final : σ} {steps : List Event}
  {result : Except MigrationError Unit}

theorem insertsNothing_of_mem_effect (hplan : effect s plan state = ⟨result, final, steps⟩)
    {event : Event} (h : event ∈ steps) :
    ∃ statement answer, event = .called statement answer ∧ statement.InsertsNothing := by
  have hmem : event ∈ (effect s plan state).events := by rwa [hplan]
  obtain ⟨statement, answer, hevent, hdefines | ⟨table, rfl⟩⟩ := mem_events_effect s plan state hmem
  · exact ⟨statement, answer, hevent, hdefines.insertsNothing⟩
  · exact ⟨_, answer, hevent, Statement.insertsNothing_catalogLookup _ table⟩

/-- A plan does not look a name up. -/
theorem lookup_not_called_effect {name : String} {answer : Except MigrationError (List Row)}
    (hplan : effect s plan state = ⟨result, final, steps⟩) :
    .called (Ledger.lookup name) answer ∉ steps := by
  intro hmem
  have hcalled : .called (Ledger.lookup name) answer ∈ (effect s plan state).events := by
    rwa [hplan]
  obtain ⟨_, _, hevent, hdefines | ⟨table, htable⟩⟩ := mem_events_effect s plan state hcalled
  · cases hevent
    have hinitial : (Ledger.lookup name).initial? = some 'S' := rfl
    simp [Statement.Defines, hinitial] at hdefines
  · cases hevent
    simp [Ledger.lookup, TableCatalog.lookup] at htable

end Plan

/-! ## The rules -/

namespace Migration

/-- The rules that a run of a migration keeps to. -/
structure Conduct (s : Session σ) (now : Timestamp) (name : String) (body : Body) (start : σ)
    (r : Run σ Outcome) : Prop where
  /-- The body is invoked once at most. -/
  invoked_once : ∀ before after, r.events = before ++ .invoked :: after →
    .invoked ∉ before ∧ .invoked ∉ after
  /-- It is invoked if the ledger could be prepared, and answered that it has no such name. -/
  invoked_iff : r.invoked = true ↔
    (∀ statement ∈ Ledger.setup s.dialect, r.Answered statement) ∧
      .called (Ledger.lookup name) (.ok []) ∈ r.events
  /-- A statement whose text begins as an insertion is the insertion of the name.  It is called last
  and once at most, after the body was invoked and its plan executed without an error. -/
  insertion_last : ∀ before statement answer after,
    r.events = before ++ .called statement answer :: after →
    beginsWith (s.dialect.render statement) "INSERT INTO" = true →
    statement = Ledger.insertion now name ∧ after = [] ∧
      (∀ t answer', .called t answer' ∈ before →
        beginsWith (s.dialect.render t) "INSERT INTO" = false) ∧
      ∃ plan looked asked executed steps, body = .ok plan ∧
        Ledger.look s name start = ⟨.ok [], looked, asked⟩ ∧
        s.run (Plan.execute s.dialect plan) looked = ⟨.ok (), executed, steps⟩ ∧
        before = asked ++ .invoked :: steps
  /-- The migration is applied if its name was inserted. -/
  applied_iff : r.result = .ok .applied ↔ r.Answered (Ledger.insertion now name)
  /-- It counts as applied before if its name was found. -/
  alreadyApplied_iff : r.result = .ok .alreadyApplied ↔ r.Found name
  /-- If its name was found, nothing but that was asked. -/
  asked_only : r.Found name →
    r.calls = Ledger.setup s.dialect ++ [Ledger.lookup name] ∧ r.invoked = false
  /-- Nothing follows a refused call.  Its error is the result as it is, but for one thing: an
  insertion that repeats a value tells of another runner with the name. -/
  refusal_last : ∀ before statement e after,
    r.events = before ++ .called statement (.error e) :: after →
    after = [] ∧ r.result = .error
      (if statement = Ledger.insertion now name ∧ e.isUniqueViolation = true then
        .recordedConcurrently name else e)
  /-- Nothing follows a body that fails, and its error is the result as it is. -/
  failure_last : ∀ before after e, r.events = before ++ .invoked :: after → body = .error e →
    after = [] ∧ r.result = .error e
  /-- Nothing follows an operation that is reached and cannot be compiled, and the reason is the
  result as it is. -/
  rejection_last : ∀ plan looked asked op final steps reason, body = .ok plan →
    Ledger.look s name start = ⟨.ok [], looked, asked⟩ →
    Plan.Reaches s plan looked op final steps → op.compile s.dialect = .error reason →
    r.events = asked ++ .invoked :: steps ∧ r.result = .error (.invalidOperation reason)
  /-- An error at the end is one of these. -/
  origin : ∀ e, r.result = .error e →
    (∃ statement e', .called statement (.error e') ∈ r.events) ∨
    (r.invoked = true ∧ body = .error e) ∨
    ∃ plan looked asked op final steps reason, body = .ok plan ∧
      Ledger.look s name start = ⟨.ok [], looked, asked⟩ ∧
      Plan.Reaches s plan looked op final steps ∧ op.compile s.dialect = .error reason ∧
      e = .invalidOperation reason

variable {s : Session σ} {now : Timestamp} {name : String} {body : Body} {start : σ}
  {r : Run σ Outcome}

namespace Course

/-- A run ends where the name was looked up, or goes on with the body. -/
theorem asked_or_invoked (h : Course s now name body start r) :
    (∃ result state, Ledger.look s name start = ⟨result, state, r.events⟩ ∧ result ≠ .ok []) ∨
      ∃ looked asked steps, Ledger.look s name start = ⟨.ok [], looked, asked⟩ ∧
        r.events = asked ++ .invoked :: steps ∧ .invoked ∉ steps := by
  have hexecuted : ∀ {plan state result executed steps},
      Plan.effect s plan state = ⟨result, executed, steps⟩ → Event.invoked ∉ steps := by
    intro plan state result executed steps hplan hmem
    obtain ⟨statement, answer, hevent, -⟩ := Plan.insertsNothing_of_mem_effect hplan hmem
    cases hevent
  cases h with
  | unasked hlook => exact Or.inl ⟨_, _, hlook, by simp⟩
  | found hlook hrows => exact Or.inl ⟨_, _, hlook, by simpa using hrows⟩
  | bodyFailed hlook hbody => exact Or.inr ⟨_, _, [], hlook, rfl, by simp⟩
  | planFailed hlook hbody hplan => exact Or.inr ⟨_, _, _, hlook, rfl, hexecuted hplan⟩
  | unrecorded hlook hbody hplan hinsert =>
    exact Or.inr ⟨_, _, _, hlook, rfl, by simpa using hexecuted hplan⟩
  | recorded hlook hbody hplan hinsert =>
    exact Or.inr ⟨_, _, _, hlook, rfl, by simpa using hexecuted hplan⟩

theorem invoked_once (h : Course s now name body start r) {before after : List Event}
    (hsplit : r.events = before ++ .invoked :: after) : .invoked ∉ before ∧ .invoked ∉ after := by
  rcases h.asked_or_invoked with ⟨result, state, hlook, -⟩ | ⟨looked, asked, steps, hlook, hr, hnot⟩
  · exact absurd (by simp [hsplit]) (Ledger.invoked_not_mem_look hlook)
  · have hasked := Ledger.invoked_not_mem_look hlook
    obtain ⟨rfl, rfl⟩ := eq_of_append_cons_eq (hsplit.symm.trans hr) hasked hnot
    exact ⟨hasked, hnot⟩

theorem invoked_iff (h : Course s now name body start r) :
    r.invoked = true ↔ (∀ statement ∈ Ledger.setup s.dialect, r.Answered statement) ∧
      .called (Ledger.lookup name) (.ok []) ∈ r.events := by
  rw [Run.invoked_iff]
  rcases h.asked_or_invoked with ⟨result, state, hlook, hne⟩ | ⟨looked, asked, steps, hlook, hr, -⟩
  · refine iff_of_false (Ledger.invoked_not_mem_look hlook) ?_
    rintro ⟨-, hcalled⟩
    exact hne (Ledger.eq_of_called_look hlook hcalled)
  · obtain ⟨ready, first, hsetup, -, rfl⟩ := Ledger.look_eq_ok hlook
    refine iff_of_true (by simp [hr]) ⟨fun statement hmem => ?_, by simp [hr]⟩
    obtain ⟨rows, hcalled⟩ := Session.answered_callAll hsetup hmem
    exact ⟨rows, by simp [hr, hcalled]⟩

/-- A run either calls nothing that begins as an insertion, or ends with the insertion of its
name. -/
theorem insertsNothing_or (h : Course s now name body start r) :
    (∀ event ∈ r.events, ∀ statement answer, event = .called statement answer →
        statement.InsertsNothing) ∨
      ∃ plan looked asked executed steps answer, body = .ok plan ∧
        Ledger.look s name start = ⟨.ok [], looked, asked⟩ ∧
        s.run (Plan.execute s.dialect plan) looked = ⟨.ok (), executed, steps⟩ ∧
        r.events = asked ++ .invoked :: steps ++ [.called (Ledger.insertion now name) answer] ∧
        ∀ event ∈ asked ++ .invoked :: steps, ∀ statement answer,
          event = .called statement answer → statement.InsertsNothing := by
  -- What is called before the insertion is called by the lookup or by the plan.
  have hasked : ∀ {result state events}, Ledger.look s name start = ⟨result, state, events⟩ →
      ∀ event ∈ events, ∀ statement answer, event = .called statement answer →
        statement.InsertsNothing := by
    rintro result state events hlook event hmem statement answer rfl
    obtain ⟨_, _, hevent, hnothing⟩ := Ledger.insertsNothing_of_mem_look hlook hmem
    cases hevent
    exact hnothing
  have hsteps : ∀ {plan state result executed steps events looked},
      Ledger.look s name start = ⟨.ok [], looked, events⟩ →
      Plan.effect s plan state = ⟨result, executed, steps⟩ →
      ∀ event ∈ events ++ .invoked :: steps, ∀ statement answer,
        event = .called statement answer → statement.InsertsNothing := by
    rintro plan state result executed steps events looked hlook hplan event hmem statement answer
      rfl
    rcases List.mem_append.mp hmem with hmem | hmem
    · exact hasked hlook _ hmem _ _ rfl
    rcases List.mem_cons.mp hmem with hmem | hmem
    · cases hmem
    · obtain ⟨_, _, hevent, hnothing⟩ := Plan.insertsNothing_of_mem_effect hplan hmem
      cases hevent
      exact hnothing
  cases h with
  | unasked hlook => exact Or.inl (hasked hlook)
  | found hlook hrows => exact Or.inl (hasked hlook)
  | @bodyFailed _ looked _ hlook hbody =>
    have hnone : Plan.effect s [] looked = ⟨.ok (), looked, []⟩ := by rw [Plan.effect]
    exact Or.inl (hsteps hlook hnone)
  | planFailed hlook hbody hplan => exact Or.inl (hsteps hlook hplan)
  | @unrecorded plan e looked asked executed steps _ hlook hbody hplan hinsert =>
    refine Or.inr ⟨plan, looked, asked, executed, steps, .error e, hbody, hlook,
      (Plan.run_execute s plan looked).trans hplan, ?_, hsteps hlook hplan⟩
    rw [List.append_assoc, List.cons_append]
  | @recorded plan rows looked asked executed steps _ hlook hbody hplan hinsert =>
    refine Or.inr ⟨plan, looked, asked, executed, steps, .ok rows, hbody, hlook,
      (Plan.run_execute s plan looked).trans hplan, ?_, hsteps hlook hplan⟩
    rw [List.append_assoc, List.cons_append]

theorem insertion_last (h : Course s now name body start r) {before after : List Event}
    {statement : Statement} {answer : Except MigrationError (List Row)}
    (hsplit : r.events = before ++ .called statement answer :: after)
    (hinserts : beginsWith (s.dialect.render statement) "INSERT INTO" = true) :
    statement = Ledger.insertion now name ∧ after = [] ∧
      (∀ t answer', .called t answer' ∈ before →
        beginsWith (s.dialect.render t) "INSERT INTO" = false) ∧
      ∃ plan looked asked executed steps, body = .ok plan ∧
        Ledger.look s name start = ⟨.ok [], looked, asked⟩ ∧
        s.run (Plan.execute s.dialect plan) looked = ⟨.ok (), executed, steps⟩ ∧
        before = asked ++ .invoked :: steps := by
  have hnot : ¬statement.InsertsNothing := fun hnothing => by
    rw [hnothing.beginsWith_eq_false] at hinserts
    cases hinserts
  rcases h.insertsNothing_or with hnothing |
      ⟨plan, looked, asked, executed, steps, answer', hbody, hlook, hplan, hr, hnothing⟩
  · exact absurd (hnothing (.called statement answer) (by simp [hsplit]) _ _ rfl) hnot
  · obtain ⟨rfl, hevent, rfl⟩ := eq_of_append_cons_eq_concat (hsplit.symm.trans hr)
      fun hmem => hnot (hnothing _ hmem _ _ rfl)
    cases hevent
    exact ⟨rfl, rfl, fun t _ hmem => (hnothing _ hmem t _ rfl).beginsWith_eq_false _, plan, looked,
      asked, executed, steps, hbody, hlook, hplan, rfl⟩

/-- The answer to the lookup of a run is that of looking the name up. -/
theorem look_of_called (h : Course s now name body start r)
    {answer : Except MigrationError (List Row)}
    (hcalled : .called (Ledger.lookup name) answer ∈ r.events) :
    (Ledger.look s name start).result = answer := by
  have hasked : ∀ {result state events}, Ledger.look s name start = ⟨result, state, events⟩ →
      .called (Ledger.lookup name) answer ∈ events →
      (Ledger.look s name start).result = answer := by
    intro result state events hlook hmem
    rw [hlook]
    exact Ledger.eq_of_called_look hlook hmem
  have hsteps : ∀ {plan state result executed steps looked asked},
      Ledger.look s name start = ⟨.ok [], looked, asked⟩ →
      Plan.effect s plan state = ⟨result, executed, steps⟩ →
      .called (Ledger.lookup name) answer ∈ asked ++ .invoked :: steps →
      (Ledger.look s name start).result = answer := by
    intro plan state result executed steps looked asked hlook hplan hmem
    simp only [List.mem_append, List.mem_cons, reduceCtorEq, false_or] at hmem
    refine hmem.elim (hasked hlook) fun hmem => ?_
    exact absurd hmem (Plan.lookup_not_called_effect hplan)
  cases h with
  | unasked hlook => exact hasked hlook hcalled
  | found hlook hrows => exact hasked hlook hcalled
  | bodyFailed hlook hbody => exact hasked hlook (by simpa using hcalled)
  | planFailed hlook hbody hplan => exact hsteps hlook hplan hcalled
  | unrecorded hlook hbody hplan hinsert =>
    exact hsteps hlook hplan (by simpa [Ledger.lookup, Ledger.insertion] using hcalled)
  | recorded hlook hbody hplan hinsert =>
    exact hsteps hlook hplan (by simpa [Ledger.lookup, Ledger.insertion] using hcalled)

/-- An error at the end of a run is that of a call or of the body, or the reason against an
operation that is reached. -/
theorem origin (h : Course s now name body start r) {e : MigrationError}
    (hresult : r.result = .error e) :
    (∃ statement e', .called statement (.error e') ∈ r.events) ∨
    (r.invoked = true ∧ body = .error e) ∨
    ∃ plan looked asked op final steps reason, body = .ok plan ∧
      Ledger.look s name start = ⟨.ok [], looked, asked⟩ ∧
      Plan.Reaches s plan looked op final steps ∧ op.compile s.dialect = .error reason ∧
      e = .invalidOperation reason := by
  cases h with
  | unasked hlook =>
    obtain ⟨statement, -, hcalled⟩ := Ledger.exists_refused_look hlook
    exact Or.inl ⟨statement, _, hcalled⟩
  | found hlook hrows => cases hresult
  | bodyFailed hlook hbody =>
    cases hresult
    exact Or.inr (Or.inl ⟨by simp [Run.invoked_iff], hbody⟩)
  | planFailed hlook hbody hplan =>
    cases hresult
    rcases Plan.origin_of_error hplan with ⟨statement, hcalled⟩ | ⟨op, reason, hreach, hcompile⟩
    · exact Or.inl ⟨statement, e, by simp [hcalled]⟩
    · exact Or.inr (Or.inr ⟨_, _, _, op, _, _, reason, hbody, hlook, hreach, hcompile⟩)
  | @unrecorded _ e' _ _ _ _ _ hlook hbody hplan hinsert =>
    exact Or.inl ⟨Ledger.insertion now name, e', by simp⟩
  | recorded hlook hbody hplan hinsert => cases hresult

end Course

/-- A name that is found ends the run. -/
theorem alreadyApplied_of_found (h : (s.run (run s.dialect now name body) start).Found name) :
    (s.run (run s.dialect now name body) start).result = .ok .alreadyApplied := by
  obtain ⟨rows, hrows, hcalled⟩ := h
  have hlook := (course s now name body start).look_of_called hcalled
  rw [run_eq, Run.eq_of_result hlook, Run.andThen_ok, if_neg (by simpa using hrows)]

/-- A body that fails is the last thing of the run, whose error is that of the body. -/
theorem failure_last {before after : List Event} {e : MigrationError}
    (hsplit : (s.run (run s.dialect now name body) start).events = before ++ .invoked :: after)
    (hbody : body = .error e) :
    after = [] ∧ (s.run (run s.dialect now name body) start).result = .error e := by
  subst hbody
  rcases (course s now name (.error e) start).asked_or_invoked with
      ⟨result, state, hlook, -⟩ | ⟨looked, asked, steps, hlook, -, -⟩
  · exact absurd (by simp [hsplit]) (Ledger.invoked_not_mem_look hlook)
  · rw [run_of_body hlook] at hsplit ⊢
    have hlast := eq_of_append_cons_eq_concat hsplit.symm (Ledger.invoked_not_mem_look hlook)
    exact ⟨hlast.2.2, rfl⟩

/-- An operation that is reached and cannot be compiled is where the run stops. -/
theorem rejection_last {plan : Plan} {looked final : σ} {asked steps : List Event} {op : Operation}
    {reason : Rejection} (hbody : body = .ok plan)
    (hlook : Ledger.look s name start = ⟨.ok [], looked, asked⟩)
    (hreach : Plan.Reaches s plan looked op final steps)
    (hcompile : op.compile s.dialect = .error reason) :
    (s.run (run s.dialect now name body) start).events = asked ++ .invoked :: steps ∧
      (s.run (run s.dialect now name body) start).result =
        .error (.invalidOperation reason) := by
  subst hbody
  have happlied : s.run (apply s.dialect now name (.ok plan)) looked =
      ⟨.error (.invalidOperation reason), final, .invoked :: steps⟩ := by
    rw [run_apply, hreach.effect_of_rejected hcompile]
    rfl
  rw [run_eq, hlook, Run.andThen_ok, List.isEmpty_nil, if_pos rfl, happlied]
  exact ⟨rfl, rfl⟩

/-- A run of a migration keeps to the rules. -/
theorem conduct (s : Session σ) (now : Timestamp) (name : String) (body : Body) (start : σ) :
    Conduct s now name body start (s.run (run s.dialect now name body) start) where
  invoked_once _ _ hsplit := (course s now name body start).invoked_once hsplit
  invoked_iff := (course s now name body start).invoked_iff
  insertion_last _ _ _ _ hsplit hinserts :=
    (course s now name body start).insertion_last hsplit hinserts
  applied_iff := (remaining_run s.dialect now name body).applied_iff
  alreadyApplied_iff := ⟨found_of_alreadyApplied, alreadyApplied_of_found⟩
  asked_only hfound := calls_of_alreadyApplied (alreadyApplied_of_found hfound)
  refusal_last _ _ _ _ hsplit := ⟨Session.eq_nil_of_refused hsplit,
    (remaining_run s.dialect now name body).result_of_refused (by simp [hsplit])⟩
  failure_last _ _ _ hsplit hbody := failure_last hsplit hbody
  rejection_last _ _ _ _ _ _ _ hbody hlook hreach hcompile :=
    rejection_last hbody hlook hreach hcompile
  origin _ hresult := (course s now name body start).origin hresult

end Migration

end SchemaEvolution
