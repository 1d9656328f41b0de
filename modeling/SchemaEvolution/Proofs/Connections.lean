import SchemaEvolution.Proofs.Course
import SchemaEvolution.Proofs.Journal
import SchemaEvolution.Proofs.Refusals

/-!
# Migrations in transactions

A connection runs a migration between the beginning and the end of a transaction.  How the end is
made depends on the result of the run, and there are five ways (`Connection.Settled`).

* `Connection.settled` and `Connection.migrate_of_begun` put a migration together.
* `Migration.origin_of_recordedConcurrently` tells where the error comes from that makes a migration
  count as applied.
* `Connection.recorded_iff` says when a migration that counts as applied is in the ledger.  That it
  is not always shows in `Database.alreadyApplied_unrecorded`.
-/

namespace SchemaEvolution

variable {σ : Type}

/-! ## What can be seen of a run -/

namespace Run

variable {α : Type}

/-- The name was found in the ledger. -/
def Found (r : Run σ α) (name : String) : Prop :=
  ∃ rows, rows ≠ [] ∧ .called (Ledger.lookup name) (.ok rows) ∈ r.events

/-- The name could not be inserted because it was in the ledger by then. -/
def Outrun (r : Run σ α) (now : Timestamp) (name : String) : Prop :=
  ∃ sql source, .called (Ledger.insertion now name) (.error (.uniqueness sql source)) ∈ r.events

/-- The body was invoked, and failed with the error that tells of another runner. -/
def Misled (r : Run σ α) (body : Body) : Prop :=
  r.invoked = true ∧ ∃ other, body = .error (.recordedConcurrently other)

end Run

/-! ## The end of a transaction -/

namespace Connection

/-- The ways in which a connection can end a run in a transaction, each with what comes of it. -/
inductive Settled (c : Connection σ) (r : Run σ Outcome) : Run σ Outcome → Prop
  /-- The run came to an end, and so did the commit. -/
  | committed {outcome} (hresult : r.result = .ok outcome)
      (hcommit : (c.commit r.state).1 = .ok ()) :
      Settled c r ⟨.ok outcome, (c.commit r.state).2, r.events⟩
  /-- The run came to an end, and the commit failed. -/
  | uncommitted {outcome e} (hresult : r.result = .ok outcome)
      (hcommit : (c.commit r.state).1 = .error e) :
      Settled c r ⟨.error e, (c.commit r.state).2, r.events⟩
  /-- The name is said to be recorded by another runner, and the rollback came to an end. -/
  | outrun {other} (hresult : r.result = .error (.recordedConcurrently other))
      (hrollback : (c.rollback r.state).1 = .ok ()) :
      Settled c r ⟨.ok .alreadyApplied, (c.rollback r.state).2, r.events⟩
  /-- The name is said to be recorded by another runner, and the rollback failed. -/
  | stuck {other e} (hresult : r.result = .error (.recordedConcurrently other))
      (hrollback : (c.rollback r.state).1 = .error e) :
      Settled c r ⟨.error e, (c.rollback r.state).2, r.events⟩
  /-- The run failed in another way.  How the rollback ends does not matter. -/
  | rolledBack {e} (hresult : r.result = .error e)
      (hother : ∀ other, e ≠ .recordedConcurrently other) :
      Settled c r ⟨.error e, (c.rollback r.state).2, r.events⟩

/-- A step at the end of a run that succeeds gives the run its result. -/
theorem finish_of_ok {α : Type} {step : TransactionStep σ} {r : Run σ α}
    (h : (step r.state).1 = .ok ()) (result : Except MigrationError α) :
    finish step r result = ⟨result, (step r.state).2, r.events⟩ := by
  unfold finish
  rcases hstep : step r.state with ⟨e | ⟨⟩, final⟩
  · rw [hstep] at h
    cases h
  · rfl

/-- A step at the end of a run that fails gives the run its error. -/
theorem finish_of_error {α : Type} {step : TransactionStep σ} {r : Run σ α} {e : MigrationError}
    (h : (step r.state).1 = .error e) (result : Except MigrationError α) :
    finish step r result = ⟨.error e, (step r.state).2, r.events⟩ := by
  unfold finish
  rcases hstep : step r.state with ⟨e' | ⟨⟩, final⟩
  · rw [hstep] at h
    cases h
    rfl
  · rw [hstep] at h
    cases h

/-- A step at the end of a run whose error is dropped leaves the result of the run. -/
theorem abandon_of_result {α : Type} {r : Run σ α} {result : Except MigrationError α}
    (h : r.result = result) (step : TransactionStep σ) :
    abandon step r = ⟨result, (step r.state).2, r.events⟩ := by
  rw [abandon, h]

/-- A connection ends a run in one of the ways. -/
theorem settled (c : Connection σ) (r : Run σ Outcome) : Settled c r (c.settle r) := by
  unfold settle
  cases hresult : r.result with
  | ok outcome =>
    show Settled c r (finish c.commit r (.ok outcome))
    cases hcommit : (c.commit r.state).1 with
    | ok _ =>
      rw [finish_of_ok hcommit]
      exact .committed hresult hcommit
    | error e =>
      rw [finish_of_error hcommit]
      exact .uncommitted hresult hcommit
  | error e =>
    cases e with
    | recordedConcurrently other =>
      show Settled c r (finish c.rollback r (.ok .alreadyApplied))
      cases hrollback : (c.rollback r.state).1 with
      | ok _ =>
        rw [finish_of_ok hrollback]
        exact .outrun hresult hrollback
      | error e =>
        rw [finish_of_error hrollback]
        exact .stuck hresult hrollback
    | _ =>
      show Settled c r (abandon c.rollback r)
      rw [abandon_of_result hresult]
      exact .rolledBack hresult (by simp)

variable {c : Connection σ} {now : Timestamp} {name : String} {body : Body} {start begun : σ}

/-- A transaction that cannot be begun ends the migration. -/
theorem migrate_of_unbegun {e : MigrationError} (hbegin : (c.beginning start).1 = .error e) :
    c.migrate now name body start = ⟨.error e, (c.beginning start).2, []⟩ := by
  unfold migrate
  rcases hstep : c.beginning start with ⟨e' | ⟨⟩, final⟩
  · rw [hstep] at hbegin
    cases hbegin
    rfl
  · rw [hstep] at hbegin
    cases hbegin

/-- A migration in a transaction is run and then settled. -/
theorem migrate_of_begun (hbegin : c.beginning start = (.ok (), begun)) :
    c.migrate now name body start =
      c.settle (c.session.run (Migration.run c.session.dialect now name body) begun) := by
  unfold migrate
  rw [hbegin]

/-- The end of a transaction adds nothing to what happened in it. -/
@[simp] theorem events_settle (c : Connection σ) (r : Run σ Outcome) :
    (c.settle r).events = r.events := by
  have hsettled := c.settled r
  generalize c.settle r = r' at hsettled
  cases hsettled <;> rfl

@[simp] theorem calls_settle (c : Connection σ) (r : Run σ Outcome) :
    (c.settle r).calls = r.calls := by
  rw [Run.calls, Run.calls, events_settle]

@[simp] theorem invoked_settle (c : Connection σ) (r : Run σ Outcome) :
    (c.settle r).invoked = r.invoked := by
  rw [Run.invoked, Run.invoked, events_settle]

@[simp] theorem refused_settle (c : Connection σ) (r : Run σ Outcome) (statement : Statement) :
    (c.settle r).Refused statement ↔ r.Refused statement := by
  rw [Run.Refused, Run.Refused, events_settle]

@[simp] theorem found_settle (c : Connection σ) (r : Run σ Outcome) (name : String) :
    (c.settle r).Found name ↔ r.Found name := by
  rw [Run.Found, Run.Found, events_settle]

@[simp] theorem outrun_settle (c : Connection σ) (r : Run σ Outcome) (now : Timestamp)
    (name : String) : (c.settle r).Outrun now name ↔ r.Outrun now name := by
  rw [Run.Outrun, Run.Outrun, events_settle]

@[simp] theorem misled_settle (c : Connection σ) (r : Run σ Outcome) (body : Body) :
    (c.settle r).Misled body ↔ r.Misled body := by
  rw [Run.Misled, Run.Misled, invoked_settle]

end Connection

/-! ## Migrations that count as applied -/

/-- An insertion is blamed on another runner if a value had to be unique. -/
theorem Ledger.exists_of_insertionError {name other : String} {e : MigrationError}
    (he : e.isOfDriver = true) (h : insertionError name e = .recordedConcurrently other) :
    ∃ sql source, e = .uniqueness sql source := by
  cases e with
  | uniqueness sql source => exact ⟨sql, source, rfl⟩
  | connection source => cases h
  | statement sql source => cases h
  | recordedConcurrently other => cases he
  | unsupported reason => cases he
  | invalidOperation reason => cases he
  | invalidRecord fault => cases he

namespace Migration

variable {s : Session σ} {now : Timestamp} {name : String} {body : Body} {start : σ}

/-- A name that is said to be recorded by another runner could not be inserted, or the body says
so. -/
theorem origin_of_recordedConcurrently (hdriver : s.RaisesDriverErrors) {other : String}
    (h : (s.run (run s.dialect now name body) start).result =
      .error (.recordedConcurrently other)) :
    (s.run (run s.dialect now name body) start).Outrun now name ∨
      (s.run (run s.dialect now name body) start).Misled body := by
  -- No statement is refused with this error, so it is made of another one or comes from the body.
  have hcalled : ∀ statement e,
      .called statement (.error e) ∈ (s.run (run s.dialect now name body) start).events →
      e.isOfDriver = true := by
    intro statement e hmem
    obtain ⟨before, hbefore⟩ := Session.exists_call_of_called hmem
    exact hdriver statement before e hbefore
  have hcourse := course s now name body start
  generalize s.run (run s.dialect now name body) start = r at h hcalled hcourse
  cases hcourse with
  | unasked hlook =>
    cases h
    obtain ⟨statement, -, hmem⟩ := Ledger.exists_refused_look hlook
    cases hcalled statement _ hmem
  | found hlook hrows => cases h
  | bodyFailed hlook hbody =>
    cases h
    exact Or.inr ⟨by simp [Run.invoked_iff], other, hbody⟩
  | planFailed hlook hbody hplan =>
    cases h
    rcases Plan.origin_of_error hplan with ⟨statement, hmem⟩ | ⟨_, reason, -, -, hreason⟩
    · cases hcalled statement (.recordedConcurrently other) (by simp [hmem])
    · cases hreason
  | @unrecorded plan e _ _ _ _ _ hlook hbody hplan hinsert =>
    rw [Except.error.injEq] at h
    have hdriven := hcalled (Ledger.insertion now name) e (by simp)
    obtain ⟨sql, source, rfl⟩ := Ledger.exists_of_insertionError hdriven h
    exact Or.inl ⟨sql, source, by simp⟩
  | recorded hlook hbody hplan hinsert => cases h

/-- A migration that counts as applied without being run was found in the ledger. -/
theorem found_of_alreadyApplied
    (h : (s.run (run s.dialect now name body) start).result = .ok .alreadyApplied) :
    (s.run (run s.dialect now name body) start).Found name := by
  have hcourse := course s now name body start
  generalize s.run (run s.dialect now name body) start = r at h hcourse
  cases hcourse with
  | found hlook hrows =>
    obtain ⟨ready, first, -, -, rfl⟩ := Ledger.look_eq_ok hlook
    exact ⟨_, hrows, by simp⟩
  | _ => cases h

/-- A migration whose body fails is not found in the ledger, and does not come to inserting its
name. -/
theorem unrecorded_of_body {e : MigrationError}
    (hinvoked : (s.run (run s.dialect now name body) start).invoked = true)
    (hbody : body = .error e) :
    ¬(s.run (run s.dialect now name body) start).Found name ∧
      ¬(s.run (run s.dialect now name body) start).Outrun now name := by
  subst hbody
  have hcourse := course s now name (.error e) start
  generalize s.run (run s.dialect now name (.error e)) start = r at hinvoked hcourse
  rw [Run.invoked_iff] at hinvoked
  cases hcourse with
  | unasked hlook => exact absurd hinvoked (Ledger.invoked_not_mem_look hlook)
  | found hlook hrows => exact absurd hinvoked (Ledger.invoked_not_mem_look hlook)
  | bodyFailed hlook hbody =>
    constructor
    · rintro ⟨rows, hrows, hmem⟩
      have hlooked := Ledger.eq_of_called_look hlook (by simpa using hmem)
      cases hlooked
      exact hrows rfl
    · rintro ⟨sql, source, hmem⟩
      have hlooked := Ledger.spares_of_called_look hlook (by simpa using hmem)
      exact hlooked now name rfl
  | planFailed hlook hbody hplan => cases hbody
  | unrecorded hlook hbody hplan hinsert => cases hbody
  | recorded hlook hbody hplan hinsert => cases hbody

/-- A body that fails ends the run with its error. -/
theorem run_of_body {e : MigrationError} {state : σ} {events : List Event}
    (hlook : Ledger.look s name start = ⟨.ok [], state, events⟩) :
    s.run (run s.dialect now name (.error e)) start = ⟨.error e, state, events ++ [.invoked]⟩ := by
  rw [run_eq, hlook]
  rfl

end Migration

namespace Connection

variable {c : Connection σ}

/-- A migration in a transaction comes to count as applied if its run does so, or if its run says
that another runner has recorded the name. -/
theorem alreadyApplied_of_settle {r : Run σ Outcome}
    (h : (c.settle r).result = .ok .alreadyApplied) :
    r.result = .ok .alreadyApplied ∨ ∃ other, r.result = .error (.recordedConcurrently other) := by
  have hsettled := c.settled r
  generalize c.settle r = r' at h hsettled
  cases hsettled with
  | committed hresult _ => exact Or.inl (hresult.trans h)
  | outrun hresult _ => exact Or.inr ⟨_, hresult⟩
  | _ => cases h

/-- A run that fails gives the transaction its error, unless that tells of another runner. -/
theorem result_settle_of_error {r : Run σ Outcome} {e : MigrationError}
    (hresult : r.result = .error e) (hother : ∀ other, e ≠ .recordedConcurrently other) :
    (c.settle r).result = .error e := by
  have hsettled := c.settled r
  generalize c.settle r = r' at hsettled
  cases hsettled with
  | committed hresult' _ => cases hresult.symm.trans hresult'
  | uncommitted hresult' _ => cases hresult.symm.trans hresult'
  | outrun hresult' _ =>
    cases hresult.symm.trans hresult'
    exact absurd rfl (hother _)
  | stuck hresult' _ =>
    cases hresult.symm.trans hresult'
    exact absurd rfl (hother _)
  | rolledBack hresult' _ => exact hresult'.symm.trans hresult

/-- A run that tells of another runner makes the migration count as applied, if it can be rolled
back. -/
theorem result_settle_of_outrun {r : Run σ Outcome} {other : String}
    (hresult : r.result = .error (.recordedConcurrently other))
    (hrollback : (c.rollback r.state).1 = .ok ()) :
    (c.settle r).result = .ok .alreadyApplied := by
  unfold settle
  rw [hresult]
  show (finish c.rollback r (.ok .alreadyApplied)).result = .ok .alreadyApplied
  rw [finish_of_ok hrollback]

/-- A migration that is misled was not found in the ledger, and did not come to inserting its name.
-/
theorem unrecorded_of_misled {now : Timestamp} {name : String} {body : Body} {start : σ}
    (h : (c.migrate now name body start).Misled body) :
    ¬((c.migrate now name body start).Found name ∨
      (c.migrate now name body start).Outrun now name) := by
  rcases hbegin : c.beginning start with ⟨e | ⟨⟩, begun⟩
  · rw [migrate_of_unbegun (congrArg Prod.fst hbegin)] at h
    cases h.1
  · rw [migrate_of_begun hbegin, misled_settle] at h
    rw [migrate_of_begun hbegin, found_settle, outrun_settle, not_or]
    obtain ⟨hinvoked, other, hbody⟩ := h
    exact Migration.unrecorded_of_body hinvoked hbody

/-- A migration that counts as applied was found in the ledger, or was put into it by another
runner, unless its body failed with the error that tells of another runner.  The error of a body is
that of the migration, with this one exception. -/
theorem recorded_iff (hdriver : c.session.RaisesDriverErrors) (now : Timestamp) (name : String)
    (body : Body) (start : σ) :
    ((c.migrate now name body start).result = .ok .alreadyApplied →
      ((c.migrate now name body start).Found name ∨
          (c.migrate now name body start).Outrun now name ↔
        ¬(c.migrate now name body start).Misled body)) ∧
    (∀ e begun looked events, body = .error e → c.beginning start = (.ok (), begun) →
      Ledger.look c.session name begun = ⟨.ok [], looked, events⟩ →
      (c.rollback looked).1 = .ok () →
      ((∀ other, e ≠ .recordedConcurrently other) →
        (c.migrate now name body start).result = .error e) ∧
      ((∃ other, e = .recordedConcurrently other) →
        (c.migrate now name body start).result = .ok .alreadyApplied)) := by
  constructor
  · intro hresult
    rcases hbegin : c.beginning start with ⟨e | ⟨⟩, begun⟩
    · rw [migrate_of_unbegun (congrArg Prod.fst hbegin)] at hresult
      cases hresult
    refine ⟨fun hrecorded hmisled => unrecorded_of_misled hmisled hrecorded, fun hmisled => ?_⟩
    rw [migrate_of_begun hbegin] at hresult hmisled ⊢
    rw [misled_settle] at hmisled
    rw [found_settle, outrun_settle]
    rcases alreadyApplied_of_settle hresult with hfound | ⟨other, hother⟩
    · exact Or.inl (Migration.found_of_alreadyApplied hfound)
    · have horigin := Migration.origin_of_recordedConcurrently hdriver hother
      exact Or.inr (horigin.resolve_right hmisled)
  · intro e begun looked events hbody hbegin hlook hrollback
    subst hbody
    rw [migrate_of_begun hbegin, Migration.run_of_body hlook]
    constructor
    · exact result_settle_of_error rfl
    · rintro ⟨other, rfl⟩
      exact result_settle_of_outrun rfl hrollback

end Connection

/-- A name is not found in an empty database, and the lookup can be rolled back. -/
theorem Database.look_empty : ∃ begun looked events,
    (connection .sqlite).beginning {} = (.ok (), begun) ∧
      Ledger.look (connection .sqlite).session "m" begun = ⟨.ok [], looked, events⟩ ∧
      ((connection .sqlite).rollback looked).1 = .ok () := by
  have hbegin : ((connection .sqlite).beginning {}).1 = .ok () := by decide +kernel
  have hlook : (Ledger.look (connection .sqlite).session "m"
        ((connection .sqlite).beginning {}).2).result = .ok [] ∧
      ((connection .sqlite).rollback (Ledger.look (connection .sqlite).session "m"
        ((connection .sqlite).beginning {}).2).state).1 = .ok () := by
    decide +kernel
  exact ⟨_, _, _, Prod.ext hbegin rfl, Run.eq_of_result hlook.1, hlook.2⟩

/-- On a journal, a migration that is in the ledger is found there; on the table database, the error
of a body is that of its migration. -/
theorem Database.recorded_iff_found :
    (Journal.session (.sqlite {})).RaisesDriverErrors ∧
      (((Journal.connection (.sqlite {}) 9).migrate .epoch "m" (.ok [])
          { current := [Ledger.insertion .epoch "m"] }).Found "m" ∨
        ((Journal.connection (.sqlite {}) 9).migrate .epoch "m" (.ok [])
          { current := [Ledger.insertion .epoch "m"] }).Outrun .epoch "m") ∧
      (session .sqlite).RaisesDriverErrors ∧
      ((connection .sqlite).migrate .epoch "m" (.error (.unsupported "arrays")) {}).result =
        .error (.unsupported "arrays") := by
  have hjournal := Journal.raisesDriverErrors (.sqlite {})
  have hdatabase := session_raisesDriverErrors .sqlite
  refine ⟨hjournal, ?_, hdatabase, ?_⟩
  · have hrecorded := (Connection.recorded_iff (c := Journal.connection (.sqlite {}) 9) hjournal
      .epoch "m" (.ok []) { current := [Ledger.insertion .epoch "m"] }).1 (by decide +kernel)
    exact hrecorded.mpr (by simp [Run.Misled])
  · obtain ⟨begun, looked, events, hbegin, hlook, hrollback⟩ := look_empty
    have hbody := (Connection.recorded_iff (c := connection .sqlite) hdatabase .epoch "m"
      (.error (.unsupported "arrays")) {}).2
    exact (hbody _ begun looked events rfl hbegin hlook hrollback).1 (by simp)

/-- On the table database, a body that fails with the error that tells of another runner makes a
migration count as applied that is not in the ledger. -/
theorem Database.alreadyApplied_unrecorded :
    ((connection .sqlite).migrate .epoch "m" (.error (.recordedConcurrently "other"))
        {}).result = .ok .alreadyApplied ∧
      ¬(((connection .sqlite).migrate .epoch "m" (.error (.recordedConcurrently "other"))
          {}).Found "m" ∨
        ((connection .sqlite).migrate .epoch "m" (.error (.recordedConcurrently "other"))
          {}).Outrun .epoch "m") := by
  obtain ⟨begun, looked, events, hbegin, hlook, hrollback⟩ := look_empty
  constructor
  · rw [Connection.migrate_of_begun hbegin, Migration.run_of_body hlook]
    exact Connection.result_settle_of_outrun rfl hrollback
  · apply Connection.unrecorded_of_misled
    rw [Connection.migrate_of_begun hbegin, Migration.run_of_body hlook, Connection.misled_settle]
    exact ⟨by simp [Run.invoked_iff], "other", rfl⟩

end SchemaEvolution
