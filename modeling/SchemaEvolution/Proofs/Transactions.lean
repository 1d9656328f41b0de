import SchemaEvolution.Proofs.Connections

/-!
# Migrations as a whole

On a connection with transactions (`Connection.IsTransactional`) a migration leaves all of its
statements behind, or none.

* `Migration.calls_of_applied` and `Migration.calls_of_alreadyApplied`: the statements of a run that
  comes to an end.
* `Connection.IsTransactional.data_settle`: what a transaction did is kept, or undone.
* `Connection.IsTransactional.migrate_atomic` puts these together.
-/

namespace SchemaEvolution

variable {σ δ : Type}

/-! ## Statements of a run -/

namespace Migration

variable {s : Session σ} {now : Timestamp} {name : String} {body : Body} {start : σ}

/-- The statements that carry out a migration whose plan is executed in some state. -/
def statements (s : Session σ) (now : Timestamp) (name : String) (plan : Plan) (state : σ) :
    List Statement :=
  Ledger.setup s.dialect ++ [Ledger.lookup name] ++ (Plan.effect s plan state).calls ++
    [Ledger.insertion now name]

/-- A migration that is carried out calls the statements of its plan, between those that ask and
write the ledger. -/
theorem calls_of_applied (h : (s.run (run s.dialect now name body) start).result = .ok .applied) :
    ∃ plan, body = .ok plan ∧
      (Plan.effect s plan (s.stateAfter (Ledger.setup s.dialect ++ [Ledger.lookup name])
        start)).result = .ok () ∧
      (s.run (run s.dialect now name body) start).calls =
        statements s now name plan
          (s.stateAfter (Ledger.setup s.dialect ++ [Ledger.lookup name]) start) := by
  have hcourse := course s now name body start
  generalize s.run (run s.dialect now name body) start = r at h hcourse
  cases hcourse with
  | @recorded plan rows state events executed steps final hlook hbody hplan hinsert =>
    rw [← Ledger.state_look hlook]
    have hsteps : (⟨.ok .applied, final,
          .invoked :: (steps ++ [.called (Ledger.insertion now name) (.ok rows)])⟩ :
          Run σ Outcome).calls =
        (Plan.effect s plan state).calls ++ [Ledger.insertion now name] := by
      rw [hplan]
      exact Run.calls_append (.ok Outcome.applied) final steps _
    refine ⟨plan, hbody, by rw [hplan], ?_⟩
    rw [Run.calls_append, hsteps, statements, List.append_assoc]
    exact congrArg (· ++ _) (Ledger.calls_look hlook)
  | _ => cases h

/-- A migration that is found in the ledger calls nothing after its lookup. -/
theorem calls_of_alreadyApplied
    (h : (s.run (run s.dialect now name body) start).result = .ok .alreadyApplied) :
    (s.run (run s.dialect now name body) start).calls =
        Ledger.setup s.dialect ++ [Ledger.lookup name] ∧
      (s.run (run s.dialect now name body) start).invoked = false := by
  have hcourse := course s now name body start
  generalize s.run (run s.dialect now name body) start = r at h hcourse
  cases hcourse with
  | found hlook hrows =>
    refine ⟨Ledger.calls_look hlook, ?_⟩
    rw [← Bool.not_eq_true, Run.invoked_iff]
    exact Ledger.invoked_not_mem_look hlook
  | _ => cases h

end Migration

/-! ## Kept or undone -/

namespace Connection.IsTransactional

variable {c : Connection σ} {data : σ → δ} (h : c.IsTransactional data)

include h

/-- What a run did in a transaction is kept if the run and the commit come to an end, and is undone
otherwise. -/
theorem data_settle {start begun : σ} {r : Run σ Outcome} {statements : List Statement}
    (hbegin : c.beginning start = (.ok (), begun))
    (hstate : r.state = c.session.stateAfter statements begun) :
    (∃ outcome, r.result = .ok outcome ∧ (c.settle r).result = .ok outcome ∧
        (c.commit r.state).1 = .ok () ∧ data (c.settle r).state = data r.state) ∨
      ((c.settle r).result ≠ .ok .applied ∧ data (c.settle r).state = data begun) := by
  have hsettled := c.settled r
  generalize c.settle r = r' at hsettled
  cases hsettled with
  | committed hresult hcommit =>
    exact Or.inl ⟨_, hresult, rfl, hcommit, h.committed r.state hcommit⟩
  -- The other ways lead back to the beginning, for which the state must be one that calls led to.
  | uncommitted hresult hcommit =>
    rw [hstate] at hcommit ⊢
    exact Or.inr ⟨by simp, h.uncommitted start begun statements _ hbegin hcommit⟩
  | outrun hresult hrollback =>
    rw [hstate]
    exact Or.inr ⟨by simp, h.rolledBack start begun statements hbegin⟩
  | stuck hresult hrollback =>
    rw [hstate]
    exact Or.inr ⟨by simp, h.rolledBack start begun statements hbegin⟩
  | rolledBack hresult hother =>
    rw [hstate]
    exact Or.inr ⟨by simp, h.rolledBack start begun statements hbegin⟩

/-- A migration in a transaction leaves all of its statements behind or none.

* If it is carried out, its commit came to an end, and the data are those that the statements of the
  ledger, of the plan and again of the ledger lead to, none of which was refused.
* Otherwise the data are as they were at the start; or the name was found in the ledger, the body
  was not invoked, and the commit kept what preparing the ledger did. -/
theorem migrate_atomic (now : Timestamp) (name : String) (body : Body) (start : σ) :
    ((c.migrate now name body start).result = .ok .applied →
      ∃ begun plan looked final, c.beginning start = (.ok (), begun) ∧ data begun = data start ∧
        body = .ok plan ∧
        looked = c.session.stateAfter
          (Ledger.setup c.session.dialect ++ [Ledger.lookup name]) begun ∧
        (Plan.effect c.session plan looked).result = .ok () ∧
        (c.migrate now name body start).calls =
          Migration.statements c.session now name plan looked ∧
        (∀ statement, ¬(c.migrate now name body start).Refused statement) ∧
        final = c.session.stateAfter
          (Migration.statements c.session now name plan looked) begun ∧
        (c.commit final).1 = .ok () ∧
        data (c.migrate now name body start).state = data final) ∧
    ((c.migrate now name body start).result ≠ .ok .applied →
      data (c.migrate now name body start).state = data start ∨
        (c.migrate now name body start).result = .ok .alreadyApplied ∧
        (c.migrate now name body start).Found name ∧
        (c.migrate now name body start).invoked = false ∧
        ∃ begun final, c.beginning start = (.ok (), begun) ∧ data begun = data start ∧
          final = c.session.stateAfter
            (Ledger.setup c.session.dialect ++ [Ledger.lookup name]) begun ∧
          (c.commit final).1 = .ok () ∧
          data (c.migrate now name body start).state = data final) := by
  rcases hbegin : c.beginning start with ⟨e | ⟨⟩, begun⟩
  · rw [migrate_of_unbegun (congrArg Prod.fst hbegin)]
    constructor
    · intro hresult
      cases hresult
    · intro _
      exact Or.inl (h.begun start)
  have hbegun : data begun = data start := by
    have hkept := h.begun start
    rwa [hbegin] at hkept
  rw [migrate_of_begun hbegin]
  have hstate := c.session.state_run (Migration.run c.session.dialect now name body) begun
  have hended := h.data_settle hbegin hstate
  constructor
  · intro hresult
    -- What was undone does not count as carried out, so the commit kept what the run did.
    obtain ⟨outcome, hrun, hsettle, hcommit, hdata⟩ :=
      hended.resolve_right fun hundone => hundone.1 hresult
    rw [hresult, Except.ok.injEq] at hsettle
    subst hsettle
    obtain ⟨plan, hbody, hplan, hcalls⟩ := Migration.calls_of_applied hrun
    refine ⟨begun, plan, _, _, rfl, hbegun, hbody, rfl, hplan, ?_, ?_, rfl, ?_, ?_⟩
    · rw [calls_settle, hcalls]
    · intro statement
      rw [refused_settle]
      exact Session.not_refused_of_ok hrun statement
    · rwa [← hcalls, ← hstate]
    · rw [hdata, ← hcalls, ← hstate]
  · intro hresult
    rcases hended with ⟨outcome, hrun, hsettle, hcommit, hdata⟩ | ⟨-, hdata⟩
    · cases outcome with
      | applied => exact absurd hsettle hresult
      | alreadyApplied =>
        obtain ⟨hcalls, hinvoked⟩ := Migration.calls_of_alreadyApplied hrun
        refine Or.inr ⟨hsettle, ?_, ?_, begun, _, rfl, hbegun, rfl, ?_, ?_⟩
        · exact (found_settle c _ name).mpr (Migration.found_of_alreadyApplied hrun)
        · rw [invoked_settle, hinvoked]
        · rwa [← hcalls, ← hstate]
        · rw [hdata, ← hcalls, ← hstate]
    · exact Or.inl (hdata.trans hbegun)

end Connection.IsTransactional

/-- On a journal with room for its statements, a migration is carried out without a refusal; where
the room does not suffice, it leaves nothing behind. -/
theorem Journal.migrate_atomic_room :
    (connection (.sqlite {}) 9).IsTransactional current ∧
      ((connection (.sqlite {}) 9).migrate .epoch "m" .creating {}).result = .ok .applied ∧
      (∀ statement, ¬((connection (.sqlite {}) 9).migrate .epoch "m" .creating {}).Refused
        statement) ∧
      (connection (.sqlite {}) 3).IsTransactional current ∧
      ((connection (.sqlite {}) 3).migrate .epoch "m" .creating {}).result =
        .error (.connection "database or disk is full") ∧
      ((connection (.sqlite {}) 3).migrate .epoch "m" .creating {}).state.current = [] := by
  have happlied : ((connection (.sqlite {}) 9).migrate .epoch "m" .creating {}).result =
      .ok .applied := by decide +kernel
  have hfull : ((connection (.sqlite {}) 3).migrate .epoch "m" .creating {}).result =
      .error (.connection "database or disk is full") := by decide +kernel
  refine ⟨isTransactional _ 9, happlied, ?_, isTransactional _ 3, hfull, ?_⟩
  · have hatomic := Connection.IsTransactional.migrate_atomic (isTransactional (.sqlite {}) 9)
      .epoch "m" .creating {}
    obtain ⟨_, _, _, _, -, -, -, -, -, -, hrefused, -⟩ := hatomic.1 happlied
    exact hrefused
  · have hatomic := Connection.IsTransactional.migrate_atomic (isTransactional (.sqlite {}) 3)
      .epoch "m" .creating {}
    rcases hatomic.2 (by rw [hfull]; simp) with hkept | ⟨hfound, -⟩
    · exact hkept
    · rw [hfull] at hfound
      cases hfound

end SchemaEvolution
