import Mathlib.Data.List.Nodup
import Mathlib.Logic.Function.Basic
import SchemaEvolution.Proofs.Conversations
import SchemaEvolution.Proofs.History

/-!
# Runners on one ledger

Any number of runners run migrations at the same time, each on a session of its own with the data
that all of them share.  They take turns in any order, and in its turn a runner makes one call.
Between two turns of a runner the others may do anything.

* `Session.advance` is one step of a script.
* `Race.turn` and `Race.after`: one turn of a runner, and a race after some turns.
* `Migration.advanced`: what one step of a migration does to the ledger.
* `Race.Sound` is what holds of a race at any time: the ledger has the names that it had at the
  start and those of the runners that have applied their migrations, each once.  `Race.Sound.turn`
  is the step and `Race.sound_after` the run.
* `Race.fails_loudly`: of the runners of one name at most one applies its migration, and one that
  comes too late gets an error.
-/

namespace SchemaEvolution

/-! ## One step of a script -/

namespace Script

variable {α : Type}

/-- The result of a script that is done. -/
def result? : Script α → Option (Except MigrationError α)
  | done result => some result
  | _ => none

/-- The statement that a script is about to call. -/
def pending? : Script α → Option Statement
  | call statement _ _ => some statement
  | _ => none

theorem eq_done_of_result? {x : Script α} {result : Except MigrationError α}
    (h : x.result? = some result) : x = done result := by
  cases x with
  | done result' =>
    cases h
    rfl
  | call => cases h
  | invoke => cases h

end Script

namespace Session

variable {σ α : Type}

/-- Makes the next call of a script, or invokes its body.  A script that is done is left alone. -/
def advance (s : Session σ) : Script α → σ → Script α × σ
  | .done result, state => (.done result, state)
  | .call statement report next, state =>
    match s.call statement state with
    | (.ok rows, state') => (next rows, state')
    | (.error e, state') => (.done (.error (report e)), state')
  | .invoke (.ok plan) next, state => (next plan, state)
  | .invoke (.error e) _, state => (.done (.error e), state)

theorem advance_of_answered {s : Session σ} {statement : Statement} {state : σ} {rows : List Row}
    (h : (s.call statement state).1 = .ok rows) (report : MigrationError → MigrationError)
    (next : List Row → Script α) :
    s.advance (.call statement report next) state = (next rows, (s.call statement state).2) := by
  have hcall : s.call statement state = (.ok rows, (s.call statement state).2) := Prod.ext h rfl
  rw [advance, hcall]

theorem advance_of_refused {s : Session σ} {statement : Statement} {state : σ}
    {e : MigrationError} (h : (s.call statement state).1 = .error e)
    (report : MigrationError → MigrationError) (next : List Row → Script α) :
    s.advance (.call statement report next) state =
      (.done (.error (report e)), (s.call statement state).2) := by
  have hcall : s.call statement state = (.error e, (s.call statement state).2) := Prod.ext h rfl
  rw [advance, hcall]

end Session

/-! ## Races -/

/-- A session on the shared data, and the migration to be run on it. -/
structure Runner (σ : Type) where
  session : Session σ
  attempt : Attempt

namespace Runner

variable {σ : Type}

/-- The name of the migration. -/
def name (r : Runner σ) : String := r.attempt.name

/-- All that a runner has to do. -/
def script (r : Runner σ) : Script Outcome :=
  Migration.run r.session.dialect r.attempt.now r.attempt.name r.attempt.body

/-- What can be left for a runner to do. -/
def Remaining (r : Runner σ) (x : Script Outcome) : Prop :=
  Migration.Remaining r.attempt.now r.name x

end Runner

/-- What each runner has left to do, and the data they share. -/
structure Race (ι σ : Type) where
  remaining : ι → Script Outcome
  shared : σ

namespace Race

variable {ι σ : Type} [DecidableEq ι]

omit [DecidableEq ι] in
/-- The result of a runner that is done. -/
def result? (r : Race ι σ) (i : ι) : Option (Except MigrationError Outcome) :=
  (r.remaining i).result?

omit [DecidableEq ι] in
/-- The statement that a runner is about to call. -/
def pending? (r : Race ι σ) (i : ι) : Option Statement :=
  (r.remaining i).pending?

/-- A runner takes a turn. -/
def turn (runners : ι → Runner σ) (r : Race ι σ) (i : ι) : Race ι σ :=
  let (rest, shared) := (runners i).session.advance (r.remaining i) r.shared
  ⟨Function.update r.remaining i rest, shared⟩

/-- The race after turns of the runners in some order. -/
def after (runners : ι → Runner σ) (start : σ) (turns : List ι) : Race ι σ :=
  turns.foldl (turn runners) ⟨fun i => (runners i).script, start⟩

variable {runners : ι → Runner σ}

theorem shared_turn (r : Race ι σ) (i : ι) :
    (r.turn runners i).shared =
      ((runners i).session.advance (r.remaining i) r.shared).2 := rfl

theorem remaining_turn_self (r : Race ι σ) (i : ι) :
    (r.turn runners i).remaining i =
      ((runners i).session.advance (r.remaining i) r.shared).1 :=
  Function.update_self ..

theorem remaining_turn_of_ne (r : Race ι σ) {i j : ι} (h : j ≠ i) :
    (r.turn runners i).remaining j = r.remaining j :=
  Function.update_of_ne h ..

theorem after_append_cons (start : σ) (turns : List ι) (i : ι) (later : List ι) :
    after runners start (turns ++ i :: later) =
      later.foldl (turn runners) ((after runners start turns).turn runners i) :=
  List.foldl_append

/-- A runner that is done stays so in all turns. -/
theorem remaining_foldl_of_done {r : Race ι σ} {i : ι} {result : Except MigrationError Outcome}
    (h : r.remaining i = .done result) (turns : List ι) :
    (turns.foldl (turn runners) r).remaining i = .done result := by
  induction turns generalizing r with
  | nil => exact h
  | cons j turns ih =>
    apply ih
    by_cases hij : i = j
    · subst hij
      rw [remaining_turn_self, h]
      rfl
    · rw [remaining_turn_of_ne r hij, h]

end Race

/-! ## Migrations step by step -/

/-- A session refuses to insert a name that is in the ledger, in whatever words. -/
def Session.RefusesRepeats {σ : Type} (s : Session σ) (names : σ → List String) : Prop :=
  ∀ now name state, name ∈ names state →
    ∃ e, (s.call (Ledger.insertion now name) state).1 = .error e

namespace Migration

variable {σ : Type} {now : Timestamp} {name : String}

/-- What one step does to a migration that is under way, and to the names in the ledger. -/
inductive Advanced (names : σ → List String) (now : Timestamp) (name : String) (state : σ) :
    Script Outcome × σ → Prop
  /-- It is under way still, or has failed. -/
  | goesOn {x state'} (hx : Remaining now name x) (hnames : names state' = names state) :
      Advanced names now name state (x, state')
  /-- It was found in the ledger. -/
  | found {state'} (hname : name ∈ names state) (hnames : names state' = names state) :
      Advanced names now name state (.done (.ok .alreadyApplied), state')
  /-- It was applied, and is in the ledger from now on. -/
  | inserted {state'} (hname : name ∉ names state) (hnames : names state' = names state ++ [name]) :
      Advanced names now name state (.done (.ok .applied), state')

/-- What is left of a migration is not yet carried out, nor found in the ledger. -/
theorem Remaining.result?_ne {x : Script Outcome} (hx : Remaining now name x) (outcome : Outcome) :
    x.result? ≠ some (.ok outcome) := by
  cases hx <;> simp [Script.result?]

/-- One step of what is left of a migration. -/
theorem advanced {s : Session σ} {names : σ → List String} (hkeeps : s.KeepsNames names)
    (hrefuses : s.RefusesRepeats names) {x : Script Outcome} (hx : Remaining now name x)
    (state : σ) : Advanced names now name state (s.advance x state) := by
  cases hx with
  | failed e => exact .goesOn (.failed e) rfl
  | @calling statement next hstatement hnext =>
    have hkept := hkeeps.others statement state hstatement.sparesLedger
    cases hcall : (s.call statement state).1 with
    | ok rows =>
      rw [Session.advance_of_answered hcall]
      exact .goesOn (hnext rows) hkept
    | error e =>
      rw [Session.advance_of_refused hcall]
      exact .goesOn (.failed e) hkept
  | @asking next hfound hmissing =>
    have hkept := hkeeps.others _ state (Statement.insertsNothing_lookup name).sparesLedger
    cases hcall : (s.call (Ledger.lookup name) state).1 with
    | ok rows =>
      rw [Session.advance_of_answered hcall]
      have hrows := hkeeps.found name state rows hcall
      cases rows with
      | nil => exact .goesOn hmissing hkept
      | cons row rows =>
        rw [hfound _ (by simp)]
        exact .found (hrows.mp (by simp)) hkept
    | error e =>
      rw [Session.advance_of_refused hcall]
      exact .goesOn (.failed e) hkept
  | @invoking body next hnext =>
    cases body with
    | ok plan => exact .goesOn (hnext plan) rfl
    | error e => exact .goesOn (.failed e) rfl
  | inserting =>
    cases hcall : (s.call (Ledger.insertion now name) state).1 with
    | ok rows =>
      rw [Session.advance_of_answered hcall]
      refine .inserted (fun hname => ?_) (hkeeps.inserted now name state rows hcall)
      obtain ⟨e, he⟩ := hrefuses now name state hname
      cases hcall.symm.trans he
    | error e =>
      rw [Session.advance_of_refused hcall]
      exact .goesOn (.failed _) (hkeeps.refused now name state e hcall)

/-- What is left of a migration calls an insertion only as its last statement. -/
theorem Remaining.eq_of_pending {x : Script Outcome} (hx : Remaining now name x)
    {statement : Statement} (hpending : x.pending? = some statement) {d : Dialect}
    (hinserts : ¬statement.SparesLedger d) :
    x = .call (Ledger.insertion now name) (Ledger.insertionError name)
      fun _ => .done (.ok .applied) := by
  cases hx with
  | failed e => cases hpending
  | calling hstatement hnext =>
    cases hpending
    exact absurd hstatement.sparesLedger hinserts
  | asking hfound hmissing =>
    cases hpending
    exact absurd (Statement.insertsNothing_lookup name).sparesLedger hinserts
  | invoking hnext => cases hpending
  | inserting => rfl

end Migration

/-! ## What holds at any time -/

namespace Race

variable {ι σ : Type} [DecidableEq ι] {runners : ι → Runner σ} {names : σ → List String}

omit [DecidableEq ι] in
/-- Some runners have applied their migrations, and their names are what has come to the ledger
since the start.  The others are under way, or done in another way. -/
structure Sound (runners : ι → Runner σ) (names : σ → List String) (start : σ) (winners : List ι)
    (r : Race ι σ) : Prop where
  names_eq : names r.shared = names start ++ winners.map fun i => (runners i).name
  nodup : (names r.shared).Nodup
  applied_iff : ∀ i, r.result? i = some (.ok .applied) ↔ i ∈ winners
  underWay : ∀ i, (runners i).Remaining (r.remaining i) ∨
    ∃ outcome, r.result? i = some (.ok outcome) ∧ (runners i).name ∈ names r.shared

variable {start : σ} {winners : List ι} {r : Race ι σ}

omit [DecidableEq ι] in
theorem sound_start (hstart : (names start).Nodup) :
    Sound runners names start [] ⟨fun i => (runners i).script, start⟩ where
  names_eq := by simp
  nodup := hstart
  applied_iff i := by
    have hremaining : (runners i).Remaining (runners i).script := Migration.remaining_run ..
    simp [result?, hremaining.result?_ne]
  underWay i := Or.inl (Migration.remaining_run ..)

/-- A turn of a runner that adds nothing to the ledger.  It is enough that the runner is under way
after it, or that its name is in the ledger. -/
theorem Sound.turn_of_kept (h : Sound runners names start winners r) {i : ι}
    (hnames : names (r.turn runners i).shared = names r.shared)
    (happlied : (r.turn runners i).result? i = some (.ok .applied) ↔ i ∈ winners)
    (hunderWay : (runners i).Remaining ((r.turn runners i).remaining i) ∨
      ∃ outcome, (r.turn runners i).result? i = some (.ok outcome) ∧
        (runners i).name ∈ names r.shared) :
    Sound runners names start winners (r.turn runners i) where
  names_eq := hnames.trans h.names_eq
  nodup := hnames ▸ h.nodup
  applied_iff j := by
    by_cases hj : j = i
    · subst hj
      exact happlied
    · rw [result?, remaining_turn_of_ne r hj]
      exact h.applied_iff j
  underWay j := by
    rw [hnames]
    by_cases hj : j = i
    · subst hj
      exact hunderWay
    · rw [result?, remaining_turn_of_ne r hj]
      exact h.underWay j

/-- A turn of a runner that applies its migration. -/
theorem Sound.turn_of_inserted (h : Sound runners names start winners r) {i : ι}
    (hname : (runners i).name ∉ names r.shared)
    (hnames : names (r.turn runners i).shared = names r.shared ++ [(runners i).name])
    (happlied : (r.turn runners i).result? i = some (.ok .applied)) :
    Sound runners names start (winners ++ [i]) (r.turn runners i) where
  names_eq := by simp [hnames, h.names_eq]
  nodup := by
    rw [hnames, List.nodup_append]
    refine ⟨h.nodup, List.nodup_singleton _, fun other hother new hnew heq => ?_⟩
    rw [heq, List.mem_singleton.mp hnew] at hother
    exact hname hother
  applied_iff j := by
    by_cases hj : j = i
    · subst hj
      simp [happlied]
    · rw [result?, remaining_turn_of_ne r hj]
      simpa [hj, result?] using h.applied_iff j
  underWay j := by
    rw [hnames]
    by_cases hj : j = i
    · subst hj
      exact Or.inr ⟨_, happlied, by simp⟩
    · rw [result?, remaining_turn_of_ne r hj]
      refine (h.underWay j).imp_right fun ⟨outcome, hresult, hmem⟩ => ⟨outcome, hresult, ?_⟩
      exact List.mem_append_left _ hmem

/-- A turn keeps a race sound, and adds at most one winner. -/
theorem Sound.turn (h : Sound runners names start winners r)
    (hkeeps : ∀ i, (runners i).session.KeepsNames names)
    (hrefuses : ∀ i, (runners i).session.RefusesRepeats names) (i : ι) :
    ∃ more, Sound runners names start (winners ++ more) (r.turn runners i) := by
  rcases h.underWay i with hremaining | ⟨outcome, hresult, hname⟩
  · have hloser : i ∉ winners := fun hmem =>
      hremaining.result?_ne _ ((h.applied_iff i).mpr hmem)
    have hadvanced := Migration.advanced (hkeeps i) (hrefuses i) hremaining r.shared
    have hself : (r.turn runners i).remaining i =
        ((runners i).session.advance (r.remaining i) r.shared).1 := r.remaining_turn_self i
    have hshared : (r.turn runners i).shared =
        ((runners i).session.advance (r.remaining i) r.shared).2 := r.shared_turn i
    generalize (runners i).session.advance (r.remaining i) r.shared = next at *
    cases hadvanced with
    | goesOn hx hnames =>
      refine ⟨[], ?_⟩
      rw [List.append_nil]
      apply h.turn_of_kept (hshared ▸ hnames)
      · rw [result?, hself]
        exact iff_of_false (hx.result?_ne _) hloser
      · rw [hself]
        exact Or.inl hx
    | found hname hnames =>
      refine ⟨[], ?_⟩
      rw [List.append_nil]
      apply h.turn_of_kept (hshared ▸ hnames)
      · rw [result?, hself]
        exact iff_of_false (by simp [Script.result?]) hloser
      · rw [result?, hself]
        exact Or.inr ⟨_, rfl, hname⟩
    | inserted hname hnames =>
      refine ⟨[i], h.turn_of_inserted hname (hshared ▸ hnames) ?_⟩
      rw [result?, hself]
      rfl
  -- A runner that is done stays as it is.
  · have hdone := Script.eq_done_of_result? hresult
    have hself : (r.turn runners i).remaining i =
        ((runners i).session.advance (r.remaining i) r.shared).1 := r.remaining_turn_self i
    rw [hdone] at hself
    refine ⟨[], ?_⟩
    rw [List.append_nil]
    apply h.turn_of_kept
    · rw [shared_turn, hdone]
      rfl
    · rw [← h.applied_iff, result?, result?, hself, hdone]
      rfl
    · rw [result?, hself]
      exact Or.inr ⟨outcome, rfl, hname⟩

/-- A race is sound at any time. -/
theorem sound_after (hkeeps : ∀ i, (runners i).session.KeepsNames names)
    (hrefuses : ∀ i, (runners i).session.RefusesRepeats names) (hstart : (names start).Nodup)
    (turns : List ι) :
    ∃ winners, Sound runners names start winners (after runners start turns) := by
  have hfold : ∀ winners (r : Race ι σ), Sound runners names start winners r →
      ∃ winners', Sound runners names start winners' (turns.foldl (turn runners) r) := by
    induction turns with
    | nil => exact fun winners r h => ⟨winners, h⟩
    | cons i turns ih =>
      intro winners r h
      obtain ⟨more, hturn⟩ := h.turn hkeeps hrefuses i
      exact ih _ _ hturn
  exact hfold [] _ (sound_start hstart)

/-! ## Too late -/

/-- An insertion of a name that is in the ledger by then is refused, and the runner is done with
what this means. -/
theorem refused_of_late (hrefuses : ∀ i, (runners i).session.RefusesRepeats names) {i : ι}
    (hremaining : (runners i).Remaining (r.remaining i)) {statement : Statement}
    (hpending : r.pending? i = some statement)
    (hinserts : ¬statement.SparesLedger (runners i).session.dialect)
    (hname : (runners i).name ∈ names r.shared) :
    ∃ e, ((runners i).session.call statement r.shared).1 = .error e ∧
      (r.turn runners i).remaining i =
        .done (.error (Ledger.insertionError (runners i).name e)) := by
  have hscript := hremaining.eq_of_pending hpending hinserts
  rw [pending?, hscript] at hpending
  cases hpending
  obtain ⟨e, he⟩ := hrefuses i _ _ _ hname
  refine ⟨e, he, ?_⟩
  rw [remaining_turn_self, hscript, Session.advance_of_refused he]

/-- However the runners of a race take turns, and whatever fails on the way:

* The ledger has no name twice.
* Of the runners with one name at most one has applied its migration, and none if the name was in
  the ledger at the start.
* A runner that calls an insertion when its name is in the ledger is refused, and ends in an error
  for good.  If the database says that the name must be unique, the error tells of another runner;
  an error of another kind is passed on.
* A runner that has come to an end without an error has its name in the ledger. -/
theorem fails_loudly (hkeeps : ∀ i, (runners i).session.KeepsNames names)
    (hrefuses : ∀ i, (runners i).session.RefusesRepeats names) (hstart : (names start).Nodup)
    (turns : List ι) :
    (names (after runners start turns).shared).Nodup ∧
    (∀ i j, (after runners start turns).result? i = some (.ok .applied) →
      (after runners start turns).result? j = some (.ok .applied) →
      (runners i).name = (runners j).name → i = j) ∧
    (∀ i, (after runners start turns).result? i = some (.ok .applied) →
      (runners i).name ∉ names start) ∧
    (∀ i statement, (after runners start turns).pending? i = some statement →
      ¬statement.SparesLedger (runners i).session.dialect →
      (runners i).name ∈ names (after runners start turns).shared →
      ∃ e failure,
        ((runners i).session.call statement (after runners start turns).shared).1 = .error e ∧
        (∀ later, (after runners start (turns ++ i :: later)).result? i =
          some (.error failure)) ∧
        (∀ sql source, e = .uniqueness sql source →
          failure = .recordedConcurrently (runners i).name) ∧
        (e.isUniqueViolation = false → failure = e)) ∧
    (∀ i outcome, (after runners start turns).result? i = some (.ok outcome) →
      (runners i).name ∈ names (after runners start turns).shared) := by
  obtain ⟨winners, hsound⟩ := sound_after hkeeps hrefuses hstart turns
  -- The ledger has each winner's name once, and beside them only what it had at the start.
  have hnodup := hsound.nodup
  rw [hsound.names_eq, List.nodup_append] at hnodup
  obtain ⟨-, hwinners, hfresh⟩ := hnodup
  refine ⟨hsound.nodup, ?_, ?_, ?_, ?_⟩
  · intro i j hi hj hname
    exact List.inj_on_of_nodup_map hwinners ((hsound.applied_iff i).mp hi)
      ((hsound.applied_iff j).mp hj) hname
  · intro i hi hmem
    exact hfresh _ hmem _ (List.mem_map_of_mem ((hsound.applied_iff i).mp hi)) rfl
  · intro i statement hpending hinserts hname
    have hremaining := (hsound.underWay i).resolve_right fun ⟨outcome, hresult, _⟩ => by
      rw [pending?, Script.eq_done_of_result? hresult] at hpending
      cases hpending
    obtain ⟨e, he, hdone⟩ := refused_of_late hrefuses hremaining hpending hinserts hname
    refine ⟨e, Ledger.insertionError (runners i).name e, he, fun later => ?_, ?_, fun hother => ?_⟩
    · rw [after_append_cons, result?, remaining_foldl_of_done hdone]
      rfl
    · rintro sql source rfl
      rfl
    · rw [Ledger.insertionError, hother]
      rfl
  · intro i outcome hresult
    rcases hsound.underWay i with hremaining | ⟨_, _, hname⟩
    · exact absurd hresult (hremaining.result?_ne outcome)
    · exact hname

end Race

/-! ## Three runners -/

/-- The session on a connection that loses calls: the marks say in order which calls fail, and with
which error. -/
def Session.unreliable {σ : Type} (s : Session σ) :
    Session (List (Option MigrationError) × σ) where
  dialect := s.dialect
  call statement := fun (marks, state) =>
    match marks with
    | some e :: marks => (.error e, marks, state)
    | _ =>
      let (answer, state') := s.call statement state
      (answer, marks.tail, state')

/-- A call on an unreliable connection is lost, or is one on the session. -/
theorem Session.call_unreliable {σ : Type} (s : Session σ) (statement : Statement)
    (start : List (Option MigrationError) × σ) :
    ((∃ e, (s.unreliable.call statement start).1 = .error e) ∧
        (s.unreliable.call statement start).2.2 = start.2) ∨
      ((s.unreliable.call statement start).1 = (s.call statement start.2).1 ∧
        (s.unreliable.call statement start).2.2 = (s.call statement start.2).2) := by
  obtain ⟨marks, state⟩ := start
  rcases marks with _ | ⟨_ | e, marks⟩
  · exact Or.inr ⟨rfl, rfl⟩
  · exact Or.inr ⟨rfl, rfl⟩
  · exact Or.inl ⟨⟨e, rfl⟩, rfl⟩

/-- A ledger is a table of names also behind an unreliable connection. -/
theorem Session.KeepsNames.unreliable {σ : Type} {s : Session σ} {names : σ → List String}
    (h : s.KeepsNames names) : s.unreliable.KeepsNames fun state => names state.2 where
  found name state rows hanswer := by
    rcases s.call_unreliable (Ledger.lookup name) state with ⟨⟨e, he⟩, -⟩ | ⟨hsame, -⟩
    · cases he.symm.trans hanswer
    · exact h.found name _ rows (hsame.symm.trans hanswer)
  inserted now name state rows hanswer := by
    rcases s.call_unreliable (Ledger.insertion now name) state with ⟨⟨e, he⟩, -⟩ | ⟨hsame, hstate⟩
    · cases he.symm.trans hanswer
    · rw [hstate]
      exact h.inserted now name _ rows (hsame.symm.trans hanswer)
  refused now name state e hanswer := by
    rcases s.call_unreliable (Ledger.insertion now name) state with ⟨-, hstate⟩ | ⟨hsame, hstate⟩
    · rw [hstate]
    · rw [hstate]
      exact h.refused now name _ e (hsame.symm.trans hanswer)
  others statement state hspares := by
    rcases s.call_unreliable statement state with ⟨-, hstate⟩ | ⟨-, hstate⟩
    · rw [hstate]
    · rw [hstate]
      exact h.others statement _ hspares

theorem Session.RefusesRepeats.unreliable {σ : Type} {s : Session σ} {names : σ → List String}
    (h : s.RefusesRepeats names) : s.unreliable.RefusesRepeats fun state => names state.2 := by
  intro now name state hname
  rcases s.call_unreliable (Ledger.insertion now name) state with ⟨hlost, -⟩ | ⟨hsame, -⟩
  · exact hlost
  · obtain ⟨e, he⟩ := h now name state.2 hname
    exact ⟨e, hsame.trans he⟩

namespace Journal

/-- A journal refuses to insert a name twice. -/
theorem refusesRepeats (d : Dialect) : (session d).RefusesRepeats names := by
  intro now name j hname
  rw [session_call, call_insertion, if_pos hname]
  exact ⟨_, rfl⟩

/-- Three runners that create the same table on one journal, the last one in another dialect. -/
def runners : Fin 3 → Runner (List (Option MigrationError) × Journal)
  | 2 => ⟨(session (.standard .postgres .doubleQuote)).unreliable, ⟨.epoch, "m", .creating⟩⟩
  | _ => ⟨(session (.sqlite {})).unreliable, ⟨.epoch, "m", .creating⟩⟩

/-- The second call is lost, which is one of the last runner.  The first two both find that the name
is missing, and the first one inserts it. -/
def turns : List (Fin 3) :=
  [2, 2, 0, 0, 0, 1, 1, 1, 0, 1, 0, 1, 0]

/-- The first runner applies its migration, the last one gets the error of its lost call, and the
one in between comes too late. -/
theorem fails_loudly_of_three :
    (∀ i, (runners i).session.KeepsNames fun state => names state.2) ∧
      (∀ i, (runners i).session.RefusesRepeats fun state => names state.2) ∧
      (Race.after runners ([none, some (.connection "lost")], {}) turns).result? 0 =
        some (.ok .applied) ∧
      (Race.after runners ([none, some (.connection "lost")], {}) turns).result? 2 =
        some (.error (.connection "lost")) ∧
      ∀ later, (Race.after runners ([none, some (.connection "lost")], {})
          (turns ++ 1 :: later)).result? 1 = some (.error (.recordedConcurrently "m")) := by
  have hkeeps : ∀ i, (runners i).session.KeepsNames fun state => names state.2 := by
    intro i
    unfold runners
    split
    · exact (keepsNames _).unreliable
    · exact (keepsNames _).unreliable
  have hrefuses : ∀ i, (runners i).session.RefusesRepeats fun state => names state.2 := by
    intro i
    unfold runners
    split
    · exact (refusesRepeats _).unreliable
    · exact (refusesRepeats _).unreliable
  refine ⟨hkeeps, hrefuses, by decide +kernel, by decide +kernel, ?_⟩
  have hpending : (Race.after runners ([none, some (.connection "lost")], {}) turns).pending? 1 =
      some (Ledger.insertion .epoch "m") := by decide +kernel
  have hanswer : ((runners 1).session.call (Ledger.insertion .epoch "m")
        (Race.after runners ([none, some (.connection "lost")], {}) turns).shared).1 =
      .error (.uniqueness ((runners 1).session.dialect.render (Ledger.insertion .epoch "m"))
        "UNIQUE constraint failed: migration.name") := by decide +kernel
  have hstart : ((fun state : List (Option MigrationError) × Journal => names state.2)
      ([none, some (.connection "lost")], {})).Nodup := by decide +kernel
  obtain ⟨-, -, -, hlate, -⟩ := Race.fails_loudly hkeeps hrefuses hstart turns
  obtain ⟨e, failure, he, hresult, hunique, -⟩ := hlate 1 _ hpending
    (fun hspares => hspares .epoch "m" rfl) (by decide +kernel)
  rw [hunique _ _ (Except.error.inj (he.symm.trans hanswer))] at hresult
  exact hresult

end Journal

end SchemaEvolution
