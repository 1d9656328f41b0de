import SchemaEvolution.Proofs.Course
import SchemaEvolution.Proofs.Journal

/-!
# Histories of migrations

Migrations are run one after the other on a session whose ledger is a table of names
(`Session.KeepsNames`); of everything else that it does nothing is assumed.

* One attempt: `names_attempt` says what it does to the ledger, `not_mem_of_invoked` that a body is
  invoked only if the name is not there, and `invoked_of_answered` and `result_of_mem` what happens
  otherwise.
* Many attempts: `names_attempted` and `nodup_applied` follow by induction on the history, and
  `mem_names_of_applied` and `invoked_again` say what comes of a name later on.
* `Session.KeepsNames.applied_once` is what a ledger is for.
-/

namespace SchemaEvolution

/-- A migration that is to be run at some time. -/
structure Attempt where
  now : Timestamp
  name : String
  body : Body

namespace Session

variable {σ : Type}

/-- Runs a migration. -/
def attempt (s : Session σ) (a : Attempt) (state : σ) : Run σ Outcome :=
  s.run (Migration.run s.dialect a.now a.name a.body) state

/-- The state after migrations have been run in order. -/
def attempted (s : Session σ) (history : List Attempt) (start : σ) : σ :=
  history.foldl (fun state a => (s.attempt a state).state) start

/-- The name of a migration if it is carried out. -/
def newNames (s : Session σ) (a : Attempt) (state : σ) : List String :=
  match (s.attempt a state).result with
  | .ok .applied => [a.name]
  | _ => []

/-- The names of the migrations of a history that are carried out, in order. -/
def applied (s : Session σ) : List Attempt → σ → List String
  | [], _ => []
  | a :: history, state => s.newNames a state ++ s.applied history (s.attempt a state).state

namespace KeepsNames

variable {s : Session σ} {names : σ → List String} (h : s.KeepsNames names)

include h

/-! ## Parts of an attempt -/

/-- Calls that spare the ledger leave the names as they are. -/
theorem names_run {α : Type} {x : Script α} {state : σ}
    (hcalls : ∀ statement answer, .called statement answer ∈ (s.run x state).events →
      statement.SparesLedger s.dialect) :
    names (s.run x state).state = names state := by
  rw [state_run]
  apply kept_stateAfter
  intro statement hmem middle
  obtain ⟨answer, hcalled⟩ := Run.mem_calls_iff.mp hmem
  exact h.others statement middle (hcalls statement answer hcalled)

/-- Preparing the ledger leaves the names as they are. -/
theorem names_setup (state : σ) :
    names (s.callAll (Ledger.setup s.dialect) state).state = names state := by
  rw [← run_sendAll]
  apply h.names_run
  intro statement answer hcalled
  rw [run_sendAll] at hcalled
  obtain ⟨t, ht, _, hevent⟩ := mem_events_callAll hcalled
  cases hevent
  exact Statement.sparesLedger_setup ht

/-- A plan leaves the names as they are. -/
theorem names_effect (plan : Plan) (state : σ) :
    names (Plan.effect s plan state).state = names state := by
  rw [← Plan.run_execute]
  apply h.names_run
  intro statement answer hcalled
  rw [Plan.run_execute] at hcalled
  obtain ⟨t, _, hevent, ht⟩ := Plan.mem_events_effect s plan state hcalled
  cases hevent
  exact ht.sparesLedger

/-- Looking a name up leaves the names as they are. -/
theorem names_look {name : String} {start state : σ} {result : Except MigrationError (List Row)}
    {events : List Event} (hlook : Ledger.look s name start = ⟨result, state, events⟩) :
    names state = names start := by
  have hkept : names (Ledger.look s name start).state = names start := by
    rw [← Ledger.run_look]
    apply h.names_run
    intro statement answer hcalled
    rw [Ledger.run_look] at hcalled
    exact Ledger.spares_of_called_look rfl hcalled
  rwa [hlook] at hkept

/-- A name that is looked up is found if it is among the names. -/
theorem look_found {name : String} {start state : σ} {rows : List Row} {events : List Event}
    (hlook : Ledger.look s name start = ⟨.ok rows, state, events⟩) :
    rows ≠ [] ↔ name ∈ names start := by
  obtain ⟨ready, first, hsetup, hcall, -⟩ := Ledger.look_eq_ok hlook
  have hready := h.names_setup start
  rw [hsetup] at hready
  rw [← hready]
  exact h.found name ready rows (congrArg Prod.fst hcall)

/-- A name that is looked up without rows is not among the names. -/
theorem not_mem_of_look {name : String} {start state : σ} {events : List Event}
    (hlook : Ledger.look s name start = ⟨.ok [], state, events⟩) : name ∉ names start := by
  intro hmem
  exact (h.look_found hlook).mpr hmem rfl

/-- A lookup and a plan after it leave the names as they are. -/
theorem names_executed {name : String} {plan : Plan} {start state executed : σ}
    {found : Except MigrationError (List Row)} {result : Except MigrationError Unit}
    {events steps : List Event} (hlook : Ledger.look s name start = ⟨found, state, events⟩)
    (hplan : Plan.effect s plan state = ⟨result, executed, steps⟩) :
    names executed = names start := by
  have heffect := h.names_effect plan state
  rw [hplan] at heffect
  exact heffect.trans (h.names_look hlook)

/-! ## One attempt -/

omit h in
/-- The course that an attempt takes. -/
theorem course_attempt (s : Session σ) (a : Attempt) (state : σ) :
    Migration.Course s a.now a.name a.body state (s.attempt a state) :=
  Migration.course s a.now a.name a.body state

/-- An attempt adds its name to the ledger if it is carried out, and else leaves the ledger as it
is. -/
theorem names_attempt (a : Attempt) (state : σ) :
    names (s.attempt a state).state = names state ++ s.newNames a state := by
  have hcourse := course_attempt s a state
  rw [newNames]
  generalize s.attempt a state = r at hcourse
  cases hcourse with
  | unasked hlook => simp [h.names_look hlook]
  | found hlook _ => simp [h.names_look hlook]
  | bodyFailed hlook _ => simp [h.names_look hlook]
  | planFailed hlook _ hplan => simp [h.names_executed hlook hplan]
  | unrecorded hlook _ hplan hinsert =>
    have hfinal := h.refused a.now a.name _ _ (congrArg Prod.fst hinsert)
    rw [hinsert, h.names_executed hlook hplan] at hfinal
    simp [hfinal]
  | recorded hlook _ hplan hinsert =>
    have hfinal := h.inserted a.now a.name _ _ (congrArg Prod.fst hinsert)
    rw [hinsert, h.names_executed hlook hplan] at hfinal
    simp [hfinal]

/-- An attempt that ends in an error leaves the ledger as it is. -/
theorem names_of_error {a : Attempt} {state : σ} {e : MigrationError}
    (hresult : (s.attempt a state).result = .error e) :
    names (s.attempt a state).state = names state := by
  rw [h.names_attempt, newNames, hresult, List.append_nil]

/-- A body is invoked only if its name is not in the ledger. -/
theorem not_mem_of_invoked {a : Attempt} {state : σ}
    (hinvoked : (s.attempt a state).invoked = true) : a.name ∉ names state := by
  have hcourse := course_attempt s a state
  generalize s.attempt a state = r at hcourse hinvoked
  rw [Run.invoked_iff] at hinvoked
  cases hcourse with
  | unasked hlook => exact absurd hinvoked (Ledger.invoked_not_mem_look hlook)
  | found hlook _ => exact absurd hinvoked (Ledger.invoked_not_mem_look hlook)
  | bodyFailed hlook _ => exact h.not_mem_of_look hlook
  | planFailed hlook _ _ => exact h.not_mem_of_look hlook
  | unrecorded hlook _ _ _ => exact h.not_mem_of_look hlook
  | recorded hlook _ _ _ => exact h.not_mem_of_look hlook

/-- A body whose name is in the ledger is not invoked. -/
theorem not_invoked_of_mem {a : Attempt} {state : σ} (hname : a.name ∈ names state) :
    (s.attempt a state).invoked = false := by
  rw [← Bool.not_eq_true]
  intro hinvoked
  exact h.not_mem_of_invoked hinvoked hname

omit h in
/-- A migration is carried out only if its body is invoked. -/
theorem invoked_of_applied {a : Attempt} {state : σ}
    (happlied : (s.attempt a state).result = .ok .applied) :
    (s.attempt a state).invoked = true := by
  have hcourse := course_attempt s a state
  generalize s.attempt a state = r at hcourse happlied
  cases hcourse with
  | recorded hlook _ _ _ => simp [Run.invoked_iff]
  | _ => cases happlied

/-- A body is invoked if the lookup of its name is answered and the name is not in the ledger. -/
theorem invoked_of_answered {a : Attempt} {state : σ}
    (hanswered : (s.attempt a state).Answered (Ledger.lookup a.name))
    (hname : a.name ∉ names state) : (s.attempt a state).invoked = true := by
  have hcourse := course_attempt s a state
  generalize s.attempt a state = r at hcourse hanswered
  rw [Run.invoked_iff]
  cases hcourse with
  | unasked hlook =>
    obtain ⟨rows, hcalled⟩ := hanswered
    cases Ledger.eq_of_called_look hlook hcalled
  | found hlook hrows => exact absurd ((h.look_found hlook).mp hrows) hname
  | bodyFailed hlook _ => simp
  | planFailed hlook _ _ => simp
  | unrecorded hlook _ _ _ => simp
  | recorded hlook _ _ _ => simp

/-- A migration whose name is in the ledger is not carried out again, unless the ledger cannot be
asked. -/
theorem result_of_mem {a : Attempt} {state : σ} (hname : a.name ∈ names state) :
    (s.attempt a state).result = .ok .alreadyApplied ∨
      ∃ statement ∈ Ledger.setup s.dialect ++ [Ledger.lookup a.name],
        (s.attempt a state).Refused statement := by
  have hcourse := course_attempt s a state
  generalize s.attempt a state = r at hcourse
  cases hcourse with
  | unasked hlook =>
    obtain ⟨statement, hmem, hcalled⟩ := Ledger.exists_refused_look hlook
    exact Or.inr ⟨statement, hmem, _, hcalled⟩
  | found hlook hrows => exact Or.inl rfl
  | bodyFailed hlook _ => exact absurd hname (h.not_mem_of_look hlook)
  | planFailed hlook _ _ => exact absurd hname (h.not_mem_of_look hlook)
  | unrecorded hlook _ _ _ => exact absurd hname (h.not_mem_of_look hlook)
  | recorded hlook _ _ _ => exact absurd hname (h.not_mem_of_look hlook)

/-- A ledger that can be asked decides whether the result is that a migration is there already. -/
theorem result_iff_mem {a : Attempt} {state : σ}
    (hanswered : ∀ statement ∈ Ledger.setup s.dialect ++ [Ledger.lookup a.name],
      ¬(s.attempt a state).Refused statement) :
    (s.attempt a state).result = .ok .alreadyApplied ↔ a.name ∈ names state := by
  constructor
  · intro hresult
    have hcourse := course_attempt s a state
    generalize s.attempt a state = r at hcourse hresult
    cases hcourse with
    | found hlook hrows => exact (h.look_found hlook).mp hrows
    | _ => cases hresult
  · intro hname
    rcases h.result_of_mem hname with hresult | ⟨statement, hmem, hrefused⟩
    · exact hresult
    · exact absurd hrefused (hanswered statement hmem)

/-! ## Many attempts -/

omit h in
theorem mem_newNames {a : Attempt} {state : σ} {name : String} :
    name ∈ s.newNames a state ↔ name = a.name ∧ (s.attempt a state).result = .ok .applied := by
  rw [newNames]
  split
  · rename_i happlied
    simp [happlied]
  · rename_i hother
    simp only [List.not_mem_nil, false_iff, not_and]
    intro _ happlied
    exact hother happlied

omit h in
theorem attempted_append (a b : List Attempt) (start : σ) :
    s.attempted (a ++ b) start = s.attempted b (s.attempted a start) :=
  List.foldl_append

omit h in
theorem attempted_cons (a : Attempt) (history : List Attempt) (start : σ) :
    s.attempted (a :: history) start = s.attempted history (s.attempt a start).state := rfl

/-- After a history the ledger has the names of the migrations that were carried out besides those
it had before. -/
theorem names_attempted (history : List Attempt) (start : σ) :
    names (s.attempted history start) = names start ++ s.applied history start := by
  induction history generalizing start with
  | nil => simp [attempted, applied]
  | cons a history ih =>
    rw [attempted_cons, ih, h.names_attempt, applied, List.append_assoc]

/-- A history only adds names. -/
theorem mem_names_attempted {name : String} {start : σ} (history : List Attempt)
    (hname : name ∈ names start) : name ∈ names (s.attempted history start) := by
  rw [h.names_attempted]
  exact List.mem_append_left _ hname

/-- A migration that was carried out stays in the ledger. -/
theorem mem_names_of_applied {a : Attempt} {state : σ}
    (happlied : (s.attempt a state).result = .ok .applied) (between : List Attempt) :
    a.name ∈ names (s.attempted (a :: between) state) := by
  rw [attempted_cons]
  apply h.mem_names_attempted
  rw [h.names_attempt]
  exact List.mem_append_right _ (mem_newNames.mpr ⟨rfl, happlied⟩)

/-- A body that was invoked in an attempt that failed is invoked again, as long as its name is not
carried out in between and the ledger answers. -/
theorem invoked_again {a b : Attempt} {state : σ} {e : MigrationError} {between : List Attempt}
    (hresult : (s.attempt a state).result = .error e)
    (hinvoked : (s.attempt a state).invoked = true)
    (hbetween : a.name ∉ s.applied between (s.attempt a state).state) (hb : b.name = a.name)
    (hanswered : (s.attempt b (s.attempted (a :: between) state)).Answered
      (Ledger.lookup b.name)) :
    (s.attempt b (s.attempted (a :: between) state)).invoked = true := by
  apply h.invoked_of_answered hanswered
  rw [hb, attempted_cons, h.names_attempted, h.names_of_error hresult, List.mem_append, not_or]
  exact ⟨h.not_mem_of_invoked hinvoked, hbetween⟩

/-- The migrations of a history that are carried out have names of their own, which the ledger did
not have. -/
theorem nodup_applied (history : List Attempt) (start : σ) :
    (s.applied history start).Nodup ∧ ∀ name ∈ s.applied history start, name ∉ names start := by
  induction history generalizing start with
  | nil => simp [applied]
  | cons a history ih =>
    obtain ⟨hnodup, hfresh⟩ := ih (s.attempt a start).state
    have hnew : ∀ name ∈ s.newNames a start, name ∉ names start := by
      intro name hmem
      obtain ⟨rfl, happlied⟩ := mem_newNames.mp hmem
      exact h.not_mem_of_invoked (invoked_of_applied happlied)
    -- A name that is carried out later is fresh after the attempt, so the attempt did not add it.
    have hlater : ∀ name ∈ s.applied history (s.attempt a start).state,
        name ∉ names start ∧ name ∉ s.newNames a start := by
      intro name hmem
      have hnames := hfresh name hmem
      rw [h.names_attempt, List.mem_append, not_or] at hnames
      exact hnames
    rw [applied]
    constructor
    · rw [List.nodup_append]
      refine ⟨?_, hnodup, fun name hmem other hother heq => ?_⟩
      · rw [newNames]
        split <;> simp
      · exact (hlater other hother).2 (heq ▸ hmem)
    · intro name hmem
      rcases List.mem_append.mp hmem with hmem | hmem
      · exact hnew name hmem
      · exact (hlater name hmem).1

/-- A history without a migration of some name leaves open whether that name is in the ledger. -/
theorem mem_names_of_other {name : String} {history : List Attempt}
    (hother : ∀ a ∈ history, a.name ≠ name) (start : σ) :
    name ∈ names (s.attempted history start) ↔ name ∈ names start := by
  induction history generalizing start with
  | nil => rfl
  | cons a history ih =>
    rw [attempted_cons, ih fun b hb => hother b (List.mem_cons_of_mem _ hb), h.names_attempt,
      List.mem_append]
    have hnew : name ∉ s.newNames a start := fun hmem =>
      hother a List.mem_cons_self (mem_newNames.mp hmem).1.symm
    exact or_iff_left hnew

/-! ## What a ledger is for -/

/-- On a session whose ledger is a table of names, a migration is applied at most once, whatever the
history.

* No name is applied twice, or if the ledger had it at the start.
* Once a name has been applied, its body is not invoked any more; the run says so unless one of its
  calls to the ledger fails.
* A run that ends in an error leaves the ledger as it was.  If it had invoked its body, the next run
  of its name invokes its body again, and so do those after it until one is applied, provided that
  the ledger answers.
* Runs of other names leave open whether a name is in the ledger, and this alone decides whether a
  body is invoked.  So a migration is skipped after such runs if and only if it would be skipped
  without them, as long as the ledger can be asked in both cases.  What else comes of a migration
  that is not skipped is up to its body and to the rest of the database, which other runs may
  change.  Names are told apart by their texts in lookups and insertions.
* At the end the ledger has the names that it had at the start and those that were applied. -/
theorem applied_once (start : σ) :
    (∀ history, (s.applied history start).Nodup ∧
      ∀ name ∈ s.applied history start, name ∉ names start) ∧
    (∀ earlier a between b, b.name = a.name →
      (s.attempt a (s.attempted earlier start)).result = .ok .applied →
      (s.attempt b (s.attempted (earlier ++ a :: between) start)).invoked = false ∧
      ((∀ statement ∈ Ledger.setup s.dialect ++ [Ledger.lookup b.name],
          ¬(s.attempt b (s.attempted (earlier ++ a :: between) start)).Refused statement) →
        (s.attempt b (s.attempted (earlier ++ a :: between) start)).result =
          .ok .alreadyApplied)) ∧
    (∀ earlier a e, (s.attempt a (s.attempted earlier start)).result = .error e →
      names (s.attempted (earlier ++ [a]) start) = names (s.attempted earlier start) ∧
      ((s.attempt a (s.attempted earlier start)).invoked = true →
        ∀ between b, a.name ∉ s.applied between (s.attempted (earlier ++ [a]) start) →
          b.name = a.name →
          (s.attempt b (s.attempted (earlier ++ a :: between) start)).Answered
            (Ledger.lookup b.name) →
          (s.attempt b (s.attempted (earlier ++ a :: between) start)).invoked = true)) ∧
    (∀ name others earlier, (∀ c ∈ others, c.name ≠ name) →
      (name ∈ names (s.attempted (earlier ++ others) start) ↔
        name ∈ names (s.attempted earlier start))) ∧
    (∀ a others earlier, (∀ c ∈ others, c.name ≠ a.name) →
      (∀ history ∈ [earlier, earlier ++ others],
        ∀ statement ∈ Ledger.setup s.dialect ++ [Ledger.lookup a.name],
          ¬(s.attempt a (s.attempted history start)).Refused statement) →
      ((s.attempt a (s.attempted (earlier ++ others) start)).result = .ok .alreadyApplied ↔
        (s.attempt a (s.attempted earlier start)).result = .ok .alreadyApplied)) ∧
    (∀ earlier a,
      (s.attempt a (s.attempted earlier start)).Answered (Ledger.lookup a.name) →
      ((s.attempt a (s.attempted earlier start)).invoked = true ↔
        a.name ∉ names start ∧ a.name ∉ s.applied earlier start)) ∧
    (∀ a b, a ≠ b →
      s.dialect.render (Ledger.lookup a) ≠ s.dialect.render (Ledger.lookup b) ∧
      ∀ now now', s.dialect.render (Ledger.insertion now a) ≠
        s.dialect.render (Ledger.insertion now' b)) ∧
    (∀ history, names (s.attempted history start) = names start ++ s.applied history start) := by
  refine ⟨fun history => h.nodup_applied history start, ?_, ?_, ?_, ?_, ?_, ?_,
    fun history => h.names_attempted history start⟩
  · intro earlier a between b hb happlied
    rw [attempted_append]
    have hname := h.mem_names_of_applied happlied between
    rw [← hb] at hname
    exact ⟨h.not_invoked_of_mem hname, fun hanswered => (h.result_iff_mem hanswered).mpr hname⟩
  · intro earlier a e hresult
    rw [attempted_append]
    refine ⟨h.names_of_error hresult, fun hinvoked between b hbetween hb hanswered => ?_⟩
    rw [attempted_append] at hanswered ⊢
    exact h.invoked_again hresult hinvoked hbetween hb hanswered
  · intro name others earlier hother
    rw [attempted_append]
    exact h.mem_names_of_other hother _
  · intro a others earlier hother hanswered
    rw [h.result_iff_mem (hanswered _ (by simp)), h.result_iff_mem (hanswered _ (by simp)),
      attempted_append]
    exact h.mem_names_of_other hother _
  · intro earlier a hanswered
    rw [← not_or, ← List.mem_append, ← h.names_attempted]
    exact ⟨h.not_mem_of_invoked, h.invoked_of_answered hanswered⟩
  · intro a b hab
    exact ⟨fun htext => hab (Ledger.lookup_text_injective _ htext),
      fun now now' htext => hab (Ledger.insertion_text_injective _ htext)⟩

end KeepsNames

end Session

/-! ## A history on a journal -/

/-- A migration whose body fails. -/
def Attempt.failing : Attempt where
  now := .epoch
  name := "it's"
  body := .error (.unsupported "arrays")

/-- A migration of the same name that creates a table. -/
def Attempt.creating : Attempt where
  now := .epoch
  name := "it's"
  body := .creating

/-- A body that fails leaves its name to the next migration; the one after that is not run. -/
theorem Journal.applied_once_after_failure :
    (session (.sqlite {})).KeepsNames names ∧
      ((session (.sqlite {})).attempt .failing {}).result = .error (.unsupported "arrays") ∧
      ((session (.sqlite {})).attempt .creating
        ((session (.sqlite {})).attempted [.failing] {})).invoked = true ∧
      ((session (.sqlite {})).attempt .creating
        ((session (.sqlite {})).attempted [.failing, .creating] {})).invoked = false ∧
      names ((session (.sqlite {})).attempted [.failing, .creating, .creating] {}) = ["it's"] := by
  obtain ⟨-, honce, hfailed, -, -, -, -, hnames⟩ :=
    Session.KeepsNames.applied_once (keepsNames (.sqlite {})) {}
  refine ⟨keepsNames _, by decide +kernel, ?_, ?_, ?_⟩
  · have hagain := (hfailed [] .failing (.unsupported "arrays") (by decide +kernel)).2
    refine hagain (by decide +kernel) [] .creating List.not_mem_nil rfl ⟨[], ?_⟩
    exact List.mem_of_getElem? (i := 2) (by rfl)
  · exact (honce [.failing] .creating [] .creating rfl (by decide +kernel)).1
  · rw [hnames]
    decide +kernel

end SchemaEvolution
