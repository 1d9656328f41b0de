import SchemaEvolution.Migration.Run
import SchemaEvolution.Proofs.Execution
import SchemaEvolution.Proofs.Ledger
import SchemaEvolution.Session.Recorder

/-!
# What a migration may say

A script is a tree that branches on the answers it gets.  What is said here of a script is said for
all answers, so that it holds on every session.

* `Statement.InsertsNothing`: a statement that begins otherwise than an insertion into the ledger.
* `Script.Plain`: a script that inserts nothing, invokes nothing, and passes every error on as it
  is.  Such scripts can be put in sequence (`Plain.bind`), and executing a plan is one of them
  (`Plan.plain_execute`).
* `Migration.Remaining`: what can be left of a migration that is under way.  A migration as a whole
  is of this form (`Migration.remaining_run`).
-/

namespace SchemaEvolution

/-! ## How texts begin -/

/-- A statement begins with a clause, so its text does not begin with one that begins otherwise. -/
theorem Dialect.beginsWith_eq_false (d : Dialect) {statement : Statement} {opening : String}
    {c o : Char} (h : statement.initial? = some c) (hopening : opening.toList.head? = some o)
    (hne : o ≠ c) : beginsWith (d.render statement) opening = false := by
  have hhead := d.head?_render h
  unfold beginsWith
  cases hopen : opening.toList with
  | nil => simp [hopen] at hopening
  | cons o' os =>
    rw [hopen, List.head?_cons, Option.some.injEq] at hopening
    subst hopening
    cases htext : (d.render statement).toList with
    | nil => simp [htext] at hhead
    | cons c' cs =>
      rw [htext, List.head?_cons, Option.some.injEq] at hhead
      subst hhead
      simp [List.isPrefixOf, hne]

/-- The text of a statement begins with its first clause. -/
theorem Dialect.beginsWith_render_clause (d : Dialect) (text : String) (rest : Statement) :
    beginsWith (d.render (.clause text :: rest)) text = true := by
  rw [beginsWith, render, Statement.join, Statement.joinFrom_cons]
  simp [renderFragment]

/-! ## Statements that are no insertions -/

/-- A statement begins with a clause that does not begin as an insertion does. -/
def Statement.InsertsNothing (statement : Statement) : Prop :=
  ∃ c, statement.initial? = some c ∧ c ≠ 'I'

namespace Statement

variable {d : Dialect} {statement : Statement}

theorem Defines.insertsNothing (h : statement.Defines) : statement.InsertsNothing := by
  rcases h with h | h | h
  · exact ⟨_, h, by decide⟩
  · exact ⟨_, h, by decide⟩
  · exact ⟨_, h, by decide⟩

theorem insertsNothing_catalogLookup (catalog : TableCatalog) (table : String) :
    (catalog.lookup table).InsertsNothing :=
  ⟨'S', rfl, by decide⟩

theorem insertsNothing_lookup (name : String) : (Ledger.lookup name).InsertsNothing :=
  ⟨'S', rfl, by decide⟩

theorem insertsNothing_setup (h : statement ∈ Ledger.setup d) : statement.InsertsNothing :=
  (TableDefinition.defines_of_mem_compile (Ledger.compile_table d) h).insertsNothing

/-- Its text is not that of an insertion, in any dialect. -/
theorem InsertsNothing.sparesLedger (h : statement.InsertsNothing) : statement.SparesLedger d := by
  obtain ⟨c, hc, hne⟩ := h
  exact sparesLedger_of_initial? hc hne

/-- Its text does not begin as that of an insertion does. -/
theorem InsertsNothing.beginsWith_eq_false (h : statement.InsertsNothing) (d : Dialect) :
    beginsWith (d.render statement) "INSERT INTO" = false := by
  obtain ⟨c, hc, hne⟩ := h
  exact d.beginsWith_eq_false hc rfl hne.symm

/-- It is no insertion. -/
theorem InsertsNothing.ne_insertion (h : statement.InsertsNothing) {now : Timestamp}
    {name : String} : statement ≠ Ledger.insertion now name := by
  rintro rfl
  obtain ⟨c, hc, hne⟩ := h
  have hinsertion : (Ledger.insertion now name).initial? = some 'I' := rfl
  rw [hinsertion, Option.some.injEq] at hc
  exact hne hc.symm

end Statement

/-! ## Answers -/

namespace Run

variable {σ α : Type} {r : Run σ α} {statement t : Statement} {rows : List Row}

theorem answered_after_called :
    (r.after (.called t (.ok rows))).Answered statement ↔ statement = t ∨ r.Answered statement := by
  simp [Answered, after, exists_or]

theorem answered_after_invoked : (r.after .invoked).Answered statement ↔ r.Answered statement := by
  simp [Answered, after]

end Run

/-! ## Plain scripts -/

/-- Whatever it is answered, the script inserts nothing, invokes nothing, and passes errors on. -/
inductive Script.Plain {α : Type} : Script α → Prop
  | done (result : Except MigrationError α) : Plain (.done result)
  | call {statement : Statement} {next : List Row → Script α}
      (hstatement : statement.InsertsNothing) (hnext : ∀ rows, Plain (next rows)) :
      Plain (.call statement id next)

namespace Script

variable {α β : Type}

/-- Plain scripts in sequence are plain. -/
theorem Plain.bind {x : Script α} {f : α → Script β} (hx : x.Plain) (hf : ∀ a, (f a).Plain) :
    (x >>= f).Plain := by
  induction hx with
  | done result =>
    cases result with
    | ok a => exact hf a
    | error e => exact .done _
  | call hstatement _ ih =>
    rw [call_bind]
    exact .call hstatement ih

theorem plain_pure (a : α) : (pure a : Script α).Plain := .done _

theorem plain_send {statement : Statement} (h : statement.InsertsNothing) :
    (send statement).Plain :=
  .call h fun _ => .done _

theorem plain_sendAll {statements : List Statement}
    (h : ∀ statement ∈ statements, statement.InsertsNothing) : (sendAll statements).Plain := by
  induction statements with
  | nil => exact .done _
  | cons statement statements ih =>
    have hrest := ih fun t ht => h t (List.mem_cons_of_mem _ ht)
    exact (plain_send (h statement List.mem_cons_self)).bind fun _ => hrest

end Script

/-! ## Plans -/

open Script

theorem Operation.plain_execute (d : Dialect) (op : Operation) : (op.execute d).Plain := by
  rw [Operation.execute]
  cases hcompile : op.compile d with
  | error reason => exact .done _
  | ok statements =>
    exact plain_sendAll fun _ hmem => (defines_of_mem_compile hcompile hmem).insertsNothing

theorem plain_isEntered (d : Dialect) (table : String) (expectsTable : Bool) :
    (isEntered d table expectsTable).Plain := by
  have hsend := plain_send (Statement.insertsNothing_catalogLookup d.catalog table)
  exact (hsend.bind fun _ => plain_pure _).bind fun _ => plain_pure _

mutual

theorem Step.plain_walkNested (d : Dialect) : ∀ step : Step,
    (step.walkNested (executor d)).Plain
  | .operation op => by
    rw [Step.walkNested]
    exact op.plain_execute d
  | .guarded table expectsTable block => by
    rw [Step.walkNested]
    refine (plain_isEntered d table expectsTable).bind fun entered => ?_
    cases entered with
    | false => exact plain_pure _
    | true => exact Plan.plain_walkNested d block

theorem Plan.plain_walkNested (d : Dialect) : ∀ plan : Plan,
    (Plan.walkNested (executor d) plan).Plain
  | [] => by
    rw [Plan.walkNested]
    exact plain_pure _
  | step :: steps => by
    rw [Plan.walkNested]
    exact (Step.plain_walkNested d step).bind fun _ => Plan.plain_walkNested d steps

end

/-- Executing a plan inserts nothing into the ledger, and passes every error on. -/
theorem Plan.plain_execute (d : Dialect) (plan : Plan) : (Plan.execute d plan).Plain := by
  rw [Plan.execute, Plan.walk_eq_walkNested]
  exact Plan.plain_walkNested d plan

/-! ## Migrations -/

namespace Migration

/-- What can be left of a migration that is under way.  The insertion is its last call, and nothing
else makes it count as carried out; the lookup is the only call after which it can be found in the
ledger. -/
inductive Remaining (now : Timestamp) (name : String) : Script Outcome → Prop
  | failed (e : MigrationError) : Remaining now name (.done (.error e))
  | calling {statement : Statement} {next : List Row → Script Outcome}
      (hstatement : statement.InsertsNothing) (hnext : ∀ rows, Remaining now name (next rows)) :
      Remaining now name (.call statement id next)
  | asking {next : List Row → Script Outcome}
      (hfound : ∀ rows, rows ≠ [] → next rows = .done (.ok .alreadyApplied))
      (hmissing : Remaining now name (next [])) :
      Remaining now name (.call (Ledger.lookup name) id next)
  | invoking {body : Body} {next : Plan → Script Outcome}
      (hnext : ∀ plan, Remaining now name (next plan)) : Remaining now name (.invoke body next)
  | inserting : Remaining now name
      (.call (Ledger.insertion now name) (Ledger.insertionError name) fun _ => .done (.ok .applied))

variable {now : Timestamp} {name : String}

/-- A plain script may come before what is left. -/
theorem Remaining.bind_plain {α : Type} {x : Script α} {f : α → Script Outcome} (hx : x.Plain)
    (hf : ∀ a, Remaining now name (f a)) : Remaining now name (x >>= f) := by
  induction hx with
  | done result =>
    cases result with
    | ok a => exact hf a
    | error e => exact .failed e
  | call hstatement _ ih =>
    rw [call_bind]
    exact .calling hstatement ih

theorem remaining_apply (d : Dialect) (now : Timestamp) (name : String) (body : Body) :
    Remaining now name (apply d now name body) := by
  rw [apply, invokeBody, invoke_bind]
  refine .invoking fun plan => ?_
  rw [pure_bind]
  exact .bind_plain (Plan.plain_execute d plan) fun _ => .inserting

/-- A migration asks the ledger, and then applies itself if it was not found there. -/
theorem remaining_run (d : Dialect) (now : Timestamp) (name : String) (body : Body) :
    Remaining now name (run d now name body) := by
  rw [run, Ledger.prepare_eq_sendAll]
  refine .bind_plain (plain_sendAll fun _ => Statement.insertsNothing_setup) fun _ => ?_
  rw [Ledger.contains]
  simp only [bind_assoc, pure_bind]
  refine .asking (fun rows hrows => ?_) (remaining_apply d now name body)
  cases rows with
  | nil => exact absurd rfl hrows
  | cons row rows => rfl

section

variable {σ : Type} {s : Session σ} {state : σ} {x : Script Outcome}

/-- What is left of a migration ends in the error of a call that is refused; but an insertion that
repeats a value tells of another runner. -/
theorem Remaining.result_of_refused (hx : Remaining now name x) {statement : Statement}
    {e : MigrationError} (h : .called statement (.error e) ∈ (s.run x state).events) :
    (s.run x state).result = .error
      (if statement = Ledger.insertion now name ∧ e.isUniqueViolation = true then
        .recordedConcurrently name else e) := by
  induction hx generalizing state with
  | failed e' => simp at h
  | @calling t next ht _ ih =>
    unfold Session.run at h ⊢
    rcases hcall : s.call t state with ⟨e' | rows, state'⟩
    · rw [hcall] at h
      cases List.mem_singleton.mp h
      simp [ht.ne_insertion]
    · rw [hcall] at h
      rcases List.mem_cons.mp h with h | h
      · cases h
      · exact ih rows h
  | @asking next hfound _ ih =>
    unfold Session.run at h ⊢
    rcases hcall : s.call (Ledger.lookup name) state with ⟨e' | rows, state'⟩
    · rw [hcall] at h
      cases List.mem_singleton.mp h
      simp [(Statement.insertsNothing_lookup name).ne_insertion]
    · rw [hcall] at h
      rcases List.mem_cons.mp h with h | h
      · cases h
      · cases rows with
        | nil => exact ih h
        | cons row rows =>
          rw [hfound _ (by simp)] at h
          simp at h
  | @invoking body next _ ih =>
    cases body with
    | error e' => simp at h
    | ok plan =>
      unfold Session.run at h ⊢
      rcases List.mem_cons.mp h with h | h
      · cases h
      · exact ih plan h
  | inserting =>
    unfold Session.run at h ⊢
    rcases hcall : s.call (Ledger.insertion now name) state with ⟨e' | rows, state'⟩
    · rw [hcall] at h
      cases List.mem_singleton.mp h
      simp [Ledger.insertionError]
    · rw [hcall] at h
      simp [Run.after] at h

/-- What is left of a migration counts as carried out if the insertion succeeds. -/
theorem Remaining.applied_iff (hx : Remaining now name x) :
    (s.run x state).result = .ok .applied ↔
      (s.run x state).Answered (Ledger.insertion now name) := by
  induction hx generalizing state with
  | failed e => simp [Run.Answered]
  | @calling t next ht _ ih =>
    unfold Session.run
    rcases hcall : s.call t state with ⟨e | rows, state'⟩
    · simp [Run.Answered]
    · rw [Run.answered_after_called, or_iff_right ht.ne_insertion.symm]
      exact ih rows
  | @asking next hfound _ ih =>
    unfold Session.run
    rcases hcall : s.call (Ledger.lookup name) state with ⟨e | rows, state'⟩
    · simp [Run.Answered]
    · have hlookup : Ledger.lookup name ≠ Ledger.insertion now name :=
        (Statement.insertsNothing_lookup name).ne_insertion
      rw [Run.answered_after_called, or_iff_right hlookup.symm]
      cases rows with
      | nil => exact ih
      | cons row rows => simp [hfound (row :: rows), Run.Answered, Run.after]
  | @invoking body next _ ih =>
    cases body with
    | error e => simp [Run.Answered]
    | ok plan =>
      rw [Session.run_invoke_ok, Run.answered_after_invoked]
      exact ih plan
  | inserting =>
    unfold Session.run
    rcases hcall : s.call (Ledger.insertion now name) state with ⟨e | rows, state'⟩
    · simp [Run.Answered]
    · simp [Run.Answered, Run.after]

end

end Migration

end SchemaEvolution
