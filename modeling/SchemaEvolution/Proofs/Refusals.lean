import SchemaEvolution.Database.Transaction
import SchemaEvolution.Proofs.Laws

/-!
# What the table database says to a statement that it refuses

A statement goes through reading, preparation and execution, and each can refuse it.  The error is
one of the database in any case (`Database.session_raisesDriverErrors`), whatever the text of the
statement and the state of the database.

* `Answer.IsOfDriver` and `Action.IsOfDriver` say so of one answer and of what was prepared.
* `isOfDriver_prepare` goes through the kinds of commands.
* `isOfDriver_runLexemes` goes through the statements of a text.
-/

namespace SchemaEvolution.Database

open Binding Modification

/-! ## Answers -/

/-- An answer consists of rows or of an error of the database. -/
def Answer.IsOfDriver (a : Answer) : Prop :=
  ∀ e, a.result = .error e → e.isOfDriver = true

theorem Fault.isOfDriver_toError (sql : String) (f : Fault) :
    (f.toError sql).isOfDriver = true := by
  unfold Fault.toError
  split <;> rfl

namespace Answer

theorem isOfDriver_refused (sql : String) (f : Fault) (db : Database) :
    (refused sql f db).IsOfDriver := by
  intro e he
  cases he
  exact Fault.isOfDriver_toError sql f

theorem isOfDriver_rows (rows : List (List Cell)) (db : Database) :
    (Answer.mk (.ok rows) db).IsOfDriver := by
  intro e he
  cases he

theorem isOfDriver_ofChange (sql : String) (db : Database) (new : Except Fault Database) :
    (ofChange sql db new).IsOfDriver := by
  cases new with
  | ok new => exact isOfDriver_rows [] new
  | error f => exact isOfDriver_refused sql f db

end Answer

/-! ## Actions -/

/-- An action answers with rows or with an error of the database. -/
def Action.IsOfDriver (action : Action) : Prop :=
  ∀ sql db, (action sql db).IsOfDriver

/-- Keeping what a statement did does not change its error. -/
theorem isOfDriver_keep {sql : String} {before : Database} {work : Work} {counted : Database}
    {defines : Bool} {result : Except MigrationError (List (List Cell))}
    (hresult : ∀ e, result = .error e → e.isOfDriver = true) :
    (keep sql before work counted defines result).IsOfDriver := by
  unfold keep
  simp only
  split
  · exact Answer.isOfDriver_refused _ _ _
  · split
    · exact Answer.isOfDriver_refused _ _ _
    · exact hresult

theorem isOfDriver_change (returns : Bool) (run : List Frame → Change Unit) :
    (change returns run).IsOfDriver := by
  intro sql db
  unfold change
  split
  · exact Answer.isOfDriver_refused _ _ _
  · rcases (run []).run.run { database := db } with ⟨stop | _, work⟩
    · cases stop with
      | skipRow => exact isOfDriver_keep (by simp)
      | fault f extent =>
        cases extent with
        | fail =>
          refine isOfDriver_keep ?_
          intro e he
          cases he
          exact Fault.isOfDriver_toError sql f
        | _ => exact Answer.isOfDriver_refused _ _ _
    · exact isOfDriver_keep (by simp)

theorem isOfDriver_select (q : BoundQuery) (reads : Bool) : (select q reads).IsOfDriver := by
  intro sql db
  unfold select
  simp only
  split
  · exact Answer.isOfDriver_rows _ _
  · exact Answer.isOfDriver_refused _ _ _
  · exact Answer.isOfDriver_rows _ _

theorem isOfDriver_define (new : Database) (writes : Bool) : (define new writes).IsOfDriver := by
  intro sql db
  unfold define
  split
  · exact Answer.isOfDriver_refused _ _ _
  · exact isOfDriver_keep (by simp)

/-! ## Commands -/

theorem isOfDriver_prepareChange {db : Database} {returned : List ResultColumn}
    {found : Bind (List Frame → Change Unit)} {action : Action}
    (h : prepareChange db returned found = .ok action) : action.IsOfDriver := by
  obtain ⟨run, -, haction⟩ := exists_of_bind_eq_ok h
  cases haction
  exact isOfDriver_change _ run

/-- What was prepared for a command answers with rows or with an error of the database. -/
theorem isOfDriver_prepare {inner : Binder} {depth : Nat} {db : Database} {c : Command}
    {action : Action} (h : prepare inner depth db c = .ok action) : action.IsOfDriver := by
  unfold prepare at h
  simp only at h
  split at h
  · obtain ⟨bound, -, haction⟩ := exists_of_bind_eq_ok h
    cases haction
    exact isOfDriver_select bound _
  · exact isOfDriver_prepareChange h
  · exact isOfDriver_prepareChange h
  · exact isOfDriver_prepareChange h
  · obtain ⟨⟨rows, new⟩, -, haction⟩ := exists_of_bind_eq_ok h
    cases haction
    exact fun _ _ => Answer.isOfDriver_rows rows new
  · obtain ⟨_, -, haction⟩ := exists_of_bind_eq_ok h
    cases haction
    exact fun _ db => Answer.isOfDriver_rows [] db
  · split at h
    · rename_i step _
      cases h
      exact fun sql db => Answer.isOfDriver_ofChange sql db (step db)
    · obtain ⟨new, -, haction⟩ := exists_of_bind_eq_ok h
      cases haction
      exact isOfDriver_define new _
    · cases h
      exact fun _ db => Answer.isOfDriver_rows [] db

/-! ## Texts -/

theorem isOfDriver_perform (sql : String) (depth : Nat) (db : Database) (c : Grammar.ReadCommand) :
    (perform sql depth db c).IsOfDriver := by
  unfold perform
  simp only
  split
  · exact Answer.isOfDriver_refused _ _ _
  · rename_i action db' hprepared
    obtain ⟨informed, -, hprepare⟩ := exists_of_bind_eq_ok hprepared
    obtain ⟨prepared, hprepare, haction⟩ := exists_of_bind_eq_ok hprepare
    cases haction
    split
    · intro e he
      cases he
      rfl
    · exact isOfDriver_prepare hprepare sql _

/-- An error behind a function of the rows is that of the rows. -/
theorem eq_error_of_map {α β : Type} {x : Except MigrationError α} {f : α → β} {e : MigrationError}
    (h : x.map f = .error e) : x = .error e := by
  cases x with
  | error e' =>
    cases h
    rfl
  | ok a => cases h

/-- The statements of a text answer with rows or with an error of the database. -/
theorem isOfDriver_runLexemes (sql : String) (steps : Nat) (db : Database) (ls : List Lexeme) :
    (runLexemes sql steps db ls).IsOfDriver := by
  induction steps generalizing db ls with
  | zero =>
    rw [runLexemes]
    exact Answer.isOfDriver_rows [] db
  | succ steps ih =>
    cases ls with
    | nil =>
      rw [runLexemes]
      exact Answer.isOfDriver_rows [] db
    | cons l ls =>
      rw [runLexemes]
      split
      · exact Answer.isOfDriver_rows [] db
      split
      · exact ih db ls
      split
      · exact Answer.isOfDriver_refused _ _ _
      · rename_i c _
        simp only
        split
        · exact isOfDriver_perform sql ls.length db c
        · intro e he
          exact ih _ _ e (eq_error_of_map he)

/-- The table database refuses statements with errors of its own. -/
theorem session_raisesDriverErrors (capabilities : Capabilities) :
    (session capabilities).RaisesDriverErrors := by
  intro statement db e he
  exact isOfDriver_runLexemes _ _ db _ e (eq_error_of_map he)

end SchemaEvolution.Database
