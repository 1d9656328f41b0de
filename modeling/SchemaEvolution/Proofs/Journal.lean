import SchemaEvolution.Proofs.Laws

/-!
# A database that keeps a journal

The simplest database on which migrations can be run: it carries out every statement by writing it
down, and refuses only a second insertion of a name into the ledger.

* `Ledger.insertedName?` and `Ledger.lookedUpName?` tell which statements are insertions and
  lookups.
* `Journal.session` is a session on a journal.  Its ledger is a table of names
  (`Journal.keepsNames`), and it refuses as databases do (`Journal.raisesDriverErrors`).
* `Journal.connection` has transactions as well (`Journal.isTransactional`).
-/

namespace SchemaEvolution

namespace Ledger

/-- The name that a statement inserts into the ledger, if it is an insertion. -/
def insertedName? (statement : Statement) : Option String := do
  let name ← statement.findSome? fun
    | .literal (.text name) => some name
    | _ => none
  let now ← statement.findSome? fun
    | .literal (.timestamp now) => some now
    | _ => none
  if statement = insertion now name then some name else none

/-- The name that a statement looks up in the ledger, if it is a lookup. -/
def lookedUpName? (statement : Statement) : Option String := do
  let name ← statement.findSome? fun
    | .literal (.text name) => some name
    | _ => none
  if statement = lookup name then some name else none

theorem insertedName?_insertion (now : Timestamp) (name : String) :
    insertedName? (insertion now name) = some name := by
  have hname : (insertion now name).findSome? (fun
      | .literal (.text name) => some name
      | _ => none) = some name := rfl
  have hnow : (insertion now name).findSome? (fun
      | .literal (.timestamp now) => some now
      | _ => none) = some now := rfl
  simp [insertedName?, hname, hnow]

/-- Only insertions insert a name. -/
theorem eq_insertion_of_insertedName? {statement : Statement} {name : String}
    (h : insertedName? statement = some name) : ∃ now, statement = insertion now name := by
  obtain ⟨found, -, h⟩ := Option.bind_eq_some_iff.mp h
  obtain ⟨now, -, h⟩ := Option.bind_eq_some_iff.mp h
  split at h
  · rename_i heq
    cases h
    exact ⟨now, heq⟩
  · cases h

/-- A statement that spares the ledger inserts no name. -/
theorem insertedName?_eq_none {d : Dialect} {statement : Statement}
    (h : statement.SparesLedger d) : insertedName? statement = none := by
  rw [Option.eq_none_iff_forall_ne_some]
  intro name hname
  obtain ⟨now, rfl⟩ := eq_insertion_of_insertedName? hname
  exact h now name rfl

theorem lookedUpName?_lookup (name : String) : lookedUpName? (lookup name) = some name := by
  have hname : (lookup name).findSome? (fun
      | .literal (.text name) => some name
      | _ => none) = some name := rfl
  simp [lookedUpName?, hname]

theorem lookedUpName?_insertion (now : Timestamp) (name : String) :
    lookedUpName? (insertion now name) = none := by
  have hname : (insertion now name).findSome? (fun
      | .literal (.text name) => some name
      | _ => none) = some name := rfl
  have hne : insertion now name ≠ lookup name := by
    simp [insertion, lookup]
  simp [lookedUpName?, hname, hne]

end Ledger

/-- The beginning of 1970. -/
def Timestamp.epoch : Timestamp := ⟨0, 0, by decide⟩

/-- A body that creates a table. -/
def Body.creating : Body :=
  .ok [.operation (.createTable (.ofItems "user" [.primaryKey none []]))]

/-- The statements that a database has carried out: those that are committed, and those that count
for now. -/
structure Journal where
  committed : List Statement := []
  current : List Statement := []
deriving DecidableEq

namespace Journal

/-- The names in the ledger. -/
def names (j : Journal) : List String :=
  j.current.filterMap Ledger.insertedName?

/-- Carries out a statement. -/
def call (d : Dialect) (statement : Statement) (j : Journal) :
    Except MigrationError (List Row) × Journal :=
  match Ledger.lookedUpName? statement, Ledger.insertedName? statement with
  | some name, _ => (.ok (if name ∈ j.names then [[.integer 1]] else []), j)
  | none, some name =>
    if name ∈ j.names then
      (.error (.uniqueness (d.render statement) "UNIQUE constraint failed: migration.name"), j)
    else (.ok [], { j with current := j.current ++ [statement] })
  | none, none => (.ok [], { j with current := j.current ++ [statement] })

theorem call_lookup (d : Dialect) (name : String) (j : Journal) :
    call d (Ledger.lookup name) j = (.ok (if name ∈ j.names then [[.integer 1]] else []), j) := by
  rw [call, Ledger.lookedUpName?_lookup]

theorem call_insertion (d : Dialect) (now : Timestamp) (name : String) (j : Journal) :
    call d (Ledger.insertion now name) j =
      if name ∈ j.names then
        (.error (.uniqueness (d.render (Ledger.insertion now name))
          "UNIQUE constraint failed: migration.name"), j)
      else (.ok [], { j with current := j.current ++ [Ledger.insertion now name] }) := by
  rw [call, Ledger.lookedUpName?_insertion, Ledger.insertedName?_insertion]

/-- A session on a journal. -/
def session (d : Dialect) : Session Journal where
  dialect := d
  call := call d

theorem session_call (d : Dialect) (statement : Statement) (j : Journal) :
    (session d).call statement j = call d statement j := rfl

/-- The ledger of a journal is a table of names. -/
theorem keepsNames (d : Dialect) : (session d).KeepsNames names where
  found name j rows hanswer := by
    rw [session_call, call_lookup, Except.ok.injEq] at hanswer
    rw [← hanswer]
    by_cases hname : name ∈ j.names <;> simp [hname]
  inserted now name j rows hanswer := by
    rw [session_call, call_insertion] at hanswer ⊢
    by_cases hname : name ∈ j.names
    · rw [if_pos hname] at hanswer
      cases hanswer
    · rw [if_neg hname]
      simp [names, Ledger.insertedName?_insertion]
  refused now name j e hanswer := by
    rw [session_call, call_insertion] at hanswer ⊢
    by_cases hname : name ∈ j.names
    · rw [if_pos hname]
    · rw [if_neg hname] at hanswer
      cases hanswer
  others statement j hspares := by
    have hnone := Ledger.insertedName?_eq_none hspares
    rw [session_call, call, hnone]
    cases Ledger.lookedUpName? statement with
    | none => simp [names, hnone]
    | some name => rfl

/-- A journal refuses statements with errors of a database. -/
theorem raisesDriverErrors (d : Dialect) : (session d).RaisesDriverErrors := by
  intro statement j e he
  rw [session_call, call] at he
  cases hlooked : Ledger.lookedUpName? statement with
  | some name =>
    rw [hlooked] at he
    cases he
  | none =>
    rw [hlooked] at he
    cases hinserted : Ledger.insertedName? statement with
    | none =>
      rw [hinserted] at he
      cases he
    | some name =>
      rw [hinserted] at he
      simp only at he
      split at he
      · cases he
        rfl
      · cases he

/-! ## Transactions -/

/-- A connection to a journal that has room for so many statements. -/
def connection (d : Dialect) (room : Nat) : Connection Journal where
  session := session d
  beginning j := (.ok (), { j with committed := j.current })
  commit j :=
    if j.current.length ≤ room then (.ok (), { j with committed := j.current })
    else (.error (.connection "database or disk is full"), { j with current := j.committed })
  rollback j := (.ok (), { j with current := j.committed })

/-- Carrying out a statement commits nothing. -/
theorem committed_call (d : Dialect) (statement : Statement) (j : Journal) :
    (call d statement j).2.committed = j.committed := by
  rw [call]
  cases Ledger.lookedUpName? statement with
  | some name => rfl
  | none =>
    cases Ledger.insertedName? statement with
    | none => rfl
    | some name => by_cases hname : name ∈ j.names <;> simp [hname]

/-- A journal keeps or undoes what happens in a transaction as a whole. -/
theorem isTransactional (d : Dialect) (room : Nat) :
    (connection d room).IsTransactional current := by
  have hkept : ∀ statements j, ((session d).stateAfter statements j).committed = j.committed :=
    fun statements => Session.kept_stateAfter fun statement _ => committed_call d statement
  constructor
  case begun => exact fun _ => rfl
  case committed =>
    intro j hcommit
    simp only [connection] at hcommit ⊢
    split at hcommit
    · rename_i hroom
      rw [if_pos hroom]
    · cases hcommit
  case uncommitted =>
    intro start begun statements e hbegin hcommit
    cases hbegin
    simp only [connection] at hcommit ⊢
    split at hcommit
    · cases hcommit
    · rename_i hroom
      rw [if_neg hroom]
      exact hkept statements _
  case rolledBack =>
    intro start begun statements hbegin
    cases hbegin
    exact hkept statements _

end Journal

end SchemaEvolution
