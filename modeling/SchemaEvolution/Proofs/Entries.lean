import SchemaEvolution.Ledger.Basic
import SchemaEvolution.Proofs.Compilation
import SchemaEvolution.Session.Basic

/-!
# Rows as entries of the ledger

The ledger is read as a whole: either every row is an entry, or the first row that is none is
reported, with the first thing that is wrong with it.

* `LedgerEntry.Dates` and `LedgerEntry.Undated`: the time that a value stands for, and the reason
  against a value that stands for none.
* `LedgerEntry.Holds` and `LedgerEntry.Refused`: the entry that a row holds, and the first reason
  against a row that holds none.  `LedgerEntry.ofRow` decides between them.
* `Ledger.entries_whole` says what comes of reading the ledger in a session.
-/

namespace SchemaEvolution

namespace LedgerEntry

variable {v : Value} {t : Timestamp} {row : Row} {entry : LedgerEntry} {fault : RecordFault}

/-! ## Times -/

/-- A value stands for a time: it is one, or a text that can be read as one. -/
inductive Dates : Value → Timestamp → Prop
  | timestamp (t : Timestamp) : Dates (.timestamp t) t
  | text {s : String} {t : Timestamp} (hread : Timestamp.ofText? s = some t) : Dates (.text s) t

/-- A value stands for no time, for a reason: it is a text that cannot be read, or neither a time
nor a text. -/
inductive Undated : Value → RecordFault → Prop
  | unreadable {s : String} (hread : Timestamp.ofText? s = none) :
      Undated (.text s) (.unreadableTimestamp s)
  | notText {v : Value} (htime : ∀ t, v ≠ .timestamp t) (htext : ∀ s, v ≠ .text s) :
      Undated v (.timestampNotText v)

theorem readTime_eq_ok_iff : readTime v = .ok t ↔ Dates v t := by
  constructor
  · intro h
    unfold readTime at h
    split at h
    · cases h
      exact .timestamp _
    · split at h
      · cases h
        exact .text ‹_›
      · cases h
    · cases h
  · rintro (_ | hread)
    · rfl
    · rw [readTime, hread]

theorem readTime_eq_error_iff : readTime v = .error fault ↔ Undated v fault := by
  constructor
  · intro h
    unfold readTime at h
    split at h
    · cases h
    · split at h
      · cases h
      · cases h
        exact .unreadable ‹_›
    · cases h
      exact .notText ‹_› ‹_›
  · rintro (hread | ⟨htime, htext⟩)
    · rw [readTime, hread]
    · unfold readTime
      split
      · exact absurd rfl (htime _)
      · exact absurd rfl (htext _)
      · rfl

/-! ## Rows -/

/-- A row holds an entry: it has four values, a number, a text and two times, and these are the
fields of the entry. -/
inductive Holds : Row → LedgerEntry → Prop
  | mk {id : Int64} {name : String} {created updated : Value} {createdAt updatedAt : Timestamp}
      (hcreated : Dates created createdAt) (hupdated : Dates updated updatedAt) :
      Holds [.integer id, .text name, created, updated] ⟨id, name, createdAt, updatedAt⟩

/-- A row holds no entry, for the first reason in this order: it does not have four values, the
first of them is no number, the second is no text, the third is no time, the fourth is no time. -/
inductive Refused : Row → RecordFault → Prop
  | count {row : Row} (hlength : row.length ≠ 4) : Refused row (.columnCount row.length)
  | id {id name created updated : Value} (hid : ∀ n, id ≠ .integer n) :
      Refused [id, name, created, updated] (.idNotInteger id)
  | name {id : Int64} {name created updated : Value} (hname : ∀ s, name ≠ .text s) :
      Refused [.integer id, name, created, updated] (.nameNotText id name)
  | createdAt {id : Int64} {name : String} {created updated : Value} {fault : RecordFault}
      (hcreated : Undated created fault) :
      Refused [.integer id, .text name, created, updated] fault
  | updatedAt {id : Int64} {name : String} {created updated : Value} {createdAt : Timestamp}
      {fault : RecordFault} (hcreated : Dates created createdAt)
      (hupdated : Undated updated fault) :
      Refused [.integer id, .text name, created, updated] fault

theorem ofRow_of_length_ne (h : row.length ≠ 4) : ofRow row = .error (.columnCount row.length) := by
  unfold ofRow
  split
  · exact absurd rfl h
  · rfl

theorem ofRow_of_id {id name created updated : Value} (h : ∀ n, id ≠ .integer n) :
    ofRow [id, name, created, updated] = .error (.idNotInteger id) := by
  have hid : id.integer? = none := by
    cases id <;> first | rfl | exact absurd rfl (h _)
  rw [ofRow, hid]

theorem ofRow_of_name (id : Int64) {name created updated : Value} (h : ∀ s, name ≠ .text s) :
    ofRow [.integer id, name, created, updated] = .error (.nameNotText id name) := by
  have hname : name.text? = none := by
    cases name <;> first | rfl | exact absurd rfl (h _)
  rw [ofRow, hname]
  rfl

/-- The times of a row are read one after the other. -/
theorem ofRow_of_fields (id : Int64) (name : String) (created updated : Value) :
    ofRow [.integer id, .text name, created, updated] =
      readTime created >>= fun createdAt => readTime updated >>= fun updatedAt =>
        .ok ⟨id, name, createdAt, updatedAt⟩ := rfl

theorem ofRow_of_holds (h : Holds row entry) : ofRow row = .ok entry := by
  obtain ⟨hcreated, hupdated⟩ := h
  rw [ofRow_of_fields, readTime_eq_ok_iff.mpr hcreated, readTime_eq_ok_iff.mpr hupdated]
  rfl

theorem ofRow_of_refused (h : Refused row fault) : ofRow row = .error fault := by
  cases h with
  | count hlength => exact ofRow_of_length_ne hlength
  | id hid => exact ofRow_of_id hid
  | name hname => exact ofRow_of_name _ hname
  | createdAt hcreated =>
    rw [ofRow_of_fields, readTime_eq_error_iff.mpr hcreated]
    rfl
  | updatedAt hcreated hupdated =>
    rw [ofRow_of_fields, readTime_eq_ok_iff.mpr hcreated, readTime_eq_error_iff.mpr hupdated]
    rfl

/-- A row holds an entry, or there is a reason why it does not. -/
theorem holds_or_refused (row : Row) :
    (∃ entry, Holds row entry) ∨ ∃ fault, Refused row fault := by
  by_cases hlength : row.length = 4
  · obtain ⟨id, name, created, updated, rfl⟩ := List.length_eq_four.mp hlength
    by_cases hid : ∃ n, id = .integer n
    · obtain ⟨n, rfl⟩ := hid
      by_cases hname : ∃ s, name = .text s
      · obtain ⟨s, rfl⟩ := hname
        cases hcreated : readTime created with
        | error fault => exact Or.inr ⟨_, .createdAt (readTime_eq_error_iff.mp hcreated)⟩
        | ok createdAt =>
          have hdates := readTime_eq_ok_iff.mp hcreated
          cases hupdated : readTime updated with
          | error fault =>
            exact Or.inr ⟨_, .updatedAt hdates (readTime_eq_error_iff.mp hupdated)⟩
          | ok updatedAt => exact Or.inl ⟨_, .mk hdates (readTime_eq_ok_iff.mp hupdated)⟩
      · exact Or.inr ⟨_, .name (not_exists.mp hname)⟩
    · exact Or.inr ⟨_, .id (not_exists.mp hid)⟩
  · exact Or.inr ⟨_, .count hlength⟩

theorem ofRow_eq_ok_iff : ofRow row = .ok entry ↔ Holds row entry := by
  refine ⟨fun h => ?_, ofRow_of_holds⟩
  rcases holds_or_refused row with ⟨other, hholds⟩ | ⟨fault, hrefused⟩
  · rw [ofRow_of_holds hholds] at h
    cases h
    exact hholds
  · rw [ofRow_of_refused hrefused] at h
    cases h

theorem ofRow_eq_error_iff : ofRow row = .error fault ↔ Refused row fault := by
  refine ⟨fun h => ?_, ofRow_of_refused⟩
  rcases holds_or_refused row with ⟨entry, hholds⟩ | ⟨other, hrefused⟩
  · rw [ofRow_of_holds hholds] at h
    cases h
  · rw [ofRow_of_refused hrefused] at h
    cases h
    exact hrefused

end LedgerEntry

namespace Ledger

/-! ## The ledger as a whole -/

theorem readAll_eq_mapM (rows : List Row) : readAll rows = rows.mapM LedgerEntry.ofRow := by
  induction rows with
  | nil => rfl
  | cons row rows ih =>
    rw [readAll, ih, List.mapM_cons]

theorem readAll_eq_ok_iff {rows : List Row} {found : List LedgerEntry} :
    readAll rows = .ok found ↔ List.Forall₂ LedgerEntry.Holds rows found := by
  simp only [readAll_eq_mapM, mapM_eq_ok_iff, LedgerEntry.ofRow_eq_ok_iff]

theorem exists_readAll_iff {rows : List Row} :
    (∃ found, readAll rows = .ok found) ↔ ∀ row ∈ rows, ∃ entry, LedgerEntry.Holds row entry := by
  simp only [readAll_eq_mapM, exists_mapM_iff, LedgerEntry.ofRow_eq_ok_iff]

theorem readAll_eq_error_iff {rows : List Row} {fault : RecordFault} :
    readAll rows = .error fault ↔ ∃ before row after, rows = before ++ row :: after ∧
      (∀ earlier ∈ before, ∃ entry, LedgerEntry.Holds earlier entry) ∧
      LedgerEntry.Refused row fault := by
  simp only [readAll_eq_mapM, mapM_eq_error_iff, LedgerEntry.ofRow_eq_ok_iff,
    LedgerEntry.ofRow_eq_error_iff]

variable {σ : Type}

/-- Reading the ledger asks for all rows once, and reads what comes back. -/
theorem run_entries (s : Session σ) (state : σ) :
    s.run entries state =
      ⟨(s.call listing state).1 >>= fun rows =>
          (readAll rows).mapError MigrationError.invalidRecord,
        (s.call listing state).2, [.called listing (s.call listing state).1]⟩ := by
  change s.run (.call listing id fun rows =>
    Script.ofResult .invalidRecord (readAll rows)) state = _
  rw [Session.run]
  rcases s.call listing state with ⟨e | rows, after⟩ <;> rfl

/-- The ledger is read as a whole or not at all.  The only call asks for its rows, and an error of
that call is the result.  Of the rows that come back,

* the result is a list of entries if and only if each row holds one in its turn;
* there is such a list if and only if every row holds an entry;
* the result is an error if and only if it is the first reason against the first row that holds
  none. -/
theorem entries_whole (s : Session σ) (state : σ) :
    (s.run entries state).events = [.called listing (s.call listing state).1] ∧
      match (s.call listing state).1 with
      | .error e => (s.run entries state).result = .error e
      | .ok rows =>
        (∀ found, (s.run entries state).result = .ok found ↔
          List.Forall₂ LedgerEntry.Holds rows found) ∧
        ((∃ found, (s.run entries state).result = .ok found) ↔
          ∀ row ∈ rows, ∃ entry, LedgerEntry.Holds row entry) ∧
        ∀ e, (s.run entries state).result = .error e ↔
          ∃ before row after fault, rows = before ++ row :: after ∧
            (∀ earlier ∈ before, ∃ entry, LedgerEntry.Holds earlier entry) ∧
            LedgerEntry.Refused row fault ∧ e = .invalidRecord fault := by
  rw [run_entries]
  refine ⟨rfl, ?_⟩
  rcases s.call listing state with ⟨e | rows, after⟩
  · rfl
  · have hok : ∀ found, (readAll rows).mapError MigrationError.invalidRecord = .ok found ↔
        readAll rows = .ok found := by
      intro found
      cases readAll rows <;> simp [Except.mapError]
    have herror : ∀ e, (readAll rows).mapError MigrationError.invalidRecord = .error e ↔
        ∃ fault, readAll rows = .error fault ∧ e = .invalidRecord fault := by
      intro e
      cases readAll rows <;> simp [Except.mapError, eq_comm]
    refine ⟨fun found => (hok found).trans readAll_eq_ok_iff, ?_, fun e => ?_⟩
    · exact (exists_congr hok).trans exists_readAll_iff
    · refine (herror e).trans ⟨?_, ?_⟩
      · rintro ⟨fault, hfault, rfl⟩
        obtain ⟨before, row, after, hrows, hbefore, hrefused⟩ := readAll_eq_error_iff.mp hfault
        exact ⟨before, row, after, fault, hrows, hbefore, hrefused, rfl⟩
      · rintro ⟨before, row, after, fault, hrows, hbefore, hrefused, rfl⟩
        exact ⟨fault, readAll_eq_error_iff.mpr ⟨before, row, after, hrows, hbefore, hrefused⟩, rfl⟩

end Ledger

end SchemaEvolution
