import SchemaEvolution.Ledger.Basic
import SchemaEvolution.Proofs.Calendar

/-!
# Timestamps as texts

The ledger writes a time as a literal with six digits of the fraction, and reads it back by one of
two readers.

* Digits: a number that is written in a fixed width is read back from the front of a text.
* Readers: what each of them takes from the front of a text (`Reader.run_some`, `Reader.run_none`
  chain them).
* `Reader.offsetTimestamp_written`, `Reader.plainTimestamp_signed`: the first reader takes what was
  written for a year of four digits, and neither of them takes a year with a sign.
* `Timestamp.IsStray`: a leap second that does not end a minute.  It has no text of its own.
* `Timestamp.hasFourDigitYear_iff`: which times have a year of four digits.
* `Timestamp.ofText?_micros`: reading a written time gives the time in whole microseconds, or that
  after it if the time is stray.
* `Ledger.readTime_insertion` says so of the times that an insertion puts into a row, and
  `Ledger.readTime_stray` shows a time that is not read back.
-/

namespace SchemaEvolution

/-! ## Digits -/

theorem digits_ne_nil (n : Nat) : digits n ≠ [] :=
  Nat.toDigits_ne_nil

theorem isDigit_of_mem_digits {n : Nat} {c : Char} (h : c ∈ digits n) : c.isDigit = true :=
  Nat.isDigit_of_mem_toDigits (by decide) (by decide) h

theorem valueOfDigits_digits (n : Nat) : valueOfDigits (digits n) = n :=
  Nat.ofDigitChars_ten_toDigits

theorem isDigit_of_mem_fixedWidth {width n : Nat} {c : Char} (h : c ∈ fixedWidth width n) :
    c.isDigit = true := by
  rcases List.mem_append.mp h with h | h
  · rw [List.eq_of_mem_replicate h]
    decide
  · exact isDigit_of_mem_digits h

theorem length_fixedWidth {width n : Nat} (hwidth : 0 < width) (h : n < tenTo width) :
    (fixedWidth width n).length = width := by
  have hdigits : (digits n).length ≤ width :=
    (Nat.length_toDigits_le_iff (by decide) hwidth).mpr h
  rw [fixedWidth, List.length_append, List.length_replicate]
  omega

/-- Leading zeros do not change the number. -/
theorem valueOfDigits_fixedWidth (width n : Nat) : valueOfDigits (fixedWidth width n) = n := by
  rw [valueOfDigits, fixedWidth, Nat.ofDigitChars_append, Nat.ofDigitChars_replicate_zero]
  simp [digits]

/-- A digit is no white space. -/
theorem Text.isBlank_of_isDigit {c : Char} (h : c.isDigit = true) : isBlank c = false := by
  have hlow : 48 ≤ c.toNat ∧ c.toNat ≤ 57 := by
    simp only [Char.isDigit, Bool.and_eq_true, decide_eq_true_eq] at h
    exact h
  simp only [isBlank, Bool.or_eq_false_iff, Bool.and_eq_false_iff, decide_eq_false_iff_not,
    beq_eq_false_iff_ne]
  omega

/-- No time at all before an instant is the instant itself. -/
theorem Timestamp.earlier_zero (t : Timestamp) : t.earlier 0 = t := by
  simp [earlier]

namespace Time

/-- The digits at the front of a text are those that were put there, if there are no more of them
than may be taken and if nothing that follows could be taken with them. -/
theorem leadingDigits_append {most : Nat} {ds rest : List Char} (hds : ∀ c ∈ ds, c.isDigit = true)
    (hmost : ds.length ≤ most)
    (hrest : ds.length = most ∨ ∀ c ∈ rest.head?, c.isDigit = false) :
    leadingDigits most (ds ++ rest) = ds := by
  rw [leadingDigits, List.take_append, List.take_of_length_le hmost,
    List.takeWhile_append_of_pos hds]
  rcases hrest with hlength | hother
  · simp [hlength]
  · cases rest with
    | nil => simp
    | cons c rest =>
      have hc : c.isDigit = false := hother c rfl
      cases most - ds.length with
      | zero => simp
      | succ n => simp [hc]

/-! ## Readers -/

namespace Reader

variable {α β : Type} {r : Reader α} {f : α → Reader β} {text rest : List Char} {a : α}

/-- After a reader has taken something, the next one goes on with the rest. -/
theorem run_some (h : r text = some (a, rest)) : (r >>= f) text = f a rest := by
  simp [bind, StateT.bind, h]

/-- When a reader fails, what comes after it fails too. -/
theorem run_none (h : r text = none) : (r >>= f) text = none := by
  simp [bind, StateT.bind, h]

theorem one_cons {test : Char → Bool} {c : Char} (h : test c = true) :
    one test (c :: rest) = some (c, rest) := by
  simp [one, h]

theorem char_cons (c : Char) : char c (c :: rest) = some ((), rest) := by
  have htaken : one (· == c) (c :: rest) = some (c, rest) := one_cons (beq_self_eq_true c)
  rw [char, run_some htaken]
  rfl

theorem fixed_written {width n : Nat} (hwidth : 0 < width) (h : n < tenTo width) :
    fixed width (fixedWidth width n ++ rest) = some (n, rest) := by
  have hlength := length_fixedWidth hwidth h
  have hfound : leadingDigits width (fixedWidth width n ++ rest) = fixedWidth width n :=
    leadingDigits_append (fun _ => isDigit_of_mem_fixedWidth) (by omega) (Or.inl hlength)
  simp only [fixed, hfound, hlength, if_true, valueOfDigits_fixedWidth]
  rw [List.drop_left' hlength]

/-- A reader of so many digits takes nothing from a text that begins with another character. -/
theorem fixed_eq_none {width : Nat} (hwidth : 0 < width) {c : Char} (hc : c.isDigit = false) :
    fixed width (c :: rest) = none := by
  obtain ⟨n, rfl⟩ := Nat.exists_eq_succ_of_ne_zero hwidth.ne'
  simp [fixed, leadingDigits, hc]

theorem number_written {most : Nat} {ds : List Char} (hne : ds ≠ [])
    (hds : ∀ c ∈ ds, c.isDigit = true) (hmost : ds.length ≤ most)
    (hrest : ds.length = most ∨ ∀ c ∈ rest.head?, c.isDigit = false) :
    number most (ds ++ rest) = some (valueOfDigits ds, rest) := by
  have hnonempty : ds.isEmpty = false := by simpa using hne
  simp only [number, leadingDigits_append hds hmost hrest, hnonempty]
  simp

theorem number_eq_none {most : Nat} {c : Char} (hc : c.isDigit = false) :
    number most (c :: rest) = none := by
  cases most with
  | zero => simp [number, leadingDigits]
  | succ n => simp [number, leadingDigits, hc]

/-- There is no white space before a character that is none. -/
theorem blanks_cons {c : Char} (hc : Text.isBlank c = false) :
    blanks (c :: rest) = some ((), c :: rest) := by
  simp [blanks, Text.trimBlank, hc]

theorem field_written {n : Nat} (h : n < 100) : field (fixedWidth 2 n ++ rest) = some (n, rest) := by
  have hlength : (fixedWidth 2 n).length = 2 := length_fixedWidth (by decide) h
  have hdigits : ∀ c ∈ fixedWidth 2 n, c.isDigit = true := fun _ => isDigit_of_mem_fixedWidth
  obtain ⟨c, ds, hds⟩ : ∃ c ds, fixedWidth 2 n = c :: ds :=
    List.exists_cons_of_length_pos (by omega)
  have hblanks : blanks (fixedWidth 2 n ++ rest) = some ((), fixedWidth 2 n ++ rest) := by
    rw [hds]
    exact blanks_cons (Text.isBlank_of_isDigit (hdigits c (hds ▸ List.mem_cons_self)))
  have hne : fixedWidth 2 n ≠ [] := by
    rw [hds]
    exact List.cons_ne_nil c ds
  rw [field, run_some hblanks, number_written hne hdigits (by omega) (Or.inl hlength),
    valueOfDigits_fixedWidth]

/-- Nothing is taken where there is neither white space nor a digit. -/
theorem field_eq_none {c : Char} (hblank : Text.isBlank c = false) (hdigit : c.isDigit = false) :
    field (c :: rest) = none := by
  rw [field, run_some (blanks_cons hblank), number_eq_none hdigit]

/-- Of a fraction nine digits count, and missing ones are zeros. -/
theorem fraction_written {ds : List Char} (hne : ds ≠ []) (hds : ∀ c ∈ ds, c.isDigit = true)
    (hrest : ∀ c ∈ rest.head?, c.isDigit = false) :
    fraction ('.' :: (ds ++ rest)) =
      some (valueOfDigits (ds.take 9) * tenTo (9 - (ds.take 9).length), rest) := by
  have hfound : leadingDigits (ds ++ rest).length (ds ++ rest) = ds :=
    leadingDigits_append hds (by simp) (Or.inr hrest)
  have hnonempty : ds.isEmpty = false := by simpa using hne
  simp only [fraction, hfound, hnonempty]
  simp

/-- The offset of UTC itself. -/
theorem offset_utc : offset ('Z' :: rest) = some (0, rest) := by
  rw [offset, run_some (one_cons (by decide))]
  rfl

theorem year_signed {sign : Char} (hsign : sign = '-' ∨ sign = '+') (n : Nat) {more : List Char}
    (hmore : ∀ c ∈ more.head?, c.isDigit = false) :
    ∃ y, year (sign :: (fixedWidth 4 n ++ more)) = some (y, more) := by
  have hne : fixedWidth 4 n ≠ [] := by
    simp [fixedWidth, digits]
  have hnumber : number (fixedWidth 4 n ++ more).length (fixedWidth 4 n ++ more) =
      some (valueOfDigits (fixedWidth 4 n), more) :=
    number_written hne (fun _ => isDigit_of_mem_fixedWidth) (by simp) (Or.inr hmore)
  rcases hsign with rfl | rfl
  · refine ⟨-(valueOfDigits (fixedWidth 4 n) : Int), ?_⟩
    simp only [year, hnumber]
    rfl
  · refine ⟨(valueOfDigits (fixedWidth 4 n) : Int), ?_⟩
    simp only [year, hnumber]
    rfl

end Reader

/-! ## Dates and times of day -/

/-- A date in fields of fixed widths. -/
def dateText (date : Date) : List Char :=
  Timestamp.yearText date.year ++ '-' :: fixedWidth 2 date.month ++ '-' :: fixedWidth 2 date.day

/-- A time of day in fields of two digits. -/
def dayText (hour minute second : Nat) : List Char :=
  fixedWidth 2 hour ++ ':' :: fixedWidth 2 minute ++ ':' :: fixedWidth 2 second

namespace Reader

variable {date : Date} {hour minute second nanos : Nat} {tail : List Char}

/-- A date with a year of four digits and a time of day in UTC are read as the instant they mean. -/
theorem offsetTimestamp_written (hyear : 0 ≤ date.year ∧ date.year ≤ 9999)
    (hmonth : date.month < 100) (hday : date.day < 100) (hhour : hour < 100)
    (hminute : minute < 100) (hsecond : second < 100)
    (htail : fraction tail = some (nanos, ['Z'])) :
    offsetTimestamp (dateText date ++ 'T' :: (dayText hour minute second ++ tail)) =
      (Timestamp.ofClock? date hour minute second nanos).map fun t => (t, []) := by
  obtain ⟨year, month, day⟩ := date
  obtain ⟨n, rfl⟩ := Int.eq_ofNat_of_zero_le hyear.1
  have hn : n < tenTo 4 := by
    have hlast : (n : Int) ≤ 9999 := hyear.2
    show n < 10000
    omega
  have htext : dateText ⟨n, month, day⟩ ++ 'T' :: (dayText hour minute second ++ tail) =
      fixedWidth 4 n ++ '-' :: (fixedWidth 2 month ++ '-' :: (fixedWidth 2 day ++
        'T' :: (fixedWidth 2 hour ++ ':' :: (fixedWidth 2 minute ++
          ':' :: (fixedWidth 2 second ++ tail))))) := by
    simp [dateText, dayText, Timestamp.yearText, hyear.2]
  rw [htext, offsetTimestamp, run_some (fixed_written (by decide) hn), run_some (char_cons _),
    run_some (fixed_written (by decide) hmonth), run_some (char_cons _),
    run_some (fixed_written (by decide) hday), run_some (one_cons (by decide)),
    run_some (fixed_written (by decide) hhour), run_some (char_cons _),
    run_some (fixed_written (by decide) hminute), run_some (char_cons _),
    run_some (fixed_written (by decide) hsecond), run_some htail, run_some offset_utc,
    run_some rfl]
  cases Timestamp.ofClock? ⟨n, month, day⟩ hour minute second nanos with
  | none => rfl
  | some t =>
    show some (t.earlier 0, []) = some (t, [])
    rw [Timestamp.earlier_zero]

/-- A year with a sign has no digits at the place of a year of four digits. -/
theorem offsetTimestamp_signed (hyear : ¬ (0 ≤ date.year ∧ date.year ≤ 9999)) (more : List Char) :
    offsetTimestamp (dateText date ++ more) = none := by
  have htext : ∃ sign rest, sign.isDigit = false ∧ dateText date ++ more = sign :: rest := by
    simp only [dateText, Timestamp.yearText, if_neg hyear]
    refine ⟨if date.year < 0 then '-' else '+', _, ?_, rfl⟩
    split <;> decide
  obtain ⟨sign, rest, hsign, htext⟩ := htext
  rw [htext, offsetTimestamp, run_none (fixed_eq_none (by decide) hsign)]

/-- The other reader takes such a year and the date, but no letter after them. -/
theorem plainTimestamp_signed (hyear : ¬ (0 ≤ date.year ∧ date.year ≤ 9999))
    (hmonth : date.month < 100) (hday : date.day < 100) (more : List Char) :
    plainTimestamp (dateText date ++ 'T' :: more) = none := by
  obtain ⟨sign, hsign, htext⟩ : ∃ sign, (sign = '-' ∨ sign = '+') ∧
      dateText date ++ 'T' :: more =
        sign :: (fixedWidth 4 date.year.natAbs ++ '-' :: (fixedWidth 2 date.month ++
          '-' :: (fixedWidth 2 date.day ++ 'T' :: more))) := by
    refine ⟨if date.year < 0 then '-' else '+', ?_, ?_⟩
    · split
      · exact Or.inl rfl
      · exact Or.inr rfl
    · simp [dateText, Timestamp.yearText, if_neg hyear]
  have hdash : ∀ c ∈ ('-' :: (fixedWidth 2 date.month ++ '-' :: (fixedWidth 2 date.day ++
      'T' :: more))).head?, c.isDigit = false := by
    simp
  obtain ⟨year, hread⟩ := year_signed hsign date.year.natAbs hdash
  have hblank : Text.isBlank sign = false := by
    rcases hsign with rfl | rfl <;> decide
  rw [htext, plainTimestamp, run_some (blanks_cons hblank), run_some hread, run_some (char_cons _),
    run_some (field_written hmonth), run_some (char_cons _), run_some (field_written hday),
    run_some (blanks_cons (by decide)), run_none (field_eq_none (by decide) (by decide))]

end Reader

end Time

/-! ## Written times -/

namespace Timestamp

/-- The time in whole microseconds. -/
def truncated (t : Timestamp) : Timestamp where
  seconds := t.seconds
  nanos := t.nanos - t.nanos % 1000
  nanos_lt := by
    have h := t.nanos_lt
    omega

/-- The year has four digits: the time is not before the first of January of year 0, and not after
the last of December of year 9999. -/
def HasFourDigitYear (t : Timestamp) : Prop :=
  -62167219200 ≤ t.seconds ∧ t.seconds < 253402300800

instance (t : Timestamp) : Decidable t.HasFourDigitYear :=
  inferInstanceAs (Decidable (_ ∧ _))

/-- The time lies in a leap second that comes after another second than the last of a minute. -/
def IsStray (t : Timestamp) : Prop :=
  1000000000 ≤ t.nanos ∧ t.seconds % 60 ≠ 59

instance (t : Timestamp) : Decidable t.IsStray :=
  inferInstanceAs (Decidable (_ ∧ _))

/-- The same place in the second after it, and not in a leap second. -/
def following (t : Timestamp) : Timestamp where
  seconds := t.seconds + 1
  nanos := t.fraction
  nanos_lt := by
    unfold fraction
    omega

/-- The time that the text of a time means. -/
def written (t : Timestamp) : Timestamp :=
  if t.IsStray then t.following else t

/-- The date of a time exists. -/
theorem isValid_date (t : Timestamp) : t.date.isValid = true :=
  Time.Date.isValid_ofDays _

theorem hasFourDigitYear_iff (t : Timestamp) :
    t.HasFourDigitYear ↔ 0 ≤ t.date.year ∧ t.date.year ≤ 9999 := by
  have hdays : t.date.toDays = t.seconds / 86400 := Time.Date.toDays_ofDays _
  have hfirst : (Time.Date.mk 0 1 1).toDays = -719528 := by decide
  have hlast : (Time.Date.mk 10000 1 1).toDays = 2932897 := by decide
  have hzero := Time.Date.year_le_iff t.isValid_date 0
  have hmillennia := Time.Date.year_le_iff t.isValid_date 10000
  rw [hdays, hfirst] at hzero
  rw [hdays, hlast] at hmillennia
  rw [HasFourDigitYear]
  omega

theorem secondOfDay_lt (t : Timestamp) : t.secondOfDay < 86400 := by
  unfold secondOfDay
  omega

/-- Seconds are written up to 60, which is the leap second at the end of a minute. -/
theorem writtenSecond_le (t : Timestamp) :
    t.secondOfDay % 60 + (if t.isLeap then 1 else 0) ≤ 60 := by
  split <;> omega

/-- The fields in which a time is written mean this time, or that after it if it is stray, but for
what is below a microsecond. -/
theorem ofClock?_written (t : Timestamp) :
    ofClock? t.date (t.secondOfDay / 3600) (t.secondOfDay / 60 % 60)
      (t.secondOfDay % 60 + if t.isLeap then 1 else 0) (t.fraction / 1000 * 1000) =
        some t.written.truncated := by
  have hdays : t.date.toDays = t.seconds / 86400 := Time.Date.toDays_ofDays _
  have hnanos := t.nanos_lt
  have hsecond := t.secondOfDay_lt
  have hexists : t.date.isValid = true ∧ t.secondOfDay / 3600 ≤ 23 ∧
      t.secondOfDay / 60 % 60 ≤ 59 ∧ t.secondOfDay % 60 + (if t.isLeap then 1 else 0) ≤ 60 ∧
      t.fraction / 1000 * 1000 < 1000000000 := by
    refine ⟨t.isValid_date, by omega, by omega, t.writtenSecond_le, ?_⟩
    unfold fraction
    omega
  rw [ofClock?, dif_pos hexists, Option.some.injEq]
  by_cases hleap : 1000000000 ≤ t.nanos
  · have hisLeap : t.isLeap = true := decide_eq_true hleap
    by_cases hlast : t.seconds % 60 = 59
    · -- A leap second at the end of a minute is written as the second 60.
      have hmeant : t.written = t := if_neg fun hstray => hstray.2 hlast
      simp only [hmeant, truncated, Timestamp.mk.injEq, hdays, hisLeap, if_true]
      unfold secondOfDay fraction
      refine ⟨by omega, ?_⟩
      rw [if_pos (by omega)]
      omega
    · -- Any other is written as the second after it.
      have hmeant : t.written = t.following := if_pos ⟨hleap, hlast⟩
      simp only [hmeant, truncated, following, Timestamp.mk.injEq, hdays, hisLeap, if_true]
      unfold secondOfDay fraction
      refine ⟨by omega, ?_⟩
      rw [if_neg (by omega)]
      omega
  · have hisLeap : t.isLeap = false := decide_eq_false hleap
    have hmeant : t.written = t := if_neg fun hstray => hleap hstray.1
    simp only [hmeant, truncated, Timestamp.mk.injEq, hdays, hisLeap, Bool.false_eq_true, if_false,
      Nat.add_zero]
    unfold secondOfDay fraction
    refine ⟨by omega, ?_⟩
    rw [if_neg (by omega)]
    omega

/-- A written time is its date, its time of day and six digits of the fraction. -/
theorem toList_micros (t : Timestamp) :
    t.micros.toList = Time.dateText t.date ++ 'T' :: (Time.dayText (t.secondOfDay / 3600)
      (t.secondOfDay / 60 % 60) (t.secondOfDay % 60 + if t.isLeap then 1 else 0) ++
        '.' :: (fixedWidth 6 (t.fraction / 1000) ++ ['Z'])) := by
  simp [micros, clockText, Time.dateText, Time.dayText]

/-- Six digits of the fraction are whole microseconds. -/
theorem fraction_micros (t : Timestamp) :
    Time.Reader.fraction ('.' :: (fixedWidth 6 (t.fraction / 1000) ++ ['Z'])) =
      some (t.fraction / 1000 * 1000, ['Z']) := by
  have hfraction : t.fraction / 1000 < tenTo 6 := by
    show t.nanos % 1000000000 / 1000 < 1000000
    omega
  have hlength := length_fixedWidth (by decide) hfraction
  have hne : fixedWidth 6 (t.fraction / 1000) ≠ [] := by
    intro hnil
    rw [hnil] at hlength
    cases hlength
  rw [Time.Reader.fraction_written hne (fun _ => isDigit_of_mem_fixedWidth) (by simp),
    List.take_of_length_le (by omega), hlength, valueOfDigits_fixedWidth]

/-- A written time is read back in whole microseconds if its year has four digits, and not at all
otherwise. -/
theorem ofText?_micros (t : Timestamp) :
    ofText? t.micros = if t.HasFourDigitYear then some t.written.truncated else none := by
  obtain ⟨-, hmonth, -, hday⟩ := Time.month_day_of_isValid t.isValid_date
  have hsecond := t.secondOfDay_lt
  unfold ofText? ofOffsetText? ofPlainText?
  rw [toList_micros, StateT.run, StateT.run]
  by_cases hyear : t.HasFourDigitYear
  · rw [Time.Reader.offsetTimestamp_written (t.hasFourDigitYear_iff.mp hyear) (by omega) (by omega)
      (by omega) (by omega) (t.writtenSecond_le.trans_lt (by decide)) t.fraction_micros,
      ofClock?_written, if_pos hyear]
    rfl
  · have hsigned := mt t.hasFourDigitYear_iff.mpr hyear
    rw [Time.Reader.offsetTimestamp_signed hsigned,
      Time.Reader.plainTimestamp_signed hsigned (by omega) (by omega), if_neg hyear]
    rfl

end Timestamp

/-! ## Times in the ledger -/

/-- The text that the literal of a value has between quotes. -/
def Value.unquoted? (v : Value) : Option String :=
  match Quoting.read? '\x27' v.literal.toList with
  | some (content, []) => some content
  | _ => none

theorem Value.unquoted?_of_write {v : Value} {text : String}
    (h : v.literal = Quoting.write '\x27' text) : v.unquoted? = some text := by
  have hread := Quoting.read?_write '\x27' text [] (by simp)
  rw [List.append_nil] at hread
  rw [unquoted?, h, hread]

/-- The values of a statement, in order. -/
def Statement.values (s : Statement) : List Value :=
  s.filterMap fun
    | .literal value => some value
    | _ => none

namespace LedgerEntry

/-- A row with a number and a name is an entry if its times can be read. -/
theorem ofRow_fields (id : Int64) (name : String) (createdAt updatedAt : Value) :
    ofRow [.integer id, .text name, createdAt, updatedAt] = (do
      let created ← readTime createdAt
      let updated ← readTime updatedAt
      return ⟨id, name, created, updated⟩) := rfl

/-- A text in the place of a time is read with some result, alone and in the rows that have it in
both places. -/
def Reads (text : String) (result : Except RecordFault Timestamp) : Prop :=
  readTime (.text text) = result ∧
    ∀ (id : Int64) (name : String),
      ofRow [.integer id, .text name, .text text, .text text] =
        result.map fun t => ⟨id, name, t, t⟩

theorem reads_readTime (text : String) : Reads text (readTime (.text text)) := by
  refine ⟨rfl, fun id name => ?_⟩
  rw [ofRow_fields]
  cases readTime (.text text) <;> rfl

theorem reads_micros (t : Timestamp) : Reads t.micros
    (if t.HasFourDigitYear then .ok t.written.truncated
      else .error (.unreadableTimestamp t.micros)) := by
  have hresult : readTime (.text t.micros) =
      if t.HasFourDigitYear then .ok t.written.truncated
      else .error (.unreadableTimestamp t.micros) := by
    rw [readTime, Timestamp.ofText?_micros]
    by_cases hyear : t.HasFourDigitYear
    · rw [if_pos hyear, if_pos hyear]
    · rw [if_neg hyear, if_neg hyear]
  rw [← hresult]
  exact reads_readTime t.micros

end LedgerEntry

namespace Ledger

/-- The ledger keeps the times that it writes.  An insertion puts a name into a row, and twice the
same text for the time.

* If the year of the time has four digits, this text is read as the time in whole microseconds, and
  a row with the texts of the insertion as the entry with this name and this time.  The time may be
  in a leap second at the end of a minute.
* A leap second anywhere else is read as the second after it.
* If the year has not four digits, the text and the row are rejected. -/
theorem readTime_insertion (now : Timestamp) :
    ∃ text, (Value.timestamp now).unquoted? = some text ∧
      (∀ name, (insertion now name).values.map Value.unquoted? =
        [some name, some text, some text]) ∧
      (now.HasFourDigitYear → ¬now.IsStray → LedgerEntry.Reads text (.ok now.truncated)) ∧
      (now.HasFourDigitYear → now.IsStray →
        LedgerEntry.Reads text (.ok now.following.truncated)) ∧
      (¬now.HasFourDigitYear →
        LedgerEntry.Reads text (.error (.unreadableTimestamp text))) := by
  have htime : (Value.timestamp now).unquoted? = some now.micros :=
    Value.unquoted?_of_write rfl
  have hread := LedgerEntry.reads_micros now
  refine ⟨now.micros, htime, fun name => ?_, fun hyear hregular => ?_, fun hyear hstray => ?_,
    fun hyear => ?_⟩
  · have hname : (Value.text name).unquoted? = some name := Value.unquoted?_of_write rfl
    have hvalues : (insertion now name).values =
        [.text name, .timestamp now, .timestamp now] := rfl
    rw [hvalues, List.map_cons, List.map_cons, List.map_cons, List.map_nil, hname, htime]
  · rwa [if_pos hyear, Timestamp.written, if_neg hregular] at hread
  · rwa [if_pos hyear, Timestamp.written, if_pos hstray] at hread
  · rwa [if_neg hyear] at hread

/-- A leap second at the end of a year. -/
def leapSecond : Timestamp where
  seconds := 1483228799
  nanos := 1123456789
  nanos_lt := by decide

/-- A leap second after 12:00:05, where there has never been one. -/
def straySecond : Timestamp where
  seconds := 43205
  nanos := 1300000000
  nanos_lt := by decide

/-- The first second of the year 10000. -/
def lateSecond : Timestamp where
  seconds := 253402300800
  nanos := 5
  nanos_lt := by decide

/-- The first is read back but for its nanoseconds, the second as the second after it, and the third
is rejected. -/
theorem readTime_insertion_leapSecond :
    (leapSecond.HasFourDigitYear ∧ ¬leapSecond.IsStray ∧
      LedgerEntry.Reads "2016-12-31T23:59:60.123456Z" (.ok leapSecond.truncated)) ∧
    (straySecond.HasFourDigitYear ∧ straySecond.IsStray ∧
      LedgerEntry.Reads "1970-01-01T12:00:06.300000Z" (.ok straySecond.following.truncated)) ∧
    ¬lateSecond.HasFourDigitYear ∧
      LedgerEntry.Reads "+10000-01-01T00:00:00.000000Z"
        (.error (.unreadableTimestamp "+10000-01-01T00:00:00.000000Z")) := by
  obtain ⟨text, htext, -, hleap, -, -⟩ := readTime_insertion leapSecond
  obtain ⟨text', htext', -, -, hstray, -⟩ := readTime_insertion straySecond
  obtain ⟨text'', htext'', -, -, -, hlate⟩ := readTime_insertion lateSecond
  have hwritten : (Value.timestamp leapSecond).unquoted? =
      some "2016-12-31T23:59:60.123456Z" := by decide +kernel
  have hwritten' : (Value.timestamp straySecond).unquoted? =
      some "1970-01-01T12:00:06.300000Z" := by decide +kernel
  have hwritten'' : (Value.timestamp lateSecond).unquoted? =
      some "+10000-01-01T00:00:00.000000Z" := by decide +kernel
  cases htext.symm.trans hwritten
  cases htext'.symm.trans hwritten'
  cases htext''.symm.trans hwritten''
  exact ⟨⟨by decide, by decide, hleap (by decide) (by decide)⟩,
    ⟨by decide, by decide, hstray (by decide) (by decide)⟩, by decide, hlate (by decide)⟩

/-- A time in whole microseconds and with a year of four digits need not be read back: the leap
second after 12:00:05 has the text of 12:00:06, and is read as that. -/
theorem readTime_stray :
    straySecond.HasFourDigitYear ∧ straySecond.truncated = straySecond ∧
      (Value.timestamp straySecond).unquoted? = some "1970-01-01T12:00:06.300000Z" ∧
      LedgerEntry.readTime (.text "1970-01-01T12:00:06.300000Z") = .ok straySecond.following ∧
      LedgerEntry.readTime (.text "1970-01-01T12:00:06.300000Z") ≠ .ok straySecond.truncated := by
  decide +kernel

end Ledger

end SchemaEvolution
