import SchemaEvolution.Proofs.Timestamps

/-!
# The two forms of a time

A time in the ledger is a text with a `T` between the date and the time of day and a `Z` at its
end, or one with a space between them and nothing at its end.

* `Time.placesText` and `Time.nanosOf`: any digits as the fraction of a second, and what they mean.
* `Reader.offsetTimestamp_spaced`, `Reader.plainTimestamp_marked`: neither reader takes a text of
  the other's form, though the first of them takes all but the end of it.
* `Reader.plainTimestamp_spaced`: the second reader takes its own form, as the first one does
  (`Reader.offsetTimestamp_written`).
* `LedgerEntry.readTime_forms`: both forms of a date and time of day are read as the same instant,
  and neither if there is no such date.
-/

namespace SchemaEvolution

/-- Digits write a number below the power of ten of their length. -/
theorem valueOfDigits_lt {ds : List Char} (h : ∀ c ∈ ds, c.isDigit = true) :
    valueOfDigits ds < tenTo ds.length := by
  induction ds with
  | nil => decide
  | cons c ds ih =>
    obtain ⟨hc, hds⟩ := List.forall_mem_cons.mp h
    have hdigit : c.toNat - '0'.toNat ≤ 9 := by
      simp only [Char.isDigit, Bool.and_eq_true, decide_eq_true_eq] at hc
      have hlast : c.toNat ≤ 57 := hc.2
      have hzero : '0'.toNat = 48 := rfl
      omega
    have hrest : Nat.ofDigitChars 10 ds 0 < 10 ^ ds.length := ih hds
    have hfirst : 10 ^ ds.length * (c.toNat - '0'.toNat) ≤ 10 ^ ds.length * 9 :=
      Nat.mul_le_mul_left _ hdigit
    show Nat.ofDigitChars 10 (c :: ds) 0 < 10 ^ (ds.length + 1)
    rw [Nat.ofDigitChars_cons, Nat.ofDigitChars_eq_ofDigitChars_zero, Nat.mul_zero, Nat.zero_add,
      Nat.pow_succ]
    omega

namespace Time

/-! ## Fractions -/

/-- The fraction of a second behind its point, or nothing if there are no digits. -/
def placesText (ds : List Char) : List Char :=
  if ds.isEmpty then [] else '.' :: ds

/-- The nanoseconds that the digits of a fraction mean: the first nine of them count. -/
def nanosOf (ds : List Char) : Nat :=
  valueOfDigits (ds.take 9) * tenTo (9 - (ds.take 9).length)

variable {ds : List Char}

theorem nanosOf_lt (h : ∀ c ∈ ds, c.isDigit = true) : nanosOf ds < 1000000000 := by
  have hvalue : valueOfDigits (ds.take 9) < 10 ^ (ds.take 9).length :=
    valueOfDigits_lt fun c hc => h c (List.mem_of_mem_take hc)
  have hlength : (ds.take 9).length ≤ 9 := List.length_take_le 9 ds
  calc nanosOf ds
      < 10 ^ (ds.take 9).length * 10 ^ (9 - (ds.take 9).length) :=
        Nat.mul_lt_mul_of_pos_right hvalue (Nat.pow_pos (by decide))
    _ = 10 ^ 9 := by
        rw [← Nat.pow_add, Nat.add_sub_cancel' hlength]

/-- Digits after the ninth do not count. -/
theorem nanosOf_take (ds : List Char) : nanosOf (ds.take 9) = nanosOf ds := by
  simp only [nanosOf, List.take_take, Nat.min_self]

/-- A fraction is taken from a text that goes on with neither a point nor a digit. -/
theorem Reader.fraction_placesText (h : ∀ c ∈ ds, c.isDigit = true) {rest : List Char}
    (hrest : ∀ c ∈ rest.head?, c ≠ '.' ∧ c.isDigit = false) :
    fraction (placesText ds ++ rest) = some (nanosOf ds, rest) := by
  by_cases hempty : ds = []
  · subst hempty
    unfold fraction
    split
    · rename_i cs hcs
      have hhead : rest.head? = some '.' := congrArg List.head? hcs
      exact absurd rfl (hrest '.' hhead).1
    · rfl
  · have hplaces : placesText ds = '.' :: ds := by
      simp [placesText, hempty]
    rw [hplaces, List.cons_append, fraction_written hempty h fun c hc => (hrest c hc).2]
    rfl

/-! ## Dates and times of day -/

variable {date : Date} {hour minute second nanos : Nat}

/-- A date with a year of four digits has its fields in fixed widths. -/
theorem dateText_append (hyear : 0 ≤ date.year ∧ date.year ≤ 9999) :
    ∃ n : Nat, date.year = n ∧ n < tenTo 4 ∧ ∀ more, dateText date ++ more =
      fixedWidth 4 n ++
        '-' :: (fixedWidth 2 date.month ++ '-' :: (fixedWidth 2 date.day ++ more)) := by
  obtain ⟨n, hn⟩ := Int.eq_ofNat_of_zero_le hyear.1
  have hlast : n ≤ 9999 := by omega
  refine ⟨n, hn, Nat.lt_succ_of_le hlast, fun more => ?_⟩
  simp [dateText, Timestamp.yearText, hn, hlast]

theorem dayText_append (hour minute second : Nat) (more : List Char) :
    dayText hour minute second ++ more =
      fixedWidth 2 hour ++
        ':' :: (fixedWidth 2 minute ++ ':' :: (fixedWidth 2 second ++ more)) := by
  simp [dayText]

namespace Reader

variable {tail : List Char}

/-- There is no white space before digits. -/
theorem blanks_fixedWidth (width n : Nat) (more : List Char) :
    blanks (fixedWidth width n ++ more) = some ((), fixedWidth width n ++ more) := by
  obtain ⟨c, cs, htext⟩ : ∃ c cs, fixedWidth width n = c :: cs :=
    List.exists_cons_of_ne_nil (by simp [fixedWidth, digits])
  rw [htext]
  exact blanks_cons
    (Text.isBlank_of_isDigit (isDigit_of_mem_fixedWidth (htext ▸ List.mem_cons_self)))

/-- A space before digits is taken. -/
theorem blanks_space (width n : Nat) (more : List Char) :
    blanks (' ' :: (fixedWidth width n ++ more)) = some ((), fixedWidth width n ++ more) := by
  have hrest := blanks_fixedWidth width n more
  simp only [blanks, Text.trimBlank] at hrest ⊢
  rw [List.dropWhile_cons_of_pos (by decide)]
  exact hrest

/-- A year of four digits is taken. -/
theorem year_written {n : Nat} (h : n < tenTo 4) (more : List Char) :
    year (fixedWidth 4 n ++ more) = some ((n : Int), more) := by
  have hlength := length_fixedWidth (by decide) h
  have hdigits : ∀ c ∈ fixedWidth 4 n, c.isDigit = true := fun _ => isDigit_of_mem_fixedWidth
  have hne : fixedWidth 4 n ≠ [] := List.ne_nil_of_length_pos (by omega)
  have hnumber : number 4 (fixedWidth 4 n ++ more) = some (_, more) :=
    number_written hne hdigits hlength.le (Or.inl hlength)
  obtain ⟨c, cs, htext⟩ := List.exists_cons_of_ne_nil hne
  have hc : c.isDigit = true := hdigits c (htext ▸ List.mem_cons_self)
  rw [htext, List.cons_append] at hnumber ⊢
  -- A digit is neither of the signs that a year may have.
  unfold year
  split
  · rename_i hsign
    rw [(List.cons.inj hsign).1] at hc
    exact absurd hc (by decide)
  · rename_i hsign
    rw [(List.cons.inj hsign).1] at hc
    exact absurd hc (by decide)
  · rw [hnumber, ← htext, valueOfDigits_fixedWidth]
    rfl

/-- The reader that wants an offset does not take a text without one, though it takes all fields
before it. -/
theorem offsetTimestamp_spaced (hyear : 0 ≤ date.year ∧ date.year ≤ 9999)
    (hmonth : date.month < 100) (hday : date.day < 100) (hhour : hour < 100)
    (hminute : minute < 100) (hsecond : second < 100)
    (htail : fraction tail = some (nanos, [])) :
    offsetTimestamp (dateText date ++ ' ' :: (dayText hour minute second ++ tail)) = none := by
  obtain ⟨n, -, hn, htext⟩ := dateText_append hyear
  have hoffset : offset [] = none := rfl
  rw [htext, dayText_append, offsetTimestamp, run_some (fixed_written (by decide) hn),
    run_some (char_cons _), run_some (fixed_written (by decide) hmonth), run_some (char_cons _),
    run_some (fixed_written (by decide) hday), run_some (one_cons (by decide)),
    run_some (fixed_written (by decide) hhour), run_some (char_cons _),
    run_some (fixed_written (by decide) hminute), run_some (char_cons _),
    run_some (fixed_written (by decide) hsecond), run_some htail, run_none hoffset]

/-- The other reader takes it as the instant in UTC that it means. -/
theorem plainTimestamp_spaced (hyear : 0 ≤ date.year ∧ date.year ≤ 9999)
    (hmonth : date.month < 100) (hday : date.day < 100) (hhour : hour < 100)
    (hminute : minute < 100) (hsecond : second < 100)
    (htail : fraction tail = some (nanos, [])) :
    plainTimestamp (dateText date ++ ' ' :: (dayText hour minute second ++ tail)) =
      (Timestamp.ofClock? date hour minute second nanos).map fun t => (t, []) := by
  obtain ⟨n, hn, hlarge, htext⟩ := dateText_append hyear
  have hplain : isPlainYear n = true := by
    simp only [isPlainYear, Bool.and_eq_true, decide_eq_true_eq]
    omega
  rw [htext, dayText_append, plainTimestamp, run_some (blanks_fixedWidth 4 n _),
    run_some (year_written hlarge _), run_some (char_cons _), run_some (field_written hmonth),
    run_some (char_cons _), run_some (field_written hday), run_some (blanks_space 2 hour _),
    run_some (field_written hhour), run_some (char_cons _), run_some (field_written hminute),
    run_some (char_cons _), run_some (field_written hsecond), run_some htail, run_some rfl,
    hplain, ← hn]
  obtain ⟨year, month, day⟩ := date
  cases Timestamp.ofClock? ⟨year, month, day⟩ hour minute second nanos <;> rfl

/-- A letter behind the date is not for this reader. -/
theorem plainTimestamp_marked (hyear : 0 ≤ date.year ∧ date.year ≤ 9999)
    (hmonth : date.month < 100) (hday : date.day < 100) (more : List Char) :
    plainTimestamp (dateText date ++ 'T' :: more) = none := by
  obtain ⟨n, -, hn, htext⟩ := dateText_append hyear
  rw [htext, plainTimestamp, run_some (blanks_fixedWidth 4 n _), run_some (year_written hn _),
    run_some (char_cons _), run_some (field_written hmonth), run_some (char_cons _),
    run_some (field_written hday), run_some (blanks_cons (by decide)),
    run_none (field_eq_none (by decide) (by decide))]

end Reader

end Time

/-! ## Both forms -/

namespace Timestamp

open Time

variable {date : Date} {hour minute second : Nat} {ds : List Char}

/-- A date and a time of day with a space between them, meant in UTC. -/
def spacedText (date : Date) (hour minute second : Nat) (ds : List Char) : String :=
  String.ofList (dateText date ++ ' ' :: (dayText hour minute second ++ placesText ds))

/-- A date and a time of day with a `T` between them and the mark of UTC at the end. -/
def markedText (date : Date) (hour minute second : Nat) (ds : List Char) : String :=
  String.ofList (dateText date ++ 'T' :: (dayText hour minute second ++ (placesText ds ++ ['Z'])))

theorem ofText?_spacedText (hyear : 0 ≤ date.year ∧ date.year ≤ 9999) (hmonth : date.month < 100)
    (hday : date.day < 100) (hhour : hour < 100) (hminute : minute < 100) (hsecond : second < 100)
    (hds : ∀ c ∈ ds, c.isDigit = true) :
    ofText? (spacedText date hour minute second ds) =
      ofClock? date hour minute second (nanosOf ds) := by
  have htail : Reader.fraction (placesText ds) = some (nanosOf ds, []) := by
    rw [← List.append_nil (placesText ds)]
    exact Reader.fraction_placesText hds (by simp)
  rw [ofText?, ofOffsetText?, ofPlainText?, spacedText, String.toList_ofList, StateT.run,
    StateT.run,
    Reader.offsetTimestamp_spaced hyear hmonth hday hhour hminute hsecond htail,
    Reader.plainTimestamp_spaced hyear hmonth hday hhour hminute hsecond htail]
  cases ofClock? date hour minute second (nanosOf ds) <;> rfl

theorem ofText?_markedText (hyear : 0 ≤ date.year ∧ date.year ≤ 9999) (hmonth : date.month < 100)
    (hday : date.day < 100) (hhour : hour < 100) (hminute : minute < 100) (hsecond : second < 100)
    (hds : ∀ c ∈ ds, c.isDigit = true) :
    ofText? (markedText date hour minute second ds) =
      ofClock? date hour minute second (nanosOf ds) := by
  have htail : Reader.fraction (placesText ds ++ ['Z']) = some (nanosOf ds, ['Z']) :=
    Reader.fraction_placesText hds (by simp)
  rw [ofText?, ofOffsetText?, ofPlainText?, markedText, String.toList_ofList, StateT.run,
    StateT.run,
    Reader.offsetTimestamp_written hyear hmonth hday hhour hminute hsecond htail,
    Reader.plainTimestamp_marked hyear hmonth hday]
  cases ofClock? date hour minute second (nanosOf ds) <;> rfl

/-- A date that exists and a time of day are an instant with this date and time of day. -/
theorem exists_ofClock? {nanos : Nat} (hdate : date.isValid = true) (hhour : hour ≤ 23)
    (hminute : minute ≤ 59) (hsecond : second ≤ 60) (hnanos : nanos < 1000000000) :
    ∃ t, ofClock? date hour minute second nanos = some t ∧ t.date = date ∧
      t.secondOfDay = hour * 3600 + minute * 60 + min second 59 ∧
      t.isLeap = decide (second = 60) ∧ t.fraction = nanos := by
  refine ⟨_, dif_pos ⟨hdate, hhour, hminute, hsecond, hnanos⟩, ?_, ?_, ?_, ?_⟩
  · have hdays : (date.toDays * 86400 +
        (hour * 3600 + minute * 60 + min second 59 : Nat)) / 86400 = date.toDays := by
      omega
    rw [Timestamp.date, hdays, Date.ofDays_toDays hdate]
  · simp only [secondOfDay]
    omega
  · simp only [isLeap, decide_eq_decide]
    split <;> omega
  · simp only [fraction]
    split <;> omega

/-- A date that does not exist is no instant. -/
theorem ofClock?_of_not_isValid {nanos : Nat} (hdate : date.isValid = false) :
    ofClock? date hour minute second nanos = none :=
  dif_neg fun h => absurd h.1 (by simp [hdate])

end Timestamp

namespace LedgerEntry

open Time Timestamp

theorem readTime_of_ofText? {text : String} {t : Timestamp} (h : ofText? text = some t) :
    readTime (.text text) = .ok t := by
  rw [readTime, h]

theorem readTime_of_unreadable {text : String} (h : ofText? text = none) :
    readTime (.text text) = .error (.unreadableTimestamp text) := by
  rw [readTime, h]

/-- The two forms of a time mean the same instant.  For a year of four digits, a time of day, which
may be in a leap second, and any digits as the fraction,

* if there is such a date, both forms are read as the instant that has this date and this time of
  day in UTC, and digits after the ninth of the fraction do not count;
* if there is none, both are rejected, and the reason quotes the text. -/
theorem readTime_forms (date : Date) (hour minute second : Nat) (ds : List Char)
    (hyear : 0 ≤ date.year ∧ date.year ≤ 9999) (hmonth : date.month < 100) (hday : date.day < 100)
    (hhour : hour ≤ 23) (hminute : minute ≤ 59) (hsecond : second ≤ 60)
    (hds : ∀ c ∈ ds, c.isDigit = true) :
    (date.isValid = true → ∃ t : Timestamp,
      (∀ digits ∈ [ds, ds.take 9],
        readTime (.text (spacedText date hour minute second digits)) = .ok t ∧
        readTime (.text (markedText date hour minute second digits)) = .ok t) ∧
      t.date = date ∧ t.secondOfDay = hour * 3600 + minute * 60 + min second 59 ∧
      t.isLeap = decide (second = 60) ∧ t.fraction = nanosOf ds) ∧
    (date.isValid = false →
      ∀ text ∈ [spacedText date hour minute second ds, markedText date hour minute second ds],
        readTime (.text text) = .error (.unreadableTimestamp text) ∧
        (RecordFault.unreadableTimestamp text).message = "invalid timestamp: " ++ text) := by
  have hhours : hour < 100 := hhour.trans_lt (by decide)
  have hminutes : minute < 100 := hminute.trans_lt (by decide)
  have hseconds : second < 100 := hsecond.trans_lt (by decide)
  constructor
  · intro hdate
    obtain ⟨t, ht, hmeaning⟩ := exists_ofClock? hdate hhour hminute hsecond (nanosOf_lt hds)
    refine ⟨t, fun digits hmem => ?_, hmeaning⟩
    have hdigits : (∀ c ∈ digits, c.isDigit = true) ∧ nanosOf digits = nanosOf ds := by
      simp only [List.mem_cons, List.not_mem_nil, or_false] at hmem
      rcases hmem with rfl | rfl
      · exact ⟨hds, rfl⟩
      · exact ⟨fun c hc => hds c (List.mem_of_mem_take hc), nanosOf_take ds⟩
    rw [← hdigits.2] at ht
    constructor
    · refine readTime_of_ofText? (Eq.trans ?_ ht)
      exact ofText?_spacedText hyear hmonth hday hhours hminutes hseconds hdigits.1
    · refine readTime_of_ofText? (Eq.trans ?_ ht)
      exact ofText?_markedText hyear hmonth hday hhours hminutes hseconds hdigits.1
  · intro hdate text hmem
    have hread : ofText? text = ofClock? date hour minute second (nanosOf ds) := by
      simp only [List.mem_cons, List.not_mem_nil, or_false] at hmem
      rcases hmem with rfl | rfl
      · exact ofText?_spacedText hyear hmonth hday hhours hminutes hseconds hds
      · exact ofText?_markedText hyear hmonth hday hhours hminutes hseconds hds
    exact ⟨readTime_of_unreadable (hread.trans (ofClock?_of_not_isValid hdate)), rfl⟩

/-- A leap second on a leap day is read from both forms, with ten digits of a fraction or with nine
of them, and neither form is read in the year before. -/
theorem readTime_forms_leapSecond :
    (∃ t : Timestamp,
      readTime (.text "2024-02-29 23:59:60.1234567899") = .ok t ∧
      readTime (.text "2024-02-29T23:59:60.1234567899Z") = .ok t ∧
      readTime (.text "2024-02-29 23:59:60.123456789") = .ok t ∧
      t.date = ⟨2024, 2, 29⟩ ∧ t.isLeap = true ∧ t.fraction = 123456789) ∧
    readTime (.text "2023-02-29 23:59:60.1234567899") =
      .error (.unreadableTimestamp "2023-02-29 23:59:60.1234567899") ∧
    readTime (.text "2023-02-29T23:59:60.1234567899Z") =
      .error (.unreadableTimestamp "2023-02-29T23:59:60.1234567899Z") := by
  have hdigits : ∀ c ∈ "1234567899".toList, c.isDigit = true :=
    List.all_eq_true.mp (by decide)
  have hleap := (readTime_forms ⟨2024, 2, 29⟩ 23 59 60 _ (by decide) (by decide) (by decide)
    (by decide) (by decide) (by decide) hdigits).1 (by decide)
  have hcommon := (readTime_forms ⟨2023, 2, 29⟩ 23 59 60 _ (by decide) (by decide) (by decide)
    (by decide) (by decide) (by decide) hdigits).2 (by decide)
  obtain ⟨t, hread, hdate, -, hsecond, hfraction⟩ := hleap
  have hall := hread "1234567899".toList (by decide)
  have hnine := hread ("1234567899".toList.take 9) (by decide)
  exact ⟨⟨t, hall.1, hall.2, hnine.1, hdate, hsecond, hfraction⟩,
    (hcommon _ (by decide)).1, (hcommon _ (by decide)).1⟩

end LedgerEntry

end SchemaEvolution
