import Mathlib.Tactic.IntervalCases
import SchemaEvolution.Time.Calendar

/-!
# Days and dates

A day is found in the calendar by going down from an era of 400 years to a century, a span of four
years, a year and a month.  This module shows that the way back leads to the same day.

* `yearAndDay_cases`: where a day of an era is, and in which years there is a day 365.
* `isLeapYear_next`: these are the years before a leap year, since they begin in March.
* `toDays_ofDays`: the date of a number of days has this number of days.
* `isValid_ofDays`: every number of days has a date that exists.
* `ofDays_toDays`: a date that exists comes back from its number of days, since no other date has
  the same (`eq_of_toDays_eq`).
* `year_le_iff`: a date lies in a year or after it if it is not before its first day.
-/

namespace SchemaEvolution.Time

/-- Months are numbered from 1 to 12, and their days up to 31. -/
theorem month_day_of_isValid {date : Date} (h : date.isValid = true) :
    1 ≤ date.month ∧ date.month ≤ 12 ∧ 1 ≤ date.day ∧ date.day ≤ 31 := by
  simp only [Date.isValid, Bool.and_eq_true, decide_eq_true_eq] at h
  obtain ⟨hpositive, hday⟩ := h
  have hfebruary : (if isLeapYear date.year = true then 29 else 28) ≤ 31 := by
    split <;> omega
  unfold daysInMonth at hday
  split at hday <;> omega

namespace Date

/-- A day of an era lies in a century, in a span of four years and in a year.  The day 365 is there
in the last year of a span only, and not in the last span of a century but the last. -/
theorem yearAndDay_cases {n : Nat} (h : n < 146097) :
    ∃ century span year day : Nat, yearAndDay n = (100 * century + 4 * span + year, day) ∧
      century ≤ 3 ∧ span ≤ 24 ∧ year ≤ 3 ∧ day ≤ 365 ∧
      36524 * century + 1461 * span + 365 * year + day = n ∧
      (day = 365 → year = 3 ∧ (span < 24 ∨ century = 3)) := by
  refine ⟨_, _, _, _, rfl, ?_⟩
  omega

/-- The year after the last one of a span is a leap year, except after the last span of a century
that is not the last of its era. -/
theorem isLeapYear_next (era : Int) {century span year : Nat} (hcentury : century ≤ 3)
    (hspan : span ≤ 24) (hyear : year ≤ 3) :
    isLeapYear (era * 400 + (100 * century + 4 * span + year : Nat) + 1) = true ↔
      year = 3 ∧ (span < 24 ∨ century = 3) := by
  simp only [isLeapYear, Bool.and_eq_true, Bool.or_eq_true, beq_iff_eq, bne_iff_ne]
  omega

/-- The number of days before a year that begins in March, counted from the beginning of the eras. -/
theorem daysBefore_year (era : Int) {century span year : Nat} (hspan : span ≤ 24)
    (hcentury : century ≤ 3) (hyear : year ≤ 3) {y : Int}
    (hy : y = era * 400 + (100 * century + 4 * span + year : Nat)) :
    365 * y + y / 4 - y / 100 + y / 400 =
      146097 * era + (36524 * century + 1461 * span + 365 * year : Nat) := by
  omega

/-- A number of days comes back from its date. -/
theorem toDays_ofDays (days : Int) : (ofDays days).toDays = days := by
  obtain ⟨century, span, year, day, hfound, hcentury, hspan, hyear, hday, hsum, -⟩ :=
    yearAndDay_cases (n := ((days + 719468) % 146097).toNat) (by omega)
  have hbefore := daysBefore_year ((days + 719468) / 146097) hspan hcentury hyear rfl
  simp only [ofDays, hfound]
  generalize hyears : (days + 719468) / 146097 * 400 + ((100 * century + 4 * span + year : Nat) : Int)
    = years at hbefore ⊢
  generalize hmonth : (5 * day + 2) / 153 = month
  -- The month is numbered from March here, so the first two months are those of the next year.
  by_cases hspring : month < 10
  · have hnumber : (month + 3 + 9) % 12 = month := by omega
    simp only [toDays, if_pos hspring, hnumber]
    rw [if_neg (by omega), hbefore]
    omega
  · have hnumber : (month - 9 + 9) % 12 = month := by omega
    simp only [toDays, if_neg hspring, hnumber]
    rw [if_pos (by omega), Int.add_sub_cancel, hbefore]
    omega

/-- The date of a number of days exists. -/
theorem isValid_ofDays (days : Int) : (ofDays days).isValid = true := by
  obtain ⟨century, span, year, day, hfound, hcentury, hspan, hyear, hday, -, hlast⟩ :=
    yearAndDay_cases (n := ((days + 719468) % 146097).toNat) (by omega)
  have hleap := isLeapYear_next ((days + 719468) / 146097) hcentury hspan hyear
  simp only [ofDays, hfound]
  generalize ((days + 719468) / 146097 * 400 + ((100 * century + 4 * span + year : Nat) : Int))
    = years at hleap ⊢
  generalize hmonth : (5 * day + 2) / 153 = month
  have hmonths : month ≤ 11 := by omega
  simp only [isValid]
  by_cases hspring : month < 10
  · rw [if_pos hspring]
    simp only [Bool.and_eq_true, decide_eq_true_eq]
    refine ⟨by omega, ?_⟩
    interval_cases month <;> simp only [daysInMonth] <;> omega
  · rw [if_neg hspring]
    simp only [Bool.and_eq_true, decide_eq_true_eq]
    refine ⟨by omega, ?_⟩
    obtain rfl | rfl : month = 10 ∨ month = 11 := by omega
    · simp only [daysInMonth]
      omega
    · -- The last day of February is day 365, which only a year before a leap year has.
      simp only [daysInMonth]
      split
      · omega
      · rename_i hcommon
        have hnone : ¬ day = 365 := fun h => hcommon (hleap.mpr (hlast h))
        omega

/-! ## Dates and their numbers of days -/

/-- The year of a date if years begin in March. -/
def marchYear (d : Date) : Int :=
  if d.month ≤ 2 then d.year - 1 else d.year

/-- The month of a date, counted from March. -/
def marchMonth (d : Date) : Nat :=
  (d.month + 9) % 12

/-- The days between the first of March and a date. -/
def dayOfYear (d : Date) : Nat :=
  (153 * d.marchMonth + 2) / 5 + d.day - 1

/-- The days before a year that begins in March. -/
def daysBefore (year : Int) : Int :=
  365 * year + year / 4 - year / 100 + year / 400

/-- A year has as many days as there are before the next one. -/
theorem daysBefore_succ (year : Int) :
    daysBefore (year + 1) =
      daysBefore year + 365 + if isLeapYear (year + 1) = true then 1 else 0 := by
  unfold daysBefore
  by_cases hleap : isLeapYear (year + 1) = true
  · rw [if_pos hleap]
    simp only [isLeapYear, Bool.and_eq_true, Bool.or_eq_true, beq_iff_eq, bne_iff_ne] at hleap
    omega
  · rw [if_neg hleap]
    simp only [isLeapYear, Bool.and_eq_true, Bool.or_eq_true, beq_iff_eq, bne_iff_ne] at hleap
    omega

theorem daysBefore_mono {y z : Int} (h : y ≤ z) : daysBefore y ≤ daysBefore z := by
  unfold daysBefore
  omega

theorem toDays_eq {d : Date} (h : 1 ≤ d.day) :
    d.toDays = daysBefore d.marchYear + d.dayOfYear - 719468 := by
  simp only [toDays, daysBefore, marchYear, dayOfYear, marchMonth]
  omega

/-- The day of a date that exists is one of its year, and determines the month. -/
theorem dayOfYear_spec {d : Date} (h : d.isValid = true) :
    (5 * d.dayOfYear + 2) / 153 = d.marchMonth ∧ d.dayOfYear ≤ 365 ∧
      (d.dayOfYear = 365 → isLeapYear (d.marchYear + 1) = true) := by
  obtain ⟨year, month, day⟩ := d
  obtain ⟨hfirst, hlast, hpositive, -⟩ := month_day_of_isValid h
  simp only [isValid, Bool.and_eq_true, decide_eq_true_eq] at h
  simp only [dayOfYear, marchMonth, marchYear] at *
  by_cases hfebruary : month = 2
  · subst hfebruary
    simp only [daysInMonth] at h
    split at h
    · rename_i hleap
      exact ⟨by omega, by omega, fun _ => by simpa using hleap⟩
    · omega
  · interval_cases month <;> simp only [daysInMonth] at h <;> omega

/-- Dates that exist and have the same number of days are the same. -/
theorem eq_of_toDays_eq {a b : Date} (ha : a.isValid = true) (hb : b.isValid = true)
    (h : a.toDays = b.toDays) : a = b := by
  obtain ⟨hamonth, haday, haleap⟩ := dayOfYear_spec ha
  obtain ⟨hbmonth, hbday, hbleap⟩ := dayOfYear_spec hb
  obtain ⟨hafirst, halast, hapositive, -⟩ := month_day_of_isValid ha
  obtain ⟨hbfirst, hblast, hbpositive, -⟩ := month_day_of_isValid hb
  rw [toDays_eq hapositive, toDays_eq hbpositive] at h
  have hyear : a.marchYear = b.marchYear := by
    rcases lt_trichotomy a.marchYear b.marchYear with hlt | heq | hgt
    · have hnext := daysBefore_succ a.marchYear
      have hlater := daysBefore_mono (Int.add_one_le_iff.mpr hlt)
      -- The day 365 is only in a year that is a day longer.
      split at hnext <;> grind
    · exact heq
    · have hnext := daysBefore_succ b.marchYear
      have hlater := daysBefore_mono (Int.add_one_le_iff.mpr hgt)
      split at hnext <;> grind
  have hday : a.dayOfYear = b.dayOfYear := by
    rw [hyear] at h
    omega
  have hmonth : a.marchMonth = b.marchMonth := by
    rw [← hamonth, ← hbmonth, hday]
  obtain ⟨ayear, amonth, aday⟩ := a
  obtain ⟨byear, bmonth, bday⟩ := b
  simp only [marchYear, marchMonth, dayOfYear] at *
  obtain rfl : amonth = bmonth := by omega
  obtain rfl : aday = bday := by omega
  obtain rfl : ayear = byear := by
    split at hyear <;> omega
  rfl

/-- A date that exists comes back from its number of days. -/
theorem ofDays_toDays {d : Date} (h : d.isValid = true) : ofDays d.toDays = d :=
  eq_of_toDays_eq (isValid_ofDays _) h (toDays_ofDays _)

/-! ## Years -/

/-- The first of January is day 306 of a year that begins in March. -/
theorem toDays_newYear (year : Int) :
    (Date.mk year 1 1).toDays = daysBefore (year - 1) + 306 - 719468 := by
  rw [toDays_eq (Nat.le_refl 1)]
  simp [marchYear, dayOfYear, marchMonth]

/-- A date that exists lies between the first days of its year and of the next one. -/
theorem toDays_in_year {d : Date} (h : d.isValid = true) :
    (Date.mk d.year 1 1).toDays ≤ d.toDays ∧ d.toDays < (Date.mk (d.year + 1) 1 1).toDays := by
  obtain ⟨hmonth, hlast, -⟩ := dayOfYear_spec h
  obtain ⟨hfirst, htwelve, hpositive, -⟩ := month_day_of_isValid h
  have hlength : daysBefore (d.year - 1) + 365 ≤ daysBefore d.year := by
    have hsucc := daysBefore_succ (d.year - 1)
    rw [Int.sub_add_cancel] at hsucc
    split at hsucc <;> omega
  rw [toDays_newYear, toDays_newYear, toDays_eq hpositive, Int.add_sub_cancel, marchYear]
  -- January and February are the last two months of the March year before.
  by_cases hwinter : d.month ≤ 2
  · have hnumber : d.marchMonth = d.month + 9 := Nat.mod_eq_of_lt (by omega)
    rw [if_pos hwinter]
    omega
  · have hnumber : d.marchMonth = d.month - 3 := by
      rw [marchMonth]
      omega
    rw [if_neg hwinter]
    omega

/-- A date that exists is in a year or after it if it is not before the first of January. -/
theorem year_le_iff {d : Date} (h : d.isValid = true) (year : Int) :
    year ≤ d.year ↔ (Date.mk year 1 1).toDays ≤ d.toDays := by
  obtain ⟨hfirst, hnext⟩ := toDays_in_year h
  rw [toDays_newYear] at hfirst hnext ⊢
  constructor
  · intro hyear
    have hmono : daysBefore (year - 1) ≤ daysBefore (d.year - 1) := daysBefore_mono (by omega)
    omega
  · intro hdays
    by_contra hyear
    have hmono : daysBefore (d.year + 1 - 1) ≤ daysBefore (year - 1) := daysBefore_mono (by omega)
    omega

end Date

end SchemaEvolution.Time
