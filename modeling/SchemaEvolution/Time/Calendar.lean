/-!
# The calendar

Dates of the proleptic Gregorian calendar, where year 0 comes before year 1, and their numbers of
days since 1970-01-01.  Years are counted from March here, so that a leap day is the last of its
year and the lengths of the months follow a line.
-/

namespace SchemaEvolution.Time

/-- A year, month and day. -/
structure Date where
  year : Int
  month : Nat
  day : Nat
deriving DecidableEq

/-- Every fourth year has a leap day, but of the full centuries only every fourth. -/
def isLeapYear (year : Int) : Bool :=
  year % 4 == 0 && (year % 100 != 0 || year % 400 == 0)

/-- The number of days of a month; there is none beyond the twelfth. -/
def daysInMonth (year : Int) (month : Nat) : Nat :=
  match month with
  | 1 | 3 | 5 | 7 | 8 | 10 | 12 => 31
  | 4 | 6 | 9 | 11 => 30
  | 2 => if isLeapYear year then 29 else 28
  | _ => 0

namespace Date

/-- The date exists. -/
def isValid (d : Date) : Bool :=
  1 ≤ d.day && d.day ≤ daysInMonth d.year d.month

/-- The number of days from 1970-01-01 to the date; March is month 0 of its year here. -/
def toDays (d : Date) : Int :=
  let year := if d.month ≤ 2 then d.year - 1 else d.year
  let month := (d.month + 9) % 12
  365 * year + year / 4 - year / 100 + year / 400 + ((153 * month + 2) / 5 + d.day : Nat) - 719469

/-- The year within its era of 400 years and the day within the year, given the day within the era.
The era has four centuries, a century spans of four years, and a span four years; the last of each
is the one that may have a day more. -/
def yearAndDay (dayOfEra : Nat) : Nat × Nat :=
  let century := min (dayOfEra / 36524) 3
  let inCentury := dayOfEra - 36524 * century
  let span := inCentury / 1461
  let inSpan := inCentury - 1461 * span
  let year := min (inSpan / 365) 3
  (100 * century + 4 * span + year, inSpan - 365 * year)

/-- The date that many days after 1970-01-01. -/
def ofDays (days : Int) : Date :=
  let shifted := days + 719468
  let (yearOfEra, dayOfYear) := yearAndDay (shifted % 146097).toNat
  let year := shifted / 146097 * 400 + yearOfEra
  let month := (5 * dayOfYear + 2) / 153
  let day := dayOfYear - (153 * month + 2) / 5 + 1
  if month < 10 then ⟨year, month + 3, day⟩ else ⟨year + 1, month - 9, day⟩

end Date

end SchemaEvolution.Time
