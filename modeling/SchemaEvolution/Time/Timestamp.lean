import SchemaEvolution.Number.Spelling
import SchemaEvolution.Time.Calendar

/-!
# Timestamps

A `Timestamp` is an instant in UTC with nanoseconds.  A leap second is held as a further thousand
million nanoseconds of the second before it.  That may be any second, since there have been offsets
from UTC with fractions of a minute; but only a leap second after a second `59` has a number of its
own, `60`.  Any other has the number of the second after it.

A timestamp is written as `2024-01-31T09:30:00.25Z`.  Years of `0` to `9999` have four digits, any
other year a sign before them.  `Timestamp.micros` always writes six digits of the fraction and cuts
off the rest (`to_rfc3339_opts` with microseconds); `Timestamp.exact` writes as many groups of three
as the nanoseconds need.
-/

namespace SchemaEvolution

/-- An instant in UTC. -/
structure Timestamp where
  /-- Whole seconds since 1970-01-01T00:00:00Z. -/
  seconds : Int
  /-- Nanoseconds within the second, or within a leap second after it. -/
  nanos : Nat
  nanos_lt : nanos < 2000000000
deriving DecidableEq

namespace Timestamp

/-- The date of an instant. -/
def date (t : Timestamp) : Time.Date :=
  Time.Date.ofDays (t.seconds / 86400)

/-- The second of the day, which does not count leap seconds. -/
def secondOfDay (t : Timestamp) : Nat :=
  (t.seconds % 86400).toNat

/-- The instant lies in a leap second. -/
def isLeap (t : Timestamp) : Bool :=
  1000000000 ≤ t.nanos

/-- The nanoseconds after the last second, leap or not. -/
def fraction (t : Timestamp) : Nat :=
  t.nanos % 1000000000

/-- The digits of a year: four without a sign, or a sign and at least four. -/
def yearText (year : Int) : List Char :=
  if 0 ≤ year ∧ year ≤ 9999 then fixedWidth 4 year.toNat
  else (if year < 0 then '-' else '+') :: fixedWidth 4 year.natAbs

/-- Date and time of day up to the second. -/
def clockText (t : Timestamp) : List Char :=
  let s := t.secondOfDay
  yearText t.date.year ++ '-' :: fixedWidth 2 t.date.month ++ '-' :: fixedWidth 2 t.date.day ++
    'T' :: fixedWidth 2 (s / 3600) ++ ':' :: fixedWidth 2 (s / 60 % 60) ++
    ':' :: fixedWidth 2 (s % 60 + if t.isLeap then 1 else 0)

/-- The text with exactly six digits of the fraction. -/
def micros (t : Timestamp) : String :=
  String.ofList (t.clockText ++ '.' :: fixedWidth 6 (t.fraction / 1000) ++ ['Z'])

/-- The fraction by groups of three digits, or nothing for a whole second. -/
def fractionText (nanos : Nat) : List Char :=
  if nanos = 0 then []
  else if nanos % 1000000 = 0 then '.' :: fixedWidth 3 (nanos / 1000000)
  else if nanos % 1000 = 0 then '.' :: fixedWidth 6 (nanos / 1000)
  else '.' :: fixedWidth 9 nanos

/-- The text that loses nothing. -/
def exact (t : Timestamp) : String :=
  String.ofList (t.clockText ++ fractionText t.fraction ++ ['Z'])

/-- The instant of a date and time of day, which must exist; second `60` is a leap second. -/
def ofClock? (date : Time.Date) (hour minute second nanos : Nat) : Option Timestamp :=
  if h : date.isValid = true ∧ hour ≤ 23 ∧ minute ≤ 59 ∧ second ≤ 60 ∧ nanos < 1000000000 then
    some {
      seconds := date.toDays * 86400 + (hour * 3600 + minute * 60 + min second 59 : Nat)
      nanos := if second = 60 then nanos + 1000000000 else nanos
      nanos_lt := by split <;> omega }
  else none

/-- The instant a number of minutes earlier. -/
def earlier (t : Timestamp) (minutes : Int) : Timestamp where
  seconds := t.seconds - minutes * 60
  nanos := t.nanos
  nanos_lt := t.nanos_lt

end Timestamp

end SchemaEvolution
