import SchemaEvolution.Text.Blank
import SchemaEvolution.Time.Timestamp

/-!
# Reading timestamps

Two forms of a timestamp are read, the first that fits the whole text being the one that counts.

* `Timestamp.ofOffsetText?` reads a date, a `T` or a space, a time of day and an offset from UTC,
  each of a fixed width but for the fraction of a second: `2024-01-31T10:30:00.25+01:00`.
* `Timestamp.ofPlainText?` reads a date and a time of day in UTC, in numbers of any width up to the
  usual one and with white space before them: `2024-1-31 9:30:00.25`.

Of a fraction the first nine digits count.  A reader takes the characters it wants from the front of
a list and returns the rest.
-/

namespace SchemaEvolution

namespace Time

/-- A reader takes a value from the front of a text, and fails if there is none. -/
abbrev Reader (α : Type) := StateT (List Char) Option α

/-- Takes one character that passes a test. -/
def Reader.one (test : Char → Bool) : Reader Char
  | c :: rest => if test c then some (c, rest) else none
  | [] => none

/-- Takes a given character. -/
def Reader.char (c : Char) : Reader Unit := do
  let _ ← one (· == c)

/-- Takes nothing from a text that is used up. -/
def Reader.done : Reader Unit
  | [] => some ((), [])
  | _ :: _ => none

/-- The digits at the front of a text, at most `most` of them. -/
def leadingDigits (most : Nat) (cs : List Char) : List Char :=
  (cs.take most).takeWhile Char.isDigit

/-- Takes a number of at least one digit and at most `most`. -/
def Reader.number (most : Nat) : Reader Nat := fun cs =>
  let ds := leadingDigits most cs
  if ds.isEmpty then none else some (valueOfDigits ds, cs.drop ds.length)

/-- Takes a number of exactly `width` digits. -/
def Reader.fixed (width : Nat) : Reader Nat := fun cs =>
  let ds := leadingDigits width cs
  if ds.length = width then some (valueOfDigits ds, cs.drop width) else none

/-- Takes the fraction of a second, if there is a point, in nanoseconds: digits after the ninth are
dropped, missing ones are zeros. -/
def Reader.fraction : Reader Nat
  | '.' :: cs =>
    let ds := leadingDigits cs.length cs
    if ds.isEmpty then none
    else
      let kept := ds.take 9
      some (valueOfDigits kept * tenTo (9 - kept.length), cs.drop ds.length)
  | cs => some (0, cs)

/-- Takes white space, as much as there is. -/
def Reader.blanks : Reader Unit := fun cs =>
  some ((), Text.trimBlank cs)

/-- Takes an offset from UTC in minutes: `Z`, or a sign, hours and minutes, less than a day. -/
def Reader.offset : Reader Int := do
  let sign ← one fun c => c == 'Z' || c == 'z' || c == '+' || c == '-' || c == '\u2212'
  if sign == 'Z' || sign == 'z' then return 0
  let hours ← fixed 2
  char ':'
  let minutes ← fixed 2
  if 59 < minutes ∨ 23 < hours then failure
  let total : Int := (hours * 60 + minutes : Nat)
  return if sign == '+' then total else -total

/-- Takes a year: four digits at most, or a sign and any number of them. -/
def Reader.year : Reader Int
  | '-' :: cs => do
    let (n, rest) ← number cs.length cs
    some (-(n : Int), rest)
  | '+' :: cs => do
    let (n, rest) ← number cs.length cs
    some ((n : Int), rest)
  | cs => do
    let (n, rest) ← number 4 cs
    some ((n : Int), rest)

/-- A date and a time of day, then an offset. -/
def Reader.offsetTimestamp : Reader Timestamp := do
  let year ← fixed 4
  char '-'
  let month ← fixed 2
  char '-'
  let day ← fixed 2
  let _ ← one fun c => c == 'T' || c == 't' || c == ' '
  let hour ← fixed 2
  char ':'
  let minute ← fixed 2
  char ':'
  let second ← fixed 2
  let nanos ← fraction
  let offset ← offset
  done
  let clock ← StateT.lift (Timestamp.ofClock? ⟨year, month, day⟩ hour minute second nanos)
  return clock.earlier offset

/-- Years that a plain timestamp may have. -/
def isPlainYear (year : Int) : Bool :=
  -262143 ≤ year && year ≤ 262142

/-- A number of at most two digits, behind any white space. -/
def Reader.field : Reader Nat := do
  blanks
  number 2

/-- A date and a time of day, white space anywhere before a number. -/
def Reader.plainTimestamp : Reader Timestamp := do
  blanks
  let year ← year
  char '-'
  let month ← field
  char '-'
  let day ← field
  blanks
  let hour ← field
  char ':'
  let minute ← field
  char ':'
  let second ← field
  let nanos ← fraction
  done
  if !isPlainYear year then failure
  StateT.lift (Timestamp.ofClock? ⟨year, month, day⟩ hour minute second nanos)

end Time

namespace Timestamp

/-- Reads a timestamp with an offset from UTC (`parse_from_rfc3339`). -/
def ofOffsetText? (text : String) : Option Timestamp :=
  (Time.Reader.offsetTimestamp.run text.toList).map Prod.fst

/-- Reads a timestamp that is meant in UTC (`parse_from_str` with `%Y-%m-%d %H:%M:%S%.f`). -/
def ofPlainText? (text : String) : Option Timestamp :=
  (Time.Reader.plainTimestamp.run text.toList).map Prod.fst

/-- Reads a timestamp of either form (`parse_timestamp`). -/
def ofText? (text : String) : Option Timestamp :=
  ofOffsetText? text <|> ofPlainText? text

end Timestamp

end SchemaEvolution
