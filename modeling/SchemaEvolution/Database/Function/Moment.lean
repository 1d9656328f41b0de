import SchemaEvolution.Database.Affinity
import SchemaEvolution.Database.Name
import SchemaEvolution.Database.Numeral
import SchemaEvolution.Number.Arithmetic
import SchemaEvolution.Time.Calendar

/-!
# Moments

A moment is known as a number of milliseconds, or as a date and a time of day; what is not known is
computed when it is asked for, and what was read stays as it was read.  So a day may run over the
end of its month, and an hour over the end of its day, until something is done about the moment.

* `Moment.ofText` reads a moment, and `Moment.modified` changes it.
* `Moment.ofArguments` is the moment that the arguments of a function give.
-/

namespace SchemaEvolution.Database

/-! ## Numbers -/

/-- The sum of two numbers of seconds. -/
def plusSeconds (x y : Binary64) : Binary64 :=
  (x.add? y).getD (.zero false)

/-- A number of seconds, so many times. -/
def timesSeconds (x y : Binary64) : Binary64 :=
  (x.mul? y).getD (.zero false)

/-- One half. -/
def oneHalf : Binary64 :=
  .ofRatio false 1 2

/-- A time of day. -/
structure TimeOfDay where
  hour : Nat
  minute : Nat
  second : Binary64

/-- The milliseconds of a time of day, rounded. -/
def TimeOfDay.millis (t : TimeOfDay) : Int :=
  ((t.hour * 60 + t.minute) * 60000 : Nat) +
    (plusSeconds (timesSeconds t.second (.ofInteger 1000)) oneHalf).truncated

/-- A moment that is being computed. -/
structure Moment where
  /-- Milliseconds since the beginning of the Julian days. -/
  julian : Option Int := none
  date : Option Time.Date := none
  time : Option TimeOfDay := none
  /-- The offset from UTC in minutes. -/
  zone : Int := 0
  /-- The number that it was given as, if nothing has been made of it yet. -/
  number : Option Binary64 := none
  /-- By how many days the day runs over the end of its month. -/
  excess : Nat := 0
  /-- Milliseconds are shown. -/
  isPrecise : Bool := false
  /-- It is known to be in UTC, or to be in local time. -/
  isUniversal : Bool := false
  isLocal : Bool := false
  /-- It is beyond all dates. -/
  isBroken : Bool := false
deriving Inhabited

/-- Something about a moment that may not be found, and whether the present counts for it. -/
abbrev Clocked (α : Type) := OptionT (StateM Bool) α

namespace Moment

/-- The milliseconds of a day. -/
def day : Int := 86400000

/-- The milliseconds from the beginning of the Julian days to 1970. -/
def julianOffset : Int := 210866760000000

/-- Milliseconds that have a date. -/
def isJulian (n : Int) : Bool :=
  0 ≤ n && n ≤ 464269060799999

/-! ## Completing -/

/-- The moment with its milliseconds. -/
def withJulian (m : Moment) : Moment :=
  let date := m.date.getD ⟨2000, 1, 1⟩
  if m.julian.isSome then m
  else if date.year < -4713 ∨ 9999 < date.year ∨ m.number.isSome then { isBroken := true }
  else
    let start := date.toDays * day + julianOffset
    match m.time with
    | none => { m with julian := some start }
    | some t =>
      let whole := start + t.millis
      if m.zone = 0 then { m with julian := some whole }
      else
        { m with
          julian := some (whole - m.zone * 60000), date := none, time := none, zone := 0
          isUniversal := true, isLocal := false }

/-- The milliseconds of a moment. -/
def millis (m : Moment) : Int :=
  m.withJulian.julian.getD 0

/-- The moment with its date. -/
def withDate (m : Moment) : Moment :=
  match m.date, m.julian with
  | some _, _ => m
  | none, none => { m with date := some ⟨2000, 1, 1⟩ }
  | none, some n =>
    if isJulian n then { m with date := some (.ofDays ((n - julianOffset) / day)) }
    else { isBroken := true }

/-- The time of day behind milliseconds. -/
def timeOf (n : Int) : TimeOfDay :=
  let rest := ((n + day / 2) % day).toNat
  ⟨rest / 3600000, rest / 60000 % 60, .ofRatio false (rest % 60000) 1000⟩

/-- The moment with its time of day. -/
def withTime (m : Moment) : Moment :=
  if m.time.isSome then m
  else
    let m := m.withJulian
    { m with time := some (timeOf (m.julian.getD 0)), number := none }

/-- The moment with its date and time of day. -/
def complete (m : Moment) : Moment :=
  m.withDate.withTime

/-- The date of a moment. -/
def dateOf (m : Moment) : Time.Date :=
  m.withDate.date.getD ⟨2000, 1, 1⟩

/-- The time of day of a moment. -/
def timeOfDay (m : Moment) : TimeOfDay :=
  m.withTime.time.getD ⟨0, 0, .zero false⟩

/-- The moment of which only the milliseconds are known. -/
def bare (m : Moment) : Moment :=
  { m with date := none, time := none, zone := 0 }

/-- The moment so many milliseconds later. -/
def later (m : Moment) (n : Int) : Moment :=
  { m with julian := m.julian.map (· + n) }

/-- By how many days a day runs over the end of its month. -/
def excessOf (d : Time.Date) : Nat :=
  d.day - Time.daysInMonth d.year d.month

/-! ## Reading -/

/-- A number of so many digits at the front, within bounds. -/
def number? (width low high : Nat) (cs : List Char) : Option (Nat × List Char) :=
  let ds := cs.take width
  let n := valueOfDigits ds
  if ds.length = width ∧ ds.all Char.isDigit ∧ low ≤ n ∧ n ≤ high then some (n, cs.drop width)
  else none

/-- A given character at the front. -/
def sign? (c : Char) : List Char → Option (List Char)
  | d :: cs => if c == d then some cs else none
  | [] => none

/-- The greatest number that can stand for a year. -/
def greatestYear : Nat := 14712

/-- A moment with an offset from UTC, behind blanks; nothing may follow it. -/
def withZone? (m : Moment) (cs : List Char) : Option Moment :=
  match cs.dropWhile Token.isSpace with
  | [] => some { m with zone := 0 }
  | c :: cs =>
    if c == 'Z' || c == 'z' then do
      guard (cs.dropWhile Token.isSpace).isEmpty
      return { m with zone := 0, isUniversal := true, isLocal := false }
    else if c == '+' || c == '-' then do
      let (hours, cs) ← number? 2 0 14 cs
      let cs ← sign? ':' cs
      let (minutes, cs) ← number? 2 0 59 cs
      guard (cs.dropWhile Token.isSpace).isEmpty
      let total : Int := (60 * hours + minutes : Nat)
      return { m with zone := if c == '+' then total else -total }
    else none

/-- A fraction of a second, with what follows it. -/
def fraction (cs : List Char) : Binary64 × List Char :=
  match cs with
  | '.' :: rest =>
    let ds := rest.takeWhile Char.isDigit
    if ds.isEmpty then (.zero false, cs)
    else (.ofRatio false (valueOfDigits ds) (tenTo ds.length), rest.drop ds.length)
  | cs => (.zero false, cs)

/-- A moment with a time of day, perhaps with an offset from UTC behind it. -/
def withTime? (m : Moment) (cs : List Char) : Option Moment := do
  let (hour, cs) ← number? 2 0 24 cs
  let cs ← sign? ':' cs
  let (minute, cs) ← number? 2 0 59 cs
  let (second, part, cs) ←
    match cs with
    | ':' :: cs => do
      let (second, cs) ← number? 2 0 59 cs
      let (part, cs) := fraction cs
      pure (second, part, cs)
    | cs => pure (0, .zero false, cs)
  let t : TimeOfDay := ⟨hour, minute, plusSeconds (.ofInteger second) part⟩
  withZone? { m with julian := none, number := none, time := some t } cs

/-- A date, perhaps with a time of day behind it. -/
def ofDate? (cs : List Char) : Option Moment := do
  let (isNegative, cs) := match cs with
    | '-' :: cs => (true, cs)
    | cs => (false, cs)
  let (year, cs) ← number? 4 0 greatestYear cs
  let cs ← sign? '-' cs
  let (month, cs) ← number? 2 1 12 cs
  let cs ← sign? '-' cs
  let (dayOfMonth, cs) ← number? 2 1 31 cs
  let date : Time.Date := ⟨if isNegative then -(year : Int) else year, month, dayOfMonth⟩
  let rest := cs.dropWhile fun c => Token.isSpace c || c == 'T'
  let m ← withTime? {} rest <|> if rest.isEmpty then some {} else none
  let m := { m with julian := none, date := some date, excess := excessOf date }
  return if m.zone = 0 then m else m.withJulian

/-- A number is not below the first bound, and below the second one. -/
def isWithin (x : Binary64) (low high : Int × Nat) : Bool :=
  !x.isNaN && (Cell.compareRatios low x.ratio).isLE && Cell.compareRatios x.ratio high == .lt

/-- The moment that a number gives, which is one of Julian days as far as they go. -/
def ofNumber (x : Binary64) : Moment where
  julian :=
    if isWithin x (0, 1) (10746969, 2) then
      some (plusSeconds (timesSeconds x (.ofInteger day)) oneHalf).truncated
    else none
  number := some x

/-- The present. -/
def present (now : Int) : Clocked Moment := do
  set true
  return { julian := some (now + julianOffset), isUniversal := true }

/-- The moment that a text gives. -/
def ofText (now : Int) (cs : List Char) : Clocked Moment := do
  let word := foldName (String.ofList cs)
  match ofDate? cs <|> withTime? {} cs, numericText? cs with
  | some m, _ => return m
  | none, some c => return ofNumber c.double
  | none, none =>
    if word == "now" then present now
    else if word == "subsec" || word == "subsecond" then
      return { ← present now with isPrecise := true }
    else failure

/-! ## Modifiers -/

/-- A year and month brought into the range of the months. -/
def normal (year month : Int) : Int × Nat :=
  (year + (month - 1) / 12, ((month - 1) % 12 + 1).toNat)

/-- The moment so many months later, at the same day of the month, which may run over its end. -/
def addMonths (m : Moment) (months : Int) : Moment :=
  let m := m.complete
  let d := m.dateOf
  let (year, month) := normal d.year (d.month + months)
  let date : Time.Date := ⟨year, month, d.day⟩
  { m with date := some date, excess := excessOf date, julian := none }

/-- The units of modifiers, with their milliseconds, how many months they are, and a number that is
too great for them. -/
def units : List (String × Int × Int × Int) :=
  [("second", 1000, 0, 464270000000000), ("minute", 60000, 0, 7737900000000),
    ("hour", 3600000, 0, 128970000000), ("day", day, 0, 5373485),
    ("month", 30 * day, 1, 176546), ("year", 365 * day, 12, 14713)]

/-- The moment so many units later. -/
def addUnits (m : Moment) (x : Binary64) (millis months : Int) : Moment :=
  let sign : Binary64 := if (Cell.compareRatios x.ratio (0, 1)) == .lt then oneHalf.negated
    else oneHalf
  let whole := x.truncated
  let (m, rest) := if months = 0 then (m, x)
    else (addMonths m.withJulian (whole * months), plusSeconds x (.ofInteger (-whole)))
  let size := timesSeconds (timesSeconds rest (.ofInteger 1000)) (.ofInteger (millis / 1000))
  ({ m with excess := if months = 0 then 0 else m.excess }.withJulian.later
    (plusSeconds size sign).truncated).bare

/-- The moment later or earlier by a time of day. -/
def shiftByTime? (m : Moment) (negative : Bool) (cs : List Char) : Option Moment := do
  let t ← withTime? {} cs
  let size := (t.millis - day / 2) % day
  return (m.withJulian.bare).later (if negative then -size else size)

/-- The moment later or earlier by years, months and days, and perhaps by a time of day. -/
def shiftByDate? (m : Moment) (negative : Bool) (width : Nat) (cs : List Char) :
    Option Moment := do
  let (years, cs) ← number? width 0 greatestYear cs
  let cs ← sign? '-' cs
  let (months, cs) ← number? 2 0 11 cs
  let cs ← sign? '-' cs
  let (days, cs) ← number? 2 0 30 cs
  let signed (n : Int) : Int := if negative then -n else n
  let moved := (m.addMonths (signed (12 * years + months : Nat))).withJulian
  let moved := { moved with date := none, time := none }.later (signed (days * day))
  match cs with
  | [] => return moved
  | c :: cs =>
    guard (Token.isSpace c)
    shiftByTime? moved negative cs

/-- The moment later or earlier by a number of units, or by a date or time of day. -/
def shifted? (m : Moment) (cs : List Char) : Option Moment := do
  let sign := cs.head?
  let hasSign := sign == some '+' || sign == some '-'
  let isNegative := sign == some '-'
  let unsigned := if hasSign then cs.tail else cs
  let byDate (width : Nat) : Bool :=
    hasSign && (number? width 0 greatestYear unsigned).any fun (_, rest) => rest.head? == some '-'
  if byDate 4 then shiftByDate? m isNegative 4 unsigned
  else if byDate 5 then shiftByDate? m isNegative 5 unsigned
  else
    let front := cs.take 1 ++ (cs.drop 1).takeWhile fun c => c != ':' && !Token.isSpace c
    let rest := cs.drop front.length
    let x ← numericText? front
    if rest.head? == some ':' then shiftByTime? m isNegative unsigned
    else
      let word := foldName (String.ofList (rest.dropWhile Token.isSpace))
      let (_, millis, months, limit) ←
        units.find? fun (unit, _) => word == unit || word == unit ++ "s"
      guard (isWithin x.double (1 - limit, 1) (limit, 1) ||
        isWithin x.double.negated (1 - limit, 1) (limit, 1))
      return addUnits m x.double millis months

/-- The moment on the next day that is a given day of the week. -/
def onWeekday (m : Moment) (weekday : Int) : Moment :=
  let m := { m.complete with zone := 0, julian := none }.withJulian
  let own := (m.millis + 3 * day / 2) / day % 7
  (m.later ((weekday + 7 - own) % 7 * day)).bare

/-- The moment of a number of seconds since 1970. -/
def ofSeconds (m : Moment) (x : Binary64) : Moment :=
  let n := plusSeconds (timesSeconds x (.ofInteger 1000)) (.ofInteger julianOffset)
  { m.bare with julian := some (plusSeconds n oneHalf).truncated, number := none }

/-- The moment at the beginning of its day, month or year. -/
def startOf? (m : Moment) (word : String) : Option Moment := do
  guard (m.julian.isSome || m.date.isSome || m.time.isSome)
  let m := m.withDate
  let d := m.dateOf
  let date : Time.Date ← match word with
    | "day" => some d
    | "month" => some { d with day := 1 }
    | "year" => some { d with month := 1, day := 1 }
    | _ => none
  return { m with
    date := some date, time := some ⟨0, 0, .zero false⟩, number := none, zone := 0
    julian := none }

/-- The moment in local time, which is UTC. -/
def inLocalTime (m : Moment) : Moment :=
  if m.isLocal then { m with isUniversal := false }
  else
    let n := m.millis
    let whole := timeOf (n / 1000 * 1000)
    let part := timesSeconds (.ofInteger (n % 1000)) (.ofRatio false 1 1000)
    { m.withJulian with
      julian := none, date := some (.ofDays ((n - julianOffset) / day))
      time := some { whole with second := plusSeconds whole.second part }
      number := none, zone := 0, isUniversal := false, isLocal := true }

/-- The moment in UTC, where local time is UTC. -/
def inUniversalTime (m : Moment) : Moment :=
  if m.isUniversal then m
  else { julian := m.withJulian.julian, isUniversal := true, isBroken := m.withJulian.isBroken }

/-- The moment that the number of a moment gives as seconds or Julian days, whichever suits. -/
def automatic (m : Moment) : Moment :=
  match m.number, m.julian with
  | some x, none =>
    let isBeyond := Cell.compareRatios (253402300799, 1) x.ratio == .lt
    if isWithin x (-210866760000, 1) (253402300800, 1) && !isBeyond then m.ofSeconds x else m
  | _, _ => { m with number := none }

/-- A text behind another one, whatever the case of its letters. -/
def behind? (front : String) (cs : List Char) : Option (List Char) :=
  if sameName front (String.ofList (cs.take front.length)) then some (cs.drop front.length)
  else none

/-- The moment with a modifier. -/
def modified (m : Moment) (isFirst : Bool) (cs : List Char) : Clocked Moment := do
  match foldName (String.ofList cs) with
  | "auto" => if isFirst then return m.automatic else failure
  | "ceiling" => return { m.withJulian.bare with excess := 0 }
  | "floor" => return (m.withJulian.later (-(m.excess * day))).bare
  | "julianday" =>
    if isFirst && m.julian.isSome && m.number.isSome then return { m with number := none }
    else failure
  | "localtime" =>
    set true
    return m.inLocalTime
  | "utc" =>
    set true
    return m.inUniversalTime
  | "unixepoch" =>
    match m.number with
    | some x =>
      if isFirst && isWithin x (-210866760000, 1) (253402300800, 1) then return m.ofSeconds x
      else failure
    | none => failure
  | "subsec" | "subsecond" => return { m with isPrecise := true }
  | folded =>
    match behind? "start of " cs, behind? "weekday " cs with
    | some _, _ => OptionT.mk (pure (m.startOf? (String.ofList (folded.toList.drop 9))))
    | none, some rest =>
      let x : Binary64 := ((numericText? rest).map fun c : Cell => c.double).getD (.ofInteger 7)
      let n := x.truncated
      if isWithin x (0, 1) (7, 1) && Cell.compareRatios x.ratio (n, 1) == .eq then
        return m.onWeekday n
      else failure
    | none, none =>
      let startsShift := cs.head?.any fun c => c == '+' || c == '-' || c.isDigit
      if startsShift then OptionT.mk (pure (m.shifted? cs)) else failure

/-- The moment that the arguments of a function give.  A day alone that runs over the end of its
month stands for one in the next month. -/
def ofArguments (now : Int) (arguments : List Cell) : Clocked Moment := do
  let first ←
    match arguments with
    | [] => present now
    | .null :: _ => failure
    | c@(.integer _) :: _ | c@(.real _) :: _ => pure (ofNumber c.double)
    | c :: _ => ofText now c.characters
  let m ← (arguments.drop 1).zipIdx.foldlM (fun m (c, i) => do
    if c.isNull then failure
    modified m (i == 0) (if c.isNumber then c.string.toList else c.characters)) first
  let m := m.withJulian
  if m.isBroken || !isJulian (m.julian.getD 0) then failure
  if arguments.length = 1 && m.date.any (28 < ·.day) then return { m with date := none }
  return m

end Moment

end SchemaEvolution.Database
