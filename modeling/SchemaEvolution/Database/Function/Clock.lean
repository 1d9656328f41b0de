import SchemaEvolution.Database.Function.Moment
import SchemaEvolution.Database.Function.Scalar

/-!
# Functions of dates and times

Each of these functions reads a moment from its arguments and writes it in a form of its own.  One
that looks at the present does not give the same for the same arguments.

* `Clock.formatted`: a moment in a form with directives.
* `Clock.all`: the list of functions.
-/

namespace SchemaEvolution.Database.Clock

/-! ## Numbers -/

/-- A number with zeros before it, where a sign counts for the width. -/
def filled (width : Nat) (n : Int) : List Char :=
  if n < 0 then '-' :: fixedWidth (width - 1) n.natAbs else fixedWidth width n.toNat

/-- A number with a blank before it if it has one digit. -/
def blankFilled (n : Nat) : List Char :=
  if n < 10 then ' ' :: digits n else digits n

/-- A year of four digits, before which a minus sign may stand. -/
def yearDigits (year : Int) : List Char :=
  let ds := fixedWidth 4 (year.natAbs % 10000)
  if year < 0 then '-' :: ds else ds

/-- A size with three places behind the point. -/
def thousandths (x : Binary64) : List Char :=
  ({ style := .fixed, precision := 3 } : RealLayout).size x

/-- Seconds with three places behind the point, and two digits before it. -/
def secondsText (x : Binary64) : List Char :=
  let cs := thousandths x
  List.replicate (6 - cs.length) '0' ++ cs

/-! ## Parts of moments -/

/-- The day of the week, counted from Sunday. -/
def fromSunday (m : Moment) : Nat :=
  ((m.millis + 3 * Moment.day / 2) / Moment.day % 7).toNat

/-- The day of the week, counted from Monday. -/
def fromMonday (m : Moment) : Nat :=
  ((m.millis + Moment.day / 2) / Moment.day % 7).toNat

/-- The day of the year, counted from zero. -/
def dayOfYear (m : Moment) : Nat :=
  let newYear (d : Time.Date) : Time.Date := { d with month := 1, day := 1 }
  let first : Moment := { m with date := m.date.map newYear, julian := none, number := none }
  ((m.millis - first.millis + Moment.day / 2) / Moment.day).toNat

/-- The moment on the Thursday of the same week, which begins on Monday. -/
def thursday (m : Moment) : Moment :=
  let dateless : Moment := { m with date := none }
  (dateless.later ((3 - (fromMonday m : Int)) * Moment.day)).withDate

/-- The seconds of a moment since 1970. -/
def unixSeconds (m : Moment) : Binary64 :=
  .ofSigned (m.millis - Moment.julianOffset) 1000

/-- The Julian day of a moment. -/
def julianDay (m : Moment) : Binary64 :=
  .ofSigned m.millis Moment.day.toNat

/-- The hour of a clock with twelve hours. -/
def shortHour (hour : Nat) : Nat :=
  let hour := if 12 < hour then hour - 12 else hour
  if hour = 0 then 12 else hour

/-- The whole second of a time of day. -/
def wholeSecond (t : TimeOfDay) : Nat :=
  t.second.truncated.toNat

/-! ## Writing -/

/-- A date. -/
def dateText (m : Moment) : List Char :=
  let d := m.dateOf
  yearDigits d.year ++ '-' :: fixedWidth 2 d.month ++ '-' :: fixedWidth 2 d.day

/-- A time of day without the parts of a second. -/
def shortTime (t : TimeOfDay) : List Char :=
  fixedWidth 2 t.hour ++ ':' :: fixedWidth 2 t.minute ++ ':' :: fixedWidth 2 (wholeSecond t)

/-- A time of day. -/
def timeText (m : Moment) : List Char :=
  let t := m.timeOfDay
  let millis := (timesSeconds (.ofInteger 1000) t.second).truncated.toNat
  shortTime t ++ if m.isPrecise then '.' :: fixedWidth 3 (millis % 1000) else []

/-- The seconds since 1970. -/
def unixTime (m : Moment) : Cell :=
  if m.isPrecise then .real (unixSeconds m)
  else .ofInt ((m.millis - Moment.julianOffset) / 1000)

/-- What a directive gives for a moment whose parts are all known. -/
def directive? (m : Moment) (c : Char) : Option (List Char) :=
  let d := m.dateOf
  let t := m.timeOfDay
  let longest : Binary64 := .ofRatio false 59999 1000
  match c with
  | 'd' => some (fixedWidth 2 d.day)
  | 'e' => some (blankFilled d.day)
  | 'f' =>
    let isLong := Cell.compareRatios longest.ratio t.second.ratio == .lt
    some (secondsText (if isLong then longest else t.second))
  | 'F' => some (filled 4 d.year ++ '-' :: fixedWidth 2 d.month ++ '-' :: fixedWidth 2 d.day)
  | 'G' => some (filled 4 (thursday m).dateOf.year)
  | 'g' => some (filled 2 ((thursday m).dateOf.year.tmod 100))
  | 'H' => some (fixedWidth 2 t.hour)
  | 'k' => some (blankFilled t.hour)
  | 'I' => some (fixedWidth 2 (shortHour t.hour))
  | 'l' => some (blankFilled (shortHour t.hour))
  | 'j' => some (fixedWidth 3 (dayOfYear m + 1))
  | 'J' => some (({ style := .general, precision := 16 } : RealLayout).size (julianDay m))
  | 'm' => some (fixedWidth 2 d.month)
  | 'M' => some (fixedWidth 2 t.minute)
  | 'p' => some (if 12 ≤ t.hour then ['P', 'M'] else ['A', 'M'])
  | 'P' => some (if 12 ≤ t.hour then ['p', 'm'] else ['a', 'm'])
  | 'R' => some (fixedWidth 2 t.hour ++ ':' :: fixedWidth 2 t.minute)
  | 's' =>
    let x := unixSeconds m
    if m.isPrecise then some ((if x.isNegative then ['-'] else []) ++ thousandths x)
    else some (signedDigits ((m.millis - Moment.julianOffset) / 1000))
  | 'S' => some (fixedWidth 2 (wholeSecond t))
  | 'T' => some (shortTime t)
  | 'u' => some (digits (if fromSunday m = 0 then 7 else fromSunday m))
  | 'w' => some (digits (fromSunday m))
  | 'U' => some (fixedWidth 2 ((dayOfYear m + 7 - fromSunday m) / 7))
  | 'W' => some (fixedWidth 2 ((dayOfYear m + 7 - fromMonday m) / 7))
  | 'V' => some (fixedWidth 2 (dayOfYear (thursday m) / 7 + 1))
  | 'Y' => some (filled 4 d.year)
  | '%' => some ['%']
  | _ => none

/-- A moment in a form with directives; one that is not known spoils all. -/
def formatted (m : Moment) : List Char → Option (List Char)
  | [] => some []
  | '%' :: c :: cs => do
    let shown ← directive? m c
    return shown ++ (← formatted m cs)
  | ['%'] => none
  | c :: cs => do return c :: (← formatted m cs)

/-- The current date, time, or both. -/
def current (word : String) (now : Int) : String :=
  let m : Moment := { julian := some (now + Moment.julianOffset) }
  String.ofList <|
    match word with
    | "CURRENT_DATE" => dateText m
    | "CURRENT_TIME" => timeText m
    | _ => dateText m ++ ' ' :: timeText m

/-! ## Differences -/

/-- The moment in another year and month. -/
def inMonth (m : Moment) (year : Int) (month : Nat) : Moment :=
  { m with date := some ⟨year, month, m.dateOf.day⟩, julian := none }.withJulian

/-- Moves a moment month by month until it is not beyond another, and counts the months. -/
def approached (isBeyond : Moment → Bool) (direction : Int) :
    (tries : Nat) → Moment → Nat × Moment
  | 0, m => (0, m)
  | tries + 1, m =>
    if isBeyond m then
      let (year, month) := Moment.normal m.dateOf.year (m.dateOf.month + direction)
      let (count, m) := approached isBeyond direction tries (inMonth m year month)
      (count + 1, m)
    else (0, m)

/-- The time from the second moment to the first, in years, months, days and a time of day. -/
def difference (a b : Moment) : List Char :=
  let a := a.complete
  let b := b.complete
  let isForward := decide (b.millis ≤ a.millis)
  let (early, late) := if isForward then (b.dateOf, a.dateOf) else (a.dateOf, b.dateOf)
  let months : Int := (late.year * 12 + late.month) - (early.year * 12 + early.month)
  let start :=
    if b.dateOf.year = a.dateOf.year && b.dateOf.month = a.dateOf.month then b
    else inMonth b a.dateOf.year a.dateOf.month
  let isBeyond (m : Moment) : Bool :=
    if isForward then decide (a.millis < m.millis) else decide (m.millis < a.millis)
  let (count, near) := approached isBeyond (if isForward then -1 else 1) 3 start
  let months := (months - count).toNat
  let rest : Moment := { julian := some ((a.millis - near.millis).natAbs + 148699540800000) }
  let t := rest.timeOfDay
  (if isForward then '+' else '-') :: fixedWidth 4 (months / 12) ++
    '-' :: fixedWidth 2 (months % 12) ++ '-' :: fixedWidth 2 (rest.dateOf.day - 1) ++
    ' ' :: fixedWidth 2 t.hour ++ ':' :: fixedWidth 2 t.minute ++ ':' :: secondsText t.second

/-! ## The list of functions -/

/-- The moment that the arguments of a function give. -/
def moment? (now : Int) (arguments : List Cell) : Option Moment :=
  ((Moment.ofArguments now arguments).run false).1

/-- The present counts for what some arguments give. -/
def usesClock (arguments : List Cell) : Bool :=
  ((Moment.ofArguments 0 arguments).run false).2

/-- A function of a moment. -/
def ofMoment (name : String) (run : Moment → Cell) : ScalarFunction where
  name := name
  least := 0
  most := none
  usesClock := usesClock
  run := fun db _ cells => .ok (((moment? db.now cells).map run).getD .null)

/-- The functions of dates and times. -/
def all : List ScalarFunction := [
  ofMoment "date" fun m => .text (String.ofList (dateText m)),
  ofMoment "time" fun m => .text (String.ofList (timeText m)),
  ofMoment "datetime" fun m => .text (String.ofList (dateText m ++ ' ' :: timeText m)),
  ofMoment "julianday" fun m => .real (julianDay m),
  ofMoment "unixepoch" unixTime,
  { name := "timediff", least := 2, most := some 2
    usesClock := fun cells =>
      let first := cells.take 1
      usesClock first || (moment? 0 first).isSome && usesClock (cells.drop 1)
    run := fun db _ cells => .ok <|
      match cells.mapM fun c => moment? db.now [c] with
      | some [a, b] => .text (String.ofList (difference a b))
      | _ => .null },
  { name := "strftime", least := 0, most := none
    usesClock := fun cells => cells.head?.any (!·.isNull) && usesClock (cells.drop 1)
    run := fun db _ cells =>
      match cells with
      | c :: cells =>
        if c.isNull then .ok .null
        else .ok <|
          let format := c.string.toList.takeWhile (· != '\x00')
          match (moment? db.now cells).bind fun m => formatted m.complete format with
          | some shown => .text (String.ofList shown)
          | none => .null
      | [] => .ok .null }]

end SchemaEvolution.Database.Clock
