import SchemaEvolution.Database.Function.Scalar

/-!
# Functions of several rows

The aggregate functions give one cell for some rows of arguments.  A sum of real numbers keeps what
the additions lose beside it (`Sum`), so that it is more exact than a plain sum.
-/

namespace SchemaEvolution.Database

namespace AggregateFunction

/-! ## Sums -/

/-- A sum of real numbers with what the additions lost. -/
structure Sum where
  total : Binary64
  lost : Binary64 := .zero false

namespace Sum

/-- The sum of two doubles, which may be no number. -/
def plus (x y : Binary64) : Binary64 :=
  (x.add? y).getD ⟨0x7FF8000000000000⟩

/-- The size of a double. -/
def size (x : Binary64) : Binary64 :=
  if x.isNegative then x.negated else x

/-- The first double is greater than the second. -/
def exceeds (x y : Binary64) : Bool :=
  Cell.compareRatios x.ratio y.ratio == .gt

/-- The sum with a further number. -/
def add (s : Sum) (x : Binary64) : Sum :=
  let total := plus s.total x
  let loss :=
    if exceeds (size s.total) (size x) then plus (plus s.total total.negated) x
    else plus (plus x total.negated) s.total
  ⟨total, plus s.lost loss⟩

/-- An integer in two parts, each of which is a double. -/
def parts (n : Int) : Binary64 × Binary64 :=
  if n.natAbs < twoTo 52 then (.ofInteger n, .zero false)
  else (.ofInteger (n - n.tmod 16384), .ofInteger (n.tmod 16384))

/-- The sum that begins with an integer. -/
def ofInt (n : Int) : Sum :=
  let (big, small) := parts n
  ⟨big, small⟩

/-- The sum with a further integer. -/
def addInt (s : Sum) (n : Int) : Sum :=
  let (big, small) := parts n
  if n.natAbs < twoTo 52 then s.add big else (s.add big).add small

/-- The sum as one number. -/
def result (s : Sum) : Binary64 :=
  if s.lost.isFinite then plus s.total s.lost else s.total

end Sum

/-- A sum as long as it is one of integers, and how it goes on.  That integers overflow is forgotten
when a real number is added. -/
inductive Total where
  | exact (n : Int)
  | approximate (s : Sum) (overflows : Bool)

namespace Total

/-- The total with a further number. -/
def add (t : Total) (c : Cell) : Total :=
  match t, c with
  | exact n, .integer m =>
    let r := n + m.toInt
    if isInt64 r then exact r
    else approximate ((Sum.ofInt n).addInt m.toInt) true
  | exact n, c => approximate ((Sum.ofInt n).add c.double) false
  | approximate s o, .integer m => approximate (s.addInt m.toInt) o
  | approximate s _, c => approximate (s.add c.double) false

/-- The total of cells. -/
def of (cells : List Cell) : Total :=
  (cells.map (·.numeric)).foldl add (exact 0)

/-- The total without a number that was part of it. -/
def remove (t : Total) (c : Cell) : Total :=
  match t, c with
  | exact n, .integer m => exact (n - m.toInt)
  | exact n, c => approximate ((Sum.ofInt n).add c.double.negated) false
  | approximate s o, .integer m => approximate (s.addInt (-m.toInt)) o
  | approximate s o, c => approximate (s.add c.double.negated) o

/-- The total as a real number. -/
def double : Total → Binary64
  | exact n => .ofInteger n
  | approximate s _ => s.result

end Total

end AggregateFunction

/-- A function that gives one cell for some rows of arguments. -/
structure AggregateFunction where
  name : String
  /-- The least and the greatest number of arguments. -/
  least : Nat
  most : Nat
  run : Collation → List (List Cell) → Except Fault Cell
  /-- The argument that is written as a part of a document before it counts. -/
  written : Option Nat := none
  /-- What it gives for a total and the number of its cells, if it is made of that. -/
  ofTotal : Option (AggregateFunction.Total → Nat → Except Fault Cell) := none
  /-- The result is known to hold a document. -/
  givesDocument : Bool := false

namespace AggregateFunction

/-! ## Functions -/

/-- The cells of the first argument that are something. -/
def present (rows : List (List Cell)) : List Cell :=
  (rows.map fun row => row.headD .null).filter (!·.isNull)

/-- The sum, and nothing of nothing. -/
def sum (total : Total) (count : Nat) : Except Fault Cell :=
  if count = 0 then .ok .null
  else
    match total with
    | .exact n => .ok (.ofInt n)
    | .approximate _ true => .error (.functionFault "integer overflow")
    | .approximate s false => .ok (.ofReal (some s.result))

/-- The mean, and nothing of nothing. -/
def mean (total : Total) (count : Nat) : Cell :=
  if count = 0 then .null
  else .ofReal (total.double.div? (.ofInteger count))

/-- Texts one behind the other, each but the first behind its separator. -/
def chain (rows : List (List Cell)) : Cell :=
  match rows.filter fun row => !(row.headD .null).isNull with
  | [] => .null
  | first :: rest =>
    .ofBytes ((text first :: rest.map fun row => separator row ++ text row).flatten)
where
  /-- The text of a row of arguments. -/
  text (row : List Cell) : List UInt8 := ScalarFunction.whole (row.headD .null)
  /-- The separator of a row of arguments: the second one. -/
  separator (row : List Cell) : List UInt8 :=
    match row with
    | _ :: c :: _ => ScalarFunction.whole c
    | _ => ",".toUTF8.toList

/-- A function that needs only the total of its cells and their number. -/
def ofTotals (name : String) (give : Total → Nat → Except Fault Cell) : AggregateFunction where
  name := name
  least := 1
  most := 1
  run := fun _ rows => give (Total.of (present rows)) (present rows).length
  ofTotal := some give

/-- The first or last of cells in their order, and the earliest of equal ones; nothing of nothing.
-/
def extreme (name : String) (wanted : Ordering) : AggregateFunction where
  name := name
  least := 1
  most := 1
  run := fun c rows =>
    match present rows with
    | [] => .ok .null
    | first :: rest =>
      .ok (rest.foldl (fun best cell => if cell.compare c best = wanted then cell else best) first)

/-- The aggregate functions. -/
def all : List AggregateFunction := [
  { name := "count", least := 0, most := 0, run := fun _ rows => .ok (.ofNat rows.length) },
  { name := "count", least := 1, most := 1,
    run := fun _ rows => .ok (.ofNat (present rows).length) },
  ofTotals "sum" sum,
  ofTotals "total" fun total _ => .ok (.ofReal (some total.double)),
  ofTotals "avg" fun total count => .ok (mean total count),
  extreme "min" .lt,
  extreme "max" .gt,
  { name := "group_concat", least := 1, most := 2,
    run := fun _ rows => .ok (chain rows) },
  { name := "string_agg", least := 2, most := 2,
    run := fun _ rows => .ok (chain rows) }]

end AggregateFunction

end SchemaEvolution.Database
