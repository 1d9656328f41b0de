import SchemaEvolution.Database.Cell
import SchemaEvolution.Database.Token
import SchemaEvolution.Number.Extended

/-!
# Numerals

A `Numeral` is a number as it is written: digits, at most one point, and an exponent.  It is read
from a token without a sign, or from the front of any text, behind white space and a sign.

* `Numeral.cell`: a whole numeral is an integer if it fits, and any other is a real number.
* `numericText?`: the number that a text is as a whole.
* `numericFront`: the number at the front of a text, and zero if there is none.
* `numberToken`: the number that a token of a statement writes, which may be hexadecimal.
-/

namespace SchemaEvolution.Database

/-- A number in writing: the digits before and behind the point, and the exponent. -/
structure Numeral where
  negative : Bool
  whole : List Char
  places : List Char
  exponent : Int
  /-- It has neither a point nor an exponent. -/
  isWhole : Bool
deriving DecidableEq

namespace Numeral

/-- The exponent that an exponent part writes; beyond ten thousand its size does not matter. -/
def exponentOf (part : List Char) : Int :=
  match part.drop 1 with
  | '-' :: ds => -(min (valueOfDigits ds) 10000 : Nat)
  | '+' :: ds | ds => (min (valueOfDigits ds) 10000 : Nat)

/-- The numeral that a number token writes, under a sign. -/
def ofToken (negative : Bool) (cs : List Char) : Numeral :=
  let whole := cs.takeWhile Char.isDigit
  let point := (cs.drop whole.length).takeWhile (· == '.')
  let places := (cs.drop (whole.length + point.length)).takeWhile Char.isDigit
  let rest := cs.drop (whole.length + point.length + places.length)
  { negative := negative
    whole := whole
    places := places
    exponent := exponentOf rest
    isWhole := point.isEmpty && rest.isEmpty }

/-- A coefficient from here on takes no further digit. -/
def fullCoefficient : Nat :=
  (twoTo 64 - 1 - 9) / 10

/-- Appends digits before the point to a coefficient until it is full, and counts those left. -/
def appendWhole : (coefficient : Nat) → List Char → Nat × Nat
  | coefficient, [] => (coefficient, 0)
  | coefficient, c :: cs =>
    let coefficient := coefficient * 10 + (c.toNat - '0'.toNat)
    if fullCoefficient ≤ coefficient then (coefficient, cs.length)
    else appendWhole coefficient cs

/-- Appends digits behind the point to a coefficient until it is full, and counts those. -/
def appendPlaces : (coefficient : Nat) → List Char → Nat × Nat
  | coefficient, [] => (coefficient, 0)
  | coefficient, c :: cs =>
    if fullCoefficient ≤ coefficient then (coefficient, 0)
    else
      let (coefficient, n) := appendPlaces (coefficient * 10 + (c.toNat - '0'.toNat)) cs
      (coefficient, n + 1)

/-- The numeral as a decimal; digits beyond sixty-four bits are left out. -/
def decimal (n : Numeral) : Decimal :=
  let (coefficient, more) := appendWhole 0 n.whole
  let (coefficient, places) := appendPlaces coefficient n.places
  ⟨coefficient, n.exponent + more - places⟩

/-- The double that the numeral stands for. -/
def double (n : Numeral) : Binary64 :=
  Extended.double n.negative n.decimal

/-- A whole numeral as an integer. -/
def wholeValue (n : Numeral) : Int :=
  if n.negative then -(valueOfDigits n.whole) else valueOfDigits n.whole

/-- The number: an integer if the numeral is whole and fits, and a real number otherwise. -/
def cell (n : Numeral) : Cell :=
  if n.isWhole && isInt64 n.wholeValue then
    .integer (Int64.ofInt n.wholeValue)
  else .real n.double

/-- The numeral at the front of a text, behind white space and a sign, with what follows it. -/
def front? (cs : List Char) : Option (Numeral × List Char) :=
  let cs := cs.dropWhile Token.isSpace
  let (negative, cs) :=
    match cs with
    | '-' :: rest => (true, rest)
    | '+' :: rest => (false, rest)
    | cs => (false, cs)
  match Token.numberPart cs with
  | [] => none
  | part => some (ofToken negative part, cs.drop part.length)

end Numeral

/-- The number that a text is as a whole, but for white space around it. -/
def numericText? (cs : List Char) : Option Cell :=
  match Numeral.front? cs with
  | some (n, rest) => if rest.all Token.isSpace then some n.cell else none
  | none => none

/-- The number at the front of a text, and zero if there is none. -/
def numericFront (cs : List Char) : Cell :=
  match Numeral.front? cs with
  | some (n, _) => n.cell
  | none => .integer 0

/-- The integer at the front of a text: digits behind white space and a sign.  One that does not fit
is the nearest that does. -/
def integerFront (cs : List Char) : Int64 :=
  let n : Int :=
    match Numeral.front? cs with
    | some (n, _) => n.wholeValue
    | none => 0
  nearestInt64 n

/-- The characters of text or bytes, as far as numbers are read from them. -/
def Cell.characters : Cell → List Char
  | .text s => s.toList.takeWhile (· != '\x00')
  | c => (c.bytes.map fun b => Char.ofNat b.toNat).takeWhile (· != '\x00')

/-! ## Numbers in statements -/

/-- A hexadecimal number. -/
def isHexadecimal (cs : List Char) : Bool :=
  match cs with
  | '0' :: x :: _ => x == 'x' || x == 'X'
  | _ => false

/-- The number with its low lines taken out.  Each must stand between two digits; if one does not,
the result is what has become of the number up to there. -/
def withoutLowLines (cs : List Char) : Except (List Char) (List Char) :=
  let isDigit := if isHexadecimal cs then Token.isHexDigit else Char.isDigit
  let rec go : (kept : List Char) → (before : Char) → List Char → (fault : Option (List Char)) →
      Except (List Char) (List Char)
    | kept, _, [], none => .ok kept
    | _, _, [], some fault => .error fault
    | kept, before, c :: rest, fault =>
      if c == '_' then
        let good := isDigit before && rest.head?.any isDigit
        go kept c rest (if good then fault else some (kept ++ cs.drop kept.length))
      else go (kept ++ [c]) c rest fault
  go [] '_' cs none

/-- The value of hexadecimal digits. -/
def valueOfHexDigits (ds : List Char) : Nat :=
  ds.foldl (fun n c => 16 * n + (Token.hexValue? c).getD 0) 0

/-- The significant digits of a hexadecimal number. -/
def hexDigits (cs : List Char) : List Char :=
  (cs.drop 2).dropWhile (· == '0')

/-- The number that a token of a statement writes.  A hexadecimal one has sixty-four bits, the first
of which is its sign; if it has more, or if its opposite does not fit, there is no value. -/
def numberToken (negative : Bool) (cs : List Char) : Option Cell :=
  if isHexadecimal cs then
    let ds := hexDigits cs
    let n := Int64.ofNat (valueOfHexDigits ds)
    if 16 < ds.length ∨ negative ∧ n = Int64.minValue then none
    else some (.integer (if negative then -n else n))
  else some (Numeral.ofToken negative cs).cell

end SchemaEvolution.Database
