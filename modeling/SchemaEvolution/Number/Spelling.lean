import SchemaEvolution.Number.Shortest

/-!
# Texts of numbers

Two spellings of a double, both with the digits of its shortest decimal.

* `Binary64.plain` writes every digit in its place and never an exponent: `1`, `-0`, `0.1`.
* `Binary64.marked` tells a double from an integer at sight: an integral one keeps `.0`, and one
  that is at least `10 ^ 16` or below `10 ^ (-4)` is written with an exponent, as in `1.5e-5`.

`fixedWidth` and `hexadecimal` pad a number with leading zeros.
-/

namespace SchemaEvolution

/-- The decimal digits of a number, without leading zeros. -/
def digits (n : Nat) : List Char :=
  Nat.toDigits 10 n

/-- The number that decimal digits write. -/
def valueOfDigits (ds : List Char) : Nat :=
  Nat.ofDigitChars 10 ds 0

/-- The decimal digits of a number, filled up with zeros to a width. -/
def fixedWidth (width n : Nat) : List Char :=
  List.replicate (width - (digits n).length) '0' ++ digits n

/-- The decimal digits of an integer, after a minus sign if it is negative. -/
def signedDigits (n : Int) : List Char :=
  if n < 0 then '-' :: digits n.natAbs else digits n.natAbs

namespace Decimal

/-- The power of ten of the leading digit. -/
def leadingPower (d : Decimal) : Int :=
  (digits d.coefficient).length + d.exponent - 1

/-- All digits in their places, with a point only if there are digits after it. -/
def positional (d : Decimal) : List Char :=
  let ds := digits d.coefficient
  let places := (-d.exponent).toNat
  if 0 ≤ d.exponent then ds ++ List.replicate d.exponent.toNat '0'
  else if places < ds.length then
    ds.take (ds.length - places) ++ '.' :: ds.drop (ds.length - places)
  else '0' :: '.' :: List.replicate (places - ds.length) '0' ++ ds

/-- One digit before the point, the others after it, then `e` and the leading power of ten. -/
def scientific (d : Decimal) : List Char :=
  match digits d.coefficient with
  | [] => []
  | [c] => c :: 'e' :: signedDigits d.leadingPower
  | c :: cs => c :: '.' :: cs ++ 'e' :: signedDigits d.leadingPower

end Decimal

namespace Binary64

/-- A double's text: its sign, then `finite` for the shortest decimal of a finite one, where zero
is the decimal `0`.  A NaN has no sign. -/
def textWith (finite : Decimal → List Char) (x : Binary64) : String :=
  let sign := if x.isNegative then ['-'] else []
  if x.isNaN then "NaN"
  else if !x.isFinite then String.ofList (sign ++ "inf".toList)
  else if x.isZero then String.ofList (sign ++ finite ⟨0, 0⟩)
  else String.ofList (sign ++ finite x.shortest)

/-- The text of a double without an exponent, an integral one without a point. -/
def plain (x : Binary64) : String :=
  x.textWith Decimal.positional

/-- The text of a double that shows it is not an integer. -/
def marked (x : Binary64) : String :=
  x.textWith fun d =>
    if d.coefficient ≠ 0 ∧ (16 ≤ d.leadingPower ∨ d.leadingPower < -4) then d.scientific
    else if 0 ≤ d.exponent then d.positional ++ ['.', '0']
    else d.positional

end Binary64

/-- A hexadecimal digit; the capital letters stand for ten to fifteen. -/
def hexDigit (n : Nat) : Char :=
  if n < 10 then Char.ofNat (n + 48) else Char.ofNat (n + 55)

/-- A byte as two hexadecimal digits. -/
def hexByte (b : UInt8) : List Char :=
  [hexDigit (b.toNat / 16), hexDigit (b.toNat % 16)]

end SchemaEvolution
