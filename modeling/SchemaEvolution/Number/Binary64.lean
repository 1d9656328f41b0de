import SchemaEvolution.Number.Basic

/-!
# Double-precision numbers

A `Binary64` is the sixty-four bits of a double.  Its sign, exponent and significand are read off
those bits as natural numbers, so that every statement about a real number of this library is a
statement about integers.

* `magnitude`: a finite `x` is `significand x · 2 ^ exponent x`, up to its sign.
* `equal`: equality of numbers, under which the two zeros agree and a NaN equals nothing.
* `ofRatio`: the double nearest to a quotient, halves going to the even significand.
-/

namespace SchemaEvolution

/-- A double-precision number, held as its bits. -/
structure Binary64 where
  bits : UInt64
deriving DecidableEq

namespace Binary64

/-- The sign bit is set. -/
def isNegative (x : Binary64) : Bool :=
  twoTo 63 ≤ x.bits.toNat

/-- The eleven exponent bits. -/
def biasedExponent (x : Binary64) : Nat :=
  x.bits.toNat / twoTo 52 % twoTo 11

/-- The fifty-two fraction bits. -/
def fraction (x : Binary64) : Nat :=
  x.bits.toNat % twoTo 52

/-- Neither an infinity nor a NaN. -/
def isFinite (x : Binary64) : Bool :=
  x.biasedExponent != 2047

/-- Not a number. -/
def isNaN (x : Binary64) : Bool :=
  x.biasedExponent == 2047 && x.fraction != 0

/-- One of the two zeros. -/
def isZero (x : Binary64) : Bool :=
  x.biasedExponent == 0 && x.fraction == 0

/-- The integer significand: the fraction, with the leading bit that a normal number leaves out. -/
def significand (x : Binary64) : Nat :=
  if x.biasedExponent = 0 then x.fraction else x.fraction + twoTo 52

/-- The power of two that scales the significand. -/
def exponent (x : Binary64) : Int :=
  (max x.biasedExponent 1 : Nat) - 1075

/-- Equality of numbers: the two zeros agree, and a NaN equals nothing, not even itself. -/
def equal (x y : Binary64) : Bool :=
  !x.isNaN && !y.isNaN && (x == y || x.isZero && y.isZero)

/-- The zero of a sign. -/
def zero (negative : Bool) : Binary64 :=
  ⟨if negative then 0x8000000000000000 else 0⟩

/-- A quotient rounded to an integer, a half going to the even neighbour. -/
def roundHalfEven (num den : Nat) : Nat :=
  let q := num / den
  let twice := 2 * (num % den)
  if den < twice ∨ (twice = den ∧ q % 2 = 1) then q + 1 else q

/-- The power of two whose multiples are the doubles around `num / den`: the quotient by it has
fifty-three bits, unless the least power, `2 ^ (-1074)`, leaves it with fewer. -/
def unitOfRatio (num den : Nat) : Int :=
  let near : Int := (num.log2 : Int) - den.log2 - 52
  let short : Bool := num * twoTo (-near).toNat < twoTo 52 * den * twoTo near.toNat
  max (if short then near - 1 else near) (-1074)

/-- The double nearest to `num / den`, halves going to the even significand; beyond the largest
finite double the answer is an infinity. -/
def ofRatio (negative : Bool) (num den : Nat) : Binary64 :=
  if num = 0 then zero negative else
    let unit := unitOfRatio num den
    let significand := roundHalfEven (num * twoTo (-unit).toNat) (den * twoTo unit.toNat)
    let magnitude := min ((unit + 1074).toNat * twoTo 52 + significand) (2047 * twoTo 52)
    ⟨UInt64.ofNat (magnitude + if negative then twoTo 63 else 0)⟩

end Binary64

end SchemaEvolution
