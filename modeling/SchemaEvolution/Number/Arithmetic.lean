import SchemaEvolution.Number.Binary64

/-!
# Arithmetic of doubles

Sums, products and quotients of doubles, each of which is the exact result rounded once
(`Binary64.ofRatio`).  What is no number, such as the difference of two infinities, is `none`.
Doubles are ordered as the quotients that they are (`ratio`).
-/

namespace SchemaEvolution

namespace Binary64

/-- A double as a quotient; an infinity counts as the power of two beyond the largest double. -/
def ratio (x : Binary64) : Int × Nat :=
  let size := x.significand * twoTo x.exponent.toNat
  (if x.isNegative then -size else size, twoTo (-x.exponent).toNat)

/-- The double nearest to a quotient with a sign. -/
def ofSigned (num : Int) (den : Nat) : Binary64 :=
  .ofRatio (num < 0) num.natAbs den

/-- The double nearest to an integer. -/
def ofInteger (n : Int) : Binary64 :=
  .ofSigned n 1

/-- The infinity of a sign. -/
def infinity (negative : Bool) : Binary64 :=
  ⟨if negative then 0xFFF0000000000000 else 0x7FF0000000000000⟩

/-- The integer that equals a double, if it lies strictly between the ends of the integers. -/
def integer? (x : Binary64) : Option Int64 :=
  let (num, den) := x.ratio
  let n := num / den
  if n * den = num ∧ -(twoTo 63 : Int) < n ∧ n < (twoTo 63 : Int) - 1 then some (Int64.ofInt n)
  else none

/-- The integer part of a double. -/
def truncated (x : Binary64) : Int :=
  let (num, den) := x.ratio
  num.tdiv den

/-- The double of the other sign. -/
def negated (x : Binary64) : Binary64 :=
  ⟨x.bits ^^^ 0x8000000000000000⟩

/-- The sum of two doubles.  It is a negative zero only if both are. -/
def add? (x y : Binary64) : Option Binary64 :=
  if x.isNaN || y.isNaN then none
  else if !x.isFinite then
    if !y.isFinite && x.isNegative != y.isNegative then none else some x
  else if !y.isFinite then some y
  else
    let (a, b) := x.ratio
    let (c, d) := y.ratio
    let num := a * d + c * b
    some (if num = 0 then zero (x.isNegative && y.isNegative) else ofSigned num (b * d))

/-- The product of two doubles. -/
def mul? (x y : Binary64) : Option Binary64 :=
  let negative := x.isNegative != y.isNegative
  if x.isNaN || y.isNaN then none
  else if !x.isFinite || !y.isFinite then
    if x.isZero || y.isZero then none else some (infinity negative)
  else
    let (a, b) := x.ratio
    let (c, d) := y.ratio
    some (ofRatio negative (a * c).natAbs (b * d))

/-- The quotient of two doubles; there is none by zero. -/
def div? (x y : Binary64) : Option Binary64 :=
  let negative := x.isNegative != y.isNegative
  if x.isNaN || y.isNaN || y.isZero then none
  else if !y.isFinite then if x.isFinite then some (zero negative) else none
  else if !x.isFinite then some (infinity negative)
  else
    let (a, b) := x.ratio
    let (c, d) := y.ratio
    some (ofRatio negative (a.natAbs * d) (b * c.natAbs))

end Binary64

end SchemaEvolution
