import SchemaEvolution.Number.Arithmetic
import SchemaEvolution.Number.Shortest

/-!
# Numbers with sixty-four significant bits

Decimals become doubles, and doubles decimals, by way of numbers with eleven more bits than a double
has.  Powers of ten are multiplied in one after the other, and each product is rounded to sixty-four
bits, so the last digits of a result may differ from those of the nearest one.

* `Extended.double`: the double that a decimal stands for.
* `Binary64.eighteenDigits`: the first eighteen or nineteen digits of a double.
-/

namespace SchemaEvolution

/-- The number `significand · 2 ^ exponent`, where the significand has sixty-four bits at most. -/
structure Extended where
  significand : Nat
  exponent : Int
deriving DecidableEq

namespace Extended

/-- The number nearest to a quotient, halves going to the even significand. -/
def ofRatio (num den : Nat) : Extended :=
  if num = 0 then ⟨0, 0⟩ else
    let near : Int := (num.log2 : Int) - den.log2 - 63
    let short : Bool := num * twoTo (-near).toNat < twoTo 63 * den * twoTo near.toNat
    let unit := if short then near - 1 else near
    ⟨Binary64.roundHalfEven (num * twoTo (-unit).toNat) (den * twoTo unit.toNat), unit⟩

/-- The product, rounded. -/
def mul (x y : Extended) : Extended :=
  let product := ofRatio (x.significand * y.significand) 1
  { product with exponent := product.exponent + x.exponent + y.exponent }

/-- The number as a quotient. -/
def ratio (x : Extended) : Nat × Nat :=
  (x.significand * twoTo x.exponent.toNat, twoTo (-x.exponent).toNat)

/-- The number is below a quotient. -/
def isBelow (x : Extended) (num den : Nat) : Bool :=
  x.ratio.1 * den < num * x.ratio.2

/-- A power of ten. -/
def powerOfTen (power : Int) : Extended :=
  ofRatio (tenTo power.toNat) (tenTo (-power).toNat)

/-- A number times a power of ten, so often. -/
def scaled (times : Nat) (power : Int) (x : Extended) : Extended :=
  times.repeat (mul · (powerOfTen power)) x

/-- A number times a power of ten, in steps of hundred, ten and one powers. -/
def shifted (x : Extended) (power : Int) : Extended :=
  let size := power.natAbs
  ((x.scaled (size / 100) (100 * power.sign)).scaled (size % 100 / 10) (10 * power.sign)).scaled
    (size % 10) power.sign

/-- A decimal with a greater coefficient and a smaller exponent, within sixty-four bits. -/
def stretched : (steps : Nat) → Decimal → Decimal
  | 0, d => d
  | steps + 1, d =>
    if 0 < d.exponent ∧ d.coefficient < (twoTo 64 - 1 - 0x7FF) / 10 then
      stretched steps ⟨d.coefficient * 10, d.exponent - 1⟩
    else d

/-- A decimal without zeros at the end of its places. -/
def stripped : (steps : Nat) → Decimal → Decimal
  | 0, d => d
  | steps + 1, d =>
    if d.exponent < 0 ∧ d.coefficient % 10 = 0 then
      stripped steps ⟨d.coefficient / 10, d.exponent + 1⟩
    else d

/-- The largest finite double is `2 ^ 1024 - 2 ^ 971`. -/
def beyondDoubles (x : Extended) : Bool :=
  let (num, den) := x.ratio
  (twoTo 1024 - twoTo 971) * den < num

/-- The double that a decimal with a coefficient of at most sixty-four bits stands for. -/
def double (negative : Bool) (d : Decimal) : Binary64 :=
  if d.coefficient = 0 then .zero negative
  else
    let d := stripped 20 (stretched 20 d)
    let x := (ofRatio d.coefficient 1).shifted d.exponent
    if d.exponent = 0 then .ofRatio negative d.coefficient 1
    else if x.beyondDoubles then .infinity negative
    else .ofRatio negative x.ratio.1 x.ratio.2

/-! ## Digits -/

/-- Multiplies by a power of ten as long as the number is on one side of a bound, and counts. -/
def towards : (steps : Nat) → (go : Extended → Bool) → (power : Int) → Extended → Extended × Int
  | 0, _, _, x => (x, 0)
  | steps + 1, go, power, x =>
    if go x then
      let (x, n) := towards steps go power (x.mul (powerOfTen power))
      (x, n - power)
    else (x, 0)

/-- A number brought between `10 ^ 17` and `10 ^ 19`, with the power of ten that it lost. -/
def normalized (x : Extended) : Extended × Int :=
  let isBelowPower (n : Nat) (x : Extended) : Bool :=
    let bound := ofRatio (tenTo n) 1
    x.isBelow bound.ratio.1 bound.ratio.2
  let isTiny (x : Extended) : Bool :=
    let bound := powerOfTen (-97)
    x.isBelow bound.ratio.1 bound.ratio.2
  if isBelowPower 19 x then
    let (x, a) := towards 4 isTiny 100 x
    let (x, b) := towards 12 (isBelowPower 7) 10 x
    let (x, c) := towards 12 (isBelowPower 17) 1 x
    (x, a + b + c)
  else
    let (x, a) := towards 4 (fun x => !isBelowPower 119 x) (-100) x
    let (x, b) := towards 12 (fun x => !isBelowPower 29 x) (-10) x
    let (x, c) := towards 12 (fun x => !isBelowPower 19 x) (-1) x
    (x, a + b + c)

end Extended

/-- The size of a finite double other than zero as a decimal of eighteen or nineteen digits. -/
def Binary64.eighteenDigits (x : Binary64) : Decimal :=
  let (num, den) := x.ratio
  let (y, power) := (Extended.ofRatio num.natAbs den).normalized
  ⟨y.ratio.1 / y.ratio.2, power⟩

end SchemaEvolution
