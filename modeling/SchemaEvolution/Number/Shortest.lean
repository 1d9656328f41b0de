import SchemaEvolution.Number.Binary64

/-!
# The shortest decimal of a double

A finite non-zero double is the rounded form of a whole interval of reals.  Its shortest decimal is
a point of that interval on the coarsest grid of multiples of a power of ten that has one; of two
points on that grid the nearer to the double is taken, and the upper one if both are equally near.

All comparisons are between natural numbers: the ends of the interval and the double itself are
integer multiples of a quarter of the double's unit (`RoundingInterval`).
-/

namespace SchemaEvolution

/-- The decimal `coefficient · 10 ^ exponent`. -/
structure Decimal where
  coefficient : Nat
  exponent : Int
deriving DecidableEq

/-- The reals that round to a double: those from `low · 2 ^ unit` to `high · 2 ^ unit`, the ends
included if `closed`.  The double itself is `mid · 2 ^ unit`. -/
structure RoundingInterval where
  low : Nat
  mid : Nat
  high : Nat
  unit : Int
  closed : Bool

namespace RoundingInterval

/-- The interval of a double: half a unit to either side, but only a quarter below a power of two,
where the next double is half as far away unless it is subnormal.  The ends belong to it if the
significand is even. -/
def of (x : Binary64) : RoundingInterval where
  low := 4 * x.significand - if x.fraction = 0 ∧ 1 < x.biasedExponent then 1 else 2
  mid := 4 * x.significand
  high := 4 * x.significand + 2
  unit := x.exponent - 2
  closed := x.significand % 2 == 0

/-- The factor that brings a multiple of `10 ^ e` to the scale on which it is compared. -/
def gridScale (r : RoundingInterval) (e : Int) : Nat :=
  tenTo e.toNat * twoTo (-r.unit).toNat

/-- The factor that brings a multiple of the unit to the same scale. -/
def unitScale (r : RoundingInterval) (e : Int) : Nat :=
  twoTo r.unit.toNat * tenTo (-e).toNat

/-- The decimal `c · 10 ^ e` lies in the interval. -/
def contains (r : RoundingInterval) (e : Int) (c : Nat) : Bool :=
  let point := c * r.gridScale e
  let low := r.low * r.unitScale e
  let high := r.high * r.unitScale e
  if r.closed then low ≤ point && point ≤ high else low < point && point < high

/-- The multiple of `10 ^ e` in the interval that is nearest to the double, if there is one: only
the two neighbours of the double on that grid can be it. -/
def nearest? (r : RoundingInterval) (e : Int) : Option Nat :=
  let mid := r.mid * r.unitScale e
  let below := mid / r.gridScale e
  match r.contains e below, r.contains e (below + 1) with
  | false, false => none
  | true, false => some below
  | false, true => some (below + 1)
  | true, true =>
    if mid - below * r.gridScale e < (below + 1) * r.gridScale e - mid then some below
    else some (below + 1)

/-- The first hit on the grids of `10 ^ e`, `10 ^ (e - 1)` and so on, for `steps` grids. -/
def coarsest (r : RoundingInterval) : (steps : Nat) → (e : Int) → Decimal
  | 0, e => ⟨0, e⟩
  | steps + 1, e =>
    match r.nearest? e with
    | some c => ⟨c, e⟩
    | none => r.coarsest steps (e - 1)

end RoundingInterval

/-- The shortest decimal that rounds to a finite non-zero double, whatever its sign.  Doubles are
below `10 ^ 309` and multiples of `10 ^ (-1074)`, so the grids between these powers suffice. -/
def Binary64.shortest (x : Binary64) : Decimal :=
  (RoundingInterval.of x).coarsest (309 + 1074 + 1) 309

end SchemaEvolution
