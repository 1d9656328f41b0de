/-!
# Powers, sums and ranges of numbers

* `twoTo` and `tenTo` are powers of natural numbers.
* `sumOf` is the sum of a list.
* `isInt64` says which integers sixty-four bits hold, and `nearestInt64` finds the nearest of them.
-/

namespace SchemaEvolution

/-- A power of two. -/
abbrev twoTo (exponent : Nat) : Nat :=
  Nat.pow 2 exponent

/-- A power of ten. -/
abbrev tenTo (exponent : Nat) : Nat :=
  Nat.pow 10 exponent

/-- The sum of numbers. -/
def sumOf : List Nat → Nat
  | [] => 0
  | n :: ns => n + sumOf ns

/-- Sixty-four bits hold an integer, one of them being its sign. -/
def isInt64 (n : Int) : Bool :=
  -(twoTo 63 : Int) ≤ n && n < (twoTo 63 : Int)

/-- The nearest integer that sixty-four bits hold. -/
def nearestInt64 (n : Int) : Int64 :=
  Int64.ofInt (max (-(twoTo 63 : Int)) (min n ((twoTo 63 : Int) - 1)))

end SchemaEvolution
