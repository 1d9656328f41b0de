import SchemaEvolution.Database.Numeral

/-!
# Texts of real numbers

`Figures` are the digits of a real number, rounded to a number of digits or of places.  `layout`
writes them in one of three styles.  As the value of a text column, a real number is written by
`realText`: with fifteen digits at most, always with a point, and with an exponent from `10 ^ 15` on
and below `10 ^ (-4)`.
-/

namespace SchemaEvolution.Database

/-- Digits without zeros at the end, behind a point that is moved by some places to the right. -/
structure Figures where
  digits : List Char
  point : Int
deriving DecidableEq

/-- What a real number is rounded to. -/
inductive Rounding where
  /-- So many digits. -/
  | digits (count : Nat)
  /-- So many digits behind the point. -/
  | places (count : Nat)
deriving DecidableEq

namespace Figures

/-- Digits without the zeros at their end. -/
def withoutZeros (f : Figures) : Figures :=
  { f with digits := (f.digits.reverse.dropWhile (· == '0')).reverse }

/-- The first digits, the last of them one higher if the next digit is at least five. -/
def cut (count : Nat) (f : Figures) : Figures :=
  let kept := f.digits.take count
  if (f.digits[count]?).any (fun c => '5' ≤ c) then
    let raised := fixedWidth kept.length (valueOfDigits kept + 1)
    ⟨raised, f.point + (raised.length - kept.length : Nat)⟩
  else ⟨kept, f.point⟩

/-- The figures with at most so many digits, rounded. -/
def rounded (rounding : Rounding) (most : Nat) (f : Figures) : Figures :=
  let (wanted, f) : Int × Figures :=
    match rounding with
    | .digits count => (count, f)
    | .places count =>
      if f.point + count = 0 ∧ f.digits.head?.any (fun c => '5' ≤ c) then
        (1, ⟨'0' :: f.digits, f.point + 1⟩)
      else (f.point + count, f)
  if 0 < wanted ∧ (wanted < f.digits.length ∨ most < f.digits.length) then
    f.cut (min wanted.toNat most)
  else f

/-- The figures of a finite double, whatever its sign. -/
def of (rounding : Rounding) (most : Nat) (x : Binary64) : Figures :=
  if x.isZero then ⟨['0'], 1⟩
  else
    let d := x.eighteenDigits
    let ds := SchemaEvolution.digits d.coefficient
    (Figures.rounded rounding most ⟨ds, ds.length + d.exponent⟩).withoutZeros

/-- The digits from a place on, zeros where there is none; place zero is behind the point. -/
def digitsFrom (place : Int) (count : Nat) (f : Figures) : List Char :=
  (List.range count).map fun (i : Nat) =>
    let index : Int := f.point + place + i
    if 0 ≤ index then f.digits.getD index.toNat '0' else '0'

end Figures

/-- How a real number is written. -/
inductive RealStyle where
  | fixed
  | exponential
  /-- The one of the other two that suits the size. -/
  | general
deriving DecidableEq

/-- What is written of a real number. -/
structure RealLayout where
  style : RealStyle
  precision : Nat
  /-- Zeros at the end are kept in the general style, and the point is written in any case. -/
  keepsZeros : Bool := false
  /-- There is always a digit behind the point, and more than sixteen digits may be written. -/
  isExact : Bool := false

namespace RealLayout

/-- An exponent of at least two digits, always with a sign. -/
def exponentText (n : Int) : List Char :=
  (if n < 0 then '-' else '+') :: fixedWidth 2 n.natAbs

/-- Digits behind a point without the zeros at their end. -/
def trimmed (l : RealLayout) (cs : List Char) : List Char :=
  match cs.reverse.dropWhile (· == '0') with
  | '.' :: rest => if l.isExact then rest.reverse ++ ['.', '0'] else rest.reverse
  | rest => rest.reverse

/-- What the figures of a number are rounded to. -/
def rounding (l : RealLayout) : Rounding :=
  match l.style with
  | .fixed => .places l.precision
  | .exponential => .digits (l.precision + 1)
  | .general => .digits (max l.precision 1)

/-- Figures in writing. -/
def spelled (l : RealLayout) (f : Figures) : List Char :=
  let precision := if l.style = .general then max l.precision 1 else l.precision
  let power := f.point - 1
  let (isExponential, places, trims) : Bool × Nat × Bool :=
    match l.style with
    | .fixed => (false, precision, l.isExact)
    | .exponential => (true, precision, l.isExact)
    | .general =>
      if power < -4 ∨ precision - 1 < power then (true, precision - 1, !l.keepsZeros)
      else (false, (precision - 1 - power).toNat, !l.keepsZeros)
  let shown : Figures := if isExponential then { f with point := 1 } else f
  let before := if shown.point ≤ 0 then ['0'] else shown.digitsFrom (-shown.point) shown.point.toNat
  let hasPoint := 0 < places || l.keepsZeros || l.isExact
  let all := before ++ (if hasPoint then ['.'] else []) ++ shown.digitsFrom 0 places
  let all := if trims && hasPoint then l.trimmed all else all
  if isExponential then all ++ 'e' :: exponentText power else all

/-- The size of a finite double in writing. -/
def size (l : RealLayout) (x : Binary64) : List Char :=
  l.spelled (Figures.of l.rounding (if l.isExact then 26 else 16) x)

end RealLayout

/-- A real number as a text. -/
def realText (x : Binary64) : String :=
  let sign := if x.isNegative && !x.isZero then ['-'] else []
  if !x.isFinite then String.ofList (sign ++ "Inf".toList)
  else
    let layout : RealLayout := { style := .general, precision := 15, isExact := true }
    String.ofList (sign ++ layout.size x)

end SchemaEvolution.Database
