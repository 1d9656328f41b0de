import SchemaEvolution.Database.Affinity
import SchemaEvolution.Database.Expression

/-!
# Operators on cells

What the operators of expressions give for cells.  Nothing as an operand gives nothing, except where
the other operand settles the result.
-/

namespace SchemaEvolution.Database.Cell

/-! ## Arithmetic -/

/-- Arithmetic of two numbers: on integers if the result is one, and on real numbers otherwise. -/
def arithmetic (onIntegers : Int → Int → Option Int)
    (onReals : Binary64 → Binary64 → Option Binary64) (a b : Cell) : Cell :=
  match a.number, b.number with
  | null, _ | _, null => null
  | integer m, integer n =>
    match onIntegers m.toInt n.toInt with
    | some r =>
      if isInt64 r then integer (Int64.ofInt r)
      else ofReal (onReals (.ofInteger m.toInt) (.ofInteger n.toInt))
    | none => null
  | x, y => ofReal (onReals x.double y.double)

/-- The sum. -/
def add : Cell → Cell → Cell :=
  arithmetic (fun m n => some (m + n)) Binary64.add?

/-- The difference. -/
def subtract : Cell → Cell → Cell :=
  arithmetic (fun m n => some (m - n)) fun x y => x.add? y.negated

/-- The product. -/
def multiply : Cell → Cell → Cell :=
  arithmetic (fun m n => some (m * n)) Binary64.mul?

/-- The quotient; that of integers has no digits behind the point, and there is none by zero. -/
def divide : Cell → Cell → Cell :=
  arithmetic (fun m n => if n = 0 then none else some (m.tdiv n)) Binary64.div?

/-- What a division of integers leaves; there is nothing by zero. -/
def remainder (a b : Cell) : Cell :=
  match a.number, b.number with
  | null, _ | _, null => null
  | x, y =>
    let divisor := y.int64.toInt
    if divisor = 0 then null
    else
      let r := x.int64.toInt.tmod divisor
      match x, y with
      | integer _, integer _ => integer (Int64.ofInt r)
      | _, _ => real (.ofInteger r)

/-! ## Bits -/

/-- An operation on the bits of two integers. -/
def bitwise (f : Int64 → Int64 → Int64) (a b : Cell) : Cell :=
  if a.isNull || b.isNull then null else integer (f a.int64 b.int64)

/-- The bits moved to the left, or to the right if the number of places is negative. -/
def shifted (n : Int64) (places : Int) : Int64 :=
  if 64 ≤ places then 0
  else if 0 ≤ places then n <<< Int64.ofInt places
  else if -64 < places then n >>> Int64.ofInt (-places)
  else if n < 0 then -1 else 0

/-- All bits the other way round. -/
def complement (a : Cell) : Cell :=
  if a.isNull then null else integer (~~~ a.int64)

/-! ## Texts -/

/-- One text behind the other. -/
def concatenate (a b : Cell) : Cell :=
  match a.textual, b.textual with
  | null, _ | _, null => null
  | text s, text t => text (s ++ t)
  | a, b => ofBytes (a.bytes ++ b.bytes)

/-! ## Truth -/

/-- Both hold. -/
def and (a b : Cell) : Cell :=
  match a.truth?, b.truth? with
  | some false, _ | _, some false => ofBool false
  | some true, some true => ofBool true
  | _, _ => null

/-- One of the two holds. -/
def or (a b : Cell) : Cell :=
  match a.truth?, b.truth? with
  | some true, _ | _, some true => ofBool true
  | some false, some false => ofBool false
  | _, _ => null

/-- It does not hold. -/
def not (a : Cell) : Cell :=
  ofTruth (a.truth?.map (!·))

/-! ## Comparison -/

/-- The comparison holds of cells that are in some order. -/
def orderHolds (c : Comparison) (o : Ordering) : Bool :=
  match c with
  | .equal | .same => o.isEq
  | .unequal | .different => o.isNe
  | .less => o.isLT
  | .atMost => o.isLE
  | .greater => o.isGT
  | .atLeast => o.isGE

/-- Whether a comparison holds of two cells, under an affinity and a collation. -/
def compared (c : Comparison) (affinity : Affinity) (collation : Collation) (a b : Cell) : Cell :=
  let (x, y) := conformed affinity a b
  if c = .same ∨ c = .different then ofBool (orderHolds c (x.compare collation y))
  else if a.isNull || b.isNull then null
  else ofBool (orderHolds c (x.compare collation y))

/-! ## Operators -/

/-- An operator with two operands that is neither a comparison nor lazy. -/
def binary : BinaryOperator → Cell → Cell → Cell
  | .and => and
  | .or => or
  | .compare c => compared c .blob .binary
  | .bitAnd => bitwise (· &&& ·)
  | .bitOr => bitwise (· ||| ·)
  | .shiftLeft => bitwise fun m n => shifted m n.toInt
  | .shiftRight => bitwise fun m n => shifted m (-n.toInt)
  | .add => add
  | .subtract => subtract
  | .multiply => multiply
  | .divide => divide
  | .remainder => remainder
  | .concatenate => concatenate

/-- An operator with one operand. -/
def unary : UnaryOperator → Cell → Cell
  | .minus => subtract (integer 0)
  | .plus => id
  | .complement => complement
  | .not => not
  | .isNull => fun a => ofBool a.isNull
  | .notNull => fun a => ofBool !a.isNull

end SchemaEvolution.Database.Cell
