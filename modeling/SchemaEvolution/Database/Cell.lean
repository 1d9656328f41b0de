import SchemaEvolution.Number.Arithmetic
import SchemaEvolution.Sql.Value

/-!
# Cells

A `Cell` is what the table database stores in one place: nothing, a number, a text or bytes.  Cells
of all classes are in one order (`Cell.compare`): first nothing, then the numbers by their size,
whatever their class, then the texts by a `Collation`, then the bytes.
-/

namespace SchemaEvolution.Database

/-- What is stored in one place. -/
inductive Cell where
  | null
  | integer (n : Int64)
  | real (x : Binary64)
  | text (s : String)
  /-- A text whose bytes are no UTF-8. -/
  | rawText (bytes : List UInt8)
  | blob (bytes : List UInt8)
deriving DecidableEq, Inhabited

/-- How texts are compared. -/
inductive Collation where
  /-- By their bytes. -/
  | binary
  /-- By their bytes, capital letters of ASCII being the same as small ones. -/
  | nocase
  /-- By their bytes, without spaces at the end. -/
  | rtrim
deriving DecidableEq

namespace Collation

/-- The collation of a name. -/
def ofName? (name : String) : Option Collation :=
  match name.map Char.toUpper with
  | "BINARY" => some binary
  | "NOCASE" => some nocase
  | "RTRIM" => some rtrim
  | _ => none

/-- The name of a collation. -/
def name : Collation → String
  | binary => "BINARY"
  | nocase => "NOCASE"
  | rtrim => "RTRIM"

/-- A text as it is compared. -/
def normal (c : Collation) (s : String) : String :=
  match c with
  | binary => s
  | nocase => s.map Char.toLower
  | rtrim => String.ofList (s.toList.reverse.dropWhile (· == ' ')).reverse

/-- A byte as it is compared. -/
def normalByte (c : Collation) (b : UInt8) : UInt8 :=
  if c = nocase ∧ 65 ≤ b ∧ b ≤ 90 then b + 32 else b

/-- Bytes as they are compared. -/
def normalBytes (c : Collation) (bytes : List UInt8) : List UInt8 :=
  if c = rtrim then (bytes.reverse.dropWhile (· == 32)).reverse else bytes.map c.normalByte

/-- The order of bytes up to a null character in both at the same place; behind it, only the lengths
count. -/
def compareVisible : List UInt8 → List UInt8 → Ordering
  | a :: as, b :: bs =>
    if a = 0 ∧ b = 0 then Ord.compare as.length bs.length
    else (Ord.compare a b).then (compareVisible as bs)
  | [], [] => .eq
  | [], _ => .lt
  | _, [] => .gt

/-- The order of bytes. -/
def compareBytes (c : Collation) (a b : List UInt8) : Ordering :=
  if c = nocase then compareVisible (c.normalBytes a) (c.normalBytes b)
  else compareOfLessAndEq (c.normalBytes a) (c.normalBytes b)

end Collation

namespace Cell

/-- The value that a query gives for a cell. -/
def value : Cell → Value
  | null => .null
  | integer n => .integer n
  | real x => .real x
  | text s => .text s
  | rawText bytes | blob bytes => .blob bytes

/-- Nothing is stored. -/
def isNull : Cell → Bool
  | null => true
  | _ => false

/-- A number. -/
def isNumber : Cell → Bool
  | integer _ | real _ => true
  | _ => false

/-- A text. -/
def isText : Cell → Bool
  | text _ | rawText _ => true
  | _ => false

/-- The class of a cell in words. -/
def className : Cell → String
  | null => "null"
  | integer _ => "integer"
  | real _ => "real"
  | text _ | rawText _ => "text"
  | blob _ => "blob"

/-- A text from bytes. -/
def ofBytes (bytes : List UInt8) : Cell :=
  match String.fromUTF8? ⟨bytes.toArray⟩ with
  | some s => text s
  | none => rawText bytes

/-- The bytes of a text or a blob. -/
def bytes : Cell → List UInt8
  | text s => s.toUTF8.toList
  | rawText bytes | blob bytes => bytes
  | _ => []

/-- A number as a quotient. -/
def ratio? : Cell → Option (Int × Nat)
  | integer n => some (n.toInt, 1)
  | real x => some x.ratio
  | _ => none

/-- The place of a cell's class in the order of cells. -/
def rank : Cell → Nat
  | null => 0
  | integer _ | real _ => 1
  | text _ | rawText _ => 2
  | blob _ => 3

/-- The order of numbers, given as quotients. -/
def compareRatios (a b : Int × Nat) : Ordering :=
  Ord.compare (a.1 * b.2) (b.1 * a.2)

/-- The order of cells; texts are compared by a collation. -/
def compare (c : Collation) (a b : Cell) : Ordering :=
  match a, b with
  | text s, text t =>
    if c = .nocase ∧ s.contains '\x00' ∧ t.contains '\x00' then
      c.compareBytes s.toUTF8.toList t.toUTF8.toList
    else Ord.compare (c.normal s) (c.normal t)
  | blob s, blob t => compareOfLessAndEq s t
  | a, b =>
    if a.isText && b.isText then
      c.compareBytes a.bytes b.bytes
    else
      match a.ratio?, b.ratio? with
      | some x, some y => compareRatios x y
      | _, _ => Ord.compare a.rank b.rank

/-- Two cells are equal as values: an integer and a real number may be. -/
def equal (c : Collation) (a b : Cell) : Bool :=
  (a.compare c b).isEq

/-- A truth value as a number. -/
def ofBool (b : Bool) : Cell :=
  integer (if b then 1 else 0)

/-- A truth value, or nothing. -/
def ofTruth : Option Bool → Cell
  | some b => ofBool b
  | none => null

/-- An integer, or a real number where it does not fit. -/
def ofInt (n : Int) : Cell :=
  if isInt64 n then integer (Int64.ofInt n) else real (.ofInteger n)

/-- A count. -/
def ofNat (n : Nat) : Cell :=
  ofInt n

/-- A real number, or nothing where there is none. -/
def ofReal : Option Binary64 → Cell
  | some x => if x.isNaN then null else real x
  | none => null

end Cell

end SchemaEvolution.Database
