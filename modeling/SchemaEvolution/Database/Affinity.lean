import SchemaEvolution.Database.RealText
import SchemaEvolution.Text.Encoding

/-!
# Affinities

A column takes cells of every class, but it has an `Affinity` for one of them, which follows from
words in its type.  A cell that is put into the column, or compared with it, is converted if it
loses nothing by that.  A cast converts in any case.
-/

namespace SchemaEvolution.Database

/-- The class of cells that a column prefers. -/
inductive Affinity where
  /-- Every cell stays as it is. -/
  | blob
  /-- Numbers become texts. -/
  | text
  /-- Texts that are numbers become numbers, integers where possible. -/
  | numeric
  /-- The same as `numeric`, under the name of a type. -/
  | integer
  /-- Texts that are numbers become real numbers, and so do integers. -/
  | real
  /-- Texts that are numbers become numbers. -/
  | flexible
deriving DecidableEq

/-- A word occurs in a text. -/
def occursIn (word : List Char) : List Char → Bool
  | [] => word.isEmpty
  | c :: cs => word.isPrefixOf (c :: cs) || occursIn word cs

namespace Affinity

/-- The affinity of a type, by the words that occur in it. -/
def ofType (sqlType : String) : Affinity :=
  let upper := sqlType.toList.map Char.toUpper
  let mentions (word : String) : Bool := occursIn word.toList upper
  if mentions "INT" then integer
  else if mentions "CHAR" || mentions "CLOB" || mentions "TEXT" then text
  else if mentions "BLOB" || sqlType.isEmpty then blob
  else if mentions "REAL" || mentions "FLOA" || mentions "DOUB" then real
  else numeric

/-- Numbers are preferred. -/
def isNumeric : Affinity → Bool
  | numeric | integer | real | flexible => true
  | blob | text => false

/-- The type that stands for an affinity where a table is made from a query. -/
def typeName : Affinity → String
  | blob => ""
  | text => "TEXT"
  | numeric | flexible => "NUM"
  | integer => "INT"
  | real => "REAL"

end Affinity

namespace Cell

/-- A real number as an integer if it is one. -/
def integral : Cell → Cell
  | real x => match x.integer? with
    | some n => integer n
    | none => real x
  | c => c

/-- A number as a real number; there is no negative zero. -/
def floating : Cell → Cell
  | integer n => real (.ofInteger n.toInt)
  | real x => real (if x.isZero then .zero false else x)
  | c => c

/-- A text as a number if it is one. -/
def numeric : Cell → Cell
  | text s => (numericText? s.toList).getD (text s)
  | c => c

/-- A number as a text. -/
def textual : Cell → Cell
  | integer n => text (String.ofList (signedDigits n.toInt))
  | real x => text (realText x)
  | c => c

/-- A cell as a column of an affinity stores it. -/
def stored (affinity : Affinity) (c : Cell) : Cell :=
  match affinity with
  | .blob => c
  | .text => c.textual
  | .numeric | .integer => c.numeric.integral
  | .real => c.numeric.floating
  | .flexible => c.numeric

/-- A cell as a number: what stands at its front, if it is no number. -/
def number : Cell → Cell
  | null => null
  | integer n => integer n
  | real x => real x
  | c => numericFront c.characters

/-- A cell as a double; nothing counts as zero, and a text may be a negative zero. -/
def double : Cell → Binary64
  | null => .zero false
  | integer n => .ofInteger n.toInt
  | real x => x
  | c => ((Numeral.front? c.characters).map fun (n, _) => n.double).getD (.zero false)

/-- A double without the digits behind the point, as near as an integer comes to it. -/
def clamped (x : Binary64) : Int64 :=
  nearestInt64 x.truncated

/-- A cell as an integer; of a text, only digits at its front count. -/
def int64 : Cell → Int64
  | null => 0
  | integer n => n
  | real x => if x.isNaN then 0 else clamped x
  | c => integerFront c.characters

/-- A number other than zero is true, zero is false, and nothing is neither. -/
def truth? (c : Cell) : Option Bool :=
  match c.number with
  | integer n => some (n != 0)
  | real x => some !x.isZero
  | _ => none

/-- The characters of a cell as a text; bytes that are no UTF-8 become question marks. -/
def string (c : Cell) : String :=
  match c.textual with
  | text s => s
  | c => (String.fromUTF8? ⟨c.bytes.toArray⟩).getD (String.ofList (c.bytes.map fun b =>
      if b < 128 then Char.ofNat b.toNat else '\uFFFD'))

/-- A text or bytes as the number at the front.  A real number becomes an integer if it is one that
is not great. -/
def numericCast (c : Cell) : Cell :=
  let isSmall (n : Int64) : Bool := -(twoTo 51 : Int) ≤ n.toInt && n.toInt < twoTo 51
  match c with
  | text _ | rawText _ | blob _ =>
    match c.number with
    | real x =>
      match x.integer? with
      | some n => if isSmall n then integer n else real x
      | none => real x
    | c => c
  | c => c

/-- A cell converted to the class that an affinity prefers, where an encoding says which bytes make
a text. -/
def cast (e : Encoding) (affinity : Affinity) (c : Cell) : Cell :=
  match affinity, c with
  | _, null => null
  | .blob, blob bytes => blob bytes
  | .blob, c => match c.textual with
    | text s => blob (e.encode s)
    | c => blob c.bytes
  | affinity, c =>
    let c := match c with
      | blob bytes => ofBytes (e.decode bytes)
      | c => c
    match affinity with
    | .blob => c
    | .text => c.textual
    | .integer => integer c.int64
    | .real => real c.double
    | .numeric | .flexible => c.numericCast

/-- The two sides of a comparison under an affinity. -/
def conformed (affinity : Affinity) (a b : Cell) : Cell × Cell :=
  if affinity.isNumeric then (a.numeric, b.numeric)
  else if affinity = .text ∧ (a.isText ∨ b.isText) then (a.textual, b.textual)
  else (a, b)

end Cell

/-- The affinity under which two sides are compared, each having one if it is a column: numbers are
preferred if a side prefers them, and a side without an affinity takes that of the other. -/
def comparisonAffinity : Option Affinity → Option Affinity → Affinity
  | some a, some b => if a.isNumeric || b.isNumeric then .numeric else .blob
  | some a, none | none, some a => a
  | none, none => .blob

end SchemaEvolution.Database
