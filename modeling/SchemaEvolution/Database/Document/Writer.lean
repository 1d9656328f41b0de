import SchemaEvolution.Database.Affinity
import SchemaEvolution.Database.Document.Basic

/-!
# Writing documents

* `Document.write` writes a document as JSON without blanks, and `Document.pretty` over several
  lines.
* `Leaf.characters` are the characters that a text stands for, as numbers.
* `Document.cell` is the cell that stands for a document.
-/

namespace SchemaEvolution.Database

/-! ## Texts -/

namespace Document

/-- A hexadecimal digit. -/
def hexDigit (n : Nat) : Char :=
  (Nat.digitChar n).toLower

/-- A control character as JSON writes it. -/
def controlEscape (c : Char) : List Char :=
  match c.toNat with
  | 8 => ['\\', 'b']
  | 9 => ['\\', 't']
  | 10 => ['\\', 'n']
  | 12 => ['\\', 'f']
  | 13 => ['\\', 'r']
  | n => ['\\', 'u', '0', '0', hexDigit (n / 16), hexDigit (n % 16)]

/-- A character of a text as JSON writes it. -/
def escape (c : Char) : List Char :=
  if c == '"' || c == '\\' then ['\\', c]
  else if c.toNat ≤ 0x1f then controlEscape c
  else [c]

/-- A text as JSON writes it. -/
def quoted (cs : List Char) : List Char :=
  '"' :: cs.flatMap escape ++ ['"']

/-- A JSON5 escape as JSON writes it, with the number of its characters behind the backslash. -/
def strictEscape : List Char → List Char × Nat
  | '\x27' :: _ => (['\x27'], 1)
  | 'v' :: _ => ("\\u000b".toList, 1)
  | 'x' :: a :: b :: _ => ("\\u00".toList ++ [a, b], 3)
  | '0' :: _ => ("\\u0000".toList, 1)
  | '\r' :: '\n' :: _ => ([], 2)
  | '\r' :: _ | '\n' :: _ | '\u2028' :: _ | '\u2029' :: _ => ([], 1)
  | c :: _ => (['\\', c], 1)
  | [] => ([], 0)

/-- Characters and escapes of JSON5 as JSON writes them; `skip` characters belong to an escape
before. -/
def strict : (skip : Nat) → List Char → List Char
  | _, [] => []
  | skip + 1, _ :: cs => strict skip cs
  | 0, c :: cs =>
    if c == '\\' then (strictEscape cs).1 ++ strict (strictEscape cs).2 cs
    else escape c ++ strict 0 cs

end Document

/-! ## Leaves -/

namespace Leaf

/-- Hexadecimal digits as a decimal number; one beyond sixty-four bits is written as a real number
that is none. -/
def hexText (written : List Char) : List Char :=
  let isNegative := written.head? == some '-'
  let digits := if isNegative then written.drop 3 else written.drop 2
  let n := valueOfHexDigits digits
  (if isNegative then ['-'] else []) ++
    if n < twoTo 64 then SchemaEvolution.digits n else "9.0e999".toList

/-- Zeros beside each point that lacks a digit; the number has one before the point if it is told
so. -/
def filled : (hasDigit : Bool) → List Char → List Char
  | _, [] => []
  | hasDigit, c :: cs =>
    let before := if c == '.' && !hasDigit then ['0'] else []
    let after := if c == '.' && !cs.head?.any Char.isDigit then ['0'] else []
    before ++ c :: after ++ filled (c != '-') cs

/-- A leaf as JSON writes it. -/
def write (l : Leaf) : List Char :=
  match l.kind with
  | .nothing | .yes | .no => l.kind.word.toList
  | .integer | .real => l.written
  | .hexInteger => hexText l.written
  | .looseReal => filled false l.written
  | .plainText | .escapedText => '"' :: l.written ++ ['"']
  | .looseText => '"' :: Document.strict 0 l.written ++ ['"']
  | .rawText => Document.quoted l.written

/-! ## Cells -/

/-- The number that four hexadecimal digits write. -/
def unit (cs : List Char) : Nat :=
  valueOfHexDigits (cs.take 4)

/-- The character behind a backslash as a number, if it is one, with the number of characters that
it takes.  A pair of halves is one character.  The end of a line stands for nothing, but is a null
character at the end of the text. -/
def escaped (cs : List Char) : Option Nat × Nat :=
  match cs with
  | 'u' :: rest =>
    let high := unit rest
    let low := unit (rest.drop 6)
    let isPair := 0xd800 ≤ high && high < 0xdc00 && (rest.drop 4).take 2 == ['\\', 'u'] &&
      0xdc00 ≤ low && low < 0xe000
    if rest.length < 4 then (none, cs.length)
    else if isPair then (some ((high - 0xd800) * 0x400 + (low - 0xdc00) + 0x10000), 11)
    else (some high, 5)
  | 'x' :: rest => if rest.length < 2 then (none, cs.length) else
      (some (valueOfHexDigits (rest.take 2)), 3)
  | 'b' :: _ => (some 8, 1)
  | 'f' :: _ => (some 12, 1)
  | 'n' :: _ => (some 10, 1)
  | 'r' :: _ => (some 13, 1)
  | 't' :: _ => (some 9, 1)
  | 'v' :: _ => (some 11, 1)
  | '0' :: _ => (some 0, 1)
  | '\r' :: '\n' :: rest => (if rest.isEmpty then some 0 else none, 2)
  | '\r' :: rest | '\n' :: rest | '\u2028' :: rest | '\u2029' :: rest =>
    (if rest.isEmpty then some 0 else none, 1)
  | c :: _ => (if "\x27\"/\\".toList.contains c then some c.toNat else none, 1)
  | [] => (none, 0)

/-- Characters and escapes as numbers; `skip` characters belong to an escape before. -/
def unescaped : (skip : Nat) → List Char → List Nat
  | _, [] => []
  | skip + 1, _ :: cs => unescaped skip cs
  | 0, c :: cs =>
    if c == '\\' then (escaped cs).1.toList ++ unescaped (escaped cs).2 cs
    else c.toNat :: unescaped 0 cs

/-- The characters that a text stands for, as numbers. -/
def characters (l : Leaf) : List Nat :=
  match l.kind with
  | .escapedText | .looseText => unescaped 0 l.written
  | _ => l.written.map Char.toNat

/-- The bytes of a character, which may be one half of a pair. -/
def bytesOf (n : Nat) : List UInt8 :=
  let low (shift : Nat) : UInt8 := .ofNat (0x80 + n / twoTo shift % 64)
  if n < 0x80 then [.ofNat n]
  else if n < 0x800 then [.ofNat (0xc0 + n / twoTo 6), low 0]
  else if n < 0x10000 then [.ofNat (0xe0 + n / twoTo 12), low 6, low 0]
  else [.ofNat (0xf0 + n / twoTo 18), low 12, low 6, low 0]

/-- The number that characters write. -/
def numberOf (written : List Char) : Cell :=
  let isNegative := written.head? == some '-'
  let digits := if isNegative then written.drop 1 else written
  if isHexadecimal digits && (hexDigits digits).length ≤ 16 then
    let n := Int64.ofNat (valueOfHexDigits (hexDigits digits))
    .integer (if isNegative then -n else n)
  else if isHexadecimal digits then numericFront (hexText written)
  else numericFront written

/-- The cell that stands for a leaf. -/
def cell (l : Leaf) : Cell :=
  match l.kind with
  | .nothing => .null
  | .yes => .ofBool true
  | .no => .ofBool false
  | .integer | .hexInteger => numberOf l.written
  | .real | .looseReal => .real (numericFront l.written).double
  | .plainText | .rawText => .text (String.ofList l.written)
  | .escapedText | .looseText => .ofBytes (l.characters.flatMap bytesOf)

end Leaf

/-! ## Documents -/

namespace Document

/-- Characters with a comma between them. -/
def joined (parts : List (List Char)) : List Char :=
  [','].intercalate parts

/-- A document as JSON without blanks. -/
def write : Document → List Char :=
  reduce {
    leaf := Leaf.write
    array := fun items => '[' :: joined items ++ [']']
    object := fun members =>
      '\x7b' :: joined (members.map fun (l, cs) => l.write ++ ':' :: cs) ++ ['\x7d'] }

/-- A document as a text. -/
def text (d : Document) : String :=
  String.ofList d.write

/-- Parts on lines of their own between brackets, so many levels deep. -/
def block (indent : List Char) (opening closing : Char) (parts : List (Nat → List Char))
    (level : Nat) : List Char :=
  let margin (level : Nat) : List Char := '\n' :: (List.replicate level indent).flatten
  if parts.isEmpty then [opening, closing]
  else
    opening :: joined (parts.map fun part => margin (level + 1) ++ part (level + 1)) ++
      margin level ++ [closing]

/-- A document as JSON over several lines. -/
def pretty (indent : List Char) (d : Document) : List Char :=
  d.reduce {
    leaf := fun l _ => l.write
    array := block indent '[' ']'
    object := fun members =>
      block indent '\x7b' '\x7d'
        (members.map fun (l, part) => fun level => l.write ++ ": ".toList ++ part level) } 0

/-- The cell that stands for a document: an array or object is one as a text. -/
def cell : Document → Cell
  | leaf l => l.cell
  | d => .text d.text

end Document

end SchemaEvolution.Database
