import SchemaEvolution.Database.Affinity
import SchemaEvolution.Text.Utf8

/-!
# Formatted texts

A format is a text in which directives stand for arguments: a percent sign, flags, a width, a
precision and a letter.  Arguments that are missing count as zero or as an empty text.  Widths and
precisions count bytes, so formats and texts are handled as bytes here, each as the character with
its number as code.

* `Format.directive` reads a directive.
* `Format.apply` fills in the arguments of a format.
-/

namespace SchemaEvolution.Database

/-- The bytes of a cell as a text up to a null character, as characters. -/
def Cell.octets (c : Cell) : List Char :=
  (c.textual.bytes.takeWhile (· != 0)).map fun b => Char.ofNat b.toNat

/-- The text of bytes that are given as characters. -/
def Cell.ofOctets (cs : List Char) : Cell :=
  .ofBytes (cs.map fun c => UInt8.ofNat c.toNat)

namespace Format

/-- A directive, without its letter. -/
structure Directive where
  isLeft : Bool := false
  /-- What stands before a number that is not negative. -/
  plus : List Char := []
  isAlternate : Bool := false
  isZeroed : Bool := false
  /-- Widths and precisions count characters, and real numbers are exact. -/
  isExact : Bool := false
  isGrouped : Bool := false
  width : Nat := 0
  precision : Option Nat := none

/-! ## Reading -/

/-- The directive with a flag. -/
def Directive.flag? (d : Directive) (c : Char) : Option Directive :=
  match c with
  | '-' => some { d with isLeft := true }
  | '+' => some { d with plus := ['+'] }
  | ' ' => some { d with plus := [' '] }
  | '#' => some { d with isAlternate := true }
  | '!' => some { d with isExact := true }
  | '0' => some { d with isZeroed := true }
  | ',' => some { d with isGrouped := true }
  | _ => none

/-- Takes the flags of a directive. -/
def flags : Directive → List Char → Directive × List Char
  | d, c :: cs =>
    match d.flag? c with
    | some d => flags d cs
    | none => (d, c :: cs)
  | d, [] => (d, [])

/-- An integer of thirty-two bits. -/
def int32 (n : Int) : Int :=
  n.bmod 4294967296

/-- The size that digits write, with thirty-one bits. -/
def sizeOf (ds : List Char) : Nat :=
  valueOfDigits ds % 2147483648

/-- Takes a width: digits, or an asterisk that stands for an argument. -/
def width (d : Directive) (cs : List Char) (arguments : List Cell) :
    Directive × List Char × List Cell :=
  match cs with
  | '*' :: cs =>
    let n := int32 (arguments.headD (.integer 0)).int64.toInt
    let size := if n = -2147483648 then 0 else n.natAbs
    ({ d with width := size, isLeft := d.isLeft || n < 0 }, cs, arguments.tail)
  | cs =>
    let ds := cs.takeWhile Char.isDigit
    ({ d with width := sizeOf ds }, cs.drop ds.length, arguments)

/-- Takes a precision, if there is one. -/
def precision (d : Directive) (cs : List Char) (arguments : List Cell) :
    Directive × List Char × List Cell :=
  match cs with
  | '.' :: '*' :: cs =>
    let n := int32 (arguments.headD (.integer 0)).int64.toInt
    let size := if n = -2147483648 then none else some n.natAbs
    ({ d with precision := size }, cs, arguments.tail)
  | '.' :: cs =>
    let ds := cs.takeWhile Char.isDigit
    ({ d with precision := some (sizeOf ds) }, cs.drop ds.length, arguments)
  | cs => (d, cs, arguments)

/-- Takes the letters for long numbers, of which there are two at most. -/
def long : List Char → List Char
  | 'l' :: 'l' :: cs | 'l' :: cs => cs
  | cs => cs

/-- Takes a directive up to its letter. -/
def directive (cs : List Char) (arguments : List Cell) : Directive × List Char × List Cell :=
  let (d, cs) := flags {} cs
  let (d, cs, arguments) := width d cs arguments
  let (d, cs, arguments) := precision d cs arguments
  (d, long cs, arguments)

/-! ## Numbers -/

/-- Characters filled up with blanks to a width; `length` of them count. -/
def filled (d : Directive) (length : Nat) (cs : List Char) : List Char :=
  let blanks := List.replicate (d.width - length) ' '
  if d.isLeft then cs ++ blanks else blanks ++ cs

/-- Digits in groups of three. -/
def grouped (ds : List Char) : List Char :=
  (ds.zipIdx.map fun (c, i) =>
    if 0 < i ∧ (ds.length - i) % 3 = 0 then [',', c] else [c]).flatten

/-- An integer: a sign, what tells the base, and digits with what follows them, of which there are
at least as many as the precision says.  With zeros it is as long as the width even if it stands at
the left, but what tells the base, and the marks between groups, come in addition. -/
def integer (d : Directive) (sign base digits : List Char) (isGrouped : Bool) : List Char :=
  let least :=
    if d.isZeroed then max (d.precision.getD 0) (d.width - sign.length) else d.precision.getD 0
  let ds := List.replicate (least - digits.length) '0' ++ digits
  let cs := base ++ sign ++ (if isGrouped then grouped ds else ds)
  filled d cs.length cs

/-- The sign of a number. -/
def sign (d : Directive) (negative : Bool) : List Char :=
  if negative then ['-'] else d.plus

/-- An integer with a sign. -/
def signed (d : Directive) (n : Int) (ending : List Char) (isGrouped : Bool) : List Char :=
  integer d (sign d (n < 0)) [] (digits n.natAbs ++ ending) isGrouped

/-- The letters behind an ordinal number. -/
def ordinalEnding (n : Nat) : List Char :=
  if n / 10 % 10 = 1 then ['t', 'h']
  else match n % 10 with
    | 1 => ['s', 't']
    | 2 => ['n', 'd']
    | 3 => ['r', 'd']
    | _ => ['t', 'h']

/-- The bits of an integer as a number to a base, which a text may tell. -/
def bits (d : Directive) (n : Int64) (base : Nat) (isCapital : Bool) (told : List Char) :
    List Char :=
  let size := n.toUInt64.toNat
  let ds := (Nat.toDigits base size).map fun c => if isCapital then c.toUpper else c
  integer d [] (if d.isAlternate && size != 0 then told else []) ds false

/-- The size of an infinite number, where zeros would fill it up. -/
def hugeFigures : Figures :=
  ⟨['9'], 1000⟩

/-- A real number. -/
def real (d : Directive) (style : RealStyle) (isCapital : Bool) (x : Binary64) : List Char :=
  let front := sign d (x.isNegative && !x.isZero)
  if !x.isFinite && !d.isZeroed then
    let cs := front ++ "Inf".toList
    filled d cs.length cs
  else
    let layout : RealLayout := {
      style := style, precision := d.precision.getD 6, keepsZeros := d.isAlternate,
      isExact := d.isExact }
    let cs := if x.isFinite then layout.size x else layout.spelled hugeFigures
    let whole := cs.takeWhile Char.isDigit
    let cs := if d.isGrouped then grouped whole ++ cs.drop whole.length else cs
    let cs := if isCapital then cs.map Char.toUpper else cs
    let zeros :=
      if d.isZeroed && !d.isLeft then d.width - front.length - cs.length else 0
    let cs := front ++ List.replicate zeros '0' ++ cs
    filled d cs.length cs

/-! ## Texts -/

/-- A byte, given as a character, that only continues a character. -/
def isContinuation (c : Char) : Bool :=
  Utf8.isContinuation (UInt8.ofNat c.toNat)

/-- The bytes of the first characters. -/
def firstCharacters (count : Nat) (cs : List Char) : List Char :=
  let all := Utf8.characters (cs.map fun c => UInt8.ofNat c.toNat)
  ((all.take count).flatten).map fun b => Char.ofNat b.toNat

/-- The part of a text that a precision leaves. -/
def shortened (d : Directive) (cs : List Char) : List Char :=
  match d.precision with
  | some n => if d.isExact then firstCharacters n cs else cs.take n
  | none => cs

/-- Bytes filled up to a width, of which those count that do not continue a character. -/
def filledCharacters (d : Directive) (cs : List Char) : List Char :=
  filled d (cs.filter (!isContinuation ·)).length cs

/-- Bytes filled up to a width. -/
def filledText (d : Directive) (cs : List Char) : List Char :=
  if d.isExact then filledCharacters d cs else filled d cs.length cs

/-- Characters with one of them doubled. -/
def doubling (mark : Char) (cs : List Char) : List Char :=
  cs.flatMap fun c => if c == mark then [c, c] else [c]

/-- A text in which a mark is doubled. -/
def escaped (d : Directive) (mark : Char) (isQuoted : Bool) (c : Cell) : List Char :=
  if c.isNull then
    filledText d (shortened d (if isQuoted then "NULL" else "(NULL)").toList)
  else
    let cs := doubling mark (shortened d c.octets)
    filledText d (if isQuoted then mark :: cs ++ [mark] else cs)

/-- The first character of a text, and a null character if there is none; it has four bytes at
most. -/
def firstCharacter (c : Cell) : List Char :=
  match c.octets with
  | [] => ['\x00']
  | first :: rest =>
    if Utf8.isLead (UInt8.ofNat first.toNat) then
      first :: (rest.takeWhile isContinuation).take 3
    else [first]

/-- A character, as often as the precision says. -/
def character (d : Directive) (c : Cell) : List Char :=
  filledCharacters d ((List.replicate (max (d.precision.getD 1) 1) (firstCharacter c)).flatten)

/-! ## Filling in -/

/-- What a directive gives for an argument. -/
def shown? (d : Directive) (letter : Char) (c : Cell) : Option (List Char) :=
  let n := c.int64
  match letter with
  | 'd' | 'i' => some (signed d n.toInt [] d.isGrouped)
  | 'u' => some (integer d [] [] (digits n.toUInt64.toNat) d.isGrouped)
  | 'r' => some (signed d n.toInt (ordinalEnding n.toInt.natAbs) false)
  | 'x' => some (bits d n 16 false ['0', 'x'])
  | 'X' => some (bits d n 16 true ['0', 'X'])
  | 'p' => some (bits d n 16 true ['0', 'x'])
  | 'o' => some (bits d n 8 false ['0'])
  | 'f' => some (real d .fixed false c.double)
  | 'e' => some (real d .exponential false c.double)
  | 'E' => some (real d .exponential true c.double)
  | 'g' => some (real d .general false c.double)
  | 'G' => some (real d .general true c.double)
  | 'c' => some (character d c)
  | 's' | 'z' => some (filledText d (shortened d c.octets))
  | 'q' => some (escaped d '\x27' false c)
  | 'Q' => some (escaped d '\x27' true c)
  | 'w' => some (escaped d '"' false c)
  | _ => none

/-- A directive that takes a text. -/
def takesText (letter : Char) : Bool :=
  "sqQwzc".toList.contains letter

/-- The greatest length of a text. -/
def greatestLength : Nat := 1000000000

/-- What a directive gives would be longer than a text can be. -/
def isTooLong (d : Directive) (letter : Char) : Bool :=
  greatestLength ≤ d.width ||
    "diurxXpoc".toList.contains letter && d.precision.any (greatestLength ≤ ·)

/-- A format with its arguments filled in, from a text of at most so many characters: something, or
nothing if nothing was written, or no answer if it became too long.  A directive without a meaning
ends it. -/
def fill : (steps : Nat) → List Char → List Cell → Option (Option (List Char))
  | 0, _, _ | _, [], _ => some none
  | _ + 1, ['%'], _ => some (some ['%'])
  | steps + 1, '%' :: cs, arguments =>
    let onwards (shown : List Char) (cs : List Char) (arguments : List Cell) :=
      (fill steps cs arguments).map fun rest => some (shown ++ rest.getD [])
    match directive cs arguments with
    | (_, [], _) => some none
    | (d, letter :: cs, arguments) =>
      if letter == 'n' then onwards [] cs arguments
      else if isTooLong d letter then none
      else if letter == '%' then onwards (filled d 1 ['%']) cs arguments
      else
        let empty : Cell := if takesText letter then .null else .integer 0
        match shown? d letter (arguments.headD empty) with
        | some shown => onwards shown cs arguments.tail
        | none => some none
  | steps + 1, c :: cs, arguments =>
    (fill steps cs arguments).map fun rest => some (c :: rest.getD [])

/-- A format with its arguments filled in. -/
def apply (format : Cell) (arguments : List Cell) : Cell :=
  if format.isNull then .null
  else
    match fill format.octets.length format.octets arguments with
    | some (some cs) => .ofOctets cs
    | _ => .null

end Format

end SchemaEvolution.Database
