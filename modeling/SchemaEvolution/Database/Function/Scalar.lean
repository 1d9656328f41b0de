import SchemaEvolution.Database.Function.Chance
import SchemaEvolution.Database.Function.Format
import SchemaEvolution.Database.Function.Pattern
import SchemaEvolution.Database.Operator
import SchemaEvolution.Database.Release

/-!
# Functions of cells

The functions that give one cell for some others.  `ScalarFunction.find?` looks one up by its name
and the number of its arguments.
-/

namespace SchemaEvolution.Database

/-- A function that gives one cell for some others. -/
structure ScalarFunction where
  name : String
  /-- The least and the greatest number of arguments. -/
  least : Nat
  most : Option Nat
  /-- It gives the same cell for the same arguments. -/
  isDeterministic : Bool := true
  /-- The present counts for what it gives for some cells. -/
  usesClock : List Cell → Bool := fun _ => false
  /-- What it gives, where texts are compared by a collation. -/
  run : Database → Collation → List Cell → Except Fault Cell
  /-- What it gives by chance, for the number of a call. -/
  chance : Option (UInt64 → List Cell → Except Fault Cell) := none

namespace ScalarFunction

/-! ## Numbers -/

/-- The size of a number. -/
def abs : Cell → Except Fault Cell
  | .null => .ok .null
  | .integer n =>
    if n = Int64.minValue then .error (.functionFault "integer overflow")
    else .ok (.integer (if n < 0 then -n else n))
  | c =>
    let x := c.double
    .ok (.real (if x.isNegative && !x.isZero then x.negated else x))

/-- The sign of a number. -/
def sign (c : Cell) : Cell :=
  match c.numeric with
  | .integer n => .integer (if n < 0 then -1 else if 0 < n then 1 else 0)
  | .real x => .integer (if x.isZero then 0 else if x.isNegative then -1 else 1)
  | _ => .null

/-- A cell as an integer of thirty-two bits; higher bits are left out. -/
def int32 (c : Cell) : Int :=
  Format.int32 c.int64.toInt

/-- The nearest integer, halves going away from zero; half a unit is added as doubles are. -/
def nearest (x : Binary64) : Binary64 :=
  let half : Binary64 := .ofSigned (if x.isNegative && !x.isZero then -1 else 1) 2
  .ofInteger (((x.add? half).getD x).truncated)

/-- A number rounded to some places behind the point. -/
def round (c : Cell) (places : Cell) : Cell :=
  if c.isNull || places.isNull then .null
  else
    let n := (max 0 (min (int32 places) 30)).toNat
    let x := c.double
    let (num, den) := x.ratio
    if !x.isFinite || twoTo 52 * den < num.natAbs then .real x
    else if n = 0 then .real (nearest x)
    else
      let layout : RealLayout := { style := .fixed, precision := n, isExact := true }
      let cs := (if x.isNegative && !x.isZero then ['-'] else []) ++ layout.size x
      .real (numericFront cs).double

/-! ## Texts

Texts are handled as bytes.  Many functions look at a text only up to a null character. -/

/-- The bytes of a cell as a text. -/
def whole (c : Cell) : List UInt8 :=
  c.textual.bytes

/-- The bytes of a cell as they are kept. -/
def kept (db : Database) : Cell → List UInt8
  | .text s => db.settings.encoding.encode s
  | c => whole c

/-- How many bytes a cell takes as a text or blob. -/
def keptLength (db : Database) : Cell → Cell
  | .null => .null
  | .blob bytes => .ofNat bytes.length
  | c => match c.textual with
    | .text s => .ofNat (db.settings.encoding.encode s).length
    | c => .ofNat (whole c).length

/-- The bytes of a cell as a text up to a null character. -/
def visible (c : Cell) : List UInt8 :=
  (whole c).takeWhile (· != 0)

/-- The characters of a cell as a text up to a null character, each with its bytes. -/
def characters (c : Cell) : List (List UInt8) :=
  Utf8.characters (visible c)

/-- The codes of the characters of a cell as a text up to a null character. -/
def codes (c : Cell) : List Nat :=
  Utf8.codes (visible c)

/-- The length of a text in characters, or of bytes. -/
def length : Cell → Cell
  | .null => .null
  | .blob bytes => .ofNat bytes.length
  | c => .ofNat (characters c).length

/-- A part of a list, by the number of its first item and its length; a negative number counts from
the end, and a negative length goes to the left. -/
def part {α : Type} (items : List α) (first : Int) (count : Option Int) : List α :=
  let size : Int := items.length
  let isBackward := count.any (· < 0)
  let wanted : Int := (count.map fun n => (n.natAbs : Int)).getD Format.greatestLength
  let (start, wanted) : Int × Int :=
    if first < 0 then
      if first + size < 0 then (0, max 0 (wanted + first + size)) else (first + size, wanted)
    else if 0 < first then (first - 1, wanted)
    else (0, if 0 < wanted then wanted - 1 else wanted)
  let (start, wanted) : Int × Int :=
    if isBackward then
      if start - wanted < 0 then (0, start) else (start - wanted, wanted)
    else (start, wanted)
  (items.drop start.toNat).take wanted.toNat

/-- A part of a text or of bytes; there is none of no bytes. -/
def substring (arguments : List Cell) : Cell :=
  match arguments with
  | c :: first :: rest =>
    if c.isNull || first.isNull || rest.any (·.isNull) then .null
    else
      let count := rest.head?.map int32
      match c with
      | .blob [] => .null
      | .blob bytes => .blob (part bytes (int32 first) count)
      | c => .ofBytes (part (characters c) (int32 first) count).flatten
  | _ => .null

/-- Where bytes occur in others for the first time, behind so many places.  In a text, continuation
bytes are no places of their own, except at its front. -/
def position (isText : Bool) (needle : List UInt8) :
    (isFront : Bool) → (before : Nat) → List UInt8 → Nat
  | _, _, [] => 0
  | isFront, before, b :: bs =>
    if isText && !isFront && Utf8.isContinuation b then position isText needle false before bs
    else if needle.isPrefixOf (b :: bs) then before + 1
    else position isText needle false (before + 1) bs

/-- Where a text or bytes occur in others for the first time. -/
def instr (c needle : Cell) : Cell :=
  if c.isNull || needle.isNull then .null
  else if (whole needle).isEmpty then .integer 1
  else
    let isText := !(c matches .blob _) || !(needle matches .blob _)
    .ofNat (position isText (whole needle) true 0 (whole c))

/-- Bytes without some parts at their front, where the first part that fits is taken. -/
def trimFront (parts : List (List UInt8)) : (skip : Nat) → List UInt8 → List UInt8
  | _, [] => []
  | skip + 1, _ :: bs => trimFront parts skip bs
  | 0, b :: bs =>
    match parts.find? (·.isPrefixOf (b :: bs)) with
    | some part => trimFront parts (part.length - 1) bs
    | none => b :: bs

/-- A text without some characters at its ends. -/
def trim (left right : Bool) (c : Cell) (others : Cell) : Cell :=
  if c.isNull || others.isNull then .null
  else
    let parts := characters others
    let bs := if left then trimFront parts 0 (whole c) else whole c
    .ofBytes (if right then (trimFront (parts.map List.reverse) 0 bs.reverse).reverse else bs)

/-- Bytes with all occurrences of a part replaced; `skip` bytes belong to one before. -/
def replaceAll (old new : List UInt8) : (skip : Nat) → List UInt8 → List UInt8
  | _, [] => []
  | skip + 1, _ :: bs => replaceAll old new skip bs
  | 0, b :: bs =>
    if old.isPrefixOf (b :: bs) then new ++ replaceAll old new (old.length - 1) bs
    else b :: replaceAll old new 0 bs

/-- A text with all occurrences of a part replaced. -/
def replace (c old new : Cell) : Cell :=
  if c.isNull || old.isNull then .null
  else if (visible old).isEmpty then .ofBytes (whole c)
  else if new.isNull then .null
  else .ofBytes (replaceAll (whole old) (whole new) 0 (whole c))

/-- A text with capital or small letters of ASCII. -/
def lettered (letter : Char → Char) (c : Cell) : Cell :=
  if c.isNull then .null
  else
    .ofBytes ((whole c).map fun b =>
      if b < 128 then UInt8.ofNat (letter (Char.ofNat b.toNat)).toNat else b)

/-- Bytes in hexadecimal digits. -/
def hexText (bytes : List UInt8) : String :=
  String.ofList (bytes.flatMap hexByte)

/-- The value of a hexadecimal digit. -/
def digitValue? (b : UInt8) : Option Nat :=
  if b < 128 then Token.hexValue? (Char.ofNat b.toNat) else none

/-- The bytes that hexadecimal digits write, in pairs, between which other characters may stand. -/
def bytesOfHex (others : List Nat) : List (List UInt8) → Option (List UInt8)
  | [] => some []
  | [b] :: rest =>
    match digitValue? b with
    | some high =>
      match rest with
      | [d] :: rest => do
        let low ← digitValue? d
        return UInt8.ofNat (16 * high + low) :: (← bytesOfHex others rest)
      | _ => none
    | none => if others.contains b.toNat then bytesOfHex others rest else none
  | c :: rest => if others.contains (Utf8.code c) then bytesOfHex others rest else none

/-- The bytes that hexadecimal digits write; other characters that are given may stand between. -/
def unhex (c : Cell) (others : Cell) : Cell :=
  if c.isNull || others.isNull then .null
  else
    match bytesOfHex (Utf8.codes (whole others)) (characters c) with
    | some bytes => .blob bytes
    | none => .null

/-- A cell as it is written in a statement. -/
def quote : Cell → Cell
  | .null => .text "NULL"
  | .integer n => .text (String.ofList (signedDigits n.toInt))
  | .real x =>
    let written (style : RealStyle) (precision : Nat) : List Char :=
      Format.real { precision := some precision, isExact := true, isZeroed := true } style false x
    let short := written .general 15
    let isSame := (numericFront short).double.equal x
    .text (String.ofList (if isSame then short else written .exponential 20))
  | .blob bytes => .text ("X'" ++ hexText bytes ++ "'")
  | c => .ofOctets (Format.escaped {} '\x27' true c)

/-- The characters of some codes as a text. -/
def ofCodes (numbers : List Cell) : Cell :=
  .ofBytes (numbers.flatMap fun c =>
    let n := c.int64.toInt
    Utf8.encode (if n < 0 ∨ 0x10FFFF < n then 0xFFFD else n.toNat))

/-- The code of the first character. -/
def unicode (c : Cell) : Cell :=
  match c.isNull, codes c with
  | false, n :: _ => .ofNat n
  | _, _ => .null

/-- The texts of cells that are not empty, with another one between them. -/
def joined (separator : List UInt8) (cells : List Cell) : Cell :=
  .ofBytes (separator.intercalate ((cells.map whole).filter (!·.isEmpty)))

/-- The group of a letter by its sound, and `0` for any other character. -/
def soundDigit (c : Char) : Char :=
  let c := c.toUpper
  if "BFPV".toList.contains c then '1'
  else if "CGJKQSXZ".toList.contains c then '2'
  else if "DT".toList.contains c then '3'
  else if c == 'L' then '4'
  else if "MN".toList.contains c then '5'
  else if c == 'R' then '6'
  else '0'

/-- The digits of characters by their sounds, without repetitions of the one before. -/
def soundDigits : (before : Char) → List Char → List Char
  | _, [] => []
  | before, c :: cs =>
    let d := soundDigit c
    if d == '0' then soundDigits '0' cs
    else if d == before then soundDigits before cs
    else d :: soundDigits d cs

/-- A word by its sound: its first letter and three digits.  Of a byte, seven bits count. -/
def soundex (c : Cell) : String :=
  let isLetter (b : UInt8) : Bool := b < 128 && (Char.ofNat b.toNat).isAlpha
  let bytes := (visible c).dropWhile (!isLetter ·)
  match bytes.map fun b => Char.ofNat (b &&& 0x7F).toNat with
  | [] => "?000"
  | first :: rest =>
    String.ofList
      (first.toUpper :: (soundDigits (soundDigit first) rest ++ ['0', '0', '0']).take 3)

/-! ## Patterns -/

/-- The greatest length of a pattern, in bytes. -/
def longestPattern : Nat := 50000

/-- A pattern is not too long. -/
def checkPattern (pattern : Cell) : Except Fault Unit :=
  if longestPattern < (whole pattern).length then
    .error (.functionFault "LIKE or GLOB pattern too complex")
  else .ok ()

/-- Whether a text is like a pattern. -/
def like (caseSensitive : Bool) (arguments : List Cell) : Except Fault Cell := do
  match arguments with
  | pattern :: c :: rest =>
    checkPattern pattern
    match rest.head? with
    | some e =>
      if e.isNull then return .null
      match codes e with
      | [escape] => return matched (some escape) pattern c
      | _ => throw (.functionFault "ESCAPE expression must be a single character")
    | none => return matched none pattern c
  | _ => return .null
where
  /-- The match, or nothing if there is nothing to match. -/
  matched (escape : Option Nat) (pattern c : Cell) : Cell :=
    if pattern.isNull || c.isNull then .null
    else .ofBool (Pattern.like caseSensitive escape (codes pattern) (codes c))

/-- Whether a text matches a pattern of `GLOB`. -/
def glob (pattern c : Cell) : Except Fault Cell := do
  checkPattern pattern
  return if pattern.isNull || c.isNull then .null
    else .ofBool (Pattern.glob (codes pattern) (codes c))

/-! ## Choices -/

/-- The one of two cells that comes first or last; of equal ones, the former is the last, and the
latter the first. -/
def better (wanted : Ordering) (collation : Collation) (a b : Cell) : Cell :=
  let order := b.compare collation a
  if order = wanted || order = .eq && wanted = .lt then b else a

/-- The first or last of cells in their order; nothing if one of them is nothing. -/
def extreme (wanted : Ordering) (collation : Collation) (cells : List Cell) : Cell :=
  if cells.any (·.isNull) then .null
  else
    match cells with
    | [] => .null
    | c :: cs => cs.foldl (better wanted collation) c

/-- The first cell that is something. -/
def coalesce (cells : List Cell) : Cell :=
  (cells.find? (!·.isNull)).getD .null

/-! ## The list of functions -/

/-- The cell at a place of the arguments. -/
def nth (arguments : List Cell) (i : Nat) : Cell :=
  arguments.getD i .null

/-- A function that needs only its arguments. -/
def pure (name : String) (least : Nat) (most : Option Nat) (run : List Cell → Cell) :
    ScalarFunction where
  name := name
  least := least
  most := most
  run := fun _ _ cells => .ok (run cells)

/-- A function of one argument. -/
def one (name : String) (run : Cell → Cell) : ScalarFunction :=
  pure name 1 (some 1) fun cells => run (nth cells 0)

/-- A function that asks the session. -/
def asking (name : String) (run : Database → Cell) : ScalarFunction where
  name := name
  least := 0
  most := some 0
  isDeterministic := false
  run := fun db _ _ => .ok (run db)

/-- A function that gives something by chance. -/
def ofChance (name : String) (count : Nat) (run : UInt64 → List Cell → Except Fault Cell) :
    ScalarFunction where
  name := name
  least := count
  most := some count
  isDeterministic := false
  run := fun _ _ cells => run 0 cells
  chance := some run

/-- A function that exists, but cannot be used like this. -/
def unusable (name : String) : ScalarFunction where
  name := name
  least := 0
  most := none
  run := fun _ _ _ => .error (.unableToUse name)

/-- The functions of numbers. -/
def ofNumbers : List ScalarFunction := [
  { name := "abs", least := 1, most := some 1, run := fun _ _ cells => abs (nth cells 0) },
  one "sign" sign,
  pure "round" 1 (some 2) fun cells => round (nth cells 0) (cells.getD 1 (.integer 0)),
  ofChance "random" 0 fun seed _ => .ok (.integer (Chance.integer seed)),
  ofChance "randomblob" 1 fun seed cells =>
    let size := (max 1 (nth cells 0).int64.toInt).toNat
    if Format.greatestLength < size then .error .tooBig
    else .ok (.blob (Chance.bytes seed size))]

/-- The functions of texts. -/
def ofTexts : List ScalarFunction := [
  one "length" length,
  { name := "octet_length", least := 1, most := some 1
    run := fun db _ cells => .ok (keptLength db (nth cells 0)) },
  one "upper" (lettered Char.toUpper),
  one "lower" (lettered Char.toLower),
  pure "substr" 2 (some 3) substring,
  pure "substring" 2 (some 3) substring,
  pure "instr" 2 (some 2) fun cells => instr (nth cells 0) (nth cells 1),
  pure "trim" 1 (some 2) fun cells => trim true true (nth cells 0) (cells.getD 1 (.text " ")),
  pure "ltrim" 1 (some 2) fun cells => trim true false (nth cells 0) (cells.getD 1 (.text " ")),
  pure "rtrim" 1 (some 2) fun cells => trim false true (nth cells 0) (cells.getD 1 (.text " ")),
  pure "replace" 3 (some 3) fun cells => replace (nth cells 0) (nth cells 1) (nth cells 2),
  { name := "hex", least := 1, most := some 1
    run := fun db _ cells => .ok (.text (hexText (kept db (nth cells 0)))) },
  pure "unhex" 1 (some 2) fun cells => unhex (nth cells 0) (cells.getD 1 (.text "")),
  one "quote" quote,
  one "unicode" unicode,
  pure "char" 0 none ofCodes,
  pure "concat" 1 none (joined []),
  pure "concat_ws" 2 none fun cells =>
    if (nth cells 0).isNull then .null else joined (whole (nth cells 0)) cells.tail,
  one "soundex" fun c => .text (soundex c),
  pure "printf" 0 none fun cells => format cells,
  pure "format" 0 none fun cells => format cells,
  { name := "zeroblob", least := 1, most := some 1,
    run := fun _ _ cells =>
      let size := (nth cells 0).int64.toInt.toNat
      if Format.greatestLength < size then .error .tooBig
      else .ok (.blob (List.replicate size 0)) }]
where
  /-- A format with its arguments. -/
  format (cells : List Cell) : Cell :=
    match cells with
    | [] => .null
    | c :: cells => Format.apply c cells

/-- The functions that choose or test. -/
def ofChoices : List ScalarFunction := [
  one "typeof" fun c => .text c.className,
  pure "coalesce" 2 none coalesce,
  pure "ifnull" 2 (some 2) coalesce,
  pure "iif" 3 (some 3) fun cells =>
    if (nth cells 0).truth? == some true then nth cells 1 else nth cells 2,
  { name := "nullif", least := 2, most := some 2,
    run := fun _ c cells =>
      .ok (if (nth cells 0).equal c (nth cells 1) then .null else nth cells 0) },
  { name := "min", least := 2, most := none, run := fun _ c cells => .ok (extreme .lt c cells) },
  { name := "max", least := 2, most := none, run := fun _ c cells => .ok (extreme .gt c cells) },
  one "likely" id,
  one "unlikely" id,
  pure "likelihood" 2 (some 2) fun cells => nth cells 0,
  { name := "like", least := 2, most := some 3,
    run := fun db _ cells => like (db.isOn .caseSensitiveLike) cells },
  { name := "glob", least := 2, most := some 2
    run := fun _ _ cells => glob (nth cells 0) (nth cells 1) },
  one "subtype" fun _ => .integer 0]

/-- The functions that can be used only by modules, and by the session itself. -/
def ofModules : List ScalarFunction := [
  { unusable "MATCH" with least := 2, most := some 2 },
  { unusable "offsets" with least := 1, most := some 1 },
  { unusable "matchinfo" with least := 1, most := some 2 },
  { unusable "optimize" with least := 1, most := some 1 },
  unusable "snippet", unusable "highlight", unusable "bm25",
  one "fts5" fun _ => .null,
  pure "fts5_source_id" 0 (some 0) fun _ => .text ("fts5: " ++ Release.sourceId),
  pure "sqlite_log" 2 (some 2) fun _ => .null,
  { name := "load_extension", least := 1, most := some 2
    run := fun _ _ _ => .error (.functionFault "not authorized") }]

/-- Whether an option is one of those that are on; the prefix before its name counts for nothing,
and what stands behind it may be left out. -/
def isOption (c : Cell) : Cell :=
  if c.isNull then .null
  else
    let name := (foldName (c.string)).toList
    let name := if "sqlite_".toList.isPrefixOf name then name.drop 7 else name
    .ofBool (Release.options.any fun o =>
      let o := (foldName o).toList
      name.isPrefixOf o && (o.drop name.length).head?.all fun b => !Token.isWordChar b)

/-- The functions that ask the session. -/
def ofSession : List ScalarFunction := [
  asking "last_insert_rowid" fun db => .integer db.lastNumber,
  asking "changes" fun db => .ofNat db.changes,
  asking "total_changes" fun db => .ofNat db.totalChanges,
  pure "sqlite_version" 0 (some 0) fun _ => .text Release.version,
  pure "sqlite_source_id" 0 (some 0) fun _ => .text Release.sourceId,
  one "sqlite_compileoption_used" isOption,
  one "sqlite_compileoption_get" fun c =>
    let n := int32 c
    if n < 0 then .null else ((Release.options[n.toNat]?).map Cell.text).getD .null]

end ScalarFunction

end SchemaEvolution.Database
