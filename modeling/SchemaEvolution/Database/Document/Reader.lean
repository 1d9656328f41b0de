import SchemaEvolution.Database.Document.Basic
import SchemaEvolution.Database.Token

/-!
# Reading documents

`Document.read` reads a document from a text.  It takes JSON, and beside that what JSON5 allows:
comments, other white space, names without quotes as labels, single quotes, further escapes, commas
before a closing bracket, and more ways to write a number.  The result says whether the text needed
that.

A fault is the number of characters from where it was found to the end of the text.
-/

namespace SchemaEvolution.Database.Document

/-! ## Blanks -/

/-- White space of JSON. -/
def isBlank (c : Char) : Bool :=
  c == ' ' || c == '\t' || c == '\n' || c == '\r'

/-- A character that ends a line. -/
def isLineEnd (c : Char) : Bool :=
  c == '\n' || c == '\r' || c == '\u2028' || c == '\u2029'

/-- White space of JSON5. -/
def isLooseBlank (c : Char) : Bool :=
  let n := c.toNat
  isBlank c || isLineEnd c || n == 0x0b || n == 0x0c || n == 0xa0 || n == 0x1680 ||
    0x2000 ≤ n && n ≤ 0x200a || n == 0x202f || n == 0x205f || n == 0x3000 || n == 0xfeff

/-- What follows a comment that ends with a star and a slash. -/
def afterComment? : List Char → Option (List Char)
  | '*' :: '/' :: cs => some cs
  | _ :: cs => afterComment? cs
  | [] => none

/-- What follows white space and comments of JSON5; the number of steps is bounded. -/
def afterLooseBlanks : (bound : Nat) → List Char → List Char
  | bound + 1, '/' :: '*' :: cs =>
    match afterComment? cs with
    | some rest => afterLooseBlanks bound rest
    | none => '/' :: '*' :: cs
  | bound + 1, '/' :: '/' :: cs =>
    afterLooseBlanks bound ((cs.dropWhile (!isLineEnd ·)).drop 1)
  | bound + 1, c :: cs => if isLooseBlank c then afterLooseBlanks bound cs else c :: cs
  | _, cs => cs

/-! ## Readers -/

/-- A place in a text. -/
structure Place where
  /-- What is left of the text. -/
  rest : List Char
  /-- Something before the place is not in the grammar of JSON. -/
  isLoose : Bool := false

/-- A reader of a part of a text.  A fault is how many characters are left from it on. -/
abbrev Read (α : Type) := StateT Place (Except Nat) α

namespace Read

/-- The reader that finds a fault where so many characters are left. -/
def fail {α : Type} (left : Nat) : Read α :=
  throw left

/-- The reader that finds a fault at its place. -/
def failHere {α : Type} : Read α := do
  throw (← get).rest.length

/-- Goes on with another rest. -/
def goTo (rest : List Char) : Read Unit :=
  modify fun p => { p with rest := rest }

/-- Notes that the grammar of JSON does not suffice, if it does not. -/
def loosen (isLoose : Bool) : Read Unit :=
  modify fun p => { p with isLoose := p.isLoose || isLoose }

/-- Skips white space and comments. -/
def skipBlanks : Read Unit :=
  modify fun p =>
    let plain := p.rest.dropWhile isBlank
    let rest := afterLooseBlanks plain.length plain
    { rest := rest, isLoose := p.isLoose || rest.length != plain.length }

/-! ## Texts -/

/-- A text begins with so many hexadecimal digits. -/
def startsWithHex (count : Nat) (cs : List Char) : Bool :=
  let front := cs.take count
  front.length == count && front.all Token.isHexDigit

/-- Characters that may follow a backslash in JSON, with what follows them. -/
def isEscape (c : Char) (rest : List Char) : Bool :=
  "\"\\/bfnrt".toList.contains c || c == 'u' && startsWithHex 4 rest

/-- Characters that may follow a backslash in JSON5 besides. -/
def isLooseEscape (c : Char) (rest : List Char) : Bool :=
  c == '\x27' || c == '0' || c == 'v' || isLineEnd c || c == 'x' && startsWithHex 2 rest

/-- The rest of a text up to its closing mark: the characters read so far are in reverse order. -/
def textRest (mark : Char) : LeafKind → (isLoose : Bool) → (done : List Char) → List Char →
    Except Nat (Leaf × Bool × List Char)
  | _, _, _, [] => .error 0
  | kind, isLoose, done, c :: cs =>
    if c == mark then .ok (⟨kind, done.reverse⟩, isLoose, cs)
    else if c == '\\' then
      match cs with
      | e :: rest =>
        if isEscape e rest then
          textRest mark (if kind = .plainText then .escapedText else kind) isLoose
            (e :: c :: done) rest
        else if isLooseEscape e rest then textRest mark .looseText true (e :: c :: done) rest
        else .error cs.length
      | [] => .error 0
    else if c.toNat ≤ 0x1f then textRest mark .looseText true (c :: done) cs
    else if c == '"' then textRest mark .looseText isLoose (c :: done) cs
    else textRest mark kind isLoose (c :: done) cs

/-- A text behind its opening mark. -/
def text (mark : Char) (cs : List Char) : Read Leaf := do
  let (l, isLoose, rest) ← (textRest mark .plainText (mark != '"') [] cs : Except Nat _)
  goTo rest
  loosen isLoose
  return l

/-! ## Labels -/

/-- A character at the beginning of a label without quotes. -/
def startsName (c : Char) : Bool :=
  c.isAlpha || c == '_' || c == '$' || 0x80 ≤ c.toNat

/-- A label without quotes, and what follows it. -/
def nameRest : LeafKind → (done : List Char) → List Char → Leaf × List Char
  | kind, done, [] => (⟨kind, done.reverse⟩, [])
  | kind, done, c :: cs =>
    if c == '\\' && cs.head? == some 'u' && startsWithHex 4 cs.tail then
      nameRest .escapedText (c :: done) cs
    else if (startsName c || c.isDigit) && !isLooseBlank c then nameRest kind (c :: done) cs
    else (⟨kind, done.reverse⟩, c :: cs)

/-! ## Numbers -/

/-- What a number has been found to be. -/
structure Shape where
  isReal : Bool := false
  isLoose : Bool := false
  hasExponent : Bool := false

/-- The kind of a number. -/
def Shape.kind (s : Shape) : LeafKind :=
  if s.isReal then if s.isLoose then .looseReal else .real
  else if s.isLoose then .hexInteger else .integer

/-- A letter before an exponent. -/
def isExponentMark (c : Char) : Bool :=
  c == 'e' || c == 'E'

/-- A sign before digits. -/
def isSign (c : Char) : Bool :=
  c == '+' || c == '-'

/-- The characters before a place end in a digit and a point. -/
def endsWithPoint : (done : List Char) → Bool
  | '.' :: d :: _ => d.isDigit
  | _ => false

/-- The rest of a number: the characters read so far are in reverse order.  The result is the
number, whether JSON does not suffice for it, and what follows it. -/
def numberRest : Shape → (done : List Char) → List Char → Except Nat (Leaf × Bool × List Char)
  | s, done, [] => finished s done []
  | s, done, c :: cs =>
    if c.isDigit then numberRest s (c :: done) cs
    else if c == '.' then
      if s.isReal then .error (cs.length + 1)
      else numberRest { s with isReal := true } (c :: done) cs
    else if isExponentMark c then
      let isBehindDigit := done.head?.any Char.isDigit
      if s.hasExponent || !isBehindDigit && !endsWithPoint done then .error (cs.length + 1)
      else if cs.head?.any isSign then
        if cs.tail.head?.any Char.isDigit then
          numberRest ⟨true, s.isLoose || !isBehindDigit, true⟩ (c :: done) cs
        else .error cs.length
      else if cs.head?.any Char.isDigit then
        numberRest ⟨true, s.isLoose || !isBehindDigit, true⟩ (c :: done) cs
      else .error (cs.length + 1)
    else if isSign c && done.head?.any isExponentMark then numberRest s (c :: done) cs
    else finished s done (c :: cs)
where
  /-- The number, if it does not end too early. -/
  finished (s : Shape) (done rest : List Char) : Except Nat (Leaf × Bool × List Char) :=
    let s := { s with isLoose := s.isLoose || endsWithPoint done }
    if done.head?.any Char.isDigit || endsWithPoint done then
      .ok (⟨s.kind, done.reverse⟩, s.isLoose, rest)
    else .error rest.length

/-- A number whose digits start here, behind a sign or without one. -/
def digitsRest (sign cs : List Char) : Except Nat (Leaf × Bool × List Char) :=
  match cs with
  | '0' :: x :: rest =>
    if (x == 'x' || x == 'X') && rest.head?.any Token.isHexDigit then
      let ds := rest.takeWhile Token.isHexDigit
      .ok (⟨.hexInteger, sign ++ '0' :: x :: ds⟩, true, rest.drop ds.length)
    else if x.isDigit then .error (if sign.isEmpty then rest.length + 1 else cs.length)
    else numberRest {} sign cs
  | _ => numberRest {} sign cs

/-- A text begins with a word, in whatever letters. -/
def startsWithWord (word : String) (cs : List Char) : Bool :=
  (cs.take word.length).map Char.toLower == word.toList

/-- A number behind a sign. -/
def signedRest (sign : Char) (cs : List Char) : Except Nat (Leaf × Bool × List Char) :=
  match cs with
  | [] => .error 1
  | c :: _ =>
    if c.isDigit then digitsRest [sign] cs
    else if startsWithWord "inf" cs then
      let length := if startsWithWord "infinity" cs then 8 else 3
      .ok (⟨.real, sign :: "9e999".toList⟩, true, cs.drop length)
    else if c == '.' then numberRest { isLoose := true } [sign] cs
    else .error (cs.length + 1)

/-- A number, where its first character is known to be one of those that begin it. -/
def number (first : Char) (cs : List Char) : Read Leaf := do
  let found : Except Nat (Leaf × Bool × List Char) :=
    if isSign first then signedRest first cs
    else if first == '.' then
      if cs.head?.any Char.isDigit then numberRest { isReal := true, isLoose := true } ['.'] cs
      else .error (cs.length + 1)
    else digitsRest [] (first :: cs)
  let (l, isLoose, rest) ← found
  goTo rest
  loosen (isLoose || first == '+')
  return if first == '+' then { l with written := l.written.drop 1 } else l

/-! ## Words -/

/-- The words that are values, with whether JSON has them, and whether their letters may be large or
small. -/
def words : List (String × Leaf × Bool) := [
  ("null", ⟨.nothing, []⟩, false), ("true", ⟨.yes, []⟩, false), ("false", ⟨.no, []⟩, false),
  ("inf", ⟨.real, "9e999".toList⟩, true), ("infinity", ⟨.real, "9e999".toList⟩, true),
  ("nan", ⟨.nothing, []⟩, true), ("qnan", ⟨.nothing, []⟩, true), ("snan", ⟨.nothing, []⟩, true)]

/-- The word at the front of a text, with what follows it. -/
def word? (cs : List Char) : Option (Leaf × Bool × List Char) :=
  words.findSome? fun (w, l, isLoose) =>
    let front := cs.take w.length
    let isIt := if isLoose then startsWithWord w cs else front == w.toList
    let rest := cs.drop w.length
    if isIt && !rest.head?.any Char.isAlphanum then some (l, isLoose, rest) else none

/-! ## Documents -/

/-- What stands at a place: a document, or a mark that belongs to one around it. -/
inductive Found where
  | document (d : Document)
  | mark (c : Char)
  | finish

/-- A label of an object. -/
def label : Read Leaf := do
  match (← get).rest with
  | [] => fail 0
  | c :: cs =>
    if c == '"' || c == '\x27' then text c cs
    else
      let startsEscape := c == '\\' && cs.head? == some 'u' && startsWithHex 4 cs.tail
      if (word? (c :: cs)).isSome || !(startsName c || startsEscape) then failHere
      else
        let (l, rest) := nameRest .plainText [] (c :: cs)
        goTo rest
        loosen true
        return l

mutual

/-- What stands at a place.  Documents lie so many levels deep within one another at most, and the
number of steps is bounded. -/
def found : (bound levels : Nat) → Read Found
  | 0, _ => failHere
  | bound + 1, levels => do
    skipBlanks
    match (← get).rest with
    | [] => return .finish
    | c :: cs =>
      if c == '\x7b' || c == '[' then
        if levels = 0 then failHere
        goTo cs
        if c == '\x7b' then return .document (.object (← members bound (levels - 1) []))
        else return .document (.array (← items bound (levels - 1) []))
      else if ['\x7d', ']', ',', ':'].contains c then
        goTo cs
        return .mark c
      else if c == '"' || c == '\x27' then return .document (.leaf (← text c cs))
      else if c.isDigit || isSign c || c == '.' then
        return .document (.leaf (← number c cs))
      else
        match word? (c :: cs) with
        | some (l, isLoose, rest) =>
          goTo rest
          loosen isLoose
          return .document (.leaf l)
        | none => failHere

/-- The items of an array up to its end; those read so far are in reverse order. -/
def items : (bound levels : Nat) → (done : List Document) → Read (List Document)
  | 0, _, _ => failHere
  | bound + 1, levels, done => do
    skipBlanks
    let here := (← get).rest.length
    match ← found bound levels with
    | .document d =>
      skipBlanks
      match (← get).rest with
      | ',' :: cs =>
        goTo cs
        items bound levels (d :: done)
      | ']' :: cs =>
        goTo cs
        return (d :: done).reverse
      | cs => fail cs.length
    | .mark ']' =>
      loosen !done.isEmpty
      return done.reverse
    | _ => fail here

/-- The members of an object up to its end; those read so far are in reverse order. -/
def members : (bound levels : Nat) → (done : List (Leaf × Document)) →
    Read (List (Leaf × Document))
  | 0, _, _ => failHere
  | bound + 1, levels, done => do
    skipBlanks
    match (← get).rest with
    | '\x7d' :: cs =>
      goTo cs
      loosen !done.isEmpty
      return done.reverse
    | _ =>
      let l ← label
      skipBlanks
      match (← get).rest with
      | ':' :: cs => goTo cs
      | cs => fail cs.length
      skipBlanks
      let here := (← get).rest.length
      match ← found bound levels with
      | .document d =>
        skipBlanks
        match (← get).rest with
        | ',' :: cs =>
          goTo cs
          members bound levels ((l, d) :: done)
        | '\x7d' :: cs =>
          goTo cs
          return ((l, d) :: done).reverse
        | cs => fail cs.length
      | _ => fail here

end

/-- So many documents may lie within one another. -/
def mostLevels : Nat := 1000

/-- A document and nothing else.  What stands behind it is a fault of the whole text, and so is that
there is none. -/
def whole (bound : Nat) : Read Document := do
  let all := (← get).rest.length
  match ← found bound mostLevels with
  | .document d =>
    skipBlanks
    if (← get).rest.isEmpty then return d else fail all
  | .mark _ => do fail ((← get).rest.length + 1)
  | .finish => fail all

end Read

/-- The document that a text writes, and whether JSON does not suffice for it.  A fault is how many
characters are left from it on. -/
def read (cs : List Char) : Except Nat (Document × Bool) := do
  let (d, p) ← Read.whole (2 * cs.length + 2) { rest := cs }
  return (d, p.isLoose)

end SchemaEvolution.Database.Document
