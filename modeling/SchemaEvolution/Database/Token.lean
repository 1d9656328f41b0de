import SchemaEvolution.Number.Spelling
import SchemaEvolution.Text.Quoting

/-!
# Tokens of statements

The text of a statement as tokens: bare words and numbers, names and texts in quotes, bytes after an
`X`, parameters, signs, and blanks.  `Lexeme.scan` cuts a text into lexemes, which are tokens with
the characters they were read from.  A character that begins no token of the language is
`unreadable`, and so is a quote that stays open, with all that follows it.
-/

namespace SchemaEvolution.Database

/-- A token of a statement. -/
inductive Token where
  /-- A run of word characters that starts neither with a digit nor with a dollar sign. -/
  | word (text : String)
  /-- A number without a sign; low lines may stand in it. -/
  | number (text : List Char)
  /-- A name between quotation marks, backticks or brackets; the opening mark is kept. -/
  | quotedName (mark : Char) (name : String)
  | text (s : String)
  | blob (bytes : List UInt8)
  /-- A mark that stands for a value, with its number or name. -/
  | parameter (text : String)
  | sign (text : String)
  /-- White space or a comment. -/
  | blank
  /-- Characters that are no token. -/
  | unreadable
  /-- The end of the text. -/
  | finish
deriving DecidableEq

namespace Token

/-! ## Classes of characters -/

/-- White space within a blank; the vertical tab is not white space at its beginning. -/
def isSpace (c : Char) : Bool :=
  c == ' ' || 0x9 ≤ c.toNat && c.toNat ≤ 0xd

/-- A character of a bare word. -/
def isWordChar (c : Char) : Bool :=
  c.isAlphanum || c == '_' || c == '$' || 0x80 ≤ c.toNat

/-- A character that opens a quoted token, and closes it again. -/
def isMark (c : Char) : Bool :=
  c == '"' || c == '\x60' || c == '\x27'

/-- The value of a hexadecimal digit. -/
def hexValue? (c : Char) : Option Nat :=
  if c.isDigit then some (c.toNat - '0'.toNat)
  else if 'A' ≤ c ∧ c ≤ 'F' then some (c.toNat - 'A'.toNat + 10)
  else if 'a' ≤ c ∧ c ≤ 'f' then some (c.toNat - 'a'.toNat + 10)
  else none

/-- A hexadecimal digit. -/
def isHexDigit (c : Char) : Bool :=
  (hexValue? c).isSome

/-- The bytes that pairs of hexadecimal digits write. -/
def bytes? : List Char → Option (List UInt8)
  | [] => some []
  | [_] => none
  | high :: low :: cs => do
    let h ← hexValue? high
    let l ← hexValue? low
    return UInt8.ofNat (16 * h + l) :: (← bytes? cs)

/-! ## The token at the front of a text

Each function gets the characters after the first one, and returns the token together with the
number of those characters that belong to it. -/

/-- Characters that are no token, up to the end of the text. -/
def unreadableRest (cs : List Char) : Token × Nat :=
  (unreadable, cs.length)

/-- A text or a name after its opening mark. -/
def afterMark (mark : Char) (cs : List Char) : Token × Nat :=
  match Quoting.readBody? mark cs with
  | none => unreadableRest cs
  | some (content, rest) =>
    let content := String.ofList content
    (if mark = '\x27' then text content else quotedName mark content, cs.length - rest.length)

/-- A name after its opening bracket; the first closing bracket ends it. -/
def afterBracket (cs : List Char) : Token × Nat :=
  let name := cs.takeWhile (· != ']')
  if name.length < cs.length then (quotedName '[' (String.ofList name), name.length + 1)
  else unreadableRest cs

/-- Bytes after an `X`: pairs of hexadecimal digits between quotes. -/
def afterBlobMark (cs : List Char) : Token × Nat :=
  let content := cs.tail.takeWhile (· != '\x27')
  let length := min (content.length + 2) cs.length
  match bytes? content with
  | some bytes => (if content.length + 2 ≤ cs.length then blob bytes else unreadable, length)
  | none => (unreadable, length)

/-- The digits of an exponent at the front of a text, with the letter and sign before them. -/
def exponentPart (digits : List Char → List Char) (cs : List Char) : List Char :=
  let digitsAfter (front rest : List Char) : List Char :=
    if rest.head?.any Char.isDigit then front ++ digits rest else []
  match cs with
  | e :: s :: rest =>
    if e != 'e' && e != 'E' then []
    else if s == '+' || s == '-' then digitsAfter [e, s] rest
    else digitsAfter [e] (s :: rest)
  | _ => []

/-- The number without a sign at the front of a text, given how a run of digits is read: digits, at
most one point, and an exponent; it is empty if there is no digit before the exponent. -/
def numberWith (digits : List Char → List Char) (cs : List Char) : List Char :=
  let whole := digits cs
  let fraction :=
    match cs.drop whole.length with
    | '.' :: rest => '.' :: digits rest
    | _ => []
  let mantissa := whole ++ fraction
  if mantissa.any Char.isDigit then mantissa ++ exponentPart digits (cs.drop mantissa.length)
  else []

/-- The number without a sign at the front of a text. -/
def numberPart (cs : List Char) : List Char :=
  numberWith (·.takeWhile Char.isDigit) cs

/-- The number at the front of a statement, where low lines may stand among the digits. -/
def numeralPart (cs : List Char) : List Char :=
  match cs with
  | '0' :: x :: d :: rest =>
    if (x == 'x' || x == 'X') && isHexDigit d then
      '0' :: x :: d :: rest.takeWhile fun c => isHexDigit c || c == '_'
    else plain
  | _ => plain
where
  /-- A number that is not hexadecimal. -/
  plain : List Char := numberWith (·.takeWhile fun c => c.isDigit || c == '_') cs

/-- A number, which must not run on as a word. -/
def numberAt (c : Char) (cs : List Char) : Token × Nat :=
  let part := numeralPart (c :: cs)
  match ((c :: cs).drop part.length).takeWhile isWordChar with
  | [] => (number part, part.length - 1)
  | more => (unreadable, part.length + more.length - 1)

/-- How many characters belong to the name of a parameter, and whether it is complete; at least one
word character has been read before if `named`. -/
def parameterName : (named : Bool) → List Char → Nat × Bool
  | named, [] => (0, named)
  | named, ':' :: ':' :: cs =>
    let (n, complete) := parameterName named cs
    (n + 2, complete)
  | named, c :: cs =>
    if isWordChar c then
      let (n, complete) := parameterName true cs
      (n + 1, complete)
    else if c == '(' && named then
      let inner := cs.takeWhile fun c => !isSpace c && c != ')'
      if (cs.drop inner.length).head? == some ')' then (inner.length + 2, true)
      else (inner.length + 1, false)
    else (0, named)

/-- A parameter with a name. -/
def namedParameter (c : Char) (cs : List Char) : Token × Nat :=
  let (n, complete) := parameterName false cs
  (if complete then parameter (String.ofList (c :: cs.take n)) else unreadable, n)

/-- The length of a comment after its opening `/*`; one that is not closed goes on to the end. -/
def commentLength : List Char → Nat
  | [] => 0
  | '*' :: '/' :: _ => 2
  | _ :: cs => commentLength cs + 1

/-- A sign of three characters, two or one; two of those of two characters open a comment. -/
def signAt (c : Char) (cs : List Char) : Token × Nat :=
  match c, cs with
  | '-', '-' :: rest => (blank, (rest.takeWhile (· != '\n')).length + 1)
  | '/', '*' :: d :: rest => (blank, commentLength (d :: rest) + 1)
  | '-', '>' :: '>' :: _ => (sign "->>", 2)
  | c, cs =>
    let two := String.ofList (c :: cs.take 1)
    if ["||", "<=", "<>", "<<", ">=", ">>", "==", "!=", "->"].contains two then (sign two, 1)
    else if ";()+-*/%=<>,&~|.".toList.contains c then (sign (String.ofList [c]), 0)
    else (unreadable, 0)

/-- The token at the front of a text, and how many characters after the first belong to it. -/
def front (c : Char) (cs : List Char) : Token × Nat :=
  if c = '\uFEFF' then (blank, 0)
  else if isSpace c && c != '\x0b' then (blank, (cs.takeWhile isSpace).length)
  else if isMark c then afterMark c cs
  else if c = '[' then afterBracket cs
  else if c.isDigit || c == '.' && cs.head?.any Char.isDigit then numberAt c cs
  else if (c == 'x' || c == 'X') && cs.head? == some '\x27' then afterBlobMark cs
  else if c == '?' then
    let ds := cs.takeWhile Char.isDigit
    (parameter (String.ofList ('?' :: ds)), ds.length)
  else if c == '$' || c == '@' || c == ':' || c == '#' then namedParameter c cs
  else if isWordChar c then
    let more := cs.takeWhile isWordChar
    (word (String.ofList (c :: more)), more.length)
  else signAt c cs

/-- The token is a word of the language, in capital or small letters. -/
def isWord (w : String) : Token → Bool
  | word s => s.map Char.toUpper == w
  | _ => false

end Token

/-- A token and the characters it was read from. -/
structure Lexeme where
  token : Token
  written : List Char
  /-- The blanks before it. -/
  blanks : List Char := []
  /-- Its number in the statement. -/
  place : Nat := 0
deriving DecidableEq

namespace Lexeme

/-- The lexemes of a text whose first `skip` characters belong to a lexeme that was read before;
blanks are lexemes of their own. -/
def scanFrom : (skip : Nat) → List Char → List Lexeme
  | _, [] => []
  | skip + 1, _ :: cs => scanFrom skip cs
  | 0, c :: cs =>
    let (token, more) := Token.front c cs
    { token := token, written := c :: cs.take more } :: scanFrom more cs

/-- The lexemes other than blanks, each with the blanks before it and its number, and the end. -/
def gather : (place : Nat) → (blanks : List Char) → List Lexeme → List Lexeme
  | place, blanks, [] => [{ token := .finish, written := [], blanks := blanks, place := place }]
  | place, blanks, l :: ls =>
    if l.token = .blank then gather place (blanks ++ l.written) ls
    else { l with blanks := blanks, place := place } :: gather (place + 1) [] ls

/-- The lexemes of a text other than blanks, each with the blanks before it, and the end. -/
def scan (cs : List Char) : List Lexeme :=
  gather 0 [] (scanFrom 0 cs)

/-- The characters of a lexeme, with the blanks before it. -/
def all (l : Lexeme) : List Char :=
  l.blanks ++ l.written

/-- The text of consecutive lexemes, without the blanks before the first. -/
def slice : List Lexeme → String
  | [] => ""
  | l :: ls => String.ofList (l.written ++ ls.flatMap all)

end Lexeme

end SchemaEvolution.Database
