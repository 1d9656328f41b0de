import SchemaEvolution.Database.Command
import SchemaEvolution.Database.Numeral

/-!
# Readers

A `Reader` takes something from the front of the lexemes of a statement.  A lexeme that does not fit
is a fault, and so is the end of the text where more is due.  The parameters of a statement are
numbered as they are read.
-/

namespace SchemaEvolution.Database

/-- What is left to read, and the parameters that have been read. -/
structure Input where
  lexemes : List Lexeme
  /-- The greatest number of a parameter. -/
  count : Nat := 0
  /-- The parameters that have a name, with their numbers. -/
  parameters : List (String × Nat) := []

/-- A reader takes something from the front of the lexemes. -/
abbrev Reader (α : Type) := StateT Input (Except Fault) α

namespace Reader

/-! ## Lexemes -/

/-- The lexemes that are left. -/
def rest : Reader (List Lexeme) :=
  Input.lexemes <$> get

/-- The next lexeme, which must be a token of the language. -/
def peek : Reader Lexeme := do
  match (← rest).head? with
  | some l =>
    if l.token = .unreadable then throw (.unreadable (String.ofList l.written))
    return l
  | none => return { token := .finish, written := [] }

/-- The lexemes do not fit. -/
def unexpected {α : Type} : Reader α := do
  let l ← peek
  if l.token = .finish then throw .incomplete else throw (.unexpected (String.ofList l.written))

/-- Goes on to the next lexeme. -/
def advance : Reader Unit :=
  modify fun s => { s with lexemes := s.lexemes.tail }

/-- Takes a lexeme that passes a test. -/
def take? (test : Token → Bool) : Reader (Option Lexeme) := do
  let l ← peek
  if test l.token then
    advance
    return some l
  else return none

/-- The next token passes a test. -/
def atToken (test : Token → Bool) : Reader Bool := do
  return test (← peek).token

/-- The token behind the next one passes a test. -/
def secondToken (test : Token → Bool) : Reader Bool := do
  return ((← rest)[1]?).any fun l => test l.token

/-- A word of the language is next. -/
def atWord (w : String) : Reader Bool :=
  atToken (Token.isWord w)

/-- A sign is next. -/
def atSign (s : String) : Reader Bool :=
  atToken (· == .sign s)

/-- Takes a word of the language if it is there. -/
def wordIf (w : String) : Reader Bool :=
  Option.isSome <$> take? (Token.isWord w)

/-- Takes a word of the language. -/
def word (w : String) : Reader Unit := do
  if !(← wordIf w) then unexpected

/-- Takes words of the language if the first of them is there. -/
def wordsIf (first : String) (others : List String) : Reader Bool := do
  if ← wordIf first then
    others.forM word
    return true
  else return false

/-- Takes one of some words, and returns what stands for it. -/
def oneOf? {α : Type} (words : List (String × α)) : Reader (Option α) := do
  let l ← peek
  match words.find? fun (w, _) => l.token.isWord w with
  | some (_, a) =>
    advance
    return some a
  | none => return none

/-- Takes a sign if it is there. -/
def signIf (s : String) : Reader Bool :=
  Option.isSome <$> take? (· == .sign s)

/-- Takes a sign. -/
def sign (s : String) : Reader Unit := do
  if !(← signIf s) then unexpected

/-- What was read between two states, as it is written. -/
def written (before after : List Lexeme) : String :=
  Lexeme.slice (before.take (before.length - after.length))

/-- Takes what a reader takes, and returns it as it is written as well. -/
def withWritten {α : Type} (reader : Reader α) : Reader (α × String) := do
  let before ← rest
  let a ← reader
  return (a, written before (← rest))

/-- Takes something in parentheses. -/
def parenthesized {α : Type} (inner : Reader α) : Reader α := do
  sign "("
  let a ← inner
  sign ")"
  return a

/-! ## Sequences -/

/-- Goes on as long as there is something to take, at most so often. -/
def iterate {α : Type} (step : α → Reader (Option α)) : (times : Nat) → α → Reader α
  | 0, a => return a
  | times + 1, a => do
    match ← step a with
    | some b => iterate step times b
    | none => return a

/-- Takes items as long as there are some. -/
def many {α : Type} (item? : Reader (Option α)) : Reader (List α) := do
  let step (found : List α) : Reader (Option (List α)) := do
    return (← item?).map (· :: found)
  return (← iterate step (← rest).length []).reverse

/-- Takes items with commas between them. -/
def separated {α : Type} (item : Reader α) : Reader (List α) := do
  let first ← item
  let more ← many do if ← signIf "," then some <$> item else return none
  return first :: more

/-- Takes a reader's result, or its fault. -/
def attempt {α : Type} (reader : Reader α) : Reader (Except Fault α) := fun s =>
  match reader.run s with
  | .ok (a, s) => .ok (.ok a, s)
  | .error fault => .ok (.error fault, s)

/-! ## Names -/

/-- The name that a lexeme is, if bare words of a kind are names, and texts if `texts`. -/
def nameOf? (isNameWord : String → Bool) (texts : Bool) (l : Lexeme) : Option Name :=
  let name (s : String) : Name := ⟨s, String.ofList l.written, l.place⟩
  match l.token with
  | .quotedName _ s => some (name s)
  | .text s => if texts then some (name s) else none
  | .word s => if isNameWord s then some (name s) else none
  | _ => none

/-- The definition of a window is next: the word, a name, and `AS`. -/
def atWindow : Reader Bool := do
  match ← rest with
  | first :: second :: third :: _ =>
    return first.token.isWord "WINDOW" && (nameOf? isNameWord true second).isSome &&
      third.token.isWord "AS"
  | _ => return false

/-- Takes a name of some kind if there is one. -/
def nameOfKind? (isNameWord : String → Bool) (texts : Bool) : Reader (Option Name) := do
  match nameOf? isNameWord texts (← peek) with
  | some n =>
    if ← atWindow then return none
    advance
    return some n
  | none => return none

/-- Takes a name where something else may stand as well. -/
def freeName? : Reader (Option Name) :=
  nameOfKind? isFreeWord true

/-- Takes a name. -/
def name : Reader Name := do
  match ← nameOfKind? isNameWord true with
  | some n => return n
  | none => unexpected

/-- Takes a name or a text where words of joins are no names. -/
def freeName : Reader Name := do
  match ← freeName? with
  | some n => return n
  | none => unexpected

/-- Takes the name of a table or the like, perhaps behind the name of its database. -/
def objectName : Reader ObjectName := do
  let first ← name
  if ← signIf "." then return { database := some first, name := ← name }
  else return { name := first }

/-- Takes the name that something goes by, if it has one. -/
def aliasIf : Reader (Option Name) := do
  if ← wordIf "AS" then some <$> name else freeName?

/-- Takes a number with a sign. -/
def signedNumber : Reader String := do
  let sign ← take? fun t => t == .sign "-" || t == .sign "+"
  match ← take? fun t => t matches .number _ with
  | some l => return String.ofList ((sign.map (·.written)).getD [] ++ l.written)
  | none => unexpected

/-- Takes a type: words, and one or two numbers in parentheses behind them. -/
def typeName : Reader String := do
  let read : Reader Unit := do
    let words ← many freeName?
    if !words.isEmpty then
      if ← signIf "(" then
        let _ ← signedNumber
        if ← signIf "," then let _ ← signedNumber
        sign ")"
  return (← withWritten read).2

/-! ## Parameters -/

/-- The greatest number of a parameter. -/
def mostParameters : Nat := 32766

/-- Numbers a parameter. -/
def parameter (written : String) : Reader Expression := do
  let s ← get
  let number ←
    match written.toList with
    | ['?'] => pure (s.count + 1)
    | '?' :: ds =>
      let n := valueOfDigits ds
      if n = 0 ∨ mostParameters < n then throw .parameterNumber
      pure n
    | _ => pure ((s.parameters.lookup written).getD (s.count + 1))
  if mostParameters < number then throw .tooManyParameters
  let isNew := written != "?" && (s.parameters.find? fun p => p.2 == number).isNone
  set { s with
    count := max s.count number
    parameters := if isNew then s.parameters ++ [(written, number)] else s.parameters }
  return .parameter written

/-- Takes a number, whose low lines must stand between digits. -/
def numeral (cs : List Char) : Reader (List Char) :=
  match withoutLowLines cs with
  | .ok cs => return cs
  | .error cs => throw (.unreadable (String.ofList cs))

end Reader

end SchemaEvolution.Database
