import SchemaEvolution.Text.Utf8

/-!
# Patterns

Texts are matched with patterns of two kinds, both of them given by the codes of their characters.
In those of `LIKE`, `%` stands for any text and `_` for one character, and small letters of ASCII
match capital ones.  In those of `GLOB`, `*` stands for any text, `?` for one character and `[…]`
for one of some characters.
-/

namespace SchemaEvolution.Database.Pattern

/-- An element of a pattern. -/
inductive Element where
  /-- Any text. -/
  | anything
  /-- One character that passes a test. -/
  | one (test : Nat → Bool)

/-- How a text and a pattern match. -/
inductive Match where
  | yes
  | no
  /-- They do not, and no rest of the text matches the pattern either. -/
  | never
deriving DecidableEq

/-- How the text and the elements match, each from its front to its end. -/
def match' : List Element → List Nat → Match
  | [], [] => .yes
  | [], _ :: _ => .no
  | .anything :: es, cs => search (match' es) cs
  | .one _ :: _, [] => .no
  | .one test :: es, c :: cs => if test c then match' es cs else .no
where
  /-- The first answer other than `no` for the rests of the text. -/
  search (answer : List Nat → Match) : List Nat → Match
    | [] => if answer [] = .yes then .yes else .never
    | c :: cs =>
      match answer (c :: cs) with
      | .no => search answer cs
      | found => found

/-- The code of a small letter of ASCII for that of a capital one. -/
def folded (n : Nat) : Nat :=
  if 65 ≤ n && n ≤ 90 then n + 32 else n

/-- The code of a character. -/
abbrev codeOf (c : Char) : Nat := c.toNat

/-- The elements of a pattern of `LIKE`.  The character behind an escape stands for itself; without
one, nothing matches. -/
def likeElements (caseSensitive : Bool) (escape : Option Nat) : List Nat → List Element
  | [] => []
  | c :: cs =>
    if escape == some c then
      match cs with
      | [] => [.one fun _ => false]
      | d :: ds => .one (same d) :: likeElements caseSensitive escape ds
    else if c == codeOf '%' then .anything :: likeElements caseSensitive escape cs
    else if c == codeOf '_' then .one (fun _ => true) :: likeElements caseSensitive escape cs
    else .one (same c) :: likeElements caseSensitive escape cs
where
  /-- The characters are the same. -/
  same (c d : Nat) : Bool := if caseSensitive then c == d else folded c == folded d

/-- A text matches a pattern of `LIKE`. -/
def like (caseSensitive : Bool) (escape : Option Nat) (pattern text : List Nat) : Bool :=
  match' (likeElements caseSensitive escape pattern) text = .yes

/-- A test for one of some characters, with the rest of the pattern: up to the closing bracket, from
behind the character `before`, which can begin a range. -/
def members : (before : Option Nat) → List Nat → Option ((Nat → Bool) × List Nat)
  | _, [] => none
  | before, c :: cs =>
    let orOne := fun (found : (Nat → Bool) × List Nat) => (fun d => d == c || found.1 d, found.2)
    if c == codeOf ']' then some (fun _ => false, cs)
    else
      match before, c == codeOf '-', cs with
      | some low, true, high :: rest =>
        if high == codeOf ']' then (members (some c) (high :: rest)).map orOne
        else
          (members none rest).map fun (test, rest) =>
            (fun d => low ≤ d && d ≤ high || test d, rest)
      | _, _, cs => (members (some c) cs).map orOne

/-- A test for one of some characters, from behind their opening bracket. -/
def characterClass (cs : List Nat) : Option ((Nat → Bool) × List Nat) := do
  let (isInverted, cs) := match cs with
    | c :: rest => if c == codeOf '^' then (true, rest) else (false, c :: rest)
    | [] => (false, [])
  let (isFirst, cs) := match cs with
    | c :: rest => if c == codeOf ']' then (true, rest) else (false, c :: rest)
    | [] => (false, [])
  let (test, rest) ← members none cs
  return (fun d => (isFirst && d == codeOf ']' || test d) != isInverted, rest)

/-- The elements of a pattern of `GLOB`, which has at most so many characters; a bracket that stays
open matches nothing. -/
def globElements : (steps : Nat) → List Nat → List Element
  | 0, _ | _, [] => []
  | steps + 1, c :: cs =>
    if c == codeOf '*' then .anything :: globElements steps cs
    else if c == codeOf '?' then .one (fun _ => true) :: globElements steps cs
    else if c == codeOf '[' then
      match characterClass cs with
      | some (test, rest) => .one test :: globElements steps rest
      | none => [.one fun _ => false]
    else .one (· == c) :: globElements steps cs

/-- A text matches a pattern of `GLOB`. -/
def glob (pattern text : List Nat) : Bool :=
  match' (globElements pattern.length pattern) text = .yes

end SchemaEvolution.Database.Pattern
