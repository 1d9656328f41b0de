import SchemaEvolution.Database.Command
import SchemaEvolution.Database.Reader

/-!
# Changing the text of a definition

The text of a definition stays as it was written but for some of its lexemes.  These are given by
their places.

* `replaced` puts other texts in the places of lexemes.
* `upTo` and `onwards` are the parts of a text before a lexeme and from it on.
-/

namespace SchemaEvolution.Database.Schema

/-- A text that takes the place of a lexeme, if it is to be replaced, given the character behind. -/
abbrev Replacement := Lexeme → Option Char → Option String

/-- Lexemes as a text, some of them replaced. -/
def replacedFrom (r : Replacement) : List Lexeme → List Char
  | [] => []
  | l :: ls =>
    let next := ls.head?.bind fun l => l.all.head?
    let own := match r l next with
      | some s => s.toList
      | none => l.written
    l.blanks ++ own ++ replacedFrom r ls

/-- A text with some of its lexemes replaced. -/
def replaced (r : Replacement) (sql : String) : String :=
  String.ofList (replacedFrom r (Lexeme.scan sql.toList))

/-- The mark twice where it stands in a text. -/
def doubled (mark : Char) (s : String) : List Char :=
  s.toList.flatMap fun c => if c = mark then [c, c] else [c]

/-- A text between marks, which must not meet another such mark. -/
def marked (mark : Char) (s : String) (next : Option Char) : String :=
  String.ofList (mark :: doubled mark s ++ [mark] ++ if next = some mark then [' '] else [])

/-- A name in quotation marks at some places. -/
def quotedAt (places : List Nat) (name : String) : Replacement := fun l next =>
  if places.contains l.place then some (marked '"' name next) else none

/-- A name at some places, in quotation marks where it stands so, or everywhere. -/
def nameAt (places : List Nat) (name : String) (isQuoted : Bool) : Replacement := fun l next =>
  if !places.contains l.place then none
  else if !isQuoted && l.written.head?.any Token.isWordChar then some name
  else some (marked '"' name next)

/-- Texts in the place of quoted names at some places. -/
def textAt (places : List Nat) : Replacement := fun l next =>
  match l.token with
  | .quotedName _ s => if places.contains l.place then some (marked '\x27' s next) else none
  | _ => none

/-! ## Parts -/

/-- The characters of a text before a lexeme. -/
def upTo (place : Nat) (sql : String) : List Char :=
  let before := (Lexeme.scan sql.toList).takeWhile (·.place < place)
  let rest := (Lexeme.scan sql.toList).drop before.length
  before.flatMap Lexeme.all ++ (rest.head?.map (·.blanks)).getD []

/-- The characters of a text from a lexeme on. -/
def onwards (place : Nat) (sql : String) : List Char :=
  sql.toList.drop (upTo place sql).length

/-! ## Places -/

/-- The columns of a table as they are named in its declarations. -/
def columnNames (ds : List Declaration) : List Name :=
  ds.filterMap fun
    | .column n _ => some n
    | _ => none

/-- The lexeme at which the columns of a table end. -/
def columnsEnd (ds : List Declaration) : Nat :=
  (ds.findSome? fun
    | .columnsEnd place => some place
    | _ => none).getD 0

/-- The places of names between quotation marks that are defaults. -/
def defaultTexts : List Lexeme → List Nat
  | l :: m :: ls =>
    let rest := defaultTexts (m :: ls)
    match l.token.isWord "DEFAULT", m.token with
    | true, .quotedName '"' _ => m.place :: rest
    | _, _ => rest
  | _ => []

end SchemaEvolution.Database.Schema
