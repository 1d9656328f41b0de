import SchemaEvolution.Sql.Value

/-!
# Statements

A statement is a list of fragments: clauses that stand as they are, names to be quoted and values to
be written as literals.  A statement knows no dialect.

`Statement.join` puts rendered fragments together with single spaces, except that no space follows
the clauses `(` and `::` and none precedes the clauses `,`, `)` and `::`.
-/

namespace SchemaEvolution

/-- A name, outermost qualifier first. -/
structure Identifier where
  parts : List String
deriving DecidableEq

namespace Identifier

/-- A name without qualifiers. -/
def of (name : String) : Identifier :=
  ⟨[name]⟩

/-- The parts with points between them, unquoted. -/
def display (i : Identifier) : String :=
  ".".intercalate i.parts

end Identifier

/-- One piece of a statement. -/
inductive Fragment where
  /-- Text that stands as it is. -/
  | clause (text : String)
  /-- A name to be quoted. -/
  | identifier (name : Identifier)
  /-- A value to be written as a literal. -/
  | literal (value : Value)
deriving DecidableEq

/-- The fragments of a statement, in order. -/
abbrev Statement := List Fragment

namespace Fragment

/-- The fragment of a name without qualifiers. -/
def name (s : String) : Fragment :=
  identifier (.of s)

/-- The fragment of a text value. -/
def text (s : String) : Fragment :=
  literal (.text s)

/-- The fragment is a clause. -/
def isClause : Fragment → Bool
  | clause _ => true
  | _ => false

/-- A fragment, rendered as `text`, that no space precedes. -/
def gluesBefore (f : Fragment) (text : String) : Bool :=
  f.isClause && (text == "," || text == ")" || text == "::")

/-- A fragment, rendered as `text`, that no space follows. -/
def gluesAfter (f : Fragment) (text : String) : Bool :=
  f.isClause && (text == "(" || text == "::")

end Fragment

namespace Statement

/-- A clause if it is wanted. -/
def clauseIf (wanted : Bool) (text : String) : Statement :=
  if wanted then [.clause text] else []

/-- Items with commas between them. -/
def separated : List Statement → Statement
  | [] => []
  | [item] => item
  | item :: items => item ++ .clause "," :: separated items

/-- Items in parentheses, with commas between them. -/
def parenthesized (items : List Statement) : Statement :=
  .clause "(" :: separated items ++ [.clause ")"]

/-- Names in parentheses, with commas between them (`identifier_list`). -/
def names (identifiers : List Identifier) : Statement :=
  parenthesized (identifiers.map fun i => [.identifier i])

/-- Joins the fragments from some place on, where `glued` says that no space is due there.  To
render a fragment is an action. -/
def joinFromM {m : Type → Type} [Monad m] (render : Fragment → m String) :
    (glued : Bool) → Statement → m String
  | _, [] => return ""
  | glued, f :: fs => do
    let text ← render f
    let space := if glued || f.gluesBefore text then "" else " "
    return space ++ text ++ (← joinFromM render (f.gluesAfter text) fs)

/-- The loop of `join`, with a renderer that may keep a state. -/
def joinM {m : Type → Type} [Monad m] (render : Fragment → m String) (s : Statement) : m String :=
  joinFromM render true s

/-- Joins from some place on what a function renders. -/
def joinFrom (render : Fragment → String) (glued : Bool) (s : Statement) : String :=
  Id.run (joinFromM (fun f => pure (render f)) glued s)

/-- The rendered fragments, joined (`join`).  A dialect renders a fragment without a state. -/
def join (render : Fragment → String) (s : Statement) : String :=
  joinFrom render true s

@[simp] theorem joinFrom_nil (render : Fragment → String) (glued : Bool) :
    joinFrom render glued [] = "" := rfl

theorem joinFrom_cons (render : Fragment → String) (glued : Bool) (f : Fragment) (fs : Statement) :
    joinFrom render glued (f :: fs) =
      (if glued || f.gluesBefore (render f) then "" else " ") ++ render f ++
        joinFrom render (f.gluesAfter (render f)) fs := rfl

end Statement

end SchemaEvolution
