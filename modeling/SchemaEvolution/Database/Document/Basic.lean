import SchemaEvolution.Database.Cell

/-!
# Documents

A `Document` is a value of JSON.  Its leaves keep the characters by which they are written, and the
`LeafKind` says what these stand for.  A label of an object is a leaf, too.

* `Document.reduce` puts a document together again, given what becomes of each of its parts.
* `Document.kindWord` says what a document is.
-/

namespace SchemaEvolution.Database

/-- What the characters of a leaf stand for. -/
inductive LeafKind where
  /-- There are no characters: the leaf is nothing, or a truth value. -/
  | nothing
  | yes
  | no
  | integer
  /-- An integer in hexadecimal digits. -/
  | hexInteger
  | real
  /-- A real number that may lack the digits on one side of its point. -/
  | looseReal
  /-- Characters that stand for themselves, and need no escape. -/
  | plainText
  /-- Characters and escapes of JSON. -/
  | escapedText
  /-- Characters and escapes of JSON5. -/
  | looseText
  /-- Characters that stand for themselves; some may need an escape. -/
  | rawText
deriving DecidableEq, Inhabited

/-- A value that contains no others. -/
structure Leaf where
  kind : LeafKind
  written : List Char := []
deriving DecidableEq, Inhabited

/-- A value of JSON. -/
inductive Document where
  | leaf (l : Leaf)
  | array (items : List Document)
  | object (members : List (Leaf × Document))
deriving Inhabited

namespace LeafKind

/-- A text. -/
def isText : LeafKind → Bool
  | plainText | escapedText | looseText | rawText => true
  | _ => false

/-- What a leaf is, in one word. -/
def word : LeafKind → String
  | nothing => "null"
  | yes => "true"
  | no => "false"
  | integer | hexInteger => "integer"
  | real | looseReal => "real"
  | plainText | escapedText | looseText | rawText => "text"

end LeafKind

namespace Document

/-- Nothing. -/
def nothing : Document :=
  leaf ⟨.nothing, []⟩

/-- A document is nothing. -/
def isNothing : Document → Bool
  | leaf l => l.kind == .nothing
  | _ => false

/-- A document that may contain others. -/
def isStructured : Document → Bool
  | leaf _ => false
  | array _ | object _ => true

/-- What a document is, in one word. -/
def kindWord : Document → String
  | leaf l => l.kind.word
  | array _ => "array"
  | object _ => "object"

/-! ## Reductions -/

/-- What becomes of leaves, and of arrays and objects when it is known what becomes of what they
contain. -/
structure Reduction (α : Type) where
  leaf : Leaf → α
  array : List α → α
  object : List (Leaf × α) → α

mutual

/-- What becomes of a document. -/
def reduce {α : Type} (r : Reduction α) : Document → α
  | leaf l => r.leaf l
  | array items => r.array (reduceItems r items)
  | object members => r.object (reduceMembers r members)

/-- What becomes of the items of an array. -/
def reduceItems {α : Type} (r : Reduction α) : List Document → List α
  | [] => []
  | d :: ds => reduce r d :: reduceItems r ds

/-- What becomes of the members of an object. -/
def reduceMembers {α : Type} (r : Reduction α) : List (Leaf × Document) → List (Leaf × α)
  | [] => []
  | (l, d) :: ms => (l, reduce r d) :: reduceMembers r ms

end

end Document

end SchemaEvolution.Database
