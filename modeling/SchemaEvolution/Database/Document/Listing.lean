import SchemaEvolution.Database.Document.Argument

/-!
# Documents as tables

A document is listed as one row for each of its parts, or for each document within it at whatever
depth.  A row has the label or place of the part, the part itself, where it lies in the bytes of the
whole, and the path to it.

* `Listing.rows` gives the rows.
-/

namespace SchemaEvolution.Database

/-- A part of a document. -/
structure Listing where
  key : Cell
  document : Document
  /-- How many bytes come before it. -/
  start : Nat
  /-- How many bytes come before the document around it. -/
  parent : Option Nat
  /-- The path to the part, and to the document around it. -/
  fullPath : List Char
  path : List Char

namespace Listing

/-- The step of a path to an item. -/
def itemStep (i : Nat) : List Char :=
  '[' :: digits i ++ [']']

/-- The step of a path to a member. -/
def memberStep (l : Leaf) : List Char :=
  if !l.written.isEmpty && l.written.all Char.isAlphanum then '.' :: l.written
  else ".\"".toList ++ l.written ++ ['"']

mutual

/-- The parts of a document that lies behind so many bytes, and what is within them if the list is
to be deep. -/
def below (isDeep : Bool) (parent start : Nat) (path : List Char) (d : Document) : List Listing :=
  match d with
  | .leaf _ => []
  | .array items => ofItems isDeep parent (start + (Document.array items).headerSize) path 0 items
  | .object members =>
    ofMembers isDeep parent (start + (Document.object members).headerSize) path members

/-- The items of an array from a place on. -/
def ofItems (isDeep : Bool) (parent start : Nat) (path : List Char) (i : Nat) :
    List Document → List Listing
  | [] => []
  | d :: ds =>
    let full := path ++ itemStep i
    let within := if isDeep then below isDeep start start full d else []
    { key := .ofNat i, document := d, start := start
      parent := if isDeep then some parent else none, fullPath := full, path := path } ::
      within ++ ofItems isDeep parent (start + d.size) path (i + 1) ds

/-- Members of an object. -/
def ofMembers (isDeep : Bool) (parent start : Nat) (path : List Char) :
    List (Leaf × Document) → List Listing
  | [] => []
  | (l, d) :: ms =>
    let full := path ++ memberStep l
    let within := if isDeep then below isDeep start (start + l.size) full d else []
    { key := l.cell, document := d, start := start
      parent := if isDeep then some parent else none, fullPath := full, path := path } ::
      within ++ ofMembers isDeep parent (start + l.size + d.size) path ms

end

/-- The path to the document around the one to which a path leads, as far as it is the first part of
that; otherwise the path to the whole. -/
def pathAround (whole : Document) (start : Nat) (path : List Char) : List Char :=
  let isAround (front : List Char) : Bool :=
    match Document.locate (PathStep.steps (front.drop 1)) { start := 0, document := whole } with
    | .ok s => s.inner + s.document.headerSize = start
    | .error _ => false
  let places := (List.range path.length).reverse.filter fun n =>
    path[n]? == some '.' || path[n]? == some '['
  match places.find? fun n => isAround (path.take n) with
  | some n => path.take n
  | none => path.take 1

/-- The last step of a path as a label or place. -/
def lastKey (step : List Char) : Cell :=
  match step with
  | [] => .null
  | '[' :: cs => .integer (integerFront cs)
  | _ :: '"' :: cs => .text (String.ofList cs.dropLast)
  | _ :: cs => .text (String.ofList cs)

/-- The row of the document to which a path leads. -/
def ofRoot (isDeep : Bool) (whole : Document) (s : Spot) (path : List Char) : Listing :=
  let around := if isDeep then pathAround whole s.start path else path
  { key := lastKey (path.drop around.length), document := s.document, start := s.start
    parent := none, fullPath := path, path := around }

/-- The rows for the document at the end of a path: one for each of its parts, or one for it and for
each document within it. -/
def rows (isDeep : Bool) (whole : Document) (path : List Char) : Except Fault (List Listing) :=
  match path with
  | '$' :: steps =>
    match Document.locate (PathStep.steps steps) { start := 0, document := whole } with
    | .error .absent => .ok []
    | .error .malformed => .error (Document.badPath path)
    | .ok s =>
      let within := below isDeep s.start s.inner path s.document
      if isDeep then .ok (ofRoot isDeep whole s path :: within)
      else .ok (if s.document.isStructured then within else [ofRoot isDeep whole s path])
  | _ => .error (Document.badPath path)

/-- The columns of the rows. -/
def columns : List String :=
  ["key", "value", "type", "atom", "id", "parent", "fullkey", "path"]

/-- The cells of a row. -/
def cells (l : Listing) : List Cell :=
  let text (cs : List Char) : Cell := .text (String.ofList cs)
  [l.key, l.document.cell, .text l.document.kindWord,
    if l.document.isStructured then .null else l.document.cell, .ofNat l.start,
    (l.parent.map Cell.ofNat).getD .null, text l.fullPath, text l.path]

/-- The rows for a document in a cell; a second cell holds the path. -/
def table (isDeep : Bool) (arguments : List Cell) : Except Fault (List (List Cell)) := do
  let c := arguments.headD .null
  let root := arguments.getD 1 (.text "$")
  if c.isNull then return []
  let whole ← c.document
  if root.isNull then return []
  return (← rows isDeep whole root.front).map fun l => l.cells ++ [c, root]

end Listing

end SchemaEvolution.Database
