import SchemaEvolution.Database.Document.Path
import SchemaEvolution.Database.Document.Reader
import SchemaEvolution.Database.Fault

/-!
# Documents in cells

A cell holds a document as a text or in bytes.  As a part of another document a cell stands for
itself, unless it is known to hold a document: an `Argument` is a cell with that knowledge.

* `Cell.document` is the document that a cell holds.
* `Argument.document` is the document that an argument stands for as a part of another one.
-/

namespace SchemaEvolution.Database

namespace Document

/-- The fault of a cell that should hold a document. -/
def malformed : Fault :=
  .functionFault "malformed JSON"

/-- The fault of a path that cannot be read. -/
def badPath (path : List Char) : Fault :=
  let text := path.flatMap fun c => if c == '\x27' then [c, c] else [c]
  .functionFault ("bad JSON path: '" ++ String.ofList text ++ "'")

/-- The document that a text writes. -/
def ofText (cs : List Char) : Except Fault Document :=
  match read cs with
  | .ok (d, _) => .ok d
  | .error _ => .error malformed

end Document

namespace Cell

/-- The characters of a cell as a text, up to a null character. -/
def front (c : Cell) : List Char :=
  c.string.toList.takeWhile (· != '\x00')

/-- A cell that looks like a document in bytes. -/
def holdsBytes : Cell → Bool
  | blob bytes => Document.isFramed bytes
  | _ => false

/-- The document that a cell holds. -/
def document (c : Cell) : Except Fault Document :=
  if c.holdsBytes then
    match Document.decode? c.bytes with
    | some d => .ok d
    | none => .error Document.malformed
  else Document.ofText c.front

end Cell

/-- A cell, and whether it is known to hold a document. -/
structure Argument where
  cell : Cell
  isDocument : Bool := false
deriving Inhabited

namespace Argument

/-- The fault of bytes in the place of a part of a document. -/
def bytesRefused : Fault :=
  .functionFault "JSON cannot hold BLOB values"

/-- The document that an argument stands for as a part of another one. -/
def document (a : Argument) : Except Fault Document :=
  match a.cell with
  | .null => .ok Document.nothing
  | .blob _ => if a.cell.holdsBytes then a.cell.document else .error bytesRefused
  | .text s => if a.isDocument then Document.ofText a.cell.front
      else .ok (.leaf ⟨.rawText, s.toList⟩)
  | .rawText _ => .ok (.leaf ⟨.rawText, a.cell.string.toList⟩)
  | .integer _ => .ok (.leaf ⟨.integer, a.cell.string.toList⟩)
  | .real x =>
    let written := if x.isFinite then a.cell.string.toList
      else (if x.isNegative then ['-'] else []) ++ "9e999".toList
    .ok (.leaf ⟨.real, written⟩)

/-- An argument as a part of a document is written. -/
def write (a : Argument) : Except Fault (List Char) :=
  match a.cell with
  | .text s => .ok (if a.isDocument then s.toList else Document.quoted s.toList)
  | .real x =>
    if x.isFinite then .ok a.cell.string.toList
    else .ok ((if x.isNegative then ['-'] else []) ++ "9.0e+999".toList)
  | _ => a.document.map Document.write

end Argument

end SchemaEvolution.Database
