import SchemaEvolution.Database.Document.Writer

/-!
# Documents in bytes

A document in bytes is its kind and the number of bytes it takes, in one to nine bytes, and behind
them the characters of a leaf, or what an array or object contains: items, or labels and values in
turn.

* `Document.encode` gives the bytes of a document, and `Document.size` their number.
* `Document.decode?` reads them again.
-/

namespace SchemaEvolution.Database

/-! ## Writing -/

namespace LeafKind

/-- The kinds in the order of their numbers. -/
def all : List LeafKind :=
  [.nothing, .yes, .no, .integer, .hexInteger, .real, .looseReal, .plainText, .escapedText,
    .looseText, .rawText]

/-- The number of a kind. -/
def code (k : LeafKind) : Nat :=
  all.idxOf k

end LeafKind

namespace Document

/-- The number of the kind of an array. -/
def arrayCode : Nat := 11

/-- The number of the kind of an object. -/
def objectCode : Nat := 12

/-- The bytes of a number, the high ones first. -/
def bigEndian : (count : Nat) → Nat → List UInt8
  | 0, _ => []
  | count + 1, n => bigEndian count (n / 256) ++ [.ofNat n]

/-- A kind and the number of bytes that follow. -/
def header (code size : Nat) : List UInt8 :=
  let first (high : Nat) : UInt8 := .ofNat (16 * high + code)
  if size ≤ 11 then [first size]
  else if size < 0x100 then first 12 :: bigEndian 1 size
  else if size < 0x10000 then first 13 :: bigEndian 2 size
  else first 14 :: bigEndian 4 size

/-- Bytes behind their kind and number. -/
def framed (code : Nat) (content : List UInt8) : List UInt8 :=
  header code content.length ++ content

end Document

namespace Leaf

/-- A leaf in bytes. -/
def encode (l : Leaf) : List UInt8 :=
  Document.framed l.kind.code (String.ofList l.written).toUTF8.toList

/-- The number of bytes of a leaf. -/
def size (l : Leaf) : Nat :=
  l.encode.length

end Leaf

namespace Document

/-- A document in bytes. -/
def encode : Document → List UInt8 :=
  reduce {
    leaf := Leaf.encode
    array := fun items => framed arrayCode items.flatten
    object := fun members => framed objectCode (members.flatMap fun (l, bs) => l.encode ++ bs) }

/-- The number of bytes of a document. -/
def size (d : Document) : Nat :=
  d.encode.length

/-- The number of bytes before what a document contains. -/
def headerSize (d : Document) : Nat :=
  let size := d.size
  if size ≤ 12 then 1 else if size ≤ 0x101 then 2 else if size ≤ 0x10002 then 3 else 5

/-! ## Reading -/

/-- The number that bytes write, the high ones first. -/
def ofBigEndian (bytes : List UInt8) : Nat :=
  bytes.foldl (fun n b => 256 * n + b.toNat) 0

/-- The kind at the front of bytes, the content that belongs to it, and what follows. -/
def cut? (bytes : List UInt8) : Option (Nat × List UInt8 × List UInt8) :=
  match bytes with
  | [] => none
  | b :: rest =>
    let high := b.toNat / 16
    let more := match high with
      | 12 => 1
      | 13 => 2
      | 14 => 4
      | 15 => 8
      | _ => 0
    let size := if high < 12 then high else ofBigEndian (rest.take more)
    let content := rest.drop more
    if rest.length < more || content.length < size then none
    else some (b.toNat % 16, content.take size, content.drop size)

/-- The leaf of a kind with some content. -/
def leafOf? (code : Nat) (content : List UInt8) : Option Leaf := do
  let kind ← LeafKind.all[code]?
  let written ← String.fromUTF8? ⟨content.toArray⟩
  if kind.code ≤ LeafKind.no.code && !content.isEmpty then none
  else if LeafKind.no.code < kind.code && !kind.isText && content.isEmpty then none
  else some ⟨kind, written.toList⟩

/-- Labels and values in turn as the members of an object. -/
def pairs? : List Document → Option (List (Leaf × Document))
  | [] => some []
  | .leaf l :: d :: ds => if l.kind.isText then (pairs? ds).map ((l, d) :: ·) else none
  | _ => none

/-- The documents that bytes write one after the other; the number of steps is bounded. -/
def sequence? : (bound : Nat) → List UInt8 → Option (List Document)
  | 0, _ => none
  | bound + 1, bytes => do
    if bytes.isEmpty then return []
    let (code, content, rest) ← cut? bytes
    let d ←
      if code = arrayCode then do pure (array (← sequence? bound content))
      else if code = objectCode then do pure (object (← pairs? (← sequence? bound content)))
      else do pure (leaf (← leafOf? code content))
    return d :: (← sequence? bound rest)

/-- The document that bytes write. -/
def decode? (bytes : List UInt8) : Option Document := do
  match ← sequence? (bytes.length + 1) bytes with
  | [d] => some d
  | _ => none

/-- The bytes look like a document from outside. -/
def isFramed (bytes : List UInt8) : Bool :=
  match cut? bytes with
  | some (code, content, []) => code ≤ objectCode && (LeafKind.no.code < code || content.isEmpty)
  | _ => false

end Document

end SchemaEvolution.Database
