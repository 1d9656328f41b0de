import SchemaEvolution.Database.Page
import SchemaEvolution.Text.Encoding

/-!
# Records

The cells of a row are written as a record: first its header, which begins with its own length and
tells what kind of cell there is in each place, and then what the cells hold.

* `Record.bytes` writes a record.
-/

namespace SchemaEvolution.Database.Record

/-- A number with seven bits to a byte, the highest first, behind bytes that are written already;
all bytes but the last one say that another one follows. -/
def countBefore (rest : List UInt8) : (fuel n : Nat) → List UInt8
  | 0, _ => rest
  | fuel + 1, n =>
    let byte := if rest.isEmpty then n % 128 else 128 + n % 128
    let written := UInt8.ofNat byte :: rest
    if n < 128 then written else countBefore written fuel (n / 128)

/-- A number with seven bits to a byte. -/
def count (n : Nat) : List UInt8 :=
  countBefore [] 9 n

/-- The lowest bytes of an integer, the highest of them first. -/
def lowBytes (width : Nat) (n : Int) : List UInt8 :=
  let n := (n % (twoTo (8 * width) : Int)).toNat
  (List.range width).reverse.map fun i => UInt8.ofNat (n / twoTo (8 * i) % 256)

/-- The kind of an integer that takes so many bytes. -/
def integerKind (width : Nat) : Nat :=
  if width = 8 then 6 else if width = 6 then 5 else width

/-- The kind of a cell, and what is written of it. -/
def cell (e : Encoding) : Cell → Nat × List UInt8
  | .null => (0, [])
  | .integer n =>
    let n := n.toInt
    let width := lengthOfInteger n
    if width = 0 then (if n = 0 then 8 else 9, []) else (integerKind width, lowBytes width n)
  | .real x => (7, lowBytes 8 x.bits.toNat)
  | .text s =>
    let bytes := e.encode s
    (13 + 2 * bytes.length, bytes)
  | .rawText bytes => (13 + 2 * bytes.length, bytes)
  | .blob bytes => (12 + 2 * bytes.length, bytes)

/-- The record of a row. -/
def bytes (e : Encoding) (cells : List Cell) : List UInt8 :=
  let written := cells.map (cell e)
  let kinds := written.flatMap fun (kind, _) => count kind
  let own := if kinds.length < 127 then 1 else 2
  count (kinds.length + own) ++ kinds ++ written.flatMap Prod.snd

end SchemaEvolution.Database.Record
