import SchemaEvolution.Text.Utf8

/-!
# Encodings

A database keeps its texts in one `Encoding`.  This is seen only where a text is taken for bytes, or
bytes for a text.

* `Encoding.encode` gives the bytes of a text, and `Encoding.decode` the UTF-8 of bytes.
-/

namespace SchemaEvolution

/-- How characters are written as bytes. -/
inductive Encoding where
  | utf8
  /-- Units of sixteen bits, the lower byte first. -/
  | utf16le
  /-- Units of sixteen bits, the higher byte first. -/
  | utf16be
deriving DecidableEq

namespace Encoding

/-- The name of an encoding. -/
def name : Encoding → String
  | utf8 => "UTF-8"
  | utf16le => "UTF-16le"
  | utf16be => "UTF-16be"

/-- The names by which encodings can be asked for. -/
def names : List (String × Encoding) := [
  ("UTF8", utf8), ("UTF-8", utf8), ("UTF-16le", utf16le), ("UTF-16be", utf16be),
  ("UTF16le", utf16le), ("UTF16be", utf16be), ("UTF-16", utf16le), ("UTF16", utf16le)]

/-- The units of sixteen bits for a character. -/
def units (c : Char) : List Nat :=
  let n := c.toNat
  if n < 0x10000 then [n] else [0xD800 + (n - 0x10000) / 1024, 0xDC00 + n % 1024]

/-- The bytes of a unit. -/
def unitBytes (e : Encoding) (n : Nat) : List UInt8 :=
  let low := UInt8.ofNat (n % 256)
  let high := UInt8.ofNat (n / 256)
  if e = utf16be then [high, low] else [low, high]

/-- The bytes of a text. -/
def encode (e : Encoding) (s : String) : List UInt8 :=
  match e with
  | utf8 => s.toUTF8.toList
  | e => (s.toList.flatMap units).flatMap e.unitBytes

/-- The units that bytes stand for; a single byte at the end is left out. -/
def unitsOf (e : Encoding) : List UInt8 → List Nat
  | a :: b :: bs =>
    (if e = utf16be then 256 * a.toNat + b.toNat else a.toNat + 256 * b.toNat) :: e.unitsOf bs
  | _ => []

/-- The codes of the characters that units stand for; the first of two surrogates is taken together
with whatever unit is behind it. -/
def codesOfUnits : List Nat → List Nat
  | [] => []
  | [n] => [n]
  | n :: m :: ns =>
    if n / 2048 = 27 then
      (m % 1024 + n % 64 * 1024 + (n / 64 % 16 + 1) * 65536) :: codesOfUnits ns
    else n :: codesOfUnits (m :: ns)

/-- The UTF-8 of bytes in an encoding. -/
def decode (e : Encoding) (bytes : List UInt8) : List UInt8 :=
  match e with
  | utf8 => bytes
  | e => (codesOfUnits (e.unitsOf bytes)).flatMap Utf8.encode

end Encoding

end SchemaEvolution
