/-!
# Bytes of characters

Texts may hold bytes that are no UTF-8.  A byte from `0xC0` on begins a character, to which all
continuation bytes behind it belong; any other byte is a character of its own.

* `Utf8.characters` cuts bytes into characters, and `Utf8.code` gives the code of one.
* `Utf8.encode` gives the bytes of a code.
-/

namespace SchemaEvolution.Utf8

/-- A byte that only continues a character. -/
def isContinuation (b : UInt8) : Bool :=
  b &&& 0xC0 == 0x80

/-- A byte behind which a character may go on. -/
def isLead (b : UInt8) : Bool :=
  0xC0 ≤ b

/-- Continuation bytes at the front, and the characters behind them. -/
def cut : List UInt8 → List UInt8 × List (List UInt8)
  | [] => ([], [])
  | b :: bs =>
    let (loose, rest) := cut bs
    if isContinuation b then (b :: loose, rest)
    else if isLead b then ([], (b :: loose) :: rest)
    else ([], [b] :: (loose.map fun c => [c]) ++ rest)

/-- The characters of bytes, each with its own bytes. -/
def characters (bs : List UInt8) : List (List UInt8) :=
  let (loose, rest) := cut bs
  (loose.map fun c => [c]) ++ rest

/-- The part of a code that is in the first byte. -/
def leadBits (b : UInt8) : Nat :=
  if b < 0xE0 then b.toNat - 0xC0
  else if b < 0xF0 then b.toNat - 0xE0
  else if b < 0xF8 then b.toNat - 0xF0
  else if b < 0xFC then b.toNat - 0xF8
  else if b = 0xFD then 1
  else 0

/-- The code that the bytes of a character stand for; it has thirty-two bits, and what is not the
code of a character becomes that of the replacement character. -/
def code : List UInt8 → Nat
  | [] => 0
  | b :: bs =>
    if isLead b then
      let n := bs.foldl (fun n c => (64 * n + (c &&& 0x3F).toNat) % 4294967296) (leadBits b)
      if n < 0x80 || n / 0x800 == 0x1B || n / 2 == 0x7FFF then 0xFFFD else n
    else b.toNat

/-- The codes of the characters of bytes. -/
def codes (bs : List UInt8) : List Nat :=
  (characters bs).map code

/-- The bytes of a code below `0x200000`. -/
def encode (n : Nat) : List UInt8 :=
  let byte (front shift : Nat) : UInt8 := UInt8.ofNat (front + n / shift % 64)
  if n < 0x80 then [UInt8.ofNat n]
  else if n < 0x800 then [UInt8.ofNat (0xC0 + n / 64), byte 0x80 1]
  else if n < 0x10000 then [UInt8.ofNat (0xE0 + n / 4096), byte 0x80 64, byte 0x80 1]
  else [UInt8.ofNat (0xF0 + n / 262144), byte 0x80 4096, byte 0x80 64, byte 0x80 1]

end SchemaEvolution.Utf8
