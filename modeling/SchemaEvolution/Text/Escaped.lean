import SchemaEvolution.Text.GraphemeExtend
import SchemaEvolution.Text.Unprintable

/-!
# Escaped text

The form in which a message shows a text: between double quotes, with an escape for every character
that would not stand for itself on a page.
-/

namespace SchemaEvolution.Text

/-- A code point lies in one of the ranges. -/
def inRanges (ranges : Array (Nat × Nat)) (n : Nat) : Bool :=
  ranges.any fun (first, last) => first ≤ n && n ≤ last

/-- The Hangul fillers: letters by category, but drawn as nothing. -/
def isFiller (n : Nat) : Bool :=
  n == 0x115f || n == 0x1160 || n == 0x3164 || n == 0xffa0

/-- The halfwidth voicing marks: they extend a grapheme, but are letters of their own width. -/
def isVoicingMark (n : Nat) : Bool :=
  n == 0xff9e || n == 0xff9f

/-- A character that is shown as itself: it has a printed form of its own. -/
def isShown (c : Char) : Bool :=
  let n := c.toNat
  if n < 0x7f then 0x20 ≤ n
  else if isVoicingMark n then true
  else !isFiller n && !inRanges graphemeExtendRanges n && !inRanges unprintableRanges n

/-- A character inside a quoted text: the usual controls by letter, a quote or backslash behind a
backslash, and every other character that is not shown by its code point. -/
def escapeChar (c : Char) : List Char :=
  if c = '\x00' then ['\\', '0']
  else if c = '\t' then ['\\', 't']
  else if c = '\r' then ['\\', 'r']
  else if c = '\n' then ['\\', 'n']
  else if c = '\\' ∨ c = '"' then ['\\', c]
  else if isShown c then [c]
  else '\\' :: 'u' :: '\x7b' :: Nat.toDigits 16 c.toNat ++ ['\x7d']

/-- A text between double quotes, with its characters escaped. -/
def escaped (s : String) : String :=
  String.ofList ('"' :: s.toList.flatMap escapeChar ++ ['"'])

end SchemaEvolution.Text
