/-!
# White space

The property `White_Space`, which is wider than the blanks of ASCII.
-/

namespace SchemaEvolution.Text

/-- A character with the property `White_Space`. -/
def isBlank (c : Char) : Bool :=
  let n := c.toNat
  0x9 ≤ n && n ≤ 0xd || n == 0x20 || n == 0x85 || n == 0xa0 || n == 0x1680 ||
    0x2000 ≤ n && n ≤ 0x200a || n == 0x2028 || n == 0x2029 || n == 0x202f || n == 0x205f ||
    n == 0x3000

/-- A text without the white space at its front. -/
def trimBlank (cs : List Char) : List Char :=
  cs.dropWhile isBlank

end SchemaEvolution.Text
