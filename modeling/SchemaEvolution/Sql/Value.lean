import SchemaEvolution.Text.Escaped
import SchemaEvolution.Time.Timestamp

/-!
# Values and rows

A `Value` is what a statement sends as a literal and what a row gives back.  `Value.equal` compares
values as a database would, so two real values are compared as numbers; `Value.shown` is the form in
which a message quotes a value.
-/

namespace SchemaEvolution

/-- A value of one of the storage classes, or none. -/
inductive Value where
  | null
  | boolean (b : Bool)
  | integer (n : Int64)
  | real (x : Binary64)
  | text (s : String)
  | blob (bytes : List UInt8)
  | timestamp (t : Timestamp)
deriving DecidableEq

/-- The values of one row, in the order of the columns. -/
abbrev Row := List Value

namespace Value

/-- The text of a text value. -/
def text? : Value → Option String
  | text s => some s
  | _ => none

/-- The number of an integer value. -/
def integer? : Value → Option Int64
  | integer n => some n
  | _ => none

/-- There is no value. -/
def isNull : Value → Bool
  | null => true
  | _ => false

/-- The value of something that may be missing. -/
def ofOption : Option Value → Value
  | some v => v
  | none => null

/-- Equality of values: of the same class, and for real values equality of numbers. -/
def equal : Value → Value → Bool
  | real x, real y => x.equal y
  | v, w => v == w

/-- A value with the name of its class, as messages show it. -/
def shown : Value → String
  | null => "Null"
  | boolean b => if b then "Bool(true)" else "Bool(false)"
  | integer n => s!"Integer({String.ofList (signedDigits n.toInt)})"
  | real x => s!"Real({x.marked})"
  | text s => s!"Text({Text.escaped s})"
  | blob bytes =>
    let items := bytes.map fun b => String.ofList (digits b.toNat)
    "Blob([" ++ ", ".intercalate items ++ "])"
  | timestamp t => s!"Timestamp({t.exact})"

end Value

end SchemaEvolution
