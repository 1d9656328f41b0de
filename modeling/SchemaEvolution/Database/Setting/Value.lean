import SchemaEvolution.Database.Name
import SchemaEvolution.Database.Token

/-!
# Values of settings

The value of a setting is given as a text, and each setting reads it in its own way.

* `Value.integer?` reads an integer of thirty-two bits, and `Value.long` one of sixty-four.
* `Value.isOn` reads a truth value, and `Value.safety` how safe something is to be.
-/

namespace SchemaEvolution.Database.Value

/-- The sign of a number, and what stands behind it. -/
def signed : List Char → Bool × List Char
  | '-' :: cs => (true, cs)
  | '+' :: cs => (false, cs)
  | cs => (false, cs)

/-- The hexadecimal digits of a number that begins like one. -/
def hexDigits? : List Char → Option (List Char)
  | '0' :: x :: cs =>
    if x == 'x' || x == 'X' then some (cs.takeWhile fun c => (Token.hexValue? c).isSome) else none
  | _ => none

/-- The value of hexadecimal digits. -/
def valueOfHex (cs : List Char) : Nat :=
  cs.foldl (fun n c => 16 * n + (Token.hexValue? c).getD 0) 0

/-- The integer of thirty-two bits at the front of a text. -/
def integer? (text : String) : Option Int :=
  match hexDigits? text.toList with
  | some (d :: ds) =>
    let n := valueOfHex (d :: ds)
    if n ≤ 2147483647 then some n else none
  | _ =>
    let (isNegative, cs) := signed text.toList
    let ds := cs.takeWhile Char.isDigit
    let n : Int := valueOfDigits ds
    if ds.isEmpty then none
    else if isNegative then (if n ≤ 2147483648 then some (-n) else none)
    else if n ≤ 2147483647 then some n else none

/-- The integer of thirty-two bits at the front of a text, or zero. -/
def integer (text : String) : Int :=
  (integer? text).getD 0

/-- A number as it is kept in sixty-four bits. -/
def wrapped (n : Nat) : Int :=
  (Int64.ofInt n).toInt

/-- The integer of sixty-four bits at the front of a text, and whether the text is nothing but
that. -/
def long (text : String) : Bool × Int :=
  match hexDigits? text.toList with
  | some ds =>
    let isWhole := ds.length + 2 = text.length
    (isWhole && (ds.dropWhile (· == '0')).length ≤ 16, wrapped (valueOfHex ds))
  | none =>
    let (isNegative, cs) := signed (text.toList.dropWhile Token.isSpace)
    let ds := cs.takeWhile Char.isDigit
    let n : Int := valueOfDigits ds
    let n := if isNegative then -n else n
    let isWhole := !ds.isEmpty && (cs.drop ds.length).all Token.isSpace && isInt64 n
    (isWhole, max (-9223372036854775808) (min n 9223372036854775807))

/-- How safe something is to be; a number stands for itself. -/
def safety (text : String) (others : Nat) : Nat :=
  if text.toList.head?.any Char.isDigit then (integer text % 256).toNat
  else
    let words := [("on", 1), ("no", 0), ("off", 0), ("false", 0), ("yes", 1), ("true", 1),
      ("extra", 3), ("full", 2)]
    ((words.find? fun (w, _) => sameName w text).map Prod.snd).getD others

/-- A value that means on. -/
def isOn (text : String) (others : Bool := false) : Bool :=
  if text.toList.head?.any Char.isDigit then safety text 0 != 0
  else if ["on", "yes", "true"].any (sameName text) then true
  else if ["no", "off", "false"].any (sameName text) then false
  else others

end SchemaEvolution.Database.Value
