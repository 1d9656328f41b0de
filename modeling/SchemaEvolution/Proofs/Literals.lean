import SchemaEvolution.Database.Token
import SchemaEvolution.Proofs.Timestamps

/-!
# Reading literals

A literal says of which class its value is by the way in which it begins, and the rest of it is the
value: nothing, a truth value, an integer, a text or bytes.

* `Literal.read?`: the reader of literals, with a reader for each of their forms.
* `Literal.integer?_signedDigits`, `Literal.bytes?_flatMap_hexByte`: the digits of an integer and
  the hexadecimal digits of bytes are read back.
* `Literal.read?_literal`: a literal is read as the value that it was written for.
* `Literal.determines_value`: so two values with the same literal are the same.

Real numbers and times are left out: the literal of a real number may be that of an integer, and
that of a time is a text.
-/

namespace SchemaEvolution

namespace Literal

/-! ## The reader -/

/-- The number that digits write, if there are some and nothing else. -/
def number? (ds : List Char) : Option Nat :=
  if ds ≠ [] ∧ ds.all Char.isDigit = true then some (valueOfDigits ds) else none

/-- An integer, if sixty-four bits hold it. -/
def fitting? (n : Int) : Option Int64 :=
  if isInt64 n then some (Int64.ofInt n) else none

/-- The integer that digits write, perhaps behind a sign. -/
def integer? : List Char → Option Int64
  | '-' :: ds => (number? ds).bind fun n => fitting? (-n)
  | '+' :: ds => (number? ds).bind fun n => fitting? n
  | ds => (number? ds).bind fun n => fitting? n

/-- The text between quotes, in which a quote is written twice. -/
def text? (cs : List Char) : Option String :=
  match Quoting.read? '\x27' cs with
  | some (s, []) => some s
  | _ => none

/-- The bytes that are written with two hexadecimal digits each, before the closing quote. -/
def bytes? (cs : List Char) : Option (List UInt8) :=
  let digits := cs.takeWhile (· != '\x27')
  if cs.drop digits.length = ['\x27'] then Database.Token.bytes? digits else none

/-- The value that a literal writes. -/
def read? (literal : String) : Option Value :=
  match literal.toList with
  | ['N', 'U', 'L', 'L'] => some .null
  | ['T', 'R', 'U', 'E'] => some (.boolean true)
  | ['F', 'A', 'L', 'S', 'E'] => some (.boolean false)
  | 'X' :: '\x27' :: cs => (bytes? cs).map .blob
  | '\x27' :: cs => (text? ('\x27' :: cs)).map .text
  | cs => (integer? cs).map .integer

end Literal

/-- Nothing, a truth value, an integer, a text or bytes. -/
def Value.IsReadable : Value → Prop
  | null | boolean _ | integer _ | text _ | blob _ => True
  | real _ | timestamp _ => False

namespace Literal

/-! ## Integers -/

theorem number?_digits (n : Nat) : number? (digits n) = some n := by
  have hdigits : (digits n).all Char.isDigit = true :=
    List.all_eq_true.mpr fun _ => isDigit_of_mem_digits
  rw [number?, if_pos ⟨digits_ne_nil n, hdigits⟩, valueOfDigits_digits]

/-- An integer of sixty-four bits fits into them. -/
theorem isInt64_toInt (n : Int64) : isInt64 n.toInt = true := by
  simp only [isInt64, Bool.and_eq_true, decide_eq_true_eq]
  exact ⟨Int64.le_toInt n, Int64.toInt_lt n⟩

theorem fitting?_toInt (n : Int64) : fitting? n.toInt = some n := by
  rw [fitting?, if_pos (isInt64_toInt n), Int64.ofInt_toInt]

/-- The digits of a number begin with a digit. -/
theorem exists_digits_eq_cons (n : Nat) : ∃ c cs, digits n = c :: cs ∧ c.isDigit = true := by
  obtain ⟨c, cs, h⟩ := List.exists_cons_of_ne_nil (digits_ne_nil n)
  exact ⟨c, cs, h, isDigit_of_mem_digits (h ▸ List.mem_cons_self)⟩

/-- Digits without a sign are read as they are. -/
theorem integer?_digits (n : Nat) : integer? (digits n) = fitting? n := by
  obtain ⟨c, cs, hdigits, hc⟩ := exists_digits_eq_cons n
  have hnumber := number?_digits n
  rw [hdigits] at hnumber ⊢
  unfold integer?
  split
  · rename_i hsign
    rw [(List.cons.inj hsign).1] at hc
    exact absurd hc (by decide)
  · rename_i hsign
    rw [(List.cons.inj hsign).1] at hc
    exact absurd hc (by decide)
  · rw [hnumber, Option.bind_some]

theorem integer?_signedDigits (n : Int64) : integer? (signedDigits n.toInt) = some n := by
  rw [← fitting?_toInt n]
  unfold signedDigits
  split
  · rename_i hnegative
    rw [integer?, number?_digits, Option.bind_some]
    congr 1
    omega
  · rename_i hpositive
    rw [integer?_digits]
    congr 1
    omega

/-! ## Bytes -/

/-- A hexadecimal digit has its value back, and it is no quote. -/
theorem hexDigit_spec : ∀ n < 16, Database.Token.hexValue? (hexDigit n) = some n ∧
    (hexDigit n != '\x27') = true := by
  decide

theorem bytes?_flatMap_hexByte (bytes : List UInt8) :
    Database.Token.bytes? (bytes.flatMap hexByte) = some bytes := by
  induction bytes with
  | nil => rfl
  | cons b bytes ih =>
    have hb := b.toNat_lt
    have hhigh := (hexDigit_spec (b.toNat / 16) (by omega)).1
    have hlow := (hexDigit_spec (b.toNat % 16) (by omega)).1
    have hbyte : UInt8.ofNat (16 * (b.toNat / 16) + b.toNat % 16) = b := by
      rw [Nat.div_add_mod, UInt8.ofNat_toNat]
    rw [List.flatMap_cons, hexByte, List.cons_append, List.cons_append, List.nil_append,
      Database.Token.bytes?, hhigh, hlow, ih]
    exact congrArg (fun byte => some (byte :: bytes)) hbyte

/-- There is no quote in hexadecimal digits. -/
theorem ne_quote_of_mem_flatMap {bytes : List UInt8} {c : Char}
    (h : c ∈ bytes.flatMap hexByte) : (c != '\x27') = true := by
  obtain ⟨b, -, hc⟩ := List.mem_flatMap.mp h
  have hb := b.toNat_lt
  simp only [hexByte, List.mem_cons, List.not_mem_nil, or_false] at hc
  rcases hc with rfl | rfl
  · exact (hexDigit_spec _ (by omega)).2
  · exact (hexDigit_spec _ (by omega)).2

theorem bytes?_written (bytes : List UInt8) :
    bytes? (bytes.flatMap hexByte ++ ['\x27']) = some bytes := by
  have hdigits : (bytes.flatMap hexByte ++ ['\x27']).takeWhile (· != '\x27') =
      bytes.flatMap hexByte := by
    rw [List.takeWhile_append_of_pos fun _ => ne_quote_of_mem_flatMap]
    simp
  rw [bytes?, hdigits, if_pos (List.drop_left ..), bytes?_flatMap_hexByte]

/-! ## All literals -/

theorem text?_write (s : String) : text? (Quoting.write '\x27' s).toList = some s := by
  have hread := Quoting.read?_write '\x27' s [] (by simp)
  rw [List.append_nil] at hread
  rw [text?, hread]

/-- The digits of an integer are none of the other forms. -/
theorem read?_signedDigits (n : Int) :
    read? (String.ofList (signedDigits n)) = (integer? (signedDigits n)).map .integer := by
  obtain ⟨c, cs, hdigits, hc⟩ := exists_digits_eq_cons n.natAbs
  have hfirst : ∃ c cs, signedDigits n = c :: cs ∧ (c = '-' ∨ c.isDigit = true) := by
    unfold signedDigits
    split
    · exact ⟨_, _, rfl, Or.inl rfl⟩
    · exact ⟨c, cs, hdigits, Or.inr hc⟩
  obtain ⟨c, cs, htext, hc⟩ := hfirst
  unfold read?
  rw [String.toList_ofList, htext]
  split
  all_goals first
    | rfl
    | rename_i hother
      rw [(List.cons.inj hother).1] at hc
      exact absurd hc (by decide)

/-- A literal is read as the value that it was written for. -/
theorem read?_literal {v : Value} (h : v.IsReadable) : read? v.literal = some v := by
  cases v with
  | null => rfl
  | boolean b => cases b <;> rfl
  | integer n =>
    rw [Value.literal, read?_signedDigits, integer?_signedDigits]
    rfl
  | text s =>
    have htext : (Quoting.write '\x27' s).toList =
        '\x27' :: (Quoting.double '\x27' s.toList ++ ['\x27']) := by
      simp [Quoting.write]
    have hread := text?_write s
    rw [htext] at hread
    rw [Value.literal, read?, htext]
    exact congrArg (Option.map Value.text) hread
  | blob bytes =>
    have htext : (Value.blob bytes).literal.toList =
        'X' :: '\x27' :: (bytes.flatMap hexByte ++ ['\x27']) := by
      simp [Value.literal]
    rw [read?, htext]
    exact congrArg (Option.map Value.blob) (bytes?_written bytes)
  | real x => exact h.elim
  | timestamp t => exact h.elim

/-- Values that are no real numbers and no times are recovered from their literals.  The one reader
reads the literal of each of them as this very value: of every integer of sixty-four bits, of every
text and of all bytes.  So two of them, of the same class or of different ones, have the same
literal only if they are the same. -/
theorem determines_value {v w : Value} (hv : v.IsReadable) (hw : w.IsReadable) :
    read? v.literal = some v ∧ read? w.literal = some w ∧ (v.literal = w.literal → v = w) := by
  refine ⟨read?_literal hv, read?_literal hw, fun h => ?_⟩
  have hsome : some v = some w := by
    rw [← read?_literal hv, h, read?_literal hw]
  exact Option.some.inj hsome

/-- The least integer is read back, and texts that look like other literals have literals of their
own. -/
theorem determines_value_lookalikes :
    read? (Value.integer Int64.minValue).literal = some (.integer Int64.minValue) ∧
      (Value.text "NULL").literal ≠ Value.null.literal ∧
      (Value.text "5").literal ≠ (Value.integer 5).literal ∧
      (Value.text "X'00'").literal ≠ (Value.blob [0]).literal := by
  have hleast := determines_value (v := .integer Int64.minValue) (w := .null) trivial trivial
  have hother : ∀ v w : Value, v.IsReadable → w.IsReadable → v ≠ w → v.literal ≠ w.literal :=
    fun v w hv hw hne h => hne ((determines_value hv hw).2.2 h)
  exact ⟨hleast.1, hother _ _ trivial trivial (by decide), hother _ _ trivial trivial (by decide),
    hother _ _ trivial trivial (by decide)⟩

end Literal

end SchemaEvolution
