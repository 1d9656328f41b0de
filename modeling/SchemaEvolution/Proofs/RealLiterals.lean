import SchemaEvolution.Proofs.NumberQueries

/-!
# Literals of real numbers

The literal of a double shows its shortest decimal in positional notation, so a double that is an
integer is written without a point.  A database tells an integer from a real number by the point
only; a session therefore answers with an integer where the integer fits sixty-four bits.

* `isFloating_real`, `isFloating_integer`: which literals show that they are no integers.
* `literal_eq_iff`: which literals of doubles are literals of integers, too.
* `call_integer`, `call_real`: the answers of a session to a statement that selects a literal.
* `select_number`: what becomes of integers and of doubles on this way.

Doubles are read from digits in sixty-four bits (`Extended`), which may miss the nearest double in
the last place.  That the nearest is found is `Numeral.IsReadNearest`.
-/

namespace SchemaEvolution

/-- A text shows a number that is not written as an integer: there is a point or an exponent. -/
def IsFloating (text : String) : Prop :=
  ∃ c ∈ text.toList, c = '.' ∨ c = 'e' ∨ c = 'E'

instance : DecidablePred IsFloating := fun text =>
  inferInstanceAs (Decidable (∃ c ∈ text.toList, c = '.' ∨ c = 'e' ∨ c = 'E'))

/-! ## Texts -/

theorem isFloating_iff {whole places : List Char} (h : ∀ c ∈ whole ++ places, c.isDigit = true)
    (negative : Bool) :
    IsFloating (String.ofList (signedText negative (pointed whole places))) ↔ places ≠ [] := by
  have hdigits : ∀ c ∈ whole ++ places, ¬ (c = '.' ∨ c = 'e' ∨ c = 'E') := by
    intro c hc
    have hdigit := h c hc
    rintro (rfl | rfl | rfl) <;> exact absurd hdigit (by decide)
  unfold IsFloating
  rw [String.toList_ofList]
  constructor
  · rintro ⟨c, hmem, hc⟩ rfl
    refine hdigits c ?_ hc
    rw [List.append_nil]
    cases negative
    · exact hmem
    · rcases List.mem_cons.mp hmem with rfl | hmem
      · exact absurd hc (by decide)
      · exact hmem
  · intro hplaces
    refine ⟨'.', ?_, Or.inl rfl⟩
    have hpoint : '.' ∈ pointed whole places := by
      rw [pointed, if_neg hplaces]
      exact List.mem_append_right _ List.mem_cons_self
    cases negative
    · exact hpoint
    · exact List.mem_cons_of_mem _ hpoint

/-! ## Literals -/

/-- The literal of an integer. -/
theorem Value.literal_integer (n : Int64) :
    (Value.integer n).literal =
      String.ofList (signedText (n.toInt < 0) (pointed (digits n.toInt.natAbs) [])) := by
  rw [Value.literal, signedDigits, signedText, pointed, if_pos rfl]
  congr 1
  simp only [decide_eq_true_eq]

theorem isDigit_of_mem_natAbs (n : Int64) :
    ∀ c ∈ digits n.toInt.natAbs ++ [], c.isDigit = true := by
  rw [List.append_nil]
  exact fun c => isDigit_of_mem_digits

theorem isFloating_integer (n : Int64) : ¬ IsFloating (Value.integer n).literal := by
  rw [Value.literal_integer, isFloating_iff (isDigit_of_mem_natAbs n)]
  exact not_not.mpr rfl

section

variable {x : Binary64}

/-- The literal of a finite double. -/
theorem Value.literal_real (h : x.isFinite = true) :
    (Value.real x).literal = String.ofList (signedText x.isNegative x.written.positional) := by
  have hnan : x.isNaN = false := by
    simp only [Binary64.isFinite, bne_iff_ne] at h
    simp [Binary64.isNaN, h]
  rw [Value.literal, Binary64.plain, Binary64.textWith, hnan, h, Binary64.written]
  cases x.isNegative <;> cases x.isZero <;> rfl

theorem isFloating_real (hfinite : x.isFinite = true) :
    IsFloating (Value.real x).literal ↔ ¬ x.IsIntegral := by
  obtain ⟨whole, places, hpositional, hspells⟩ := x.written.exists_spells
  rw [Value.literal_real hfinite, hpositional, isFloating_iff hspells.isDigit, ne_eq,
    hspells.places_eq_nil_iff, x.written_exponent_iff]

/-- The digits of a double that fits are those of an integer of the same sign, but a zero may have a
sign that the integer has not. -/
theorem literal_of_fitsInteger (hfinite : x.isFinite = true) (hfits : x.FitsInteger) :
    x = .zero true ∨ ∃ n : Int64, (Value.real x).literal = (Value.integer n).literal := by
  rw [Value.literal_real hfinite]
  rcases x.written_coefficient with ⟨hzero, hwritten⟩ | hcoefficient
  · rw [hwritten]
    have hx := Binary64.zero_isNegative hzero
    cases hnegative : x.isNegative
    · exact Or.inr ⟨0, by decide⟩
    · exact Or.inl (by rw [← hx, hnegative])
  · right
    have hexponent := x.written_exponent_iff.mpr hfits.1
    have hless := x.written_lt_iff.1.mpr (x.fitsInteger_iff.mp hfits).2
    rw [Decimal.value_whole hexponent] at hless
    rw [Decimal.positional_whole hcoefficient hexponent]
    have hpos : 0 < x.written.coefficient * tenTo x.written.exponent.toNat :=
      Nat.mul_pos hcoefficient (Nat.pow_pos (by decide))
    generalize x.written.coefficient * tenTo x.written.exponent.toNat = m at hless hpos
    have hlessNat : m < 2 ^ 63 := by exact_mod_cast hless
    have hint : (Int64.ofInt (if x.isNegative then -m else m)).toInt =
        if x.isNegative then -(m : ℤ) else m :=
      Int64.toInt_ofInt_of_le (by split <;> omega) (by split <;> omega)
    have hsize : (if x.isNegative then -(m : ℤ) else m).natAbs = m := by split <;> omega
    have hsign : decide ((if x.isNegative then -(m : ℤ) else m) < 0) = x.isNegative := by
      cases x.isNegative
      · exact decide_eq_false (Int.natCast_nonneg m).not_gt
      · exact decide_eq_true (neg_lt_zero.mpr (Int.natCast_pos.mpr hpos))
    refine ⟨Int64.ofInt (if x.isNegative then -m else m), ?_⟩
    rw [Value.literal_integer, hint, hsize, hsign, pointed, if_pos rfl]

/-- A minus sign before a zero is in no literal of an integer. -/
theorem literal_zero_ne (n : Int64) :
    (Value.real (.zero true)).literal ≠ (Value.integer n).literal := by
  have hzero : (Value.real (.zero true)).literal = String.ofList ['-', '0'] := by decide
  rw [hzero, Value.literal_integer, pointed, if_pos rfl]
  intro heq
  have hchars := String.ofList_injective heq
  by_cases hnegative : n.toInt < 0
  · rw [signedText, decide_eq_true hnegative, if_pos rfl, List.cons.injEq] at hchars
    have hvalue := valueOfDigits_digits n.toInt.natAbs
    rw [← hchars.2] at hvalue
    have hnone : valueOfDigits ['0'] = 0 := by decide
    omega
  · rw [signedText, decide_eq_false hnegative, if_neg Bool.false_ne_true] at hchars
    have hminus : '-' ∈ digits n.toInt.natAbs := hchars ▸ List.mem_cons_self
    exact absurd (isDigit_of_mem_digits hminus) (by decide)

end

namespace Database

/-! ## Numerals of doubles -/

namespace Numeral

/-- The double nearest to the number that a numeral writes. -/
def nearest (n : Numeral) : Binary64 :=
  .ofRatio n.negative (valueOfDigits (n.whole ++ n.places) * tenTo n.exponent.toNat)
    (tenTo n.places.length * tenTo (-n.exponent).toNat)

/-- The numeral is read as the double nearest to the number. -/
def IsReadNearest (n : Numeral) : Prop :=
  n.double = n.nearest

instance : DecidablePred IsReadNearest := fun n =>
  inferInstanceAs (Decidable (n.double = n.nearest))

/-- The numeral that is written for the size of a finite double, under its sign. -/
def ofReal (x : Binary64) : Numeral :=
  ofToken x.isNegative x.written.positional

theorem natAbs_wholeValue (n : Numeral) : n.wholeValue.natAbs = valueOfDigits n.whole := by
  unfold wholeValue
  split <;> omega

variable {x : Binary64}

theorem exists_ofReal (x : Binary64) :
    ∃ whole places, x.written.positional = pointed whole places ∧ x.written.Spells whole places ∧
      ofReal x = ⟨x.isNegative, whole, places, 0, places.isEmpty⟩ := by
  obtain ⟨whole, places, hpositional, hspells⟩ := x.written.exists_spells
  refine ⟨whole, places, hpositional, hspells, ?_⟩
  rw [ofReal, hpositional, ofToken_pointed hspells.isDigit]

theorem isWhole_ofReal (x : Binary64) : (ofReal x).isWhole = true ↔ x.IsIntegral := by
  obtain ⟨whole, places, -, hspells, heq⟩ := exists_ofReal x
  rw [heq, List.isEmpty_iff, hspells.places_eq_nil_iff, x.written_exponent_iff]

theorem valueOfDigits_ofReal (h : x.IsIntegral) :
    (valueOfDigits (ofReal x).whole : ℚ) = x.written.value := by
  obtain ⟨whole, places, -, hspells, heq⟩ := exists_ofReal x
  have hnil := hspells.places_eq_nil_iff.mpr (x.written_exponent_iff.mpr h)
  subst hnil
  have hvalue := hspells.value
  rw [List.append_nil] at hvalue
  rw [heq, ← hvalue]
  simp

theorem isInt64_ofReal (h : x.IsIntegral) :
    isInt64 (ofReal x).wholeValue = true ↔ x.size < 2 ^ 63 := by
  obtain ⟨hless, hne⟩ := x.written_lt_iff
  rw [← hless, ← valueOfDigits_ofReal h]
  rw [← valueOfDigits_ofReal h] at hne
  have hneNat : valueOfDigits (ofReal x).whole ≠ 2 ^ 63 := by exact_mod_cast hne
  have hlessNat : (valueOfDigits (ofReal x).whole : ℚ) < 2 ^ 63 ↔
      valueOfDigits (ofReal x).whole < 2 ^ 63 := by
    exact_mod_cast Iff.rfl
  have hpower : twoTo 63 = 2 ^ 63 := rfl
  rw [hlessNat]
  simp only [isInt64, wholeValue, Bool.and_eq_true, decide_eq_true_eq, hpower]
  split <;> omega

/-- The numeral of a double is an integer just if the double fits. -/
theorem fitsInteger_iff (x : Binary64) :
    x.FitsInteger ↔ ((ofReal x).isWhole && isInt64 (ofReal x).wholeValue) = true := by
  rw [x.fitsInteger_iff, Bool.and_eq_true, isWhole_ofReal]
  exact and_congr_right fun hintegral => (isInt64_ofReal hintegral).symm

theorem ofRatio_wholeValue (hfinite : x.isFinite = true) (h : x.IsIntegral) :
    .ofRatio x.isNegative (ofReal x).wholeValue.natAbs 1 = x := by
  refine Binary64.ofRatio_written hfinite one_pos ?_
  rw [natAbs_wholeValue, valueOfDigits_ofReal h, Nat.cast_one, div_one]

theorem double_ofReal (hfinite : x.isFinite = true) (hread : (ofReal x).IsReadNearest) :
    (ofReal x).double = x := by
  obtain ⟨whole, places, -, hspells, heq⟩ := exists_ofReal x
  rw [hread, heq]
  refine Binary64.ofRatio_written hfinite
    (Nat.mul_pos (Nat.pow_pos (by decide)) (Nat.pow_pos (by decide))) ?_
  rw [← hspells.value]
  simp

/-- Not every numeral is read so: that of a double of about `5e-74` is read as the next greater
one. -/
example : (ofReal ⟨0x30B758924EF2417E⟩).double = ⟨0x30B758924EF2417F⟩ := by
  decide +kernel

end Numeral

/-! ## Answers -/

/-- A statement that selects a literal. -/
def selectLiteral (v : Value) : Statement :=
  [.clause "SELECT", .literal v]

theorem render_selectLiteral (d : Dialect) (v : Value) :
    d.render (selectLiteral v) = "SELECT " ++ v.literal := by
  have hjoined : d.render (selectLiteral v) = "" ++ "SELECT" ++ (" " ++ v.literal ++ "") := rfl
  rw [hjoined, String.append_empty, String.empty_append, ← String.append_assoc]
  rfl

section

variable {v w : Value} {negative : Bool} {whole places : List Char}

theorem call_selectLiteral (hne : whole ≠ []) (h : ∀ c ∈ whole ++ places, c.isDigit = true)
    (hliteral : v.literal = String.ofList (signedText negative (pointed whole places)))
    (capabilities : Capabilities) (db : Database) :
    (session capabilities).call (selectLiteral v) db =
      (.ok [[(Numeral.mk negative whole places 0 places.isEmpty).cell.value]], db) := by
  have hrun := run_select _ db (withoutLowLines_eq (isNumberChar_of_mem h))
    (numberToken_pointed h negative) (lexemes_select hne h negative)
  show query ((Dialect.sqlite capabilities).render (selectLiteral v)) db = _
  rw [render_selectLiteral, hliteral, query, hrun]
  rfl

/-- Of a value the answer depends only on the literal. -/
theorem call_congr (h : v.literal = w.literal) (capabilities : Capabilities) (db : Database) :
    (session capabilities).call (selectLiteral v) db =
      (session capabilities).call (selectLiteral w) db := by
  show query ((Dialect.sqlite capabilities).render (selectLiteral v)) db =
    query ((Dialect.sqlite capabilities).render (selectLiteral w)) db
  rw [render_selectLiteral, render_selectLiteral, h]

end

theorem cell_integer (n : Int64) :
    (Numeral.mk (n.toInt < 0) (digits n.toInt.natAbs) [] 0 true).cell = .integer n := by
  have hvalue : (Numeral.mk (n.toInt < 0) (digits n.toInt.natAbs) [] 0 true).wholeValue =
      n.toInt := by
    unfold Numeral.wholeValue
    simp only [valueOfDigits_digits, decide_eq_true_eq]
    split <;> omega
  rw [Numeral.cell, hvalue, Literal.isInt64_toInt, Bool.and_self, if_pos rfl, Int64.ofInt_toInt]

theorem call_integer (n : Int64) (capabilities : Capabilities) (db : Database) :
    (session capabilities).call (selectLiteral (.integer n)) db = (.ok [[.integer n]], db) := by
  have hcall := call_selectLiteral (digits_ne_nil _) (isDigit_of_mem_natAbs n)
    (Value.literal_integer n) capabilities db
  rw [hcall, List.isEmpty_nil, cell_integer]
  rfl

section

variable {x : Binary64} (capabilities : Capabilities) (db : Database)

theorem call_real (hfinite : x.isFinite = true) :
    (session capabilities).call (selectLiteral (.real x)) db =
      (.ok [[(Numeral.ofReal x).cell.value]], db) := by
  obtain ⟨whole, places, hpositional, hspells, heq⟩ := Numeral.exists_ofReal x
  have hliteral := Value.literal_real hfinite
  rw [hpositional] at hliteral
  rw [heq]
  exact call_selectLiteral hspells.whole_ne_nil hspells.isDigit hliteral capabilities db

/-- A double that fits becomes an integer, of which it is the nearest double. -/
theorem call_of_fitsInteger (hfinite : x.isFinite = true) (hfits : x.FitsInteger) :
    ∃ n : Int64,
      (session capabilities).call (selectLiteral (.real x)) db = (.ok [[.integer n]], db) ∧
        .ofRatio x.isNegative n.toInt.natAbs 1 = x := by
  have hcell := (Numeral.fitsInteger_iff x).mp hfits
  obtain ⟨-, hint⟩ := Bool.and_eq_true_iff.mp hcell
  simp only [isInt64, Bool.and_eq_true, decide_eq_true_eq] at hint
  refine ⟨Int64.ofInt (Numeral.ofReal x).wholeValue, ?_, ?_⟩
  · rw [call_real capabilities db hfinite, Numeral.cell, if_pos hcell]
    rfl
  · rw [Int64.toInt_ofInt_of_le hint.1 hint.2]
    exact Numeral.ofRatio_wholeValue hfinite hfits.1

/-- Another double becomes a double, and is the same one if it is read as the nearest. -/
theorem call_of_not_fitsInteger (hfinite : x.isFinite = true) (hfits : ¬ x.FitsInteger) :
    ∃ y : Binary64,
      (session capabilities).call (selectLiteral (.real x)) db = (.ok [[.real y]], db) ∧
        ((Numeral.ofReal x).IsReadNearest → y = x) := by
  refine ⟨(Numeral.ofReal x).double, ?_, Numeral.double_ofReal hfinite⟩
  rw [call_real capabilities db hfinite, Numeral.cell,
    if_neg fun hcell => hfits ((Numeral.fitsInteger_iff x).mpr hcell)]
  rfl

/-- Which literals of doubles are literals of integers, too. -/
theorem literal_eq_iff (hfinite : x.isFinite = true) :
    (∃ n : Int64, Value.literal (.real x) = Value.literal (.integer n)) ↔
      x.FitsInteger ∧ x ≠ .zero true := by
  constructor
  · rintro ⟨n, hn⟩
    constructor
    · -- the answer is an integer, as it is that to the literal of an integer
      by_contra hfits
      obtain ⟨y, hcall, -⟩ := call_of_not_fitsInteger .sqlite {} hfinite hfits
      rw [call_congr hn, call_integer] at hcall
      simp at hcall
    · rintro rfl
      exact literal_zero_ne n hn
  · rintro ⟨hfits, hzero⟩
    exact (literal_of_fitsInteger hfinite hfits).resolve_left hzero

/-- A double is told from all integers by its literal: the literal shows that it is no integer, and
a session answers with the double, as long as the database reads the literal as the nearest one. -/
structure StaysReal (capabilities : Capabilities) (db : Database) (x : Binary64) : Prop where
  isFloating : IsFloating (Value.literal (.real x))
  ne_integer : ∀ n : Int64, Value.literal (.real x) ≠ Value.literal (.integer n)
  answer : (Numeral.ofReal x).IsReadNearest →
    (session capabilities).call (selectLiteral (.real x)) db = (.ok [[.real x]], db)

theorem staysReal_iff (hfinite : x.isFinite = true) :
    StaysReal capabilities db x ↔ ¬ x.IsIntegral := by
  constructor
  · exact fun h => (isFloating_real hfinite).mp h.isFloating
  · intro hx
    have hfloating := (isFloating_real hfinite).mpr hx
    refine ⟨hfloating, fun n heq => ?_, fun hread => ?_⟩
    · rw [heq] at hfloating
      exact isFloating_integer n hfloating
    · have hfits : ¬ x.FitsInteger := fun hfits => hx hfits.1
      obtain ⟨y, hcall, hy⟩ := call_of_not_fitsInteger capabilities db hfinite hfits
      rw [hcall, hy hread]

end

/-- **Numbers in literals.**  An integer that is selected by its literal is the answer.  A finite
double stays a real number, told from all integers by its literal, just if it is not an integer.
The literal of an integral double that fits is that of an integer, except for the minus zero, and
the answer is an integer of which the double is the nearest; the answer to a larger double is a
double again. -/
theorem select_number (capabilities : Capabilities) (db : Database) (x : Binary64)
    (hfinite : x.isFinite = true) :
    (∀ n : Int64,
      (session capabilities).call (selectLiteral (.integer n)) db = (.ok [[.integer n]], db)) ∧
    (StaysReal capabilities db x ↔ ¬ x.IsIntegral) ∧
    ((∃ n : Int64, Value.literal (.real x) = Value.literal (.integer n)) ↔
      x.FitsInteger ∧ x ≠ .zero true) ∧
    (x.FitsInteger → ∃ n : Int64,
      (session capabilities).call (selectLiteral (.real x)) db = (.ok [[.integer n]], db) ∧
        .ofRatio x.isNegative n.toInt.natAbs 1 = x) ∧
    (¬ x.FitsInteger → ∃ y : Binary64,
      (session capabilities).call (selectLiteral (.real x)) db = (.ok [[.real y]], db) ∧
        ((Numeral.ofReal x).IsReadNearest → y = x)) :=
  ⟨fun n => call_integer n capabilities db, staysReal_iff capabilities db hfinite,
    literal_eq_iff hfinite, call_of_fitsInteger capabilities db hfinite,
    call_of_not_fitsInteger capabilities db hfinite⟩

/-- The double `3.5` stays a real number. -/
theorem select_number_fraction :
    StaysReal .sqlite {} ⟨0x400C000000000000⟩ ∧
      (session .sqlite).call (selectLiteral (.real ⟨0x400C000000000000⟩)) {} =
        (.ok [[.real ⟨0x400C000000000000⟩]], {}) := by
  have hstays := (select_number .sqlite {} ⟨0x400C000000000000⟩ (by decide)).2.1.mpr (by decide)
  exact ⟨hstays, hstays.answer (by decide +kernel)⟩

/-- The literal of the double `1` is that of the integer, so the integer is the answer. -/
theorem select_one :
    ¬ IsFloating (Value.literal (.real ⟨0x3FF0000000000000⟩)) ∧
      Value.literal (.real ⟨0x3FF0000000000000⟩) = Value.literal (.integer 1) ∧
      (session .sqlite).call (selectLiteral (.real ⟨0x3FF0000000000000⟩)) {} =
        (.ok [[.integer 1]], {}) := by
  have hliteral : Value.literal (.real ⟨0x3FF0000000000000⟩) = Value.literal (.integer 1) := by
    decide +kernel
  refine ⟨?_, hliteral, ?_⟩
  · rw [hliteral]
    exact isFloating_integer 1
  · rw [call_congr hliteral, call_integer]

end Database

end SchemaEvolution
