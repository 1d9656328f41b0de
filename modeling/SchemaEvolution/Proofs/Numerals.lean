import SchemaEvolution.Database.Perform
import SchemaEvolution.Proofs.Literals
import SchemaEvolution.Proofs.ShortestDecimals

/-!
# Numerals

A number is written with digits, perhaps with a point among them, and a sign before it; the database
finds the digits before and behind the point again.

* `Decimal.exists_spells`: a decimal in positional notation is made of such digits, whose value is
  that of the decimal, and there is a point only if the decimal is not written as a whole number.
* `Numeral.ofToken_pointed`, `withoutLowLines_eq`, `isHexadecimal_eq_false`: what is read from the
  digits.
* `lexemes_select`: the tokens of a statement that selects a number are its word, the sign if there
  is one, and the whole number.
-/

namespace SchemaEvolution

/-- Digits, then a point and the digits behind it if there are any. -/
def pointed (whole places : List Char) : List Char :=
  if places = [] then whole else whole ++ '.' :: places

/-- A number with its sign. -/
def signedText (negative : Bool) (ds : List Char) : List Char :=
  if negative then '-' :: ds else ds

/-! ## Decimals in digits -/

theorem valueOfDigits_append_zeros (ds : List Char) (k : ℕ) :
    valueOfDigits (ds ++ List.replicate k '0') = valueOfDigits ds * tenTo k := by
  rw [valueOfDigits, Nat.ofDigitChars_append, Nat.ofDigitChars_replicate_zero, Nat.mul_comm]
  rfl

/-- Zeros behind the digits of a number make the digits of a number again. -/
theorem digits_append_zeros {n : ℕ} (hn : 0 < n) (k : ℕ) :
    digits n ++ List.replicate k '0' = digits (n * tenTo k) := by
  induction k with
  | zero => simp
  | succ k ih =>
    have hnext : digits (n * tenTo (k + 1)) = digits (n * tenTo k) ++ ['0'] := by
      have hpower : n * tenTo (k + 1) = 10 * (n * tenTo k) + 0 := by
        show n * 10 ^ (k + 1) = 10 * (n * 10 ^ k) + 0
        ring
      rw [hpower]
      exact (Nat.toDigits_append_toDigits (by decide)
        (Nat.mul_pos hn (Nat.pow_pos (by decide))) (by decide)).symm
    rw [hnext, ← ih, List.append_assoc, List.replicate_succ']

namespace Decimal

variable {d : Decimal}

/-- Zeros are put behind the digits of a whole number. -/
theorem positional_whole (hcoefficient : 0 < d.coefficient) (h : 0 ≤ d.exponent) :
    d.positional = digits (d.coefficient * tenTo d.exponent.toNat) := by
  unfold positional
  simp only
  rw [if_pos h, digits_append_zeros hcoefficient]

theorem value_whole (h : 0 ≤ d.exponent) :
    d.value = (d.coefficient * tenTo d.exponent.toNat : ℕ) := by
  obtain ⟨k, hk⟩ := Int.eq_ofNat_of_zero_le h
  rw [value, hk, zpow_natCast]
  show _ = ((d.coefficient * 10 ^ k : ℕ) : ℚ)
  push_cast
  rfl

/-- Digits before and behind a point write a decimal. -/
structure Spells (d : Decimal) (whole places : List Char) : Prop where
  whole_ne_nil : whole ≠ []
  isDigit : ∀ c ∈ whole ++ places, c.isDigit = true
  value : (valueOfDigits (whole ++ places) : ℚ) / tenTo places.length = d.value
  places_eq_nil_iff : places = [] ↔ 0 ≤ d.exponent

theorem spells_whole (h : 0 ≤ d.exponent) :
    d.Spells (digits d.coefficient ++ List.replicate d.exponent.toNat '0') [] := by
  refine ⟨by simp [digits_ne_nil], fun c hc => ?_, ?_, iff_of_true rfl h⟩
  · rw [List.append_nil, List.mem_append] at hc
    rcases hc with hc | hc
    · exact isDigit_of_mem_digits hc
    · rw [List.eq_of_mem_replicate hc]
      rfl
  · rw [List.append_nil, valueOfDigits_append_zeros, valueOfDigits_digits, value_whole h]
    simp

/-- The last digits stand behind the point. -/
theorem spells_split (ds : List Char) {k : ℕ} (hexponent : d.exponent = -(k : ℤ)) (hk : 0 < k)
    (hdigits : ∀ c ∈ ds, c.isDigit = true) (hlength : k < ds.length)
    (hvalue : valueOfDigits ds = d.coefficient) :
    d.Spells (ds.take (ds.length - k)) (ds.drop (ds.length - k)) := by
  have hplaces : (ds.drop (ds.length - k)).length = k := by
    rw [List.length_drop]
    omega
  have hwhole : (ds.take (ds.length - k)).length = ds.length - k := by
    rw [List.length_take]
    omega
  refine ⟨?_, ?_, ?_, ?_⟩
  · rw [← List.length_pos_iff]
    omega
  · rw [List.take_append_drop]
    exact hdigits
  · rw [List.take_append_drop, hplaces, hvalue, value, hexponent, zpow_neg, zpow_natCast,
      ← div_eq_mul_inv]
    show (d.coefficient : ℚ) / ((10 ^ k : ℕ) : ℚ) = _
    push_cast
    rfl
  · rw [← List.length_eq_zero_iff, hplaces]
    omega

/-- In positional notation, the digits of a decimal below one are those of its coefficient, filled
up with zeros until one of them stands before the point. -/
theorem exists_spells (d : Decimal) :
    ∃ whole places, d.positional = pointed whole places ∧ d.Spells whole places := by
  unfold positional
  simp only
  split
  · rename_i hexponent
    exact ⟨_, [], rfl, spells_whole hexponent⟩
  · rename_i hexponent
    have hplaces : d.exponent = -((-d.exponent).toNat : ℤ) := by omega
    generalize (-d.exponent).toNat = k at hplaces
    have hwidth : (fixedWidth (k + 1) d.coefficient).length =
        max (k + 1) (digits d.coefficient).length := by
      rw [fixedWidth, List.length_append, List.length_replicate]
      omega
    have hspells := spells_split (fixedWidth (k + 1) d.coefficient) hplaces (by omega)
      (fun _ => isDigit_of_mem_fixedWidth) (by omega) (valueOfDigits_fixedWidth _ _)
    refine ⟨_, _, ?_, hspells⟩
    rw [pointed, if_neg fun hnil => hexponent (hspells.places_eq_nil_iff.mp hnil), hwidth]
    split
    · rename_i hlength
      have hsame : fixedWidth (k + 1) d.coefficient = digits d.coefficient := by
        rw [fixedWidth, Nat.sub_eq_zero_of_le hlength]
        rfl
      rw [hsame, max_eq_right hlength]
    · rename_i hlength
      have hzeros : fixedWidth (k + 1) d.coefficient =
          '0' :: (List.replicate (k - (digits d.coefficient).length) '0' ++
            digits d.coefficient) := by
        rw [fixedWidth, Nat.succ_sub (by omega)]
        rfl
      rw [hzeros, max_eq_left (by omega), Nat.add_sub_cancel_left]
      rfl

end Decimal

namespace Database

variable {whole places cs : List Char} {c : Char}

/-! ## Characters of numbers -/

/-- A digit or a point. -/
def isNumberChar (c : Char) : Bool :=
  c.isDigit || c == '.'

theorem isNumberChar_of_isDigit (h : c.isDigit = true) : isNumberChar c = true := by
  rw [isNumberChar, h, Bool.true_or]

theorem isNumberChar_of_mem (h : ∀ c ∈ whole ++ places, c.isDigit = true) :
    ∀ c ∈ pointed whole places, isNumberChar c = true := by
  intro c hc
  unfold pointed at hc
  split at hc
  · exact isNumberChar_of_isDigit (h c (List.mem_append_left _ hc))
  · rw [List.mem_append, List.mem_cons] at hc
    rcases hc with hc | rfl | hc
    · exact isNumberChar_of_isDigit (h c (List.mem_append_left _ hc))
    · rfl
    · exact isNumberChar_of_isDigit (h c (List.mem_append_right _ hc))

theorem ne_of_isNumberChar (h : isNumberChar c = true) {d : Char} (hd : isNumberChar d = false) :
    c ≠ d := by
  rintro rfl
  rw [h] at hd
  exact absurd hd (by decide)

theorem ne_of_isDigit (h : c.isDigit = true) {d : Char} (hd : d.isDigit = false) : c ≠ d := by
  rintro rfl
  rw [h] at hd
  exact absurd hd (by decide)

/-- A number with a point begins with a digit, too. -/
theorem exists_pointed_eq_cons (hne : whole ≠ []) (h : ∀ c ∈ whole ++ places, c.isDigit = true) :
    ∃ c cs, pointed whole places = c :: cs ∧ c.isDigit = true := by
  obtain ⟨c, cs, rfl⟩ := List.exists_cons_of_ne_nil hne
  have hc := h c List.mem_cons_self
  unfold pointed
  split
  · exact ⟨c, cs, rfl, hc⟩
  · exact ⟨c, cs ++ '.' :: places, rfl, hc⟩

/-- A number ends with a digit, as a point has digits behind it. -/
theorem exists_pointed_eq_concat (hne : whole ≠ []) (h : ∀ c ∈ whole ++ places, c.isDigit = true) :
    ∃ cs c, pointed whole places = cs ++ [c] ∧ c.isDigit = true := by
  unfold pointed
  split
  · refine ⟨whole.dropLast, whole.getLast hne, (List.dropLast_append_getLast hne).symm, ?_⟩
    exact h _ (List.mem_append_left _ (List.getLast_mem hne))
  · rename_i hplaces
    refine ⟨whole ++ '.' :: places.dropLast, places.getLast hplaces, ?_, ?_⟩
    · rw [List.append_assoc, List.cons_append, List.dropLast_append_getLast]
    · exact h _ (List.mem_append_right _ (List.getLast_mem hplaces))

/-! ## The number that a token writes -/

theorem isHexadecimal_eq_false (h : ∀ c ∈ cs, isNumberChar c = true) :
    isHexadecimal cs = false := by
  unfold isHexadecimal
  split
  · rename_i x _
    have hx := h x (List.mem_cons_of_mem _ List.mem_cons_self)
    rw [beq_eq_false_iff_ne.mpr (ne_of_isNumberChar hx (by decide)),
      beq_eq_false_iff_ne.mpr (ne_of_isNumberChar hx (by decide)), Bool.or_false]
  · rfl

theorem withoutLowLines_go (h : ∀ c ∈ cs, isNumberChar c = true) (isDigit : Char → Bool)
    (all kept : List Char) (before : Char) :
    withoutLowLines.go all isDigit kept before cs none = .ok (kept ++ cs) := by
  induction cs generalizing kept before with
  | nil => rw [withoutLowLines.go, List.append_nil]
  | cons c cs ih =>
    obtain ⟨hc, hcs⟩ := List.forall_mem_cons.mp h
    have hline : (c == '_') = false := beq_eq_false_iff_ne.mpr (ne_of_isNumberChar hc (by decide))
    rw [withoutLowLines.go, hline, if_neg Bool.false_ne_true, ih hcs, List.append_assoc]
    rfl

theorem withoutLowLines_eq (h : ∀ c ∈ cs, isNumberChar c = true) : withoutLowLines cs = .ok cs :=
  withoutLowLines_go h _ _ _ _

/-- Characters of a kind are taken from a text that goes on with none of them. -/
theorem takeWhile_append {p : Char → Bool} {rest : List Char} (h : ∀ c ∈ cs, p c = true)
    (hrest : ∀ c ∈ rest.head?, p c = false) : (cs ++ rest).takeWhile p = cs := by
  rw [List.takeWhile_append_of_pos h]
  cases rest with
  | nil => simp
  | cons c rest => simp [hrest c rfl]

theorem takeWhile_eq {p : Char → Bool} (h : ∀ c ∈ cs, p c = true) : cs.takeWhile p = cs := by
  have htake : (cs ++ []).takeWhile p = cs := takeWhile_append h (by simp)
  rwa [List.append_nil] at htake

namespace Numeral

theorem ofToken_pointed (h : ∀ c ∈ whole ++ places, c.isDigit = true) (negative : Bool) :
    ofToken negative (pointed whole places) = ⟨negative, whole, places, 0, places.isEmpty⟩ := by
  have hwhole : ∀ c ∈ whole, c.isDigit = true := fun c hc => h c (List.mem_append_left _ hc)
  have hplaces : ∀ c ∈ places, c.isDigit = true := fun c hc => h c (List.mem_append_right _ hc)
  unfold ofToken pointed
  split
  · rename_i hnil
    subst hnil
    simp only [takeWhile_eq hwhole, List.drop_length, List.takeWhile_nil, List.length_nil,
      Nat.add_zero]
    rfl
  · rename_i hne
    obtain ⟨d, ds, rfl⟩ := List.exists_cons_of_ne_nil hne
    have hpoint : ('.' :: d :: ds).takeWhile (· == '.') = ['.'] := by
      have hd := ne_of_isDigit (hplaces d List.mem_cons_self) (by decide : '.'.isDigit = false)
      simp [hd]
    have hwhole' : (whole ++ '.' :: d :: ds).takeWhile Char.isDigit = whole :=
      takeWhile_append hwhole (by simp)
    have hplaces' : (whole ++ '.' :: d :: ds).drop (whole.length + 1) = d :: ds := by simp
    have hend : (whole ++ '.' :: d :: ds).drop (whole.length + 1 + (d :: ds).length) = [] :=
      List.drop_eq_nil_of_le (by simp; omega)
    simp only [hwhole', List.drop_left, hpoint, List.length_singleton, hplaces',
      takeWhile_eq hplaces, hend]
    rfl

end Numeral

theorem numberToken_pointed (h : ∀ c ∈ whole ++ places, c.isDigit = true) (negative : Bool) :
    numberToken negative (pointed whole places) =
      some (Numeral.mk negative whole places 0 places.isEmpty).cell := by
  rw [numberToken, isHexadecimal_eq_false (isNumberChar_of_mem h), if_neg Bool.false_ne_true,
    Numeral.ofToken_pointed h]

/-! ## Tokens -/

section

variable (hne : whole ≠ []) (h : ∀ c ∈ whole ++ places, c.isDigit = true)
include hne h

theorem numberPart_pointed :
    Token.numeralPart.plain (pointed whole places) = pointed whole places := by
  have hwhole : ∀ c ∈ whole, (c.isDigit || c == '_') = true := fun c hc => by
    rw [h c (List.mem_append_left _ hc), Bool.true_or]
  have hplaces : ∀ c ∈ places, (c.isDigit || c == '_') = true := fun c hc => by
    rw [h c (List.mem_append_right _ hc), Bool.true_or]
  have hany : whole.any Char.isDigit = true := by
    obtain ⟨c, cs, rfl⟩ := List.exists_cons_of_ne_nil hne
    rw [List.any_cons, h c List.mem_cons_self, Bool.true_or]
  have hexponent : ∀ digits, Token.exponentPart digits [] = [] := fun _ => rfl
  unfold Token.numeralPart.plain Token.numberWith pointed
  split
  · simp only [takeWhile_eq hwhole, List.drop_length, List.append_nil, hany, if_true, hexponent]
  · have hwhole' : (whole ++ '.' :: places).takeWhile (fun c => c.isDigit || c == '_') = whole :=
      takeWhile_append hwhole (by simp)
    simp only [hwhole', List.drop_left, takeWhile_eq hplaces, List.any_append, hany, Bool.true_or,
      if_true, List.drop_length, hexponent, List.append_nil]

/-- A number is taken as a whole if nothing follows it. -/
theorem numeralPart_pointed : Token.numeralPart (pointed whole places) = pointed whole places := by
  unfold Token.numeralPart
  split
  · rename_i x d rest heq
    have hx := isNumberChar_of_mem h x (by rw [heq]; simp)
    rw [beq_eq_false_iff_ne.mpr (ne_of_isNumberChar hx (by decide)),
      beq_eq_false_iff_ne.mpr (ne_of_isNumberChar hx (by decide))]
    exact numberPart_pointed hne h
  · exact numberPart_pointed hne h

end

theorem scanFrom_length (cs : List Char) : Lexeme.scanFrom cs.length cs = [] := by
  induction cs with
  | nil => rfl
  | cons c cs ih => exact ih

theorem isSpace_of_isDigit (h : c.isDigit = true) : Token.isSpace c = false := by
  have hspace := ne_of_isDigit h (by decide : ' '.isDigit = false)
  simp only [Char.isDigit, Bool.and_eq_true, decide_eq_true_eq] at h
  have hlow : 48 ≤ c.toNat := h.1
  simp only [Token.isSpace, Bool.or_eq_false_iff, beq_eq_false_iff_ne, Bool.and_eq_false_iff,
    decide_eq_false_iff_not]
  exact ⟨hspace, by omega⟩

theorem front_digit (h : c.isDigit = true) : Token.front c cs = Token.numberAt c cs := by
  have hother : ∀ d : Char, d.isDigit = false → (c == d) = false := fun d hd =>
    beq_eq_false_iff_ne.mpr (ne_of_isDigit h hd)
  have hmark : Token.isMark c = false := by
    rw [Token.isMark, hother _ (by decide), hother _ (by decide), hother _ (by decide)]
    rfl
  rw [Token.front, if_neg (ne_of_isDigit h (by decide)), isSpace_of_isDigit h, hmark,
    if_neg (ne_of_isDigit h (by decide) : c ≠ '['), h]
  rfl

/-- A number at the end of a text is one token. -/
theorem scanFrom_pointed (hne : whole ≠ []) (h : ∀ c ∈ whole ++ places, c.isDigit = true) :
    Lexeme.scanFrom 0 (pointed whole places) =
      [{ token := .number (pointed whole places), written := pointed whole places }] := by
  obtain ⟨c, cs, heq, hc⟩ := exists_pointed_eq_cons hne h
  have hpart := numeralPart_pointed hne h
  rw [heq] at hpart ⊢
  have hnumber : Token.numberAt c cs = (.number (c :: cs), cs.length) := by
    unfold Token.numberAt
    simp only [hpart, List.drop_length]
    rfl
  rw [Lexeme.scanFrom, front_digit hc, hnumber]
  simp only [scanFrom_length, List.take_length]

/-- Before a digit a minus sign is neither the beginning of a comment nor part of an arrow. -/
theorem scanFrom_minus (h : c.isDigit = true) :
    Lexeme.scanFrom 0 ('-' :: c :: cs) =
      { token := .sign "-", written := ['-'] } :: Lexeme.scanFrom 0 (c :: cs) := by
  have hfront : Token.front '-' (c :: cs) = (.sign "-", 0) := by
    show Token.signAt '-' (c :: cs) = _
    have hminus := ne_of_isDigit h (by decide : '-'.isDigit = false)
    have harrow := ne_of_isDigit h (by decide : '>'.isDigit = false)
    unfold Token.signAt
    split
    · rename_i heq
      exact absurd (List.cons.inj heq).1 hminus
    · rename_i heq _
      cases heq
    · rename_i heq
      exact absurd (List.cons.inj heq).1 harrow
    · have htwo : ["||", "<=", "<>", "<<", ">=", ">>", "==", "!=", "->"].contains
          (String.ofList ['-', c]) = false := by
        simp [← String.toList_inj, harrow]
      show (if List.contains _ (String.ofList ['-', c]) = true then _ else _) = _
      rw [htwo]
      rfl
  rw [Lexeme.scanFrom, hfront]
  rfl

theorem scanFrom_select (hspace : ∀ c ∈ cs.head?, Token.isSpace c = false) :
    Lexeme.scanFrom 0 ("SELECT ".toList ++ cs) =
      { token := .word "SELECT", written := "SELECT".toList } ::
        { token := .blank, written := [' '] } :: Lexeme.scanFrom 0 cs := by
  have hblank : Token.front ' ' cs = (.blank, 0) := by
    have hnone : ([] ++ cs).takeWhile Token.isSpace = [] := takeWhile_append (by simp) hspace
    rw [List.nil_append] at hnone
    show (Token.blank, (cs.takeWhile Token.isSpace).length) = _
    rw [hnone]
    rfl
  have hword : Token.front 'S' ('E' :: 'L' :: 'E' :: 'C' :: 'T' :: ' ' :: cs) =
      (.word "SELECT", 5) := rfl
  show Lexeme.scanFrom 0 ('S' :: 'E' :: 'L' :: 'E' :: 'C' :: 'T' :: ' ' :: cs) = _
  rw [Lexeme.scanFrom, hword]
  show _ :: Lexeme.scanFrom 0 (' ' :: cs) = _
  rw [Lexeme.scanFrom, hblank]
  rfl

/-! ## The statement that selects a number -/

/-- The word of a selection, at the beginning of a statement. -/
def selectLexeme : Lexeme where
  token := .word "SELECT"
  written := "SELECT".toList

/-- A number and its sign behind the word. -/
def numberLexemes (negative : Bool) (ds : List Char) : List Lexeme :=
  if negative then
    [{ token := .sign "-", written := ['-'], blanks := [' '], place := 1 },
      { token := .number ds, written := ds, place := 2 }]
  else [{ token := .number ds, written := ds, blanks := [' '], place := 1 }]

/-- The end of the statement. -/
def endLexeme (negative : Bool) : Lexeme where
  token := .finish
  written := []
  place := if negative then 3 else 2

/-- A text that neither begins nor ends with white space is not trimmed. -/
theorem trimBlank_eq {d : Char} (hc : Text.isBlank c = false) (hd : Text.isBlank d = false) :
    (Text.trimBlank (Text.trimBlank (c :: (cs ++ [d]))).reverse).reverse = c :: (cs ++ [d]) := by
  have hfront : Text.trimBlank (c :: (cs ++ [d])) = c :: (cs ++ [d]) :=
    List.dropWhile_cons_of_neg (by simp [hc])
  have hback : Text.trimBlank (c :: (cs ++ [d])).reverse = (c :: (cs ++ [d])).reverse := by
    rw [← List.cons_append, List.reverse_append, List.reverse_singleton, List.singleton_append]
    exact List.dropWhile_cons_of_neg (by simp [hd])
  rw [hfront, hback, List.reverse_reverse]

section

variable (hne : whole ≠ []) (h : ∀ c ∈ whole ++ places, c.isDigit = true) (negative : Bool)
include hne h

/-- Nothing of the text of the statement is left out. -/
theorem lexemes_eq_scan :
    lexemes ("SELECT " ++ String.ofList (signedText negative (pointed whole places))) =
      Lexeme.scan ("SELECT ".toList ++ signedText negative (pointed whole places)) := by
  obtain ⟨cs, c, hlast, hc⟩ := exists_pointed_eq_concat hne h
  have hconcat : "SELECT ".toList ++ signedText negative (pointed whole places) =
      'S' :: ("ELECT ".toList ++ signedText negative cs ++ [c]) := by
    rw [hlast]
    cases negative <;> rfl
  have hnull : ∀ c ∈ "SELECT ".toList ++ signedText negative (pointed whole places),
      (c != '\x00') = true := by
    have hnumber : ∀ c ∈ pointed whole places, (c != '\x00') = true := fun c hc =>
      bne_iff_ne.mpr (ne_of_isNumberChar (isNumberChar_of_mem h c hc) (by decide))
    rw [List.forall_mem_append]
    refine ⟨List.all_eq_true.mp (by decide), ?_⟩
    cases negative
    · exact hnumber
    · exact List.forall_mem_cons.mpr ⟨by decide, hnumber⟩
  have htext : ("SELECT " ++ String.ofList (signedText negative (pointed whole places))).toList =
      "SELECT ".toList ++ signedText negative (pointed whole places) := by
    rw [String.toList_append]
    exact congrArg _ String.toList_ofList
  unfold lexemes
  rw [htext, hconcat, trimBlank_eq (by decide) (Text.isBlank_of_isDigit hc), ← hconcat]
  exact congrArg Lexeme.scan (takeWhile_eq hnull)

theorem lexemes_select :
    lexemes ("SELECT " ++ String.ofList (signedText negative (pointed whole places))) =
      selectLexeme :: (numberLexemes negative (pointed whole places) ++ [endLexeme negative]) := by
  have hnumber := scanFrom_pointed hne h
  obtain ⟨c, cs, heq, hc⟩ := exists_pointed_eq_cons hne h
  rw [lexemes_eq_scan hne h, Lexeme.scan]
  cases negative
  · have hspace : ∀ d ∈ (pointed whole places).head?, Token.isSpace d = false := by
      rw [heq]
      rintro d ⟨⟩
      exact isSpace_of_isDigit hc
    rw [signedText, if_neg Bool.false_ne_true, scanFrom_select hspace, hnumber]
    rfl
  · rw [signedText, if_pos rfl, scanFrom_select (by rintro d ⟨⟩; rfl), heq, scanFrom_minus hc,
      ← heq, hnumber]
    rfl

end

end Database

end SchemaEvolution
