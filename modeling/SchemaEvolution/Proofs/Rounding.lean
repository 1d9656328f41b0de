import Mathlib.Algebra.Order.Field.Power
import Mathlib.Data.Rat.Cast.Order
import Mathlib.Tactic.FieldSimp
import Mathlib.Tactic.Linarith
import Mathlib.Tactic.Positivity
import Mathlib.Tactic.Ring
import SchemaEvolution.Number.Shortest

/-!
# Rounding to a double

A double is the rounded form of every rational number in an interval around it
(`RoundingInterval.Holds`).  The double nearest to a quotient is found from the logarithms of its
two parts, so three things have to fit together.

* `Binary64.roundHalfEven_of_near`: rounding to an integer.
* `Binary64.unitOfRatio_eq`: the unit of a quotient, from the powers of two around it.
* `Binary64.ofRatio_of_holds`: a quotient in the interval of a double is rounded to this double.
  Its unit is that of the double, but for numbers just below a power of two, which have half of it.
-/

namespace SchemaEvolution

/-- A power, as the quotient of two powers of natural numbers. -/
theorem zpow_eq_div {b : ℕ} (hb : 0 < b) (e : ℤ) :
    (b : ℚ) ^ e = (Nat.pow b e.toNat : ℕ) / (Nat.pow b (-e).toNat : ℕ) := by
  have hpow : ∀ n : ℕ, ((Nat.pow b n : ℕ) : ℚ) = (b : ℚ) ^ n := fun n => Nat.cast_pow b n
  have hne : (b : ℚ) ≠ 0 := by exact_mod_cast hb.ne'
  rw [hpow, hpow, ← zpow_natCast, ← zpow_natCast, ← zpow_sub₀ hne]
  congr 1
  omega

namespace RoundingInterval

/-- A number lies in the interval. -/
def Holds (r : RoundingInterval) (v : ℚ) : Prop :=
  if r.closed then r.low * 2 ^ r.unit ≤ v ∧ v ≤ r.high * 2 ^ r.unit
  else r.low * 2 ^ r.unit < v ∧ v < r.high * 2 ^ r.unit

end RoundingInterval

namespace Binary64

/-! ## Rounding to an integer -/

theorem roundHalfEven_eq {num den n : ℕ} (hden : 0 < den)
    (hlow : 2 * (n * den) ≤ 2 * num + den) (hhigh : 2 * num ≤ 2 * (n * den) + den)
    (heven : n % 2 = 0 ∨ 2 * (n * den) < 2 * num + den ∧ 2 * num < 2 * (n * den) + den) :
    roundHalfEven num den = n := by
  have hdiv : den * (num / den) + num % den = num := Nat.div_add_mod num den
  have hrest : num % den < den := Nat.mod_lt _ hden
  have hle : num / den ≤ n := by
    by_contra hlt
    have hmul : den * (n + 1) ≤ den * (num / den) := Nat.mul_le_mul_left _ (by omega)
    rw [Nat.mul_succ, Nat.mul_comm den n] at hmul
    omega
  have hge : n ≤ num / den + 1 := by
    by_contra hlt
    have hmul : den * (num / den + 2) ≤ den * n := Nat.mul_le_mul_left _ (by omega)
    rw [Nat.mul_add, Nat.mul_comm den n] at hmul
    omega
  have hnear : num / den = n ∨ num / den + 1 = n := by omega
  unfold roundHalfEven
  rcases hnear with hq | hq
  · rw [hq, Nat.mul_comm den n] at hdiv
    simp only [hq]
    rw [if_neg]
    omega
  · have hnext : n * den + num % den = num + den := by
      rw [← hq, Nat.add_mul, Nat.mul_comm]
      omega
    simp only [hq]
    rw [if_pos]
    omega

/-- A quotient is rounded to an integer that is not more than a half away, and to an even one if it
is a half away. -/
theorem roundHalfEven_of_near {num den n : ℕ} (hden : 0 < den) (hlow : (n : ℚ) - 1 / 2 ≤ num / den)
    (hhigh : (num : ℚ) / den ≤ n + 1 / 2)
    (heven : n % 2 = 0 ∨ (n : ℚ) - 1 / 2 < num / den ∧ (num : ℚ) / den < n + 1 / 2) :
    roundHalfEven num den = n := by
  have hpos : (0 : ℚ) < den := by exact_mod_cast hden
  rw [le_div_iff₀ hpos] at hlow
  rw [div_le_iff₀ hpos] at hhigh
  rw [lt_div_iff₀ hpos, div_lt_iff₀ hpos] at heven
  refine roundHalfEven_eq hden ?_ ?_ (heven.imp_right fun h => ⟨?_, ?_⟩)
  · have hcast : (2 * (n * den) : ℚ) ≤ 2 * num + den := by linarith
    exact_mod_cast hcast
  · have hcast : (2 * num : ℚ) ≤ 2 * (n * den) + den := by linarith
    exact_mod_cast hcast
  · have hcast : (2 * (n * den) : ℚ) < 2 * num + den := by linarith [h.1]
    exact_mod_cast hcast
  · have hcast : (2 * num : ℚ) < 2 * (n * den) + den := by linarith [h.2]
    exact_mod_cast hcast

/-! ## The unit of a quotient -/

/-- The quotient scaled by a power of two, as a quotient of natural numbers. -/
theorem scaled_eq_div (num den : ℕ) (unit : ℤ) :
    (num : ℚ) / den / 2 ^ unit =
      (num * twoTo (-unit).toNat : ℕ) / (den * twoTo unit.toNat : ℕ) := by
  have hunit := zpow_eq_div (b := 2) (by decide) unit
  rw [Nat.cast_ofNat] at hunit
  rw [hunit, div_div_div_eq]
  push_cast
  rfl

/-- A quotient lies between the powers of two that the logarithms of its parts give. -/
theorem log2_bracket {num den : ℕ} (hnum : 0 < num) (hden : 0 < den) :
    (2 : ℚ) ^ ((num.log2 : ℤ) - den.log2 - 1) < (num : ℚ) / den ∧
      (num : ℚ) / den < 2 ^ ((num.log2 : ℤ) - den.log2 + 1) := by
  have hpos : (0 : ℚ) < den := by exact_mod_cast hden
  have hnumLow : (2 : ℚ) ^ (num.log2 : ℤ) ≤ num := by
    exact_mod_cast Nat.log2_self_le hnum.ne'
  have hnumHigh : (num : ℚ) < 2 ^ ((num.log2 : ℤ) + 1) := by
    exact_mod_cast Nat.lt_log2_self (n := num)
  have hdenLow : (2 : ℚ) ^ (den.log2 : ℤ) ≤ den := by
    exact_mod_cast Nat.log2_self_le hden.ne'
  have hdenHigh : (den : ℚ) < 2 ^ ((den.log2 : ℤ) + 1) := by
    exact_mod_cast Nat.lt_log2_self (n := den)
  have hpower : ∀ e : ℤ, (0 : ℚ) < 2 ^ e := fun e => by positivity
  constructor
  · rw [lt_div_iff₀ hpos]
    calc (2 : ℚ) ^ ((num.log2 : ℤ) - den.log2 - 1) * den
        < 2 ^ ((num.log2 : ℤ) - den.log2 - 1) * 2 ^ ((den.log2 : ℤ) + 1) :=
          mul_lt_mul_of_pos_left hdenHigh (hpower _)
      _ = 2 ^ (num.log2 : ℤ) := by
          rw [← zpow_add₀ (by norm_num)]
          congr 1
          ring
      _ ≤ num := hnumLow
  · rw [div_lt_iff₀ hpos]
    calc (num : ℚ)
        < 2 ^ ((num.log2 : ℤ) + 1) := hnumHigh
      _ = 2 ^ ((num.log2 : ℤ) - den.log2 + 1) * 2 ^ (den.log2 : ℤ) := by
          rw [← zpow_add₀ (by norm_num)]
          congr 1
          ring
      _ ≤ 2 ^ ((num.log2 : ℤ) - den.log2 + 1) * den :=
          mul_le_mul_of_nonneg_left hdenLow (hpower _).le

/-- The unit of a quotient, unless the least unit takes its place, leaves the quotient with
fifty-three bits. -/
theorem exists_unitOfRatio {num den : ℕ} (hnum : 0 < num) (hden : 0 < den) :
    ∃ unit : ℤ, unitOfRatio num den = max unit (-1074) ∧
      (2 : ℚ) ^ (52 + unit) ≤ num / den ∧ (num : ℚ) / den < 2 ^ (53 + unit) := by
  obtain ⟨habove, hbelow⟩ := log2_bracket hnum hden
  set near : ℤ := (num.log2 : ℤ) - den.log2 - 52 with hnear
  have hshort : num * twoTo (-near).toNat < twoTo 52 * den * twoTo near.toNat ↔
      (num : ℚ) / den < 2 ^ (52 + near) := by
    have hpos : (0 : ℚ) < (den * twoTo near.toNat : ℕ) := by
      exact_mod_cast Nat.mul_pos hden (Nat.pow_pos (by decide))
    rw [zpow_add₀ (by norm_num), ← div_lt_iff₀ (by positivity), scaled_eq_div num den near,
      div_lt_iff₀ hpos, Nat.mul_assoc]
    exact_mod_cast Iff.rfl
  unfold unitOfRatio
  simp only [← hnear, hshort, decide_eq_true_eq]
  split
  · rename_i h
    refine ⟨near - 1, rfl, (lt_of_eq_of_lt ?_ habove).le, lt_of_lt_of_eq h ?_⟩
    · congr 1
      omega
    · congr 1
      omega
  · rename_i h
    refine ⟨near, rfl, not_lt.mp h, lt_of_lt_of_eq hbelow ?_⟩
    congr 1
    omega

theorem unitOfRatio_eq {num den : ℕ} (hnum : 0 < num) (hden : 0 < den) {unit : ℤ}
    (hleast : -1074 ≤ unit) (hlow : (2 : ℚ) ^ (52 + unit) ≤ num / den ∨ unit = -1074)
    (hhigh : (num : ℚ) / den < 2 ^ (53 + unit)) : unitOfRatio num den = unit := by
  have hmono : ∀ {a b : ℤ}, (2 : ℚ) ^ a < 2 ^ b → a < b := fun h =>
    (zpow_lt_zpow_iff_right₀ (by norm_num)).mp h
  obtain ⟨floor, hunit, hfloorLow, hfloorHigh⟩ := exists_unitOfRatio hnum hden
  have hle : 52 + floor < 53 + unit := hmono (hfloorLow.trans_lt hhigh)
  rw [hunit]
  rcases hlow with hlow | hlow
  · have hge : 52 + unit < 53 + floor := hmono (hlow.trans_lt hfloorHigh)
    omega
  · omega

/-! ## The parts of a double -/

/-- The size of a finite double. -/
def size (x : Binary64) : ℚ :=
  x.significand * 2 ^ x.exponent

theorem bits_toNat (x : Binary64) :
    x.bits.toNat =
      x.biasedExponent * twoTo 52 + x.fraction + if x.isNegative then twoTo 63 else 0 := by
  have hlt : x.bits.toNat < 2 ^ 64 := x.bits.toNat_lt
  have h52 : twoTo 52 = 4503599627370496 := rfl
  have h11 : twoTo 11 = 2048 := rfl
  have h63 : twoTo 63 = 9223372036854775808 := rfl
  unfold biasedExponent fraction isNegative
  rw [h52, h11, h63]
  split
  · rename_i h
    have hle := of_decide_eq_true h
    omega
  · rename_i h
    have hle : ¬ 9223372036854775808 ≤ x.bits.toNat := fun hle => h (decide_eq_true hle)
    omega

theorem significand_lt (x : Binary64) : x.significand < twoTo 53 := by
  have hfraction : x.fraction < twoTo 52 := Nat.mod_lt _ (by decide)
  have hpower : twoTo 53 = twoTo 52 + twoTo 52 := rfl
  unfold significand
  split <;> omega

theorem significand_pos {x : Binary64} (hzero : x.isZero = false) : 0 < x.significand := by
  unfold significand
  split
  · rename_i hbiased
    refine Nat.pos_of_ne_zero fun hfraction => ?_
    simp [isZero, hbiased, hfraction] at hzero
  · exact Nat.add_pos_right _ (by decide)

/-- Only with the least unit has the significand fewer bits. -/
theorem le_significand {x : Binary64} (h : x.exponent ≠ -1074) :
    1 < x.biasedExponent ∧ x.significand = x.fraction + twoTo 52 := by
  have hbiased : 1 < x.biasedExponent := by
    unfold exponent at h
    omega
  exact ⟨hbiased, if_neg (by omega)⟩

theorem le_exponent (x : Binary64) : -1074 ≤ x.exponent := by
  unfold exponent
  omega

/-- The bits of a double follow from its unit and its significand. -/
theorem ofNat_bits {x : Binary64} (hfinite : x.isFinite = true) :
    UInt64.ofNat (min ((x.exponent + 1074).toNat * twoTo 52 + x.significand) (2047 * twoTo 52) +
      if x.isNegative then twoTo 63 else 0) = x.bits := by
  have hfraction : x.fraction < twoTo 52 := Nat.mod_lt _ (by decide)
  have hbiased : x.biasedExponent < twoTo 11 := Nat.mod_lt _ (by decide)
  have hmost : x.biasedExponent ≠ 2047 := by simpa [isFinite] using hfinite
  have hunit : (x.exponent + 1074).toNat = max x.biasedExponent 1 - 1 := by
    unfold exponent
    omega
  have hmagnitude : min ((x.exponent + 1074).toNat * twoTo 52 + x.significand) (2047 * twoTo 52) =
      x.biasedExponent * twoTo 52 + x.fraction := by
    have h52 : twoTo 52 = 4503599627370496 := rfl
    have h11 : twoTo 11 = 2048 := rfl
    rw [h52] at hfraction ⊢
    rw [h11] at hbiased
    rw [hunit]
    unfold significand
    rw [h52]
    split <;> omega
  rw [hmagnitude, ← x.bits_toNat, UInt64.ofNat_toNat]

/-! ## Rounding to a double -/

/-- The lower end of the interval is half a unit away, or a quarter of one. -/
theorem le_low (x : Binary64) :
    (4 * x.significand : ℚ) ≤ (RoundingInterval.of x).low + 2 := by
  have hnat : 4 * x.significand ≤ (RoundingInterval.of x).low + 2 := by
    show _ ≤ 4 * x.significand - _ + 2
    split <;> omega
  exact_mod_cast hnat

/-- The ends of the interval are multiples of a quarter of the double's unit. -/
theorem unit_eq (x : Binary64) : (2 : ℚ) ^ x.exponent = 4 * 2 ^ (RoundingInterval.of x).unit := by
  rw [show (4 : ℚ) = 2 ^ (2 : ℤ) by norm_num, ← zpow_add₀ (by norm_num)]
  congr 1
  show x.exponent = 2 + (x.exponent - 2)
  omega

/-- A number in the interval of a double, in quarters of the unit of the double. -/
theorem quarters_of_holds {x : Binary64} {v : ℚ} (h : (RoundingInterval.of x).Holds v) :
    ((RoundingInterval.of x).low : ℚ) ≤ 4 * (v / 2 ^ x.exponent) ∧
      4 * (v / 2 ^ x.exponent) ≤ 4 * x.significand + 2 ∧
      (x.significand % 2 = 0 ∨ ((RoundingInterval.of x).low : ℚ) < 4 * (v / 2 ^ x.exponent) ∧
        4 * (v / 2 ^ x.exponent) < 4 * x.significand + 2) := by
  have hpos : (0 : ℚ) < 2 ^ (RoundingInterval.of x).unit := by positivity
  have hquarters : 4 * (v / 2 ^ x.exponent) = v / 2 ^ (RoundingInterval.of x).unit := by
    rw [unit_eq]
    field_simp
  have hhigh : ((RoundingInterval.of x).high : ℚ) = 4 * x.significand + 2 := by
    show ((4 * x.significand + 2 : ℕ) : ℚ) = _
    push_cast
    rfl
  rw [hquarters, ← hhigh, le_div_iff₀ hpos, div_le_iff₀ hpos, lt_div_iff₀ hpos, div_lt_iff₀ hpos]
  unfold RoundingInterval.Holds at h
  split at h
  · rename_i hclosed
    exact ⟨h.1, h.2, Or.inl (eq_of_beq hclosed)⟩
  · exact ⟨h.1.le, h.2.le, Or.inr h⟩

section

variable {x : Binary64} {num den : ℕ} {w : ℚ}

/-- Where the quotient has the unit of the double, it is rounded to the significand. -/
theorem ofRatio_of_unit (hfinite : x.isFinite = true) (hnum : 0 < num) (hden : 0 < den)
    (hvalue : (num : ℚ) / den = w * 2 ^ x.exponent) (hbelow : w < 2 ^ (53 : ℤ))
    (habove : 2 ^ (52 : ℤ) ≤ w ∨ x.exponent = -1074)
    (hlow : (x.significand : ℚ) - 1 / 2 ≤ w) (hhigh : w ≤ x.significand + 1 / 2)
    (hends : x.significand % 2 = 0 ∨ (x.significand : ℚ) - 1 / 2 < w ∧ w < x.significand + 1 / 2) :
    ofRatio x.isNegative num den = x := by
  have hpos : (0 : ℚ) < 2 ^ x.exponent := by positivity
  have hunit : unitOfRatio num den = x.exponent := by
    refine unitOfRatio_eq hnum hden x.le_exponent (habove.imp_left fun hle => ?_) ?_
    · rw [hvalue, zpow_add₀ (by norm_num)]
      exact mul_le_mul_of_nonneg_right hle hpos.le
    · rw [hvalue, zpow_add₀ (by norm_num)]
      exact mul_lt_mul_of_pos_right hbelow hpos
  have hscaled : ((num * twoTo (-x.exponent).toNat : ℕ) : ℚ) / (den * twoTo x.exponent.toNat : ℕ) =
      w := by
    rw [← scaled_eq_div, hvalue]
    field_simp
  have hround : roundHalfEven (num * twoTo (-x.exponent).toNat) (den * twoTo x.exponent.toNat) =
      x.significand := by
    refine roundHalfEven_of_near (Nat.mul_pos hden (Nat.pow_pos (by decide))) ?_ ?_ ?_
    all_goals rw [hscaled]
    · exact hlow
    · exact hhigh
    · exact hends
  rw [ofRatio, if_neg hnum.ne']
  simp only [hunit, hround, ofNat_bits hfinite]

/-- Just below a power of two, the quotient has half the unit of the double.  It is rounded up to
the power of two, which is the significand of the double in this unit. -/
theorem ofRatio_of_half (hfinite : x.isFinite = true) (hnum : 0 < num) (hden : 0 < den)
    (hvalue : (num : ℚ) / den = w * 2 ^ x.exponent) (hexponent : x.exponent ≠ -1074)
    (hpower : x.significand = twoTo 52) (hlow : (2 : ℚ) ^ (52 : ℤ) - 1 / 4 ≤ w)
    (hbelow : w < 2 ^ (52 : ℤ)) : ofRatio x.isNegative num den = x := by
  have hpos : (0 : ℚ) < 2 ^ x.exponent := by positivity
  have hleast := x.le_exponent
  have hunit : unitOfRatio num den = x.exponent - 1 := by
    refine unitOfRatio_eq hnum hden (by omega) (Or.inl ?_) ?_
    · rw [hvalue, show 52 + (x.exponent - 1) = 51 + x.exponent by ring, zpow_add₀ (by norm_num)]
      refine mul_le_mul_of_nonneg_right ?_ hpos.le
      norm_num at hlow ⊢
      linarith
    · rw [hvalue, show 53 + (x.exponent - 1) = 52 + x.exponent by ring, zpow_add₀ (by norm_num)]
      exact mul_lt_mul_of_pos_right hbelow hpos
  have hscaled : ((num * twoTo (-(x.exponent - 1)).toNat : ℕ) : ℚ) /
      (den * twoTo (x.exponent - 1).toNat : ℕ) = 2 * w := by
    rw [← scaled_eq_div, hvalue, zpow_sub_one₀ (by norm_num)]
    field_simp
  have hround : roundHalfEven (num * twoTo (-(x.exponent - 1)).toNat)
      (den * twoTo (x.exponent - 1).toNat) = twoTo 53 := by
    refine roundHalfEven_of_near (Nat.mul_pos hden (Nat.pow_pos (by decide))) ?_ ?_ (Or.inl rfl)
    all_goals rw [hscaled, show ((twoTo 53 : ℕ) : ℚ) = 2 * 2 ^ (52 : ℤ) by norm_num]
    · linarith
    · linarith
  have hmagnitude : (x.exponent - 1 + 1074).toNat * twoTo 52 + twoTo 53 =
      (x.exponent + 1074).toNat * twoTo 52 + x.significand := by
    have hnext : (x.exponent + 1074).toNat = (x.exponent - 1 + 1074).toNat + 1 := by omega
    have hpowers : twoTo 53 = twoTo 52 + twoTo 52 := rfl
    rw [hnext, hpower, hpowers, Nat.succ_mul]
    omega
  rw [ofRatio, if_neg hnum.ne']
  simp only [hunit, hround, hmagnitude, ofNat_bits hfinite]

end

/-- A quotient in the interval of a double is rounded to this double. -/
theorem ofRatio_of_holds {x : Binary64} (hfinite : x.isFinite = true) (hzero : x.isZero = false)
    {num den : ℕ} (hden : 0 < den) (h : (RoundingInterval.of x).Holds (num / den)) :
    ofRatio x.isNegative num den = x := by
  obtain ⟨hlow, hhigh, hends⟩ := quarters_of_holds h
  have hleast := x.le_low
  set w : ℚ := (num : ℚ) / den / 2 ^ x.exponent with hw
  have hvalue : (num : ℚ) / den = w * 2 ^ x.exponent := by
    rw [hw]
    field_simp
  have hone : (1 : ℚ) ≤ x.significand := by exact_mod_cast significand_pos hzero
  have hmost : (x.significand : ℚ) + 1 ≤ 2 ^ (53 : ℤ) := by
    have hnat : x.significand + 1 ≤ 2 ^ 53 := x.significand_lt
    exact_mod_cast hnat
  have hnum : 0 < num := by
    refine Nat.pos_of_ne_zero fun hnone => ?_
    have hnothing : w = 0 := by simp [hw, hnone]
    linarith
  by_cases hcase : 2 ^ (52 : ℤ) ≤ w ∨ x.exponent = -1074
  · refine ofRatio_of_unit hfinite hnum hden hvalue (by linarith) hcase (by linarith)
      (by linarith) ?_
    exact hends.imp_right fun h => ⟨by linarith, by linarith⟩
  · obtain ⟨hless, hexponent⟩ := not_or.mp hcase
    have hbelow : w < 2 ^ (52 : ℤ) := not_le.mp hless
    obtain ⟨hbiased, hnormal⟩ := le_significand hexponent
    have hpower : x.significand = twoTo 52 := by
      have hlt : (x.significand : ℚ) < 2 ^ (52 : ℤ) + 1 := by linarith
      have hnat : x.significand < 2 ^ 52 + 1 := by exact_mod_cast hlt
      have h52 : twoTo 52 = 2 ^ 52 := rfl
      omega
    have hquarter : (4 * 2 ^ (52 : ℤ) : ℚ) = (RoundingInterval.of x).low + 1 := by
      have hnat : 4 * 2 ^ 52 = (RoundingInterval.of x).low + 1 := by
        show _ = 4 * x.significand - (if x.fraction = 0 ∧ 1 < x.biasedExponent then 1 else 2) + 1
        rw [if_pos ⟨by omega, hbiased⟩, hpower]
        rfl
      exact_mod_cast hnat
    exact ofRatio_of_half hfinite hnum hden hvalue hexponent hpower (by linarith) hbelow

end Binary64

end SchemaEvolution
