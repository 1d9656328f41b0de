import SchemaEvolution.Number.Arithmetic
import SchemaEvolution.Proofs.Rounding

/-!
# Shortest decimals

The shortest decimal of a double is found by going from coarse to fine grids of multiples of a power
of ten (`RoundingInterval.coarsest`).

* `RoundingInterval.contains_iff`: the test for a point of a grid says that it lies in the interval.
* `RoundingInterval.coarsest_spec`: if one of the grids has a point in the interval, the search ends
  with such a point, on a grid that is not finer.
* `Binary64.ofRatio_written`: the decimal that is written for a double is rounded to this double.
* `Binary64.written_exponent_iff`: it is a whole number just if the double is an integer.
* `Binary64.written_lt_iff`: it is less than `2 ^ 63` just if the double is.  There the two differ:
  the shortest decimal of `2 ^ 63` is greater than this number, so it is no integer of sixty-four
  bits under either sign.
-/

namespace SchemaEvolution

/-- The number that a decimal is. -/
def Decimal.value (d : Decimal) : ℚ :=
  d.coefficient * 10 ^ d.exponent

/-! ## Grids -/

namespace RoundingInterval

variable {r : RoundingInterval} {e : ℤ} {c : ℕ}

theorem gridScale_pos (r : RoundingInterval) (e : ℤ) : 0 < r.gridScale e :=
  Nat.mul_pos (Nat.pow_pos (by decide)) (Nat.pow_pos (by decide))

theorem unitScale_pos (r : RoundingInterval) (e : ℤ) : 0 < r.unitScale e :=
  Nat.mul_pos (Nat.pow_pos (by decide)) (Nat.pow_pos (by decide))

/-- The two scales are in the proportion of the two units. -/
theorem scale_eq (r : RoundingInterval) (e : ℤ) :
    (r.gridScale e : ℚ) * 2 ^ r.unit = 10 ^ e * r.unitScale e := by
  have hten := zpow_eq_div (b := 10) (by decide) e
  have htwo := zpow_eq_div (b := 2) (by decide) r.unit
  have hunit : (r.unitScale e : ℚ) ≠ 0 := by exact_mod_cast (r.unitScale_pos e).ne'
  rw [Nat.cast_ofNat] at hten htwo
  rw [← div_eq_div_iff hunit (by positivity), hten, htwo, div_div_div_eq]
  unfold gridScale unitScale
  push_cast
  congr 1
  ring

theorem le_grid_iff (n : ℕ) :
    n * r.unitScale e ≤ c * r.gridScale e ↔ (n : ℚ) * 2 ^ r.unit ≤ c * 10 ^ e := by
  have hunit : (0 : ℚ) < r.unitScale e := by exact_mod_cast r.unitScale_pos e
  have htwo : (0 : ℚ) < 2 ^ r.unit := by positivity
  rw [← mul_le_mul_iff_of_pos_right hunit, mul_assoc (c : ℚ), ← r.scale_eq e, mul_right_comm,
    ← mul_assoc, mul_le_mul_iff_of_pos_right htwo]
  exact_mod_cast Iff.rfl

theorem grid_le_iff (n : ℕ) :
    c * r.gridScale e ≤ n * r.unitScale e ↔ (c : ℚ) * 10 ^ e ≤ n * 2 ^ r.unit := by
  have hunit : (0 : ℚ) < r.unitScale e := by exact_mod_cast r.unitScale_pos e
  have htwo : (0 : ℚ) < 2 ^ r.unit := by positivity
  rw [← mul_le_mul_iff_of_pos_right hunit, mul_assoc (c : ℚ), ← r.scale_eq e,
    mul_right_comm (n : ℚ), ← mul_assoc, mul_le_mul_iff_of_pos_right htwo]
  exact_mod_cast Iff.rfl

theorem contains_iff : r.contains e c = true ↔ r.Holds (c * 10 ^ e) := by
  unfold contains Holds
  split
  · simp only [Bool.and_eq_true, decide_eq_true_eq, le_grid_iff, grid_le_iff]
  · simp only [Bool.and_eq_true, decide_eq_true_eq, ← not_le, le_grid_iff, grid_le_iff]

/-- The nearest point of a grid is one of two that were tested. -/
theorem holds_of_nearest? (h : r.nearest? e = some c) : r.Holds (c * 10 ^ e) := by
  rw [← contains_iff]
  unfold nearest? at h
  simp only at h
  split at h
  · cases h
  · rename_i hbelow _
    cases h
    exact hbelow
  · rename_i _ habove
    cases h
    exact habove
  · rename_i hbelow habove
    split at h
    · cases h
      exact hbelow
    · cases h
      exact habove

/-- If the double itself is on a grid, that grid has a point in the interval. -/
theorem exists_nearest? (hmid : (c : ℚ) * 10 ^ e = r.mid * 2 ^ r.unit) (h : r.Holds (c * 10 ^ e)) :
    ∃ c, r.nearest? e = some c := by
  have heq : r.mid * r.unitScale e = c * r.gridScale e :=
    le_antisymm ((le_grid_iff _).mpr hmid.ge) ((grid_le_iff _).mpr hmid.le)
  have hbelow : r.mid * r.unitScale e / r.gridScale e = c := by
    rw [heq, Nat.mul_div_cancel _ (r.gridScale_pos e)]
  rw [← contains_iff] at h
  unfold nearest?
  simp only [hbelow, h]
  cases r.contains e (c + 1)
  · exact ⟨_, rfl⟩
  · simp only
    split
    · exact ⟨_, rfl⟩
    · exact ⟨_, rfl⟩

theorem coarsest_spec (steps : ℕ) {least : ℤ} (hleast : least ≤ e) (hsteps : e < least + steps)
    (hhit : ∃ c, r.nearest? least = some c) :
    least ≤ (r.coarsest steps e).exponent ∧
      r.nearest? (r.coarsest steps e).exponent = some (r.coarsest steps e).coefficient := by
  induction steps generalizing e with
  | zero => omega
  | succ steps ih =>
    unfold coarsest
    split
    · rename_i hc
      exact ⟨hleast, hc⟩
    · rename_i hnone
      have hne : e ≠ least := by
        rintro rfl
        obtain ⟨c, hc⟩ := hhit
        rw [hnone] at hc
        cases hc
      exact ih (by omega) (by omega)

end RoundingInterval

namespace Binary64

variable {x : Binary64}

/-! ## The shortest decimal lies in the interval -/

theorem size_eq_mid (x : Binary64) :
    x.size = (RoundingInterval.of x).mid * 2 ^ (RoundingInterval.of x).unit := by
  have hmid : ((RoundingInterval.of x).mid : ℚ) = 4 * x.significand := by
    show ((4 * x.significand : ℕ) : ℚ) = _
    push_cast
    rfl
  rw [size, unit_eq, hmid]
  ring

theorem holds_size (hzero : x.isZero = false) : (RoundingInterval.of x).Holds x.size := by
  have hpos : (0 : ℚ) < 2 ^ (RoundingInterval.of x).unit := by positivity
  have hsignificand := significand_pos hzero
  have hbelow : (RoundingInterval.of x).low < (RoundingInterval.of x).mid := by
    show 4 * x.significand - _ < 4 * x.significand
    split <;> omega
  have habove : (RoundingInterval.of x).mid < (RoundingInterval.of x).high := by
    show 4 * x.significand < 4 * x.significand + 2
    omega
  have hlow := mul_lt_mul_of_pos_right (Nat.cast_lt (α := ℚ).mpr hbelow) hpos
  have hhigh := mul_lt_mul_of_pos_right (Nat.cast_lt (α := ℚ).mpr habove) hpos
  rw [size_eq_mid]
  unfold RoundingInterval.Holds
  split
  · exact ⟨hlow.le, hhigh.le⟩
  · exact ⟨hlow, hhigh⟩

theorem exists_nearest?_of_size (hzero : x.isZero = false) {e : ℤ} {n : ℕ}
    (h : x.size = n * 10 ^ e) : ∃ c, (RoundingInterval.of x).nearest? e = some c :=
  RoundingInterval.exists_nearest? (h.symm.trans x.size_eq_mid) (h ▸ holds_size hzero)

/-- A double is on the grid of a power of ten if its unit is not less than the same power of two. -/
theorem exists_multiple {k : ℕ} (h : -(k : ℤ) ≤ x.exponent) :
    ∃ n : ℕ, x.size = n * 10 ^ (-(k : ℤ)) := by
  refine ⟨x.significand * 2 ^ (x.exponent + k).toNat * 5 ^ k, ?_⟩
  have hunit : (2 : ℚ) ^ x.exponent = 2 ^ (x.exponent + k).toNat * 2 ^ (-(k : ℤ)) := by
    rw [← zpow_natCast, ← zpow_add₀ (by norm_num)]
    congr 1
    omega
  have hten : (10 : ℚ) ^ (-(k : ℤ)) = 2 ^ (-(k : ℤ)) * 5 ^ (-(k : ℤ)) := by
    rw [← mul_zpow]
    norm_num
  have hfive : (5 : ℚ) ^ k * 5 ^ (-(k : ℤ)) = 1 := by
    rw [← zpow_natCast, ← zpow_add₀ (by norm_num)]
    simp
  rw [size, hunit, hten]
  push_cast
  calc (x.significand : ℚ) * (2 ^ (x.exponent + k).toNat * 2 ^ (-(k : ℤ)))
      = x.significand * 2 ^ (x.exponent + k).toNat * 2 ^ (-(k : ℤ)) *
          (5 ^ k * 5 ^ (-(k : ℤ))) := by rw [hfive]; ring
    _ = x.significand * 2 ^ (x.exponent + k).toNat * 5 ^ k *
          (2 ^ (-(k : ℤ)) * 5 ^ (-(k : ℤ))) := by ring

/-- The search for the shortest decimal does not go on beyond a grid that the double is on. -/
theorem shortest_of_size (hzero : x.isZero = false) {least : ℤ} (hleast : -1074 ≤ least)
    (hmost : least ≤ 309) {n : ℕ} (h : x.size = n * 10 ^ least) :
    least ≤ x.shortest.exponent ∧ (RoundingInterval.of x).Holds x.shortest.value := by
  obtain ⟨hexponent, hnearest⟩ := RoundingInterval.coarsest_spec (309 + 1074 + 1) hmost (by omega)
    (exists_nearest?_of_size hzero h)
  exact ⟨hexponent, RoundingInterval.holds_of_nearest? hnearest⟩

theorem holds_shortest (hzero : x.isZero = false) :
    (RoundingInterval.of x).Holds x.shortest.value := by
  obtain ⟨n, hn⟩ := exists_multiple (k := 1074) x.le_exponent
  exact (shortest_of_size hzero (by norm_num) (by norm_num) hn).2

/-! ## Integers -/

/-- The double is an integer. -/
def IsIntegral (x : Binary64) : Prop :=
  (x.ratio.2 : ℤ) ∣ x.ratio.1

instance : DecidablePred IsIntegral := fun x =>
  inferInstanceAs (Decidable ((x.ratio.2 : ℤ) ∣ x.ratio.1))

/-- The double is an integer more than `-2 ^ 63` and less than `2 ^ 63`. -/
def FitsInteger (x : Binary64) : Prop :=
  x.IsIntegral ∧ x.ratio.1.natAbs < twoTo 63 * x.ratio.2

instance : DecidablePred FitsInteger := fun x =>
  inferInstanceAs (Decidable (x.IsIntegral ∧ x.ratio.1.natAbs < twoTo 63 * x.ratio.2))

theorem ratio_pos (x : Binary64) : 0 < x.ratio.2 :=
  Nat.pow_pos (by decide)

theorem size_eq_ratio (x : Binary64) : x.size = x.ratio.1.natAbs / x.ratio.2 := by
  have htwo := zpow_eq_div (b := 2) (by decide) x.exponent
  rw [Nat.cast_ofNat] at htwo
  have hnum : x.ratio.1.natAbs = x.significand * twoTo x.exponent.toNat := by
    unfold ratio
    simp only
    split
    · rw [Int.natAbs_neg]
      exact Int.natAbs_natCast _
    · exact Int.natAbs_natCast _
  rw [size, htwo, hnum]
  push_cast
  rw [mul_div_assoc]
  rfl

theorem isIntegral_iff (x : Binary64) : x.IsIntegral ↔ ∃ n : ℕ, x.size = n := by
  have hpos : (0 : ℚ) < x.ratio.2 := by exact_mod_cast x.ratio_pos
  rw [IsIntegral, Int.natCast_dvd, size_eq_ratio]
  constructor
  · rintro ⟨n, hn⟩
    refine ⟨n, ?_⟩
    rw [hn, Nat.cast_mul, mul_div_cancel_left₀ _ hpos.ne']
  · rintro ⟨n, hn⟩
    rw [div_eq_iff hpos.ne'] at hn
    refine ⟨n, ?_⟩
    rw [mul_comm]
    exact_mod_cast hn

theorem fitsInteger_iff (x : Binary64) : x.FitsInteger ↔ x.IsIntegral ∧ x.size < 2 ^ 63 := by
  have hpos : (0 : ℚ) < x.ratio.2 := by exact_mod_cast x.ratio_pos
  rw [FitsInteger, size_eq_ratio, div_lt_iff₀ hpos]
  exact_mod_cast Iff.rfl

/-- The only whole number that can be in the interval of a double is the double, unless the unit of
the double is a whole number as well. -/
theorem isIntegral_of_holds {n : ℕ} (h : (RoundingInterval.of x).Holds n) : x.IsIntegral := by
  rw [isIntegral_iff]
  by_cases hexponent : 0 ≤ x.exponent
  · obtain ⟨k, hk⟩ := Int.eq_ofNat_of_zero_le hexponent
    refine ⟨x.significand * 2 ^ k, ?_⟩
    rw [size, hk]
    push_cast
    rfl
  · obtain ⟨k, hk⟩ := Int.eq_ofNat_of_zero_le (a := -x.exponent) (by omega)
    have hpower : (2 : ℚ) ^ x.exponent = (2 ^ k)⁻¹ := by
      rw [show x.exponent = -(k : ℤ) by omega, zpow_neg, zpow_natCast]
    obtain ⟨hlow, hhigh, -⟩ := quarters_of_holds h
    rw [hpower, div_inv_eq_mul] at hlow hhigh
    have hbelow : (4 * x.significand : ℚ) ≤ 4 * (n * 2 ^ k) + 2 := by linarith [x.le_low]
    have hbelowNat : 4 * x.significand ≤ 4 * (n * 2 ^ k) + 2 := by exact_mod_cast hbelow
    have haboveNat : 4 * (n * 2 ^ k) ≤ 4 * x.significand + 2 := by exact_mod_cast hhigh
    have heq : x.significand = n * 2 ^ k := by omega
    refine ⟨n, ?_⟩
    rw [size, hpower, heq]
    push_cast
    field_simp

theorem shortest_exponent_iff (hzero : x.isZero = false) :
    0 ≤ x.shortest.exponent ↔ x.IsIntegral := by
  constructor
  · intro hexponent
    obtain ⟨k, hk⟩ := Int.eq_ofNat_of_zero_le hexponent
    have hholds := holds_shortest hzero
    rw [Decimal.value, hk] at hholds
    exact isIntegral_of_holds (n := x.shortest.coefficient * 10 ^ k) (by exact_mod_cast hholds)
  · intro hintegral
    obtain ⟨n, hn⟩ := (isIntegral_iff x).mp hintegral
    exact (shortest_of_size hzero (by norm_num) (by norm_num) (n := n) (by rw [hn]; simp)).1

/-! ## The range of integers -/

theorem near_of_holds {v : ℚ} (h : (RoundingInterval.of x).Holds v) :
    x.size - 2 ^ x.exponent / 2 ≤ v ∧ v ≤ x.size + 2 ^ x.exponent / 2 := by
  obtain ⟨hlow, hhigh, -⟩ := quarters_of_holds h
  have hpos : (0 : ℚ) < 2 ^ x.exponent := by positivity
  have hbelow : x.significand - 1 / 2 ≤ v / 2 ^ x.exponent := by linarith [x.le_low]
  have habove : v / 2 ^ x.exponent ≤ x.significand + 1 / 2 := by linarith
  rw [le_div_iff₀ hpos] at hbelow
  rw [div_le_iff₀ hpos] at habove
  rw [size]
  exact ⟨by linarith, by linarith⟩

/-- Doubles with a small unit are less than `2 ^ 63`, and so is all that is rounded to them. -/
theorem size_lt_of_exponent (h : x.exponent ≤ 10) : x.size + 2 ^ x.exponent / 2 < 2 ^ 63 := by
  have hsignificand : (x.significand : ℚ) + 1 ≤ 2 ^ 53 := by exact_mod_cast x.significand_lt
  have hpower : (2 : ℚ) ^ x.exponent ≤ 2 ^ 10 := by
    exact_mod_cast zpow_le_zpow_right₀ (by norm_num : (1 : ℚ) ≤ 2) h
  have hpos : (0 : ℚ) < 2 ^ x.exponent := by positivity
  rw [size]
  calc (x.significand : ℚ) * 2 ^ x.exponent + 2 ^ x.exponent / 2
      = (x.significand + 1 / 2) * 2 ^ x.exponent := by ring
    _ < 2 ^ 53 * 2 ^ x.exponent := mul_lt_mul_of_pos_right (by linarith) hpos
    _ ≤ 2 ^ 53 * 2 ^ 10 := mul_le_mul_of_nonneg_left hpower (by positivity)
    _ = 2 ^ 63 := by norm_num

/-- Of the doubles with a greater unit one is `2 ^ 63`, and the others are greater by a whole
unit. -/
theorem le_size_of_exponent (h : 11 ≤ x.exponent) :
    x.exponent = 11 ∧ x.significand = twoTo 52 ∨ (2 : ℚ) ^ 63 + 2 ^ x.exponent ≤ x.size := by
  obtain ⟨-, hnormal⟩ := le_significand (x := x) (by omega)
  have hleast : twoTo 52 ≤ x.significand := by omega
  rcases hleast.eq_or_lt with heq | hlt
  · rcases h.eq_or_lt with hexponent | hexponent
    · exact Or.inl ⟨hexponent.symm, heq.symm⟩
    · have hpower : (2 : ℚ) ^ (12 : ℤ) ≤ 2 ^ x.exponent :=
        zpow_le_zpow_right₀ (by norm_num) (by omega)
      refine Or.inr ?_
      rw [size, ← heq]
      norm_num at hpower ⊢
      linarith
  · have hnext : (2 : ℚ) ^ 52 + 1 ≤ x.significand := by exact_mod_cast hlt
    have hpower : (2 : ℚ) ^ (11 : ℤ) ≤ 2 ^ x.exponent := zpow_le_zpow_right₀ (by norm_num) h
    have hpos : (0 : ℚ) < 2 ^ x.exponent := by positivity
    refine Or.inr ?_
    norm_num at hpower
    calc (2 : ℚ) ^ 63 + 2 ^ x.exponent
        ≤ 2 ^ 52 * 2 ^ x.exponent + 2 ^ x.exponent := by linarith
      _ = (2 ^ 52 + 1) * 2 ^ x.exponent := by ring
      _ ≤ x.size := mul_le_mul_of_nonneg_right hnext hpos.le

/-- The shortest decimal of `2 ^ 63` is greater than this number. -/
theorem shortest_of_power (hexponent : x.exponent = 11) (hpower : x.significand = twoTo 52) :
    x.shortest = ⟨9223372036854776, 3⟩ := by
  have hinterval : RoundingInterval.of x = ⟨2 ^ 54 - 1, 2 ^ 54, 2 ^ 54 + 2, 9, true⟩ := by
    obtain ⟨hbiased, hnormal⟩ := le_significand (x := x) (by omega)
    have hfraction : x.fraction = 0 := by omega
    simp only [RoundingInterval.of, hpower, hexponent, hfraction, hbiased]
    rfl
  rw [shortest, hinterval]
  decide +kernel

theorem shortest_lt_iff (hzero : x.isZero = false) :
    (x.shortest.value < 2 ^ 63 ↔ x.size < 2 ^ 63) ∧ x.shortest.value ≠ 2 ^ 63 := by
  have hpos : (0 : ℚ) < 2 ^ x.exponent := by positivity
  obtain ⟨hbelow, habove⟩ := near_of_holds (holds_shortest hzero)
  by_cases hexponent : x.exponent ≤ 10
  · have hless := size_lt_of_exponent hexponent
    have hvalue : x.shortest.value < 2 ^ 63 := by linarith
    exact ⟨iff_of_true hvalue (by linarith), hvalue.ne⟩
  · have hgreater : (2 : ℚ) ^ 63 < x.shortest.value ∧ 2 ^ 63 ≤ x.size := by
      rcases le_size_of_exponent (x := x) (by omega) with ⟨helev, hpower⟩ | hle
      · rw [shortest_of_power helev hpower, Decimal.value, size, helev, hpower]
        norm_num
      · exact ⟨by linarith, by linarith⟩
    exact ⟨iff_of_false hgreater.1.not_gt hgreater.2.not_gt, hgreater.1.ne'⟩

/-! ## The written decimal -/

/-- The decimal that is written for a finite double, whatever its sign. -/
def written (x : Binary64) : Decimal :=
  if x.isZero then ⟨0, 0⟩ else x.shortest

theorem size_of_isZero (hzero : x.isZero = true) : x.size = 0 := by
  simp only [isZero, Bool.and_eq_true, beq_iff_eq] at hzero
  simp [size, significand, hzero]

theorem zero_isNegative (hzero : x.isZero = true) : zero x.isNegative = x := by
  simp only [isZero, Bool.and_eq_true, beq_iff_eq] at hzero
  have hbits := x.bits_toNat
  rw [hzero.1, hzero.2, Nat.zero_mul, Nat.zero_add] at hbits
  have heq : x.bits = UInt64.ofNat (if x.isNegative then twoTo 63 else 0) := by
    rw [← hbits, UInt64.ofNat_toNat]
  show (⟨_⟩ : Binary64) = ⟨x.bits⟩
  rw [heq]
  cases x.isNegative <;> rfl

/-- The written decimal is rounded to the double, however it is given as a quotient. -/
theorem ofRatio_written (hfinite : x.isFinite = true) {num den : ℕ} (hden : 0 < den)
    (h : (num : ℚ) / den = x.written.value) : ofRatio x.isNegative num den = x := by
  have hpos : (0 : ℚ) < den := by exact_mod_cast hden
  unfold written at h
  split at h
  · rename_i hzero
    have hnum : num = 0 := by
      rw [Decimal.value, Nat.cast_zero, zero_mul, div_eq_zero_iff] at h
      exact_mod_cast h.resolve_right hpos.ne'
    rw [ofRatio, if_pos hnum, zero_isNegative hzero]
  · rename_i hzero
    have hzero : x.isZero = false := by simpa using hzero
    exact ofRatio_of_holds hfinite hzero hden (h ▸ holds_shortest hzero)

theorem written_exponent_iff (x : Binary64) : 0 ≤ x.written.exponent ↔ x.IsIntegral := by
  unfold written
  split
  · rename_i hzero
    refine iff_of_true le_rfl ((isIntegral_iff x).mpr ⟨0, ?_⟩)
    rw [size_of_isZero hzero, Nat.cast_zero]
  · rename_i hzero
    exact shortest_exponent_iff (by simpa using hzero)

theorem written_lt_iff (x : Binary64) :
    (x.written.value < 2 ^ 63 ↔ x.size < 2 ^ 63) ∧ x.written.value ≠ 2 ^ 63 := by
  unfold written
  split
  · rename_i hzero
    rw [size_of_isZero hzero]
    norm_num [Decimal.value]
  · rename_i hzero
    exact shortest_lt_iff (by simpa using hzero)

/-- There are no zeros in front of the written digits, but for the digit of a zero itself. -/
theorem written_coefficient (x : Binary64) :
    x.isZero = true ∧ x.written = ⟨0, 0⟩ ∨ 0 < x.written.coefficient := by
  unfold written
  split
  · rename_i hzero
    exact Or.inl ⟨hzero, rfl⟩
  · rename_i hzero
    have hzero : x.isZero = false := by simpa using hzero
    refine Or.inr (Nat.pos_of_ne_zero fun hnone => ?_)
    obtain ⟨hlow, -, -⟩ := quarters_of_holds (holds_shortest hzero)
    have hone : (1 : ℚ) ≤ x.significand := by exact_mod_cast significand_pos hzero
    rw [Decimal.value, hnone, Nat.cast_zero, zero_mul, zero_div] at hlow
    linarith [x.le_low]

end Binary64

end SchemaEvolution
