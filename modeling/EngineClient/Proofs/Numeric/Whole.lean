import EngineClient.Proofs.Numeric.Nearest

/-!
# Whole numbers in floating point

A float is whole if truncation drops nothing (`Binary64.isZero_fract_iff`), and then the cast to 64
bits is the number itself as long as it fits (`toNat_toUInt64`). **`Binary64.exists_natCast_iff`**:
so the two tests of a total, for the sign and for the fraction, find the natural numbers.

An integer that is rounded to a float keeps its sign (`value_ofInt_lt`), and past `2 ^ 53` the float
is whole, too (`exists_natCast_ofInt`).
-/

namespace EngineClient.Binary64

variable {x : Binary64}

/-! ## Whole floats -/

theorem nonneg_iff : zero false ≤ x ↔ 0 ≤ x.value := by
  show (zero false).value ≤ x.value ↔ _
  rw [value_zero]

/-- Truncation drops the bits behind the binary point. -/
theorem mantissa_fract (x : Binary64) : x.fract.mantissa = x.mantissa % 2 ^ x.fractionBits := by
  show x.mantissa - (x.mantissa >>> x.fractionBits) <<< x.fractionBits = _
  rw [Nat.shiftRight_eq_div_pow, Nat.shiftLeft_eq, Nat.mod_eq_sub_div_mul]

theorem isZero_fract_iff : x.fract.isZero = true ↔ x.magnitude.2 ∣ x.magnitude.1 := by
  have zero_iff : x.fract.isZero = true ↔ 2 ^ x.fractionBits ∣ x.mantissa := by
    rw [isZero, decide_eq_true_iff, mantissa_fract, Nat.dvd_iff_mod_eq_zero]
  have denominator : x.magnitude.2 = 2 ^ x.fractionBits := Nat.one_shiftLeft _
  have numerator : x.magnitude.1 = x.mantissa * 2 ^ x.exponent.toNat := Nat.shiftLeft_eq _ _
  rw [zero_iff, denominator, numerator]
  rcases le_total 0 x.exponent with whole | fraction
  · -- no bit stands behind the point
    have none : x.fractionBits = 0 := by
      unfold fractionBits
      omega
    rw [none]
    simp
  · have unscaled : x.exponent.toNat = 0 := by omega
    rw [unscaled, pow_zero, mul_one]

theorem value_of_nonneg (nonneg : 0 ≤ x.value) :
    x.value = (x.magnitude.1 : ℚ) / x.magnitude.2 := by
  rw [magnitude_div, ← abs_value, abs_of_nonneg nonneg]

/-- What is neither negative nor has a fraction is a natural number. -/
theorem exists_natCast_iff :
    (zero false ≤ x ∧ x.fract.isZero = true) ↔ ∃ v : ℕ, x.value = v := by
  have positive : (x.magnitude.2 : ℚ) ≠ 0 := Nat.cast_ne_zero.mpr x.magnitude_pos.ne'
  rw [nonneg_iff, isZero_fract_iff]
  constructor
  · rintro ⟨nonneg, v, whole⟩
    refine ⟨v, ?_⟩
    rw [value_of_nonneg nonneg, whole, Nat.cast_mul, mul_div_cancel_left₀ _ positive]
  · rintro ⟨v, value⟩
    have nonneg : 0 ≤ x.value := value ▸ v.cast_nonneg
    rw [value_of_nonneg nonneg, div_eq_iff positive] at value
    refine ⟨nonneg, v, ?_⟩
    rw [Nat.mul_comm]
    exact_mod_cast value

/-- The cast is exact where it need not saturate. -/
theorem toNat_toUInt64 {v : ℕ} (value : x.value = v) (small : v < UInt64.size) :
    x.toUInt64.toNat = v := by
  have positive : (x.magnitude.2 : ℚ) ≠ 0 := Nat.cast_ne_zero.mpr x.magnitude_pos.ne'
  have nonneg : 0 ≤ x.value := value ▸ v.cast_nonneg
  have parts : x.magnitude.1 = v * x.magnitude.2 := by
    rw [value_of_nonneg nonneg, div_eq_iff positive] at value
    exact_mod_cast value
  have quotient : x.magnitude.1 / x.magnitude.2 = v := by
    rw [parts, Nat.mul_div_cancel v x.magnitude_pos]
  unfold toUInt64
  dsimp only
  rw [quotient]
  split
  · -- only zero has that sign and is not negative
    rename_i negative
    rw [value_eq, if_pos negative, neg_one_mul] at value
    have zero : (v : ℚ) ≤ 0 := by
      rw [← value, neg_nonpos]
      positivity
    have none : v = 0 := by exact_mod_cast le_antisymm zero v.cast_nonneg
    rw [none]
    rfl
  · have fits : min v (UInt64.size - 1) = v := by omega
    rw [fits, UInt64.toNat_ofNat_of_lt' small]

/-! ## Integers as floats -/

theorem value_greatest_false : (greatest false).value = ((2 ^ 53 - 1) * 2 ^ 971 : ℕ) := by
  decide +kernel

theorem value_greatest_true : (greatest true).value < 0 := by
  decide +kernel

/-- A negative integer is still negative when it is rounded. -/
theorem value_ofInt_lt {n : ℤ} (negative : n < 0) : (ofInt n).value < 0 := by
  unfold ofInt
  cases rounded : ofInt? n with
  | none =>
    rw [Option.getD_none, decide_eq_true negative]
    exact value_greatest_true
  | some y =>
    rw [ofInt?_eq_ofRat?] at rounded
    have below : (n : ℚ) ≤ -1 := by exact_mod_cast Int.le_sub_one_of_lt negative
    exact ((nearest_of_ofRat? rounded).value_le representable_one.neg below).trans_lt (by norm_num)

/-- An integer past 53 bits is rounded to a natural number, and not below a power of two that it
reaches. -/
theorem exists_natCast_ofInt {n : ℕ} {k : ℕ} (bits : 53 ≤ k) (few : k ≤ 1023) (large : 2 ^ k ≤ n) :
    ∃ v : ℕ, (ofInt n).value = v ∧ 2 ^ k ≤ v := by
  unfold ofInt
  cases rounded : ofInt? n with
  | none =>
    have natural : decide ((n : ℤ) < 0) = false := decide_eq_false (by omega)
    rw [Option.getD_none, natural]
    refine ⟨_, value_greatest_false, ?_⟩
    calc 2 ^ k ≤ 2 ^ 1023 := Nat.pow_le_pow_right (by decide) few
      _ ≤ (2 ^ 53 - 1) * 2 ^ 971 := by decide +kernel
  | some y =>
    have positive : 0 < n := (Nat.two_pow_pos k).trans_le large
    have natural : decide ((n : ℤ) < 0) = false := decide_eq_false (by omega)
    have place : 0 ≤ placeOf n 1 := by
      have reach := (placeOf_spec positive Nat.one_pos).1
      have around : (2 : ℚ) ^ (k : ℤ) ≤ n := by exact_mod_cast large
      rw [Nat.cast_one, div_one] at reach
      have := (zpow_lt_zpow_iff_right₀ (one_lt_two (α := ℚ))).mp (around.trans_lt reach)
      omega
    have quotient : ofRatio? (decide ((n : ℤ) < 0)) n 1 = some y := rounded
    have value := (ofRatio?_spec positive.ne' quotient).1
    rw [natural, if_neg Bool.false_ne_true, one_mul, ← Int.toNat_of_nonneg place, zpow_natCast]
      at value
    refine ⟨units n 1 * 2 ^ (placeOf n 1).toNat, by exact_mod_cast value, ?_⟩
    have above : (2 : ℚ) ^ (k : ℤ) ≤ y.value := by
      rw [ofInt?_eq_ofRat?] at rounded
      refine (nearest_of_ofRat? rounded).le_value (representable_zpow ?_) ?_
      · unfold leastExponent
        omega
      · exact_mod_cast large
    rw [value] at above
    exact_mod_cast above

end EngineClient.Binary64
