import EngineClient.Numeric.Binary64
import EngineClient.Proofs.Numeric.Rounding
import Mathlib.Algebra.Order.Field.Power
import Mathlib.Algebra.Order.Round
import Mathlib.Data.Rat.Floor
import Mathlib.Tactic.NormNum
import Mathlib.Tactic.Ring

/-!
# Rounding is to nearest

The numbers of the format are the `Representable` ones: 53 bits, the last of them no lower than that
of the smallest numbers. A rational number is rounded in units of the last place that the numbers
around it have (`placeOf`), and no number with another last place is nearer.

* **`Binary64.nearest_of_ofRat?`** — what a rational number is rounded to is `Nearest` to it, and
  even where another number is as near;
* `Nearest.le_value`, `Nearest.value_le` — so rounding does not pass a number of the format,
  `Nearest.value_eq` — which stays what it is,
  `Nearest.two_mul_abs_value_sub_le` — and moves others by half of a last place at most;
* `Binary64.exists_nearest` — only numbers past the largest have no answer.
-/

namespace EngineClient

variable {num den : ℕ}

namespace Binary64

/-! ## Shifts -/

theorem shiftLeft_div_shiftLeft (num den : ℕ) (e : ℤ) :
    ((num <<< e.toNat : ℕ) : ℚ) / (den <<< (-e).toNat : ℕ) = num / den * 2 ^ e := by
  obtain ⟨n, rfl | rfl⟩ := e.eq_nat_or_neg
  · rw [Int.toNat_natCast, Int.toNat_neg_natCast, Nat.shiftLeft_eq, Nat.shiftLeft_eq, zpow_natCast]
    push_cast
    ring
  · rw [Int.toNat_neg_natCast, neg_neg, Int.toNat_natCast, Nat.shiftLeft_eq, Nat.shiftLeft_eq,
      zpow_neg, zpow_natCast]
    push_cast
    rw [mul_one, div_mul_eq_div_div, div_eq_mul_inv _ ((2 : ℚ) ^ n)]

theorem shiftLeft_pos {n : ℕ} (h : 0 < n) (k : ℕ) : 0 < n <<< k := by
  rw [Nat.shiftLeft_eq]
  positivity

/-- A quotient in units of `2 ^ e`. -/
theorem shiftLeft_neg_div_shiftLeft (num den : ℕ) (e : ℤ) :
    ((num <<< (-e).toNat : ℕ) : ℚ) / (den <<< e.toNat : ℕ) = num / den / 2 ^ e := by
  have scaled := shiftLeft_div_shiftLeft num den (-e)
  rwa [neg_neg, zpow_neg, ← div_eq_mul_inv] at scaled

theorem shiftLeft_lt_shiftLeft_iff (hden : 0 < den) (e : ℤ) :
    num <<< (-e).toNat < den <<< e.toNat ↔ (num / den : ℚ) < 2 ^ e := by
  have positive : (0 : ℚ) < (den <<< e.toNat : ℕ) := Nat.cast_pos.mpr (shiftLeft_pos hden _)
  have power : (0 : ℚ) < 2 ^ e := by positivity
  rw [← div_lt_one power, ← shiftLeft_neg_div_shiftLeft, div_lt_one positive, Nat.cast_lt]

/-! ## Values -/

theorem magnitude_pos (x : Binary64) : 0 < x.magnitude.2 :=
  shiftLeft_pos Nat.one_pos _

theorem magnitude_div (x : Binary64) :
    (x.magnitude.1 : ℚ) / x.magnitude.2 = x.mantissa * 2 ^ x.exponent := by
  rw [magnitude, shiftLeft_div_shiftLeft, Nat.cast_one, div_one]

theorem value_eq (x : Binary64) :
    x.value = (if x.negative then -1 else 1) * (x.mantissa * 2 ^ x.exponent) := by
  rw [← magnitude_div, value]
  dsimp only
  rw [Rat.mkRat_eq_div]
  split
  · push_cast
    ring
  · push_cast
    ring

theorem abs_value (x : Binary64) : |x.value| = x.mantissa * 2 ^ x.exponent := by
  have : (0 : ℚ) ≤ x.mantissa * 2 ^ x.exponent := by positivity
  rw [value_eq]
  split
  · rw [neg_one_mul, abs_neg, abs_of_nonneg this]
  · rw [one_mul, abs_of_nonneg this]

@[simp] theorem value_zero (negative : Bool) : (zero negative).value = 0 := by
  rw [value_eq, zero, Nat.cast_zero, zero_mul, mul_zero]

/-! ## Places -/

theorem zpow_log2_le {n : ℕ} (h : 0 < n) : (2 : ℚ) ^ (Nat.log2 n : ℤ) ≤ n := by
  rw [zpow_natCast]
  exact_mod_cast Nat.log2_self_le h.ne'

theorem lt_zpow_log2 (n : ℕ) : (n : ℚ) < 2 ^ ((Nat.log2 n : ℤ) + 1) := by
  rw [← Nat.cast_add_one, zpow_natCast]
  exact_mod_cast Nat.lt_log2_self (n := n)

theorem zpow_log2_sub_le (hnum : 0 < num) (hden : 0 < den) :
    (2 : ℚ) ^ ((Nat.log2 num : ℤ) - Nat.log2 den - 1) ≤ num / den := by
  rw [le_div_iff₀ (Nat.cast_pos.mpr hden)]
  calc (2 : ℚ) ^ ((Nat.log2 num : ℤ) - Nat.log2 den - 1) * den
      ≤ 2 ^ ((Nat.log2 num : ℤ) - Nat.log2 den - 1) * 2 ^ ((Nat.log2 den : ℤ) + 1) := by
        gcongr
        exact (lt_zpow_log2 den).le
    _ = 2 ^ (Nat.log2 num : ℤ) := by
        rw [← zpow_add₀ two_ne_zero]
        congr 1
        omega
    _ ≤ num := zpow_log2_le hnum

theorem lt_zpow_log2_sub (num : ℕ) (hden : 0 < den) :
    (num / den : ℚ) < 2 ^ ((Nat.log2 num : ℤ) - Nat.log2 den + 1) := by
  rw [div_lt_iff₀ (Nat.cast_pos.mpr hden)]
  calc (num : ℚ) < 2 ^ ((Nat.log2 num : ℤ) + 1) := lt_zpow_log2 num
    _ = 2 ^ ((Nat.log2 num : ℤ) - Nat.log2 den + 1) * 2 ^ (Nat.log2 den : ℤ) := by
        rw [← zpow_add₀ two_ne_zero]
        congr 1
        omega
    _ ≤ 2 ^ ((Nat.log2 num : ℤ) - Nat.log2 den + 1) * den := by
        gcongr
        exact zpow_log2_le hden

theorem leastExponent_le_placeOf (num den : ℕ) : leastExponent ≤ placeOf num den :=
  le_max_left _ _

/-- Numbers with that last place reach past the quotient, and only at the least place may they have
fewer than 53 bits around it. -/
theorem placeOf_spec (hnum : 0 < num) (hden : 0 < den) :
    (num / den : ℚ) < 2 ^ (placeOf num den + 53) ∧
      (placeOf num den = leastExponent ∨ (2 : ℚ) ^ (placeOf num den + 52) ≤ num / den) := by
  have low := zpow_log2_sub_le hnum hden
  have high := lt_zpow_log2_sub num hden
  unfold placeOf
  dsimp only
  set guess : ℤ := (Nat.log2 num : ℤ) - Nat.log2 den - 53 with hguess
  have before : ((Nat.log2 num : ℤ) - Nat.log2 den - 1) = guess + 52 := by omega
  have behind : ((Nat.log2 num : ℤ) - Nat.log2 den + 1) = guess + 1 + 53 := by omega
  rw [before] at low
  rw [behind] at high
  obtain ⟨place, hplace, fits⟩ : ∃ place : ℤ,
      place = (if num <<< (-(guess + 53)).toNat < den <<< (guess + 53).toNat then guess
        else guess + 1) ∧
      (num / den : ℚ) < 2 ^ (place + 53) ∧ (2 : ℚ) ^ (place + 52) ≤ num / den := by
    by_cases fits : num <<< (-(guess + 53)).toNat < den <<< (guess + 53).toNat
    · exact ⟨guess, (if_pos fits).symm, (shiftLeft_lt_shiftLeft_iff hden _).mp fits, low⟩
    · refine ⟨guess + 1, (if_neg fits).symm, high, ?_⟩
      rw [shiftLeft_lt_shiftLeft_iff hden, not_lt] at fits
      rwa [show guess + 1 + 52 = guess + 53 by ring]
  rw [← hplace]
  rcases le_total leastExponent place with h | h
  · rw [max_eq_right h]
    exact ⟨fits.1, .inr fits.2⟩
  · rw [max_eq_left h]
    refine ⟨fits.1.trans_le ?_, .inl rfl⟩
    gcongr
    exact one_le_two

/-! ## Representable numbers -/

/-- A number that needs no more than 53 bits, the last of them no lower than that of the smallest
numbers. It may be past the largest. -/
def Representable (q : ℚ) : Prop :=
  ∃ m e : ℤ, |m| ≤ 2 ^ 53 ∧ leastExponent ≤ e ∧ q = m * 2 ^ e

theorem Representable.neg {q : ℚ} (h : Representable q) : Representable (-q) := by
  obtain ⟨m, e, few, least, rfl⟩ := h
  exact ⟨-m, e, by rwa [abs_neg], least, by push_cast; ring⟩

/-! ## Units of the last place -/

/-- A quotient rounded to a whole number of units of the last place. -/
def units (num den : ℕ) : ℕ :=
  roundHalfEven (num <<< (-placeOf num den).toNat) (den <<< (placeOf num den).toNat)

/-- The distance of whole numbers of units from the quotient is one of whole numbers. -/
theorem abs_mul_zpow_placeOf_sub (num den : ℕ) (n : ℚ) :
    |n * 2 ^ placeOf num den - num / den| =
      |n - (num <<< (-placeOf num den).toNat : ℕ) / (den <<< (placeOf num den).toNat : ℕ)| *
        2 ^ placeOf num den := by
  have power : (0 : ℚ) < 2 ^ placeOf num den := by positivity
  rw [shiftLeft_neg_div_shiftLeft, ← abs_of_pos power, ← abs_mul, abs_of_pos power, sub_mul,
    div_mul_cancel₀ _ power.ne']

theorem abs_units_sub_le (num : ℕ) (hden : 0 < den) (k : ℤ) :
    |(units num den : ℚ) * 2 ^ placeOf num den - num / den| ≤
      |(k : ℚ) * 2 ^ placeOf num den - num / den| := by
  rw [abs_mul_zpow_placeOf_sub, abs_mul_zpow_placeOf_sub]
  exact mul_le_mul_of_nonneg_right (abs_roundHalfEven_sub_le _ (shiftLeft_pos hden _) k)
    (by positivity)

theorem units_mod_two (hden : 0 < den) {k : ℤ} (other : k ≠ units num den)
    (near : |(k : ℚ) * 2 ^ placeOf num den - num / den| =
      |(units num den : ℚ) * 2 ^ placeOf num den - num / den|) : units num den % 2 = 0 := by
  have power : (0 : ℚ) < 2 ^ placeOf num den := by positivity
  rw [abs_mul_zpow_placeOf_sub, abs_mul_zpow_placeOf_sub] at near
  exact roundHalfEven_mod_two (shiftLeft_pos hden _) other (mul_right_cancel₀ power.ne' near)

theorem units_le (hnum : 0 < num) (hden : 0 < den) : units num den ≤ 2 ^ 53 := by
  refine roundHalfEven_le (shiftLeft_pos hden _) ?_
  have inside := (placeOf_spec hnum hden).1
  rw [zpow_add₀ two_ne_zero, mul_comm] at inside
  rw [shiftLeft_neg_div_shiftLeft, div_le_iff₀ (by positivity)]
  exact_mod_cast inside.le

/-- A number with bits below the place is no further up than the first number at that place, which
the quotient is not below. -/
theorem exists_units_of_representable (hnum : 0 < num) (hden : 0 < den) {z : ℚ}
    (hz : Representable z) :
    (∃ k : ℤ, z = k * 2 ^ placeOf num den) ∨
      ∃ k : ℤ, z < k * 2 ^ placeOf num den ∧ k * 2 ^ placeOf num den ≤ (num / den : ℚ) := by
  obtain ⟨m, e, few, least, rfl⟩ := hz
  rcases le_or_gt (placeOf num den) e with above | below
  · obtain ⟨d, rfl⟩ := Int.le.dest above
    refine .inl ⟨m * 2 ^ d, ?_⟩
    rw [zpow_add₀ two_ne_zero, zpow_natCast, mul_comm ((2 : ℚ) ^ _) _, ← mul_assoc]
    push_cast
    rfl
  · have around := (placeOf_spec hnum hden).2.resolve_left (by omega)
    have start : (2 : ℚ) ^ (placeOf num den + 52) = (2 ^ 52 : ℤ) * 2 ^ placeOf num den := by
      rw [zpow_add₀ two_ne_zero, mul_comm]
      norm_num
    have small : (m : ℚ) * 2 ^ e ≤ 2 ^ (placeOf num den + 52) := by
      calc (m : ℚ) * 2 ^ e ≤ 2 ^ (53 : ℤ) * 2 ^ e := by
            gcongr
            exact_mod_cast (le_abs_self m).trans few
        _ = 2 ^ (53 + e) := (zpow_add₀ two_ne_zero _ _).symm
        _ ≤ 2 ^ (placeOf num den + 52) := zpow_le_zpow_right₀ one_le_two (by omega)
    rcases small.eq_or_lt with same | less
    · exact .inl ⟨2 ^ 52, by rw [same, start, Int.cast_pow]⟩
    · rw [start] at less around
      exact .inr ⟨2 ^ 52, by exact_mod_cast less, by exact_mod_cast around⟩

/-! ## Nearest numbers -/

/-- `y` is nearest to `q` among the numbers of the format, and even if another one is as near. -/
structure Nearest (q : ℚ) (y : Binary64) : Prop where
  representable : Representable y.value
  closest : ∀ z, Representable z → |y.value - q| ≤ |z - q|
  even : ∀ z, Representable z → z ≠ y.value → |z - q| = |y.value - q| → y.mantissa % 2 = 0

theorem units_closest (hnum : 0 < num) (hden : 0 < den) {z : ℚ} (hz : Representable z) :
    |(units num den : ℚ) * 2 ^ placeOf num den - num / den| ≤ |z - num / den| ∧
      (z ≠ units num den * 2 ^ placeOf num den →
        |z - num / den| = |(units num den : ℚ) * 2 ^ placeOf num den - num / den| →
        units num den % 2 = 0) := by
  rcases exists_units_of_representable hnum hden hz with ⟨k, rfl⟩ | ⟨k, less, around⟩
  · refine ⟨abs_units_sub_le num hden k, fun other near => units_mod_two hden ?_ near⟩
    rintro rfl
    exact other (by rw [Int.cast_natCast])
  · have multiple := abs_units_sub_le num hden k
    rw [abs_sub_comm ((k : ℚ) * _), abs_of_nonneg (sub_nonneg.mpr around)] at multiple
    have further : (num / den : ℚ) - k * 2 ^ placeOf num den < |z - num / den| := by
      rw [abs_sub_comm]
      exact (sub_lt_sub_left less _).trans_le (le_abs_self _)
    exact ⟨multiple.trans further.le, fun _ near => absurd near (multiple.trans_lt further).ne'⟩

theorem ofRatio?_eq_of_carry (negative : Bool) (hnum : num ≠ 0)
    (carry : units num den = 1 <<< 53) :
    ofRatio? negative num den = if placeOf num den + 1 ≤ greatestExponent then
      some ⟨negative, 1 <<< 52, placeOf num den + 1⟩ else none := by
  rw [units] at carry
  rw [ofRatio?, if_neg hnum]
  simp only [if_pos carry]

theorem ofRatio?_eq_of_not_carry (negative : Bool) (hnum : num ≠ 0)
    (fits : units num den ≠ 1 <<< 53) :
    ofRatio? negative num den = if placeOf num den ≤ greatestExponent then
      some ⟨negative, units num den, placeOf num den⟩ else none := by
  rw [units] at fits
  rw [ofRatio?, if_neg hnum]
  simp only [if_neg fits]
  rfl

theorem exists_ofRatio? (negative : Bool) (hnum : num ≠ 0)
    (few : placeOf num den < greatestExponent) : ∃ y, ofRatio? negative num den = some y := by
  by_cases carry : units num den = 1 <<< 53
  · exact ⟨_, (ofRatio?_eq_of_carry negative hnum carry).trans (if_pos (by omega))⟩
  · exact ⟨_, (ofRatio?_eq_of_not_carry negative hnum carry).trans (if_pos few.le)⟩

/-- A carry changes neither what is denoted nor whether it is even. -/
theorem ofRatio?_spec {negative : Bool} {y : Binary64} (hnum : num ≠ 0)
    (h : ofRatio? negative num den = some y) :
    y.value = (if negative then -1 else 1) * (units num den * 2 ^ placeOf num den) ∧
      (units num den % 2 = 0 → y.mantissa % 2 = 0) := by
  by_cases carry : units num den = 1 <<< 53
  · rw [ofRatio?_eq_of_carry negative hnum carry] at h
    split at h
    · cases h
      refine ⟨?_, fun _ => show 1 <<< 52 % 2 = 0 by decide⟩
      rw [value_eq, carry, zpow_add_one₀ two_ne_zero, Nat.shiftLeft_eq, Nat.shiftLeft_eq]
      push_cast
      ring
    · cases h
  · rw [ofRatio?_eq_of_not_carry negative hnum carry] at h
    split at h
    · cases h
      exact ⟨value_eq _, id⟩
    · cases h

theorem nearest_of_ofRatio? {negative : Bool} {y : Binary64} (hnum : 0 < num) (hden : 0 < den)
    (h : ofRatio? negative num den = some y) :
    Nearest ((if negative then -1 else 1) * (num / den)) y := by
  obtain ⟨value, even⟩ := ofRatio?_spec hnum.ne' h
  have representable : Representable (units num den * 2 ^ placeOf num den) := by
    refine ⟨units num den, placeOf num den, ?_, leastExponent_le_placeOf num den, ?_⟩
    · rw [Int.abs_natCast]
      exact_mod_cast units_le hnum hden
    · rw [Int.cast_natCast]
  have closest := fun z => units_closest (z := z) hnum hden
  cases negative with
  | false =>
    rw [if_neg Bool.false_ne_true, one_mul] at value ⊢
    refine ⟨value ▸ representable, fun z hz => ?_, fun z hz other near => ?_⟩
    · rw [value]
      exact (closest z hz).1
    · rw [value] at other near
      exact even ((closest z hz).2 other near)
  | true =>
    have flip : ∀ z : ℚ, |z - -(num / den : ℚ)| = |-z - num / den| := by
      intro z
      rw [← abs_neg, neg_sub', neg_neg]
    rw [if_pos rfl, neg_one_mul] at value ⊢
    refine ⟨value ▸ representable.neg, fun z hz => ?_, fun z hz other near => ?_⟩
    · rw [value, flip, flip, neg_neg]
      exact (closest (-z) hz.neg).1
    · rw [value, flip, flip, neg_neg] at near
      rw [value] at other
      exact even ((closest (-z) hz.neg).2 (fun same => other (by rw [← same, neg_neg])) near)

theorem nearest_zero (negative : Bool) : Nearest 0 (zero negative) := by
  refine ⟨⟨0, leastExponent, by norm_num, le_rfl, by simp⟩, fun z _ => ?_, fun _ _ _ _ => rfl⟩
  rw [value_zero, sub_self, abs_zero]
  exact abs_nonneg _

theorem natAbs_num_div_den (q : ℚ) : (q.num.natAbs : ℚ) / q.den = |q| := by
  have parts : |q| = |(q.num : ℚ) / q.den| := by rw [Rat.num_div_den]
  rw [parts, abs_div, Nat.abs_cast, Nat.cast_natAbs, Int.cast_abs]

/-- **Rounding is to nearest, ties to even.** -/
theorem nearest_of_ofRat? {q : ℚ} {y : Binary64} (h : ofRat? q = some y) : Nearest q y := by
  rcases eq_or_ne q 0 with rfl | nonzero
  · cases h
    exact nearest_zero false
  have hnum : 0 < q.num.natAbs := Int.natAbs_pos.mpr (Rat.num_ne_zero.mpr nonzero)
  have nearest := nearest_of_ofRatio? hnum q.den_pos h
  rw [natAbs_num_div_den] at nearest
  convert nearest using 1
  rcases lt_or_gt_of_ne nonzero with negative | positive
  · simp [negative, abs_of_neg]
  · simp [positive.not_gt, abs_of_pos positive]

theorem exists_ofRat? {q : ℚ} (h : |q| < 2 ^ 1023) : ∃ y, ofRat? q = some y := by
  rcases eq_or_ne q 0 with rfl | nonzero
  · exact ⟨_, rfl⟩
  have hnum : 0 < q.num.natAbs := Int.natAbs_pos.mpr (Rat.num_ne_zero.mpr nonzero)
  refine exists_ofRatio? _ hnum.ne' ?_
  rcases (placeOf_spec hnum q.den_pos).2 with least | around
  · rw [least]
    decide
  · rw [natAbs_num_div_den] at around
    have := around.trans_lt h
    rw [← zpow_natCast, zpow_lt_zpow_iff_right₀ one_lt_two] at this
    unfold greatestExponent
    omega

namespace Nearest

variable {q z : ℚ} {y : Binary64}

/-- Rounding does not pass a number of the format. -/
theorem le_value (h : Nearest q y) (hz : Representable z) (le : z ≤ q) : z ≤ y.value := by
  have closest := h.closest z hz
  by_contra less
  rw [not_le] at less
  rw [abs_of_neg (by linarith), abs_of_nonpos (by linarith)] at closest
  linarith

theorem value_le (h : Nearest q y) (hz : Representable z) (le : q ≤ z) : y.value ≤ z := by
  have closest := h.closest z hz
  by_contra more
  rw [not_le] at more
  rw [abs_of_pos (by linarith), abs_of_nonneg (by linarith)] at closest
  linarith

/-- A number of the format stays what it is. -/
theorem value_eq (h : Nearest q y) (hq : Representable q) : y.value = q :=
  le_antisymm (h.value_le hq le_rfl) (h.le_value hq le_rfl)

/-- Rounding moves a number by half of a last place at most. -/
theorem two_mul_abs_value_sub_le (h : Nearest q y) {e : ℤ} (least : leastExponent ≤ e)
    (size : |q| ≤ 2 ^ (e + 53)) : 2 * |y.value - q| ≤ 2 ^ e := by
  have power : (0 : ℚ) < 2 ^ e := by positivity
  have half := abs_sub_round (q / 2 ^ e)
  have few : |round (q / 2 ^ e)| ≤ (2 : ℤ) ^ 53 := by
    have bound : |q / 2 ^ e| ≤ 2 ^ 53 := by
      rw [abs_div, abs_of_pos power, div_le_iff₀ power, ← zpow_natCast, ← zpow_add₀ two_ne_zero,
        add_comm]
      exact size
    have : (|round (q / 2 ^ e)| : ℚ) < 2 ^ 53 + 1 := by
      have := abs_sub_abs_le_abs_sub ((round (q / 2 ^ e) : ℤ) : ℚ) (q / 2 ^ e)
      rw [abs_sub_comm] at this
      linarith
    have : |round (q / 2 ^ e)| < (2 : ℤ) ^ 53 + 1 := by exact_mod_cast this
    omega
  have closest := h.closest _ ⟨_, e, few, least, rfl⟩
  have scaled : |(round (q / 2 ^ e) : ℚ) * 2 ^ e - q| =
      |q / 2 ^ e - round (q / 2 ^ e)| * 2 ^ e := by
    rw [abs_sub_comm (q / 2 ^ e), ← abs_of_pos power, ← abs_mul, abs_of_pos power, sub_mul,
      div_mul_cancel₀ _ power.ne']
  rw [scaled] at closest
  calc 2 * |y.value - q| ≤ 2 * (|q / 2 ^ e - round (q / 2 ^ e)| * 2 ^ e) := by linarith
    _ ≤ 2 * (1 / 2 * 2 ^ e) := by gcongr
    _ = 2 ^ e := by ring

end Nearest

/-! ## Results of arithmetic -/

theorem exists_nearest {q : ℚ} (h : |q| < 2 ^ 1023) : ∃ y, ofRat? q = some y ∧ Nearest q y := by
  obtain ⟨y, rounded⟩ := exists_ofRat? h
  exact ⟨y, rounded, nearest_of_ofRat? rounded⟩

theorem representable_natCast {n : ℕ} (few : n ≤ 2 ^ 53) : Representable n := by
  refine ⟨n, 0, ?_, by decide, by rw [zpow_zero, mul_one, Int.cast_natCast]⟩
  rw [Nat.abs_cast]
  exact_mod_cast few

theorem representable_zpow {e : ℤ} (least : leastExponent ≤ e) : Representable (2 ^ e) :=
  ⟨1, e, by norm_num, least, by rw [Int.cast_one, one_mul]⟩

theorem representable_zero : Representable 0 := by
  exact_mod_cast representable_natCast (Nat.zero_le _)

theorem representable_one : Representable 1 := by
  exact_mod_cast representable_natCast Nat.one_le_two_pow

/-- A result between two numbers of the format is rounded to one between them. -/
theorem exists_nearest_between {q low high : ℚ} (hlow : Representable low)
    (hhigh : Representable high) (nonneg : 0 ≤ low) (few : high < 2 ^ 1023) (le : low ≤ q)
    (ge : q ≤ high) :
    ∃ y, ofRat? q = some y ∧ Nearest q y ∧ low ≤ y.value ∧ y.value ≤ high := by
  have inside : |q| < 2 ^ 1023 := by
    rw [abs_of_nonneg (nonneg.trans le)]
    exact ge.trans_lt few
  obtain ⟨y, rounded, nearest⟩ := exists_nearest inside
  exact ⟨y, rounded, nearest, nearest.le_value hlow le, nearest.value_le hhigh ge⟩

theorem Representable.half {q : ℚ} (h : Representable q) (big : 2 ^ (-1000 : ℤ) ≤ |q|) :
    Representable (q / 2) := by
  obtain ⟨m, e, few, least, rfl⟩ := h
  refine ⟨m, e - 1, few, ?_, ?_⟩
  · by_contra low
    have few' : |(m : ℚ)| ≤ 2 ^ (53 : ℤ) := by exact_mod_cast few
    have small : |(m : ℚ) * 2 ^ e| ≤ 2 ^ (53 + leastExponent) := by
      rw [abs_mul, abs_of_pos (a := (2 : ℚ) ^ e) (by positivity), zpow_add₀ two_ne_zero]
      gcongr
      · exact one_le_two
      · omega
    have := zpow_le_zpow_iff_right₀ (a := (2 : ℚ)) one_lt_two |>.mp (big.trans small)
    unfold leastExponent at this
    omega
  · rw [zpow_sub_one₀ two_ne_zero]
    ring

theorem ofInt?_eq_ofRat? (n : ℤ) : ofInt? n = ofRat? n := by
  rw [ofInt?, ofRat?, Rat.num_intCast, Rat.den_intCast]
  simp

theorem exists_ofInt? {n : ℕ} (few : n ≤ 2 ^ 53) : ∃ x, ofInt? n = some x ∧ x.value = n := by
  have few' : (n : ℚ) ≤ 2 ^ 53 := by exact_mod_cast few
  have whole := representable_natCast few
  obtain ⟨x, rounded, nearest, -⟩ := exists_nearest_between whole whole n.cast_nonneg
    (few'.trans_lt (pow_lt_pow_right₀ one_lt_two (by decide))) le_rfl le_rfl
  refine ⟨x, ?_, nearest.value_eq whole⟩
  rw [ofInt?_eq_ofRat?, Int.cast_natCast]
  exact rounded

end Binary64
end EngineClient
