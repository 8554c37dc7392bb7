import EngineClient.Numeric.Rounding
import Mathlib.Algebra.Order.Field.Rat
import Mathlib.Tactic.FieldSimp
import Mathlib.Tactic.Linarith
import Mathlib.Tactic.Positivity

/-!
# How far rounding to a whole number goes

`roundHalfEven` takes a quotient to a whole number at most one half away
(`two_mul_abs_roundHalfEven_sub_le`), so none is nearer (`abs_roundHalfEven_sub_le`), and where
another one is as near the even one of the two is taken (`roundHalfEven_mod_two`).
-/

namespace EngineClient

variable {num den : ℕ}

/-- What is left of a quotient above its whole part. -/
theorem div_eq_add_mod_div (num : ℕ) (h : 0 < den) :
    (num : ℚ) / den = (num / den : ℕ) + (num % den : ℕ) / den := by
  have positive : (0 : ℚ) < den := Nat.cast_pos.mpr h
  have parts : (num : ℚ) = den * (num / den : ℕ) + (num % den : ℕ) := by
    exact_mod_cast (Nat.div_add_mod num den).symm
  rw [parts]
  field_simp

/-- Rounding goes down from at most a half, and up from at least a half; from a half it goes to the
even number. -/
theorem roundHalfEven_cases (num den : ℕ) :
    (roundHalfEven num den = num / den ∧ 2 * (num % den) ≤ den ∨
      roundHalfEven num den = num / den + 1 ∧ den ≤ 2 * (num % den)) ∧
    (2 * (num % den) = den → roundHalfEven num den % 2 = 0) := by
  unfold roundHalfEven
  dsimp only
  split
  · omega
  split
  · omega
  · omega

/-- The distance to the number that was rounded. -/
theorem abs_roundHalfEven_sub (num : ℕ) (h : 0 < den) :
    |(roundHalfEven num den : ℚ) - num / den| =
      (min (num % den) (den - num % den) : ℕ) / den := by
  have positive : (0 : ℚ) < den := Nat.cast_pos.mpr h
  have below : num % den < den := Nat.mod_lt num h
  rcases (roundHalfEven_cases num den).1 with ⟨down, few⟩ | ⟨up, many⟩
  · have rest : (0 : ℚ) ≤ (num % den : ℕ) / den := by positivity
    rw [down, div_eq_add_mod_div num h, sub_add_cancel_left, abs_neg, abs_of_nonneg rest,
      min_eq_left (by omega)]
  · have rest : ((num % den : ℕ) : ℚ) / den ≤ 1 :=
      (div_le_one positive).mpr (by exact_mod_cast below.le)
    rw [up, div_eq_add_mod_div num h, Nat.cast_add, Nat.cast_one, add_sub_add_left_eq_sub,
      abs_of_nonneg (sub_nonneg.mpr rest), min_eq_right (by omega), Nat.cast_sub below.le,
      sub_div, div_self positive.ne']

theorem two_mul_abs_roundHalfEven_sub_le (num : ℕ) (h : 0 < den) :
    2 * |(roundHalfEven num den : ℚ) - num / den| ≤ 1 := by
  rw [abs_roundHalfEven_sub num h, ← mul_div_assoc, div_le_one (Nat.cast_pos.mpr h)]
  have : 2 * min (num % den) (den - num % den) ≤ den := by omega
  exact_mod_cast this

theorem roundHalfEven_mod_two_of_tie (h : 0 < den)
    (tie : 2 * |(roundHalfEven num den : ℚ) - num / den| = 1) : roundHalfEven num den % 2 = 0 := by
  apply (roundHalfEven_cases num den).2
  rw [abs_roundHalfEven_sub num h, ← mul_div_assoc, div_eq_one_iff_eq (Nat.cast_ne_zero.mpr h.ne')]
    at tie
  have : 2 * min (num % den) (den - num % den) = den := by exact_mod_cast tie
  omega

/-- Whole numbers are further apart than rounding moves. -/
theorem one_le_abs_sub_add (num den : ℕ) {k : ℤ} (other : k ≠ roundHalfEven num den) :
    (1 : ℚ) ≤ |(k : ℚ) - num / den| + |(roundHalfEven num den : ℚ) - num / den| := by
  have apart : (1 : ℚ) ≤ |(k : ℚ) - (roundHalfEven num den : ℕ)| := by
    have : 1 ≤ |k - (roundHalfEven num den : ℤ)| := Int.one_le_abs (sub_ne_zero.mpr other)
    exact_mod_cast this
  rw [abs_sub_comm (roundHalfEven num den : ℚ)]
  exact apart.trans (abs_sub_le (k : ℚ) (num / den) (roundHalfEven num den : ℕ))

/-- No whole number is nearer. -/
theorem abs_roundHalfEven_sub_le (num : ℕ) (h : 0 < den) (k : ℤ) :
    |(roundHalfEven num den : ℚ) - num / den| ≤ |(k : ℚ) - num / den| := by
  by_cases same : k = roundHalfEven num den
  · rw [same, Int.cast_natCast]
  · have near := two_mul_abs_roundHalfEven_sub_le num h
    have apart := one_le_abs_sub_add num den same
    linarith

theorem roundHalfEven_le (h : 0 < den) {n : ℕ} (le : (num / den : ℚ) ≤ n) :
    roundHalfEven num den ≤ n := by
  have closest := abs_roundHalfEven_sub_le num h n
  rw [Int.cast_natCast, abs_of_nonneg (sub_nonneg.mpr le)] at closest
  have bound := (le_abs_self _).trans closest
  rw [sub_le_sub_iff_right] at bound
  exact_mod_cast bound

/-- If another whole number is as near, the one that is taken is even. -/
theorem roundHalfEven_mod_two (h : 0 < den) {k : ℤ} (other : k ≠ roundHalfEven num den)
    (near : |(k : ℚ) - num / den| = |(roundHalfEven num den : ℚ) - num / den|) :
    roundHalfEven num den % 2 = 0 := by
  refine roundHalfEven_mod_two_of_tie h ?_
  have half := two_mul_abs_roundHalfEven_sub_le num h
  have apart := one_le_abs_sub_add num den other
  linarith

end EngineClient
