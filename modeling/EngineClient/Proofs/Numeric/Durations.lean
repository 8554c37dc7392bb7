import EngineClient.Duration
import EngineClient.Proofs.Numeric.Nearest

/-!
# Parts of durations

A duration is scaled by way of a number of seconds. Below `2 ^ 24` seconds (`Duration.longest`) that
number is less than a nanosecond away from the length (`Duration.drift_lt`), so half of it is less
than half a nanosecond away from half the length: **`Duration.exists_scale?`**, a part of a duration
that is at least its half is rounded to no fewer nanoseconds than its half has.
-/

namespace EngineClient.Duration

open Binary64

/-- Below `2 ^ 24` seconds the last place of a number of seconds is less than two nanoseconds. -/
def longest : Duration := ⟨2 ^ 24 * perSecond⟩

variable {d : Duration}

/-! ## Seconds -/

theorem nanoseconds_div (d : Duration) :
    (d.nanoseconds : ℚ) / perSecond = d.seconds + (d.fraction : ℚ) / perSecond :=
  div_eq_add_mod_div d.nanoseconds (by decide)

theorem fraction_lt (d : Duration) : d.fraction < perSecond :=
  Nat.mod_lt _ (by decide)

/-- The number of seconds of the longest wait. -/
theorem representable_longest : Representable (2 ^ 24) := by
  exact_mod_cast representable_natCast (n := 2 ^ 24) (by decide)

theorem seconds_lt (short : d.nanoseconds < longest.nanoseconds) : d.seconds < 2 ^ 24 :=
  Nat.div_lt_of_lt_mul (by rwa [longest, Nat.mul_comm] at short)

/-- The rest behind the whole seconds, as a part of a second. -/
theorem exists_share (d : Duration) :
    ∃ share, ofRat? (d.fraction / perSecond) = some share ∧ 0 ≤ share.value ∧ share.value ≤ 1 ∧
      2 * |share.value - d.fraction / perSecond| ≤ 2 ^ (-53 : ℤ) ∧
      (d.fraction = 0 → share.value = 0) := by
  have low : (0 : ℚ) ≤ d.fraction / perSecond := by positivity
  have high : (d.fraction : ℚ) / perSecond ≤ 1 :=
    (div_le_one (by norm_num [perSecond])).mpr (by exact_mod_cast d.fraction_lt.le)
  obtain ⟨share, rounded, nearest, nonneg, le⟩ := exists_nearest_between representable_zero
    representable_one le_rfl (one_lt_pow₀ one_lt_two (by decide)) low high
  refine ⟨share, rounded, nonneg, le, nearest.two_mul_abs_value_sub_le (by decide) ?_, ?_⟩
  · rwa [abs_of_nonneg low, neg_add_cancel, zpow_zero]
  · intro none
    rw [none, Nat.cast_zero, zero_div] at nearest
    exact nearest.value_eq representable_zero

/-- How far the number for a length is from the length itself, in seconds. -/
def drift : ℚ := 2 ^ (-30 : ℤ) + 2 ^ (-54 : ℤ)

/-- The drift is less than a nanosecond. -/
theorem drift_lt : drift < 1 / perSecond - 2 ^ (-40 : ℤ) := by
  norm_num [drift, perSecond]

theorem exists_inSeconds? (short : d.nanoseconds < longest.nanoseconds) :
    ∃ x, d.inSeconds? = some x ∧ Representable x.value ∧ 0 ≤ x.value ∧ x.value ≤ 2 ^ 24 ∧
      |x.value - d.nanoseconds / perSecond| ≤ drift ∧ (d.fraction = 0 → x.value = d.seconds) := by
  have few := seconds_lt short
  have part := d.fraction_lt
  have small : perSecond ≤ 2 ^ 53 := by decide
  obtain ⟨whole, hwhole, whole_value⟩ := exists_ofInt? (n := d.seconds) (by omega)
  obtain ⟨rest, hrest, rest_value⟩ := exists_ofInt? (n := d.fraction) (by omega)
  obtain ⟨unit, hunit, unit_value⟩ := exists_ofInt? small
  obtain ⟨share, hshare, share_nonneg, share_le, share_off, share_none⟩ := d.exists_share
  have few' : (d.seconds : ℚ) + 1 ≤ 2 ^ 24 := by exact_mod_cast few
  have low : 0 ≤ d.seconds + share.value := by positivity
  have high : d.seconds + share.value ≤ 2 ^ 24 := by linarith
  obtain ⟨x, hx, nearest, nonneg, le⟩ := exists_nearest_between representable_zero
    representable_longest le_rfl (pow_lt_pow_right₀ one_lt_two (by decide)) low high
  have off := nearest.two_mul_abs_value_sub_le (e := -29) (by decide) (by
    rw [abs_of_nonneg low]
    exact high.trans_eq (by norm_num))
  refine ⟨x, ?_, nearest.representable, nonneg, le, ?_, fun none => ?_⟩
  · simp only [inSeconds?, hwhole, hrest, hunit, div?, add?, rest_value, unit_value, whole_value,
      Option.bind_eq_bind, Option.bind_some, hshare, hx]
  · rw [nanoseconds_div, drift]
    have triangle := abs_sub_le x.value (d.seconds + share.value)
      (d.seconds + (d.fraction : ℚ) / perSecond)
    rw [add_sub_add_left_eq_sub] at triangle
    norm_num at off share_off ⊢
    linarith
  · rw [share_none none, add_zero] at nearest
    exact nearest.value_eq (representable_natCast (by omega))

/-! ## Nanoseconds -/

theorem exists_ofSeconds? {y : Binary64} (nonneg : 0 ≤ y.value) (few : y.value ≤ 2 ^ 24) :
    ∃ delay, ofSeconds? y = some delay ∧
      2 * |(delay.nanoseconds : ℚ) - y.value * perSecond| ≤ 1 := by
  have scaled : ((y.magnitude.1 * perSecond : ℕ) : ℚ) / y.magnitude.2 = y.value * perSecond := by
    rw [Nat.cast_mul, mul_div_right_comm, magnitude_div, ← abs_value, abs_of_nonneg nonneg]
  have near := two_mul_abs_roundHalfEven_sub_le (y.magnitude.1 * perSecond) y.magnitude_pos
  rw [scaled] at near
  have total : roundHalfEven (y.magnitude.1 * perSecond) y.magnitude.2 ≤ 2 ^ 24 * perSecond := by
    refine roundHalfEven_le y.magnitude_pos ?_
    rw [scaled]
    push_cast
    gcongr
    exact few.trans_eq (by norm_num)
  have limit : 2 ^ 24 * perSecond < UInt64.size * perSecond := by decide
  have sign : (y.negative && y.mantissa != 0) = false := by
    by_contra h
    simp only [Bool.not_eq_false, Bool.and_eq_true, bne_iff_ne] at h
    have : (0 : ℚ) < y.mantissa * 2 ^ y.exponent := by
      have : 0 < y.mantissa := Nat.pos_of_ne_zero h.2
      positivity
    rw [value_eq, if_pos h.1] at nonneg
    linarith
  have seconds : ofSeconds? y = if (y.negative && y.mantissa != 0) ||
      UInt64.size * perSecond ≤ roundHalfEven (y.magnitude.1 * perSecond) y.magnitude.2 then none
      else some ⟨roundHalfEven (y.magnitude.1 * perSecond) y.magnitude.2⟩ := rfl
  refine ⟨⟨roundHalfEven (y.magnitude.1 * perSecond) y.magnitude.2⟩, ?_, near⟩
  rw [seconds, sign, Bool.false_or, if_neg]
  simpa using total.trans_lt limit

/-! ## Scaling -/

section Halves

variable {x : Binary64} {n m : ℕ}

/-- So far from zero, half a number is a number again. -/
theorem representable_half (hx : Representable x.value) (some : 0 < n)
    (off : |x.value - n / perSecond| ≤ drift) : Representable (x.value / 2) := by
  have one : (1 : ℚ) ≤ n := by exact_mod_cast some
  have least : (n : ℚ) / perSecond - drift ≤ x.value := by linarith [(abs_le.mp off).1]
  refine hx.half ?_
  calc (2 : ℚ) ^ (-1000 : ℤ) ≤ 2 ^ (-40 : ℤ) := zpow_le_zpow_right₀ one_le_two (by decide)
    _ ≤ 1 / perSecond - drift := le_sub_comm.mp drift_lt.le
    _ ≤ n / perSecond - drift := by gcongr
    _ ≤ |x.value| := least.trans (le_abs_self _)

/-- A number of nanoseconds at most one half below half of the number of seconds is at least half of
the length, rounded down. -/
theorem half_le_of_off (off : |x.value - n / perSecond| ≤ drift)
    (reached : x.value / 2 * perSecond ≤ m + 1 / 2) : n / 2 ≤ m := by
  have positive : (0 : ℚ) < perSecond := by norm_num [perSecond]
  have drifted : drift * perSecond < 1 := by norm_num [drift, perSecond]
  have least : (n : ℚ) / perSecond ≤ x.value + drift := by linarith [(abs_le.mp off).1]
  rw [div_le_iff₀ positive, add_mul] at least
  have less : ((n : ℕ) : ℚ) < (2 * m + 2 : ℕ) := by
    push_cast
    linarith
  have : n < 2 * m + 2 := by exact_mod_cast less
  omega

end Halves

/-- A part of a wait, of at least the half of it. -/
theorem exists_scale? (short : d.nanoseconds < longest.nanoseconds) {factor : Binary64}
    (low : 2 ^ (-1 : ℤ) ≤ factor.value) (high : factor.value ≤ 1) :
    ∃ delay, d.scale? factor = some delay ∧ d.nanoseconds / 2 ≤ delay.nanoseconds ∧
      (d = zero → delay = zero) := by
  obtain ⟨x, hx, representable, nonneg, le, off, whole⟩ := exists_inSeconds? short
  have half : (2 : ℚ) ^ (-1 : ℤ) = 1 / 2 := by norm_num
  rw [half] at low
  have product_low : 0 ≤ x.value * factor.value := mul_nonneg nonneg (by linarith)
  have product_high : x.value * factor.value ≤ 2 ^ 24 :=
    (mul_le_of_le_one_right nonneg high).trans le
  obtain ⟨y, hy, nearest, y_nonneg, y_le⟩ := exists_nearest_between representable_zero
    representable_longest le_rfl (pow_lt_pow_right₀ one_lt_two (by decide)) product_low product_high
  obtain ⟨delay, hdelay, near⟩ := exists_ofSeconds? y_nonneg y_le
  refine ⟨delay, ?_, ?_, ?_⟩
  · simp only [scale?, hx, mul?, Option.bind_eq_bind, Option.bind_some, hy, hdelay]
  · rcases Nat.eq_zero_or_pos d.nanoseconds with none | some
    · rw [none]
      exact Nat.zero_le _
    have least : x.value / 2 ≤ y.value :=
      nearest.le_value (representable_half representable some off) (by nlinarith)
    have near' : |(delay.nanoseconds : ℚ) - y.value * perSecond| ≤ 1 / 2 := by linarith
    refine half_le_of_off off ?_
    calc x.value / 2 * perSecond ≤ y.value * perSecond := by gcongr
      _ ≤ delay.nanoseconds + 1 / 2 := by linarith [(abs_le.mp near').1]
  · rintro rfl
    have exact : x.value = 0 := whole rfl
    rw [exact, zero_mul] at nearest
    rw [nearest.value_eq representable_zero, zero_mul, sub_zero, Nat.abs_cast] at near
    have : 2 * delay.nanoseconds ≤ 1 := by exact_mod_cast near
    exact congrArg Duration.mk (show delay.nanoseconds = 0 by omega)

end EngineClient.Duration
