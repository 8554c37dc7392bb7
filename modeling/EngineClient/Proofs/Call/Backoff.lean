import EngineClient.Proofs.Call.Retrying
import EngineClient.Proofs.Numeric.Durations

/-!
# Delays between attempts

A sample is brought into `[0, 1]`, the factor it stands for into `[1/2, 1]`, and the delay into the
band from half the base wait up to the base wait, which it does not reach (`Backoff.InBand`). Each
step is rounded: the factor may be rounded to one, and the wait scaled by it to the base wait; the
lower end holds because the number of seconds drifts by less than a nanosecond.

* `Backoff.exists_delay?` — every number has a delay in the band, if the base wait is below `2 ^ 24`
  seconds;
* `Call.exists_backoffsOf_send` — a call waits at most `N - 1` times, where `N` further attempts are
  allowed, and draws each delay by its policy;
* **`Call.send_delays`** — so its delays together are less than `N - 1` base waits, or none at all.
-/

namespace EngineClient

open Binary64

namespace Backoff

/-! ## Factors -/

theorem value_half : half.value = 2 ^ (-1 : ℤ) := by
  rw [value_eq]
  norm_num [half, Nat.shiftLeft_eq]

theorem value_one : one.value = 1 := by
  rw [value_eq]
  norm_num [one, Nat.shiftLeft_eq]

theorem value_two : two.value = 2 := by
  rw [value_eq]
  norm_num [two, Nat.shiftLeft_eq]

theorem exists_clamp {sample : Word} (number : sample ≠ .notANumber) :
    ∃ x, clamp sample = some x ∧ 0 ≤ x.value ∧ x.value ≤ 1 := by
  cases sample with
  | notANumber => exact absurd rfl number
  | infinite negative =>
    cases negative with
    | true => exact ⟨_, rfl, by simp, by simp⟩
    | false => exact ⟨_, rfl, by simp [value_one], by simp [value_one]⟩
  | finite x =>
    by_cases below : x.value < 0
    · exact ⟨_, if_pos below, by simp, by simp⟩
    by_cases above : 1 < x.value
    · exact ⟨_, (if_neg below).trans (if_pos above), by simp [value_one], by simp [value_one]⟩
    · exact ⟨x, (if_neg below).trans (if_neg above), not_lt.mp below, not_lt.mp above⟩

theorem exists_factor? {x : Binary64} (low : 0 ≤ x.value) (high : x.value ≤ 1) :
    ∃ factor, factor? x = some factor ∧ 2 ^ (-1 : ℤ) ≤ factor.value ∧ factor.value ≤ 1 := by
  have half := representable_zpow (e := -1) (by decide)
  have half_eq : (2 : ℚ) ^ (-1 : ℤ) = 1 / 2 := by norm_num
  obtain ⟨share, hshare, -, share_low, share_high⟩ := exists_nearest_between
    (q := x.value / two.value) representable_zero half le_rfl
    ((zpow_lt_one_of_neg₀ one_lt_two (by decide)).trans (one_lt_pow₀ one_lt_two (by decide)))
    (by rw [value_two]; positivity) (by rw [value_two, half_eq]; linarith)
  obtain ⟨factor, hfactor, -, factor_low, factor_high⟩ := exists_nearest_between
    (q := Backoff.half.value + share.value) half representable_one (by positivity)
    (one_lt_pow₀ one_lt_two (by decide)) (by rw [value_half]; linarith)
    (by rw [value_half, half_eq] at *; linarith)
  refine ⟨factor, ?_, factor_low, factor_high⟩
  simp only [factor?, div?, add?, Option.bind_eq_bind, Option.bind_some, hshare, hfactor]

/-! ## Delays -/

/-- A delay for a base wait: at least half of it, rounded down to nanoseconds, and less than all of
it. There is none for no base wait. -/
structure InBand (base delay : Duration) : Prop where
  low : base.nanoseconds / 2 ≤ delay.nanoseconds
  high : base ≠ .zero → delay.nanoseconds < base.nanoseconds
  none : base = .zero → delay = .zero

theorem exists_delay? {base : Duration} (short : base.nanoseconds < Duration.longest.nanoseconds)
    {sample : Word} (number : sample ≠ .notANumber) :
    ∃ delay, delay? base sample = some delay ∧ InBand base delay := by
  obtain ⟨x, hx, x_low, x_high⟩ := exists_clamp number
  obtain ⟨factor, hfactor, low, high⟩ := exists_factor? x_low x_high
  obtain ⟨scaled, hscaled, half, none⟩ := Duration.exists_scale? short low high
  have delay_eq : delay? base sample =
      if base ≠ .zero ∧ base.nanoseconds ≤ scaled.nanoseconds then
        some ⟨base.nanoseconds - 1⟩
      else some scaled := by
    simp only [delay?, hx, hfactor, hscaled, Option.bind_eq_bind, Option.bind_some]
  by_cases reached : base ≠ .zero ∧ base.nanoseconds ≤ scaled.nanoseconds
  · have some : base.nanoseconds ≠ 0 := fun zero => reached.1 (congrArg Duration.mk zero)
    refine ⟨⟨base.nanoseconds - 1⟩, by rw [delay_eq, if_pos reached], ?_, ?_, ?_⟩
    · dsimp only
      omega
    · intro _
      dsimp only
      omega
    · exact fun zero => absurd zero reached.1
  · refine ⟨scaled, by rw [delay_eq, if_neg reached], half, ?_, none⟩
    intro some
    exact Nat.lt_of_not_le fun le => reached ⟨some, le⟩

theorem sum_of_inBand {base : Duration} {delays : List Duration}
    (bands : ∀ delay ∈ delays, InBand base delay) :
    (delays.map Duration.nanoseconds).sum = 0 ∨
      (delays.map Duration.nanoseconds).sum < delays.length * base.nanoseconds := by
  by_cases none : base = .zero
  · left
    rw [List.sum_eq_zero_iff]
    intro n mem
    obtain ⟨delay, there, rfl⟩ := List.mem_map.mp mem
    rw [(bands delay there).none none]
    rfl
  cases delays with
  | nil => exact .inl rfl
  | cons delay delays =>
    right
    have below : ∀ n ∈ (delay :: delays).map Duration.nanoseconds, n ≤ base.nanoseconds - 1 := by
      intro n mem
      obtain ⟨other, there, rfl⟩ := List.mem_map.mp mem
      exact Nat.le_sub_one_of_lt ((bands other there).high none)
    have positive : 0 < base.nanoseconds :=
      Nat.pos_of_ne_zero fun zero => none (congrArg Duration.mk zero)
    calc ((delay :: delays).map Duration.nanoseconds).sum
        ≤ ((delay :: delays).map Duration.nanoseconds).length * (base.nanoseconds - 1) :=
          List.sum_le_card_nsmul _ _ below
      _ < (delay :: delays).length * base.nanoseconds := by
        rw [List.length_map]
        exact Nat.mul_lt_mul_of_pos_left (by omega) (by simp)

end Backoff

namespace Call

/-! ## Waits of a call -/

/-- How the delays of a trace are drawn, in order. -/
def backoffsOf (trace : List Step) : List (Word → Option Duration) :=
  trace.filterMap fun
    | .reported (.backoff draw) => some draw
    | _ => none

theorem backoffsOf_eq (trace : List Step) :
    backoffsOf trace = (waitsOf trace).1 ++ (waitsOf trace).2.flatten := by
  fun_induction waitsOf trace with
  | case1 => rfl
  | case2 request outcome trace ih => exact ih
  | case3 draw trace ih => exact congrArg (draw :: ·) ih
  | case4 event trace other ih =>
    cases event with
    | backoff draw => exact absurd rfl (other draw)
    | timedOut | gaveUp => exact ih

/-- A call waits a number of times, each time for a delay of its policy. -/
theorem exists_backoffsOf_send (policy : RetryPolicy) (request : Request) (index operation : String)
    (script : Script) :
    ∃ n ≤ policy.maxAttempts.toNat - 1,
      backoffsOf ((send policy request index operation).play script).trace =
        List.replicate n policy.backoffDelay? := by
  rcases answer_or_timeouts policy script with ⟨k, enough, before, final⟩ | all
  · refine ⟨_, Nat.min_le_right k _, ?_⟩
    rw [play_send_of_answer request index operation enough before final, backoffsOf_eq,
      waitsOf_lostTrace policy request 0 k script rfl, Nat.sub_zero]
    simp [waitsOf]
  · refine ⟨_, Nat.min_le_right (policy.maxAttempts.toNat + 1) _, ?_⟩
    rw [play_send_of_timeouts request index operation all, backoffsOf_eq,
      waitsOf_lostTrace policy request 0 _ script rfl, Nat.sub_zero]
    simp [waitsOf]

/-! ## Delays of a call -/

/-- The generator that takes its samples from a sequence of words. -/
def sampled (samples : Stream' UInt64) : Word × Stream' UInt64 :=
  (Word.ofBits samples.head, samples.tail)

/-- Each wait of a trace takes a sample of its own, and there is a delay for it. -/
theorem exists_slept? {policy : RetryPolicy}
    (short : policy.baseWait.nanoseconds < Duration.longest.nanoseconds) {trace : List Step} {n : ℕ}
    (waits : backoffsOf trace = List.replicate n policy.backoffDelay?) {samples : Stream' UInt64}
    (numbers : ∀ i, Word.ofBits (samples.get i) ≠ .notANumber) :
    ∃ delays, slept? sampled trace samples = some delays ∧ delays.length = n ∧
      ∀ delay ∈ delays, Backoff.InBand policy.baseWait delay := by
  induction trace generalizing n samples with
  | nil =>
    have none : n = 0 := List.length_replicate.symm.trans (congrArg List.length waits).symm
    exact ⟨[], rfl, none.symm, nofun⟩
  | cons step trace ih =>
    cases step with
    | exchanged request outcome => exact ih waits numbers
    | reported event =>
      cases event with
      | timedOut => exact ih waits numbers
      | gaveUp => exact ih waits numbers
      | backoff draw =>
        obtain ⟨rfl, m, rfl, others⟩ : draw = policy.backoffDelay? ∧ ∃ m, n = m + 1 ∧
            backoffsOf trace = List.replicate m policy.backoffDelay? := by
          cases n with
          | zero => cases waits
          | succ m =>
            obtain ⟨first, rest⟩ := List.cons.inj waits
            exact ⟨first, m, rfl, rest⟩
        obtain ⟨delay, drawn, band⟩ := Backoff.exists_delay? short (numbers 0)
        obtain ⟨delays, slept, length, bands⟩ := ih others fun i => numbers (i + 1)
        refine ⟨delay :: delays, ?_, congrArg (· + 1) length,
          List.forall_mem_cons.mpr ⟨band, bands⟩⟩
        have first : policy.backoffDelay? (sampled samples).1 = some delay := drawn
        have later : slept? sampled trace (sampled samples).2 = some delays := slept
        simp only [slept?, first, later, Option.bind_eq_bind, Option.bind_some, Option.pure_def]

/-- **Delays stay in their band.** Whatever is sampled, as long as it is a number, there is a delay,
and it lies in the band of the base wait. So each delay that a call sleeps for, drawn by a sample of
its own, is below a base wait that is not zero, and all of them together are less than one base wait
for each further attempt but one, if they are not zero. -/
theorem send_delays (policy : RetryPolicy)
    (short : policy.baseWait.nanoseconds < 2 ^ 24 * Duration.perSecond) :
    (∀ sample : UInt64, Word.ofBits sample ≠ .notANumber →
      ∃ delay, Backoff.delay? policy.baseWait (Word.ofBits sample) = some delay ∧
        Backoff.InBand policy.baseWait delay) ∧
    ∀ (request : Request) (index operation : String) (script : Script) (samples : Stream' UInt64),
      (∀ i, Word.ofBits (samples.get i) ≠ .notANumber) →
      let trace := ((send policy request index operation).play script).trace
      ∃ delays, slept? sampled trace samples = some delays ∧
        (∀ delay ∈ delays, Backoff.InBand policy.baseWait delay) ∧
        ((delays.map Duration.nanoseconds).sum = 0 ∨
          (delays.map Duration.nanoseconds).sum <
            (policy.maxAttempts.toNat - 1) * policy.baseWait.nanoseconds) := by
  refine ⟨fun sample number => Backoff.exists_delay? short number, ?_⟩
  intro request index operation script samples numbers trace
  obtain ⟨n, few, waits⟩ := exists_backoffsOf_send policy request index operation script
  obtain ⟨delays, slept, length, bands⟩ := exists_slept? short waits numbers
  refine ⟨delays, slept, bands, ?_⟩
  refine (Backoff.sum_of_inBand bands).imp_right fun less => less.trans_le ?_
  rw [length]
  exact Nat.mul_le_mul_right _ few

/-- The greatest number below one stands for a factor that is rounded to one. A search that times
out to the last draws two delays by it, each a nanosecond short of the base wait. -/
theorem send_delays_standard :
    let base := RetryPolicy.standard.baseWait
    let greatest : UInt64 := 0x3FEFFFFFFFFFFFFF
    let request := Request.bare .get ["metrics-1", "_search"]
    let slow : Outcome := .error (.timeout .zero "slow")
    let trace := ((send .standard request "metrics-1" "QUERY").play (Stream'.const slow)).trace
    Backoff.delay? base (Word.ofBits greatest) = some ⟨2499999999⟩ ∧
      Backoff.InBand base ⟨2499999999⟩ ∧
      ∃ delays, slept? sampled trace (Stream'.const greatest) = some delays ∧
        ((delays.map Duration.nanoseconds).sum = 0 ∨
          (delays.map Duration.nanoseconds).sum < 2 * 2500000000) := by
  intro base greatest request slow trace
  have number : Word.ofBits greatest ≠ .notANumber := by decide
  have short : base.nanoseconds < 2 ^ 24 * Duration.perSecond := by decide
  have drawn : Backoff.delay? base (Word.ofBits greatest) = some ⟨2499999999⟩ := by decide +kernel
  obtain ⟨every, call⟩ := send_delays .standard short
  obtain ⟨delay, same, band⟩ := every greatest number
  rw [drawn, Option.some_inj] at same
  obtain ⟨delays, all, -, total⟩ :=
    call request "metrics-1" "QUERY" (Stream'.const slow) (Stream'.const greatest) fun _ => number
  exact ⟨drawn, same ▸ band, delays, all, total⟩

end Call

end EngineClient
