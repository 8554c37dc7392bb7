import EngineClient.Configuration.Basic
import EngineClient.Proofs.Call.Retrying
import EngineClient.Proofs.Fallible

/-!
# Numbers of attempts

Attempts are numbered in 32 bits, from zero on. `Call.Numbered` follows the numbers along a script:
the next one is made by an addition in 32 bits, if the attempt before it is lost and the policy
repeats it. As a policy repeats no attempt behind its greatest one, no addition that leads to
another attempt wraps, and what the policy says of an attempt is what it says of the number of round
trips before it (`Call.Numbered.exact`).

* `Call.Numbered.play_send` — the numbers are those of the call: behind `n` lost attempts it goes on
  as the attempts from the number that follows;
* `Call.exists_numbered_iff` — there is a number for each round trip, and no more;
* **`Call.play_send_numbers`** — the attempts that a call reports when it gives up are its round
  trips, counted in 32 bits;
* `Call.play_send_of_greatest` — with the greatest number of further attempts the report wraps: it
  says none.
-/

namespace EngineClient.Call

open Outcome

/-! ## Traces -/

section

variable {policy : RetryPolicy} {script : Script} (request : Request) (index operation : String)

theorem Run.afterAll_afterAll {α σ : Type} (run : Run α σ) (steps later : List Step) :
    (run.afterAll later).afterAll steps = run.afterAll (steps ++ later) := by
  simp only [Run.afterAll, List.append_assoc]

/-- The last of the lost attempts leaves the last steps. -/
theorem lostTrace_succ' (attempt k : ℕ) (script : Script) :
    lostTrace policy request attempt (k + 1) script =
      lostTrace policy request attempt k script ++
        lostSteps policy request (attempt + k) (script.get k) := by
  induction k generalizing attempt script with
  | zero => exact List.append_nil _
  | succ k ih =>
    rw [lostTrace, ih, lostTrace, List.append_assoc, Nat.add_right_comm]
    rfl

theorem length_requestsOf_of_answer {k : ℕ} (enough : k ≤ policy.maxAttempts.toNat)
    (before : ∀ i < k, isTimeout (script.get i) = true)
    (final : isTimeout (script.get k) = false) :
    (requestsOf ((send policy request index operation).play script).trace).length = k + 1 := by
  rw [play_send_of_answer request index operation enough before final, requestsOf_eq,
    exchangesOf_append, exchangesOf_lostTrace]
  simp

theorem length_requestsOf_of_timeouts
    (all : ∀ i ≤ policy.maxAttempts.toNat, isTimeout (script.get i) = true) :
    (requestsOf ((send policy request index operation).play script).trace).length =
      policy.maxAttempts.toNat + 1 := by
  rw [play_send_of_timeouts request index operation all, requestsOf_eq, exchangesOf_append,
    exchangesOf_lostTrace]
  simp

end

/-! ## Numbers along a script -/

/-- The attempt behind `n` others has a number. -/
inductive Numbered (policy : RetryPolicy) (script : Script) : ℕ → UInt32 → Prop
  | first : Numbered policy script 0 0
  | next {n : ℕ} {attempt : UInt32} (number : Numbered policy script n attempt)
      (lost : isTimeout (script.get n) = true) (more : policy.repeatsAfter attempt = true) :
      Numbered policy script (n + 1) (attempt + 1)

/-- The arithmetic of an attempt number is that of the number `n` of attempts before it. -/
structure Exact (policy : RetryPolicy) (n : ℕ) (attempt : UInt32) : Prop where
  number : attempt.toNat = n
  /-- Another attempt follows if fewer than the greatest number have been repeated. -/
  repeats : policy.repeatsAfter attempt = true ↔ n < policy.maxAttempts.toNat
  /-- A wait follows if two more attempts may. -/
  waits : policy.waitsAfter attempt = true ↔ n + 1 < policy.maxAttempts.toNat
  /-- The addition that leads to another attempt does not wrap. -/
  next : policy.repeatsAfter attempt = true → (attempt + 1).toNat = n + 1

theorem exact_of_toNat {policy : RetryPolicy} {n : ℕ} {attempt : UInt32}
    (number : attempt.toNat = n) : Exact policy n attempt where
  number := number
  repeats := by rw [RetryPolicy.repeatsAfter_eq_true_iff, number]
  waits := by rw [RetryPolicy.waitsAfter_eq_true_iff, number]
  next more := by rw [toNat_succ_of_repeatsAfter more, number]

namespace Numbered

variable {policy : RetryPolicy} {script : Script} {n : ℕ} {attempt : UInt32}

theorem exact (number : Numbered policy script n attempt) : Exact policy n attempt := by
  induction number with
  | first => exact exact_of_toNat rfl
  | next _ _ more ih => exact exact_of_toNat (ih.next more)

theorem le (number : Numbered policy script n attempt) : n ≤ policy.maxAttempts.toNat := by
  cases number with
  | first => exact Nat.zero_le _
  | next number _ more => exact number.exact.repeats.mp more

theorem lost (number : Numbered policy script n attempt) :
    ∀ i < n, isTimeout (script.get i) = true := by
  induction number with
  | first => exact nofun
  | @next n _ _ lost _ ih =>
    intro i hi
    rcases Nat.lt_succ_iff_lt_or_eq.mp hi with earlier | rfl
    · exact ih i earlier
    · exact lost

theorem exists_of_lost (few : n ≤ policy.maxAttempts.toNat)
    (lost : ∀ i < n, isTimeout (script.get i) = true) :
    ∃ attempt, Numbered policy script n attempt := by
  induction n with
  | zero => exact ⟨0, .first⟩
  | succ n ih =>
    obtain ⟨attempt, number⟩ := ih (by omega) fun i hi => lost i (by omega)
    exact ⟨attempt + 1, number.next (lost n (by omega)) (number.exact.repeats.mpr few)⟩

/-! ## Numbers of a call -/

/-- Behind the lost attempts the call goes on as the attempts from the number that follows. -/
theorem play_send (request : Request) (index operation : String)
    (number : Numbered policy script n attempt) :
    (send policy request index operation).play script =
      ((attempts policy request index operation attempt).run scripted (script.drop n)).afterAll
        (lostTrace policy request 0 n script) := by
  induction number with
  | first => rfl
  | @next n attempt number lost more ih =>
    -- One lost outcome more: its steps go behind those that are there, under the number `n`.
    have head : isTimeout (script.drop n).head = true := by rwa [Stream'.head_drop]
    rw [ih, run_attempts_of_timeout request index operation head, if_pos more,
      number.exact.number, Stream'.head_drop, Stream'.tail_drop', Run.afterAll_afterAll,
      lostTrace_succ', Nat.zero_add]

end Numbered

section

variable (policy : RetryPolicy) (script : Script) (request : Request) (index operation : String)

/-- There is a number for each round trip of a call, and for no more. -/
theorem exists_numbered_iff (n : ℕ) :
    (∃ attempt, Numbered policy script n attempt) ↔
      n < (requestsOf ((send policy request index operation).play script).trace).length := by
  have exists_iff : (∃ attempt, Numbered policy script n attempt) ↔
      n ≤ policy.maxAttempts.toNat ∧ ∀ i < n, isTimeout (script.get i) = true :=
    ⟨fun ⟨_, number⟩ => ⟨number.le, number.lost⟩,
      fun ⟨few, lost⟩ => Numbered.exists_of_lost few lost⟩
  rw [exists_iff]
  -- The numbers end at the first answer, or where the policy allows no further attempt.
  rcases answer_or_timeouts policy script with ⟨k, enough, before, final⟩ | all
  · rw [length_requestsOf_of_answer request index operation enough before final,
      Nat.lt_succ_iff]
    constructor
    · rintro ⟨-, lost⟩
      by_contra later
      rw [lost k (by omega)] at final
      cases final
    · intro early
      exact ⟨by omega, fun i hi => before i (by omega)⟩
  · rw [length_requestsOf_of_timeouts request index operation all, Nat.lt_succ_iff]
    exact and_iff_left_of_imp fun few i hi => all i (by omega)

theorem gaveUp_iff (reported : UInt32) :
    ((send policy request index operation).play script).result =
        .error (.gaveUp operation index reported) ↔
      (∀ i ≤ policy.maxAttempts.toNat, isTimeout (script.get i) = true) ∧
        reported = policy.maxAttempts + 1 := by
  rcases answer_or_timeouts policy script with ⟨k, enough, before, final⟩ | all
  · rw [play_send_of_answer request index operation enough before final]
    refine iff_of_false (fun failed => ?_) fun ⟨all, _⟩ => ?_
    · obtain ⟨failure, -, same⟩ := Fallible.mapError_eq_error_iff.mp failed
      cases same
    · rw [all k enough] at final
      cases final
  · rw [play_send_of_timeouts request index operation all]
    constructor
    · intro failed
      cases failed
      exact ⟨all, rfl⟩
    · rintro ⟨-, rfl⟩
      rfl

end

/-! ## Reports -/

/-- What a call that gives up reports of its round trips, `N` of which are further attempts. -/
structure Report (N trips : ℕ) (reported : UInt32) : Prop where
  trips_eq : trips = N + 1
  reported_eq : reported.toNat = trips % UInt32.size
  /-- The report is right for all numbers but the greatest. -/
  exact_iff : reported.toNat = trips ↔ N < UInt32.size - 1
  /-- For the greatest number it says that there was no round trip. -/
  none_iff : reported = 0 ↔ N = UInt32.size - 1

theorem report_maxAttempts (policy : RetryPolicy) :
    Report policy.maxAttempts.toNat (policy.maxAttempts.toNat + 1) (policy.maxAttempts + 1) := by
  have size : UInt32.size = 4294967296 := rfl
  have bound : policy.maxAttempts.toNat < UInt32.size := policy.maxAttempts.toNat_lt
  have sum : (policy.maxAttempts + 1).toNat = (policy.maxAttempts.toNat + 1) % UInt32.size :=
    UInt32.toNat_add _ _
  constructor
  case trips_eq => rfl
  case reported_eq => exact sum
  case exact_iff =>
    rw [sum, size]
    omega
  case none_iff =>
    rw [← UInt32.toNat_inj, sum, size, UInt32.toNat_zero]
    omega

/-- **Attempts are counted right, up to the last report.** Each round trip of a call has a number in
32 bits, and nothing that is computed with it wraps: it is the number of the round trips before it,
the policy repeats it and waits after it as it would without a bound on numbers, and the number of
the attempt behind it is greater by one. The call gives up if all attempts that the policy allows
time out. It then reports how many round trips it made in 32 bits, which is right unless the policy
allows the greatest number of further attempts. -/
theorem play_send_numbers (policy : RetryPolicy) (request : Request) (index operation : String)
    (script : Script) :
    let N := policy.maxAttempts.toNat
    let run := (send policy request index operation).play script
    let trips := (requestsOf run.trace).length
    (∀ n, n < trips ↔ ∃ attempt, Numbered policy script n attempt) ∧
    (∀ n attempt, Numbered policy script n attempt → Exact policy n attempt ∧
      run = ((attempts policy request index operation attempt).run scripted
        (script.drop n)).afterAll (lostTrace policy request 0 n script)) ∧
    ((∃ reported, run.result = .error (.gaveUp operation index reported)) ↔
      ∀ i ≤ N, isTimeout (script.get i) = true) ∧
    ∀ reported, run.result = .error (.gaveUp operation index reported) →
      Report N trips reported := by
  intro N run trips
  refine ⟨fun n => ?_, fun n attempt number => ?_, ⟨?_, ?_⟩, ?_⟩
  · exact (exists_numbered_iff policy script request index operation n).symm
  · exact ⟨number.exact, number.play_send request index operation⟩
  · rintro ⟨reported, gaveUp⟩
    exact ((gaveUp_iff policy script request index operation reported).mp gaveUp).1
  · intro all
    exact ⟨_, (gaveUp_iff policy script request index operation _).mpr ⟨all, rfl⟩⟩
  · intro reported gaveUp
    obtain ⟨all, rfl⟩ := (gaveUp_iff policy script request index operation reported).mp gaveUp
    have length : trips = N + 1 := length_requestsOf_of_timeouts request index operation all
    rw [length]
    exact report_maxAttempts policy

/-- The second greatest number of further attempts: the report of lost attempts is right. -/
theorem play_send_numbers_great :
    let policy : RetryPolicy := ⟨4294967294, .zero⟩
    let slow : Outcome := .error (.timeout .zero "slow")
    let run := (send policy (.bare .get []) "metrics-1" "QUERY").play (Stream'.const slow)
    ∃ reported, run.result = .error (.gaveUp "QUERY" "metrics-1" reported) ∧
      reported.toNat = 4294967295 ∧ (requestsOf run.trace).length = reported.toNat := by
  intro policy slow run
  obtain ⟨-, -, gaveUp_iff, report⟩ :=
    play_send_numbers policy (.bare .get []) "metrics-1" "QUERY" (Stream'.const slow)
  obtain ⟨reported, gaveUp⟩ := gaveUp_iff.mpr fun _ _ => rfl
  have right := report reported gaveUp
  have equal := right.exact_iff.mpr (by decide)
  exact ⟨reported, gaveUp, equal.trans right.trips_eq, equal.symm⟩

/-- With the greatest number of further attempts, which a valid configuration may ask for, a call
whose attempts are all lost makes `2 ^ 32` round trips and reports none. -/
theorem play_send_of_greatest :
    let config := Configuration.standard.withRetry 4294967295 .zero
    let slow : Outcome := .error (.timeout .zero "t")
    let run := (send config.retryPolicy (.bare .get []) "i" "OP").play (Stream'.const slow)
    config.validate = .ok () ∧ (requestsOf run.trace).length = 2 ^ 32 ∧
      run.result = .error (.gaveUp "OP" "i" 0) := by
  intro config slow run
  have greatest : config.retryPolicy.maxAttempts = 4294967295 := rfl
  have number : (4294967295 : UInt32).toNat + 1 = 2 ^ 32 := by decide
  have wraps : (4294967295 : UInt32) + 1 = 0 := by decide
  have all : ∀ i ≤ config.retryPolicy.maxAttempts.toNat,
      isTimeout ((Stream'.const slow).get i) = true := fun _ _ => rfl
  refine ⟨rfl, ?_, ?_⟩
  · rw [length_requestsOf_of_timeouts (.bare .get []) "i" "OP" all, greatest, number]
  · rw [gaveUp_iff, greatest, wraps]
    exact ⟨fun _ _ => rfl, rfl⟩

end EngineClient.Call
