import EngineClient.Call.Attempts
import EngineClient.Proofs.Call.Running
import Mathlib.Data.ENat.Lattice

/-!
# What retrying does

`Call.send` against every script of outcomes. With `N` further attempts allowed and `k` timeouts
before the first outcome that is none:

* **`Call.run_attempts_of_answer`** — if `k ≤ N`, the run ends with the outcome behind the timeouts;
* **`Call.run_attempts_of_timeouts`** — if the first `N + 1` outcomes are timeouts, it gives up;
* **`Call.play_send_exact`** — both together in numbers: round trips, result, counters and waits.

The trace of timed out attempts is `lostTrace`; what the numbers say of timeouts is shown there once,
by induction on the attempts.
-/

namespace EngineClient

/-! ## Policies -/

namespace RetryPolicy

variable {policy : RetryPolicy} {attempt : UInt32}

theorem repeatsAfter_eq_true_iff :
    policy.repeatsAfter attempt = true ↔ attempt.toNat < policy.maxAttempts.toNat := by
  simp [repeatsAfter, UInt32.lt_iff_toNat_lt]

/-- The saturation does not show: an attempt after the greatest number is never allowed. -/
theorem waitsAfter_eq_true_iff :
    policy.waitsAfter attempt = true ↔ attempt.toNat + 1 < policy.maxAttempts.toNat := by
  have hN : policy.maxAttempts.toNat < UInt32.size := policy.maxAttempts.toNat_lt
  have ha : attempt.toNat < UInt32.size := attempt.toNat_lt
  rw [waitsAfter, decide_eq_true_iff]
  omega

end RetryPolicy

namespace Call

open Outcome

/-! ## Timeouts at the front of a script -/

/-- How many outcomes are timeouts before the first that is none; infinite if all are. -/
noncomputable def leadingTimeouts (script : Script) : ℕ∞ :=
  ⨅ (n : ℕ) (_ : isTimeout (script.get n) = false), (n : ℕ∞)

theorem lt_leadingTimeouts_iff {script : Script} {n : ℕ} :
    (n : ℕ∞) < leadingTimeouts script ↔ ∀ i ≤ n, isTimeout (script.get i) = true := by
  have step : (n : ℕ∞) < leadingTimeouts script ↔ (n : ℕ∞) + 1 ≤ leadingTimeouts script :=
    (ENat.add_one_le_iff (ENat.natCast_ne_top n)).symm
  rw [step, leadingTimeouts, le_iInf₂_iff]
  constructor
  · intro h i hi
    by_contra hne
    have := h i (by simpa using hne)
    rw [← Nat.cast_one, ← Nat.cast_add, Nat.cast_le] at this
    omega
  · intro h i hne
    rw [← Nat.cast_one, ← Nat.cast_add, Nat.cast_le]
    by_contra hlt
    have := h i (by omega)
    rw [hne] at this
    exact Bool.false_ne_true this

theorem leadingTimeouts_eq_coe_iff {script : Script} {k : ℕ} :
    leadingTimeouts script = k ↔
      (∀ i < k, isTimeout (script.get i) = true) ∧ isTimeout (script.get k) = false := by
  have below : (∀ i < k, isTimeout (script.get i) = true) ↔ (k : ℕ∞) ≤ leadingTimeouts script := by
    cases k with
    | zero => simp
    | succ n =>
      rw [Nat.cast_add, Nat.cast_one, ENat.add_one_le_iff (ENat.natCast_ne_top n),
        lt_leadingTimeouts_iff]
      exact forall_congr' fun i => by rw [Nat.lt_succ_iff]
  rw [below]
  constructor
  · intro h
    refine ⟨h.ge, ?_⟩
    by_contra hne
    have hlt : (k : ℕ∞) < leadingTimeouts script :=
      lt_leadingTimeouts_iff.mpr fun i hi => by
        rcases Nat.lt_or_eq_of_le hi with hlt | rfl
        · exact below.mpr h.ge i hlt
        · simpa using hne
    exact absurd h hlt.ne'
  · rintro ⟨hle, hne⟩
    exact le_antisymm (iInf₂_le k hne) hle

/-! ## Lost attempts -/

section

variable (policy : RetryPolicy) (request : Request)

/-- What an attempt leaves in the trace that timed out. -/
def lostSteps (attempt : ℕ) (outcome : Outcome) : List Step :=
  .exchanged request outcome :: .reported .timedOut ::
    if attempt + 1 < policy.maxAttempts.toNat then [.reported (.backoff policy.backoffDelay?)]
    else []

/-- What `k` attempts leave in the trace that time out, the first of them having number `attempt`. -/
def lostTrace (attempt : ℕ) : ℕ → Script → List Step
  | 0, _ => []
  | k + 1, script =>
    lostSteps policy request attempt script.head ++ lostTrace (attempt + 1) k script.tail

theorem afterAll_lostSteps {α σ : Type} (attempt k : ℕ) (script : Script) (last : List Step)
    (result : α) (state : σ) :
    Run.afterAll (lostSteps policy request attempt script.head)
        ⟨result, lostTrace policy request (attempt + 1) k script.tail ++ last, state⟩ =
      ⟨result, lostTrace policy request attempt (k + 1) script ++ last, state⟩ := by
  rw [Run.afterAll, lostTrace, List.append_assoc]

theorem exchangesOf_lostTrace (attempt k : ℕ) (script : Script) :
    exchangesOf (lostTrace policy request attempt k script) =
      (script.take k).map fun outcome => (request, outcome) := by
  induction k generalizing attempt script with
  | zero => rfl
  | succ k ih =>
    rw [lostTrace, exchangesOf_append, ih, Stream'.take_succ, List.map_cons, lostSteps]
    split <;> rfl

theorem countAll_lostTrace (counts : Counts) (attempt k : ℕ) (script : Script) :
    counts.countAll (lostTrace policy request attempt k script) =
      { counts with timeouts := counts.timeouts + k } := by
  induction k generalizing counts attempt script with
  | zero => rfl
  | succ k ih =>
    have step : counts.countAll (lostSteps policy request attempt script.head) =
        { counts with timeouts := counts.timeouts + 1 } := by
      rw [lostSteps]
      split <;> rfl
    rw [lostTrace, Counts.countAll_append, step, ih]
    simp only [Counts.mk.injEq, and_true]
    omega

/-- Only attempts with two more allowed behind them are followed by a wait. -/
theorem waitsOf_lostTrace (attempt k : ℕ) (script : Script) {last : List Step}
    (hlast : (waitsOf last).1 = []) :
    waitsOf (lostTrace policy request attempt k script ++ last) =
      ([], List.replicate (min k (policy.maxAttempts.toNat - 1 - attempt)) [policy.backoffDelay?]
        ++ List.replicate (k - (policy.maxAttempts.toNat - 1 - attempt)) []
        ++ (waitsOf last).2) := by
  induction k generalizing attempt script with
  | zero => simp [lostTrace, ← hlast]
  | succ k ih =>
    rw [lostTrace, lostSteps, List.append_assoc]
    -- the attempts that are followed by a wait come first, so one case starts with a wait and the
    -- other has none at all
    by_cases more : attempt + 1 < policy.maxAttempts.toNat
    · obtain ⟨m, hm⟩ : ∃ m, policy.maxAttempts.toNat - 1 - attempt = m + 1 :=
        ⟨policy.maxAttempts.toNat - 1 - (attempt + 1), by omega⟩
      have hm' : policy.maxAttempts.toNat - 1 - (attempt + 1) = m := by omega
      rw [if_pos more, hm, Nat.add_min_add_right, List.replicate_succ, Nat.add_sub_add_right]
      simp only [List.cons_append, List.nil_append, waitsOf, ih, hm']
    · have hm : policy.maxAttempts.toNat - 1 - attempt = 0 := by omega
      have hm' : policy.maxAttempts.toNat - 1 - (attempt + 1) = 0 := by omega
      rw [if_neg more, hm, Nat.min_zero, Nat.sub_zero, List.replicate_succ]
      simp only [List.cons_append, List.nil_append, waitsOf, ih, hm', Nat.min_zero, Nat.sub_zero,
        List.replicate_zero]

end

/-! ## Attempts -/

section

variable {policy : RetryPolicy} {attempt : UInt32} {script : Script}
variable (request : Request) (index operation : String)

theorem run_attempts_of_not_timeout (h : isTimeout script.head = false) :
    (attempts policy request index operation attempt).run scripted script =
      ⟨(settled script.head).mapError (.roundTrip operation),
        [.exchanged request script.head], script.tail⟩ := by
  rw [attempts, run]
  change ((_ : Call (Except CallError Response)).run scripted script.tail).after _ = _
  cases hs : script.head with
  | ok response => rfl
  | error failure =>
    cases failure with
    | timeout elapsed text => rw [hs] at h; cases h
    | raised response => rfl
    | connection text => rfl
    | invalidUrl text => rfl
    | setup text => rfl
    | other text => rfl

/-- One timed out attempt: its steps, and then another attempt or the end. -/
theorem run_attempts_of_timeout (h : isTimeout script.head = true) :
    (attempts policy request index operation attempt).run scripted script =
      .afterAll (lostSteps policy request attempt.toNat script.head)
        ((if policy.repeatsAfter attempt then
          attempts policy request index operation (attempt + 1)
        else .report .gaveUp (.done (.error (.gaveUp operation index (attempt + 1))))).run
          scripted script.tail) := by
  obtain ⟨elapsed, text, hs⟩ : ∃ elapsed text, script.head = .error (.timeout elapsed text) := by
    cases hs : script.head with
    | ok response => rw [hs] at h; cases h
    | error failure =>
      rw [hs] at h
      cases failure with
      | timeout elapsed text => exact ⟨elapsed, text, rfl⟩
      | _ => cases h
  have scripted_head : scripted request script = (script.head, script.tail) := rfl
  rw [attempts, run, scripted_head, hs]
  simp only [run, pause, lostSteps]
  by_cases waits : policy.waitsAfter attempt = true
  · rw [if_pos waits, if_pos (RetryPolicy.waitsAfter_eq_true_iff.mp waits)]
    rfl
  · rw [if_neg waits, if_neg (mt RetryPolicy.waitsAfter_eq_true_iff.mpr waits)]
    rfl

/-- The run that meets a final outcome behind `k` timeouts, with enough attempts left. -/
theorem run_attempts_of_answer (k : ℕ) (enough : attempt.toNat + k ≤ policy.maxAttempts.toNat)
    (before : ∀ i < k, isTimeout (script.get i) = true)
    (final : isTimeout (script.get k) = false) :
    (attempts policy request index operation attempt).run scripted script =
      ⟨(settled (script.get k)).mapError (.roundTrip operation),
        lostTrace policy request attempt.toNat k script ++ [.exchanged request (script.get k)],
        script.drop (k + 1)⟩ := by
  -- the number of the attempt and the timeouts left add up to no more than the policy allows
  induction k generalizing attempt script with
  | zero => exact run_attempts_of_not_timeout request index operation final
  | succ k ih =>
    have more : policy.repeatsAfter attempt = true :=
      RetryPolicy.repeatsAfter_eq_true_iff.mpr (by omega)
    have number := toNat_succ_of_repeatsAfter more
    have rest := @ih (attempt + 1) script.tail (by omega)
      (fun i hi => before (i + 1) (by omega)) final
    rw [number] at rest
    rw [run_attempts_of_timeout request index operation (before 0 (by omega)), if_pos more, rest,
      afterAll_lostSteps]
    rfl

/-- The run that meets only timeouts: after the last attempt allowed it gives up. -/
theorem run_attempts_of_timeouts (k : ℕ) (last : attempt.toNat + k = policy.maxAttempts.toNat)
    (all : ∀ i ≤ k, isTimeout (script.get i) = true) :
    (attempts policy request index operation attempt).run scripted script =
      ⟨.error (.gaveUp operation index (policy.maxAttempts + 1)),
        lostTrace policy request attempt.toNat (k + 1) script ++ [.reported .gaveUp],
        script.drop (k + 1)⟩ := by
  induction k generalizing attempt script with
  | zero =>
    have same : attempt = policy.maxAttempts := UInt32.toNat_inj.mp (by omega)
    have done : ¬ policy.repeatsAfter attempt = true := by
      rw [RetryPolicy.repeatsAfter_eq_true_iff]
      omega
    rw [run_attempts_of_timeout request index operation (all 0 le_rfl), if_neg done, same,
      lostTrace, List.append_assoc]
    rfl
  | succ k ih =>
    have more : policy.repeatsAfter attempt = true :=
      RetryPolicy.repeatsAfter_eq_true_iff.mpr (by omega)
    have number := toNat_succ_of_repeatsAfter more
    have rest := @ih (attempt + 1) script.tail (by omega) fun i hi => all (i + 1) (by omega)
    rw [number] at rest
    rw [run_attempts_of_timeout request index operation (all 0 (by omega)), if_pos more, rest,
      afterAll_lostSteps]
    rfl

end

/-! ## Sending -/

section

variable {policy : RetryPolicy} {script : Script} (request : Request) (index operation : String)

theorem play_send_of_answer {k : ℕ} (enough : k ≤ policy.maxAttempts.toNat)
    (before : ∀ i < k, isTimeout (script.get i) = true)
    (final : isTimeout (script.get k) = false) :
    (send policy request index operation).play script =
      ⟨(settled (script.get k)).mapError (.roundTrip operation),
        lostTrace policy request 0 k script ++ [.exchanged request (script.get k)],
        script.drop (k + 1)⟩ :=
  run_attempts_of_answer request index operation k (by simpa using enough) before final

theorem play_send_of_timeouts
    (all : ∀ i ≤ policy.maxAttempts.toNat, isTimeout (script.get i) = true) :
    (send policy request index operation).play script =
      ⟨.error (.gaveUp operation index (policy.maxAttempts + 1)),
        lostTrace policy request 0 (policy.maxAttempts.toNat + 1) script ++ [.reported .gaveUp],
        script.drop (policy.maxAttempts.toNat + 1)⟩ :=
  run_attempts_of_timeouts request index operation policy.maxAttempts.toNat (Nat.zero_add _) all

/-- Either the outcomes allow an answer, or all attempts are lost. -/
theorem answer_or_timeouts (policy : RetryPolicy) (script : Script) :
    (∃ k ≤ policy.maxAttempts.toNat, (∀ i < k, isTimeout (script.get i) = true) ∧
        isTimeout (script.get k) = false) ∨
      ∀ i ≤ policy.maxAttempts.toNat, isTimeout (script.get i) = true := by
  cases h : leadingTimeouts script with
  | top =>
    right
    exact lt_leadingTimeouts_iff.mp (by rw [h]; exact ENat.natCast_lt_top _)
  | coe k =>
    rcases Nat.lt_or_ge policy.maxAttempts.toNat k with hlt | hge
    · right
      exact lt_leadingTimeouts_iff.mp (by rw [h]; exact Nat.cast_lt.mpr hlt)
    · left
      obtain ⟨before, final⟩ := leadingTimeouts_eq_coe_iff.mp h
      exact ⟨k, hge, before, final⟩

end

/-- **What one request costs and brings.** Let `N` be the number of further attempts allowed and `k`
the number of timeouts in front. If `k ≤ N` there are `k + 1` round trips, the result is the outcome
behind the timeouts, a raised response being a response like any other, and `k` timeouts are
counted. Otherwise there are `N + 1` round trips, all of them counted, and the call gives up. A wait
follows each of the first `min k (N - 1)` attempts and no other. -/
theorem play_send_exact (policy : RetryPolicy) (request : Request) (index operation : String)
    (counts : Counts) (script : Script)
    (bound : policy.maxAttempts.toNat < UInt32.size - 1) :
    let N := policy.maxAttempts.toNat
    let run := (send policy request index operation).play script
    (∀ k : ℕ, leadingTimeouts script = k → k ≤ N →
      requestsOf run.trace = List.replicate (k + 1) request ∧
      (∀ response, script.get k = .ok response ∨ script.get k = .error (.raised response) →
        run.result = .ok response) ∧
      (∀ failure, script.get k = .error failure → failure.response? = none →
        run.result = .error (.roundTrip operation failure)) ∧
      counts.countAll run.trace = ⟨counts.timeouts + k, counts.limits⟩ ∧
      waitsOf run.trace = ([], List.replicate (min k (N - 1)) [policy.backoffDelay?]
        ++ List.replicate (k + 1 - min k (N - 1)) [])) ∧
    (N < leadingTimeouts script →
      requestsOf run.trace = List.replicate (N + 1) request ∧
      (∃ attempts : UInt32, attempts.toNat = N + 1 ∧
        run.result = .error (.gaveUp operation index attempts)) ∧
      counts.countAll run.trace = ⟨counts.timeouts + (N + 1), counts.limits + 1⟩ ∧
      waitsOf run.trace = ([], List.replicate (N - 1) [policy.backoffDelay?]
        ++ List.replicate (N + 1 - (N - 1)) [])) := by
  intro N run
  constructor
  · intro k hk enough
    obtain ⟨before, final⟩ := leadingTimeouts_eq_coe_iff.mp hk
    have hrun : run = _ := play_send_of_answer request index operation enough before final
    have trace := congrArg Run.trace hrun
    have result := congrArg Run.result hrun
    dsimp only at trace result
    refine ⟨?_, ?_, ?_, ?_, ?_⟩
    · rw [trace, requestsOf_eq, exchangesOf_append, exchangesOf_lostTrace]
      simp [List.replicate_succ']
    · rintro response (h | h) <;> rw [result, h] <;> rfl
    · intro failure h hnone
      rw [result, h]
      cases failure <;> first | rfl | cases hnone
    · rw [trace, Counts.countAll_append, countAll_lostTrace]
      rfl
    · rw [trace, waitsOf_lostTrace policy request 0 k script rfl]
      have split : k + 1 - min k (N - 1) = (k - (N - 1)) + 1 := by omega
      rw [split, List.replicate_succ', Nat.sub_zero]
      simp [waitsOf, N]
  · intro lost
    have hrun : run = _ := play_send_of_timeouts request index operation
      (lt_leadingTimeouts_iff.mp lost)
    have trace := congrArg Run.trace hrun
    have result := congrArg Run.result hrun
    dsimp only at trace result
    refine ⟨?_, ⟨policy.maxAttempts + 1, ?_, result⟩, ?_, ?_⟩
    · rw [trace, requestsOf_eq, exchangesOf_append, exchangesOf_lostTrace]
      simp [N]
    · rw [UInt32.toNat_add, UInt32.toNat_one]
      have : UInt32.size = 2 ^ 32 := rfl
      omega
    · rw [trace, Counts.countAll_append, countAll_lostTrace]
      rfl
    · rw [trace, waitsOf_lostTrace policy request 0 (N + 1) script rfl]
      have few : min (N + 1) (N - 1) = N - 1 := by omega
      simp [waitsOf, N, few]

/-- A search by the standard policy: four timeouts end it, and one timeout with a raised response
behind it does not. -/
theorem play_send_standard :
    let request := Request.bare .get ["metrics-1", "_search"]
    let slow : Outcome := .error (.timeout .zero "slow")
    let busy : Response := ⟨some 503, []⟩
    let script : Script := Stream'.cons slow (Stream'.const (.error (.raised busy)))
    let search (script : Script) := (send .standard request "metrics-1" "QUERY").play script
    let lost := search (Stream'.const slow)
    let answered := search script
    (requestsOf lost.trace = List.replicate 4 request ∧
      (∃ attempts : UInt32, attempts.toNat = 4 ∧
        lost.result = .error (.gaveUp "QUERY" "metrics-1" attempts)) ∧
      Counts.zero.countAll lost.trace = ⟨4, 1⟩) ∧
    requestsOf answered.trace = [request, request] ∧ answered.result = .ok busy ∧
      Counts.zero.countAll answered.trace = ⟨1, 0⟩ := by
  intro request slow busy script search lost answered
  have few : RetryPolicy.standard.maxAttempts.toNat < UInt32.size - 1 := by decide
  constructor
  · obtain ⟨-, gaveUp⟩ := play_send_exact .standard request "metrics-1" "QUERY" .zero
      (Stream'.const slow) few
    obtain ⟨requests, result, counts, -⟩ := gaveUp (lt_leadingTimeouts_iff.mpr fun _ _ => rfl)
    exact ⟨requests, result, counts⟩
  · obtain ⟨ended, -⟩ := play_send_exact .standard request "metrics-1" "QUERY" .zero script few
    have one : leadingTimeouts script = (1 : ℕ) := by
      refine leadingTimeouts_eq_coe_iff.mpr ⟨?_, rfl⟩
      intro i hi
      rw [Nat.lt_one_iff.mp hi]
      rfl
    obtain ⟨requests, response, -, counts, -⟩ := ended 1 one (by decide)
    exact ⟨requests, response busy (.inr rfl), counts⟩

end Call

end EngineClient
