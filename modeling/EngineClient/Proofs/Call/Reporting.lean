import EngineClient.Call.Attempts
import EngineClient.Proofs.Call.Running

/-!
# What calls report

Between two round trips a call only reports. `Call.advance` takes it through these reports, up to
the next round trip or to its result, so a call can be taken round trip by round trip.

`Call.Reports` is the discipline that a call keeps whatever it is told: each timeout is reported
once before the next request goes out, and giving up is reported once, right before the failure that
says so. It is a property of the call as a value, kept by sequencing (`Reports.bind`) and by the
attempts of every policy (`reports_attempts`).

**`Call.Reports.countAll_advance`**: so counters follow a call from round trip to round trip.
-/

namespace EngineClient

/-- The one failure after which a call may be repeated is that it gave up. -/
theorem CallError.mayRepeat_eq_true_iff {error : CallError} :
    error.mayRepeat = true ↔
      ∃ operation index attempts, error = .gaveUp operation index attempts := by
  cases error <;> simp [mayRepeat]

/-- Counters are never turned back. -/
theorem Counts.le_countAll (counts : Counts) (trace : List Call.Step) :
    counts.timeouts ≤ (counts.countAll trace).timeouts ∧
      counts.limits ≤ (counts.countAll trace).limits := by
  induction trace generalizing counts with
  | nil => exact ⟨le_rfl, le_rfl⟩
  | cons step trace ih =>
    obtain ⟨timeouts, limits⟩ := ih (counts.count step)
    have once : counts.timeouts ≤ (counts.count step).timeouts ∧
        counts.limits ≤ (counts.count step).limits := by
      unfold count
      split <;> simp
    exact ⟨Nat.le_trans once.1 timeouts, Nat.le_trans once.2 limits⟩

namespace Call

open Outcome

variable {α β σ : Type}

/-! ## From round trip to round trip -/

/-- What a call reports before its next round trip, and the call from there. -/
def advance : Call α → List Step × Call α
  | report event next => (.reported event :: next.advance.1, next.advance.2)
  | call => ([], call)

theorem run_advance (perform : Transport σ) (call : Call α) (state : σ) :
    call.run perform state = (call.advance.2.run perform state).afterAll call.advance.1 := by
  induction call with
  | done result => rfl
  | report event next ih =>
    rw [run, ih]
    rfl
  | exchange request next => rfl

theorem exchangesOf_advance (call : Call α) : exchangesOf call.advance.1 = [] := by
  induction call with
  | done result => rfl
  | report event next ih => exact ih
  | exchange request next => rfl

/-- Whether a call has ended in a failure after which it may be repeated. -/
def hasGivenUp : Call (Except CallError α) → Bool
  | done (.error error) => error.mayRepeat
  | _ => false

theorem hasGivenUp_eq_true_iff {call : Call (Except CallError α)} :
    call.hasGivenUp = true ↔
      ∃ operation index attempts, call = .done (.error (.gaveUp operation index attempts)) := by
  unfold hasGivenUp
  split
  · rw [CallError.mayRepeat_eq_true_iff]
    simp
  · rename_i other
    refine iff_of_false Bool.false_ne_true ?_
    rintro ⟨operation, index, attempts, rfl⟩
    exact other _ rfl

/-! ## The discipline -/

/-- The call reports its timeouts and that it gives up, each once and at its place. `owes` says that
a timeout is still to be reported. -/
inductive Reports : Bool → Call (Except CallError α) → Prop
  | ok (a : α) : Reports false (done (.ok a))
  | failed {error : CallError} (h : error.mayRepeat = false) : Reports false (done (.error error))
  | gaveUp {error : CallError} (h : error.mayRepeat = true) :
      Reports false (report .gaveUp (done (.error error)))
  | timedOut {next : Call (Except CallError α)} (rest : Reports false next) :
      Reports true (report .timedOut next)
  | backoff {owes : Bool} {next : Call (Except CallError α)}
      (draw : Binary64.Word → Option Duration) (rest : Reports owes next) :
      Reports owes (report (.backoff draw) next)
  | exchange (request : Request) {next : Outcome → Call (Except CallError α)}
      (rest : ∀ outcome, Reports (isTimeout outcome) (next outcome)) :
      Reports false (exchange request next)

namespace Reports

theorem ofExcept {result : Except CallError α}
    (h : ∀ error, result = .error error → error.mayRepeat = false) :
    Reports false (Operation.ofExcept result).run := by
  cases result with
  | ok a => exact .ok a
  | error error => exact .failed (h error rfl)

theorem bind {owes : Bool} {operation : Operation α} {next : α → Operation β}
    (first : Reports owes operation.run) (second : ∀ a, Reports false (next a).run) :
    Reports owes (operation >>= next).run := by
  show Reports owes (Call.bind (ExceptT.bindCont next) operation.run)
  -- nothing is owed where the first call ends, so the second one starts without a debt
  generalize operation.run = call at first
  induction first with
  | ok a => exact second a
  | failed h => exact .failed h
  | gaveUp h => exact .gaveUp h
  | timedOut _ ih => exact .timedOut ih
  | backoff draw _ ih => exact .backoff draw ih
  | exchange request _ ih => exact .exchange request ih

/-! ### Counting -/

theorem countAll_advance {owes : Bool} {call : Call (Except CallError α)} (h : Reports owes call)
    (counts : Counts) :
    counts.countAll call.advance.1 =
      ⟨counts.timeouts + owes.toNat, counts.limits + call.advance.2.hasGivenUp.toNat⟩ := by
  induction h generalizing counts with
  | ok a => rfl
  | failed h => simp [advance, hasGivenUp, h, Counts.countAll]
  | gaveUp h => simp [advance, hasGivenUp, h, Counts.countAll, Counts.count]
  | timedOut _ ih => exact ih ⟨counts.timeouts + 1, counts.limits⟩
  | backoff draw _ ih => exact ih counts
  | exchange request _ _ => rfl

/-- The discipline goes on behind every outcome of the next round trip. -/
theorem of_advance {owes : Bool} {call : Call (Except CallError α)} (h : Reports owes call)
    {request : Request} {next : Outcome → Call (Except CallError α)}
    (waits : call.advance.2 = .exchange request next) (outcome : Outcome) :
    Reports (isTimeout outcome) (next outcome) := by
  induction h with
  | ok a => cases waits
  | failed h => cases waits
  | gaveUp h => cases waits
  | timedOut _ ih => exact ih waits
  | backoff draw _ ih => exact ih waits
  | exchange request rest _ =>
    cases waits
    exact rest outcome

end Reports

/-! ## Attempts -/

theorem reports_pause {policy : RetryPolicy} {attempt : UInt32}
    {next : Call (Except CallError α)} (h : Reports false next) :
    Reports false (pause policy attempt next) := by
  unfold pause
  split
  · exact .backoff _ h
  · exact h

theorem reports_attempts (policy : RetryPolicy) (request : Request) (index operation : String)
    (attempt : UInt32) : Reports false (attempts policy request index operation attempt) := by
  fun_induction attempts policy request index operation attempt with
  | case1 attempt ih =>
    refine .exchange request fun outcome => ?_
    cases outcome with
    | ok response => exact .ok response
    | error failure =>
      cases failure with
      | timeout elapsed text =>
        refine .timedOut (reports_pause ?_)
        split
        · exact ih ‹_›
        · exact .gaveUp rfl
      | raised response => exact .ok response
      | connection text | invalidUrl text | setup text | other text => exact .failed rfl

theorem reports_send (policy : RetryPolicy) (request : Request) (index operation : String) :
    Reports false (send policy request index operation).run :=
  reports_attempts policy request index operation 0

end Call

end EngineClient
