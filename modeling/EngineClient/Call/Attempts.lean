import EngineClient.Call.Basic
import EngineClient.Call.Policy

/-!
# Attempts

`Call.send` performs one request, and repeats it unchanged while round trips time out and the
policy allows. A response that was raised as a failure is a response like any other. Every
other failure ends the call.
-/

namespace EngineClient.Call

/-- A further attempt has a number that is greater by one: the counter does not wrap. -/
theorem toNat_succ_of_repeatsAfter {policy : RetryPolicy} {attempt : UInt32}
    (h : policy.repeatsAfter attempt = true) : (attempt + 1).toNat = attempt.toNat + 1 := by
  have lt : attempt.toNat < policy.maxAttempts.toNat := by
    simpa [RetryPolicy.repeatsAfter, UInt32.lt_iff_toNat_lt] using h
  have bound := policy.maxAttempts.toNat_lt
  rw [UInt32.toNat_add, UInt32.toNat_one]
  omega

/-- Sleeps for a delay of the policy if a wait follows the attempt, and goes on. -/
def pause {α : Type} (policy : RetryPolicy) (attempt : UInt32) (next : Call α) : Call α :=
  if policy.waitsAfter attempt then .report (.backoff policy.backoffDelay?) next else next

/-- The attempts from number `attempt` on. -/
def attempts (policy : RetryPolicy) (request : Request) (index operation : String)
    (attempt : UInt32) : Call (Except CallError Response) :=
  .exchange request fun outcome =>
    match outcome with
    | .ok response => .done (.ok response)
    | .error (.raised response) => .done (.ok response)
    | .error (.timeout _ _) =>
      .report .timedOut <| pause policy attempt <|
        if policy.repeatsAfter attempt then
          attempts policy request index operation (attempt + 1)
        else
          .report .gaveUp (.done (.error (.gaveUp operation index (attempt + 1))))
    | .error failure => .done (.error (.roundTrip operation failure))
termination_by policy.maxAttempts.toNat - attempt.toNat
decreasing_by
  rename_i h
  have lt : attempt.toNat < policy.maxAttempts.toNat := by
    simpa [RetryPolicy.repeatsAfter, UInt32.lt_iff_toNat_lt] using h
  rw [toNat_succ_of_repeatsAfter h]
  omega

/-- Performs a request; `index` and `operation` name it in failures. -/
def send (policy : RetryPolicy) (request : Request) (index operation : String) :
    Operation Response :=
  ExceptT.mk (attempts policy request index operation 0)

end EngineClient.Call
