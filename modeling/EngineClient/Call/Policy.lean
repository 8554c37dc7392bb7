import EngineClient.Duration

/-!
# Retry policy and backoff

A policy says how many attempts may follow a first one that timed out and how long to wait before
them. Waits are jittered: a sample in `[0, 1]` picks a delay of at least half the base wait, and a
base wait that is not zero is never reached. Attempts are numbered from zero and counted in 32 bits.
-/

namespace EngineClient

/-- How often, and how far apart, attempts follow one that timed out. -/
structure RetryPolicy where
  /-- The greatest number of further attempts. -/
  maxAttempts : UInt32
  /-- The wait that delays stay below. -/
  baseWait : Duration
  deriving DecidableEq

namespace RetryPolicy

/-- Three further attempts, two and a half seconds apart at most. -/
def standard : RetryPolicy :=
  ⟨3, Duration.ofMilliseconds 2500⟩

/-- Whether another attempt may follow this one. -/
def repeatsAfter (policy : RetryPolicy) (attempt : UInt32) : Bool :=
  attempt < policy.maxAttempts

/-- Whether a wait follows this attempt: none follows the last two that the policy allows. The
successor of the greatest attempt number is that number itself. -/
def waitsAfter (policy : RetryPolicy) (attempt : UInt32) : Bool :=
  min (attempt.toNat + 1) (UInt32.size - 1) < policy.maxAttempts.toNat

end RetryPolicy

/-! ## Jitter -/

namespace Backoff

/-- One half. -/
def half : Binary64 := ⟨false, 1 <<< 52, -53⟩

/-- One. -/
def one : Binary64 := ⟨false, 1 <<< 52, -52⟩

/-- Two. -/
def two : Binary64 := ⟨false, 1 <<< 52, -51⟩

/-- A sample brought into `[0, 1]`; what is not a number stays out of it. -/
def clamp : Binary64.Word → Option Binary64
  | .notANumber => none
  | .infinite true => some (Binary64.zero false)
  | .infinite false => some one
  | .finite x =>
    if x.value < 0 then some (Binary64.zero false)
    else if 1 < x.value then some one
    else some x

/-- The share of the base wait that a sample stands for: one half and half the sample. -/
def factor? (sample : Binary64) : Option Binary64 := do
  half.add? (← sample.div? two)

/-- The delay drawn by a sample. The product may round up to the base wait, which is then missed by
a nanosecond. There is no delay for a sample that is not a number or a wait too long to scale. -/
def delay? (base : Duration) (sample : Binary64.Word) : Option Duration := do
  let delay ← base.scale? (← factor? (← clamp sample))
  if base ≠ Duration.zero ∧ base.nanoseconds ≤ delay.nanoseconds then
    some ⟨base.nanoseconds - 1⟩
  else
    some delay

end Backoff

/-- The delay behind an attempt, drawn by a sample. -/
def RetryPolicy.backoffDelay? (policy : RetryPolicy) (sample : Binary64.Word) : Option Duration :=
  Backoff.delay? policy.baseWait sample

end EngineClient
