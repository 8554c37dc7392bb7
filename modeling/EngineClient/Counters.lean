import EngineClient.Call.Basic

/-!
# Counters

A client counts the round trips that timed out and the calls that gave up. A registry exposes
counters under their names; it refuses a name that it has already.
-/

namespace EngineClient

/-! ## Counting -/

/-- The counters of a client. -/
structure Counts where
  /-- Round trips that timed out. -/
  timeouts : Nat
  /-- Calls that gave up. -/
  limits : Nat
  deriving DecidableEq

namespace Counts

/-- Nothing counted. -/
def zero : Counts := ⟨0, 0⟩

/-- Counts one step of a call. -/
def count (counts : Counts) : Call.Step → Counts
  | .reported .timedOut => { counts with timeouts := counts.timeouts + 1 }
  | .reported .gaveUp => { counts with limits := counts.limits + 1 }
  | _ => counts

/-- Counts the steps of a call. -/
def countAll (counts : Counts) (trace : List Call.Step) : Counts :=
  trace.foldl count counts

end Counts

/-- Runs a call and counts its steps as they happen, so that no trace is kept. -/
def Call.tally {α σ : Type} (perform : Transport σ) : Call α → Counts → σ → α × Counts × σ
  | .done result, counts, state => (result, counts, state)
  | .report event next, counts, state =>
    next.tally perform (counts.count (.reported event)) state
  | .exchange request next, counts, state =>
    let (outcome, state) := perform request state
    (next outcome).tally perform (counts.count (.exchanged request outcome)) state

/-! ## Registry -/

/-- One of the counters. -/
inductive Counter where
  | timeouts
  | limits
  deriving DecidableEq

namespace Counter

/-- The counters in the order in which they are registered. -/
def all : List Counter := [.timeouts, .limits]

/-- The name under which a counter is exposed. -/
def name : Counter → String
  | .timeouts => "datastore_client_timeout_retry_total"
  | .limits => "datastore_client_timeout_retry_limit_reached_total"

/-- What a counter counts, in words. -/
def help : Counter → String
  | .timeouts => "Engine requests that timed out and were considered for retry"
  | .limits => "Engine requests abandoned after exhausting every retry"

/-- The value of a counter. -/
def read (counts : Counts) : Counter → Nat
  | .timeouts => counts.timeouts
  | .limits => counts.limits

end Counter

/-- The registered counters, each with the owner `ι` of the counters it belongs to. -/
structure Registry (ι : Type) where
  /-- The counters in the order of registration. -/
  entries : List (Counter × ι)

namespace Registry

variable {ι : Type}

/-- Nothing registered. -/
def empty : Registry ι := ⟨[]⟩

/-- A counter of that name is registered already. -/
structure AlreadyRegistered where
  counter : Counter

/-- Registers one counter. -/
def registerOne (owner : ι) (registry : Registry ι) (counter : Counter) :
    Except AlreadyRegistered (Registry ι) :=
  if registry.entries.any (·.1.name = counter.name) then .error ⟨counter⟩
  else .ok ⟨registry.entries ++ [(counter, owner)]⟩

/-- Registers all counters of an owner, up to the first that is refused. -/
def register (registry : Registry ι) (owner : ι) : Except AlreadyRegistered (Registry ι) :=
  Counter.all.foldlM (registerOne owner) registry

/-- Name, help and value of each registered counter, by name. -/
def gather (registry : Registry ι) (countsOf : ι → Counts) : List (String × String × Nat) :=
  let readings := registry.entries.map fun (counter, owner) =>
    (counter.name, counter.help, counter.read (countsOf owner))
  readings.mergeSort fun a b => a.1 ≤ b.1

end Registry

end EngineClient
