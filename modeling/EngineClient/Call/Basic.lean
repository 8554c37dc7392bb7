import EngineClient.Call.Error
import EngineClient.RoundTrip.Request

/-!
# Calls

A `Call` is a client call as a value: it is done, or it reports an event and goes on, or it sends a
request and goes on with the outcome of the round trip. A call sends nothing itself; `Call.run`
plays it against a transport and keeps a trace. Because a call depends on nothing but the outcomes
it is given, calls that run side by side can be interleaved round trip by round trip.

`Operation` is a call that may fail with a `CallError`.
-/

namespace EngineClient

/-- What a call reports while it runs. -/
inductive Event where
  | timedOut
  /-- The call gave up after its last attempt. -/
  | gaveUp
  /-- The call takes a random sample and sleeps for the delay that it draws, if it draws one. -/
  | backoff (draw : Binary64.Word → Option Duration)

/-- A client call with a result of type `α`. -/
inductive Call (α : Type) where
  | done (result : α)
  /-- The call reports an event and goes on. -/
  | report (event : Event) (next : Call α)
  /-- The call performs a round trip and goes on with its outcome. -/
  | exchange (request : Request) (next : Outcome → Call α)

namespace Call

variable {α β σ : Type}

/-! ## Sequencing -/

/-- Goes on with another call. -/
def bind (f : α → Call β) : Call α → Call β
  | done result => f result
  | report event next => report event (bind f next)
  | exchange request next => exchange request fun outcome => bind f (next outcome)

instance : Monad Call where
  pure := done
  bind call f := call.bind f

/-! ## Running -/

/-- A transport with state `σ`: it answers a request and moves on. -/
abbrev Transport (σ : Type) := Request → σ → Outcome × σ

/-- What happened while a call ran. -/
inductive Step where
  | exchanged (request : Request) (outcome : Outcome)
  | reported (event : Event)

/-- A call that has run. -/
structure Run (α σ : Type) where
  result : α
  /-- What happened, in order. -/
  trace : List Step
  /-- The state of the transport afterwards. -/
  state : σ

/-- Puts a step in front of a run. -/
def Run.after (step : Step) (run : Run α σ) : Run α σ :=
  { run with trace := step :: run.trace }

/-- Runs a call against a transport. -/
def run (perform : Transport σ) : Call α → σ → Run α σ
  | done result, state => ⟨result, [], state⟩
  | report event next, state => (next.run perform state).after (.reported event)
  | exchange request next, state =>
    let (outcome, state) := perform request state
    ((next outcome).run perform state).after (.exchanged request outcome)

/-- The requests of a trace, in order. -/
def requestsOf (trace : List Step) : List Request :=
  trace.filterMap fun
    | .exchanged request _ => some request
    | .reported _ => none

/-- The delays that a call sleeps for, in order, if a generator with state `σ` makes its samples.
There are none if one of them cannot be drawn. -/
def slept? (random : σ → Binary64.Word × σ) : List Step → σ → Option (List Duration)
  | [], _ => some []
  | .reported (.backoff draw) :: trace, state => do
    let (sample, state) := random state
    let delay ← draw sample
    let delays ← slept? random trace state
    return delay :: delays
  | _ :: trace, state => slept? random trace state

end Call

/-- A call that may fail. -/
abbrev Operation (α : Type) := ExceptT CallError Call α

/-- A step of an operation that needs no round trip. -/
def Operation.ofExcept {α : Type} (result : Except CallError α) : Operation α :=
  ExceptT.mk (Call.done result)

end EngineClient
