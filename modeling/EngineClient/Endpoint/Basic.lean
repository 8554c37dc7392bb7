import EngineClient.Call.Attempts
import EngineClient.RoundTrip.StatusClass

/-!
# Endpoints

An endpoint is one thing the engine can be asked for: the request to send, how the call is named in
failures, and what each class of answer means. An answer of the class success is read. Any other
class is either tolerated, and then stands for a result of its own whatever the body holds, or it
is a failure. `Endpoint.conclude` is that rule, and `Endpoint.call` puts it behind the attempts of
the retry policy.
-/

namespace EngineClient

/-- One thing the engine can be asked for, with an answer of type `α`. -/
structure Endpoint (α : Type) where
  /-- What the call is named in failures to get an answer. -/
  operation : String
  /-- What the call is named in failures told by the engine. -/
  action : String
  /-- The index that the call is about. -/
  index : String
  request : Request
  /-- The classes accepted besides success, with the results they stand for. -/
  tolerated : List (StatusClass × α) := []
  /-- The result of a response of the class success. -/
  read : Response → Except CallError α

namespace Endpoint

variable {α : Type}

/-! ## Answers -/

/-- What a response means. -/
def conclude (endpoint : Endpoint α) (response : Response) : Except CallError α :=
  match StatusClass.of response with
  | .success => endpoint.read response
  | cls =>
    match endpoint.tolerated.lookup cls with
    | some result => .ok result
    | none => .error (.ofResponse endpoint.action response)

/-- Asks the engine. -/
def call (endpoint : Endpoint α) (policy : RetryPolicy) : Operation α := do
  let response ← Call.send policy endpoint.request endpoint.index endpoint.operation
  Operation.ofExcept (endpoint.conclude response)

/-! ## Reading bodies -/

/-- Takes any body. -/
def ignoreBody (result : α) (_ : Response) : Except CallError α :=
  .ok result

/-- Reads a body as JSON and goes on with it. -/
def readJson (next : Json → Except CallError α) (response : Response) :
    Except CallError α := do
  next (← response.json.mapError .unreadable)

/-- A text that a body must have. -/
def requiredText (body : Json) (key : String) : Except CallError String :=
  match (body.get? key).bind Json.asString? with
  | some text => .ok text
  | none => .error (.unexpected s!"Response has no '{key}'")

end Endpoint

end EngineClient
