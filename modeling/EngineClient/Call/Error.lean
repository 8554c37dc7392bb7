import EngineClient.Document.Basic
import EngineClient.RoundTrip.Error

/-!
# Failures of a call
-/

namespace EngineClient

/-- Why a call of the client failed. -/
inductive CallError where
  /-- The client could not be set up. -/
  | setup (text : String)
  /-- Every attempt timed out. -/
  | gaveUp (operation index : String) (attempts : UInt32)
  /-- A round trip failed in another way than by a timeout. -/
  | roundTrip (operation : String) (source : RoundTripError)
  /-- The engine answered with a status that the operation does not accept. -/
  | refused (action reason status : String)
  /-- A body that is not JSON. -/
  | unreadable (cause : Json.ReadError)
  /-- A body without what belongs there. -/
  | unexpected (text : String)
  /-- A record or a query that could not be converted. -/
  | conversion (cause : ConversionError)
  /-- The engine stopped counting. -/
  | uncounted (text : String)
  /-- A total past what a result can count. -/
  | overflow (total : Nat)

namespace CallError

/-- The reason given for a status without a phrase. -/
def noReason : String := "Unknown. Cannot get the reason from Response"

/-- The failure of an action that did not accept a response. -/
def ofResponse (action : String) (response : Response) : CallError :=
  .refused action (response.reason?.getD noReason) response.statusText

/-- The text of a failure. -/
def message : CallError → String
  | .setup text => s!"Client initialization failed: {text}"
  | .gaveUp operation index attempts =>
    s!"Cannot communicate with the engine: {operation} on '{index}' "
      ++ s!"gave up after {attempts.toNat} attempts"
  | .roundTrip operation source =>
    s!"Internal client error during {operation}: {source.message}"
  | .refused action reason status => s!"{action} failed: {reason} (status {status})"
  | .unreadable _ => "Cannot read response entity"
  | .unexpected text => s!"Internal client error: {text}"
  | .conversion cause => s!"Marshalling error: {cause.message}"
  | .uncounted text => s!"Limits exceeded: {text}"
  | .overflow total => s!"Total hits exceeds integer max value: {total}"

/-- Whether the whole call may be repeated later. -/
def mayRepeat : CallError → Bool
  | .gaveUp .. => true
  | _ => false

/-- Whether the data is at fault, rather than the way to the engine or the engine. -/
def blamesData : CallError → Bool
  | .unreadable _ | .conversion _ => true
  | _ => false

end CallError

end EngineClient
