import EngineClient.Duration
import EngineClient.RoundTrip.Response

/-!
# Failures of a round trip

A failure is tagged once, where it arises, so that nobody has to look into it to decide whether to
try again: only after a timeout may the round trip be repeated.
-/

namespace EngineClient

/-- Why a round trip brought no response, or one that counts as a failure. -/
inductive RoundTripError where
  | timeout (elapsed : Duration) (text : String)
  /-- The engine answered, and the answer is handed on as a failure. -/
  | raised (response : Response)
  | connection (text : String)
  /-- A node or a path that makes no URL. -/
  | invalidUrl (text : String)
  /-- The request, or what sends it, could not be set up. -/
  | setup (text : String)
  | other (text : String)
  deriving DecidableEq

namespace RoundTripError

/-- The text of a failure. -/
def message : RoundTripError → String
  | .timeout elapsed text => s!"Request timed out after {elapsed.text}: {text}"
  | .raised response => s!"Engine responded with status {response.statusText}"
  | .connection text => s!"Connection error: {text}"
  | .invalidUrl text => s!"Invalid URL: {text}"
  | .setup text => s!"Failed to build transport: {text}"
  | .other text => s!"Transport failure: {text}"

/-- Whether the round trip may be repeated. -/
def isTimeout : RoundTripError → Bool
  | .timeout .. => true
  | _ => false

/-- The response inside a failure. -/
def response? : RoundTripError → Option Response
  | .raised response => some response
  | _ => none

end RoundTripError

/-- What a round trip ends with. -/
abbrev Outcome := Except RoundTripError Response

end EngineClient
