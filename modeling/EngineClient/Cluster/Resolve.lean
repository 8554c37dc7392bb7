import EngineClient.RoundTrip.Error
import EngineClient.RoundTrip.Request
import EngineClient.Url.Extend

/-!
# Resolving requests

The URL of a request on a node: the segments go behind the node's path, the parameters behind its
query. A node whose path has no root cannot be resolved against.
-/

namespace EngineClient.Request

/-- The URL of a request on a node. -/
def resolve (request : Request) (node : Url) : Except RoundTripError Url :=
  match node.withSegments? request.segments with
  | some url => .ok (url.withPairs request.query)
  | none => .error (.invalidUrl node.text)

end EngineClient.Request
