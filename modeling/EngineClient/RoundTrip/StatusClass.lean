import EngineClient.RoundTrip.Response

/-!
# Classes of statuses

Operations decide by the class of a status whether they accept a response.
-/

namespace EngineClient

/-- The class of a status. -/
inductive StatusClass where
  /-- Any status from 200 to 299. -/
  | success
  /-- The status 400. -/
  | badRequest
  /-- The status 404. -/
  | notFound
  /-- Any other status, or none. -/
  | other
  deriving DecidableEq

namespace StatusClass

/-- The class of a status, which may be missing. -/
def ofStatus : Option Int → StatusClass
  | some status =>
    if 200 ≤ status ∧ status ≤ 299 then .success
    else if status = 400 then .badRequest
    else if status = 404 then .notFound
    else .other
  | none => .other

/-- The class of a response. -/
def of (response : Response) : StatusClass :=
  ofStatus (response.status.map fun status => (status.toNat : Int))

/-- Whether a class is accepted by an operation that tolerates some classes; success always is. -/
def isAccepted (cls : StatusClass) (tolerated : List StatusClass) : Bool :=
  cls = .success || tolerated.contains cls

end StatusClass

end EngineClient
