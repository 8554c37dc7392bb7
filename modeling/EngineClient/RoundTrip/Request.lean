/-!
# Requests

One logical request against the engine. The path is kept as raw segments; they are encoded when the
request is resolved against a node.
-/

namespace EngineClient

/-- A request method. -/
inductive Method where
  | get
  | post
  | put
  | delete
  /-- Ask for the status alone. -/
  | head
  /-- Any other method, by name. -/
  | other (name : String)
  deriving DecidableEq

namespace Method

/-- The name sent on the wire. -/
def name : Method → String
  | .get => "GET"
  | .post => "POST"
  | .put => "PUT"
  | .delete => "DELETE"
  | .head => "HEAD"
  | .other name => name

/-- The method with a name; names are case-sensitive. -/
def ofName (name : String) : Method :=
  ([.get, .post, .put, .delete, .head].find? fun method => method.name = name).getD (.other name)

end Method

/-- What a request carries. -/
inductive RequestBody where
  /-- One JSON text. -/
  | json (text : String)
  /-- JSON texts, each ended by a line feed. -/
  | ndjson (text : String)
  deriving DecidableEq

namespace RequestBody

/-- The media type. -/
def contentType : RequestBody → String
  | .json _ => "application/json"
  | .ndjson _ => "application/x-ndjson"

/-- The text carried. -/
def text : RequestBody → String
  | .json text => text
  | .ndjson text => text

end RequestBody

/-- A request against the engine. -/
structure Request where
  method : Method
  /-- The path segments as they are, not encoded. -/
  segments : List String
  /-- The query parameters in order. -/
  query : List (String × String)
  /-- What is carried, if anything. -/
  body : Option RequestBody
  deriving DecidableEq

namespace Request

/-- A request without query and body. -/
def bare (method : Method) (segments : List String) : Request :=
  ⟨method, segments, [], none⟩

/-- Adds a query parameter. -/
def withParameter (request : Request) (key value : String) : Request :=
  { request with query := request.query ++ [(key, value)] }

/-- Carries a JSON text, in place of an earlier body. -/
def withJson (request : Request) (text : String) : Request :=
  { request with body := some (.json text) }

/-- Carries JSON lines, in place of an earlier body. -/
def withNdjson (request : Request) (text : String) : Request :=
  { request with body := some (.ndjson text) }

/-- The raw path, for people. -/
def path (request : Request) : String :=
  "/" ++ "/".intercalate request.segments

end Request

end EngineClient
