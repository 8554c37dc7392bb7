import EngineClient.Duration

/-!
# Options of a cluster

Where the nodes of an engine are, and how to talk to them.
-/

namespace EngineClient

/-- How to reach the nodes of an engine. -/
structure ClusterOptions where
  nodes : List String
  username : Option String
  password : Option String
  /-- How long connecting may take. -/
  connectTimeout : Duration
  /-- How long a round trip may take. -/
  requestTimeout : Duration
  /-- How the client names itself. -/
  userAgent : String
  deriving DecidableEq

namespace ClusterOptions

/-- The node assumed when none is given. -/
def standardNode : String := "http://localhost:9200"

/-- How the client names itself unless told otherwise. -/
def standardUserAgent : String := "datastore-transport/0.1.0"

/-- The options for some nodes. -/
def ofNodes (nodes : List String) : ClusterOptions :=
  ⟨nodes, none, none, .ofParts 10 0, .ofParts 30 0, standardUserAgent⟩

/-- The options for one node. -/
def single (node : String) : ClusterOptions :=
  ofNodes [node]

/-- The options for a node on the local machine. -/
def standard : ClusterOptions :=
  single standardNode

/-- Sets user name and password. -/
def withCredentials (options : ClusterOptions) (username password : String) : ClusterOptions :=
  { options with username := some username, password := some password }

end ClusterOptions

end EngineClient
