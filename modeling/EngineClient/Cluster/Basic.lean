import EngineClient.Call.Basic
import EngineClient.Cluster.Options
import EngineClient.Cluster.Resolve
import EngineClient.Text.Base64
import EngineClient.Text.Quoted
import EngineClient.Url.Reader

/-!
# Clusters

A cluster is an engine of one or more nodes that are asked in turn. `Cluster.ofOptions` checks the
options. `Cluster.exchange` takes the next node, resolves a request against it, hands the wire
request to a network and says what the network's answer means. The network is a parameter: whatever
it answers, a round trip takes one node.
-/

namespace EngineClient

/-! ## The wire -/

/-- A request as it goes over the wire. -/
structure WireRequest where
  method : Method
  /-- The URL, without credentials. -/
  url : Url
  headers : List (String × String)
  /-- The body, empty if there is none. -/
  body : Bytes

/-- What came back over the wire. -/
inductive WireAnswer where
  /-- Nothing in time. -/
  | timedOut (elapsed : Duration) (text : String)
  /-- No connection. -/
  | refused (text : String)
  /-- A connection that broke off. -/
  | broken (text : String)
  | answered (response : Response)

/-- What an answer means for a round trip: a response is handed on whatever its status. -/
def WireAnswer.outcome : WireAnswer → Outcome
  | .timedOut elapsed text => .error (.timeout elapsed text)
  | .refused text => .error (.connection text)
  | .broken text => .error (.other text)
  | .answered response => .ok response

/-! ## Clusters -/

/-- The nodes of an engine, at least one. -/
structure Cluster where
  options : ClusterOptions
  nodes : List Url
  /-- There is a node to talk to. -/
  nodes_ne_nil : nodes ≠ []

namespace Cluster

/-- Whether a text may be the value of a header: it has no control character but the tab. -/
def isHeaderValue (s : String) : Bool :=
  s.toList.all fun c => c = '\t' || (0x20 ≤ c.toNat && c.toNat ≠ 0x7F)

/-- Reads the URL of a node. -/
def readNode (node : String) : Except RoundTripError Url :=
  (Url.parse node).mapError fun error => .invalidUrl error.message

/-- The cluster of some options, if there are nodes, all of them are URLs, and the name of the
client can be sent. -/
def ofOptions (options : ClusterOptions) : Except RoundTripError Cluster :=
  match options.nodes.mapM readNode with
  | .error error => .error error
  | .ok [] => .error (.setup "No nodes provided")
  | .ok (node :: nodes) =>
    if isHeaderValue options.userAgent then .ok ⟨options, node :: nodes, by simp⟩
    else .error (.setup "builder error")

/-! ## Taking turns -/

theorem nodes_length_pos (cluster : Cluster) : 0 < cluster.nodes.length :=
  List.length_pos_iff.2 cluster.nodes_ne_nil

/-- The position of the node that has the turn of this number. -/
def nodeIndex (cluster : Cluster) (turn : UInt64) : Fin cluster.nodes.length :=
  ⟨turn.toNat % cluster.nodes.length, Nat.mod_lt _ cluster.nodes_length_pos⟩

/-- The node that has the turn of this number. -/
def node (cluster : Cluster) (turn : UInt64) : Url :=
  cluster.nodes[cluster.nodeIndex turn]

/-! ## Wire requests -/

/-- The header for basic authentication. -/
def authorization (username password : String) : String × String :=
  ("authorization",
    "Basic " ++ String.ofList (Base64.encode (Utf8.encode (username ++ ":" ++ password))))

/-- A part of a URL as it was before it was encoded, if that is text. -/
def decoded? (part : String) : Option String :=
  (Utf8.decode (Percent.decode part.toList)).toOption

/-- The user name and the password in a URL. There are none if the user name is not text; a
password that is not text counts as absent. -/
def credentials? (url : Url) : Option (String × Option String) := do
  let server ← url.authority
  let username ← decoded? server.username
  let password := server.password.bind decoded?
  if username.isEmpty ∧ password.isNone then none else some (username, password)

/-- The headers for the credentials in a URL and those of the options, in this order. -/
def credentialHeaders (options : ClusterOptions) (url : Url) : List (String × String) :=
  let inOptions := options.username.map fun username => (username, options.password)
  ((credentials? url).toList ++ inOptions.toList).map fun (username, password) =>
    authorization username (password.getD "")

/-- The headers of a request. -/
def headers (options : ClusterOptions) (url : Url) (request : Request) : List (String × String) :=
  let contentType := request.body.toList.map fun body => ("content-type", body.contentType)
  ("user-agent", options.userAgent) :: credentialHeaders options url ++ contentType

/-- A URL without the user name and the password that are sent in a header. -/
def withoutCredentials (url : Url) : Url :=
  if (credentials? url).isSome then
    let bare (server : Url.Authority) := { server with username := "", password := none }
    { url with authority := url.authority.map bare }
  else url

/-- The longest URL that can be sent. -/
def maxUrlLength : Nat := 65534

/-- The characters of hosts that cannot be sent. -/
def isUnsendable (c : Char) : Bool :=
  ['"', '\x60', '\x7b', '\x7d'].contains c

/-- Whether a URL can be sent to. -/
def isSendable (url : Url) : Bool :=
  (url.scheme = "http" || url.scheme = "https") && url.chars.length ≤ maxUrlLength
    && !url.authority.any fun server => server.host.chars.any isUnsendable

/-- The wire request of a request to a node. -/
def wireRequest (options : ClusterOptions) (node : Url) (request : Request) :
    Except RoundTripError WireRequest := do
  let resolved ← request.resolve node
  let url := withoutCredentials resolved
  if isSendable url then
    let body := request.body.elim [] fun body => Utf8.encode body.text
    return ⟨request.method, url, headers options resolved request, body⟩
  else
    throw (.setup s!"builder error for url ({url.text})")

/-! ## Round trips -/

/-- Performs a round trip over a network with state `σ`. Beside that state stands the number of
turns taken. -/
def exchange {σ : Type} (cluster : Cluster) (network : WireRequest → σ → WireAnswer × σ) :
    Call.Transport (UInt64 × σ) := fun request (turn, state) =>
  match wireRequest cluster.options (cluster.node turn) request with
  | .error error => (.error error, turn + 1, state)
  | .ok wire =>
    let (answer, state) := network wire state
    (answer.outcome, turn + 1, state)

/-- The cluster shown by its nodes. -/
def inspect (cluster : Cluster) : String :=
  let nodes := ", ".intercalate (cluster.options.nodes.map Text.quoted)
  "HttpTransport \x7b nodes: [" ++ nodes ++ "] \x7d"

end Cluster

end EngineClient
