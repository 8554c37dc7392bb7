import EngineClient.Call.Error
import EngineClient.Call.Policy
import EngineClient.Text.Blank
import EngineClient.Cluster.Options

/-!
# Client configuration

Times are whole milliseconds, so that a configuration has the same shape in every source.
-/

namespace EngineClient

/-- What a client needs to know. -/
structure Configuration where
  /-- The URLs of the engine's nodes. -/
  nodes : List String
  /-- The user name for basic authentication. -/
  username : Option String
  /-- The password for basic authentication. -/
  password : Option String
  /-- How long connecting may take, in milliseconds. -/
  connectTimeout : UInt64
  /-- How long a round trip may take, in milliseconds. -/
  requestTimeout : UInt64
  /-- How many attempts may follow one that timed out. -/
  retryMax : UInt32
  /-- The base wait between attempts, in milliseconds. -/
  retryWait : UInt64
  /-- Whether the status 400 means that a delete by query deleted nothing. -/
  toleratesBadRequest : Bool
  deriving DecidableEq

namespace Configuration

/-! ## Making configurations -/

/-- The configuration assumed where nothing is said. -/
def standard : Configuration where
  nodes := [ClusterOptions.standardNode]
  username := none
  password := none
  connectTimeout := 10000
  requestTimeout := 30000
  retryMax := 3
  retryWait := 2500
  toleratesBadRequest := true

/-- The configuration for one node. -/
def single (node : String) : Configuration :=
  { standard with nodes := [node] }

/-- Sets user name and password. -/
def withCredentials (config : Configuration) (username password : String) : Configuration :=
  { config with username := some username, password := some password }

/-- Sets how long a round trip may take. -/
def withRequestTimeout (config : Configuration) (timeout : Duration) : Configuration :=
  { config with requestTimeout := timeout.milliseconds }

/-- Sets how long connecting may take. -/
def withConnectTimeout (config : Configuration) (timeout : Duration) : Configuration :=
  { config with connectTimeout := timeout.milliseconds }

/-- Sets how often and how far apart attempts are repeated. -/
def withRetry (config : Configuration) (maxAttempts : UInt32) (baseWait : Duration) :
    Configuration :=
  { config with retryMax := maxAttempts, retryWait := baseWait.milliseconds }

/-- Sets what the status 400 means for a delete by query. -/
def withTolerance (config : Configuration) (tolerate : Bool) : Configuration :=
  { config with toleratesBadRequest := tolerate }

/-! ## What it configures -/

/-- The options of the cluster; credentials count only if both are there. -/
def clusterOptions (config : Configuration) : ClusterOptions :=
  let options :=
    { ClusterOptions.ofNodes config.nodes with
      connectTimeout := .ofMilliseconds config.connectTimeout.toNat
      requestTimeout := .ofMilliseconds config.requestTimeout.toNat }
  match config.username, config.password with
  | some username, some password => options.withCredentials username password
  | _, _ => options

/-- The retry policy. -/
def retryPolicy (config : Configuration) : RetryPolicy :=
  ⟨config.retryMax, .ofMilliseconds config.retryWait.toNat⟩

/-! ## Validity -/

/-- Refuses a configuration that no client can start with. -/
def validate (config : Configuration) : Except CallError Unit :=
  if config.nodes.isEmpty then .error (.setup "at least one engine node is required")
  else if config.nodes.any Text.isBlankText then .error (.setup "engine node URL is blank")
  else if config.requestTimeout = 0 then
    .error (.setup "request timeout must be positive")
  else if config.username.isSome ≠ config.password.isSome then
    .error (.setup "username and password must be set together")
  else .ok ()

/-- The configuration, if it is valid. -/
def validated (config : Configuration) : Except CallError Configuration := do
  config.validate
  return config

end Configuration

end EngineClient
