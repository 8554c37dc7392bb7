import EngineClient.Configuration.Basic
import EngineClient.Json.Decode

/-!
# Settings

The settings of a configuration by name. Every source of configurations, be it JSON, TOML or the
environment, gives values to these settings; where it says nothing the standard value stays.
-/

namespace EngineClient

/-- A setting of a client configuration. -/
inductive Setting where
  | nodes
  | username
  | password
  | connectTimeout
  | requestTimeout
  | retryMax
  | retryWait
  /-- The meaning of the status 400 for a delete by query. -/
  | toleratesBadRequest
  deriving DecidableEq

namespace Setting

/-- All settings in the order in which they are declared. -/
def all : List Setting :=
  [.nodes, .username, .password, .connectTimeout, .requestTimeout, .retryMax, .retryWait,
    .toleratesBadRequest]

/-- The name of a setting. -/
def name : Setting → String
  | .nodes => "nodes"
  | .username => "username"
  | .password => "password"
  | .connectTimeout => "connect_timeout_ms"
  | .requestTimeout => "request_timeout_ms"
  | .retryMax => "retry_attempt_max"
  | .retryWait => "retry_attempt_wait_ms"
  | .toleratesBadRequest => "delete_by_query_tolerates_bad_request"

/-- The setting with a name. -/
def ofName? (name : String) : Option Setting :=
  all.find? (·.name = name)

/-! ## JSON -/

/-- Gives a setting the value that stands for it in JSON. -/
def setJson (setting : Setting) (value : Json) (config : Configuration) :
    Except Json.DecodeError Configuration := do
  match setting with
  | .nodes => return { config with nodes := ← Json.decodeList Json.decodeString value }
  | .username => return { config with username := ← Json.decodeOption Json.decodeString value }
  | .password => return { config with password := ← Json.decodeOption Json.decodeString value }
  | .connectTimeout => return { config with connectTimeout := ← Json.decodeUInt64 value }
  | .requestTimeout => return { config with requestTimeout := ← Json.decodeUInt64 value }
  | .retryMax => return { config with retryMax := ← Json.decodeUInt32 value }
  | .retryWait => return { config with retryWait := ← Json.decodeUInt64 value }
  | .toleratesBadRequest => return { config with toleratesBadRequest := ← Json.decodeBool value }

end Setting

namespace Configuration

/-- Reads a configuration from an object of settings, others being passed over, or from an array
of values for the settings in order. It need not be valid. -/
def ofJson : Json → Except Json.DecodeError Configuration
  | .object fields =>
    fields.foldlM (fun config (name, value) =>
      match Setting.ofName? name with
      | some setting => setting.setJson value config
      | none => .ok config) standard
  | .array items => do
    let config ← (Setting.all.zip items).foldlM (fun config (setting, value) =>
      setting.setJson value config) standard
    if Setting.all.length < items.length then throw (.tooLong items.length)
    return config
  | found => .error (.wrongType found "struct ClientConfig")

end Configuration

end EngineClient
