import EngineClient.Configuration.Setting
import EngineClient.Text.Utf8
import EngineClient.Toml.Reader

/-!
# Configuration files

A configuration file is a TOML document whose root table has the settings. What the file system
answers is a parameter of reading a file.
-/

namespace EngineClient

/-! ## TOML -/

namespace Toml.Value

/-- The text, if this is one. -/
def asString? : Value → Option String
  | .string s => some s
  | _ => none

/-- The number, if this is an integer from zero to below a limit. -/
def asNatural? (limit : Nat) : Value → Option Nat
  | .integer n => if 0 ≤ n ∧ n < limit then some n.toNat else none
  | _ => none

/-- The truth value, if this is one. -/
def asBool? : Value → Option Bool
  | .bool b => some b
  | _ => none

/-- The texts, if this is an array of them. -/
def asStrings? : Value → Option (List String)
  | .array items => items.mapM asString?
  | _ => none

end Toml.Value

/-- Gives a setting the value that stands for it in TOML. -/
def Setting.setToml? (setting : Setting) (value : Toml.Value) (config : Configuration) :
    Option Configuration := do
  match setting with
  | .nodes => return { config with nodes := ← value.asStrings? }
  | .username => return { config with username := some (← value.asString?) }
  | .password => return { config with password := some (← value.asString?) }
  | .connectTimeout =>
    return { config with connectTimeout := .ofNat (← value.asNatural? UInt64.size) }
  | .requestTimeout =>
    return { config with requestTimeout := .ofNat (← value.asNatural? UInt64.size) }
  | .retryMax => return { config with retryMax := .ofNat (← value.asNatural? UInt32.size) }
  | .retryWait => return { config with retryWait := .ofNat (← value.asNatural? UInt64.size) }
  | .toleratesBadRequest => return { config with toleratesBadRequest := ← value.asBool? }

namespace Configuration

/-- The configuration that a root table describes; keys that are no settings are passed over. -/
def ofTable? (fields : Toml.Fields) : Option Configuration :=
  fields.foldlM (fun config (name, value) =>
    match Setting.ofName? name with
    | some setting => setting.setToml? value config
    | none => some config) standard

/-- Reads a configuration from a TOML document. -/
def ofToml (document : String) : Except CallError Configuration :=
  match (Toml.parse document).bind ofTable? with
  | none => .error (.setup "invalid client configuration")
  | some config => config.validated

end Configuration

/-! ## Files -/

/-- Why a file could not be read. -/
inductive FileError where
  | notFound
  /-- A part of the path is a file. -/
  | notADirectory
  | isADirectory
  /-- The path, or a part of it, is too long. -/
  | nameTooLong
  /-- The path has a character that no path may have. -/
  | invalidName
  | notText
  deriving DecidableEq

/-- The text of an error. -/
def FileError.message : FileError → String
  | .notFound => "No such file or directory (os error 2)"
  | .notADirectory => "Not a directory (os error 20)"
  | .isADirectory => "Is a directory (os error 21)"
  | .nameTooLong => "File name too long (os error 36)"
  | .invalidName => "file name contained an unexpected NUL byte"
  | .notText => "stream did not contain valid UTF-8"

namespace Configuration

/-- Reads a configuration from a file, the contents of which `read` looks up by path. -/
def ofFile (read : String → Except FileError Bytes) (path : String) :
    Except CallError Configuration :=
  let contents := do
    (Utf8.decode (← read path)).mapError fun _ => FileError.notText
  match contents with
  | .ok document => ofToml document
  | .error error => .error (.setup s!"cannot read {path}: {error.message}")

end Configuration

end EngineClient
