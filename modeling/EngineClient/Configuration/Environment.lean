import EngineClient.Configuration.Setting
import EngineClient.Text.Uppercase

/-!
# Configuration from the environment

A setting is read from the variable whose name is a stem in upper case, an underscore and the name
of the setting in upper case. Nodes are separated by commas; numbers and truth values may have white
space around them; user name and password are taken as they are.
-/

namespace EngineClient

/-! ## Reading values -/

/-- Why a text is not a number. -/
inductive NumberError where
  | empty
  | invalidDigit
  | tooLarge
  deriving DecidableEq

/-- The text of an error. -/
def NumberError.message : NumberError → String
  | .empty => "cannot parse integer from empty string"
  | .invalidDigit => "invalid digit found in string"
  | .tooLarge => "number too large to fit in target type"

/-- Reads decimal digits, of which there is at least one, onto the number `n`; the first fault
counts. -/
def readDigits (limit : Nat) (n : Nat) : List Char → Except NumberError Nat
  | [] => .ok n
  | c :: cs =>
    if c.isDigit then
      let next := n * 10 + (c.toNat - '0'.toNat)
      if next < limit then readDigits limit next cs else .error .tooLarge
    else .error .invalidDigit

/-- Reads a natural number below a limit, with or without a plus sign. -/
def readNatural (limit : Nat) : List Char → Except NumberError Nat
  | [] => .error .empty
  | ['+'] => .error .invalidDigit
  | '+' :: cs => readDigits limit 0 cs
  | cs => readDigits limit 0 cs

/-- Reads a truth value. -/
def readBool? : List Char → Option Bool
  | ['t', 'r', 'u', 'e'] => some true
  | ['f', 'a', 'l', 's', 'e'] => some false
  | _ => none

namespace Setting

/-- The name of a setting in upper case. -/
def suffix (setting : Setting) : String :=
  Text.uppercase setting.name

/-- The variable that a setting is read from. -/
def variableName (stem : String) (setting : Setting) : String :=
  Text.uppercase stem ++ "_" ++ setting.suffix

/-- The failure of a value. -/
def invalid (setting : Setting) (value reason : String) : CallError :=
  .setup s!"invalid {setting.suffix} '{value}': {reason}"

/-- Reads the value of a setting as a natural number below a limit. -/
def readNumber (setting : Setting) (limit : Nat) (value : String) : Except CallError Nat :=
  (readNatural limit (Text.trimChars value.toList)).mapError fun error =>
    setting.invalid value error.message

/-- Gives a setting the value of its variable. -/
def setText (setting : Setting) (value : String) (config : Configuration) :
    Except CallError Configuration := do
  match setting with
  | .nodes => return { config with nodes := Text.words ',' value }
  | .username => return { config with username := some value }
  | .password => return { config with password := some value }
  | .connectTimeout =>
    return { config with connectTimeout := .ofNat (← setting.readNumber UInt64.size value) }
  | .requestTimeout =>
    return { config with requestTimeout := .ofNat (← setting.readNumber UInt64.size value) }
  | .retryMax => return { config with retryMax := .ofNat (← setting.readNumber UInt32.size value) }
  | .retryWait => return { config with retryWait := .ofNat (← setting.readNumber UInt64.size value) }
  | .toleratesBadRequest =>
    match readBool? (Text.trimChars value.toList) with
    | some tolerate => return { config with toleratesBadRequest := tolerate }
    | none => throw (setting.invalid value "provided string was not `true` or `false`")

end Setting

namespace Configuration

/-- Reads a configuration from variables, over the standard one. -/
def ofLookup (stem : String) (lookup : String → Option String) :
    Except CallError Configuration := do
  let config ← Setting.all.foldlM (fun config setting =>
    match lookup (setting.variableName stem) with
    | some value => setting.setText value config
    | none => .ok config) standard
  config.validated

end Configuration

end EngineClient
