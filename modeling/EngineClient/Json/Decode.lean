import EngineClient.Json.Printer
import EngineClient.Text.Quoted

/-!
# Taking typed data out of JSON

Each decoder accepts one kind of value and otherwise says what it found and what it expected.
Numbers are not converted between integers and floats, except that a float is also read from an
integer.
-/

namespace EngineClient.Json

/-! ## Errors -/

/-- Why a value is not the data asked for. -/
inductive DecodeError where
  /-- A value of another kind. -/
  | wrongType (found : Json) (expected : String)
  /-- A value of the right kind that is not allowed. -/
  | wrongValue (found : Json) (expected : String)
  | tooLong (length : Nat)
  | missingField (name : String)
  /-- A name that is none of those allowed. -/
  | unknownVariant (name : String) (allowed : List String)
  /-- A complaint in words of its own. -/
  | custom (text : String)

/-- How an error names what was found. -/
def describe : Json → String
  | .null => "null"
  | .bool b => s!"boolean `{b}`"
  | .number (.integer n) => "integer `" ++ String.ofList (integerChars n) ++ "`"
  | .number (.float x) => "floating point `" ++ String.ofList (x.format floatLayout) ++ "`"
  | .string s => "string " ++ Text.quoted s
  | .array _ => "sequence"
  | .object _ => "map"

/-- A name between backticks. -/
def ticked (name : String) : String :=
  "`" ++ name ++ "`"

/-- The text of an error. -/
def DecodeError.message : DecodeError → String
  | .wrongType found expected => s!"invalid type: {describe found}, expected {expected}"
  | .wrongValue found expected => s!"invalid value: {describe found}, expected {expected}"
  | .tooLong length => s!"invalid length {length}, expected fewer elements in array"
  | .missingField name => s!"missing field {ticked name}"
  | .unknownVariant name allowed =>
    s!"unknown variant {ticked name}, expected one of " ++ ", ".intercalate (allowed.map ticked)
  | .custom text => text

/-! ## Decoders -/

/-- A text. -/
def decodeString : Json → Except DecodeError String
  | .string s => .ok s
  | found => .error (.wrongType found "a string")

/-- A truth value. -/
def decodeBool : Json → Except DecodeError Bool
  | .bool b => .ok b
  | found => .error (.wrongType found "a boolean")

/-- A natural number below `limit`; `name` is what an error calls such numbers. -/
def decodeBelow (limit : Nat) (name : String) : Json → Except DecodeError Nat
  | .number (.integer n) =>
    if 0 ≤ n ∧ n < limit then .ok n.toNat else .error (.wrongValue (.int n) name)
  | found => .error (.wrongType found name)

/-- A natural number of 32 bits. -/
def decodeUInt32 (value : Json) : Except DecodeError UInt32 :=
  (decodeBelow UInt32.size "u32" value).map UInt32.ofNat

/-- A natural number of 64 bits. -/
def decodeUInt64 (value : Json) : Except DecodeError UInt64 :=
  (decodeBelow UInt64.size "u64" value).map UInt64.ofNat

/-- Any number, an integer being rounded to the nearest float. -/
def decodeFloat : Json → Except DecodeError Binary64
  | .number (.float x) => .ok x
  | .number (.integer n) =>
    match Binary64.ofInt? n with
    | some x => .ok x
    | none => .error (.wrongValue (.int n) "f64")
  | found => .error (.wrongType found "f64")

/-- A value that may be `null`. -/
def decodeOption {α : Type} (decode : Json → Except DecodeError α) :
    Json → Except DecodeError (Option α)
  | .null => .ok none
  | value => (decode value).map some

/-- A sequence of values. -/
def decodeList {α : Type} (decode : Json → Except DecodeError α) :
    Json → Except DecodeError (List α)
  | .array items => items.mapM decode
  | found => .error (.wrongType found "a sequence")

end EngineClient.Json
