import EngineClient.Json.Decode

/-!
# Fetch styles

How much of a stored document a query asks for. A style travels inside a document as its name, or
as an object whose only key is the name and whose only value is `null`.
-/

namespace EngineClient

/-- How a record read from a query result is shaped. -/
inductive FetchStyle where
  | fields
  /-- A selected part of the source. -/
  | sourceSelect
  | sourceFull
  deriving DecidableEq

namespace FetchStyle

/-- The whole source, unless a query says otherwise. -/
def standard : FetchStyle := .sourceFull

/-- The name of a style. -/
def name : FetchStyle → String
  | .fields => "FIELDS"
  | .sourceSelect => "SOURCE_SELECT"
  | .sourceFull => "SOURCE_FULL"

/-- All styles. -/
def all : List FetchStyle := [.fields, .sourceSelect, .sourceFull]

/-- The style with a name. -/
def ofName? (name : String) : Option FetchStyle :=
  all.find? (·.name = name)

theorem ofName?_name (style : FetchStyle) : ofName? style.name = some style := by
  cases style <;> decide

/-- The style with a name, or an error that lists the names. -/
def decodeName (name : String) : Except Json.DecodeError FetchStyle :=
  match ofName? name with
  | some style => .ok style
  | none => .error (.unknownVariant name (all.map FetchStyle.name))

/-- The style a value stands for. -/
def decode : Json → Except Json.DecodeError FetchStyle
  | .string name => decodeName name
  | .object [(name, value)] => do
    let style ← decodeName name
    match value with
    | .null => return style
    | found => .error (.wrongType found "unit")
  | .object members => .error (.wrongValue (.object members) "map with a single key")
  | found => .error (.wrongType found "string or map")

/-- A style as a value. -/
def toJson (style : FetchStyle) : Json :=
  .string style.name

theorem decode_toJson (style : FetchStyle) : decode style.toJson = .ok style := by
  simp [decode, toJson, decodeName, ofName?_name]

end FetchStyle

end EngineClient
