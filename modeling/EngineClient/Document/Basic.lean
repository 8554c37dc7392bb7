import EngineClient.Document.FetchStyle

/-!
# Documents

A document is a flat map of fields, the form in which records are exchanged with the engine. While
a query result is turned into records, three synthetic keys are set in each document: the type
descriptor, the id under a key of the codec's choice, and the fetch style.
-/

namespace EngineClient

/-! ## Errors -/

/-- Why a record and a document could not be converted into one another. -/
inductive ConversionError where
  /-- A synthetic key is absent. -/
  | missingKey (key : String)
  /-- The type descriptor names no kind of record. -/
  | unknownType (descriptor : String)
  /-- A kind of record has no decoder. -/
  | noDecoder (kind : String)
  /-- A record that is not a map of fields. -/
  | notAnObject
  /-- A field could not be converted. -/
  | json (error : Json.DecodeError)
  /-- A query could not be converted. -/
  | query (text : String)

namespace ConversionError

/-- The text of an error. -/
def message : ConversionError → String
  | .missingKey key => s!"Document is missing required key '{key}'"
  | .unknownType descriptor => s!"Unknown type descriptor '{descriptor}'"
  | .noDecoder kind => s!"No decoder registered for {kind}"
  | .notAnObject => "Record did not marshal to an object"
  | .json error => s!"JSON error: {error.message}"
  | .query text => s!"Query conversion failed: {text}"

end ConversionError

/-! ## Documents -/

/-- The key of the type descriptor. -/
def typeDescriptorKey : String := "type_descriptor"

/-- The key of the fetch style. -/
def fetchStyleKey : String := "query_fetch_style"

/-- A map of fields. -/
structure Document where
  /-- The fields in ascending order of their keys. -/
  fields : Json.Fields

namespace Document

/-- The document without fields. -/
def empty : Document := ⟨[]⟩

/-- The document whose fields are those of an object. -/
def ofJson : Json → Except ConversionError Document
  | .object fields => .ok ⟨fields⟩
  | _ => .error .notAnObject

/-- The document as an object. -/
def toJson (document : Document) : Json :=
  .object document.fields

theorem ofJson_toJson (document : Document) : ofJson document.toJson = .ok document := rfl

/-- The value of a key. -/
def get? (document : Document) (key : String) : Option Json :=
  document.fields.get? key

/-- Whether a key has a value. -/
def contains (document : Document) (key : String) : Bool :=
  (document.get? key).isSome

/-- Sets the value of a key. -/
def insert (document : Document) (key : String) (value : Json) : Document :=
  ⟨document.fields.insert key value⟩

/-- Drops a key. -/
def erase (document : Document) (key : String) : Document :=
  ⟨document.fields.erase key⟩

/-- The number of fields. -/
def size (document : Document) : Nat :=
  document.fields.length

/-- Whether there are no fields. -/
def isEmpty (document : Document) : Bool :=
  document.fields.isEmpty

/-! ## Synthetic keys -/

/-- Sets the three synthetic keys, in this order, so that of equal keys the later counts. -/
def withSyntheticKeys (document : Document) (descriptor idKey id : String) (style : FetchStyle) :
    Document :=
  ((document.insert typeDescriptorKey (.string descriptor)).insert idKey (.string id)).insert
    fetchStyleKey style.toJson

/-- The type descriptor, if it is a text. -/
def typeDescriptor? (document : Document) : Option String :=
  (document.get? typeDescriptorKey).bind Json.asString?

/-- The fetch style. -/
def fetchStyle (document : Document) : Except ConversionError FetchStyle :=
  match document.get? fetchStyleKey with
  | none => .error (.missingKey fetchStyleKey)
  | some value => (FetchStyle.decode value).mapError .json

end Document

end EngineClient
