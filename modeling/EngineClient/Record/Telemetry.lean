import EngineClient.Record.Codec

/-!
# Telemetry records

Records live in indexes named by their kind: `metrics-…` for measurements, `raw-…` for documents
kept as they are, `clients-…` for client records. A record is a JSON value.
-/

namespace EngineClient.Telemetry

/-! ## Kinds -/

/-- The kinds of telemetry records. -/
inductive Kind where
  | metric
  /-- A document kept as it is. -/
  | raw
  /-- A client with its fetch style. -/
  | client
  deriving DecidableEq

/-- All kinds. -/
def Kind.all : List Kind := [.metric, .raw, .client]

/-- The name of a kind. -/
def Kind.name : Kind → String
  | .metric => "Metric"
  | .raw => "Raw"
  | .client => "Client"

/-- What the names of a kind's indexes start with. -/
def Kind.indexStem : Kind → String
  | .metric => "metrics-"
  | .raw => "raw-"
  | .client => "clients-"

/-- Kinds told apart by the start of the index name. -/
def kinds : KindScheme Kind :=
  ⟨fun descriptor => Kind.all.find? fun kind => kind.indexStem.toList.isPrefixOf descriptor.toList,
    Kind.name⟩

/-! ## Measurements -/

/-- A measurement. -/
structure Metric where
  /-- The id, empty if there is none. -/
  id : String
  /-- What is measured. -/
  name : String
  /-- The measured value. -/
  value : Binary64
  /-- The fetch style with which it was read. -/
  style : Option FetchStyle

/-- A measurement some of whose fields are still unread. -/
structure Metric.Partial where
  id : Option String
  name : Option String
  value : Option Binary64
  /-- The fetch style, if read and not `null`. -/
  style : Option FetchStyle

/-- Reads one field; a key that is not a field is passed over. -/
def Metric.Partial.read (metric : Metric.Partial) (key : String) (value : Json) :
    Except Json.DecodeError Metric.Partial :=
  if key = "id" then do
    return { metric with id := some (← Json.decodeString value) }
  else if key = "name" then do
    return { metric with name := some (← Json.decodeString value) }
  else if key = "value" then do
    return { metric with value := some (← Json.decodeFloat value) }
  else if key = fetchStyleKey then do
    return { metric with style := ← Json.decodeOption FetchStyle.decode value }
  else return metric

/-- Reads a measurement; name and value are required. -/
def Metric.ofFields (fields : Json.Fields) : Except Json.DecodeError Metric := do
  let found ← fields.foldlM (fun metric field => metric.read field.1 field.2)
    (⟨none, none, none, none⟩ : Metric.Partial)
  match found.name, found.value with
  | none, _ => .error (.missingField "name")
  | some _, none => .error (.missingField "value")
  | some name, some value => return ⟨found.id.getD "", name, value, found.style⟩

/-- The name of a fetch style, or `null`. -/
def styleJson : Option FetchStyle → Json
  | some style => style.toJson
  | none => .null

/-! ## Decoders -/

/-- The decoder of each kind. -/
def decoder : Kind → KindDecoder Json
  | .metric => fun document => do
    let metric ← (Metric.ofFields document.fields).mapError ConversionError.json
    return .ofFields
      [("kind", .string "Metric"), ("id", .string metric.id), ("name", .string metric.name),
        ("value", .number (.float metric.value)), ("fetch_style", styleJson metric.style)]
  | .raw => fun document => return document.toJson
  | .client => fun document => do
    let style ← document.fetchStyle
    return .ofFields
      [("kind", .string "Client"), ("style", style.toJson),
        ("fields", (document.erase fetchStyleKey).toJson)]

/-- The codec with decoders for some of the kinds. -/
def codec (idKey : String) (decoded : List Kind) (encode : Json → Except ConversionError Json) :
    KindCodec Kind Json :=
  decoded.foldl (fun codec kind => codec.register kind (decoder kind)) ⟨idKey, kinds, encode, []⟩

end EngineClient.Telemetry
