import EngineClient.Document.Basic

/-!
# Records and queries

The client does not know the records it stores. A `RecordCodec` turns them into documents and back,
and a `QueryCodec` turns queries into the bodies that the engine understands.

`KindCodec` tells kinds of records apart by their type descriptor, which is the name of the index
that a document was read from, and has a decoder for each kind.
-/

namespace EngineClient

/-! ## Codecs -/

/-- How records of type `S` become documents and documents records. -/
structure RecordCodec (S : Type) where
  /-- The key that receives a document's id when it is read. -/
  idKey : String
  /-- The fields of a record, without synthetic keys. -/
  toDocument : S → Except ConversionError Document
  /-- The record of a document that has all three synthetic keys. -/
  ofDocument : Document → Except ConversionError S

/-- How queries of type `Q` become request bodies. -/
structure QueryCodec (Q : Type) where
  toBody : Q → Except ConversionError Json
  /-- The fetch style that a query asks for. -/
  fetchStyle : Q → FetchStyle

/-- Records that are stored as they are; they have to be objects. -/
def RecordCodec.plain : RecordCodec Json :=
  ⟨"id", Document.ofJson, fun document => .ok document.toJson⟩

/-- Queries that are bodies already. -/
def QueryCodec.plain : QueryCodec Json :=
  ⟨.ok, fun _ => .standard⟩

/-! ## Kinds -/

/-- The closed set `K` of kinds of records. -/
structure KindScheme (K : Type) where
  /-- The kind that a type descriptor names. -/
  ofDescriptor? : String → Option K
  name : K → String

/-- Rebuilds a record of one kind. -/
abbrev KindDecoder (S : Type) := Document → Except ConversionError S

/-- A codec that chooses a decoder by the kind of a document. -/
structure KindCodec (K S : Type) where
  /-- The key that receives a document's id when it is read. -/
  idKey : String
  kinds : KindScheme K
  /-- The value of a record; a document if it is an object. -/
  encode : S → Except ConversionError Json
  /-- The decoders, at most one for each kind. -/
  decoders : List (K × KindDecoder S)

namespace KindCodec

variable {K S : Type} [BEq K]

/-- Registers the decoder of a kind, in place of an earlier one. -/
def register (codec : KindCodec K S) (kind : K) (decoder : KindDecoder S) : KindCodec K S :=
  { codec with decoders := codec.decoders.filter (·.1 != kind) ++ [(kind, decoder)] }

/-- The decoder that a type descriptor calls for. -/
def decoderOf (codec : KindCodec K S) (descriptor : String) :
    Except ConversionError (KindDecoder S) :=
  match codec.kinds.ofDescriptor? descriptor with
  | none => .error (.unknownType descriptor)
  | some kind =>
    match codec.decoders.lookup kind with
    | none => .error (.noDecoder (codec.kinds.name kind))
    | some decoder => .ok decoder

/-- The first of the synthetic keys that a document lacks. -/
def missingKey? (codec : KindCodec K S) (document : Document) : Option String :=
  [typeDescriptorKey, codec.idKey, fetchStyleKey].find? fun key => !document.contains key

/-- The fields of a record. -/
def toDocument (codec : KindCodec K S) (record : S) : Except ConversionError Document := do
  Document.ofJson (← codec.encode record)

/-- The record of a document, by the decoder that its type descriptor calls for. -/
def ofDocument (codec : KindCodec K S) (document : Document) : Except ConversionError S :=
  match codec.missingKey? document with
  | some key => .error (.missingKey key)
  | none =>
    match document.get? typeDescriptorKey with
    | some (.string descriptor) => do (← codec.decoderOf descriptor) document
    | other => .error (.unknownType (other.getD .null).text)

/-- The codec without its kinds. -/
def toRecordCodec (codec : KindCodec K S) : RecordCodec S :=
  ⟨codec.idKey, codec.toDocument, codec.ofDocument⟩

/-- The codec shown by its id key and its kinds. -/
def inspect (codec : KindCodec K S) : String :=
  let kinds := ", ".intercalate (codec.decoders.map fun entry => codec.kinds.name entry.1)
  "TypedModelContext \x7b id_key: " ++ Text.quoted codec.idKey ++ ", kinds: [" ++ kinds ++ "] \x7d"

end KindCodec

end EngineClient
