import EngineClient.Proofs.Json.Fields
import EngineClient.Record.Codec

/-!
# Synthetic keys

Before a document becomes a record, the three synthetic keys are set in it. They have their values
afterwards and every other key has the one it had (`Document.stamped_withSyntheticKeys`), provided
that the key of the codec's choice is neither of the other two. So a codec with kinds misses no key
and goes by the type descriptor that was set (`KindCodec.dispatches_withSyntheticKeys`). What it
chooses is a decoder, which is then given the document (`KindCodec.choice_withSyntheticKeys`).
-/

namespace EngineClient

open Json

/-- The synthetic keys that are the same for every codec. -/
def reservedKeys : List String := [typeDescriptorKey, fetchStyleKey]

theorem mem_reservedKeys {key : String} :
    key ∈ reservedKeys ↔ key = typeDescriptorKey ∨ key = fetchStyleKey := by
  simp [reservedKeys]

namespace Document

/-- The second document is the first with the synthetic keys set, and nothing else. -/
structure Stamped (document : Document) (descriptor idKey id : String) (style : FetchStyle)
    (stamped : Document) : Prop where
  descriptor : stamped.get? typeDescriptorKey = some (.string descriptor)
  id : stamped.get? idKey = some (.string id)
  style : stamped.get? fetchStyleKey = some style.toJson
  others : ∀ key, key ≠ typeDescriptorKey → key ≠ idKey → key ≠ fetchStyleKey →
    stamped.get? key = document.get? key
  ascending : document.fields.Ascending → stamped.fields.Ascending

theorem get?_insert (document : Document) (key : String) (value : Json) (other : String) :
    (document.insert key value).get? other =
      if other = key then some value else document.get? other :=
  Fields.get?_insert document.fields key value other

variable {document : Document} {descriptor idKey id : String} {style : FetchStyle}

theorem get?_withSyntheticKeys (key : String) :
    (document.withSyntheticKeys descriptor idKey id style).get? key =
      if key = fetchStyleKey then some style.toJson
      else if key = idKey then some (.string id)
      else if key = typeDescriptorKey then some (.string descriptor)
      else document.get? key := by
  rw [withSyntheticKeys, get?_insert, get?_insert, get?_insert]

theorem fetchStyleKey_ne_typeDescriptorKey : fetchStyleKey ≠ typeDescriptorKey := by decide

theorem get?_typeDescriptorKey (h : idKey ≠ typeDescriptorKey) :
    (document.withSyntheticKeys descriptor idKey id style).get? typeDescriptorKey =
      some (.string descriptor) := by
  rw [get?_withSyntheticKeys, if_neg fetchStyleKey_ne_typeDescriptorKey.symm, if_neg h.symm,
    if_pos rfl]

theorem stamped_withSyntheticKeys (notDescriptor : idKey ≠ typeDescriptorKey)
    (notStyle : idKey ≠ fetchStyleKey) :
    document.Stamped descriptor idKey id style
      (document.withSyntheticKeys descriptor idKey id style) where
  descriptor := get?_typeDescriptorKey notDescriptor
  id := by rw [get?_withSyntheticKeys, if_neg notStyle, if_pos rfl]
  style := by rw [get?_withSyntheticKeys, if_pos rfl]
  others key other own last := by
    rw [get?_withSyntheticKeys, if_neg last, if_neg own, if_neg other]
  ascending h := ((h.insert _ _).insert _ _).insert _ _

theorem contains_withSyntheticKeys {key : String}
    (mem : key ∈ [typeDescriptorKey, idKey, fetchStyleKey]) :
    (document.withSyntheticKeys descriptor idKey id style).contains key = true := by
  rw [contains, get?_withSyntheticKeys]
  split
  · rfl
  split
  · rfl
  split
  · rfl
  · rename_i notStyle notId notDescriptor
    refine absurd mem ?_
    simp [notStyle, notId, notDescriptor]

theorem contains_withSyntheticKeys_of_reserved {key : String} (reserved : key ∈ reservedKeys) :
    (document.withSyntheticKeys descriptor idKey id style).contains key = true := by
  apply contains_withSyntheticKeys
  rcases mem_reservedKeys.mp reserved with rfl | rfl
  · exact List.mem_cons_self
  · exact List.mem_cons_of_mem _ (List.mem_cons_of_mem _ List.mem_cons_self)

end Document

namespace KindCodec

variable {K S : Type} {codec : KindCodec K S} {document : Document} {descriptor id : String}
  {style : FetchStyle}

theorem missingKey?_withSyntheticKeys :
    codec.missingKey? (document.withSyntheticKeys descriptor codec.idKey id style) = none := by
  rw [missingKey?, List.find?_eq_none]
  intro key mem
  rw [Document.contains_withSyntheticKeys mem]
  exact Bool.false_ne_true

/-- The decoder that a codec chooses for a document. -/
def choice [BEq K] (codec : KindCodec K S) (document : Document) :
    Except ConversionError (KindDecoder S) :=
  match codec.missingKey? document with
  | some key => .error (.missingKey key)
  | none =>
    match document.get? typeDescriptorKey with
    | some (.string descriptor) => codec.decoderOf descriptor
    | other => .error (.unknownType (other.getD .null).text)

/-- The chosen decoder is given the document, and nothing else comes of it. -/
theorem ofDocument_eq_choice [BEq K] (codec : KindCodec K S) (document : Document) :
    codec.ofDocument document = codec.choice document >>= fun decoder => decoder document := by
  unfold ofDocument choice
  cases codec.missingKey? document with
  | some key => rfl
  | none =>
    cases document.get? typeDescriptorKey with
    | none => rfl
    | some value => cases value <;> rfl

/-- The type descriptor of a document is the index, unless the id is set over it. -/
theorem choice_withSyntheticKeys [BEq K] (codec : KindCodec K S) (document : Document)
    (index id : String) (style : FetchStyle) :
    codec.choice (document.withSyntheticKeys index codec.idKey id style) =
      codec.decoderOf (if codec.idKey = typeDescriptorKey then id else index) := by
  rw [choice, missingKey?_withSyntheticKeys, Document.get?_withSyntheticKeys,
    if_neg Document.fetchStyleKey_ne_typeDescriptorKey.symm, if_pos rfl]
  by_cases own : codec.idKey = typeDescriptorKey
  · rw [if_pos own.symm, if_pos own]
  · rw [if_neg (Ne.symm own), if_neg own]

/-- A document is taken by the kind that a type descriptor names. -/
structure Dispatches [BEq K] (codec : KindCodec K S) (descriptor : String) (document : Document)
    (result : Except ConversionError S) : Prop where
  unknown : codec.kinds.ofDescriptor? descriptor = none → result = .error (.unknownType descriptor)
  undecoded : ∀ kind, codec.kinds.ofDescriptor? descriptor = some kind →
    codec.decoders.lookup kind = none → result = .error (.noDecoder (codec.kinds.name kind))
  decoded : ∀ kind decoder, codec.kinds.ofDescriptor? descriptor = some kind →
    codec.decoders.lookup kind = some decoder → result = decoder document

theorem ofDocument_withSyntheticKeys_eq [BEq K] (notDescriptor : codec.idKey ≠ typeDescriptorKey) :
    codec.ofDocument (document.withSyntheticKeys descriptor codec.idKey id style) =
      codec.decoderOf descriptor >>= fun decoder =>
        decoder (document.withSyntheticKeys descriptor codec.idKey id style) := by
  rw [ofDocument_eq_choice, choice_withSyntheticKeys, if_neg notDescriptor]

/-- Whatever was in the document, the type descriptor that was set decides. -/
theorem dispatches_withSyntheticKeys [BEq K] (notDescriptor : codec.idKey ≠ typeDescriptorKey) :
    codec.Dispatches descriptor (document.withSyntheticKeys descriptor codec.idKey id style)
      (codec.ofDocument (document.withSyntheticKeys descriptor codec.idKey id style)) := by
  rw [ofDocument_withSyntheticKeys_eq notDescriptor]
  refine ⟨fun unknown => ?_, fun kind known undecoded => ?_, fun kind decoder known decoded => ?_⟩
  · rw [decoderOf, unknown]
    rfl
  · simp only [decoderOf, known, undecoded]
    rfl
  · simp only [decoderOf, known, decoded]
    rfl

theorem ofDocument_withSyntheticKeys [BEq K] {decoder : KindDecoder S}
    (notDescriptor : codec.idKey ≠ typeDescriptorKey)
    (known : codec.decoderOf descriptor = .ok decoder) :
    codec.ofDocument (document.withSyntheticKeys descriptor codec.idKey id style) =
      decoder (document.withSyntheticKeys descriptor codec.idKey id style) := by
  rw [ofDocument_withSyntheticKeys_eq notDescriptor, known]
  rfl

end KindCodec

end EngineClient
