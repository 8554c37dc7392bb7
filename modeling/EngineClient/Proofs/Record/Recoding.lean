import EngineClient.Proofs.Fallible
import EngineClient.Proofs.Record.Stamping
import EngineClient.Record.Telemetry

/-!
# Records that are decoded and encoded again

A codec with kinds decodes a document by one of its decoders and encodes the record without them, so
nothing ties the fields that come out to those that went in. Whether a key survives is up to the
decoders: a codec may keep it (`KindCodec.Keeps`) or forget it (`KindCodec.Forgets`).

Of the telemetry decoders the one for raw documents keeps every key, and the others forget the type
descriptor and the fetch style (`Telemetry.keeps_raw`, `Telemetry.forgets_of_not_raw`).
-/

namespace EngineClient

open Json Fallible

namespace KindCodec

variable {K S : Type} {codec : KindCodec K S} {document written : Document} {record : S}
  {key : String}

/-- One of the decoders takes the document for the record, which is encoded as `written`. -/
structure Recodes (codec : KindCodec K S) (document : Document) (record : S) (written : Document) :
    Prop where
  decoded : ∃ entry ∈ codec.decoders, entry.2 document = .ok record
  encoded : codec.toDocument record = .ok written

/-- A key that a document had is there after the document was decoded and encoded again. -/
def Keeps (codec : KindCodec K S) (key : String) : Prop :=
  ∀ document record written, codec.Recodes document record written →
    document.contains key = true → written.contains key = true

/-- Whatever a document had, the key is not there after it was decoded and encoded again. -/
def Forgets (codec : KindCodec K S) (key : String) : Prop :=
  ∀ document record written, codec.Recodes document record written → written.contains key = false

theorem toDocument_eq_ok_iff :
    codec.toDocument record = .ok written ↔ codec.encode record = .ok written.toJson := by
  rw [toDocument, bind_eq_ok_iff]
  constructor
  · rintro ⟨value, encoded, same⟩
    rw [encoded]
    cases value <;> cases same
    rfl
  · intro encoded
    exact ⟨_, encoded, rfl⟩

theorem exists_mem_of_lookup_eq_some {α : Type} [BEq K] {entries : List (K × α)} {k : K} {a : α}
    (found : entries.lookup k = some a) : ∃ entry ∈ entries, entry.2 = a := by
  induction entries with
  | nil => cases found
  | cons entry entries ih =>
    rw [List.lookup_cons] at found
    split at found
    · exact ⟨entry, List.mem_cons_self, Option.some.inj found⟩
    · obtain ⟨other, mem, same⟩ := ih found
      exact ⟨other, List.mem_cons_of_mem _ mem, same⟩

theorem mem_of_decoderOf_eq_ok [BEq K] {descriptor : String} {decoder : KindDecoder S}
    (found : codec.decoderOf descriptor = .ok decoder) :
    ∃ entry ∈ codec.decoders, entry.2 = decoder := by
  unfold decoderOf at found
  split at found
  · cases found
  · split at found
    · cases found
    · rename_i registered
      cases found
      exact exists_mem_of_lookup_eq_some registered

theorem recodes_of_ofDocument [BEq K] (decoded : codec.ofDocument document = .ok record)
    (encoded : codec.toDocument record = .ok written) :
    codec.Recodes document record written := by
  unfold ofDocument at decoded
  split at decoded
  · cases decoded
  · split at decoded
    · obtain ⟨decoder, chosen, taken⟩ := bind_eq_ok_iff.mp decoded
      obtain ⟨entry, mem, rfl⟩ := mem_of_decoderOf_eq_ok chosen
      exact ⟨⟨entry, mem, taken⟩, encoded⟩
    · cases decoded

theorem mem_decoders_register [BEq K] {kind : K} {decoder : KindDecoder S}
    {entry : K × KindDecoder S} (mem : entry ∈ (codec.register kind decoder).decoders) :
    entry ∈ codec.decoders ∨ entry = (kind, decoder) := by
  rcases List.mem_append.mp mem with old | new
  · exact .inl (List.mem_of_mem_filter old)
  · exact .inr (List.mem_singleton.mp new)

end KindCodec

/-! ## Telemetry -/

namespace Telemetry

variable {idKey key : String} {decoded : List Kind} {document written : Document} {record : Json}

theorem encode_codec (encode : Json → Except ConversionError Json) :
    (codec idKey decoded encode).encode = encode := by
  have kept (start : KindCodec Kind Json) :
      (decoded.foldl (fun codec kind => codec.register kind (decoder kind)) start).encode =
        start.encode := by
    induction decoded generalizing start with
    | nil => rfl
    | cons kind decoded ih => exact ih (start.register kind (decoder kind))
  exact kept _

/-- Decoders are those that were there before or belong to kinds registered since. -/
theorem mem_decoders_foldl {start : KindCodec Kind Json} {entry : Kind × KindDecoder Json}
    (mem : entry ∈
      (decoded.foldl (fun codec kind => codec.register kind (decoder kind)) start).decoders) :
    entry ∈ start.decoders ∨ ∃ kind ∈ decoded, entry = (kind, decoder kind) := by
  induction decoded generalizing start with
  | nil => exact .inl mem
  | cons kind decoded ih =>
    rcases ih mem with before | ⟨other, there, same⟩
    · rcases KindCodec.mem_decoders_register before with old | new
      · exact .inl old
      · exact .inr ⟨kind, List.mem_cons_self, new⟩
    · exact .inr ⟨other, List.mem_cons_of_mem _ there, same⟩

theorem mem_decoders_codec {encode : Json → Except ConversionError Json}
    {entry : Kind × KindDecoder Json} (mem : entry ∈ (codec idKey decoded encode).decoders) :
    ∃ kind ∈ decoded, entry = (kind, decoder kind) :=
  (mem_decoders_foldl mem).resolve_left List.not_mem_nil

theorem exists_of_recodes (recodes : (codec idKey decoded .ok).Recodes document record written) :
    record = written.toJson ∧ ∃ kind ∈ decoded, decoder kind document = .ok record := by
  obtain ⟨⟨entry, mem, taken⟩, encoded⟩ := recodes
  rw [KindCodec.toDocument_eq_ok_iff, encode_codec] at encoded
  obtain ⟨kind, registered, rfl⟩ := mem_decoders_codec mem
  exact ⟨Except.ok.inj encoded, kind, registered, taken⟩

/-- A record of any other kind than raw documents has fields of its own. -/
theorem fields_of_decoder {kind : Kind} (notRaw : kind ≠ .raw)
    (taken : decoder kind document = .ok record) : ∃ members, record = .ofFields members ∧
      ∀ member ∈ members, member.1 ≠ typeDescriptorKey ∧ member.1 ≠ fetchStyleKey := by
  cases kind with
  | raw => exact absurd rfl notRaw
  | metric =>
    obtain ⟨metric, -, same⟩ := bind_eq_ok_iff.mp taken
    cases same
    exact ⟨_, rfl, by simp [typeDescriptorKey, fetchStyleKey]⟩
  | client =>
    obtain ⟨style, -, same⟩ := bind_eq_ok_iff.mp taken
    cases same
    exact ⟨_, rfl, by simp [typeDescriptorKey, fetchStyleKey]⟩

theorem keeps_raw : (codec idKey [.raw] .ok).Keeps key := by
  intro document record written recodes had
  obtain ⟨rfl, kind, registered, taken⟩ := exists_of_recodes recodes
  cases List.mem_singleton.mp registered
  rwa [Document.contains, Document.get?, ← Json.object.inj (Except.ok.inj taken)]

theorem forgets_of_not_raw (notRaw : .raw ∉ decoded) (reserved : key ∈ reservedKeys) :
    (codec idKey decoded .ok).Forgets key := by
  intro document record written recodes
  obtain ⟨rfl, kind, registered, taken⟩ := exists_of_recodes recodes
  obtain ⟨members, same, keys⟩ := fields_of_decoder (fun raw => notRaw (raw ▸ registered)) taken
  have absent : ∀ member ∈ members.reverse, (key == member.1) = false := by
    intro member there
    obtain ⟨notDescriptor, notStyle⟩ := keys member (List.mem_reverse.mp there)
    rw [beq_eq_false_iff_ne]
    rcases mem_reservedKeys.mp reserved with rfl | rfl
    · exact notDescriptor.symm
    · exact notStyle.symm
  rw [Document.contains, Document.get?, Json.object.inj same, Fields.get?_ofList,
    List.lookup_eq_none_iff.mpr (by simpa using absent)]
  rfl

end Telemetry

end EngineClient
