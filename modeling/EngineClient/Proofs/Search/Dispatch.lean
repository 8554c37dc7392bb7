import EngineClient.Proofs.Search.Hydration
import EngineClient.Record.Telemetry

/-!
# The decoder of a hit

A codec with kinds chooses a decoder by the document of a hit (`Search.choiceOf`), and this decoder
or the want of one decides what becomes of the hit (`Search.hitRecord_eq_choice`). The last decoder
that was registered for the kind of the type descriptor is chosen (`KindCodec.Selects.register`).

Of two hits in one index, each may have any id, and its stored fields may hold a type descriptor of
their own. **`Search.takes_of_index`**: both go to one decoder, the one that the index calls for, or
are refused by one error. A codec that reads the id under the key of the type descriptor is the
exception: each of its hits goes by its own id (`Search.choiceOf_of_id`).
-/

namespace EngineClient

open Json Fallible

/-! ## Choices -/

namespace KindCodec

variable {K S : Type} [BEq K] {codec : KindCodec K S} {descriptor : String}

/-- What a type descriptor calls for: the decoder of its kind, if it names a kind that has one. -/
inductive Selects (codec : KindCodec K S) (descriptor : String) :
    Except ConversionError (KindDecoder S) → Prop
  | unknown (unknown : codec.kinds.ofDescriptor? descriptor = none) :
      Selects codec descriptor (.error (.unknownType descriptor))
  | undecoded {kind : K} (known : codec.kinds.ofDescriptor? descriptor = some kind)
      (undecoded : codec.decoders.lookup kind = none) :
      Selects codec descriptor (.error (.noDecoder (codec.kinds.name kind)))
  | decoded {kind : K} {decoder : KindDecoder S}
      (known : codec.kinds.ofDescriptor? descriptor = some kind)
      (decoded : codec.decoders.lookup kind = some decoder) :
      Selects codec descriptor (.ok decoder)

theorem Selects.decoderOf_eq {choice : Except ConversionError (KindDecoder S)}
    (selects : codec.Selects descriptor choice) : codec.decoderOf descriptor = choice := by
  cases selects with
  | unknown unknown => rw [decoderOf, unknown]
  | undecoded known undecoded => simp only [decoderOf, known, undecoded]
  | decoded known decoded => simp only [decoderOf, known, decoded]

theorem exists_selects (codec : KindCodec K S) (descriptor : String) :
    ∃ choice, codec.Selects descriptor choice := by
  cases known : codec.kinds.ofDescriptor? descriptor with
  | none => exact ⟨_, .unknown known⟩
  | some kind =>
    cases found : codec.decoders.lookup kind with
    | none => exact ⟨_, .undecoded known found⟩
    | some decoder => exact ⟨_, .decoded known found⟩

theorem selects_decoderOf (codec : KindCodec K S) (descriptor : String) :
    codec.Selects descriptor (codec.decoderOf descriptor) := by
  obtain ⟨choice, selects⟩ := codec.exists_selects descriptor
  rwa [selects.decoderOf_eq]

section

variable [LawfulBEq K] (kind : K) (decoder : KindDecoder S)

theorem lookup_register (codec : KindCodec K S) (other : K) :
    (codec.register kind decoder).decoders.lookup other =
      if other == kind then some decoder else codec.decoders.lookup other := by
  show (codec.decoders.filter (·.1 != kind) ++ [(kind, decoder)]).lookup other = _
  induction codec.decoders with
  | nil =>
    rw [List.filter_nil, List.nil_append, List.lookup_cons]
    cases other == kind <;> rfl
  | cons entry entries ih =>
    obtain ⟨first, _⟩ := entry
    by_cases replaced : first = kind
    · subst replaced
      rw [List.filter_cons_of_neg (by simp), ih, List.lookup_cons]
      cases other == first <;> rfl
    · rw [List.filter_cons_of_pos (by simpa using replaced), List.cons_append, List.lookup_cons,
        List.lookup_cons, ih]
      cases same : other == first with
      | false => rfl
      | true =>
        cases eq_of_beq same
        exact (if_neg (mt eq_of_beq replaced)).symm

/-- The decoder registered last is the one of its kind. -/
theorem Selects.register (known : codec.kinds.ofDescriptor? descriptor = some kind) :
    (codec.register kind decoder).Selects descriptor (.ok decoder) :=
  .decoded known (by rw [lookup_register, if_pos (beq_self_eq_true kind)])

end

end KindCodec

namespace Search

open KindCodec

variable {K S : Type} [BEq K] {codec : KindCodec K S} {style : FetchStyle}

/-- The decoder that a codec chooses for a hit. -/
def choiceOf (codec : KindCodec K S) (style : FetchStyle) (hit : Json) :
    Except CallError (KindDecoder S) := do
  (codec.choice (← hitDocument codec.idKey style hit)).mapError .conversion

theorem hitRecord_eq_choice {hit : Json} {document : Document}
    (becomes : hitDocument codec.idKey style hit = .ok document) :
    hitRecord codec.toRecordCodec style hit =
      (codec.choice document >>= fun decoder => decoder document).mapError .conversion := by
  rw [← ofDocument_eq_choice]
  show (hitDocument codec.idKey style hit >>= _) = _
  rw [becomes]
  rfl

/-- This choice is made for the hit: its document goes to the decoder chosen, or the hit is refused
for want of one. -/
structure Takes (codec : KindCodec K S) (style : FetchStyle)
    (choice : Except ConversionError (KindDecoder S)) (hit : Json) : Prop where
  chosen : choiceOf codec style hit = choice.mapError .conversion
  record : ∃ document, hitDocument codec.idKey style hit = .ok document ∧
    hitRecord codec.toRecordCodec style hit =
      (choice >>= fun decoder => decoder document).mapError .conversion

theorem takes_of_selects {hit : Json} {index id : String} {source : Document}
    (members : IsHit hit index id source) {choice : Except ConversionError (KindDecoder S)}
    (selects : codec.Selects (if codec.idKey = typeDescriptorKey then id else index) choice) :
    Takes codec style choice hit := by
  have becomes : hitDocument codec.idKey style hit =
      .ok (source.withSyntheticKeys index codec.idKey id style) :=
    hitDocument_eq_ok_iff.mpr ⟨index, id, source, members, rfl⟩
  have chosen := choice_withSyntheticKeys codec source index id style
  rw [selects.decoderOf_eq] at chosen
  constructor
  · rw [choiceOf, becomes, ← chosen]
    rfl
  · exact ⟨_, becomes, by rw [hitRecord_eq_choice becomes, chosen]⟩

/-- **The index decides which decoder takes a hit.** Two hits of one index go to one decoder, the
one that is registered for the kind of the index, or both are refused as their index has no kind or
its kind no decoder. The fetch style, the ids and the stored fields have no say in it. Only if the
codec reads the id under the key of the type descriptor does each hit go by its id. -/
theorem takes_of_index (codec : KindCodec K S) (style : FetchStyle) {hit other : Json}
    {index id id' : String} {source source' : Document} (one : IsHit hit index id source)
    (two : IsHit other index id' source') :
    (codec.idKey ≠ typeDescriptorKey → ∃ choice, codec.Selects index choice ∧
      Takes codec style choice hit ∧ Takes codec style choice other) ∧
    (codec.idKey = typeDescriptorKey →
      (∃ choice, codec.Selects id choice ∧ Takes codec style choice hit) ∧
      ∃ choice, codec.Selects id' choice ∧ Takes codec style choice other) := by
  constructor
  · intro notDescriptor
    have selects := codec.selects_decoderOf index
    refine ⟨_, selects, takes_of_selects one ?_, takes_of_selects two ?_⟩ <;>
      rwa [if_neg notDescriptor]
  · intro descriptor
    have first := codec.selects_decoderOf id
    have second := codec.selects_decoderOf id'
    exact ⟨⟨_, first, takes_of_selects one (by rwa [if_pos descriptor])⟩,
      ⟨_, second, takes_of_selects two (by rwa [if_pos descriptor])⟩⟩

/-- A hit that has stored another type descriptor, and one that has stored nothing. -/
theorem takes_of_index_forged :
    let codec := (Telemetry.codec "id" [.metric] .ok).register .raw (Telemetry.decoder .raw)
    let forged : Json := .object [("_id", .string "metrics-1"), ("_index", .string "raw-1"),
      ("_source", .object [("name", .string "n"), ("type_descriptor", .string "metrics-1"),
        ("value", .int 1)])]
    let bare : Json := .object [("_id", .string "a"), ("_index", .string "raw-1")]
    choiceOf codec .fields forged = .ok (Telemetry.decoder .raw) ∧
      choiceOf codec .fields bare = .ok (Telemetry.decoder .raw) := by
  intro codec forged bare
  have one : IsHit forged "raw-1" "metrics-1" ⟨[("name", .string "n"),
    ("type_descriptor", .string "metrics-1"), ("value", .int 1)]⟩ := ⟨rfl, rfl, .object rfl⟩
  have two : IsHit bare "raw-1" "a" .empty := ⟨rfl, rfl, .absent rfl⟩
  obtain ⟨choice, selects, first, second⟩ :=
    (takes_of_index codec .fields one two).1 (by decide)
  have raw : codec.Selects "raw-1" (.ok (Telemetry.decoder .raw)) := .register _ _ (by decide)
  obtain rfl : choice = .ok (Telemetry.decoder .raw) :=
    selects.decoderOf_eq.symm.trans raw.decoderOf_eq
  exact ⟨first.chosen, second.chosen⟩

/-- Two hits of one index that go to different decoders by their ids, since the codec reads the id
under the key of the type descriptor. -/
theorem choiceOf_of_id :
    let codec := Telemetry.codec typeDescriptorKey [.metric, .raw] .ok
    let fields : Fields := [("id", .string "z"), ("name", .string "temp"),
      ("value", .number (.float ⟨false, 43 <<< 47, -48⟩))]
    let one : Json := .object [("_id", .string "metrics-1"), ("_index", .string "metrics-1"),
      ("_source", .object fields)]
    let two : Json := .object [("_id", .string "raw-1"), ("_index", .string "metrics-1"),
      ("_source", .object fields)]
    IsHit one "metrics-1" "metrics-1" ⟨fields⟩ ∧ IsHit two "metrics-1" "raw-1" ⟨fields⟩ ∧
      choiceOf codec .sourceFull one = .ok (Telemetry.decoder .metric) ∧
      choiceOf codec .sourceFull two = .ok (Telemetry.decoder .raw) ∧
      choiceOf codec .sourceFull one ≠ choiceOf codec .sourceFull two := by
  intro codec fields one two
  have members : IsHit one "metrics-1" "metrics-1" ⟨fields⟩ := ⟨rfl, rfl, .object rfl⟩
  have members' : IsHit two "metrics-1" "raw-1" ⟨fields⟩ := ⟨rfl, rfl, .object rfl⟩
  have isMetric : codec.kinds.ofDescriptor? "metrics-1" = some .metric := by decide
  have isRaw : codec.kinds.ofDescriptor? "raw-1" = some .raw := by decide
  have first : choiceOf codec .sourceFull one = .ok (Telemetry.decoder .metric) :=
    (takes_of_selects members (.decoded isMetric rfl)).chosen
  have second : choiceOf codec .sourceFull two = .ok (Telemetry.decoder .raw) :=
    (takes_of_selects members' (.decoded isRaw rfl)).chosen
  refine ⟨members, members', first, second, ?_⟩
  rw [first, second]
  intro same
  -- a measurement needs a name
  have taken := congrFun (Except.ok.inj same) .empty
  cases taken

end Search

end EngineClient
