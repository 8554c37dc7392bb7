import EngineClient.Proofs.Record.Stamping
import EngineClient.Proofs.Search.Totals
import EngineClient.Search.Hits

/-!
# Results hit by hit

What a hit has to have to become a record (`Search.Becomes`), and how it fails if it has not
(`Search.Fails`). Both are said of the members of the hit. A hit does one or the other, and a result
is made of nothing but its total and its hits:

**`Search.readResult_hits`**: the total is judged first. Then the result has the records of all hits
in order, or there is none, and the first hit that fails says why.
-/

namespace EngineClient.Search

open Json Fallible

variable {S : Type}

/-! ## Members of a hit -/

/-- The stored fields of a hit. A source that is absent or `null` has none. -/
inductive SourceOf (hit : Json) : Document → Prop
  | absent (missing : hit.get? "_source" = none) : SourceOf hit .empty
  | null (found : hit.get? "_source" = some .null) : SourceOf hit .empty
  | object {fields : Fields} (found : hit.get? "_source" = some (.object fields)) :
      SourceOf hit ⟨fields⟩

/-- The hit is a document in an index, under an id, with these stored fields. -/
structure IsHit (hit : Json) (index id : String) (source : Document) : Prop where
  id : hit.get? "_id" = some (.string id)
  index : hit.get? "_index" = some (.string index)
  source : SourceOf hit source

/-- The hit becomes the record: the codec takes its stored fields with the synthetic keys set. -/
def Becomes (codec : RecordCodec S) (style : FetchStyle) (hit : Json) (record : S) : Prop :=
  ∃ index id source, IsHit hit index id source ∧
    codec.ofDocument (source.withSyntheticKeys index codec.idKey id style) = .ok record

/-- Why the hit becomes no record. The id is looked for first, then the index, then the source. -/
inductive Fails (codec : RecordCodec S) (style : FetchStyle) (hit : Json) : CallError → Prop
  | noId (noId : ∀ id, hit.get? "_id" ≠ some (.string id)) :
      Fails codec style hit (.unexpected s!"Search hit has no '_id': {hit.text}")
  | noIndex {id : String} (id : hit.get? "_id" = some (.string id))
      (noIndex : ∀ index, hit.get? "_index" ≠ some (.string index)) :
      Fails codec style hit (.unexpected s!"Search hit has no '_index': {hit.text}")
  | noObject {id index : String} {source : Json} (id : hit.get? "_id" = some (.string id))
      (index : hit.get? "_index" = some (.string index))
      (found : hit.get? "_source" = some source) (some : source ≠ .null)
      (noObject : ∀ fields, source ≠ .object fields) :
      Fails codec style hit (.conversion .notAnObject)
  | refused {index id : String} {source : Document} {cause : ConversionError}
      (members : IsHit hit index id source)
      (refused : codec.ofDocument (source.withSyntheticKeys index codec.idKey id style) =
        .error cause) :
      Fails codec style hit (.conversion cause)

section

variable {hit : Json} {key text : String} {error : CallError}

theorem hitText_eq_ok_iff : hitText hit key = .ok text ↔ hit.get? key = some (.string text) := by
  rw [← bind_asString?_eq_some_iff, hitText]
  cases (hit.get? key).bind asString? <;> simp

theorem hitText_eq_error_iff :
    hitText hit key = .error error ↔ (∀ text, hit.get? key ≠ some (.string text)) ∧
      .unexpected s!"Search hit has no '{key}': {hit.text}" = error := by
  have absent : (∀ text, hit.get? key ≠ some (.string text)) ↔
      (hit.get? key).bind asString? = none := by
    rw [Option.eq_none_iff_forall_ne_some]
    exact forall_congr' fun text => not_congr bind_asString?_eq_some_iff.symm
  rw [absent, hitText]
  cases (hit.get? key).bind asString? <;> simp

theorem hitSource_eq_ok_iff {source : Document} :
    hitSource hit = .ok source ↔ SourceOf hit source := by
  unfold hitSource
  constructor
  · intro read
    split at read
    · cases read
      exact .absent ‹_›
    · cases read
      exact .null ‹_›
    · rename_i value _ found
      cases value <;> cases read
      exact .object found
  · intro has
    cases has with
    | absent missing => rw [missing]
    | null found => rw [found]
    | object found =>
      rw [found]
      rfl

theorem hitSource_eq_error_iff :
    hitSource hit = .error error ↔ (∃ source, hit.get? "_source" = some source ∧ source ≠ .null ∧
      ∀ fields, source ≠ .object fields) ∧ .conversion .notAnObject = error := by
  unfold hitSource
  split
  · rename_i missing
    simp [missing]
  · rename_i found
    simp [found]
  · rename_i value some found
    rw [found]
    cases value <;> simp_all [Document.ofJson, Except.mapError]

end

/-! ## One hit -/

section

variable {codec : RecordCodec S} {style : FetchStyle} {hit : Json}

theorem hitDocument_eq_ok_iff {idKey : String} {document : Document} :
    hitDocument idKey style hit = .ok document ↔ ∃ index id source,
      IsHit hit index id source ∧
        source.withSyntheticKeys index idKey id style = document := by
  simp only [hitDocument, bind_eq_ok_iff, hitText_eq_ok_iff, hitSource_eq_ok_iff]
  constructor
  · rintro ⟨id, hasId, index, hasIndex, source, hasSource, same⟩
    cases same
    exact ⟨index, id, source, ⟨hasId, hasIndex, hasSource⟩, rfl⟩
  · rintro ⟨index, id, source, members, rfl⟩
    exact ⟨id, members.id, index, members.index, source, members.source, rfl⟩

theorem hitRecord_eq_ok_iff {record : S} :
    hitRecord codec style hit = .ok record ↔ Becomes codec style hit record := by
  simp only [hitRecord, bind_eq_ok_iff, hitDocument_eq_ok_iff, mapError_eq_ok_iff]
  constructor
  · rintro ⟨_, ⟨index, id, source, members, rfl⟩, taken⟩
    exact ⟨index, id, source, members, taken⟩
  · rintro ⟨index, id, source, members, taken⟩
    exact ⟨_, ⟨index, id, source, members, rfl⟩, taken⟩

theorem hitDocument_eq_error_iff {idKey : String} {error : CallError} :
    hitDocument idKey style hit = .error error ↔
      hitText hit "_id" = .error error ∨ ∃ id, hitText hit "_id" = .ok id ∧
        (hitText hit "_index" = .error error ∨ ∃ index, hitText hit "_index" = .ok index ∧
          hitSource hit = .error error) := by
  simp only [hitDocument, bind_eq_error_iff]
  refine or_congr_right <| exists_congr fun id => and_congr_right fun _ => or_congr_right <|
    exists_congr fun index => and_congr_right fun _ => ?_
  -- with the source at hand nothing can fail any more
  exact or_iff_left fun ⟨_, _, never⟩ => nomatch never

theorem hitRecord_eq_error_iff {error : CallError} :
    hitRecord codec style hit = .error error ↔ Fails codec style hit error := by
  rw [hitRecord, bind_eq_error_iff, hitDocument_eq_error_iff]
  simp only [hitText_eq_ok_iff, hitText_eq_error_iff, hitSource_eq_error_iff, hitDocument_eq_ok_iff,
    mapError_eq_error_iff]
  constructor
  · rintro ((⟨noId, rfl⟩ | ⟨id, hasId, ⟨noIndex, rfl⟩ | ⟨index, hasIndex, source, rfl⟩⟩) |
      ⟨_, ⟨index, id, source, members, rfl⟩, cause, refused, rfl⟩)
    · exact .noId noId
    · exact .noIndex hasId noIndex
    · obtain ⟨source, found, some, noObject⟩ := source
      exact .noObject hasId hasIndex found some noObject
    · exact .refused members refused
  · intro fails
    cases fails with
    | noId noId => exact .inl (.inl ⟨noId, rfl⟩)
    | noIndex hasId noIndex => exact .inl (.inr ⟨_, hasId, .inl ⟨noIndex, rfl⟩⟩)
    | noObject hasId hasIndex found some noObject =>
      exact .inl (.inr ⟨_, hasId, .inr ⟨_, hasIndex, ⟨_, found, some, noObject⟩, rfl⟩⟩)
    | refused members refused => exact .inr ⟨_, ⟨_, _, _, members, rfl⟩, _, refused, rfl⟩

/-- A hit becomes a record or fails, and does not do both. -/
theorem exists_becomes_iff :
    (∃ record, Becomes codec style hit record) ↔ ¬ ∃ error, Fails codec style hit error := by
  simp only [← hitRecord_eq_ok_iff, ← hitRecord_eq_error_iff]
  cases hitRecord codec style hit <;> simp

end

/-! ## All hits -/

/-- The hits of a response. Without an array of them there is none. -/
inductive HitsAt (body : Json) : List Json → Prop
  | array {hits : List Json}
      (found : (body.get? "hits").bind (·.get? "hits") = some (.array hits)) : HitsAt body hits
  | none (absent : ∀ hits, (body.get? "hits").bind (·.get? "hits") ≠ some (.array hits)) :
      HitsAt body []

theorem HitsAt.hitsOf_eq {body : Json} {hits : List Json} (h : HitsAt body hits) :
    hitsOf body = hits := by
  rw [hitsOf]
  cases h with
  | array found =>
    rw [bind_asArray?_eq_some_iff.mpr found]
    rfl
  | none absent =>
    have nothing : ((body.get? "hits").bind (·.get? "hits")).bind asArray? = Option.none :=
      Option.eq_none_iff_forall_ne_some.mpr fun hits found =>
        absent hits (bind_asArray?_eq_some_iff.mp found)
    rw [nothing]
    rfl

theorem hitsAt_hitsOf (body : Json) : HitsAt body (hitsOf body) := by
  have hits : ∃ hits, HitsAt body hits := by
    by_cases array : ∃ hits, (body.get? "hits").bind (·.get? "hits") = some (.array hits)
    · obtain ⟨hits, found⟩ := array
      exact ⟨hits, .array found⟩
    · exact ⟨[], .none (not_exists.mp array)⟩
  obtain ⟨hits, found⟩ := hits
  rw [found.hitsOf_eq]
  exact found

/-- What it takes to have a result: a total that can be counted, and a record for each hit. -/
theorem readResult_eq_ok_iff {codec : RecordCodec S} {style : FetchStyle} {body : Json}
    {result : QueryResult S} :
    readResult codec style body = .ok result ↔ ∃ total, HitTotal.ofBody body = .ok total ∧
      total.bounded = .ok result.total ∧ result.isLowerBound = total.isLowerBound ∧
        List.Forall₂ (Becomes codec style) (hitsOf body) result.records := by
  obtain ⟨count, isLowerBound, records⟩ := result
  simp only [readResult, bind_eq_ok_iff, mapM_eq_ok_iff fun hit _ record => hitRecord_eq_ok_iff]
  refine exists_congr fun total => and_congr_right fun _ => ?_
  constructor
  · rintro ⟨_, bounded, _, all, same⟩
    cases same
    exact ⟨bounded, rfl, all⟩
  · rintro ⟨bounded, rfl, all⟩
    exact ⟨count, bounded, records, all, rfl⟩

/-- A total that is not accepted is the failure of the whole, whatever the hits are. -/
theorem readResult_eq_error_of_total {codec : RecordCodec S} {style : FetchStyle} {body : Json}
    {error : CallError} (refused : HitTotal.ofBody body >>= HitTotal.bounded = .error error) :
    readResult codec style body = .error error := by
  rw [readResult, bind_eq_error_iff]
  refine (bind_eq_error_iff.mp refused).imp_right fun ⟨total, read, large⟩ => ⟨total, read, ?_⟩
  rw [large]
  rfl

/-- An outcome that has all hits or none. -/
structure HitByHit (codec : RecordCodec S) (style : FetchStyle) (total : HitTotal)
    (hits : List Json) (outcome : Except CallError (QueryResult S)) : Prop where
  /-- Every hit becomes a record or fails, and no hit does both. -/
  decided : ∀ hit ∈ hits, (∃ record, Becomes codec style hit record) ↔
    ¬ ∃ error, Fails codec style hit error
  /-- The outcome is a result if every hit becomes a record, and only then. -/
  succeeds_iff : (∃ result, outcome = .ok result) ↔ ∀ hit ∈ hits, ∃ record,
    Becomes codec style hit record
  /-- The result has the records of all hits in their order, and the total that was reported. -/
  ok_iff : ∀ result, outcome = .ok result ↔ result.total = total.value ∧
    result.isLowerBound = total.isLowerBound ∧
      List.Forall₂ (Becomes codec style) hits result.records
  /-- The first hit that fails is the failure of all, whatever stands behind it. -/
  error_iff : ∀ error, outcome = .error error ↔ ∃ before hit after,
    hits = before ++ hit :: after ∧ (∀ h ∈ before, ∃ record, Becomes codec style h record) ∧
      Fails codec style hit error

theorem hitByHit_readResult {codec : RecordCodec S} {style : FetchStyle} {body : Json}
    {total : HitTotal} {hits : List Json} (read : HitTotal.ofBody body = .ok total)
    (small : total.value ≤ HitTotal.maximum) (found : HitsAt body hits) :
    HitByHit codec style total hits (readResult codec style body) := by
  have bounded := HitTotal.bounded_eq_ok_iff.mpr ⟨small, rfl⟩
  have outcome : readResult codec style body =
      (hits.mapM (hitRecord codec style) >>= fun records =>
        .ok ⟨total.value, total.isLowerBound, records⟩) := by
    rw [readResult, read, found.hitsOf_eq]
    show (total.bounded >>= _) = _
    rw [bounded]
    rfl
  refine ⟨fun _ _ => exists_becomes_iff, ?_, fun result => ?_, fun error => ?_⟩
  · simp only [← hitRecord_eq_ok_iff, ← exists_mapM_eq_ok_iff, outcome, bind_eq_ok_iff]
    constructor
    · rintro ⟨_, records, all, -⟩
      exact ⟨records, all⟩
    · rintro ⟨records, all⟩
      exact ⟨_, records, all, rfl⟩
  · rw [readResult_eq_ok_iff, found.hitsOf_eq]
    constructor
    · rintro ⟨_, again, counted, lower, all⟩
      cases read.symm.trans again
      exact ⟨Except.ok.inj (counted.symm.trans bounded), lower, all⟩
    · rintro ⟨count, lower, all⟩
      exact ⟨total, read, count ▸ bounded, lower, all⟩
  · rw [outcome, bind_eq_error_iff, mapM_eq_error_iff]
    simp only [hitRecord_eq_ok_iff, hitRecord_eq_error_iff]
    exact or_iff_left fun ⟨_, _, never⟩ => nomatch never

/-- **Hit by hit.** A total that is not accepted is the failure of the whole, whatever the hits
are. Otherwise all hits become records, or the first one that does not is the failure. What the
codec is given for a hit are the stored fields with the three synthetic keys set over them; so a
codec with kinds goes by the index of the hit. -/
theorem readResult_hits {codec : RecordCodec S} (notDescriptor : codec.idKey ≠ typeDescriptorKey)
    (notStyle : codec.idKey ≠ fetchStyleKey) (style : FetchStyle) (body : Json) :
    (∀ error, HitTotal.ofBody body = .error error →
      readResult codec style body = .error error) ∧
    (∀ total, HitTotal.ofBody body = .ok total → HitTotal.maximum < total.value →
      readResult codec style body = .error (.overflow total.value)) ∧
    (∀ total hits, HitTotal.ofBody body = .ok total → total.value ≤ HitTotal.maximum →
      HitsAt body hits → HitByHit codec style total hits (readResult codec style body)) ∧
    ∀ (index id : String) (source : Document),
      let document := source.withSyntheticKeys index codec.idKey id style
      source.Stamped index codec.idKey id style document ∧
        ∀ {K : Type} [BEq K] (kinds : KindCodec K S), kinds.toRecordCodec = codec →
          kinds.Dispatches index document (codec.ofDocument document) := by
  refine ⟨fun error refused => ?_, fun total read large => ?_, fun total hits => ?_, ?_⟩
  · rw [readResult, refused]
    rfl
  · have refused : total.bounded = .error (.overflow total.value) := if_pos large
    rw [readResult, read]
    show (total.bounded >>= _) = _
    rw [refused]
    rfl
  · exact hitByHit_readResult
  · intro index id source document
    refine ⟨Document.stamped_withSyntheticKeys notDescriptor notStyle, ?_⟩
    rintro K _ kinds rfl
    exact KindCodec.dispatches_withSyntheticKeys notDescriptor

/-- Three hits: one that has stored a type descriptor of its own, one of an index without a kind,
and one that is no object. -/
theorem readResult_hits_three :
    let kinds : KindCodec Unit Json :=
      ⟨"id", ⟨fun index => if index = "raw-1" then some () else none, fun _ => "raw"⟩, .ok,
        [((), fun document => .ok document.toJson)]⟩
    let stored : Json := .object [("_id", .string "a"), ("_index", .string "raw-1"),
      ("_source", .object [("n", .int 5), ("type_descriptor", .string "other")])]
    let foreign : Json := .object [("_id", .string "b"), ("_index", .string "other")]
    let body : Json := .object [("hits", .object [("hits", .array [stored, foreign, .null]),
      ("total", .object [("relation", .string "gte"), ("value", .int 7)])])]
    let first : Json := .object [("hits", .object [("hits", .array [stored]),
      ("total", .object [("relation", .string "gte"), ("value", .int 7)])])]
    let record : Json := .object [("id", .string "a"), ("n", .int 5),
      ("query_fetch_style", .string "FIELDS"), ("type_descriptor", .string "raw-1")]
    readResult kinds.toRecordCodec .fields first = .ok ⟨7, true, [record]⟩ ∧
      readResult kinds.toRecordCodec .fields body =
        .error (.conversion (.unknownType "other")) := by
  intro kinds stored foreign body first record
  have descriptor : kinds.toRecordCodec.idKey ≠ typeDescriptorKey := by decide
  have style : kinds.toRecordCodec.idKey ≠ fetchStyleKey := by decide
  obtain ⟨-, -, whole, taken⟩ := readResult_hits descriptor style .fields body
  obtain ⟨-, -, single, -⟩ := readResult_hits descriptor style .fields first
  have members : IsHit stored "raw-1" "a"
      ⟨[("n", .int 5), ("type_descriptor", .string "other")]⟩ := ⟨rfl, rfl, .object rfl⟩
  have becomes : Becomes kinds.toRecordCodec .fields stored record := by
    refine ⟨_, _, _, members, ?_⟩
    rw [((taken _ _ _).2 kinds rfl).decoded () _ rfl rfl]
    exact congrArg Except.ok (by decide)
  have fails : Fails kinds.toRecordCodec .fields foreign (.conversion (.unknownType "other")) :=
    .refused ⟨rfl, rfl, .absent rfl⟩ (((taken _ _ _).2 kinds rfl).unknown rfl)
  constructor
  · have all := single ⟨7, some "gte"⟩ _ rfl (by decide) (.array rfl)
    exact (all.ok_iff _).mpr ⟨rfl, rfl, .cons becomes .nil⟩
  · have all := whole ⟨7, some "gte"⟩ _ rfl (by decide) (.array rfl)
    exact (all.error_iff _).mpr
      ⟨[stored], foreign, [.null], rfl, List.forall_mem_singleton.mpr ⟨record, becomes⟩, fails⟩

end EngineClient.Search
