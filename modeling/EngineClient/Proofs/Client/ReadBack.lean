import EngineClient.Proofs.Client.Converting
import EngineClient.Proofs.Record.Stamping
import EngineClient.Proofs.Search.Page

/-!
# What was stored is found

An engine hands a source back as the text that it was given. So the text that `Client.insert` sends
for a record stands in the response to a search, and the rest of the response is up to the engine.

**`Client.query_stored`**: the decoder of the kind of each hit is then given the document that was
stored, with the synthetic keys set and nothing else, and the records that the decoders give are the
result.
-/

namespace EngineClient

open Call Operation Search

variable {K S Q : Type}

/-! ## Texts of sources -/

namespace Client

/-- The text is sent as a body when the record is inserted somewhere. -/
def SendsFor (client : Client S Q) (record : S) (text : String) : Prop :=
  ∃ index id script, ∃ request ∈ requestsOf ((client.insert index id record).play script).trace,
    request.body = some (.json text)

theorem sendsFor_iff {client : Client S Q} {record : S} {document : Document}
    (h : client.records.toDocument record = .ok document) {text : String} :
    client.SendsFor record text ↔ text = document.toJson.text := by
  -- attempts repeat one request, so it does not matter what they are told
  have asked (index : String) (id : Option String) (script : Script) :
      ∃ n, requestsOf ((client.insert index id record).play script).trace =
        List.replicate (n + 1) (Endpoint.insert index id document).request := by
    rw [insert_of_ok h]
    exact Endpoint.requests_call _ _ script
  constructor
  · rintro ⟨index, id, script, request, mem, body⟩
    obtain ⟨n, requests⟩ := asked index id script
    rw [requests] at mem
    rw [List.eq_of_mem_replicate mem] at body
    cases body
    rfl
  · rintro rfl
    have script : Script := Stream'.const (.error (.timeout .zero ""))
    obtain ⟨n, requests⟩ := asked "" none script
    refine ⟨"", none, script, (Endpoint.insert "" none document).request, ?_, rfl⟩
    rw [requests]
    exact List.mem_cons_self

end Client

/-! ## Hits with stored sources -/

/-- A hit whose source is the text that was sent for a record. -/
structure StoredHit (S : Type) where
  record : S
  document : Document
  /-- The text that was sent. -/
  text : String
  index : String
  id : String
  /-- The decoder of the kind that the index names. -/
  decoder : KindDecoder S
  /-- What the engine put around the source. -/
  place : HitText

namespace StoredHit

variable (hit : StoredHit S)

/-- The text of the hit. -/
def bytes : Bytes :=
  hit.place.bytes (Utf8.encode hit.text)

/-- The hit as it is read. -/
def value : Json :=
  hit.place.around.filled hit.document.toJson

/-- The document that the decoder is given. -/
def hydrated (idKey : String) (style : FetchStyle) : Document :=
  hit.document.withSyntheticKeys hit.index idKey hit.id style

/-- The record was stored, and the hit can be read. -/
structure Fits [BEq K] (client : Client S Q) (codec : KindCodec K S) : Prop where
  converts : client.records.toDocument hit.record = .ok hit.document
  portable : Json.Portable 123 hit.document.toJson
  sent : client.SendsFor hit.record hit.text
  known : codec.decoderOf hit.index = .ok hit.decoder
  place : hit.place.Fits hit.index hit.id

variable [BEq K] {hit : StoredHit S} {client : Client S Q} {codec : KindCodec K S}

theorem Fits.item (fits : hit.Fits client codec) :
    (hit.place.item (Utf8.encode hit.text) hit.document.toJson).Fits 124 := by
  rw [(Client.sendsFor_iff fits.converts).mp fits.sent]
  exact fits.place.item (Json.takenFor_text fits.portable)

theorem Fits.hitRecord_eq_ok_iff (fits : hit.Fits client codec)
    (typed : client.records = codec.toRecordCodec)
    (notDescriptor : codec.idKey ≠ typeDescriptorKey) (style : FetchStyle) (record : S) :
    hitRecord client.records style hit.value = .ok record ↔
      hit.decoder (hit.hydrated codec.idKey style) = .ok record := by
  have dispatched : client.records.ofDocument (hit.hydrated codec.idKey style) =
      hit.decoder (hit.hydrated codec.idKey style) := by
    rw [typed]
    exact KindCodec.ofDocument_withSyntheticKeys notDescriptor fits.known
  have idKey : client.records.idKey = codec.idKey := by rw [typed]; rfl
  rw [hitRecord, value, fits.place.hitDocument_filled, idKey, Json.Reader.ok_bind]
  show (client.records.ofDocument (hit.hydrated codec.idKey style)).mapError _ = _ ↔ _
  rw [dispatched]
  cases hit.decoder (hit.hydrated codec.idKey style) <;> simp [Except.mapError]

theorem parse_page {hits : List (StoredHit S)} (stored : ∀ hit ∈ hits, hit.Fits client codec)
    {page : ResultPage} {total : ℕ} (fits : page.Fits total) :
    Json.parse (page.bytes (hits.map bytes)) = .ok (page.body (hits.map value)) := by
  let item (hit : StoredHit S) : Json.Item :=
    hit.place.item (Utf8.encode hit.text) hit.document.toJson
  have all : ∀ i ∈ hits.map item, i.Fits 124 := by
    intro i mem
    obtain ⟨hit, there, rfl⟩ := List.mem_map.mp mem
    exact (stored hit there).item
  have parsed := fits.parse_bytes all
  rwa [List.map_map, List.map_map] at parsed

end StoredHit

/-! ## Searching -/

namespace Client

variable [BEq K] {client : Client S Q} {codec : KindCodec K S}

/-- **What was stored is found.** If a search is answered by a page of hits whose sources are texts
that were sent for records, with an exact total, then the result has this total and, in the order of
the hits, what the decoder of the kind of each makes of its document, provided that all of them
accept. The documents are those that were stored, with the synthetic keys set and nothing else. -/
theorem query_stored (typed : client.records = codec.toRecordCodec)
    (notDescriptor : codec.idKey ≠ typeDescriptorKey) (notStyle : codec.idKey ≠ fetchStyleKey)
    {hits : List (StoredHit S)} (stored : ∀ hit ∈ hits, hit.Fits client codec)
    {page : ResultPage} {total : ℕ} (fits : page.Fits total) (small : total ≤ HitTotal.maximum)
    {status : UInt16} (low : 200 ≤ status.toNat) (high : status.toNat ≤ 299)
    {query : Q} {body : Json} (converts : client.queries.toBody query = .ok body)
    {script : Script} (answers : Answers client.configuration.retryPolicy script
      ⟨some status, page.bytes (hits.map StoredHit.bytes)⟩) (index : String) :
    let style := client.queries.fetchStyle query
    (∀ records,
      ((client.query index query).play script).result = .ok ⟨total, false, records⟩ ↔
        List.Forall₂ (fun hit record => hit.decoder (hit.hydrated codec.idKey style) = .ok record)
          hits records) ∧
    ∀ hit ∈ hits, hit.document.Stamped hit.index codec.idKey hit.id style
      (hit.hydrated codec.idKey style) := by
  intro style
  refine ⟨fun records => ?_, fun hit mem => Document.stamped_withSyntheticKeys notDescriptor
    notStyle⟩
  have success : StatusClass.of ⟨some status, page.bytes (hits.map StoredHit.bytes)⟩ = .success :=
    StatusClass.of_eq_success_iff.mpr ⟨status, rfl, low, high⟩
  have read : Endpoint.conclude (.query index body client.records style)
      ⟨some status, page.bytes (hits.map StoredHit.bytes)⟩ =
        readResult client.records style (page.body (hits.map StoredHit.value)) := by
    rw [Endpoint.conclude_of_success success]
    show Endpoint.readJson _ _ = _
    rw [Endpoint.readJson, Response.json, StoredHit.parse_page stored fits]
    rfl
  rw [result_query converts answers, read]
  exact fits.readResult_eq_ok_iff small
    (fun hit mem => (stored hit mem).hitRecord_eq_ok_iff typed notDescriptor style) records

/-- A record that an engine hands back with an index and an id, after a timeout. -/
theorem query_stored_one :
    let codec : KindCodec Unit Json :=
      ⟨"id", ⟨fun _ => some (), fun _ => "metric"⟩, .ok,
        [((), fun document => .ok document.toJson)]⟩
    let client : Client Json Json := ⟨.standard, codec.toRecordCodec, .plain⟩
    let text := "\x7b\"took\":1,\"hits\":\x7b\"total\":1,\"hits\":" ++
      "[\x7b\"_index\":\"raw-1\",\"_id\":\"a\",\"_source\":\x7b\"n\":5\x7d\x7d]\x7d\x7d"
    let script : Script := Stream'.cons (.error (.timeout .zero "slow"))
      (Stream'.const (.ok ⟨some 200, Utf8.encode text⟩))
    let record : Json := .object [("id", .string "a"), ("n", .int 5),
      ("query_fetch_style", .string "SOURCE_FULL"), ("type_descriptor", .string "raw-1")]
    ((client.query "raw-1" .null).play script).result = .ok ⟨1, false, [record]⟩ := by
  intro codec client text script record
  let hit : StoredHit Json :=
    { record := .object [("n", .int 5)]
      document := ⟨[("n", .int 5)]⟩
      text := (Json.object [("n", .int 5)]).text
      index := "raw-1"
      id := "a"
      decoder := fun document => .ok document.toJson
      place :=
        ⟨[], .printed [("_index", .string "raw-1"), ("_id", .string "a")] "_source" [], []⟩ }
  let page : ResultPage :=
    ⟨[], .printed [("took", .int 1)] "hits" [], .printed [("total", .int 1)] "hits" [], [], []⟩
  have one {depth : ℕ} : Json.Portable depth (.int 1) := .integer (by decide) (by decide)
  have five {depth : ℕ} : Json.Portable depth (.int 5) := .integer (by decide) (by decide)
  have stored : ∀ h ∈ [hit], h.Fits client codec := by
    refine List.forall_mem_singleton.mpr ⟨rfl, ?_, ?_, rfl, ?_⟩
    · exact .object (List.pairwise_singleton _ _) (List.forall_mem_singleton.mpr five)
    · exact (sendsFor_iff rfl).mpr rfl
    · refine ⟨.nil, Json.Surroundings.fits_printed ?_ nofun, rfl, rfl, rfl, .nil⟩
      exact List.forall_mem_cons.mpr ⟨.string _, List.forall_mem_singleton.mpr (.string _)⟩
  have fits : page.Fits 1 :=
    { front := .nil
      outer := Json.Surroundings.fits_printed (List.forall_mem_singleton.mpr one) nofun
      hits := rfl
      inner := Json.Surroundings.fits_printed (List.forall_mem_singleton.mpr one) nofun
      list := rfl
      lead := .nil
      back := .nil
      total := ⟨.int 1, rfl, .number rfl⟩ }
  have bytes : Utf8.encode text = page.bytes ([hit].map StoredHit.bytes) := by decide
  have answers : Answers client.configuration.retryPolicy script
      ⟨some 200, page.bytes ([hit].map StoredHit.bytes)⟩ := by
    rw [← bytes]
    exact .cons_timeout (by decide) rfl _ _
  have converts : client.queries.toBody .null = .ok .null := rfl
  obtain ⟨result, -⟩ := query_stored rfl (by decide) (by decide) stored fits (by decide)
    (by decide) (by decide) converts answers "raw-1"
  have decoded : (hit.hydrated codec.idKey .standard).toJson = record := by decide
  exact (result [record]).mpr (.cons (congrArg Except.ok decoded) .nil)

end Client

end EngineClient
