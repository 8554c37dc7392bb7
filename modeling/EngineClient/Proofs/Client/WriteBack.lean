import EngineClient.Proofs.Batch.Framing
import EngineClient.Proofs.Endpoint.Judging
import EngineClient.Proofs.Record.Recoding
import EngineClient.Proofs.Search.Hydration

/-!
# Records that are written back

A record that a search brought was decoded from a document with synthetic keys. When it is written
again, its document goes out as the codec made it (`Client.Writes`), because the client takes no key
out of a document.

**`Client.writes_of_returns`**: so a synthetic key gets into the store if the codec keeps it, even
if it is not in the stored fields of the hit, and it stays out if the codec forgets it.
-/

namespace EngineClient.Client

open Call Operation Search Batch

variable {S Q : Type}

/-! ## Reading -/

/-- The client hands the record over for this response, fetched in this style: it is among the
records that a query finds, or it is the one that is found first. -/
inductive Returns (client : Client S Q) (response : Response) : FetchStyle → S → Prop
  | query {script : Script} {index : String} {query : Q} {results : QueryResult S} {record : S}
      (answers : Answers client.configuration.retryPolicy script response)
      (found : ((client.query index query).play script).result = .ok results)
      (mem : record ∈ results.records) :
      Returns client response (client.queries.fetchStyle query) record
  | find {script : Script} {index : String} {query : Q} {record : S}
      (answers : Answers client.configuration.retryPolicy script response)
      (found : ((client.find index query).play script).result = .ok (some record)) :
      Returns client response (client.queries.fetchStyle query) record

variable {client : Client S Q} {response : Response} {style : FetchStyle} {record : S}

/-- What is found first is one of the records that the query finds. -/
theorem exists_query_of_find {script : Script} {index : String} {query : Q}
    (found : ((client.find index query).play script).result = .ok (some record)) :
    ∃ results, ((client.query index query).play script).result = .ok results ∧
      record ∈ results.records := by
  have split : client.find index query =
      (client.query index query >>= fun results => Operation.ofExcept (.ok results.first?)) := rfl
  rw [split, play_bind_ofExcept] at found
  obtain ⟨results, queried, first⟩ := Fallible.bind_eq_ok_iff.mp found
  exact ⟨results, queried, List.mem_of_head? (Except.ok.inj first)⟩

/-- A class that is tolerated stands for no records. -/
theorem success_of_mem_records {index : String} {body : Json} {codec : RecordCodec S}
    {results : QueryResult S}
    (concluded : (Endpoint.query index body codec style).conclude response = .ok results)
    (mem : record ∈ results.records) : StatusClass.of response = .success := by
  by_contra other
  rw [Endpoint.conclude_of_ne_success other] at concluded
  cases cls : StatusClass.of response with
  | success => exact other cls
  | badRequest =>
    rw [cls] at concluded
    cases concluded
    cases mem
  | notFound =>
    rw [cls] at concluded
    cases concluded
    cases mem
  | other =>
    rw [cls] at concluded
    cases concluded

theorem Returns.exists_becomes (returned : client.Returns response style record) :
    ∃ body hit, response.json = .ok body ∧ hit ∈ hitsOf body ∧
      Becomes client.records style hit record := by
  -- what is found first was found by a query, so both cases come down to this
  have of_query {script : Script} {index : String} {query : Q} {results : QueryResult S}
      (answers : Answers client.configuration.retryPolicy script response)
      (found : ((client.query index query).play script).result = .ok results)
      (mem : record ∈ results.records) :
      ∃ body hit, response.json = .ok body ∧ hit ∈ hitsOf body ∧
        Becomes client.records (client.queries.fetchStyle query) hit record := by
    obtain ⟨wanted, converts⟩ := exists_toBody_of_query found
    have concluded := found
    rw [result_query converts answers] at concluded
    have success := success_of_mem_records concluded mem
    obtain ⟨-, body, json, read⟩ := (result_query_eq_ok_iff success answers).mp found
    obtain ⟨-, -, -, -, all⟩ := readResult_eq_ok_iff.mp read
    obtain ⟨hit, there, becomes⟩ := Fallible.exists_mem_of_forall₂ all mem
    exact ⟨body, hit, json, there, becomes⟩
  cases returned with
  | query answers found mem => exact of_query answers found mem
  | find answers found =>
    obtain ⟨results, queried, mem⟩ := exists_query_of_find found
    exact of_query answers queried mem

/-- Any response of the class success hands its records over. -/
theorem returns_of_readResult (success : StatusClass.of response = .success) {body wanted : Json}
    (json : response.json = .ok body) {query : Q}
    (converts : client.queries.toBody query = .ok wanted) {results : QueryResult S}
    (read : readResult client.records (client.queries.fetchStyle query) body = .ok results)
    (mem : record ∈ results.records) :
    client.Returns response (client.queries.fetchStyle query) record := by
  have answers := answers_const client.configuration.retryPolicy response
  have found : ((client.query "" query).play (Stream'.const (.ok response))).result = .ok results :=
    (result_query_eq_ok_iff success answers).mpr ⟨⟨wanted, converts⟩, body, json, read⟩
  exact .query answers found mem

/-! ## Writing -/

/-- The document is what the client sends for the record, whichever way the record is written. -/
structure Writes (client : Client S Q) (record : S) (document : Document) : Prop where
  insert : ∀ index id,
    (client.insert index id record).Sends (· = .json document.toJson.text)
  upsert : ∀ index id,
    (client.upsert ⟨index, id, record⟩).Sends (· = .json (upsertText document))
  /-- In a batch, its line is behind the lines of the earlier items that can be converted. -/
  batch : ∀ earlier index id later,
    (client.upsertBatch (earlier ++ ⟨index, id, record⟩ :: later)).Sends fun body =>
      ∃ text, body = .ndjson text ∧
        (Text.piecesOf '\n' text.toList)[2 * (converted client.records earlier).length + 1]? =
          some (upsertText document).toList

theorem writes_of_ok {document : Document} (h : client.records.toDocument record = .ok document) :
    client.Writes record document where
  insert index id := by
    rw [insert_of_ok h]
    exact Endpoint.sends_call _ _ rfl rfl
  upsert index id := by
    rw [upsert_of_ok h]
    exact Endpoint.sends_call _ _ rfl rfl
  batch earlier index id later := by
    let item : Upsert S := ⟨index, id, record⟩
    have sent : converted client.records (earlier ++ item :: later) =
        converted client.records earlier ++ (item, document) :: converted client.records later := by
      rw [converted, List.filterMap_append]
      exact congrArg _ (converted_cons_of_ok h)
    have sends : (Plan.ofBatch client.records (earlier ++ item :: later)).sendsAny = true := by
      rw [sendsAny_ofBatch, sent]
      simp
    rw [upsertBatch, if_pos sends]
    -- an earlier item that cannot be converted has no lines, so it does not count
    have position : (converted client.records earlier ++ (item, document) ::
        converted client.records later)[(converted client.records earlier).length]? =
          some (item, document) := by
      rw [List.getElem?_append_right le_rfl, Nat.sub_self]
      rfl
    refine Endpoint.sends_call _ _ rfl ⟨_, rfl, ?_⟩
    rw [body_eq_terminated, Text.piecesOf_terminated (newline_notMem_linesOf _), sent]
    exact (getElem?_linesOf position [[]]).2

/-! ## Reading and writing back -/

/-- A record from a response was decoded from the stored fields of a hit, stamped, and is encoded
from there. -/
theorem Returns.exists_recodes {K : Type} [BEq K] {codec : KindCodec K S}
    (typed : client.records = codec.toRecordCodec)
    (returned : client.Returns response style record) {written : Document}
    (converts : codec.toDocument record = .ok written) :
    ∃ body hits hit index id source, response.json = .ok body ∧ HitsAt body hits ∧ hit ∈ hits ∧
      IsHit hit index id source ∧
        codec.Recodes (source.withSyntheticKeys index codec.idKey id style) record written := by
  obtain ⟨body, hit, json, mem, index, id, source, members, decoded⟩ := returned.exists_becomes
  rw [typed] at decoded
  exact ⟨body, _, hit, index, id, source, json, hitsAt_hitsOf body, mem, members,
    KindCodec.recodes_of_ofDocument decoded converts⟩

/-- **What is written back.** If a record was brought by a search and can be converted, then its
document is what the client writes for it, as the codec made it of the stored fields of a hit and
the synthetic keys. A type descriptor or a fetch style that the codec forgets is not written; one
that the codec keeps is written, whether or not it is among the stored fields. -/
theorem writes_of_returns {K : Type} [BEq K] {codec : KindCodec K S}
    (typed : client.records = codec.toRecordCodec)
    (returned : client.Returns response style record) {written : Document}
    (converts : codec.toDocument record = .ok written) :
    client.Writes record written ∧
    ∃ body hits hit index id source, response.json = .ok body ∧ HitsAt body hits ∧ hit ∈ hits ∧
      IsHit hit index id source ∧
      codec.Recodes (source.withSyntheticKeys index codec.idKey id style) record written ∧
      ∀ key ∈ reservedKeys,
        (codec.Forgets key → written.contains key = false) ∧
        (codec.Keeps key → written.contains key = true) := by
  have sent : client.records.toDocument record = .ok written := by
    rw [typed]
    exact converts
  obtain ⟨body, hits, hit, index, id, source, json, found, mem, members, recodes⟩ :=
    returned.exists_recodes typed converts
  refine ⟨writes_of_ok sent, body, hits, hit, index, id, source, json, found, mem, members,
    recodes, ?_⟩
  intro key reserved
  refine ⟨fun forgets => forgets _ _ _ recodes, fun keeps => keeps _ _ _ recodes ?_⟩
  exact Document.contains_withSyntheticKeys_of_reserved reserved

/-- A client record keeps the synthetic keys out, although it has the style under a name of its
own. -/
theorem writes_of_returns_client :
    let codec := Telemetry.codec "id" [.metric, .client] .ok
    let client : Client Json Json := ⟨.standard, codec.toRecordCodec, .plain⟩
    let text := "\x7b\"hits\":\x7b\"total\":1,\"hits\":" ++
      "[\x7b\"_index\":\"clients-1\",\"_id\":\"c\"\x7d]\x7d\x7d"
    let written : Document := ⟨[("fields", .object
      [("id", .string "c"), ("type_descriptor", .string "clients-1")]),
        ("kind", .string "Client"), ("style", .string "SOURCE_FULL")]⟩
    client.Returns ⟨some 200, Utf8.encode text⟩ .sourceFull written.toJson ∧
      client.Writes written.toJson written ∧
        ∀ key ∈ reservedKeys, written.contains key = false := by
  intro codec client text written
  let hit : Json := .object [("_id", .string "c"), ("_index", .string "clients-1")]
  let body : Json := .object [("hits", .object [("hits", .array [hit]), ("total", .int 1)])]
  have json : Response.json ⟨some 200, Utf8.encode text⟩ = .ok body := by decide +kernel
  have known : codec.decoderOf "clients-1" = .ok (Telemetry.decoder .client) := rfl
  have stamped : Document.empty.withSyntheticKeys "clients-1" codec.idKey "c" .sourceFull =
      ⟨[("id", .string "c"), ("query_fetch_style", .string "SOURCE_FULL"),
        ("type_descriptor", .string "clients-1")]⟩ := congrArg Document.mk (by decide)
  have decoded : codec.ofDocument (Document.empty.withSyntheticKeys "clients-1" codec.idKey "c"
      .sourceFull) = .ok written.toJson := by
    rw [KindCodec.ofDocument_withSyntheticKeys (by decide) known, stamped]
    rfl
  have becomes : Becomes client.records .sourceFull hit written.toJson :=
    ⟨"clients-1", "c", .empty, ⟨rfl, rfl, .absent rfl⟩, decoded⟩
  have read : readResult client.records .sourceFull body = .ok ⟨1, false, [written.toJson]⟩ :=
    readResult_eq_ok_iff.mpr ⟨⟨1, none⟩, rfl, rfl, rfl, .cons becomes .nil⟩
  have converts : client.queries.toBody .null = .ok .null := rfl
  have returned : client.Returns ⟨some 200, Utf8.encode text⟩ .sourceFull written.toJson :=
    returns_of_readResult rfl json converts read List.mem_cons_self
  obtain ⟨writes, _, _, _, _, _, _, _, _, _, _, _, keys⟩ := writes_of_returns rfl returned rfl
  refine ⟨returned, writes, fun key reserved => ?_⟩
  exact (keys key reserved).1 (Telemetry.forgets_of_not_raw (by decide) reserved)

/-- A raw document is found without synthetic keys and is written with them. -/
theorem writes_of_raw :
    let codec := Telemetry.codec "id" [.raw] .ok
    let client : Client Json Json := ⟨.standard, codec.toRecordCodec, .plain⟩
    let text := "\x7b\"hits\":\x7b\"total\":1,\"hits\":" ++
      "[\x7b\"_index\":\"raw-1\",\"_id\":\"a\",\"_source\":\x7b\"n\":5\x7d\x7d]\x7d\x7d"
    let hit : Json := .object [("_id", .string "a"), ("_index", .string "raw-1"),
      ("_source", .object [("n", .int 5)])]
    let body : Json := .object [("hits", .object [("hits", .array [hit]), ("total", .int 1)])]
    let written : Document := ⟨[("id", .string "a"), ("n", .int 5),
      ("query_fetch_style", .string "SOURCE_FULL"), ("type_descriptor", .string "raw-1")]⟩
    Json.parse (Utf8.encode text) = .ok body ∧ HitsAt body [hit] ∧
      client.Returns ⟨some 200, Utf8.encode text⟩ .sourceFull written.toJson ∧
      client.Writes written.toJson written ∧ ∀ key ∈ reservedKeys,
        written.contains key = true ∧
          ∀ index id source, IsHit hit index id source → source.contains key = false := by
  intro codec client text hit body written
  have json : Response.json ⟨some 200, Utf8.encode text⟩ = .ok body := by decide +kernel
  have known : codec.decoderOf "raw-1" = .ok (Telemetry.decoder .raw) := rfl
  let source : Document := ⟨[("n", .int 5)]⟩
  have decoded : codec.ofDocument (source.withSyntheticKeys "raw-1" codec.idKey "a" .sourceFull) =
      .ok written.toJson := by
    rw [KindCodec.ofDocument_withSyntheticKeys (by decide) known]
    exact congrArg Except.ok (by decide)
  have becomes : Becomes client.records .sourceFull hit written.toJson :=
    ⟨"raw-1", "a", source, ⟨rfl, rfl, .object rfl⟩, decoded⟩
  have read : readResult client.records .sourceFull body = .ok ⟨1, false, [written.toJson]⟩ :=
    readResult_eq_ok_iff.mpr ⟨⟨1, none⟩, rfl, rfl, rfl, .cons becomes .nil⟩
  have converts : client.queries.toBody .null = .ok .null := rfl
  have encoded : codec.toDocument written.toJson = .ok written := rfl
  refine ⟨json, .array rfl, returns_of_readResult rfl json converts read List.mem_cons_self,
    writes_of_ok encoded, ?_⟩
  intro key reserved
  constructor
  · apply Telemetry.keeps_raw _ _ _ (KindCodec.recodes_of_ofDocument decoded encoded)
    exact Document.contains_withSyntheticKeys_of_reserved reserved
  · intro index id source members
    cases members.source with
    | absent missing => cases missing
    | null found => cases found
    | object found =>
      cases found
      rcases mem_reservedKeys.mp reserved with rfl | rfl <;> rfl

end EngineClient.Client
