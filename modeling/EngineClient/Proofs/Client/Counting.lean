import EngineClient.Proofs.Client.Converting
import EngineClient.Proofs.Search.Hydration

/-!
# Counting what a query finds

A query and a count may be answered by the same response. The results of the query then have the
total that the count has, but the two do not agree on when it is a lower bound: results are flagged
by every relation but equality, and a count is refused by one relation alone.

**`Client.count_of_query`** says which totals are counted. So a total under a relation such as `gt`
is flagged in results and counted as if it was exact (`Client.count_of_flagged`).
-/

namespace EngineClient.Client

open Call HitTotal Search Fallible

variable {S Q : Type} {client : Client S Q}

/-- How a count goes with the results of a query, if the response states this relation. -/
structure CountsAlong (relation : Option String) (results : QueryResult S)
    (count : Except CallError ℕ) : Prop where
  flagged_iff : results.isLowerBound = true ↔ ∃ r, relation = some r ∧ r ≠ exactRelation
  refused_iff : count = .error windowOverflow ↔ relation = some cappedRelation
  counted_iff : count = .ok results.total ↔ relation ≠ some cappedRelation
  /-- What is not flagged is counted. -/
  unflagged : results.isLowerBound = false → count = .ok results.total

theorem countsAlong_of_bounded {total : HitTotal} {results : QueryResult S}
    (bounded : total.bounded = .ok results.total)
    (lower : results.isLowerBound = total.isLowerBound) :
    CountsAlong total.relation results total.exact := by
  have exact := exact_of_bounded bounded
  have flagged : results.isLowerBound = true ↔
      ∃ r, total.relation = some r ∧ r ≠ exactRelation := by
    rw [lower]
    exact isLowerBound_eq_true_iff
  by_cases capped : total.relation = some cappedRelation
  · rw [if_pos capped] at exact
    rw [exact]
    refine ⟨flagged, iff_of_true rfl capped, iff_of_false nofun (not_not.mpr capped), ?_⟩
    intro unflagged
    rw [flagged.mpr ⟨cappedRelation, capped, by decide⟩] at unflagged
    cases unflagged
  · rw [if_neg capped] at exact
    rw [exact]
    exact ⟨flagged, iff_of_false nofun capped, iff_of_true rfl capped, fun _ => rfl⟩

variable {response : Response} {script : Script}

/-- A count is the total of the response, judged. -/
theorem result_count_of_json (success : StatusClass.of response = .success)
    (answers : Answers client.configuration.retryPolicy script response) {index : String}
    {query : Q} {wanted body : Json} (converts : client.queries.toBody query = .ok wanted)
    (json : response.json = .ok body) :
    ((client.count index query).play script).result = ofBody body >>= HitTotal.exact := by
  rw [result_count converts answers, Endpoint.conclude_of_success success]
  show Endpoint.readJson _ _ = _
  rw [Endpoint.readJson, json]
  rfl

theorem result_count_eq (success : StatusClass.of response = .success)
    (answers : Answers client.configuration.retryPolicy script response) {index : String}
    {query : Q} {wanted body : Json} (converts : client.queries.toBody query = .ok wanted)
    (json : response.json = .ok body) {total : HitTotal} (read : ofBody body = .ok total) :
    ((client.count index query).play script).result = total.exact := by
  rw [result_count_of_json success answers converts json, read]
  rfl

/-- **Counting what a query finds.** If a response with a status of the class success gives results
to a query, then a count that gets the same response has their total, unless the response states
the relation of a capped total. Any other relation but equality flags the results and lets the total
pass for exact in a count. -/
theorem count_of_query {status : UInt16} (low : 200 ≤ status.toNat) (high : status.toNat ≤ 299)
    {bytes : Bytes} {asked counted : Script}
    (asks : Answers client.configuration.retryPolicy asked ⟨some status, bytes⟩)
    (counts : Answers client.configuration.retryPolicy counted ⟨some status, bytes⟩)
    {index : String} {query other : Q} {results : QueryResult S}
    (found : ((client.query index query).play asked).result = .ok results) {wanted : Json}
    (converts : client.queries.toBody other = .ok wanted) (place : String) :
    ∃ body, Json.parse bytes = .ok body ∧
      CountsAlong (statedRelation? body) results
        ((client.count place other).play counted).result := by
  have success : StatusClass.of ⟨some status, bytes⟩ = .success :=
    StatusClass.of_eq_success_iff.mpr ⟨status, rfl, low, high⟩
  obtain ⟨-, body, json, read⟩ := (result_query_eq_ok_iff success asks).mp found
  obtain ⟨total, ofBody, bounded, lower, -⟩ := readResult_eq_ok_iff.mp read
  refine ⟨body, json, ?_⟩
  rw [result_count_eq success counts converts json ofBody, ← relation_of_ofBody ofBody]
  exact countsAlong_of_bounded bounded lower

/-- A capped total, which the count gets behind a timeout. -/
theorem count_of_query_capped :
    let text := "\x7b\"hits\":\x7b\"total\":\x7b\"value\":5,\"relation\":\"gte\"\x7d\x7d\x7d"
    let asked : Script := Stream'.const (.ok ⟨some 200, Utf8.encode text⟩)
    let counted : Script := Stream'.cons (.error (.timeout .zero "slow")) asked
    ((plain.query "raw-1" .null).play asked).result = .ok ⟨5, true, []⟩ ∧
      ((plain.count "raw-1" .null).play counted).result = .error windowOverflow := by
  intro text asked counted
  let body : Json := .object [("hits", .object
    [("total", .object [("relation", .string cappedRelation), ("value", .int 5)])])]
  have json : Json.parse (Utf8.encode text) = .ok body := by decide +kernel
  have asks : Answers plain.configuration.retryPolicy asked ⟨some 200, Utf8.encode text⟩ :=
    answers_const _ _
  have counts : Answers plain.configuration.retryPolicy counted ⟨some 200, Utf8.encode text⟩ :=
    .cons_timeout (by decide) rfl _ _
  have found : ((plain.query "raw-1" .null).play asked).result = .ok ⟨5, true, []⟩ :=
    (result_query_eq_ok_iff rfl asks).mpr ⟨⟨.null, rfl⟩, body, json, rfl⟩
  have converts : plain.queries.toBody .null = .ok .null := rfl
  obtain ⟨read, again, along⟩ :=
    count_of_query (by decide) (by decide) asks counts found converts "raw-1"
  rw [json] at again
  cases again
  exact ⟨found, along.refused_iff.mpr rfl⟩

/-- A total that results report as a lower bound and a count as exact. -/
theorem count_of_flagged :
    let text := "\x7b\"hits\":\x7b\"total\":\x7b\"value\":5,\"relation\":\"gt\"\x7d\x7d\x7d"
    let script : Script := Stream'.const (.ok ⟨some 200, Utf8.encode text⟩)
    ((plain.query "raw-1" .null).play script).result = .ok ⟨5, true, []⟩ ∧
      ((plain.count "raw-1" .null).play script).result = .ok 5 := by
  intro text script
  let body : Json := .object [("hits", .object
    [("total", .object [("relation", .string "gt"), ("value", .int 5)])])]
  have json : Json.parse (Utf8.encode text) = .ok body := by decide +kernel
  have answers : Answers plain.configuration.retryPolicy script ⟨some 200, Utf8.encode text⟩ :=
    answers_const _ _
  have read : ofBody body = .ok ⟨5, some "gt"⟩ := rfl
  constructor
  · exact (result_query_eq_ok_iff rfl answers).mpr ⟨⟨.null, rfl⟩, body, json, rfl⟩
  · exact result_count_eq rfl answers rfl json read

end EngineClient.Client
