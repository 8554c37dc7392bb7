import EngineClient.Proofs.Client.Counting

/-!
# Totals that a client reports

A client goes by the total of a response in two calls. The results of a query have it as it was read
if it is small enough, and a count is the same number if the relation is not that of a capped total
(`HitTotal.judges`). Neither call passes a total that was not read exactly for another one, zero
included: **`Client.total_of_response`**.
-/

namespace EngineClient

open Call HitTotal Search Fallible

/-! ## Judging -/

/-- What a result and a count make of a total. -/
structure HitTotal.Judged (total : HitTotal) : Prop where
  bounded_ok_iff : ∀ n, total.bounded = .ok n ↔ total.value ≤ 2 ^ 31 - 1 ∧ n = total.value
  bounded_error_iff : ∀ error, total.bounded = .error error ↔
    2 ^ 31 - 1 < total.value ∧ error = .overflow total.value
  /-- A count does not look at a capped total. -/
  exact_capped : total.relation = some cappedRelation → total.exact = .error windowOverflow
  exact_uncapped : total.relation ≠ some cappedRelation → total.exact = total.bounded

theorem HitTotal.judges (total : HitTotal) : total.Judged where
  bounded_ok_iff _ := bounded_eq_ok_iff
  bounded_error_iff _ := bounded_eq_error_iff
  exact_capped capped := if_pos capped
  exact_uncapped uncapped := if_neg uncapped

namespace Client

/-! ## Calls -/

section

variable {S Q : Type}

/-- The script answers the calls of the client by a success with this body. -/
def Tells (client : Client S Q) (script : Script) (body : Json) : Prop :=
  ∃ response, Answers client.configuration.retryPolicy script response ∧
    StatusClass.of response = .success ∧ response.json = .ok body

/-- How a query and a count go by the total that is read in a response. -/
structure GoBy (read : Except CallError HitTotal) (queried : Except CallError (QueryResult S))
    (counted : Except CallError ℕ) : Prop where
  /-- A total that is not accepted is the failure of the query, whatever the hits are. -/
  refused : ∀ error, read >>= bounded = .error error → queried = .error error
  found : ∀ results, queried = .ok results → read >>= bounded = .ok results.total
  counted : counted = read >>= exact

variable {client : Client S Q} {body : Json} {asked counted : Script}

theorem goBy_total (asks : client.Tells asked body) (counts : client.Tells counted body)
    {query other : Q} {one two : Json} (converts : client.queries.toBody query = .ok one)
    (converts' : client.queries.toBody other = .ok two) (index place : String) :
    GoBy (ofBody body) ((client.query index query).play asked).result
      ((client.count place other).play counted).result where
  refused error refused := by
    obtain ⟨response, answers, success, json⟩ := asks
    rw [result_query converts answers, Endpoint.conclude_of_success success]
    show Endpoint.readJson _ _ = _
    rw [Endpoint.readJson, json]
    exact readResult_eq_error_of_total refused
  found results found := by
    obtain ⟨response, answers, success, json⟩ := asks
    obtain ⟨-, _, again, read⟩ := (result_query_eq_ok_iff success answers).mp found
    cases json.symm.trans again
    obtain ⟨total, ofBody, bounded, -, -⟩ := readResult_eq_ok_iff.mp read
    exact bind_eq_ok_iff.mpr ⟨total, ofBody, bounded⟩
  counted := by
    obtain ⟨response, answers, success, json⟩ := counts
    exact result_count_of_json success answers converts' json

end

/-- **A total is read exactly or refused.** An absent total is zero. A number counts as the natural
number it is, whatever its spelling and wherever it stands, and anything else is refused for what it
is. Of the totals that are read, a query accepts what a result can hold, and a count besides asks
that the total is not capped. -/
theorem total_of_response (body : Json) :
    ReadsExactly body (ofBody body) ∧
    (∀ other, SameStatement (statedTotal? body) (statedTotal? other) →
      Alike ((ofBody body).map HitTotal.value) ((ofBody other).map HitTotal.value)) ∧
    (∀ total : HitTotal, total.Judged) ∧
    ∀ {S Q : Type} {client : Client S Q} {asked counted : Script} {query other : Q}
      {one two : Json},
      client.Tells asked body → client.Tells counted body →
      client.queries.toBody query = .ok one → client.queries.toBody other = .ok two →
      ∀ index place, GoBy (ofBody body) ((client.query index query).play asked).result
        ((client.count place other).play counted).result :=
  ⟨readsExactly_ofBody body, fun _ => alike_ofBody, judges,
    fun asks counts => goBy_total asks counts⟩

/-- A total that is one too many for a result, as a float in an object and as an integer without. -/
theorem total_of_response_spelled :
    let text := "\x7b\"hits\":\x7b\"total\":\x7b\"value\":2147483648.0\x7d\x7d\x7d"
    let legacy : Json := .object [("hits", .object [("total", .int 2147483648)])]
    let script : Script := Stream'.const (.ok ⟨some 200, Utf8.encode text⟩)
    ((plain.query "raw-1" .null).play script).result = .error (.overflow 2147483648) ∧
      ((plain.count "raw-1" .null).play script).result = .error (.overflow 2147483648) ∧
      ∃ body, Json.parse (Utf8.encode text) = .ok body ∧
        Alike ((ofBody body).map HitTotal.value) ((ofBody legacy).map HitTotal.value) := by
  intro text legacy script
  let body : Json := .object [("hits", .object
    [("total", .object [("value", .number (.float ⟨false, 1 <<< 52, -21⟩))])])]
  have json : Json.parse (Utf8.encode text) = .ok body := by decide +kernel
  have tells : plain.Tells script body := ⟨_, answers_const _ _, rfl, json⟩
  obtain ⟨-, alike, judged, calls⟩ := total_of_response body
  have goBy := calls tells tells (rfl : plain.queries.toBody .null = .ok .null)
    (rfl : plain.queries.toBody .null = .ok .null) "raw-1" "raw-1"
  have read : ofBody body = .ok ⟨2147483648, none⟩ := rfl
  have large : bounded ⟨2147483648, none⟩ = .error (.overflow 2147483648) :=
    ((judged _).bounded_error_iff _).mpr ⟨by decide, rfl⟩
  refine ⟨goBy.refused _ ?_, ?_, body, json, alike legacy (.number rfl)⟩
  · rw [read]
    exact large
  · rw [goBy.counted, read]
    exact large

end Client

end EngineClient
