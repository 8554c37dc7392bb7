import EngineClient.Client.Basic
import EngineClient.Proofs.Endpoint.Asking

/-!
# Commands that convert first

A command on a record or a query converts it and then asks one endpoint. If the conversion fails,
that is all it does. If not, the command is the call of the endpoint, so what the endpoint makes of
a response is the result of the command (`Client.result_query`, `Client.result_count`).
-/

namespace EngineClient.Client

open Call Operation

variable {S Q : Type} {client : Client S Q} {record : S} {query : Q}

/-! ## Records -/

theorem insert_of_ok {document : Document} (h : client.records.toDocument record = .ok document)
    (index : String) (id : Option String) :
    client.insert index id record = client.ask (.insert index id document) := by
  rw [insert, documentOf, h]
  rfl

theorem upsert_of_ok {item : Upsert S} {document : Document}
    (h : client.records.toDocument item.record = .ok document) :
    client.upsert item = client.ask (.upsert item.index item.id document) := by
  rw [upsert, documentOf, h]
  rfl

/-! ## Queries -/

theorem query_of_ok {body : Json} (h : client.queries.toBody query = .ok body) (index : String) :
    client.query index query =
      client.ask (.query index body client.records (client.queries.fetchStyle query)) := by
  rw [Client.query, bodyOf, h]
  rfl

theorem count_of_ok {body : Json} (h : client.queries.toBody query = .ok body) (index : String) :
    client.count index query = client.ask (.count index body) := by
  rw [Client.count, bodyOf, h]
  rfl

variable {script : Script} {response : Response}

theorem exists_toBody_of_query {index : String} {results : QueryResult S}
    (found : ((client.query index query).play script).result = .ok results) :
    ∃ body, client.queries.toBody query = .ok body := by
  cases h : client.queries.toBody query with
  | ok body => exact ⟨body, rfl⟩
  | error cause =>
    rw [Client.query, bodyOf, h] at found
    cases found

theorem result_query {body : Json} (converts : client.queries.toBody query = .ok body)
    (answers : Answers client.configuration.retryPolicy script response) (index : String) :
    ((client.query index query).play script).result =
      (Endpoint.query index body client.records (client.queries.fetchStyle query)).conclude
        response := by
  rw [query_of_ok converts, ask, Endpoint.result_call _ answers]

theorem result_query_eq_ok_iff (success : StatusClass.of response = .success)
    (answers : Answers client.configuration.retryPolicy script response) {index : String}
    {results : QueryResult S} :
    ((client.query index query).play script).result = .ok results ↔
      (∃ wanted, client.queries.toBody query = .ok wanted) ∧ ∃ body, response.json = .ok body ∧
        Search.readResult client.records (client.queries.fetchStyle query) body = .ok results := by
  have read_iff {wanted : Json} (converts : client.queries.toBody query = .ok wanted) :
      ((client.query index query).play script).result = .ok results ↔
        ∃ body, response.json = .ok body ∧ Search.readResult client.records
          (client.queries.fetchStyle query) body = .ok results := by
    rw [result_query converts answers, Endpoint.conclude_of_success success]
    exact Endpoint.readJson_eq_ok_iff
  constructor
  · intro found
    obtain ⟨wanted, converts⟩ := exists_toBody_of_query found
    exact ⟨⟨wanted, converts⟩, (read_iff converts).mp found⟩
  · rintro ⟨⟨wanted, converts⟩, read⟩
    exact (read_iff converts).mpr read

theorem result_count {body : Json} (converts : client.queries.toBody query = .ok body)
    (answers : Answers client.configuration.retryPolicy script response) (index : String) :
    ((client.count index query).play script).result =
      (Endpoint.count index body).conclude response := by
  rw [count_of_ok converts, ask, Endpoint.result_call _ answers]

end EngineClient.Client
