import EngineClient.Configuration.Basic
import EngineClient.Endpoint.Documents
import EngineClient.Endpoint.Indexes

/-!
# The client

The calls of a client on records of type `S` and queries of type `Q`. A record or a query is
converted first, so a failed conversion sends nothing. Most calls then ask one endpoint; a batch of
upserts asks none if there is nothing to send, and deleting a list of indexes asks once for each.
-/

namespace EngineClient

/-- A client. -/
structure Client (S Q : Type) where
  configuration : Configuration
  records : RecordCodec S
  queries : QueryCodec Q

namespace Client

/-- The client of plain records and queries, with the standard configuration. -/
def plain : Client Json Json :=
  ⟨.standard, .plain, .plain⟩

variable {S Q α : Type}

/-! ## Steps -/

/-- Asks an endpoint by the retry policy of the client. -/
def ask (client : Client S Q) (endpoint : Endpoint α) : Operation α :=
  endpoint.call client.configuration.retryPolicy

/-- The document of a record. -/
def documentOf (client : Client S Q) (record : S) : Operation Document :=
  Operation.ofExcept ((client.records.toDocument record).mapError .conversion)

/-- The body of a query. -/
def bodyOf (client : Client S Q) (query : Q) : Operation Json :=
  Operation.ofExcept ((client.queries.toBody query).mapError .conversion)

/-! ## Documents -/

/-- Stores a record, under an id of the engine's choice if none is given. -/
def insert (client : Client S Q) (index : String) (id : Option String) (record : S) :
    Operation Stored := do
  client.ask (.insert index id (← client.documentOf record))

/-- Stores a record or updates the one that is there. -/
def upsert (client : Client S Q) (item : Upsert S) : Operation UpsertOutcome := do
  client.ask (.upsert item.index item.id (← client.documentOf item.record))

/-- Stores a batch of records in one round trip. A record that cannot be converted is a failure of
its own and does not stop the others. -/
def upsertBatch (client : Client S Q) (batch : List (Upsert S)) : Operation BatchOutcome :=
  let plan := Batch.Plan.ofBatch client.records batch
  if plan.sendsAny then client.ask (.upsertBatch plan)
  else Operation.ofExcept (.ok ⟨plan.rejections⟩)

/-- The records that a query finds. -/
def query (client : Client S Q) (index : String) (query : Q) : Operation (QueryResult S) := do
  let body ← client.bodyOf query
  client.ask (.query index body client.records (client.queries.fetchStyle query))

/-- The first record that a query finds. -/
def find (client : Client S Q) (index : String) (query : Q) : Operation (Option S) := do
  return (← client.query index query).first?

/-- How many records a query finds. -/
def count (client : Client S Q) (index : String) (query : Q) : Operation Nat := do
  client.ask (.count index (← client.bodyOf query))

/-- Deletes a record. -/
def delete (client : Client S Q) (index id : String) : Operation Unit :=
  client.ask (.delete index id)

/-- Deletes the records that a query finds. -/
def deleteByQuery (client : Client S Q) (index : String) (query : Q) : Operation Unit := do
  let body ← client.bodyOf query
  client.ask (.deleteByQuery index body client.configuration.toleratesBadRequest)

/-! ## Indexes -/

/-- Deletes indexes one by one, up to the first that cannot be deleted. -/
def deleteIndexes (client : Client S Q) : List String → Operation Unit
  | [] => Operation.ofExcept (.ok ())
  | index :: indexes => do
    client.ask (.deleteIndex index)
    client.deleteIndexes indexes

end Client

end EngineClient
