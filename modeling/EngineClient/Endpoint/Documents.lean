import EngineClient.Batch.Answer
import EngineClient.Endpoint.Basic
import EngineClient.Search.Hits

/-!
# Endpoints for documents

Writing, searching and deleting documents. Deleting what is not there succeeds, and searching where
nothing can be found gives the empty result. A single upsert and an item of a batch carry the same
text.
-/

namespace EngineClient

/-- Where the engine put a document. -/
structure Stored where
  /-- The id, chosen by the engine if the request had none. -/
  id : String
  index : String
  deriving DecidableEq

namespace Endpoint

variable {S α : Type}

/-! ## Writing -/

/-- Reads where a document was put; the id is looked for first. -/
def readStored (body : Json) : Except CallError Stored := do
  let id ← requiredText body "_id"
  let index ← requiredText body "_index"
  return ⟨id, index⟩

/-- The path of a document, or the place for a new one. -/
def insertRequest (index : String) : Option String → Request
  | some id => .bare .put [index, "_doc", id]
  | none => .bare .post [index, "_doc"]

/-- Stores a document. -/
def insert (index : String) (id : Option String) (document : Document) : Endpoint Stored where
  operation := "INSERT"
  action := "Insert"
  index := index
  request := (insertRequest index id).withJson document.toJson.text
  read := readJson readStored

/-- Stores a document or updates the one that is there. -/
def upsert (index id : String) (document : Document) : Endpoint UpsertOutcome where
  operation := "UPSERT"
  action := "Update"
  index := index
  request := (Request.bare .post [index, "_update", id]).withJson (Batch.upsertText document)
  read := readJson fun body => do
    let stored ← readStored body
    return .succeeded (some stored.id) stored.index

/-- The name of the index of a call about several. -/
def severalIndexes : String := "multi-index"

/-- Sends a batch of upserts. -/
def upsertBatch (plan : Batch.Plan) : Endpoint BatchOutcome where
  operation := "UPSERT BULK"
  action := "Upsert"
  index := severalIndexes
  request := (Request.bare .post ["_bulk"]).withNdjson plan.body
  read := readJson fun body => do
    return ⟨← plan.outcomes body⟩

/-! ## Searching -/

/-- A search. -/
def searchRequest (index : String) (query : Json) : Request :=
  (Request.bare .get [index, "_search"]).withJson query.text

/-- The documents that a query finds, as records. -/
def query (index : String) (query : Json) (codec : RecordCodec S) (style : FetchStyle) :
    Endpoint (QueryResult S) where
  operation := "QUERY"
  action := "Query"
  index := index
  request := searchRequest index query
  tolerated := [(.badRequest, .empty), (.notFound, .empty)]
  read := readJson (Search.readResult codec style)

/-- How many documents a query finds. -/
def count (index : String) (query : Json) : Endpoint Nat where
  operation := "COUNT"
  action := "Count"
  index := index
  request := searchRequest index query
  tolerated := [(.badRequest, 0), (.notFound, 0)]
  read := readJson fun body => do
    (← HitTotal.ofBody body).exact

/-! ## Deleting -/

/-- Deletes a document. -/
def delete (index id : String) : Endpoint Unit where
  operation := "DELETE"
  action := "Delete"
  index := index
  request := .bare .delete [index, "_doc", id]
  tolerated := [(.notFound, ())]
  read := ignoreBody ()

/-- Deletes the documents that a query finds; a refused query may count as one that finds none. -/
def deleteByQuery (index : String) (query : Json) (toleratesBadRequest : Bool) :
    Endpoint Unit where
  operation := "DELETE BY QUERY"
  action := "Delete by query"
  index := index
  request := (Request.bare .post [index, "_delete_by_query"]).withJson query.text
  tolerated := (.notFound, ()) :: if toleratesBadRequest then [(.badRequest, ())] else []
  read := ignoreBody ()

end Endpoint

end EngineClient
