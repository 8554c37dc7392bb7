import EngineClient.Record.Codec
import EngineClient.Search.Result
import EngineClient.Search.HitTotal

/-!
# Hits

Turning the hits of a search response into records. The total is judged first. Then every hit
becomes a document, which is its source with the three synthetic keys set over it, and the document
a record. The first hit that fails decides the failure of the whole.
-/

namespace EngineClient.Search

variable {S : Type}

/-- A text that every hit has. -/
def hitText (hit : Json) (key : String) : Except CallError String :=
  match (hit.get? key).bind Json.asString? with
  | some text => .ok text
  | none => .error (.unexpected s!"Search hit has no '{key}': {hit.text}")

/-- The stored fields of a hit; a hit may come without a source. -/
def hitSource (hit : Json) : Except CallError Document :=
  match hit.get? "_source" with
  | none | some .null => .ok .empty
  | some source => (Document.ofJson source).mapError .conversion

/-- The document of a hit. -/
def hitDocument (idKey : String) (style : FetchStyle) (hit : Json) :
    Except CallError Document := do
  let id ← hitText hit "_id"
  let index ← hitText hit "_index"
  let source ← hitSource hit
  return source.withSyntheticKeys index idKey id style

/-- The record of a hit. -/
def hitRecord (codec : RecordCodec S) (style : FetchStyle) (hit : Json) : Except CallError S := do
  let document ← hitDocument codec.idKey style hit
  (codec.ofDocument document).mapError .conversion

/-- The hits of a response, none if it has no array of them. -/
def hitsOf (body : Json) : List Json :=
  (((body.get? "hits").bind (·.get? "hits")).bind Json.asArray?).getD []

/-- The result of a search response. -/
def readResult (codec : RecordCodec S) (style : FetchStyle) (body : Json) :
    Except CallError (QueryResult S) := do
  let total ← HitTotal.ofBody body
  let count ← total.bounded
  let records ← (hitsOf body).mapM (hitRecord codec style)
  return ⟨count, total.isLowerBound, records⟩

end EngineClient.Search
