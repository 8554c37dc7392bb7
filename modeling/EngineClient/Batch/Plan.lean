import EngineClient.Batch.Outcome
import EngineClient.Record.Codec

/-!
# Bulk bodies

A batch of upserts goes out in one body: for each item a command line and a line with its document.
Items that cannot be converted are left out and remembered as failures, so that every item of the
batch has a slot in the plan.
-/

namespace EngineClient

/-- Insert or update a record under an index and an id. -/
structure Upsert (S : Type) where
  index : String
  id : String
  record : S

namespace Batch

variable {S : Type}

/-! ## Lines -/

/-- The text that upserts a document, by itself or in a batch. -/
def upsertText (document : Document) : String :=
  (Json.object [("doc", document.toJson), ("doc_as_upsert", .bool true)]).text

/-- The text that names the document to upsert. -/
def commandText (index id : String) : String :=
  (Json.object [("update", .object [("_id", .string id), ("_index", .string index)])]).text

/-- The lines of one item. -/
def itemLines (item : Upsert S) (document : Document) : String :=
  commandText item.index item.id ++ "\n" ++ upsertText document ++ "\n"

/-! ## Plans -/

/-- What became of an item of the batch. -/
inductive Slot where
  /-- It is in the body. -/
  | sent
  /-- It could not be converted. -/
  | rejected (outcome : UpsertOutcome)

/-- A batch ready to be sent. -/
structure Plan where
  body : String
  /-- One slot for each item, in order. -/
  slots : List Slot
  /-- How many items are in the body. -/
  sentCount : Nat

/-- The plan of an empty batch. -/
def Plan.empty : Plan := ⟨"", [], 0⟩

/-- Puts an item in front of a plan. -/
def Plan.add (codec : RecordCodec S) (item : Upsert S) (plan : Plan) : Plan :=
  match codec.toDocument item.record with
  | .ok document =>
    ⟨itemLines item document ++ plan.body, .sent :: plan.slots, plan.sentCount + 1⟩
  | .error error =>
    let outcome := UpsertOutcome.failed (some item.id) item.index error.message
    { plan with slots := .rejected outcome :: plan.slots }

/-- The plan of a batch. -/
def Plan.ofBatch (codec : RecordCodec S) (batch : List (Upsert S)) : Plan :=
  batch.foldr (Plan.add codec) Plan.empty

/-- Whether anything has to be sent. -/
def Plan.sendsAny (plan : Plan) : Bool :=
  0 < plan.sentCount

/-- The outcomes if nothing is sent. -/
def Plan.rejections (plan : Plan) : List UpsertOutcome :=
  plan.slots.filterMap fun
    | .rejected outcome => some outcome
    | .sent => none

end Batch

end EngineClient
