import EngineClient.Batch.Plan
import EngineClient.Call.Error
import EngineClient.Text.Blank
import EngineClient.RoundTrip.StatusClass

/-!
# Outcomes of a batch

The engine answers a batch with one item for each upsert it was sent, in order. Together with the
items that were never sent they give the outcomes of the whole batch.
-/

namespace EngineClient.Batch

/-! ## One item -/

/-- The reason of a failure that gives none. -/
def emptyMessage : String := "Empty error message"

/-- A text that is there and not blank. -/
def filled? (value : Option Json) : Option String :=
  (value.bind Json.asString?).filter (! Text.isBlankText ·)

/-- Why an item failed: the reason of its error, else its result, else a fixed text. -/
def failureReason (result : Json) : String :=
  (filled? ((result.get? "error").bind (·.get? "reason"))
    <|> filled? (result.get? "result")).getD emptyMessage

/-- The class of an item's own status. -/
def itemClass (result : Json) : StatusClass :=
  .ofStatus ((result.get? "status").bind Json.asSigned?)

/-- The outcome that an item reports. -/
def itemOutcome (item : Json) : Except CallError UpsertOutcome :=
  match item.get? "update" with
  | none => .error (.unexpected s!"Bulk item has no 'update' result: {item.text}")
  | some result =>
    match (result.get? "_index").bind Json.asString? with
    | none => .error (.unexpected s!"Bulk item has no '_index': {result.text}")
    | some index =>
      let id := (result.get? "_id").bind Json.asString?
      if itemClass result = .success then .ok (.succeeded id index)
      else .ok (.failed id index (failureReason result))

/-! ## The batch -/

/-- Gives the items to the slots that were sent, in order. -/
def assign : List Slot → List Json → Except CallError (List UpsertOutcome)
  | [], _ => .ok []
  | .rejected outcome :: slots, items => do
    return outcome :: (← assign slots items)
  | .sent :: _, [] => .error (.unexpected "Bulk response ended early")
  | .sent :: slots, item :: items => do
    let outcome ← itemOutcome item
    return outcome :: (← assign slots items)

/-- The outcomes of a batch, from the response to its plan. -/
def Plan.outcomes (plan : Plan) (response : Json) : Except CallError (List UpsertOutcome) :=
  match (response.get? "items").bind Json.asArray? with
  | none => .error (.unexpected "Bulk response has no 'items' array")
  | some items =>
    if items.length = plan.sentCount then assign plan.slots items
    else
      .error <| .unexpected
        s!"Bulk response has {items.length} items for {plan.sentCount} submitted"

end EngineClient.Batch
