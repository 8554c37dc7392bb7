import EngineClient.Batch.Plan

/-!
# What a plan holds

The plan of a batch, field by field, in terms of the items that can be converted (`converted`): one
slot for each item of the batch, the count of the converted items, and their lines one after the
other. An item that cannot be converted has a slot and leaves no other trace.
-/

namespace EngineClient.Batch

variable {S : Type} (codec : RecordCodec S)

/-! ## Items -/

/-- The item with its document, if it can be converted. -/
def convert? (item : Upsert S) : Option (Upsert S × Document) :=
  (codec.toDocument item.record).toOption.map fun document => (item, document)

/-- The items that can be converted with their documents, in order. -/
def converted (batch : List (Upsert S)) : List (Upsert S × Document) :=
  batch.filterMap (convert? codec)

/-- The slot of an item. -/
def slotOf (item : Upsert S) : Slot :=
  match codec.toDocument item.record with
  | .ok _ => .sent
  | .error error => .rejected (.failed (some item.id) item.index error.message)

variable {codec} {item : Upsert S} {batch : List (Upsert S)}

theorem slotOf_of_ok {document : Document} (h : codec.toDocument item.record = .ok document) :
    slotOf codec item = .sent := by
  rw [slotOf, h]

theorem slotOf_of_error {error : ConversionError}
    (h : codec.toDocument item.record = .error error) :
    slotOf codec item = .rejected (.failed (some item.id) item.index error.message) := by
  rw [slotOf, h]

theorem converted_cons_of_ok {document : Document}
    (h : codec.toDocument item.record = .ok document) :
    converted codec (item :: batch) = (item, document) :: converted codec batch := by
  rw [converted, List.filterMap_cons, convert?, h]
  rfl

theorem converted_cons_of_error {error : ConversionError}
    (h : codec.toDocument item.record = .error error) :
    converted codec (item :: batch) = converted codec batch := by
  rw [converted, List.filterMap_cons, convert?, h]
  rfl

theorem toDocument_of_mem_converted {document : Document}
    (mem : (item, document) ∈ converted codec batch) :
    codec.toDocument item.record = .ok document := by
  obtain ⟨source, -, found⟩ := List.mem_filterMap.mp mem
  obtain ⟨value, ok, same⟩ := Option.map_eq_some_iff.mp found
  cases same
  cases h : codec.toDocument item.record with
  | ok document =>
    rw [h] at ok
    cases ok
    rfl
  | error error =>
    rw [h] at ok
    cases ok

/-- Dropping the items that cannot be converted changes nothing for the others. -/
theorem converted_map_fst :
    converted codec ((converted codec batch).map Prod.fst) = converted codec batch := by
  induction batch with
  | nil => rfl
  | cons item batch ih =>
    cases h : codec.toDocument item.record with
    | ok document => rw [converted_cons_of_ok h, List.map_cons, converted_cons_of_ok h, ih]
    | error error => rw [converted_cons_of_error h, ih]

/-! ## Plans -/

theorem ofBatch_cons :
    Plan.ofBatch codec (item :: batch) = Plan.add codec item (Plan.ofBatch codec batch) := rfl

theorem add_of_ok {document : Document} (h : codec.toDocument item.record = .ok document)
    (plan : Plan) :
    Plan.add codec item plan =
      ⟨itemLines item document ++ plan.body, .sent :: plan.slots, plan.sentCount + 1⟩ := by
  rw [Plan.add, h]

theorem add_of_error {error : ConversionError} (h : codec.toDocument item.record = .error error)
    (plan : Plan) :
    Plan.add codec item plan = { plan with slots := slotOf codec item :: plan.slots } := by
  rw [slotOf_of_error h, Plan.add, h]

variable (codec batch)

theorem slots_ofBatch : (Plan.ofBatch codec batch).slots = batch.map (slotOf codec) := by
  induction batch with
  | nil => rfl
  | cons item batch ih =>
    rw [ofBatch_cons, List.map_cons, ← ih]
    cases h : codec.toDocument item.record with
    | ok document => rw [add_of_ok h, slotOf_of_ok h]
    | error error => rw [add_of_error h]

theorem sentCount_ofBatch :
    (Plan.ofBatch codec batch).sentCount = (converted codec batch).length := by
  induction batch with
  | nil => rfl
  | cons item batch ih =>
    rw [ofBatch_cons]
    cases h : codec.toDocument item.record with
    | ok document => rw [add_of_ok h, converted_cons_of_ok h, List.length_cons, ih]
    | error error => rw [add_of_error h, converted_cons_of_error h, ih]

theorem body_ofBatch :
    (Plan.ofBatch codec batch).body.toList =
      (converted codec batch).flatMap fun entry => (itemLines entry.1 entry.2).toList := by
  induction batch with
  | nil => rfl
  | cons item batch ih =>
    rw [ofBatch_cons]
    cases h : codec.toDocument item.record with
    | ok document =>
      rw [add_of_ok h, converted_cons_of_ok h, List.flatMap_cons, String.toList_append, ih]
    | error error => rw [add_of_error h, converted_cons_of_error h, ih]

theorem sendsAny_ofBatch :
    (Plan.ofBatch codec batch).sendsAny = true ↔ converted codec batch ≠ [] := by
  rw [Plan.sendsAny, decide_eq_true_iff, sentCount_ofBatch, List.length_pos_iff]

end EngineClient.Batch
