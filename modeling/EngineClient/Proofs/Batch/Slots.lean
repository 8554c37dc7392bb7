import EngineClient.Proofs.Batch.Framing
import EngineClient.Proofs.Batch.Reconciliation
import EngineClient.Proofs.Fallible

/-!
# Slots of a plan

A plan keeps three accounts of its batch side by side: the slots, the count of the items that were
sent, and the body. They are `Balanced`: `Plan.Balanced.add` says so of one more item, and
`Plan.balanced_ofBatch` of the whole batch.

To give out the elements of a response then is to read them one after the other and to fill the slots
with what they say (`assign_eq_map_fill`). So a response is refused for its items or for one of its
elements (`Plan.Refuses`), and never because the elements run out; and if nothing was sent, there is
nothing to fill in, and the slots are the outcomes (`Plan.rejections_eq_fill`).

**`Client.upsertBatch_balanced`**: so the answer without a round trip is the one that the engine's
empty answer would lead to, and it has an outcome for each item.
-/

namespace EngineClient

open Call

namespace Batch

variable {S : Type}

/-! ## Balanced plans -/

/-- Whether the item of a slot is in the body. -/
def Slot.isSent : Slot → Bool
  | .sent => true
  | .rejected _ => false

namespace Plan

/-- How many slots have their items in the body. -/
def sentSlots (plan : Plan) : Nat :=
  plan.slots.countP Slot.isSent

/-- The parts of a plan agree on the items that were sent. -/
structure Balanced (plan : Plan) : Prop where
  count : plan.sentCount = plan.sentSlots
  /-- The body has two lines for each slot that was sent, and nothing else. -/
  lines : ∃ lines, plan.body.toList = Text.terminated '\n' lines ∧
    lines.length = 2 * plan.sentSlots ∧ ∀ line ∈ lines, '\n' ∉ line

theorem balanced_empty : empty.Balanced :=
  ⟨rfl, [], rfl, rfl, nofun⟩

/-- An item that is sent is entered in all three accounts, and any other by a slot alone that does
not count. -/
theorem Balanced.add {plan : Plan} (balanced : plan.Balanced) (codec : RecordCodec S)
    (item : Upsert S) : (plan.add codec item).Balanced := by
  obtain ⟨count, lines, body, length, unbroken⟩ := balanced
  cases h : codec.toDocument item.record with
  | error error =>
    have sent : sentSlots (plan.add codec item) = plan.sentSlots := by
      rw [add_of_error h, slotOf_of_error h]
      rfl
    rw [add_of_error h] at sent ⊢
    exact ⟨count.trans sent.symm, lines, body, by rw [sent, length], unbroken⟩
  | ok document =>
    have sent : sentSlots (plan.add codec item) = plan.sentSlots + 1 := by
      rw [add_of_ok h]
      exact List.countP_cons_of_pos rfl
    rw [add_of_ok h] at sent ⊢
    -- The lines of the item go in front, as the plan is built from the end of the batch.
    refine ⟨by rw [sent, ← count], (commandText item.index item.id).toList ::
      (upsertText document).toList :: lines, ?_, ?_, ?_⟩
    · simp [itemLines, Text.terminated_cons, body]
    · rw [sent, List.length_cons, List.length_cons, length]
      omega
    · exact List.forall_mem_cons.mpr ⟨newline_notMem_text _,
        List.forall_mem_cons.mpr ⟨newline_notMem_text _, unbroken⟩⟩

theorem balanced_ofBatch (codec : RecordCodec S) (batch : List (Upsert S)) :
    (ofBatch codec batch).Balanced := by
  induction batch with
  | nil => exact balanced_empty
  | cons item batch ih => exact ih.add codec item

end Plan

/-! ## Filling slots -/

/-- The outcomes of slots in order; those of the slots that were sent are taken from a list, as
long as there are any. -/
def fill : List Slot → List UpsertOutcome → List UpsertOutcome
  | [], _ => []
  | .rejected outcome :: slots, outcomes => outcome :: fill slots outcomes
  | .sent :: slots, [] => fill slots []
  | .sent :: slots, outcome :: outcomes => outcome :: fill slots outcomes

/-- With an element for each slot that was sent, only an element that cannot be read stands in the
way: the elements never run out. -/
theorem assign_eq_map_fill {slots : List Slot} {elements : List Json}
    (enough : elements.length = slots.countP Slot.isSent) :
    assign slots elements = (elements.mapM itemOutcome).map (fill slots) := by
  induction slots generalizing elements with
  | nil =>
    rw [List.length_eq_zero_iff.mp enough]
    rfl
  | cons slot slots ih =>
    cases slot with
    | rejected outcome =>
      rw [assign, ih enough]
      cases elements.mapM itemOutcome <;> rfl
    | sent =>
      -- The slot itself counts, so there is an element for it, and enough of them remain.
      rw [List.countP_cons_of_pos rfl] at enough
      obtain ⟨element, rest, rfl⟩ := List.exists_cons_of_length_eq_add_one enough
      rw [assign, ih (Nat.succ.inj enough), List.mapM_cons]
      cases itemOutcome element with
      | error failure => rfl
      | ok outcome => cases rest.mapM itemOutcome <;> rfl

/-! ## Refusals -/

theorem append_ne_of_not_prefix {start text : String} (h : ¬ start.toList <+: text.toList)
    (rest : String) : start ++ rest ≠ text := by
  rintro rfl
  rw [String.toList_append] at h
  exact h (List.prefix_append _ _)

theorem itemOutcome_eq_error {element : Json} {failure : CallError}
    (fails : itemOutcome element = .error failure) :
    ∃ rest, failure = .unexpected ("Bulk item has no '" ++ rest) := by
  unfold itemOutcome at fails
  split at fails
  · cases fails
    refine ⟨"update' result: " ++ element.text, ?_⟩
    rw [← String.append_assoc]
    rfl
  · rename_i result _
    split at fails
    · cases fails
      refine ⟨"_index': " ++ result.text, ?_⟩
      rw [← String.append_assoc]
      rfl
    · split at fails <;> cases fails

namespace Plan

/-- Why a response to a plan has no outcomes. -/
inductive Refuses (plan : Plan) (response : Json) : CallError → Prop
  | noItems (missing : ∀ elements, response.get? "items" ≠ some (.array elements)) :
      Refuses plan response (.unexpected "Bulk response has no 'items' array")
  | miscounted {elements : List Json} (items : response.get? "items" = some (.array elements))
      (other : elements.length ≠ plan.sentSlots) :
      Refuses plan response
        (.unexpected s!"Bulk response has {elements.length} items for {plan.sentSlots} submitted")
  /-- The first element that cannot be read decides. -/
  | unreadable {before after : List Json} {element : Json} {failure : CallError}
      (items : response.get? "items" = some (.array (before ++ element :: after)))
      (enough : (before ++ element :: after).length = plan.sentSlots)
      (readable : ∀ earlier ∈ before, Readable earlier)
      (fails : itemOutcome element = .error failure) : Refuses plan response failure

variable {plan : Plan} {response : Json} {failure : CallError}

theorem outcomes_of_noItems (missing : ∀ elements, response.get? "items" ≠ some (.array elements)) :
    plan.outcomes response = .error (.unexpected "Bulk response has no 'items' array") := by
  have none : (response.get? "items").bind Json.asArray? = none :=
    Option.eq_none_iff_forall_ne_some.mpr fun elements found =>
      missing elements (Json.bind_asArray?_eq_some_iff.mp found)
  rw [outcomes, none]

theorem Balanced.outcomes_of_items (balanced : plan.Balanced) {elements : List Json}
    (items : response.get? "items" = some (.array elements)) :
    plan.outcomes response =
      if elements.length = plan.sentSlots then (elements.mapM itemOutcome).map (fill plan.slots)
      else .error (.unexpected
        s!"Bulk response has {elements.length} items for {plan.sentSlots} submitted") := by
  rw [outcomes, Json.bind_asArray?_eq_some_iff.mpr items, balanced.count]
  dsimp only
  split
  · rename_i enough
    exact assign_eq_map_fill enough
  · rfl

theorem Balanced.outcomes_eq_error_iff (balanced : plan.Balanced) :
    plan.outcomes response = .error failure ↔ plan.Refuses response failure := by
  constructor
  · intro failed
    by_cases found : ∃ elements, response.get? "items" = some (.array elements)
    · obtain ⟨elements, items⟩ := found
      rw [balanced.outcomes_of_items items] at failed
      split at failed
      · rename_i enough
        obtain ⟨before, element, after, rfl, readable, fails⟩ :=
          Fallible.mapM_eq_error_iff.mp (Fallible.map_eq_error_iff.mp failed)
        exact .unreadable items enough
          (fun earlier mem => itemOutcome_eq_ok_iff.mp (readable earlier mem)) fails
      · rename_i other
        cases failed
        exact .miscounted items other
    · have missing := not_exists.mp found
      rw [outcomes_of_noItems missing] at failed
      cases failed
      exact .noItems missing
  · rintro (missing | ⟨items, other⟩ | ⟨items, enough, readable, fails⟩)
    · exact outcomes_of_noItems missing
    · rw [balanced.outcomes_of_items items, if_neg other]
    · rw [balanced.outcomes_of_items items, if_pos enough, Fallible.map_eq_error_iff,
        Fallible.mapM_eq_error_iff]
      exact ⟨_, _, _, rfl,
        fun earlier mem => itemOutcome_eq_ok_iff.mpr (readable earlier mem), fails⟩

/-- Each refusal has a text of its own, and none says that the elements ran out. -/
theorem Refuses.ne_endedEarly (refuses : plan.Refuses response failure) :
    failure ≠ .unexpected "Bulk response ended early" := by
  have noItems : "Bulk response has no 'items' array" ≠ "Bulk response ended early" := by decide
  have counted : ¬ "Bulk response has ".toList <+: "Bulk response ended early".toList := by decide
  have element : ¬ "Bulk item has no '".toList <+: "Bulk response ended early".toList := by decide
  -- The texts differ in their first words, whatever is quoted behind these.
  rcases refuses with _ | _ | ⟨-, -, -, fails⟩
  · exact fun same => noItems (CallError.unexpected.inj same)
  · intro same
    have text := CallError.unexpected.inj same
    simp only [String.append_assoc] at text
    exact append_ne_of_not_prefix counted _ text
  · obtain ⟨rest, rfl⟩ := itemOutcome_eq_error fails
    exact fun same => append_ne_of_not_prefix element rest (CallError.unexpected.inj same)

/-! ## Nothing to send -/

/-- The rejections are what is there before anything is filled in. -/
theorem rejections_eq_fill (plan : Plan) : plan.rejections = fill plan.slots [] := by
  rw [rejections]
  induction plan.slots with
  | nil => rfl
  | cons slot slots ih =>
    cases slot with
    | rejected outcome => exact congrArg (outcome :: ·) ih
    | sent => exact ih

theorem Balanced.sentSlots_eq_zero (balanced : plan.Balanced) (nothing : plan.sendsAny = false) :
    plan.sentSlots = 0 := by
  rw [sendsAny, decide_eq_false_iff_not, Nat.not_lt, balanced.count] at nothing
  exact Nat.le_zero.mp nothing

/-- If nothing was sent, no slot is without an outcome. -/
theorem slots_eq_of_sentSlots (none : plan.sentSlots = 0) :
    plan.slots = plan.rejections.map Slot.rejected := by
  have rejected : ∀ slot ∈ plan.slots, slot.isSent = false := by
    simpa [sentSlots] using none
  rw [rejections]
  generalize plan.slots = slots at rejected ⊢
  induction slots with
  | nil => rfl
  | cons slot slots ih =>
    obtain ⟨first, others⟩ := List.forall_mem_cons.mp rejected
    cases slot with
    | rejected outcome => exact congrArg (Slot.rejected outcome :: ·) (ih others)
    | sent => cases first

theorem Balanced.outcomes_of_nothing (balanced : plan.Balanced) (nothing : plan.sendsAny = false)
    (items : response.get? "items" = some (.array [])) :
    plan.outcomes response = .ok plan.rejections := by
  rw [balanced.outcomes_of_items items, balanced.sentSlots_eq_zero nothing, rejections_eq_fill]
  rfl

end Plan

end Batch

/-! ## The call -/

namespace Client

open Batch

variable {S Q : Type} {client : Client S Q} {batch : List (Upsert S)}

theorem sendsAny_ofBatch_eq_false_iff :
    (Plan.ofBatch client.records batch).sendsAny = false ↔
      ∀ item ∈ batch, ∃ error, client.records.toDocument item.record = .error error := by
  rw [← Bool.not_eq_true, sendsAny_ofBatch, not_not, converted, List.filterMap_eq_nil_iff]
  refine forall₂_congr fun item _ => ?_
  rw [convert?]
  cases client.records.toDocument item.record with
  | ok document => simp [Except.toOption]
  | error error => exact iff_of_true rfl ⟨error, rfl⟩

/-- What a call does without a round trip is what the round trip would lead to if the engine had no
elements to answer with. -/
structure ShortCut (client : Client S Q) (batch : List (Upsert S)) (plan : Plan) : Prop where
  /-- No item is dropped: each of them has its rejection. -/
  slots : plan.slots = plan.rejections.map Slot.rejected
  length : plan.rejections.length = batch.length
  /-- The call knows the outcomes and sends nothing. -/
  play : ∀ script, (client.upsertBatch batch).play script = ⟨.ok ⟨plan.rejections⟩, [], script⟩
  /-- An answer without elements has the same outcomes. -/
  outcomes : ∀ answer : Json, answer.get? "items" = some (.array []) →
    plan.outcomes answer = .ok plan.rejections
  /-- So the round trip, had it been made, would have had the same result. -/
  roundTrip : ∀ script response answer, Answers client.configuration.retryPolicy script response →
    StatusClass.of response = .success → response.json = .ok answer →
    answer.get? "items" = some (.array []) →
    ((client.ask (.upsertBatch plan)).play script).result = .ok ⟨plan.rejections⟩

/-- The call as the three paths that it is: nothing to convert, nothing to send, or a round trip. -/
theorem upsertBatch_paths (client : Client S Q) (batch : List (Upsert S)) :
    client.upsertBatch batch =
      if batch.isEmpty then .ofExcept (.ok ⟨[]⟩)
      else if (Plan.ofBatch client.records batch).sendsAny then
        client.ask (.upsertBatch (Plan.ofBatch client.records batch))
      else .ofExcept (.ok ⟨(Plan.ofBatch client.records batch).rejections⟩) := by
  cases batch with
  | nil => rfl
  | cons item batch => rfl

theorem result_ask_upsertBatch {plan : Plan} {script : Script} {response : Response} {answer : Json}
    {outcomes : List UpsertOutcome}
    (answers : Answers client.configuration.retryPolicy script response)
    (success : StatusClass.of response = .success) (json : response.json = .ok answer)
    (read : plan.outcomes answer = .ok outcomes) :
    ((client.ask (.upsertBatch plan)).play script).result = .ok ⟨outcomes⟩ := by
  rw [ask, Endpoint.result_call _ answers, Endpoint.conclude_of_success success]
  refine Endpoint.readJson_eq_ok_iff.mpr ⟨answer, json, ?_⟩
  rw [read]
  rfl

theorem shortCut_of_nothing
    (nothing : (Plan.ofBatch client.records batch).sendsAny = false) :
    ShortCut client batch (Plan.ofBatch client.records batch) := by
  have balanced := Plan.balanced_ofBatch client.records batch
  have slots := Plan.slots_eq_of_sentSlots (balanced.sentSlots_eq_zero nothing)
  have outcomes : ∀ answer : Json, answer.get? "items" = some (.array []) →
      (Plan.ofBatch client.records batch).outcomes answer =
        .ok (Plan.ofBatch client.records batch).rejections :=
    fun _ => balanced.outcomes_of_nothing nothing
  constructor
  case slots => exact slots
  case length =>
    rw [← List.length_map Slot.rejected, ← slots, slots_ofBatch, List.length_map]
  case play =>
    intro script
    rw [upsertBatch, nothing]
    rfl
  case outcomes => exact outcomes
  case roundTrip =>
    intro script response answer answers success json items
    exact result_ask_upsertBatch answers success json (outcomes answer items)

/-- **The accounts of a plan agree, and the short cut with the long way.** There is one slot for each
item of the batch, in order; the count is that of the slots that were sent, and the body has two
lines for each of these. So a response is refused only for its items or for an element, and never
because the elements ran out. If the batch is empty or no item could be converted, the call makes no
round trip, drops no item, and answers what the round trip would lead to. -/
theorem upsertBatch_balanced (client : Client S Q) (batch : List (Upsert S)) :
    let plan := Plan.ofBatch client.records batch
    plan.slots = batch.map (slotOf client.records) ∧ plan.Balanced ∧
    (∀ answer failure, plan.outcomes answer = .error failure ↔ plan.Refuses answer failure) ∧
    (∀ answer, plan.outcomes answer ≠ .error (.unexpected "Bulk response ended early")) ∧
    client.upsertBatch batch =
      (if batch.isEmpty then .ofExcept (.ok ⟨[]⟩)
      else if plan.sendsAny then client.ask (.upsertBatch plan)
      else .ofExcept (.ok ⟨plan.rejections⟩)) ∧
    (plan.sendsAny = false ↔
      ∀ item ∈ batch, ∃ error, client.records.toDocument item.record = .error error) ∧
    (plan.sendsAny = false → ShortCut client batch plan) := by
  intro plan
  have balanced : plan.Balanced := Plan.balanced_ofBatch client.records batch
  refine ⟨slots_ofBatch client.records batch, balanced, fun answer failure => ?_, fun answer => ?_,
    client.upsertBatch_paths batch, sendsAny_ofBatch_eq_false_iff, shortCut_of_nothing⟩
  · exact balanced.outcomes_eq_error_iff
  · intro failed
    exact (balanced.outcomes_eq_error_iff.mp failed).ne_endedEarly rfl

/-- An empty answer to items that were all rejected says what the call says without it; to a batch
with an item that was sent it has an element too few. -/
theorem upsertBatch_balanced_rejected :
    let rejected : List (Upsert Json) := [⟨"raw-1", "a", .null⟩, ⟨"raw-2", "b", .array []⟩]
    let batch := ⟨"raw-3", "c", .object []⟩ :: rejected
    let answer : Json := .object [("items", .array [])]
    let script : Script := Stream'.const (.ok ⟨some 200, Utf8.encode answer.text⟩)
    let failed (index id : String) : UpsertOutcome :=
      .failed (some id) index "Record did not marshal to an object"
    let outcomes := [failed "raw-1" "a", failed "raw-2" "b"]
    (plain.upsertBatch rejected).play script = ⟨.ok ⟨outcomes⟩, [], script⟩ ∧
      ((plain.ask (.upsertBatch (Plan.ofBatch plain.records rejected))).play script).result =
        .ok ⟨outcomes⟩ ∧
      (Plan.ofBatch plain.records batch).outcomes answer =
        .error (.unexpected "Bulk response has 0 items for 1 submitted") := by
  intro rejected batch answer script failed outcomes
  have json : (⟨some 200, Utf8.encode answer.text⟩ : Response).json = .ok answer := by
    decide +kernel
  obtain ⟨-, -, -, -, -, -, shortCut⟩ := plain.upsertBatch_balanced rejected
  obtain ⟨-, -, refuses_iff, -⟩ := plain.upsertBatch_balanced batch
  have short := shortCut rfl
  have items : answer.get? "items" = some (.array []) := rfl
  have one : (Plan.ofBatch plain.records batch).sentSlots = 1 := rfl
  have few : ([] : List Json).length ≠ (Plan.ofBatch plain.records batch).sentSlots :=
    fun same => Nat.zero_ne_one (same.trans one)
  refine ⟨short.play script, ?_, ?_⟩
  · exact short.roundTrip script _ answer (answers_const _ _) rfl json items
  · have refused := (refuses_iff _ _).mpr (.miscounted items few)
    rw [one] at refused
    exact refused

end Client

end EngineClient
