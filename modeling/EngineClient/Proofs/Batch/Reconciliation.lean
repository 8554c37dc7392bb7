import EngineClient.Client.Basic
import EngineClient.Proofs.Batch.Encoding
import EngineClient.Proofs.Endpoint.Asking

/-!
# Outcomes of a batch

The response to a batch has no gaps, the batch may have some. So the outcome of an item is read from
the element of the response whose rank is the number of converted items before it.

* **`Batch.assign_eq_ok_iff`** — the elements can be given out exactly if each of them is
  `Readable`;
* **`Batch.getElem?_of_assign`** — which outcome stands at which position;
* `Batch.reports_of_itemOutcome` — what an outcome says of its element (`Reports`);
* **`Client.upsertBatch_outcomes`** — the call as a whole, from the batch to its outcomes.
-/

namespace EngineClient

namespace Batch

open Json (bind_asString?_eq_some_iff bind_asArray?_eq_some_iff)

/-! ## One element -/

/-- An element of a response that has an outcome. -/
def Readable (element : Json) : Prop :=
  ∃ result index, element.get? "update" = some result ∧
    result.get? "_index" = some (.string index)

/-- The value is a text that is not blank. -/
def IsFilled (value : Option Json) (text : String) : Prop :=
  value = some (.string text) ∧ Text.isBlankText text = false

/-- The reasons of a failed element, the first that is there. -/
inductive FailureReason (result : Json) : String → Prop
  /-- The reason of its error. -/
  | error {text : String} (h : IsFilled ((result.get? "error").bind (·.get? "reason")) text) :
      FailureReason result text
  /-- Its result. -/
  | result {text : String}
      (noReason : ¬ ∃ text, IsFilled ((result.get? "error").bind (·.get? "reason")) text)
      (h : IsFilled (result.get? "result") text) : FailureReason result text
  /-- A fixed text. -/
  | empty (noReason : ¬ ∃ text, IsFilled ((result.get? "error").bind (·.get? "reason")) text)
      (noResult : ¬ ∃ text, IsFilled (result.get? "result") text) :
      FailureReason result "Empty error message"

/-- What an outcome says of the element it is read from. -/
structure Reports (result : Json) (outcome : UpsertOutcome) : Prop where
  /-- The index is a text of the element. -/
  index : result.get? "_index" = some (.string outcome.index)
  /-- The id is, too, if there is such a text. -/
  id : ∀ id, outcome.id = some id ↔ result.get? "_id" = some (.string id)
  /-- The item succeeded if its status is an integer of the class success. -/
  success : outcome.isSuccess = true ↔
    ∃ n : Int, result.get? "status" = some (.int n) ∧ 200 ≤ n ∧ n ≤ 299
  /-- Otherwise it failed for a reason of the element. -/
  failure : ∀ reason, outcome.failure = some reason → FailureReason result reason

theorem filled?_eq_some_iff {value : Option Json} {text : String} :
    filled? value = some text ↔ IsFilled value text := by
  rw [filled?, Option.filter_eq_some_iff, bind_asString?_eq_some_iff, IsFilled, Bool.not_eq_true']

theorem filled?_eq_none_iff {value : Option Json} :
    filled? value = none ↔ ¬ ∃ text, IsFilled value text := by
  simp only [← filled?_eq_some_iff, Option.eq_none_iff_forall_ne_some, not_exists, ne_eq]

theorem failureReason_spec (result : Json) : FailureReason result (failureReason result) := by
  rw [failureReason]
  cases hreason : filled? ((result.get? "error").bind (·.get? "reason")) with
  | some text => exact .error (filled?_eq_some_iff.mp hreason)
  | none =>
    cases hresult : filled? (result.get? "result") with
    | some text =>
      exact .result (filled?_eq_none_iff.mp hreason) (filled?_eq_some_iff.mp hresult)
    | none => exact .empty (filled?_eq_none_iff.mp hreason) (filled?_eq_none_iff.mp hresult)

theorem asSigned?_eq_some_iff {value : Json} {n : Int} :
    value.asSigned? = some n ↔
      value = .int n ∧ -0x8000000000000000 ≤ n ∧ n < 0x8000000000000000 := by
  unfold Json.asSigned?
  split
  · rename_i m
    rw [Json.int]
    constructor
    · intro h
      split at h
      · cases h
        exact ⟨rfl, by assumption⟩
      · cases h
    · rintro ⟨h, bounds⟩
      cases h
      rw [if_pos bounds]
  · rename_i h
    constructor
    · intro h'
      cases h'
    · rintro ⟨rfl, -⟩
      exact absurd rfl (h n)

theorem itemClass_eq_success_iff {result : Json} :
    itemClass result = .success ↔
      ∃ n : Int, result.get? "status" = some (.int n) ∧ 200 ≤ n ∧ n ≤ 299 := by
  rw [itemClass, StatusClass.ofStatus_eq_success_iff]
  constructor
  · rintro ⟨n, h, bounds⟩
    obtain ⟨value, hvalue, h⟩ := Option.bind_eq_some_iff.mp h
    exact ⟨n, by rw [hvalue, (asSigned?_eq_some_iff.mp h).1], bounds⟩
  · rintro ⟨n, h, low, high⟩
    refine ⟨n, ?_, low, high⟩
    rw [h, Option.bind_some, asSigned?_eq_some_iff]
    exact ⟨rfl, by omega, by omega⟩

theorem itemOutcome_eq_ok_iff {element : Json} :
    (∃ outcome, itemOutcome element = .ok outcome) ↔ Readable element := by
  unfold itemOutcome Readable
  cases hupdate : element.get? "update" with
  | none => simp
  | some result =>
    cases hindex : (result.get? "_index").bind Json.asString? with
    | none =>
      have absent : ∀ index, result.get? "_index" ≠ some (.string index) := by
        intro index h
        rw [bind_asString?_eq_some_iff.mpr h] at hindex
        cases hindex
      simp [hindex, absent]
    | some index =>
      simp only [hindex]
      refine iff_of_true ?_ ⟨result, index, rfl, bind_asString?_eq_some_iff.mp hindex⟩
      split <;> exact ⟨_, rfl⟩

theorem reports_of_itemOutcome {element : Json} {outcome : UpsertOutcome}
    (h : itemOutcome element = .ok outcome) :
    ∃ result, element.get? "update" = some result ∧ Reports result outcome := by
  unfold itemOutcome at h
  cases hupdate : element.get? "update" with
  | none => simp [hupdate] at h
  | some result =>
    cases hindex : (result.get? "_index").bind Json.asString? with
    | none => simp [hupdate, hindex] at h
    | some index =>
      simp only [hupdate, hindex] at h
      refine ⟨result, rfl, ?_⟩
      split at h
      · rename_i success
        cases h
        exact ⟨bind_asString?_eq_some_iff.mp hindex, fun _ => bind_asString?_eq_some_iff,
          iff_of_true rfl (itemClass_eq_success_iff.mp success), fun _ h => nomatch h⟩
      · rename_i failed
        cases h
        refine ⟨bind_asString?_eq_some_iff.mp hindex, fun _ => bind_asString?_eq_some_iff,
          iff_of_false Bool.false_ne_true (mt itemClass_eq_success_iff.mpr failed), ?_⟩
        intro reason h
        cases h
        exact failureReason_spec result

/-! ## The batch -/

theorem assign_rejected_eq_ok_iff {outcome : UpsertOutcome} {slots : List Slot}
    {elements : List Json} {outcomes : List UpsertOutcome} :
    assign (.rejected outcome :: slots) elements = .ok outcomes ↔
      ∃ rest, assign slots elements = .ok rest ∧ outcomes = outcome :: rest := by
  rw [assign]
  cases assign slots elements with
  | ok rest =>
    show Except.ok (outcome :: rest) = .ok outcomes ↔ _
    simp [eq_comm]
  | error failure => exact iff_of_false nofun fun ⟨_, h, _⟩ => nomatch h

theorem assign_sent_eq_ok_iff {slots : List Slot} {element : Json} {elements : List Json}
    {outcomes : List UpsertOutcome} :
    assign (.sent :: slots) (element :: elements) = .ok outcomes ↔
      ∃ outcome rest, itemOutcome element = .ok outcome ∧ assign slots elements = .ok rest ∧
        outcomes = outcome :: rest := by
  rw [assign]
  cases itemOutcome element with
  | ok outcome =>
    cases assign slots elements with
    | ok rest =>
      show Except.ok (outcome :: rest) = .ok outcomes ↔ _
      simp [eq_comm]
    | error failure => exact iff_of_false nofun fun ⟨_, _, _, h, _⟩ => nomatch h
  | error failure => exact iff_of_false nofun fun ⟨_, _, h, _⟩ => nomatch h

section

variable {S : Type} {codec : RecordCodec S}

/-- With as many elements as items were sent, only an element that is not readable stands in the
way: the elements never run out. -/
theorem assign_eq_ok_iff {batch : List (Upsert S)} {elements : List Json}
    (length : elements.length = (converted codec batch).length) :
    (∃ outcomes, assign (batch.map (slotOf codec)) elements = .ok outcomes) ↔
      ∀ element ∈ elements, Readable element := by
  -- an item that is sent takes an element away, and the lengths stay equal
  induction batch generalizing elements with
  | nil =>
    rw [List.length_eq_zero_iff.mp length]
    simp [assign]
  | cons item batch ih =>
    rw [List.map_cons]
    cases h : codec.toDocument item.record with
    | error error =>
      rw [converted_cons_of_error h] at length
      rw [slotOf_of_error h, ← ih length]
      simp only [assign_rejected_eq_ok_iff]
      constructor
      · rintro ⟨_, rest, hrest, -⟩
        exact ⟨rest, hrest⟩
      · rintro ⟨rest, hrest⟩
        exact ⟨_, rest, hrest, rfl⟩
    | ok document =>
      rw [converted_cons_of_ok h] at length
      obtain ⟨element, rest, rfl⟩ := List.exists_cons_of_length_eq_add_one length
      have length' : rest.length = (converted codec batch).length := Nat.succ.inj length
      rw [slotOf_of_ok h, List.forall_mem_cons, ← ih length', ← itemOutcome_eq_ok_iff]
      simp only [assign_sent_eq_ok_iff]
      constructor
      · rintro ⟨_, outcome, outcomes, first, others, -⟩
        exact ⟨⟨outcome, first⟩, ⟨outcomes, others⟩⟩
      · rintro ⟨⟨outcome, first⟩, ⟨outcomes, others⟩⟩
        exact ⟨_, outcome, outcomes, first, others, rfl⟩

/-- The outcome at each position of the batch. The elements go to the converted items, so the rank
of an item among these is the place of its element. -/
theorem getElem?_of_assign {batch : List (Upsert S)} {elements : List Json}
    {outcomes : List UpsertOutcome}
    (h : assign (batch.map (slotOf codec)) elements = .ok outcomes) :
    outcomes.length = batch.length ∧ ∀ i item, batch[i]? = some item →
      (∀ error, codec.toDocument item.record = .error error →
        outcomes[i]? = some (.failed (some item.id) item.index error.message)) ∧
      (∀ document, codec.toDocument item.record = .ok document →
        ∃ element outcome, elements[(converted codec (batch.take i)).length]? = some element ∧
          itemOutcome element = .ok outcome ∧ outcomes[i]? = some outcome) := by
  -- behind a rejected item the ranks stay as they are, behind a sent one they grow by one
  induction batch generalizing elements outcomes with
  | nil =>
    cases h
    exact ⟨rfl, fun i item found => by simp at found⟩
  | cons head batch ih =>
    rw [List.map_cons] at h
    cases hd : codec.toDocument head.record with
    | error error =>
      rw [slotOf_of_error hd, assign_rejected_eq_ok_iff] at h
      obtain ⟨rest, hrest, rfl⟩ := h
      obtain ⟨length, positions⟩ := ih hrest
      refine ⟨by rw [List.length_cons, length, List.length_cons], ?_⟩
      intro i item found
      cases i with
      | zero =>
        obtain rfl : head = item := by simpa using found
        refine ⟨fun error' h' => ?_, fun document h' => ?_⟩
        · rw [hd] at h'
          cases h'
          rfl
        · rw [hd] at h'
          cases h'
      | succ i =>
        rw [List.take_succ_cons, converted_cons_of_error hd]
        exact positions i item found
    | ok document =>
      rw [slotOf_of_ok hd] at h
      cases elements with
      | nil => cases h
      | cons element elements =>
        obtain ⟨outcome, rest, first, hrest, rfl⟩ := assign_sent_eq_ok_iff.mp h
        obtain ⟨length, positions⟩ := ih hrest
        refine ⟨by rw [List.length_cons, length, List.length_cons], ?_⟩
        intro i item found
        cases i with
        | zero =>
          obtain rfl : head = item := by simpa using found
          refine ⟨fun error h' => ?_, fun _ _ => ⟨element, outcome, rfl, first, rfl⟩⟩
          rw [hd] at h'
          cases h'
        | succ i =>
          rw [List.take_succ_cons, converted_cons_of_ok hd, List.length_cons]
          exact positions i item found

/-- If nothing was sent, the slots alone have all outcomes. -/
theorem assign_nil_of_converted_eq_nil {batch : List (Upsert S)} (h : converted codec batch = []) :
    assign (batch.map (slotOf codec)) [] = .ok (Plan.ofBatch codec batch).rejections := by
  rw [Plan.rejections, slots_ofBatch]
  induction batch with
  | nil => rfl
  | cons item batch ih =>
    cases hd : codec.toDocument item.record with
    | error error =>
      rw [converted_cons_of_error hd] at h
      rw [List.map_cons, slotOf_of_error hd, assign_rejected_eq_ok_iff]
      exact ⟨_, ih h, rfl⟩
    | ok document =>
      rw [converted_cons_of_ok hd] at h
      cases h

/-- When the response to a plan has the outcomes of its batch. -/
theorem outcomes_eq_ok_iff {batch : List (Upsert S)} {body : Json}
    {outcomes : List UpsertOutcome} :
    (Plan.ofBatch codec batch).outcomes body = .ok outcomes ↔
      ∃ elements, body.get? "items" = some (.array elements) ∧
        elements.length = (converted codec batch).length ∧
        assign (batch.map (slotOf codec)) elements = .ok outcomes := by
  rw [Plan.outcomes, sentCount_ofBatch, slots_ofBatch]
  cases h : (body.get? "items").bind Json.asArray? with
  | none =>
    refine iff_of_false nofun ?_
    rintro ⟨elements, found, -⟩
    rw [bind_asArray?_eq_some_iff.mpr found] at h
    cases h
  | some elements =>
    have found := bind_asArray?_eq_some_iff.mp h
    have unique : ∀ {others : List Json}, body.get? "items" = some (.array others) →
        others = elements := by
      intro others h'
      rw [found] at h'
      cases h'
      rfl
    dsimp only
    split
    · rename_i length
      constructor
      · intro assigned
        exact ⟨elements, found, length, assigned⟩
      · rintro ⟨others, h', -, assigned⟩
        rwa [unique h'] at assigned
    · rename_i length
      refine iff_of_false nofun ?_
      rintro ⟨others, h', length', -⟩
      rw [unique h'] at length'
      exact length length'

end

end Batch

/-! ## The call -/

namespace Client

open Batch

variable {S Q : Type} (client : Client S Q) (batch : List (Upsert S))

theorem upsertBatch_of_nothing (h : converted client.records batch = []) :
    client.upsertBatch batch =
      Operation.ofExcept (.ok ⟨(Plan.ofBatch client.records batch).rejections⟩) := by
  rw [upsertBatch]
  exact if_neg (mt (sendsAny_ofBatch client.records batch).mp (not_not.mpr h))

theorem upsertBatch_of_something (h : converted client.records batch ≠ []) :
    client.upsertBatch batch =
      client.ask (.upsertBatch (Plan.ofBatch client.records batch)) := by
  rw [upsertBatch]
  exact if_pos ((sendsAny_ofBatch client.records batch).mpr h)

/-- The result of the call from the elements that are given out. -/
theorem result_upsertBatch {script : Call.Script} {response : Response}
    (answers : converted client.records batch ≠ [] →
      Call.Answers client.configuration.retryPolicy script response)
    (outcomes : List UpsertOutcome) :
    ((client.upsertBatch batch).play script).result = .ok ⟨outcomes⟩ ↔
      ∃ elements, (converted client.records batch = [] ∧ elements = [] ∨
          converted client.records batch ≠ [] ∧ StatusClass.of response = .success ∧
          ∃ body, response.json = .ok body ∧ body.get? "items" = some (.array elements) ∧
            elements.length = (converted client.records batch).length) ∧
        assign (batch.map (slotOf client.records)) elements = .ok outcomes := by
  by_cases h : converted client.records batch = []
  · rw [client.upsertBatch_of_nothing batch h, Operation.play_ofExcept]
    have local_outcomes := assign_nil_of_converted_eq_nil h
    constructor
    · intro result
      cases result
      exact ⟨[], Or.inl ⟨h, rfl⟩, local_outcomes⟩
    · rintro ⟨elements, ⟨-, rfl⟩ | ⟨something, -⟩, assigned⟩
      · rw [local_outcomes] at assigned
        cases assigned
        rfl
      · exact absurd h something
  · rw [client.upsertBatch_of_something batch h, ask, Endpoint.result_call _ (answers h),
      Endpoint.conclude_eq_ok_iff rfl]
    have read_iff : (Endpoint.upsertBatch (Plan.ofBatch client.records batch)).read response =
        .ok ⟨outcomes⟩ ↔ ∃ body, response.json = .ok body ∧
          (Plan.ofBatch client.records batch).outcomes body = .ok outcomes := by
      refine Endpoint.readJson_eq_ok_iff.trans (exists_congr fun body => and_congr_right fun _ => ?_)
      cases (Plan.ofBatch client.records batch).outcomes body with
      | ok found =>
        show Except.ok (BatchOutcome.mk found) = .ok ⟨outcomes⟩ ↔ _
        simp
      | error failure => exact iff_of_false nofun nofun
    rw [read_iff]
    constructor
    · rintro ⟨success, body, json, read⟩
      obtain ⟨elements, items, length, assigned⟩ := outcomes_eq_ok_iff.mp read
      exact ⟨elements, Or.inr ⟨h, success, body, json, items, length⟩, assigned⟩
    · rintro ⟨elements, ⟨nothing, -⟩ | ⟨-, success, body, json, items, length⟩, assigned⟩
      · exact absurd nothing h
      · exact ⟨success, body, json, outcomes_eq_ok_iff.mpr ⟨elements, items, length, assigned⟩⟩

/-- **The outcomes of a batch.** The call succeeds exactly if nothing had to be sent, or the response
has a status of the class success and an array `items` with one readable element for each converted
item. Then there is one outcome for each item of the batch, in order: an item that could not be
converted failed with its own id and index, and any other has the outcome of the element whose rank
is the number of converted items before it. -/
theorem upsertBatch_outcomes {script : Call.Script} {response : Response}
    (answers : converted client.records batch ≠ [] →
      Call.Answers client.configuration.retryPolicy script response) :
    let result := ((client.upsertBatch batch).play script).result
    ((∃ outcome, result = .ok outcome) ↔
      converted client.records batch = [] ∨
      (∃ status, response.status = some status ∧ 200 ≤ status.toNat ∧ status.toNat ≤ 299) ∧
      ∃ body elements, response.json = .ok body ∧ body.get? "items" = some (.array elements) ∧
        elements.length = (converted client.records batch).length ∧
        ∀ element ∈ elements, Readable element) ∧
    ∀ outcome, result = .ok outcome →
      outcome.outcomes.length = batch.length ∧
      ∀ i item, batch[i]? = some item →
        (∀ error, client.records.toDocument item.record = .error error →
          outcome.outcomes[i]? = some (.failed (some item.id) item.index error.message)) ∧
        (∀ document, client.records.toDocument item.record = .ok document →
          ∃ body elements element update own,
            response.json = .ok body ∧ body.get? "items" = some (.array elements) ∧
            elements[(converted client.records (batch.take i)).length]? = some element ∧
            element.get? "update" = some update ∧
            outcome.outcomes[i]? = some own ∧ Reports update own) := by
  intro result
  have result_iff := client.result_upsertBatch batch answers
  constructor
  · constructor
    · rintro ⟨⟨outcomes⟩, h⟩
      obtain ⟨elements, ⟨nothing, -⟩ | ⟨-, success, body, json, items, length⟩, assigned⟩ :=
        (result_iff outcomes).mp h
      · exact Or.inl nothing
      · exact Or.inr ⟨StatusClass.of_eq_success_iff.mp success, body, elements, json, items, length,
          (assign_eq_ok_iff length).mp ⟨outcomes, assigned⟩⟩
    · rintro (nothing | ⟨success, body, elements, json, items, length, readable⟩)
      · exact ⟨⟨_⟩, (result_iff _).mpr
          ⟨[], Or.inl ⟨nothing, rfl⟩, assign_nil_of_converted_eq_nil nothing⟩⟩
      · by_cases nothing : converted client.records batch = []
        · exact ⟨⟨_⟩, (result_iff _).mpr
            ⟨[], Or.inl ⟨nothing, rfl⟩, assign_nil_of_converted_eq_nil nothing⟩⟩
        · obtain ⟨outcomes, assigned⟩ := (assign_eq_ok_iff length).mpr readable
          exact ⟨⟨outcomes⟩, (result_iff outcomes).mpr ⟨elements, Or.inr ⟨nothing,
            StatusClass.of_eq_success_iff.mpr success, body, json, items, length⟩, assigned⟩⟩
  · rintro ⟨outcomes⟩ h
    obtain ⟨elements, source, assigned⟩ := (result_iff outcomes).mp h
    obtain ⟨length, positions⟩ := getElem?_of_assign assigned
    refine ⟨length, fun i item found => ⟨(positions i item found).1, ?_⟩⟩
    intro document converts
    obtain ⟨element, own, ranked, read, placed⟩ := (positions i item found).2 document converts
    obtain ⟨update, hupdate, reports⟩ := reports_of_itemOutcome read
    rcases source with ⟨-, rfl⟩ | ⟨-, -, body, json, items, -⟩
    · simp at ranked
    · exact ⟨body, elements, element, update, own, json, items, ranked, hupdate, placed, reports⟩

/-- A batch of which the first item cannot be converted, answered behind a timeout. -/
theorem upsertBatch_outcomes_mixed :
    let slow : Outcome := .error (.timeout .zero "slow")
    let batch : List (Upsert Json) := [⟨"raw-1", "a", .null⟩, ⟨"raw-2", "b", .object []⟩]
    let update : Json :=
      .object [("_id", .string "b"), ("_index", .string "raw-2"), ("status", .int 201)]
    let body : Json := .object [("items", .array [.object [("update", update)]])]
    let script : Call.Script :=
      Stream'.cons slow (Stream'.const (.ok ⟨some 200, Utf8.encode body.text⟩))
    ∃ outcome own, ((plain.upsertBatch batch).play script).result = .ok outcome ∧
      outcome.outcomes.length = 2 ∧
      outcome.outcomes[0]? =
        some (.failed (some "a") "raw-1" "Record did not marshal to an object") ∧
      outcome.outcomes[1]? = some own ∧ Reports update own := by
  intro slow batch update body script
  let response : Response := ⟨some 200, Utf8.encode body.text⟩
  have json : response.json = .ok body := by decide +kernel
  have answers : Call.Answers plain.configuration.retryPolicy script response := by
    refine ⟨1, by decide, ?_, .inl rfl⟩
    intro i hi
    rw [Nat.lt_one_iff.mp hi]
    rfl
  obtain ⟨succeeds, outcomes⟩ := plain.upsertBatch_outcomes batch fun _ => answers
  have readable : Readable (.object [("update", update)]) := ⟨update, "raw-2", rfl, rfl⟩
  obtain ⟨outcome, result⟩ := succeeds.mpr (.inr ⟨⟨200, rfl, by decide, by decide⟩, body, _, json,
    rfl, rfl, List.forall_mem_singleton.mpr readable⟩)
  obtain ⟨length, positions⟩ := outcomes outcome result
  have rejected := (positions 0 _ rfl).1 .notAnObject rfl
  obtain ⟨_, _, _, _, own, json', items, element, update', placed, reports⟩ :=
    (positions 1 _ rfl).2 ⟨[]⟩ rfl
  rw [json] at json'
  cases json'
  cases items
  cases element
  cases update'
  exact ⟨outcome, own, result, length, rejected, placed, reports⟩

end Client

end EngineClient
