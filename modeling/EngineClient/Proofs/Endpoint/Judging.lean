import EngineClient.Endpoint.Documents
import EngineClient.Endpoint.Indexes
import EngineClient.Proofs.Endpoint.Asking

/-!
# Judging responses

What a response leads to is decided in two steps: the class of its status accepts or refuses it, and
only the body of a successful one is read. The two steps never fail in the same way: a failure to
read is always about the body (`CallError.isAboutBody`), so a refusal is always about the status.

* `Endpoint.judged_conclude` — the conclusion of an endpoint, class by class;
* `Endpoint.finalResponse?_call_iff` — the response that a run ends with is the one that the script
  answers with;
* `Endpoint.result_of_finalResponse` — whatever the retries before it, it decides the result.
-/

namespace EngineClient

open Call Outcome Operation

variable {α β S : Type}

/-! ## Failures to read -/

/-- The failures that come from the body of a response. -/
def CallError.isAboutBody : CallError → Bool
  | .unreadable _ | .unexpected _ | .conversion _ | .uncounted _ | .overflow _ => true
  | .setup _ | .gaveUp .. | .roundTrip .. | .refused .. => false

/-- If it fails, it fails because of a body. -/
def FailsOnBody (result : Except CallError α) : Prop :=
  ∀ error, result = .error error → error.isAboutBody = true

namespace FailsOnBody

@[simp] theorem ok (a : α) : FailsOnBody (.ok a) :=
  fun _ failed => nomatch failed

@[simp] theorem error_iff {error : CallError} :
    FailsOnBody (.error error : Except CallError α) ↔ error.isAboutBody = true := by
  constructor
  · intro h
    exact h error rfl
  · rintro h _ ⟨⟩
    exact h

theorem bind {result : Except CallError α} {next : α → Except CallError β}
    (first : FailsOnBody result) (second : ∀ a, FailsOnBody (next a)) :
    FailsOnBody (result >>= next) := by
  cases result with
  | ok a => exact second a
  | error error => exact error_iff.mpr (error_iff.mp first)

theorem mapError_conversion (result : Except ConversionError α) :
    FailsOnBody (result.mapError CallError.conversion) := by
  cases result with
  | ok a => exact ok a
  | error cause => exact error_iff.mpr rfl

theorem mapM {read : β → Except CallError α} (h : ∀ b, FailsOnBody (read b)) (items : List β) :
    FailsOnBody (items.mapM read) := by
  induction items with
  | nil => exact ok []
  | cons item items ih =>
    rw [List.mapM_cons]
    exact (h item).bind fun _ => ih.bind fun _ => ok _

theorem readJson {next : Json → Except CallError α} (h : ∀ body, FailsOnBody (next body))
    (response : Response) : FailsOnBody (Endpoint.readJson next response) := by
  unfold Endpoint.readJson
  refine FailsOnBody.bind ?_ h
  cases response.json with
  | ok body => exact ok body
  | error fault => exact error_iff.mpr rfl

theorem requiredText (body : Json) (key : String) :
    FailsOnBody (Endpoint.requiredText body key) := by
  unfold Endpoint.requiredText
  split <;> simp [CallError.isAboutBody]

theorem readStored (body : Json) : FailsOnBody (Endpoint.readStored body) :=
  (requiredText body "_id").bind fun _ => (requiredText body "_index").bind fun _ => ok _

/-! ### Batches -/

theorem itemOutcome (item : Json) : FailsOnBody (Batch.itemOutcome item) := by
  unfold Batch.itemOutcome
  split
  · simp [CallError.isAboutBody]
  · split
    · simp [CallError.isAboutBody]
    · dsimp only
      split <;> simp

theorem assign (slots : List Batch.Slot) (items : List Json) :
    FailsOnBody (Batch.assign slots items) := by
  induction slots generalizing items with
  | nil => exact ok []
  | cons slot slots ih =>
    cases slot with
    | rejected outcome => exact (ih items).bind fun _ => ok _
    | sent =>
      cases items with
      | nil => exact error_iff.mpr rfl
      | cons item items => exact (itemOutcome item).bind fun _ => (ih items).bind fun _ => ok _

theorem outcomes (plan : Batch.Plan) (body : Json) : FailsOnBody (plan.outcomes body) := by
  unfold Batch.Plan.outcomes
  split
  · simp [CallError.isAboutBody]
  · split
    · exact assign _ _
    · simp [CallError.isAboutBody]

/-! ### Searches -/

theorem readNumber (value : Json) : FailsOnBody (HitTotal.readNumber value) := by
  unfold HitTotal.readNumber
  split
  · exact ok _
  · split
    · split
      · split <;> simp [CallError.isAboutBody]
      · simp [CallError.isAboutBody]
    · simp [CallError.isAboutBody]

theorem ofBody (body : Json) : FailsOnBody (HitTotal.ofBody body) := by
  unfold HitTotal.ofBody
  split
  · exact ok _
  · refine FailsOnBody.bind ?_ fun _ => ok _
    rename_i fields _
    cases Json.Fields.get? fields "value" with
    | none => exact ok 0
    | some value => exact readNumber value
  · exact (readNumber _).bind fun _ => ok _

theorem bounded (total : HitTotal) : FailsOnBody total.bounded := by
  unfold HitTotal.bounded
  split <;> simp [CallError.isAboutBody]

theorem exact (total : HitTotal) : FailsOnBody total.exact := by
  unfold HitTotal.exact
  split
  · exact error_iff.mpr rfl
  · exact bounded total

theorem hitText (hit : Json) (key : String) : FailsOnBody (Search.hitText hit key) := by
  unfold Search.hitText
  split <;> simp [CallError.isAboutBody]

theorem hitSource (hit : Json) : FailsOnBody (Search.hitSource hit) := by
  unfold Search.hitSource
  split
  · exact ok _
  · exact ok _
  · exact mapError_conversion _

theorem hitRecord (codec : RecordCodec S) (style : FetchStyle) (hit : Json) :
    FailsOnBody (Search.hitRecord codec style hit) := by
  refine FailsOnBody.bind ?_ fun document => mapError_conversion _
  exact (hitText hit "_id").bind fun _ => (hitText hit "_index").bind fun _ =>
    (hitSource hit).bind fun _ => ok _

theorem readResult (codec : RecordCodec S) (style : FetchStyle) (body : Json) :
    FailsOnBody (Search.readResult codec style body) :=
  (ofBody body).bind fun total => (bounded total).bind fun _ =>
    (mapM (hitRecord codec style) _).bind fun _ => ok _

theorem readNames (response : Response) : FailsOnBody (Endpoint.readNames response) := by
  unfold Endpoint.readNames
  split <;> simp [CallError.isAboutBody]

end FailsOnBody

/-! ## Conclusions -/

/-- What a response leads to where the classes in `tolerated` are accepted besides success, all of
them with the result `neutral`. How the body of a successful response is read is left open. -/
structure Judged (action : String) (tolerated : List StatusClass) (neutral : Option α)
    (response : Response) (result : Except CallError α) : Prop where
  /-- It is a refusal exactly if the class is not accepted, whatever the body holds. -/
  refused_iff : (∃ action reason status, result = .error (.refused action reason status)) ↔
    (StatusClass.of response).isAccepted tolerated = false
  /-- The refusal names the action and tells the status by its reason and in digits. -/
  refused : (StatusClass.of response).isAccepted tolerated = false → result =
    .error (.refused action (response.reason?.getD CallError.noReason) response.statusText)
  /-- A tolerated class has its result, whatever the body holds. -/
  tolerated : (StatusClass.of response).isAccepted tolerated = true →
    StatusClass.of response ≠ .success → ∃ a, neutral = some a ∧ result = .ok a

theorem Judged.map {action : String} {tolerated : List StatusClass} {neutral : Option α}
    {response : Response} {result : Except CallError α} (f : α → β)
    (h : Judged action tolerated neutral response result) :
    Judged action tolerated (neutral.map f) response (result.map f) where
  refused_iff := by
    rw [← h.refused_iff]
    cases result <;> simp [Except.map]
  refused no := by
    rw [h.refused no]
    rfl
  tolerated yes other := by
    obtain ⟨a, rfl, rfl⟩ := h.tolerated yes other
    exact ⟨f a, rfl, rfl⟩

namespace Endpoint

/-- Reading a body never refuses a status. -/
def ReadsBodies (endpoint : Endpoint α) : Prop :=
  ∀ response, FailsOnBody (endpoint.read response)

theorem readsBodies_insert (index : String) (id : Option String) (document : Document) :
    (insert index id document).ReadsBodies :=
  FailsOnBody.readJson FailsOnBody.readStored

theorem readsBodies_upsert (index id : String) (document : Document) :
    (upsert index id document).ReadsBodies :=
  FailsOnBody.readJson fun body => (FailsOnBody.readStored body).bind fun _ => .ok _

theorem readsBodies_upsertBatch (plan : Batch.Plan) : (upsertBatch plan).ReadsBodies :=
  FailsOnBody.readJson fun body => (FailsOnBody.outcomes plan body).bind fun _ => .ok _

theorem readsBodies_query (index : String) (body : Json) (codec : RecordCodec S)
    (style : FetchStyle) : (query index body codec style).ReadsBodies :=
  FailsOnBody.readJson (FailsOnBody.readResult codec style)

theorem readsBodies_count (index : String) (query : Json) : (count index query).ReadsBodies :=
  FailsOnBody.readJson fun body => (FailsOnBody.ofBody body).bind FailsOnBody.exact

/-- The endpoint tolerates the classes of a list and gives all of them the same result. -/
def Tolerates (endpoint : Endpoint α) (tolerated : List StatusClass) (neutral : Option α) : Prop :=
  endpoint.tolerated.map (fun entry => (entry.1, some entry.2)) =
    tolerated.map fun cls => (cls, neutral)

theorem Tolerates.exists_of_mem {endpoint : Endpoint α} {tolerated : List StatusClass}
    {neutral : Option α} (h : endpoint.Tolerates tolerated neutral) {cls : StatusClass}
    (mem : cls ∈ tolerated) : ∃ a, neutral = some a := by
  have listed : (cls, neutral) ∈ tolerated.map fun cls => (cls, neutral) :=
    List.mem_map.mpr ⟨cls, mem, rfl⟩
  rw [← h] at listed
  obtain ⟨entry, -, same⟩ := List.mem_map.mp listed
  exact ⟨entry.2, (Prod.mk.inj same).2.symm⟩

theorem lookup_of_map_eq {entries : List (StatusClass × α)} {tolerated : List StatusClass}
    {neutral : Option α} (h : entries.map (fun entry => (entry.1, some entry.2)) =
      tolerated.map fun cls => (cls, neutral)) (cls : StatusClass) :
    entries.lookup cls = if tolerated.contains cls then neutral else none := by
  induction entries generalizing tolerated with
  | nil =>
    obtain rfl := List.map_eq_nil_iff.mp h.symm
    rfl
  | cons entry entries ih =>
    cases tolerated with
    | nil => cases h
    | cons first tolerated =>
      simp only [List.map_cons, List.cons.injEq, Prod.mk.injEq] at h
      obtain ⟨⟨same, rfl⟩, others⟩ := h
      rw [List.lookup_cons, List.contains_cons, same]
      by_cases found : cls = first
      · simp [found]
      · have differ : (cls == first) = false := beq_eq_false_iff_ne.mpr found
        rw [differ, Bool.false_or]
        exact ih others

theorem judged_conclude {endpoint : Endpoint α} (reads : endpoint.ReadsBodies)
    {tolerated : List StatusClass} {neutral : Option α}
    (tolerates : endpoint.Tolerates tolerated neutral) (response : Response) :
    Judged endpoint.action tolerated neutral response (endpoint.conclude response) := by
  have entry := lookup_of_map_eq tolerates (.of response)
  by_cases success : StatusClass.of response = .success
  · have read : endpoint.conclude response = endpoint.read response :=
      conclude_of_success success
    have accepted : (StatusClass.of response).isAccepted tolerated = true := by
      rw [success]
      rfl
    refine ⟨iff_of_false ?_ (by simp [accepted]), fun no => ?_, fun _ other => absurd success other⟩
    · -- the body is read, and that never fails in this way
      rintro ⟨action, reason, status, failed⟩
      cases reads response _ (read ▸ failed)
    · rw [accepted] at no
      cases no
  · have other : endpoint.conclude response = _ := conclude_of_ne_success success
    have accepted : (StatusClass.of response).isAccepted tolerated =
        tolerated.contains (.of response) := by
      rw [StatusClass.isAccepted, decide_eq_false success, Bool.false_or]
    rw [entry] at other
    by_cases listed : tolerated.contains (.of response) = true
    · obtain ⟨a, rfl⟩ := tolerates.exists_of_mem (List.contains_iff_mem.mp listed)
      rw [if_pos listed, Option.elim_some] at other
      rw [other]
      rw [listed] at accepted
      refine ⟨iff_of_false ?_ (by simp [accepted]), fun no => ?_, fun _ _ => ⟨a, rfl, rfl⟩⟩
      · rintro ⟨action, reason, status, failed⟩
        cases failed
      · rw [accepted] at no
        cases no
    · rw [if_neg listed, Option.elim_none] at other
      rw [other]
      refine ⟨iff_of_true ⟨_, _, _, rfl⟩ (by simpa [accepted] using listed), fun _ => rfl,
        fun yes => ?_⟩
      rw [accepted] at yes
      exact absurd yes listed

end Endpoint

/-! ## Final responses -/

/-- The response that the last round trip of a trace brought, handed over or raised. -/
def Call.finalResponse? (trace : List Step) : Option Response :=
  (exchangesOf trace).getLast?.bind fun exchange => (settled exchange.2).toOption

namespace Call

theorem toOption_settled_of_isTimeout {outcome : Outcome} (h : isTimeout outcome = true) :
    (settled outcome).toOption = none := by
  cases outcome with
  | ok response => cases h
  | error failure => cases failure <;> first | rfl | cases h

theorem toOption_settled_eq_some_iff {outcome : Outcome} {response : Response} :
    (settled outcome).toOption = some response ↔
      outcome = .ok response ∨ outcome = .error (.raised response) := by
  cases outcome with
  | ok found => simp [settled, Except.toOption]
  | error failure => cases failure <;> simp [settled, Except.toOption]

theorem finalResponse?_append (trace later : List Step) :
    finalResponse? (trace ++ later) =
      if exchangesOf later = [] then finalResponse? trace else finalResponse? later := by
  unfold finalResponse?
  rw [exchangesOf_append]
  split
  · rename_i none
    rw [none, List.append_nil]
  · rename_i some
    rw [List.getLast?_append_of_ne_nil _ some]

theorem finalResponse?_lostTrace_append (policy : RetryPolicy) (request : Request)
    (attempt k : ℕ) (script : Script) (outcome : Outcome) :
    finalResponse? (lostTrace policy request attempt k script ++ [.exchanged request outcome]) =
      (settled outcome).toOption := by
  rw [finalResponse?_append]
  rfl

end Call

/-- A last step that needs no round trip only changes the result. -/
theorem Operation.play_bind_ofExcept (operation : Operation α) (last : α → Except CallError β)
    (script : Script) :
    (operation >>= fun a => ofExcept (last a)).play script =
      ⟨(operation.play script).result >>= last, (operation.play script).trace,
        (operation.play script).state⟩ := by
  rw [play_bind]
  cases operation.play script with
  | mk result trace state =>
    cases result <;> simp only [Run.andThen, Run.afterAll, resume, play_ofExcept, List.append_nil]
      <;> rfl

namespace Endpoint

variable (endpoint : Endpoint α) {policy : RetryPolicy} {script : Script} {response : Response}

theorem play_call_of_answer {k : ℕ} (enough : k ≤ policy.maxAttempts.toNat)
    (before : ∀ i < k, isTimeout (script.get i) = true)
    (final : isTimeout (script.get k) = false) :
    (endpoint.call policy).play script =
      ⟨(settled (script.get k)).mapError (.roundTrip endpoint.operation) >>= endpoint.conclude,
        lostTrace policy endpoint.request 0 k script ++
          [.exchanged endpoint.request (script.get k)],
        script.drop (k + 1)⟩ := by
  rw [call_eq, play_bind_ofExcept, play_send_of_answer _ _ _ enough before final]

theorem play_call_of_timeouts
    (all : ∀ i ≤ policy.maxAttempts.toNat, isTimeout (script.get i) = true) :
    (endpoint.call policy).play script =
      ⟨.error (.gaveUp endpoint.operation endpoint.index (policy.maxAttempts + 1)),
        lostTrace policy endpoint.request 0 (policy.maxAttempts.toNat + 1) script ++
          [.reported .gaveUp],
        script.drop (policy.maxAttempts.toNat + 1)⟩ := by
  rw [call_eq, play_bind_ofExcept, play_send_of_timeouts _ _ _ all]
  rfl

/-- The run ends with the response that the script answers with, and with none if it does not. -/
theorem finalResponse?_call_iff :
    finalResponse? ((endpoint.call policy).play script).trace = some response ↔
      Answers policy script response := by
  rcases answer_or_timeouts policy script with ⟨k, enough, before, last⟩ | all
  · rw [play_call_of_answer endpoint enough before last, finalResponse?_lostTrace_append,
      toOption_settled_eq_some_iff]
    constructor
    · intro answer
      exact ⟨k, enough, before, answer⟩
    · rintro ⟨j, after⟩
      have same := after.leadingTimeouts_eq.symm.trans
        (leadingTimeouts_eq_coe_iff.mpr ⟨before, last⟩)
      rw [← Nat.cast_injective same]
      exact after.answer
  · -- the last round trip is a timeout, which brings no response
    refine iff_of_false ?_ ?_
    · rw [play_call_of_timeouts endpoint all, finalResponse?_append, exchangesOf_reported,
        exchangesOf_nil, if_pos rfl, finalResponse?, exchangesOf_lostTrace, Stream'.take_succ',
        List.map_append]
      simp [toOption_settled_of_isTimeout (all policy.maxAttempts.toNat le_rfl)]
    · rintro ⟨j, after⟩
      cases (all j after.enough).symm.trans after.final

/-- The response that a run ends with decides its result. -/
theorem result_of_finalResponse
    (final : finalResponse? ((endpoint.call policy).play script).trace = some response) :
    ((endpoint.call policy).play script).result = endpoint.conclude response :=
  endpoint.result_call ((finalResponse?_call_iff endpoint).mp final)

/-- A run that succeeds owes that to an answer, and leaves the script behind it. -/
theorem exists_answersAfter_of_ok {a : α}
    (done : ((endpoint.call policy).play script).result = .ok a) :
    ∃ k response, AnswersAfter policy script k response ∧ endpoint.conclude response = .ok a ∧
      ((endpoint.call policy).play script).state = script.drop (k + 1) := by
  rcases answer_or_timeouts policy script with ⟨k, enough, before, last⟩ | all
  · rw [play_call_of_answer endpoint enough before last] at done ⊢
    cases h : settled (script.get k) with
    | ok response =>
      rw [h] at done
      have answer := toOption_settled_eq_some_iff.mp (congrArg Except.toOption h)
      exact ⟨k, response, ⟨enough, before, answer⟩, done, rfl⟩
    | error failure =>
      rw [h] at done
      cases done
  · rw [play_call_of_timeouts endpoint all] at done
    cases done

end Endpoint

end EngineClient
