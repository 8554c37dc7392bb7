import EngineClient.Client.Command
import EngineClient.Proofs.Endpoint.Judging

/-!
# Which statuses a command accepts

The policy of the client as a table: what each command is called in a refusal (`Command.action`),
the classes it accepts besides success (`Command.tolerated`) and the result these stand for
(`Command.neutral?`).

**`Client.perform_verdict`**: every command abides by its row. A record or a query that cannot be
converted is never sent. Otherwise the command asks what it has to ask, and ends with the response
that the script decides it with (`Decides`). The class of that status decides, and the body has no
say in whether the status is refused, nor in the result of a class that is only tolerated.
-/

namespace EngineClient

open Call Outcome Operation

variable {S Q α β : Type}

/-! ## The policy -/

namespace Command

/-- What a command is called in a refusal. -/
def action : Command S Q α → String
  | .insert .. => "Insert"
  | .upsert _ => "Update"
  | .upsertBatch _ => "Upsert"
  | .query .. | .find .. => "Query"
  | .count .. => "Count"
  | .delete .. => "Delete"
  | .deleteByQuery .. => "Delete by query"
  | .indexExists _ => "Index exists"
  | .findIndexes _ => "Find indexes"
  | .mappingExists _ => "Mapping exists"
  | .createIndex .. => "Create index"
  | .putMapping .. => "Create mapping"
  | .refresh _ => "Refresh indexes"
  | .refreshAll => "Refresh all indexes"
  | .deleteIndexes _ => "Delete indexes"
  | .deleteAllIndexes => "Delete all indexes"

/-- The classes that a command accepts besides success; a deletion by query is configurable. -/
def tolerated (toleratesBadRequest : Bool) : Command S Q α → List StatusClass
  | .insert .. | .upsert _ | .upsertBatch _ | .createIndex .. | .putMapping .. | .refresh _
  | .refreshAll | .deleteAllIndexes => []
  | .delete .. | .deleteIndexes _ | .indexExists _ | .mappingExists _ | .findIndexes _ =>
    [.notFound]
  | .query .. | .find .. | .count .. => [.badRequest, .notFound]
  | .deleteByQuery .. => .notFound :: if toleratesBadRequest then [.badRequest] else []

/-- The result of a class that is accepted besides success, for commands that accept one. -/
def neutral? : Command S Q α → Option α
  | .insert .. | .upsert _ | .upsertBatch _ | .createIndex .. | .putMapping .. | .refresh _
  | .refreshAll | .deleteAllIndexes => none
  | .query .. => some ⟨0, false, []⟩
  | .find .. => some none
  | .count .. => some 0
  | .delete .. | .deleteByQuery .. | .deleteIndexes _ => some ()
  | .indexExists _ | .findIndexes _ => some ⟨false, []⟩
  | .mappingExists _ => some false

end Command

/-- Why the record or the query of a command cannot be converted, if it cannot. The records of a
batch are converted one by one, and none of them stops the batch. -/
def Client.conversionError? (client : Client S Q) : Command S Q α → Option ConversionError
  | .insert _ _ record => errorOf (client.records.toDocument record)
  | .upsert item => errorOf (client.records.toDocument item.record)
  | .query _ query | .find _ query | .count _ query | .deleteByQuery _ query =>
    errorOf (client.queries.toBody query)
  | _ => none
where
  /-- The error of a conversion. -/
  errorOf {γ : Type} : Except ConversionError γ → Option ConversionError
    | .ok _ => none
    | .error cause => some cause

/-- How many questions a command has for the engine, one after the other. A batch has none if there
is nothing to send. -/
def Client.questions (client : Client S Q) : Command S Q α → ℕ
  | .upsertBatch batch => if (Batch.Plan.ofBatch client.records batch).sendsAny then 1 else 0
  | command => command.questions

/-! ## Deciding responses -/

/-- The response that decides this many questions, which are asked one after the other, each with
the whole budget of the policy: the first that is not accepted, or that to the last question. -/
inductive Decides (policy : RetryPolicy) (tolerated : List StatusClass) :
    ℕ → Script → Response → Prop
  | ends {questions : ℕ} {script : Script} {response : Response}
      (answers : Answers policy script response)
      (last : questions = 0 ∨ (StatusClass.of response).isAccepted tolerated = false) :
      Decides policy tolerated (questions + 1) script response
  /-- After an accepted answer the next question is up. -/
  | further {questions k : ℕ} {script : Script} {first response : Response}
      (answer : AnswersAfter policy script k first)
      (accepted : (StatusClass.of first).isAccepted tolerated = true)
      (others : Decides policy tolerated questions (script.drop (k + 1)) response) :
      Decides policy tolerated (questions + 1) script response

namespace Decides

variable {policy : RetryPolicy} {tolerated : List StatusClass} {script : Script}
  {response : Response}

theorem not_zero : ¬ Decides policy tolerated 0 script response :=
  nofun

/-- A single question is decided by the answer to it, whatever its class. -/
theorem one_iff : Decides policy tolerated 1 script response ↔ Answers policy script response := by
  constructor
  · intro decides
    cases decides with
    | ends answers => exact answers
    | further _ _ others => exact absurd others not_zero
  · intro answers
    exact .ends answers (.inl rfl)

/-- A first answer that is accepted leaves the decision to the other questions. -/
theorem succ_iff_of_accepted {k : ℕ} {first : Response} {questions : ℕ}
    (answer : AnswersAfter policy script k first)
    (accepted : (StatusClass.of first).isAccepted tolerated = true) :
    Decides policy tolerated (questions + 2) script response ↔
      Decides policy tolerated (questions + 1) (script.drop (k + 1)) response := by
  constructor
  · intro decides
    cases decides with
    | ends answers last =>
      obtain ⟨j, other⟩ := answers
      obtain ⟨rfl, rfl⟩ := answer.unique other
      cases (last.resolve_left (Nat.succ_ne_zero _)).symm.trans accepted
    | further other _ others =>
      obtain ⟨rfl, rfl⟩ := answer.unique other
      exact others
  · exact .further answer accepted

/-- A first answer that is not accepted decides. -/
theorem succ_iff_of_refused {questions : ℕ}
    (refused : ∀ k first, AnswersAfter policy script k first →
      (StatusClass.of first).isAccepted tolerated = false) :
    Decides policy tolerated (questions + 1) script response ↔ Answers policy script response := by
  constructor
  · intro decides
    cases decides with
    | ends answers => exact answers
    | further answer accepted =>
      cases (refused _ _ answer).symm.trans accepted
  · intro answers
    obtain ⟨k, answer⟩ := answers
    exact .ends ⟨k, answer⟩ (.inr (refused k response answer))

end Decides

/-! ## Verdicts -/

/-- How a run on a script ends: by a failed conversion, or with a response that is judged. -/
structure Verdict (policy : RetryPolicy) (questions : ℕ) (failed : Option ConversionError)
    (action : String) (tolerated : List StatusClass) (neutral : Option α) (script : Script)
    (run : Run (Except CallError α) Script) : Prop where
  /-- What cannot be converted is not sent, and nothing is counted. -/
  unsent : ∀ cause, failed = some cause → run.result = .error (.conversion cause) ∧
    requestsOf run.trace = [] ∧ ∀ counts : Counts, counts.countAll run.trace = counts
  /-- What has been converted is asked: the run ends with a response exactly if the script has one
  that decides the questions, and then with that one. -/
  asked : failed = none → ∀ response, finalResponse? run.trace = some response ↔
    Decides policy tolerated questions script response
  /-- It is judged by the class of the final status. -/
  judged : failed = none → ∀ response, finalResponse? run.trace = some response →
    Judged action tolerated neutral response run.result

namespace Verdict

variable {policy : RetryPolicy} {questions : ℕ} {failed : Option ConversionError}
  {action : String} {tolerated : List StatusClass} {neutral : Option α} {script : Script}

/-- Nothing is sent, and nothing had to be converted. -/
theorem of_done (result : Except CallError α) :
    Verdict policy 0 none action tolerated neutral script ⟨result, [], script⟩ where
  unsent := nofun
  asked _ _ := iff_of_false nofun Decides.not_zero
  judged _ _ final := nomatch final

theorem of_call {endpoint : Endpoint α} (named : endpoint.action = action)
    (reads : endpoint.ReadsBodies) (tolerates : endpoint.Tolerates tolerated neutral) :
    Verdict policy 1 none action tolerated neutral script
      ((endpoint.call policy).play script) where
  unsent := nofun
  asked _ _ := endpoint.finalResponse?_call_iff.trans Decides.one_iff.symm
  judged _ response final := by
    rw [endpoint.result_of_finalResponse final, ← named]
    exact Endpoint.judged_conclude reads tolerates response

/-- A conversion in front of a call. -/
theorem of_converted {converted : Except ConversionError β} {endpoint : β → Endpoint α}
    (named : ∀ b, (endpoint b).action = action) (reads : ∀ b, (endpoint b).ReadsBodies)
    (tolerates : ∀ b, (endpoint b).Tolerates tolerated neutral) :
    Verdict policy 1 (Client.conversionError?.errorOf converted) action tolerated neutral script
      ((Operation.ofExcept (converted.mapError .conversion) >>= fun b =>
        (endpoint b).call policy).play script) := by
  cases converted with
  | ok b => exact of_call (named b) (reads b) (tolerates b)
  | error cause =>
    refine ⟨?_, nofun, nofun⟩
    rintro _ ⟨⟩
    exact ⟨rfl, rfl, fun _ => rfl⟩

/-- A last step that needs no round trip and cannot fail. -/
theorem map {operation : Operation α} (f : α → β)
    (h : Verdict policy questions failed action tolerated neutral script
      (operation.play script)) :
    Verdict policy questions failed action tolerated (neutral.map f) script
      ((operation >>= fun a => Operation.ofExcept (.ok (f a))).play script) := by
  have same : ∀ result : Except CallError α,
      (result >>= fun a => Except.ok (f a)) = result.map f := by
    intro result
    cases result <;> rfl
  rw [play_bind_ofExcept, same]
  refine ⟨?_, h.asked, fun converted response final => (h.judged converted response final).map f⟩
  intro cause failed
  obtain ⟨result, requests, counts⟩ := h.unsent cause failed
  dsimp only
  rw [result]
  exact ⟨rfl, requests, counts⟩

/-- A run that asks something has the last word, whatever was accepted before it. -/
theorem afterAll {run : Run (Except CallError α) Script} {k : ℕ} {first : Response}
    (answer : AnswersAfter policy script k first)
    (accepted : (StatusClass.of first).isAccepted tolerated = true) (steps : List Step)
    (asks : exchangesOf run.trace ≠ [])
    (h : Verdict policy (questions + 1) none action tolerated neutral (script.drop (k + 1)) run) :
    Verdict policy (questions + 2) none action tolerated neutral script (run.afterAll steps) := by
  have final : finalResponse? (run.afterAll steps).trace = finalResponse? run.trace := by
    rw [Run.afterAll, finalResponse?_append, if_neg asks]
  constructor
  case unsent =>
    intro cause failed
    cases failed
  case asked =>
    intro _ response
    rw [final, Decides.succ_iff_of_accepted answer accepted]
    exact h.asked rfl response
  case judged =>
    intro _ response found
    rw [final] at found
    exact h.judged rfl response found

end Verdict

/-! ## Commands -/

namespace Client

theorem verdict_query (client : Client S Q) (index : String) (query : Q) (script : Script) :
    Verdict client.configuration.retryPolicy 1
      (conversionError?.errorOf (client.queries.toBody query)) "Query" [.badRequest, .notFound]
      (some ⟨0, false, []⟩) script ((client.query index query).play script) :=
  .of_converted (fun _ => rfl) (fun _ => Endpoint.readsBodies_query _ _ _ _) fun _ => rfl

theorem play_deleteIndexes_cons (client : Client S Q) (index : String) (indexes : List String)
    (script : Script) :
    (client.deleteIndexes (index :: indexes)).play script =
      ((client.ask (.deleteIndex index)).play script).andThen fun result =>
        (resume (fun _ => client.deleteIndexes indexes) result).play :=
  play_bind _ _ script

theorem play_deleteIndexes_cons_of_error (client : Client S Q) {index : String}
    {indexes : List String} {script : Script} {error : CallError}
    (failed : ((client.ask (.deleteIndex index)).play script).result = .error error) :
    (client.deleteIndexes (index :: indexes)).play script =
      (client.ask (.deleteIndex index)).play script := by
  rw [play_deleteIndexes_cons, Run.andThen, failed, resume, play_ofExcept, Run.afterAll, ← failed,
    List.append_nil]

theorem play_deleteIndexes_cons_of_ok (client : Client S Q) {index : String}
    {indexes : List String} {script : Script}
    (done : ((client.ask (.deleteIndex index)).play script).result = .ok ()) :
    (client.deleteIndexes (index :: indexes)).play script =
      ((client.deleteIndexes indexes).play
        ((client.ask (.deleteIndex index)).play script).state).afterAll
          ((client.ask (.deleteIndex index)).play script).trace := by
  rw [play_deleteIndexes_cons, Run.andThen, done, resume]

/-- The first index is asked for, whatever becomes of the others. -/
theorem exchangesOf_deleteIndexes_cons_ne_nil (client : Client S Q) (index : String)
    (indexes : List String) (script : Script) :
    exchangesOf ((client.deleteIndexes (index :: indexes)).play script).trace ≠ [] := by
  intro silent
  rw [play_deleteIndexes_cons, Run.andThen, Run.afterAll, exchangesOf_append,
    List.append_eq_nil_iff] at silent
  obtain ⟨n, asked⟩ := (Endpoint.deleteIndex index).requests_call
    client.configuration.retryPolicy script
  rw [requestsOf_eq, ← ask, silent.1] at asked
  cases asked

theorem conclude_deleteIndex (index : String) (response : Response) :
    (Endpoint.deleteIndex index).conclude response =
      if (StatusClass.of response).isAccepted [.notFound] then .ok ()
      else .error (.ofResponse "Delete indexes" response) := by
  unfold Endpoint.conclude
  cases StatusClass.of response <;> rfl

theorem play_deleteIndexes_singleton (client : Client S Q) (index : String) (script : Script) :
    (client.deleteIndexes [index]).play script =
      (client.ask (.deleteIndex index)).play script := by
  cases result : ((client.ask (.deleteIndex index)).play script).result with
  | error error => exact client.play_deleteIndexes_cons_of_error result
  | ok done =>
    rw [play_deleteIndexes_cons_of_ok client result, deleteIndexes, play_ofExcept, Run.afterAll,
      ← result, List.append_nil]

/-- Of several deletions the last one that was asked for has the final response, and one is asked
for only if all before it were accepted. -/
theorem verdict_deleteIndexes (client : Client S Q) (indexes : List String) (script : Script) :
    Verdict client.configuration.retryPolicy indexes.length none "Delete indexes" [.notFound]
      (some ()) script ((client.deleteIndexes indexes).play script) := by
  induction indexes generalizing script with
  | nil => exact .of_done _
  | cons index indexes ih =>
    have first : Verdict client.configuration.retryPolicy 1 none "Delete indexes" [.notFound]
        (some ()) script ((client.ask (.deleteIndex index)).play script) :=
      .of_call rfl (fun _ => .ok _) rfl
    cases indexes with
    | nil =>
      rw [play_deleteIndexes_singleton]
      exact first
    | cons next indexes =>
      cases result : ((client.ask (.deleteIndex index)).play script).result with
      | error error =>
        -- nothing comes after a failure
        have refused : ∀ k answer, AnswersAfter client.configuration.retryPolicy script k answer →
            (StatusClass.of answer).isAccepted [.notFound] = false := by
          intro k answer after
          have concluded := (Endpoint.deleteIndex index).result_call ⟨k, after⟩
          rw [Bool.eq_false_iff]
          intro accepted
          rw [conclude_deleteIndex, if_pos accepted, ← ask, result] at concluded
          cases concluded
        rw [play_deleteIndexes_cons_of_error client result]
        refine ⟨nofun, fun _ response => ?_, first.judged⟩
        rw [List.length_cons, Decides.succ_iff_of_refused refused, ← Decides.one_iff]
        exact first.asked rfl response
      | ok done =>
        -- the others have what the first answer left of the script
        obtain ⟨k, answer, after, concluded, rest⟩ := Endpoint.exists_answersAfter_of_ok _ result
        have accepted : (StatusClass.of answer).isAccepted [.notFound] = true := by
          rw [conclude_deleteIndex] at concluded
          split at concluded
          · assumption
          · cases concluded
        rw [play_deleteIndexes_cons_of_ok client result, ask, rest]
        exact (ih _).afterAll after accepted _
          (client.exchangesOf_deleteIndexes_cons_ne_nil next indexes _)

/-- **The acceptance policy.** What a command cannot convert it does not send. Otherwise it asks its
questions, and the response that decides them is its final response, whatever came before. The
command fails with a refusal exactly if the class of that status is neither success nor in its list,
and then tells the status; and a class that is only tolerated has one result. The body shows in
neither. -/
theorem perform_verdict (client : Client S Q) (command : Command S Q α) (script : Script) :
    Verdict client.configuration.retryPolicy (client.questions command)
      (client.conversionError? command) command.action
      (command.tolerated client.configuration.toleratesBadRequest) command.neutral? script
      ((client.perform command).play script) := by
  cases command with
  | insert index id record =>
    exact .of_converted (fun _ => rfl) (fun _ => Endpoint.readsBodies_insert _ _ _) fun _ => rfl
  | upsert item =>
    exact .of_converted (fun _ => rfl) (fun _ => Endpoint.readsBodies_upsert _ _ _) fun _ => rfl
  | upsertBatch batch =>
    simp only [perform, upsertBatch, questions]
    split
    · exact .of_call rfl (Endpoint.readsBodies_upsertBatch _) rfl
    · exact .of_done _
  | query index query => exact client.verdict_query index query script
  | find index query => exact (client.verdict_query index query script).map QueryResult.first?
  | count index query =>
    exact .of_converted (fun _ => rfl) (fun _ => Endpoint.readsBodies_count _ _) fun _ => rfl
  | delete index id => exact .of_call rfl (fun _ => .ok _) rfl
  | deleteByQuery index query =>
    refine .of_converted (fun _ => rfl) (fun _ _ => .ok _) fun _ => ?_
    simp only [Endpoint.Tolerates, Endpoint.deleteByQuery, Command.tolerated]
    cases client.configuration.toleratesBadRequest <;> rfl
  | indexExists index => exact .of_call rfl (fun _ => .ok _) rfl
  | findIndexes pattern => exact .of_call rfl FailsOnBody.readNames rfl
  | mappingExists index => exact .of_call rfl (fun _ => .ok _) rfl
  | createIndex index settings => exact .of_call rfl (fun _ => .ok _) rfl
  | putMapping index mapping => exact .of_call rfl (fun _ => .ok _) rfl
  | refresh index => exact .of_call rfl (fun _ => .ok _) rfl
  | refreshAll => exact .of_call rfl (fun _ => .ok _) rfl
  | deleteIndexes indexes => exact client.verdict_deleteIndexes indexes script
  | deleteAllIndexes => exact .of_call rfl (fun _ => .ok _) rfl

/-- A deletion by query that times out once and then is refused. -/
theorem perform_verdict_badRequest :
    let client : Client Json Json :=
      { plain with configuration := { Configuration.standard with toleratesBadRequest := false } }
    let slow : Outcome := .error (.timeout .zero "slow")
    let bad : Response := ⟨some 400, []⟩
    let script : Script := Stream'.cons slow (Stream'.const (.error (.raised bad)))
    let run := (client.perform (.deleteByQuery "metrics-1" .null)).play script
    finalResponse? run.trace = some bad ∧
      run.result = .error (.refused "Delete by query" "Bad Request" "400") := by
  intro client slow bad script run
  have answers : Answers client.configuration.retryPolicy script bad := by
    refine ⟨1, by decide, fun i hi => ?_, .inr rfl⟩
    rw [Nat.lt_one_iff.mp hi]
    rfl
  have verdict := client.perform_verdict (.deleteByQuery "metrics-1" .null) script
  have final := (verdict.asked rfl bad).mpr (.ends answers (.inl rfl))
  exact ⟨final, (verdict.judged rfl bad final).refused rfl⟩

end Client

end EngineClient
