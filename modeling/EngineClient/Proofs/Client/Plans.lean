import EngineClient.Client.Command
import EngineClient.Proofs.Endpoint.Asking

/-!
# What commands send

Every command of a client follows a plan: the requests it may send are fixed by the command and by
the codecs of the client, before the engine has answered anything. The plan has at most one request
for each question of the command.

**`Client.perform_transparent`**: so retries, and the way in which a status is reported, do not show
in what a command answers, nor in what it asks.
-/

namespace EngineClient

open Call Operation

variable {S Q α β : Type}

namespace Client

/-! ## Plans of commands -/

theorem follows_deleteIndexes (client : Client S Q) (indexes : List String) :
    Follows client.configuration.retryPolicy
      (indexes.map fun index => (Endpoint.deleteIndex index).request)
      (client.deleteIndexes indexes) := by
  induction indexes with
  | nil => exact .ok ()
  | cons index indexes ih =>
    exact (Endpoint.follows_call (.deleteIndex index) _).bind fun _ => ih

/-- A command that first converts its argument and then asks one endpoint. -/
theorem follows_converted (client : Client S Q) (converted : Except CallError β)
    (endpoint : β → Endpoint α) :
    ∃ plan, plan.length ≤ 1 ∧ Follows client.configuration.retryPolicy plan
      (Operation.ofExcept converted >>= fun b => client.ask (endpoint b)) := by
  cases converted with
  | ok b => exact ⟨[(endpoint b).request], le_rfl, (endpoint b).follows_call _⟩
  | error error => exact ⟨[], Nat.zero_le 1, .error [] error⟩

theorem follows_perform (client : Client S Q) (command : Command S Q α) :
    ∃ plan, plan.length ≤ command.questions ∧
      Follows client.configuration.retryPolicy plan (client.perform command) := by
  have asks : ∀ {β : Type} (endpoint : Endpoint β), ∃ plan, plan.length ≤ 1 ∧
      Follows client.configuration.retryPolicy plan (client.ask endpoint) :=
    fun endpoint => ⟨[endpoint.request], le_rfl, endpoint.follows_call _⟩
  cases command with
  | insert index id record => exact client.follows_converted _ (.insert index id)
  | upsert item => exact client.follows_converted _ (.upsert item.index item.id)
  | upsertBatch batch =>
    simp only [perform, upsertBatch]
    split
    · exact asks _
    · exact ⟨[], Nat.zero_le 1, .ok _⟩
  | query index query =>
    exact client.follows_converted _ fun body =>
      .query index body client.records (client.queries.fetchStyle query)
  | find index query =>
    obtain ⟨plan, length, follows⟩ := client.follows_converted
      ((client.queries.toBody query).mapError .conversion) fun body =>
        .query index body client.records (client.queries.fetchStyle query)
    refine ⟨plan, length, ?_⟩
    -- picking the first record sends nothing
    have first := follows.bind fun results => Follows.ok results.first?
    rw [List.append_nil] at first
    exact first
  | count index query => exact client.follows_converted _ (.count index)
  | delete index id => exact asks _
  | deleteByQuery index query =>
    exact client.follows_converted _ fun body =>
      .deleteByQuery index body client.configuration.toleratesBadRequest
  | indexExists index => exact asks _
  | findIndexes pattern => exact asks _
  | mappingExists index => exact asks _
  | createIndex index settings => exact asks _
  | putMapping index mapping => exact asks _
  | refresh index => exact asks _
  | refreshAll => exact asks _
  | deleteIndexes indexes =>
    exact ⟨_, by rw [List.length_map]; exact le_rfl, client.follows_deleteIndexes indexes⟩
  | deleteAllIndexes => exact asks _

/-- **Retries do not show.** Whatever a command is told by the engine, the requests it may send are
those of a plan made before. A script on which it does not give up and the script without the
timeouts that it met there, with every raised response handed back as one, lead to the same result;
the requests that did not time out are the requests of the second run, each of the others is sent
again unchanged, and apart from the timeouts nothing is counted in either run. -/
theorem perform_transparent (client : Client S Q) (command : Command S Q α) :
    ∃ plan : List Request, plan.length ≤ command.questions ∧
      ∀ script, (client.perform command).Concludes script →
        let run := (client.perform command).play script
        let clean := (client.perform command).replay script
        (exchangesOf run.trace).map Prod.snd = script.take (exchangesOf run.trace).length ∧
        Transparent plan run clean := by
  obtain ⟨plan, length, follows⟩ := client.follows_perform command
  refine ⟨plan, length, fun script concludes => ⟨?_, ?_⟩⟩
  · exact consumed_eq_take _ script
  · exact follows.transparent script concludes

/-- A deletion that times out once and then finds nothing to delete. -/
theorem perform_transparent_delete :
    let slow : Outcome := .error (.timeout .zero "slow")
    let absent : Outcome := .error (.raised ⟨some 404, []⟩)
    let script : Script := Stream'.cons slow (Stream'.const absent)
    let operation := plain.perform (.delete "metrics-1" "a")
    (operation.play script).result = .ok () ∧ ∃ plan : List Request, plan.length ≤ 1 ∧
      Transparent plan (operation.play script) (operation.replay script) := by
  intro slow absent script operation
  have answers : Answers plain.configuration.retryPolicy script ⟨some 404, []⟩ := by
    refine ⟨1, by decide, ?_, .inr rfl⟩
    intro i hi
    rw [Nat.lt_one_iff.mp hi]
    rfl
  have result : (operation.play script).result = .ok () :=
    (Endpoint.delete "metrics-1" "a").result_call answers
  obtain ⟨plan, length, transparent⟩ := plain.perform_transparent (.delete "metrics-1" "a")
  refine ⟨result, plan, length, (transparent script ?_).2⟩
  intro error failed
  rw [result] at failed
  cases failed

end Client

end EngineClient
