import EngineClient.Endpoint.Basic
import EngineClient.Proofs.Call.Transparency

/-!
# Asking an endpoint

One call of an endpoint sends nothing but its request, and if the script `Answers` within the
budget of the policy, the result is what the endpoint concludes from the response.

* `Endpoint.follows_call` — the plan of the call is the request alone;
* `Endpoint.requests_call` — the request goes out at least once and never changes;
* `Endpoint.sends_call` — so all that the call sends has the body of the request;
* `Endpoint.result_call` — the response that ends the retries decides the result;
* `Endpoint.conclude_eq_ok_iff` — what it takes to succeed where only success is accepted.
-/

namespace EngineClient

open Call Outcome Operation

variable {α : Type}

/-! ## Classes -/

namespace StatusClass

theorem ofStatus_eq_success_iff {status : Option Int} :
    ofStatus status = .success ↔ ∃ n, status = some n ∧ 200 ≤ n ∧ n ≤ 299 := by
  cases status with
  | none => simp [ofStatus]
  | some n =>
    simp only [ofStatus, Option.some_inj, exists_eq_left']
    by_cases success : 200 ≤ n ∧ n ≤ 299
    · rw [if_pos success]
      exact iff_of_true rfl success
    · rw [if_neg success]
      refine iff_of_false ?_ success
      split
      · exact StatusClass.noConfusion
      · split <;> exact StatusClass.noConfusion

theorem of_eq_success_iff {response : Response} :
    of response = .success ↔
      ∃ status, response.status = some status ∧ 200 ≤ status.toNat ∧ status.toNat ≤ 299 := by
  rw [of, ofStatus_eq_success_iff]
  simp only [Option.map_eq_some_iff]
  constructor
  · rintro ⟨_, ⟨status, h, rfl⟩, low, high⟩
    exact ⟨status, h, by omega, by omega⟩
  · rintro ⟨status, h, low, high⟩
    exact ⟨_, ⟨status, h, rfl⟩, by omega, by omega⟩

end StatusClass

/-! ## Answers -/

/-- The script answers a request that is sent by the policy after this many timeouts. -/
structure Call.AnswersAfter (policy : RetryPolicy) (script : Script) (k : ℕ)
    (response : Response) : Prop where
  /-- There are no more timeouts than the policy has further attempts for. -/
  enough : k ≤ policy.maxAttempts.toNat
  before : ∀ i < k, isTimeout (script.get i) = true
  /-- Behind them a response comes or is raised. -/
  answer : script.get k = .ok response ∨ script.get k = .error (.raised response)

/-- The script answers a request that is sent by the policy. -/
def Call.Answers (policy : RetryPolicy) (script : Script) (response : Response) : Prop :=
  ∃ k, AnswersAfter policy script k response

namespace Call.AnswersAfter

variable {policy : RetryPolicy} {script : Script} {k : ℕ} {response : Response}

theorem final (h : AnswersAfter policy script k response) : isTimeout (script.get k) = false := by
  rcases h.answer with h | h <;> rw [h] <;> rfl

theorem leadingTimeouts_eq (h : AnswersAfter policy script k response) :
    leadingTimeouts script = k :=
  leadingTimeouts_eq_coe_iff.mpr ⟨h.before, h.final⟩

theorem unique {j : ℕ} {other : Response} (h : AnswersAfter policy script k response)
    (h' : AnswersAfter policy script j other) : j = k ∧ other = response := by
  obtain rfl : j = k := Nat.cast_injective (h'.leadingTimeouts_eq.symm.trans h.leadingTimeouts_eq)
  refine ⟨rfl, ?_⟩
  rcases h.answer with one | one <;> rcases h'.answer with two | two <;>
    cases one.symm.trans two <;> rfl

end Call.AnswersAfter

theorem Call.answers_const (policy : RetryPolicy) (response : Response) :
    Answers policy (Stream'.const (.ok response)) response :=
  ⟨0, Nat.zero_le _, nofun, .inl rfl⟩

/-- A timeout in front uses up one of the further attempts. -/
theorem Call.Answers.cons_timeout {policy : RetryPolicy} {script : Script} {response : Response}
    (further : 0 < policy.maxAttempts.toNat) (first : script.get 0 = .ok response)
    (elapsed : Duration) (text : String) :
    Answers policy (Stream'.cons (.error (.timeout elapsed text)) script) response := by
  refine ⟨1, further, fun i early => ?_, .inl first⟩
  rw [Nat.lt_one_iff.mp early]
  rfl

/-- Whatever the operation is told, it sends something, and all that it sends has such a body. -/
def Operation.Sends (operation : Operation α) (carries : RequestBody → Prop) : Prop :=
  ∀ script, let requests := requestsOf (operation.play script).trace
    requests ≠ [] ∧ ∀ request ∈ requests, ∃ body, request.body = some body ∧ carries body

namespace Endpoint

variable (endpoint : Endpoint α) (policy : RetryPolicy)

theorem call_eq :
    endpoint.call policy =
      (Call.send policy endpoint.request endpoint.index endpoint.operation >>= fun response =>
        Operation.ofExcept (endpoint.conclude response)) := rfl

theorem follows_call : Follows policy [endpoint.request] (endpoint.call policy) := by
  rw [call_eq]
  apply Follows.send
  intro response
  cases endpoint.conclude response with
  | ok a => exact .ok a
  | error error => exact .error [] error

theorem result_call {policy : RetryPolicy} {script : Script} {response : Response}
    (answers : Answers policy script response) :
    ((endpoint.call policy).play script).result = endpoint.conclude response := by
  obtain ⟨k, after⟩ := answers
  have result : (settled (script.get k)).mapError (CallError.roundTrip endpoint.operation) =
      .ok response := by
    rcases after.answer with h | h <;> rw [h] <;> rfl
  rw [call_eq, play_bind, play_send_of_answer _ _ _ after.enough after.before after.final, result]
  rfl

theorem requests_call (script : Script) :
    ∃ n, requestsOf ((endpoint.call policy).play script).trace =
      List.replicate (n + 1) endpoint.request := by
  rw [call_eq, play_bind]
  have rest : ∀ (answer : Except CallError Response) (script : Script),
      exchangesOf ((resume (fun response => Operation.ofExcept (endpoint.conclude response))
        answer).play script).trace = [] := by
    intro answer script
    cases answer <;> rfl
  rcases answer_or_timeouts policy script with ⟨k, enough, before, final⟩ | all
  · refine ⟨k, ?_⟩
    rw [play_send_of_answer _ _ _ enough before final, requestsOf_eq, Run.andThen,
      exchangesOf_afterAll, rest, List.append_nil, tries, List.map_map]
    simp
  · refine ⟨policy.maxAttempts.toNat, ?_⟩
    rw [play_send_of_timeouts _ _ _ all, requestsOf_eq, Run.andThen, Run.afterAll,
      exchangesOf_append, exchangesOf_append, exchangesOf_lostTrace, rest]
    simp

theorem sends_call {body : RequestBody} {carries : RequestBody → Prop}
    (carried : endpoint.request.body = some body) (fits : carries body) :
    Operation.Sends (endpoint.call policy) carries := by
  intro script
  obtain ⟨n, requests⟩ := requests_call endpoint policy script
  dsimp only
  rw [requests]
  refine ⟨List.cons_ne_nil _ _, fun request mem => ⟨body, ?_, fits⟩⟩
  rw [List.eq_of_mem_replicate mem]
  exact carried

/-! ## Conclusions -/

variable {endpoint} {response : Response} {a : α}

theorem conclude_of_success (success : StatusClass.of response = .success) :
    endpoint.conclude response = endpoint.read response := by
  rw [conclude, success]

theorem conclude_of_ne_success (h : StatusClass.of response ≠ .success) :
    endpoint.conclude response = (endpoint.tolerated.lookup (.of response)).elim
      (.error (.ofResponse endpoint.action response)) .ok := by
  unfold conclude
  split
  · exact absurd ‹_› h
  · cases endpoint.tolerated.lookup (.of response) <;> rfl

theorem conclude_eq_ok_iff (h : endpoint.tolerated = []) :
    endpoint.conclude response = .ok a ↔
      StatusClass.of response = .success ∧ endpoint.read response = .ok a := by
  rw [conclude, h]
  cases StatusClass.of response with
  | success => exact ⟨fun read => ⟨rfl, read⟩, fun ⟨_, read⟩ => read⟩
  | badRequest | notFound | other => exact iff_of_false nofun fun ⟨h, _⟩ => nomatch h

theorem readJson_eq_ok_iff {next : Json → Except CallError α} :
    readJson next response = .ok a ↔
      ∃ body, response.json = .ok body ∧ next body = .ok a := by
  unfold readJson
  cases response.json with
  | ok body => exact ⟨fun h => ⟨body, rfl, h⟩, fun ⟨_, h, read⟩ => by cases h; exact read⟩
  | error failure => exact iff_of_false nofun fun ⟨_, h, _⟩ => nomatch h

end Endpoint

end EngineClient
