import EngineClient.Proofs.Call.Retrying

/-!
# Retries do not show

An operation that `Follows` a plan sends the requests of the plan, one after the other, each as
often as the retry policy has it, and stops early only to fail. The plan is fixed before anything is
sent: what the engine answers decides how far the operation gets, not what it asks next.

**`Operation.Follows.transparent`**: such an operation cannot tell a script from the script without
the timeouts it met and with every raised response handed back as one (`cleaned`), unless it gives
up. `Transparent` says of the two runs what is the same and what differs.
-/

namespace EngineClient

open Call Outcome

namespace Call

/-! ## Scripts without timeouts -/

/-- The script without the timeouts among its first `n` outcomes and with every raised response
handed back as a response. -/
def cleaned (n : ℕ) (script : Script) : Script :=
  ((script.take n).filter (! isTimeout ·)).map settled ++ₛ (script.drop n).map settled

theorem cleaned_succ_of_timeout {n : ℕ} {script : Script} (h : isTimeout script.head = true) :
    cleaned (n + 1) script = cleaned n script.tail := by
  simp only [cleaned, Stream'.take_succ, List.filter_cons, h]
  rfl

theorem cleaned_succ_of_not_timeout {n : ℕ} {script : Script}
    (h : isTimeout script.head = false) :
    cleaned (n + 1) script = Stream'.cons (settled script.head) (cleaned n script.tail) := by
  simp only [cleaned, Stream'.take_succ, List.filter_cons, h]
  rfl

/-- Behind `k` timeouts the cleaned script starts with the next outcome. -/
theorem cleaned_of_answer {k m : ℕ} {script : Script}
    (before : ∀ i < k, isTimeout (script.get i) = true)
    (final : isTimeout (script.get k) = false) :
    cleaned (k + 1 + m) script =
      Stream'.cons (settled (script.get k)) (cleaned m (script.drop (k + 1))) := by
  induction k generalizing script with
  | zero =>
    rw [Nat.zero_add, Nat.add_comm 1 m, cleaned_succ_of_not_timeout final]
    rfl
  | succ k ih =>
    have shift : k + 1 + 1 + m = k + 1 + m + 1 := by omega
    rw [shift, cleaned_succ_of_timeout (before 0 (by omega)),
      @ih script.tail (fun i hi => before (i + 1) (by omega)) final]
    rfl

/-! ## Round trips up to an answer -/

section

variable {k : ℕ} {script : Script} (request : Request)

theorem isTimeout_of_mem_take (before : ∀ i < k, isTimeout (script.get i) = true) :
    ∀ outcome ∈ script.take k, isTimeout outcome = true := by
  intro outcome member
  obtain ⟨i, found⟩ := List.mem_iff_getElem?.mp member
  have hi : i < k := by
    have := (List.getElem?_eq_some_iff.mp found).1
    rwa [Stream'.length_take] at this
  rw [Stream'.getElem?_take hi, Option.some_inj] at found
  rw [← found]
  exact before i hi

/-- The round trips of a request that is answered behind `k` timeouts. -/
def tries (k : ℕ) (script : Script) : List (Request × Outcome) :=
  (script.take (k + 1)).map fun outcome => (request, outcome)

theorem tries_eq :
    tries request k script =
      ((script.take k).map fun outcome => (request, outcome)) ++ [(request, script.get k)] := by
  rw [tries, Stream'.take_succ', List.map_append]
  rfl

theorem length_tries : (tries request k script).length = k + 1 := by
  rw [tries, List.length_map, Stream'.length_take]

theorem getElem?_tries {i : ℕ} (hi : i < k + 1) :
    (tries request k script)[i]? = some (request, script.get i) := by
  rw [tries, List.getElem?_map, Stream'.getElem?_take hi, Option.map_some]

theorem filter_tries (before : ∀ i < k, isTimeout (script.get i) = true)
    (final : isTimeout (script.get k) = false) :
    (tries request k script).filter (! isTimeout ·.2) = [(request, script.get k)] := by
  have lost : ((script.take k).map fun outcome => (request, outcome)).filter
      (! isTimeout ·.2) = [] := by
    rw [List.filter_eq_nil_iff]
    intro exchange member
    obtain ⟨outcome, found, rfl⟩ := List.mem_map.mp member
    simpa using isTimeout_of_mem_take before outcome found
  rw [tries_eq, List.filter_append, lost, List.nil_append]
  simp [final]

theorem countP_tries (before : ∀ i < k, isTimeout (script.get i) = true)
    (final : isTimeout (script.get k) = false) :
    (tries request k script).countP (isTimeout ·.2) = k := by
  have lost : (script.take k).countP isTimeout = k := by
    rw [List.countP_eq_length.mpr (isTimeout_of_mem_take before), Stream'.length_take]
  have answered : [(request, script.get k)].countP (isTimeout ·.2) = 0 := by
    simp [final]
  rw [tries_eq, List.countP_append, List.countP_map, answered]
  exact lost

theorem exchangesOf_afterAll {α : Type} (policy : RetryPolicy) (run : Run α Script) :
    exchangesOf (run.afterAll
        (lostTrace policy request 0 k script ++ [.exchanged request (script.get k)])).trace =
      tries request k script ++ exchangesOf run.trace := by
  rw [Run.afterAll, exchangesOf_append, exchangesOf_append, exchangesOf_lostTrace, tries_eq]
  rfl

end

/-! ## Two runs -/

/-- What a run with timeouts and the run on the cleaned script have in common, where `plan` has the
requests that may be sent. -/
structure Transparent {α : Type} (plan : List Request)
    (run clean : Run (Except CallError α) Script) : Prop where
  /-- The results are the same. -/
  result : clean.result = run.result
  /-- The requests that did not time out are the requests of the cleaned run, in order. -/
  requests : requestsOf clean.trace =
    ((exchangesOf run.trace).filter (! isTimeout ·.2)).map Prod.fst
  /-- A request that timed out is the next request, too. -/
  repeated : ∀ i request outcome, (exchangesOf run.trace)[i]? = some (request, outcome) →
    isTimeout outcome = true → ∃ later, (exchangesOf run.trace)[i + 1]? = some (request, later)
  /-- The run counts its timeouts and nothing else. -/
  counts : ∀ counts : Counts, counts.countAll run.trace =
    ⟨counts.timeouts + (exchangesOf run.trace).countP (isTimeout ·.2), counts.limits⟩
  /-- The cleaned run counts nothing. -/
  clean_counts : ∀ counts : Counts, counts.countAll clean.trace = counts
  /-- Nothing but the plan is sent. -/
  planned : requestsOf clean.trace <+: plan
  /-- All of the plan is sent unless something fails. -/
  complete : ∀ a, run.result = .ok a → requestsOf clean.trace = plan

namespace Transparent

variable {α : Type} {plan : List Request}

theorem of_done (result : Except CallError α) (script script' : Script)
    (h : ∀ a, result = .ok a → plan = []) :
    Transparent plan ⟨result, [], script⟩ ⟨result, [], script'⟩ where
  result := rfl
  requests := rfl
  repeated := by
    intro i request outcome h
    simp at h
  counts := fun _ => rfl
  clean_counts := fun _ => rfl
  planned := List.nil_prefix
  complete := fun a ha => (h a ha).symm

/-- A request that is sent until it is answered, and then what follows. -/
theorem after_answer (policy : RetryPolicy) {request : Request} {script : Script} {k : ℕ}
    (before : ∀ i < k, isTimeout (script.get i) = true)
    (final : isTimeout (script.get k) = false)
    {run clean : Run (Except CallError α) Script} (rest : Transparent plan run clean) :
    Transparent (request :: plan)
      (run.afterAll (lostTrace policy request 0 k script ++ [.exchanged request (script.get k)]))
      (clean.afterAll [.exchanged request (settled (script.get k))]) := by
  have exchanges : exchangesOf (run.afterAll
      (lostTrace policy request 0 k script ++ [.exchanged request (script.get k)])).trace =
        tries request k script ++ exchangesOf run.trace :=
    exchangesOf_afterAll request policy run
  have requests : requestsOf (clean.afterAll
      [.exchanged request (settled (script.get k))]).trace = request :: requestsOf clean.trace := rfl
  constructor
  · exact rest.result
  · rw [requests, rest.requests, exchanges, List.filter_append,
      filter_tries request before final]
    rfl
  · intro i request' outcome found timeout
    rw [exchanges] at found ⊢
    have length : (tries request k script).length = k + 1 := length_tries request
    rcases Nat.lt_or_ge i (k + 1) with hi | hi
    · rw [List.getElem?_append_left (by omega), getElem?_tries request hi, Option.some_inj,
        Prod.mk.injEq] at found
      obtain ⟨rfl, rfl⟩ := found
      have hne : i ≠ k := by
        rintro rfl
        rw [final] at timeout
        exact Bool.false_ne_true timeout
      exact ⟨script.get (i + 1),
        by rw [List.getElem?_append_left (by omega), getElem?_tries request (by omega)]⟩
    · rw [List.getElem?_append_right (by omega), length] at found
      obtain ⟨later, hlater⟩ := rest.repeated _ request' outcome found timeout
      have shift : i + 1 - (k + 1) = i - (k + 1) + 1 := by omega
      exact ⟨later, by rw [List.getElem?_append_right (by omega), length, shift, hlater]⟩
  · intro counts
    rw [exchanges, List.countP_append, countP_tries request before final, Run.afterAll,
      Counts.countAll_append, Counts.countAll_append, countAll_lostTrace]
    refine (rest.counts ⟨counts.timeouts + k, counts.limits⟩).trans ?_
    rw [Nat.add_assoc]
  · intro counts
    exact rest.clean_counts counts
  · rw [requests]
    exact (List.prefix_cons_inj request).mpr rest.planned
  · intro a ha
    rw [requests, rest.complete a ha]

end Transparent

end Call

/-! ## Operations that follow a plan -/

namespace Operation

variable {α β : Type} {policy : RetryPolicy}

/-- The operation sends the requests of a plan, each by the policy, and stops early only to fail. -/
inductive Follows (policy : RetryPolicy) {α : Type} : List Request → Operation α → Prop
  /-- The plan is done. -/
  | ok (a : α) : Follows policy [] (ofExcept (.ok a))
  /-- The rest of the plan is dropped. -/
  | error (plan : List Request) (error : CallError) : Follows policy plan (ofExcept (.error error))
  /-- A request is sent, and its response decides how to go on. -/
  | send (plan : List Request) (request : Request) (index operation : String)
      (next : Response → Operation α) (rest : ∀ response, Follows policy plan (next response)) :
      Follows policy (request :: plan) (Call.send policy request index operation >>= next)

theorem Follows.bind {plan later : List Request} {operation : Operation α}
    {next : α → Operation β} (first : Follows policy plan operation)
    (second : ∀ a, Follows policy later (next a)) :
    Follows policy (plan ++ later) (operation >>= next) := by
  induction first with
  | ok a => exact second a
  | error plan error => exact .error (plan ++ later) error
  | send plan request index operation continue' rest ih =>
    rw [bind_assoc]
    exact .send (plan ++ later) request index operation _ ih

/-- The run on the script without the timeouts that the operation meets on it. -/
def replay (operation : Operation α) (script : Script) : Run (Except CallError α) Script :=
  operation.play (cleaned (exchangesOf (operation.play script).trace).length script)

/-- The operation does not end by giving up. -/
def Concludes (operation : Operation α) (script : Script) : Prop :=
  ∀ error, (operation.play script).result = .error error → error.mayRepeat = false

theorem Follows.transparent_resume {plan : List Request} {next : Response → Operation α}
    (h : ∀ response (script : Script), (next response).Concludes script →
      Transparent plan ((next response).play script) ((next response).replay script))
    (answer : Except CallError Response) (script : Script)
    (concludes : (resume next answer).Concludes script) :
    Transparent plan ((resume next answer).play script) ((resume next answer).replay script) := by
  cases answer with
  | ok response => exact h response script concludes
  | error error => exact .of_done _ _ _ fun _ failed => nomatch failed

/-- **Retries do not show.** An operation that follows a plan ends in the same way without the
timeouts it met, unless it gives up. -/
theorem Follows.transparent {plan : List Request} {operation : Operation α}
    (follows : Follows policy plan operation) (script : Script)
    (concludes : operation.Concludes script) :
    Transparent plan (operation.play script) (operation.replay script) := by
  induction follows generalizing script with
  | ok a => exact .of_done _ _ _ fun _ _ => rfl
  | error plan error => exact .of_done _ _ _ fun _ failed => nomatch failed
  | send plan request index name next rest ih =>
    rcases answer_or_timeouts policy script with ⟨k, enough, before, final⟩ | all
    · -- the settled outcome is the same in both runs, so both go on with the same operation
      let tail := resume next ((settled (script.get k)).mapError (.roundTrip name))
      have sent : (Call.send policy request index name >>= next).play script =
          (tail.play (script.drop (k + 1))).afterAll
            (lostTrace policy request 0 k script ++ [.exchanged request (script.get k)]) := by
        rw [play_bind, play_send_of_answer request index name enough before final]
        rfl
      have clean_sent : ∀ m, (Call.send policy request index name >>= next).play
          (cleaned (k + 1 + m) script) = (tail.play (cleaned m (script.drop (k + 1)))).afterAll
            [.exchanged request (settled (script.get k))] := by
        intro m
        rw [play_bind, cleaned_of_answer before final,
          play_send_of_answer (k := 0) request index name (Nat.zero_le _) (by simp)
            (by simpa using final)]
        simp only [Stream'.get_zero_cons, settled_settled]
        rfl
      have length : (exchangesOf ((Call.send policy request index name >>= next).play
          script).trace).length =
            k + 1 + (exchangesOf (tail.play (script.drop (k + 1))).trace).length := by
        rw [sent, exchangesOf_afterAll, List.length_append, length_tries]
      rw [replay, length, clean_sent, sent]
      apply Transparent.after_answer policy before final
      apply Follows.transparent_resume ih
      intro error failed
      exact concludes error (by rw [sent]; exact failed)
    · have lost := play_send_of_timeouts request index name all
      have stopped := play_bind (Call.send policy request index name) next script
      rw [lost] at stopped
      have := concludes _ (congrArg Run.result stopped)
      exact absurd this Bool.noConfusion

end Operation

end EngineClient
