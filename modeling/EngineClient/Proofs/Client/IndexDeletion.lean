import EngineClient.Proofs.Client.Acceptance

/-!
# Deleting indexes one by one

Each name of a list of indexes gets a turn of its own (`IndexDeletion.Turn`): the index is asked for
until something else than a timeout comes back, or until the attempts of this turn are used up. A
turn passes if it ends with the news that the index is gone, and otherwise it fails and nobody else
gets a turn (`IndexDeletion.Goes`).

* `IndexDeletion.exists_isTurn` — what one name gets, whatever the script;
* `IndexDeletion.exists_goes` — the whole list, by induction on it: the turns share out the script;
* **`Client.deleteIndexes_turns`** — what this comes to: requests, their outcomes and the result.
-/

namespace EngineClient

open Call Outcome Operation

namespace IndexDeletion

/-! ## Turns -/

/-- What one name gets: attempts that time out, and the last one. -/
structure Turn where
  index : String
  lost : List Outcome
  final : Outcome

namespace Turn

variable (turn : Turn)

def outcomes : List Outcome := turn.lost ++ [turn.final]

/-- The round trips of a turn, which all have the same request. -/
def exchanges : List (Request × Outcome) :=
  turn.outcomes.map fun outcome => (.bare .delete [turn.index], outcome)

/-- The turn keeps to a budget of further attempts, and gives up only when it is spent. -/
structure Fits (budget : ℕ) : Prop where
  lost : ∀ outcome ∈ turn.lost, isTimeout outcome = true
  few : turn.lost.length ≤ budget
  spent : isTimeout turn.final = true → turn.lost.length = budget

/-- The last attempt brought the response, handed over or raised. -/
def Brings (response : Response) : Prop :=
  turn.final = .ok response ∨ turn.final = .error (.raised response)

/-- The index is gone: it has been deleted, or there was none. -/
def Passes : Prop :=
  ∃ response, turn.Brings response ∧
    (StatusClass.of response = .success ∨ StatusClass.of response = .notFound)

/-- Why a turn does not pass. -/
inductive FailsWith (budget : ℕ) : CallError → Prop
  | refused {response : Response} (brings : turn.Brings response)
      (notSuccess : StatusClass.of response ≠ .success)
      (notMissing : StatusClass.of response ≠ .notFound) :
      FailsWith budget (.refused "Delete indexes"
        (response.reason?.getD CallError.noReason) response.statusText)
  | gaveUp {attempts : UInt32} (lost : isTimeout turn.final = true)
      (number : attempts.toNat = budget + 1) :
      FailsWith budget (.gaveUp "DELETE INDEX" turn.index attempts)
  | roundTrip {failure : RoundTripError} (final : turn.final = .error failure)
      (noTimeout : failure.isTimeout = false) (noResponse : failure.response? = none) :
      FailsWith budget (.roundTrip "DELETE INDEX" failure)

variable {turn} {budget : ℕ} {error : CallError}

theorem length_exchanges : turn.exchanges.length = turn.lost.length + 1 := by
  rw [exchanges, outcomes, List.length_map, List.length_append, List.length_singleton]

theorem Brings.toOption_final {response : Response} (brings : turn.Brings response) :
    (settled turn.final).toOption = some response := by
  rcases brings with final | final <;> rw [final] <;> rfl

theorem Passes.not_failsWith (passes : turn.Passes) : ¬ turn.FailsWith budget error := by
  obtain ⟨response, brings, accepted⟩ := passes
  have final := brings.toOption_final
  intro fails
  cases fails with
  | refused brings' notSuccess notMissing =>
    cases Option.some.inj (final.symm.trans brings'.toOption_final)
    exact accepted.elim notSuccess notMissing
  | gaveUp lost =>
    rw [toOption_settled_of_isTimeout lost] at final
    cases final
  | roundTrip failed _ noResponse =>
    rcases brings with brought | brought <;> cases brought.symm.trans failed
    cases noResponse

end Turn

/-! ## One name -/

/-- The run is a turn of the index. -/
structure IsTurn (budget : ℕ) (index : String) (turn : Turn)
    (run : Run (Except CallError Unit) Script) : Prop where
  index : turn.index = index
  fits : turn.Fits budget
  exchanges : exchangesOf run.trace = turn.exchanges
  result : (run.result = .ok () ∧ turn.Passes) ∨
    ∃ error, run.result = .error error ∧ turn.FailsWith budget error

theorem passes_or_failsWith_of_brings (budget : ℕ) {turn : Turn} {response : Response}
    (brings : turn.Brings response) :
    ((Endpoint.deleteIndex turn.index).conclude response = .ok () ∧ turn.Passes) ∨
      ∃ error, (Endpoint.deleteIndex turn.index).conclude response = .error error ∧
        turn.FailsWith budget error := by
  have accepted : (StatusClass.of response).isAccepted [.notFound] = true ↔
      StatusClass.of response = .success ∨ StatusClass.of response = .notFound := by
    simp [StatusClass.isAccepted]
  rw [Client.conclude_deleteIndex]
  by_cases gone : StatusClass.of response = .success ∨ StatusClass.of response = .notFound
  · exact .inl ⟨if_pos (accepted.mpr gone), response, brings, gone⟩
  · obtain ⟨notSuccess, notMissing⟩ := not_or.mp gone
    exact .inr ⟨_, if_neg (mt accepted.mp gone), .refused brings notSuccess notMissing⟩

/-- What the last attempt leads to, if it did not time out. -/
theorem passes_or_failsWith (budget : ℕ) (turn : Turn) (final : isTimeout turn.final = false) :
    let result := (settled turn.final).mapError (.roundTrip "DELETE INDEX") >>=
      (Endpoint.deleteIndex turn.index).conclude
    (result = .ok () ∧ turn.Passes) ∨ ∃ error, result = .error error ∧
      turn.FailsWith budget error := by
  cases brought : turn.final with
  | ok response => exact passes_or_failsWith_of_brings budget (.inl brought)
  | error failure =>
    cases failure with
    | raised response => exact passes_or_failsWith_of_brings budget (.inr brought)
    | timeout elapsed text =>
      rw [brought] at final
      cases final
    | _ => exact .inr ⟨_, rfl, .roundTrip brought rfl rfl⟩

theorem exists_isTurn (policy : RetryPolicy) (few : policy.maxAttempts.toNat < UInt32.size - 1)
    (index : String) (script : Script) :
    ∃ turn, IsTurn policy.maxAttempts.toNat index turn
      (((Endpoint.deleteIndex index).call policy).play script) := by
  rcases answer_or_timeouts policy script with ⟨k, enough, before, final⟩ | all
  · refine ⟨⟨index, script.take k, script.get k⟩, ?_⟩
    rw [Endpoint.play_call_of_answer _ enough before final]
    constructor
    case index => rfl
    case fits =>
      refine ⟨isTimeout_of_mem_take before, by rwa [Stream'.length_take], fun timeout => ?_⟩
      cases final.symm.trans timeout
    case exchanges =>
      rw [exchangesOf_append, exchangesOf_lostTrace, Turn.exchanges, Turn.outcomes,
        List.map_append]
      rfl
    case result => exact passes_or_failsWith _ ⟨index, script.take k, script.get k⟩ final
  · let last := policy.maxAttempts.toNat
    refine ⟨⟨index, script.take last, script.get last⟩, ?_⟩
    rw [Endpoint.play_call_of_timeouts _ all]
    constructor
    case index => rfl
    case fits =>
      have before : ∀ i < last, isTimeout (script.get i) = true := fun i hi => all i hi.le
      exact ⟨isTimeout_of_mem_take before, (Stream'.length_take _ _).le,
        fun _ => Stream'.length_take _ _⟩
    case exchanges =>
      rw [exchangesOf_append, exchangesOf_lostTrace, Stream'.take_succ']
      exact List.append_nil _
    case result =>
      refine .inr ⟨_, rfl, .gaveUp (all last le_rfl) ?_⟩
      -- the number of the last attempt does not wrap
      have size : UInt32.size = 2 ^ 32 := rfl
      rw [UInt32.toNat_add, UInt32.toNat_one]
      omega

/-! ## All names -/

/-- The names take their turns in order, up to the first that fails. -/
inductive Goes (budget : ℕ) : List String → List Turn → Except CallError Unit → Prop
  | done : Goes budget [] [] (.ok ())
  | on {turn : Turn} {turns : List Turn} {indexes : List String} {result : Except CallError Unit}
      (fits : turn.Fits budget) (passes : turn.Passes) (rest : Goes budget indexes turns result) :
      Goes budget (turn.index :: indexes) (turn :: turns) result
  | stops {turn : Turn} {indexes : List String} {error : CallError}
      (fits : turn.Fits budget) (fails : turn.FailsWith budget error) :
      Goes budget (turn.index :: indexes) [turn] (.error error)

theorem exists_goes {S Q : Type} (client : Client S Q)
    (few : client.configuration.retryPolicy.maxAttempts.toNat < UInt32.size - 1)
    (indexes : List String) (script : Script) :
    ∃ turns, Goes client.configuration.retryPolicy.maxAttempts.toNat indexes turns
        ((client.deleteIndexes indexes).play script).result ∧
      exchangesOf ((client.deleteIndexes indexes).play script).trace =
        turns.flatMap Turn.exchanges := by
  -- a turn leaves the rest of the script, whatever it is, to the names behind it
  induction indexes generalizing script with
  | nil => exact ⟨[], .done, rfl⟩
  | cons index indexes ih =>
    obtain ⟨turn, isTurn⟩ := exists_isTurn client.configuration.retryPolicy few index script
    obtain ⟨rfl, fits, exchanges, result⟩ := isTurn
    rw [Client.play_deleteIndexes_cons, Client.ask, Run.andThen, Run.afterAll]
    dsimp only
    rw [exchangesOf_append, exchanges]
    rcases result with ⟨ok, passes⟩ | ⟨error, failed, fails⟩
    · rw [ok]
      obtain ⟨turns, goes, others⟩ := ih _
      exact ⟨turn :: turns, .on fits passes goes, congrArg (turn.exchanges ++ ·) others⟩
    · rw [failed]
      exact ⟨[turn], .stops fits fails, rfl⟩

namespace Goes

variable {budget : ℕ} {indexes : List String} {turns : List Turn} {result : Except CallError Unit}

theorem asked (goes : Goes budget indexes turns result) : turns.map Turn.index <+: indexes := by
  induction goes with
  | done => exact List.nil_prefix
  | on _ _ _ ih => exact (List.prefix_cons_inj _).mpr ih
  | stops => exact (List.prefix_cons_inj _).mpr List.nil_prefix

theorem fits (goes : Goes budget indexes turns result) : ∀ turn ∈ turns, turn.Fits budget := by
  induction goes with
  | done => exact nofun
  | on fits _ _ ih => exact List.forall_mem_cons.mpr ⟨fits, ih⟩
  | stops fits => exact List.forall_mem_singleton.mpr fits

/-- Either all names have passed, or the last turn has failed and is the first that did. -/
theorem passed_or_failed (goes : Goes budget indexes turns result) :
    (result = .ok () ∧ turns.map Turn.index = indexes ∧ ∀ turn ∈ turns, turn.Passes) ∨
      ∃ before last error, turns = before ++ [last] ∧ (∀ turn ∈ before, turn.Passes) ∧
        last.FailsWith budget error ∧ result = .error error := by
  induction goes with
  | done => exact .inl ⟨rfl, rfl, nofun⟩
  | @on turn _ _ _ _ passes _ ih =>
    rcases ih with ⟨ok, all, passed⟩ | ⟨before, last, error, rfl, passed, fails, failed⟩
    · exact .inl ⟨ok, congrArg _ all, List.forall_mem_cons.mpr ⟨passes, passed⟩⟩
    · exact .inr ⟨turn :: before, last, error, rfl, List.forall_mem_cons.mpr ⟨passes, passed⟩,
        fails, failed⟩
  | @stops turn _ error _ fails => exact .inr ⟨[], turn, error, rfl, nofun, fails, rfl⟩

end Goes

/-- The run asks for the names of a list in these turns, and for no other name. -/
structure InTurns (budget : ℕ) (indexes : List String) (script : Script) (turns : List Turn)
    (run : Run (Except CallError Unit) Script) : Prop where
  asked : turns.map Turn.index <+: indexes
  fits : ∀ turn ∈ turns, turn.Fits budget
  attempts : ∀ turn ∈ turns, 1 ≤ turn.exchanges.length ∧ turn.exchanges.length ≤ budget + 1
  exchanges : exchangesOf run.trace = turns.flatMap Turn.exchanges
  /-- The turns share out the outcomes of the script in order. -/
  outcomes : turns.flatMap Turn.outcomes = script.take (turns.flatMap Turn.outcomes).length
  /-- A name gets a turn only if the names before it have passed. -/
  passed : ∀ turn ∈ turns.dropLast, turn.Passes
  /-- As long as the names pass, the next one gets a turn. -/
  complete : (∀ turn ∈ turns, turn.Passes) → turns.map Turn.index = indexes
  ok_iff : run.result = .ok () ↔ turns.map Turn.index = indexes ∧ ∀ turn ∈ turns, turn.Passes
  /-- The failure is that of the last turn, which is the first that has failed. -/
  failed : ∀ error, run.result = .error error → ∃ before last, turns = before ++ [last] ∧
    (∀ turn ∈ before, turn.Passes) ∧ last.FailsWith budget error
  empty : indexes = [] → requestsOf run.trace = [] ∧ run.result = .ok ()

theorem Goes.inTurns {budget : ℕ} {indexes : List String} {turns : List Turn} {script : Script}
    {operation : Operation Unit} (goes : Goes budget indexes turns (operation.play script).result)
    (exchanges : exchangesOf (operation.play script).trace = turns.flatMap Turn.exchanges) :
    InTurns budget indexes script turns (operation.play script) where
  asked := goes.asked
  fits := goes.fits
  attempts turn mem := by
    have few := (goes.fits turn mem).few
    rw [Turn.length_exchanges]
    omega
  exchanges := exchanges
  outcomes := by
    have consumed : (exchangesOf (operation.play script).trace).map Prod.snd =
        script.take (exchangesOf (operation.play script).trace).length :=
      consumed_eq_take _ script
    have outcomes : (turns.flatMap Turn.exchanges).map Prod.snd = turns.flatMap Turn.outcomes := by
      rw [List.map_flatMap]
      refine List.flatMap_congr fun turn _ => ?_
      rw [Turn.exchanges, List.map_map]
      exact List.map_id _
    rw [exchanges] at consumed
    rw [← outcomes, List.length_map]
    exact consumed
  passed := by
    rcases goes.passed_or_failed with ⟨-, -, passed⟩ | ⟨before, last, _, rfl, passed, -⟩
    · exact fun turn mem => passed turn (List.mem_of_mem_dropLast mem)
    · rwa [List.dropLast_concat]
  complete all := by
    rcases goes.passed_or_failed with ⟨-, complete, -⟩ | ⟨before, last, error, rfl, -, fails, -⟩
    · exact complete
    · exact absurd fails (all last List.mem_concat_self).not_failsWith
  ok_iff := by
    rcases goes.passed_or_failed with ⟨ok, all⟩ | ⟨before, last, error, rfl, -, fails, failed⟩
    · exact iff_of_true ok all
    · rw [failed]
      exact iff_of_false nofun fun all =>
        (all.2 last List.mem_concat_self).not_failsWith fails
  failed error failed := by
    rcases goes.passed_or_failed with ⟨ok, -⟩ | ⟨before, last, error', split, passed, fails, same⟩
    · cases ok.symm.trans failed
    · cases same.symm.trans failed
      exact ⟨before, last, split, passed, fails⟩
  empty nothing := by
    subst nothing
    rw [requestsOf_eq, exchanges]
    generalize (operation.play script).result = result at goes
    cases goes
    exact ⟨rfl, rfl⟩

end IndexDeletion

namespace Client

open IndexDeletion

variable {S Q : Type}

/-- **Deleting indexes one by one.** The names are asked for in the order of the list, each by one
request that is sent again after a timeout, with all of the budget for each of them. The first name
that is neither deleted nor missing ends it: its failure is the result, and no name behind it is
asked for. -/
theorem deleteIndexes_turns (client : Client S Q)
    (few : client.configuration.retryPolicy.maxAttempts.toNat < UInt32.size - 1)
    (indexes : List String) (script : Script) :
    ∃ turns, InTurns client.configuration.retryPolicy.maxAttempts.toNat indexes script turns
      ((client.deleteIndexes indexes).play script) := by
  obtain ⟨turns, goes, exchanges⟩ := exists_goes client few indexes script
  exact ⟨turns, goes.inTurns exchanges⟩

/-- A timeout, a missing index and one that is deleted; then one that was there before is refused,
and the last name is never asked for. -/
theorem deleteIndexes_turns_stopped :
    let slow : Outcome := .error (.timeout .zero "slow")
    let missing : Outcome := .ok ⟨some 404, []⟩
    let gone : Outcome := .error (.raised ⟨some 200, []⟩)
    let broken : Outcome := .ok ⟨some 500, []⟩
    let script : Script :=
      Stream'.cons slow <| Stream'.cons missing <| Stream'.cons gone <| Stream'.const broken
    let indexes := ["metrics-1", "metrics-2", "metrics-1", "raw-1"]
    let run := (plain.deleteIndexes indexes).play script
    (∃ turns, InTurns 3 indexes script turns run) ∧
      run.result = .error (.refused "Delete indexes" "Internal Server Error" "500") ∧
      exchangesOf run.trace = [(.bare .delete ["metrics-1"], slow),
        (.bare .delete ["metrics-1"], missing), (.bare .delete ["metrics-2"], gone),
        (.bare .delete ["metrics-1"], broken)] := by
  intro slow missing gone broken script indexes run
  refine ⟨plain.deleteIndexes_turns (by decide) indexes script, ?_⟩
  have first : (plain.ask (.deleteIndex "metrics-1")).play script =
      ⟨.ok (), lostTrace .standard (.bare .delete ["metrics-1"]) 0 1 script ++
        [.exchanged (.bare .delete ["metrics-1"]) missing], script.drop 2⟩ := by
    refine @Endpoint.play_call_of_answer _ (.deleteIndex "metrics-1") .standard script 1
      (by decide) (fun i early => ?_) rfl
    rw [Nat.lt_one_iff.mp early]
    rfl
  have second : (plain.ask (.deleteIndex "metrics-2")).play (script.drop 2) =
      ⟨.ok (), [.exchanged (.bare .delete ["metrics-2"]) gone], script.drop 3⟩ :=
    @Endpoint.play_call_of_answer _ (.deleteIndex "metrics-2") .standard _ 0 (Nat.zero_le _)
      nofun rfl
  have third : (plain.ask (.deleteIndex "metrics-1")).play (script.drop 3) =
      ⟨.error (.refused "Delete indexes" "Internal Server Error" "500"),
        [.exchanged (.bare .delete ["metrics-1"]) broken], script.drop 4⟩ :=
    @Endpoint.play_call_of_answer _ (.deleteIndex "metrics-1") .standard _ 0 (Nat.zero_le _)
      nofun rfl
  simp only [run, indexes, play_deleteIndexes_cons, first, second, third, Run.andThen, resume,
    Run.afterAll, play_ofExcept]
  exact ⟨trivial, rfl⟩

end Client

end EngineClient
