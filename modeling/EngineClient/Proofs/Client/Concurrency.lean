import EngineClient.Client.Command
import EngineClient.Proofs.Call.Reporting
import EngineClient.Proofs.Endpoint.Judging
import Mathlib.Logic.Relation

/-!
# Calls side by side

A client, its clones and the calls made through them share counters and nothing else. A `Session` is
such a client at work: the counters, and one `Thread` for each call made so far. In `Session.Next` a
call is made, or one of the calls has its next round trip, with any outcome, and reports what it has
to before the round trip after. So the runs of `Session.Next` are the interleavings of any number of
calls, round trip by round trip, and a call that never moves again has been abandoned.

**`Session.accounted_of_reachable`**: in every session that can be reached, the counters tell the
timeouts of all calls and the calls that gave up, and a call that has ended did as it would have
done alone.
-/

namespace EngineClient

open Call Outcome Operation Relation

variable {S Q α β : Type}

/-! ## Commands report -/

namespace Endpoint

theorem mayRepeat_of_conclude {endpoint : Endpoint α} (reads : endpoint.ReadsBodies)
    {response : Response} {error : CallError} (failed : endpoint.conclude response = .error error) :
    error.mayRepeat = false := by
  unfold conclude at failed
  split at failed
  · have about := reads response error failed
    cases error with
    | gaveUp operation index attempts => cases about
    | _ => rfl
  · split at failed
    · cases failed
    · cases failed
      rfl

theorem reports_call (endpoint : Endpoint α) (reads : endpoint.ReadsBodies)
    (policy : RetryPolicy) : Reports false (endpoint.call policy).run := by
  rw [call_eq]
  exact (reports_send policy _ _ _).bind fun _ => .ofExcept fun _ => mayRepeat_of_conclude reads

end Endpoint

namespace Client

theorem reports_converted (client : Client S Q) {converted : Except ConversionError β}
    {endpoint : β → Endpoint α} (reads : ∀ b, (endpoint b).ReadsBodies) :
    Reports false (Operation.ofExcept (converted.mapError .conversion) >>= fun b =>
      client.ask (endpoint b)).run := by
  refine .bind (.ofExcept ?_) fun b => Endpoint.reports_call _ (reads b) _
  cases converted with
  | ok b => exact nofun
  | error cause =>
    rintro _ ⟨⟩
    rfl

theorem reports_deleteIndexes (client : Client S Q) (indexes : List String) :
    Reports false (client.deleteIndexes indexes).run := by
  induction indexes with
  | nil => exact .ok ()
  | cons index indexes ih =>
    exact .bind (Endpoint.reports_call (.deleteIndex index) (fun _ => .ok _) _)
      fun _ => ih

theorem reports_perform (client : Client S Q) (command : Command S Q α) :
    Reports false (client.perform command).run := by
  cases command with
  | insert index id record =>
    exact client.reports_converted fun _ => Endpoint.readsBodies_insert _ _ _
  | upsert item => exact client.reports_converted fun _ => Endpoint.readsBodies_upsert _ _ _
  | upsertBatch batch =>
    simp only [perform, upsertBatch]
    split
    · exact Endpoint.reports_call _ (Endpoint.readsBodies_upsertBatch _) _
    · exact .ok _
  | query index query =>
    exact client.reports_converted fun _ => Endpoint.readsBodies_query _ _ _ _
  | find index query =>
    exact .bind (client.reports_converted fun _ => Endpoint.readsBodies_query _ _ _ _) fun _ =>
      .ok _
  | count index query => exact client.reports_converted fun _ => Endpoint.readsBodies_count _ _
  | deleteByQuery index query => exact client.reports_converted fun _ _ => .ok _
  | findIndexes pattern => exact Endpoint.reports_call (.findIndexes pattern) FailsOnBody.readNames _
  | deleteIndexes indexes => exact client.reports_deleteIndexes indexes
  | delete index id => exact Endpoint.reports_call _ (fun _ => .ok _) _
  | indexExists index => exact Endpoint.reports_call _ (fun _ => .ok _) _
  | mappingExists index => exact Endpoint.reports_call _ (fun _ => .ok _) _
  | createIndex index settings => exact Endpoint.reports_call _ (fun _ => .ok _) _
  | putMapping index mapping => exact Endpoint.reports_call _ (fun _ => .ok _) _
  | refresh index => exact Endpoint.reports_call _ (fun _ => .ok _) _
  | refreshAll => exact Endpoint.reports_call _ (fun _ => .ok _) _
  | deleteAllIndexes => exact Endpoint.reports_call _ (fun _ => .ok _) _

end Client

/-! ## Threads -/

/-- A call of a client on its way. -/
structure Thread (S Q : Type) where
  {Answer : Type}
  command : Command S Q Answer
  /-- What has happened so far, in order. -/
  trace : List Call.Step
  /-- What is left: a round trip and what follows, or the result. -/
  rest : Call (Except CallError Answer)

namespace Thread

/-- A call that has just been made. -/
def start (client : Client S Q) (command : Command S Q α) : Thread S Q :=
  let begun := (client.perform command).run.advance
  ⟨command, begun.1, begun.2⟩

/-- The call after another round trip, which makes it go on with `next`. -/
def goOn (thread : Thread S Q) (request : Request) (outcome : Outcome)
    (next : Call (Except CallError thread.Answer)) : Thread S Q where
  command := thread.command
  trace := thread.trace ++ .exchanged request outcome :: next.advance.1
  rest := next.advance.2

/-- What the round trips of the call ended with, in order. -/
def outcomes (thread : Thread S Q) : List Outcome :=
  (exchangesOf thread.trace).map Prod.snd

/-- How many round trips of the call timed out. -/
def timeouts (thread : Thread S Q) : ℕ :=
  thread.outcomes.countP isTimeout

/-- The thread is where its command would be alone, and goes on as commands do. -/
structure Faithful (client : Client S Q) (thread : Thread S Q) : Prop where
  reports : ∀ request next, thread.rest = .exchange request next →
    ∀ outcome, Reports (isTimeout outcome) (next outcome)
  replays : ∀ later : Script,
    (client.perform thread.command).play (thread.outcomes ++ₛ later) =
      (thread.rest.run scripted later).afterAll thread.trace

variable {client : Client S Q} {thread : Thread S Q}

@[simp] theorem outcomes_start (client : Client S Q) (command : Command S Q α) :
    (start client command).outcomes = [] := by
  simp [outcomes, start, exchangesOf_advance]

@[simp] theorem outcomes_goOn (thread : Thread S Q) (request : Request) (outcome : Outcome)
    (next : Call (Except CallError thread.Answer)) :
    (thread.goOn request outcome next).outcomes = thread.outcomes ++ [outcome] := by
  simp [outcomes, goOn, exchangesOf_advance]

@[simp] theorem timeouts_start (client : Client S Q) (command : Command S Q α) :
    (start client command).timeouts = 0 := by
  simp [timeouts]

@[simp] theorem timeouts_goOn (thread : Thread S Q) (request : Request) (outcome : Outcome)
    (next : Call (Except CallError thread.Answer)) :
    (thread.goOn request outcome next).timeouts = thread.timeouts + (isTimeout outcome).toNat := by
  cases h : isTimeout outcome <;> simp [timeouts, h]

theorem countAll_start (client : Client S Q) (command : Command S Q α) (counts : Counts) :
    counts.countAll (start client command).trace =
      ⟨counts.timeouts, counts.limits + (start client command).rest.hasGivenUp.toNat⟩ :=
  (client.reports_perform command).countAll_advance counts

theorem faithful_start (client : Client S Q) (command : Command S Q α) :
    (start client command).Faithful client where
  reports _ _ waits outcome := (client.reports_perform command).of_advance waits outcome
  replays later := by
    rw [outcomes_start, Stream'.nil_append_stream]
    exact run_advance scripted (client.perform command).run later

theorem Faithful.countAll_goOn (h : thread.Faithful client) {request : Request}
    {next : Outcome → Call (Except CallError thread.Answer)}
    (waits : thread.rest = .exchange request next) (outcome : Outcome) (counts : Counts) :
    counts.countAll (.exchanged request outcome :: (next outcome).advance.1) =
      ⟨counts.timeouts + (isTimeout outcome).toNat,
        counts.limits + (thread.goOn request outcome (next outcome)).rest.hasGivenUp.toNat⟩ :=
  (h.reports request next waits outcome).countAll_advance counts

theorem Faithful.goOn (h : thread.Faithful client) {request : Request}
    {next : Outcome → Call (Except CallError thread.Answer)}
    (waits : thread.rest = .exchange request next) (outcome : Outcome) :
    (thread.goOn request outcome (next outcome)).Faithful client where
  reports _ _ waits' := (h.reports request next waits outcome).of_advance waits'
  replays later := by
    have replayed := h.replays (Stream'.cons outcome later)
    have step : thread.rest.run scripted (Stream'.cons outcome later) =
        ((next outcome).run scripted later).after (.exchanged request outcome) := by
      rw [waits]
      rfl
    rw [outcomes_goOn, Stream'.append_append_stream]
    refine replayed.trans ?_
    rw [step, run_advance]
    simp [Run.after, Run.afterAll, Thread.goOn]

/-! ### Running alone -/

/-- The thread after all that is left of it, alone with a script. -/
def playOut (thread : Thread S Q) (script : Script) : Thread S Q :=
  let run := thread.rest.run scripted script
  ⟨thread.command, thread.trace ++ run.trace, .done run.result⟩

theorem playOut_start (client : Client S Q) (command : Command S Q α) (script : Script) :
    (start client command).playOut script =
      ⟨command, ((client.perform command).play script).trace,
        .done ((client.perform command).play script).result⟩ := by
  rw [Operation.play, run_advance]
  rfl

theorem playOut_goOn (command : Command S Q α) (trace : List Call.Step) (request : Request)
    (next : Outcome → Call (Except CallError α)) (script : Script) :
    (goOn ⟨command, trace, .exchange request next⟩ request script.head
      (next script.head)).playOut script.tail =
      playOut ⟨command, trace, .exchange request next⟩ script := by
  have first : (Call.exchange request next).run scripted script =
      ((next script.head).run scripted script.tail).after (.exchanged request script.head) := rfl
  simp only [playOut, goOn, first, run_advance scripted (next script.head), Run.after,
    Run.afterAll, List.append_assoc, List.cons_append]

end Thread

/-! ## Sessions -/

/-- A client at work. -/
structure Session (S Q : Type) where
  counts : Counts
  /-- The calls made so far, ended or not. -/
  threads : List (Thread S Q)

namespace Session

/-- What may happen next. -/
inductive Next (client : Client S Q) : Session S Q → Session S Q → Prop
  /-- Another call is made. -/
  | start (counts : Counts) (threads : List (Thread S Q)) {Answer : Type}
      (command : Command S Q Answer) :
      Next client ⟨counts, threads⟩
        ⟨counts.countAll (Thread.start client command).trace, threads ++ [.start client command]⟩
  /-- A call has its next round trip. -/
  | roundTrip (counts : Counts) (before after : List (Thread S Q)) (thread : Thread S Q)
      {request : Request} {next : Outcome → Call (Except CallError thread.Answer)}
      (waits : thread.rest = .exchange request next) (outcome : Outcome) :
      Next client ⟨counts, before ++ thread :: after⟩
        ⟨counts.countAll (.exchanged request outcome :: (next outcome).advance.1),
          before ++ thread.goOn request outcome (next outcome) :: after⟩

/-- What the counters and the ended calls of a session tell, where `initial` was counted before. -/
structure Accounted (client : Client S Q) (initial : Counts) (session : Session S Q) : Prop where
  /-- Each round trip that timed out has been counted. -/
  timeouts : session.counts.timeouts =
    initial.timeouts + (session.threads.map Thread.timeouts).sum
  /-- Each call that ended in a failure after which it may be repeated has been counted. -/
  limits : session.counts.limits =
    initial.limits + session.threads.countP (·.rest.hasGivenUp)
  /-- That failure is that the engine could not be reached. -/
  gaveUp : ∀ thread ∈ session.threads, thread.rest.hasGivenUp = true ↔
    ∃ operation index attempts, thread.rest = .done (.error (.gaveUp operation index attempts))
  /-- A call that has ended had the result and the steps it has alone with its outcomes. -/
  alone : ∀ thread ∈ session.threads, ∀ result, thread.rest = .done result → ∀ later : Script,
    (client.perform thread.command).play (thread.outcomes ++ₛ later) =
      ⟨result, thread.trace, later⟩

variable {client : Client S Q} {initial : Counts} {session later : Session S Q}

/-! ### Runs alone -/

/-- A call may have all that is left of its round trips before any other has one. -/
theorem reaches_playOut (client : Client S Q) (before after : List (Thread S Q))
    (command : Command S Q α) (trace : List Call.Step) (call : Call (Except CallError α))
    (script : Script) (counts : Counts) :
    ∃ counted, ReflTransGen (Next client)
      ⟨counts, before ++ ⟨command, trace, call.advance.2⟩ :: after⟩
      ⟨counted, before ++ Thread.playOut ⟨command, trace, call.advance.2⟩ script :: after⟩ := by
  induction call generalizing trace script counts with
  | done result =>
    refine ⟨counts, ?_⟩
    simp only [Thread.playOut, advance, run, List.append_nil]
    exact .refl
  | report event next ih => exact ih trace script counts
  | exchange request next ih =>
    obtain ⟨counted, rest⟩ := ih script.head
      (trace ++ .exchanged request script.head :: (next script.head).advance.1) script.tail
      (counts.countAll (.exchanged request script.head :: (next script.head).advance.1))
    refine ⟨counted, .head (.roundTrip counts before after _ rfl script.head) ?_⟩
    rw [advance, ← Thread.playOut_goOn]
    · exact rest
    · intro event later equal
      cases equal

/-- So a session that makes one call is a run of that call. -/
theorem reaches_ended (client : Client S Q) (before after : List (Thread S Q))
    (command : Command S Q α) (script : Script) (counts : Counts) :
    ∃ counted, ReflTransGen (Next client)
      ⟨counts, before ++ .start client command :: after⟩
      ⟨counted, before ++ ⟨command, ((client.perform command).play script).trace,
        .done ((client.perform command).play script).result⟩ :: after⟩ := by
  rw [← Thread.playOut_start]
  exact reaches_playOut client before after command _ (client.perform command).run script counts

/-! ### Accounts -/

/-- What every step keeps. -/
structure Kept (client : Client S Q) (initial : Counts) (session : Session S Q) : Prop where
  timeouts : session.counts.timeouts =
    initial.timeouts + (session.threads.map Thread.timeouts).sum
  limits : session.counts.limits =
    initial.limits + session.threads.countP (·.rest.hasGivenUp)
  faithful : ∀ thread ∈ session.threads, thread.Faithful client

theorem Kept.of_next (h : session.Kept client initial) (next : Next client session later) :
    later.Kept client initial := by
  cases next with
  | start counts threads command =>
    have counted := Thread.countAll_start client command counts
    constructor
    · rw [counted]
      simpa using h.timeouts
    · rw [counted, List.countP_append, ← Nat.add_assoc, ← h.limits]
      cases given : (Thread.start client command).rest.hasGivenUp <;> simp [given]
    · intro thread member
      rcases List.mem_append.mp member with old | new
      · exact h.faithful thread old
      · rw [List.mem_singleton.mp new]
        exact Thread.faithful_start client command
  | roundTrip counts before after thread waits outcome =>
    have faithful := h.faithful thread (by simp)
    have counted := faithful.countAll_goOn waits outcome counts
    have timeouts := h.timeouts
    have limits := h.limits
    -- a call that waits for a round trip has not given up
    have going : thread.rest.hasGivenUp = false := by rw [waits]; rfl
    simp only [List.map_append, List.map_cons, List.sum_append, List.sum_cons,
      List.countP_append, List.countP_cons, going] at timeouts limits
    constructor
    · simp only [counted, List.map_append, List.map_cons, List.sum_append, List.sum_cons,
        Thread.timeouts_goOn]
      omega
    · simp only [counted, List.countP_append, List.countP_cons, limits]
      cases (thread.goOn _ outcome _).rest.hasGivenUp <;> simp +arith
    · intro other member
      rcases List.mem_append.mp member with old | new
      · exact h.faithful other (List.mem_append_left _ old)
      · rcases List.mem_cons.mp new with rfl | old
        · exact faithful.goOn waits outcome
        · exact h.faithful other (by simp [old])

theorem kept_of_reachable (reached : ReflTransGen (Next client) ⟨initial, []⟩ session) :
    session.Kept client initial := by
  induction reached with
  | refl => exact ⟨rfl, rfl, nofun⟩
  | tail _ next ih => exact ih.of_next next

theorem Next.counts_le (next : Next client session later) :
    session.counts.timeouts ≤ later.counts.timeouts ∧
      session.counts.limits ≤ later.counts.limits := by
  cases next <;> exact Counts.le_countAll _ _

/-- **Accounts of calls side by side.** Whatever calls are made, and however their round trips
interleave and end, at every moment the counters have grown by the timeouts of all calls together
and by the calls that gave up, and they only grow. A call that has ended had the result, the
requests and the events that it has alone when it is told the same outcomes. -/
theorem accounted_of_reachable (reached : ReflTransGen (Next client) ⟨initial, []⟩ session)
    (further : ReflTransGen (Next client) session later) :
    session.Accounted client initial ∧ session.counts.timeouts ≤ later.counts.timeouts ∧
      session.counts.limits ≤ later.counts.limits := by
  have kept := kept_of_reachable reached
  refine ⟨⟨kept.timeouts, kept.limits, fun _ _ => hasGivenUp_eq_true_iff, ?_⟩, ?_⟩
  · intro thread member result ended later
    rw [(kept.faithful thread member).replays later, ended]
    simp [run, Run.afterAll]
  · induction further with
    | refl => exact ⟨le_rfl, le_rfl⟩
    | tail _ next ih =>
      have step := next.counts_le
      exact ⟨ih.1.trans step.1, ih.2.trans step.2⟩

/-- One call waits for its first round trip until the other has ended, and then times out to the
last. -/
theorem accounted_of_reachable_two :
    let slow : Outcome := .error (.timeout .zero "slow")
    let gone : Outcome := .ok ⟨some 404, []⟩
    ∃ session, ReflTransGen (Next Client.plain) ⟨.zero, []⟩ session ∧
      session.threads.map Thread.outcomes = [List.replicate 4 slow, [gone]] ∧
      session.counts = ⟨4, 1⟩ := by
  intro slow gone
  let first : Command Json Json Unit := .delete "metrics-1" "a"
  let second : Command Json Json Unit := .delete "metrics-1" "b"
  have lost : (Client.plain.perform first).play (Stream'.const slow) = _ :=
    (Endpoint.delete "metrics-1" "a").play_call_of_timeouts fun _ _ => rfl
  have found : (Client.plain.perform second).play (Stream'.const gone) = _ :=
    (Endpoint.delete "metrics-1" "b").play_call_of_answer (Nat.zero_le _) (by simp) rfl
  -- both calls are made before the first of them has a round trip, and the second one ends first
  obtain ⟨_, middle⟩ := reaches_ended .plain [.start .plain first] [] second (Stream'.const gone) _
  obtain ⟨_, last⟩ := reaches_ended .plain [] [_] first (Stream'.const slow) _
  have reached := ((ReflTransGen.tail (.tail .refl (.start .zero [] first))
    (.start _ _ second)).trans middle).trans last
  rw [List.nil_append, lost, found] at reached
  have accounted := (accounted_of_reachable reached .refl).1
  exact ⟨_, reached, rfl, congrArg₂ Counts.mk accounted.timeouts accounted.limits⟩

end Session

end EngineClient
