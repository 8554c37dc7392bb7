import EngineClient.Counters
import Mathlib.Data.Stream.Init

/-!
# Running calls

A call learns nothing but the outcomes of its round trips, in order. So a transport is, to one call,
the infinite sequence of outcomes to come: a `Script`. `Operation.play` runs an operation against a
script, and the theorems on retries quantify over all of them.

* **`Call.run_bind`** — a sequence of calls runs as the one call and then the other, from the state
  that the first one left;
* **`Operation.play_bind`** — the same for operations, of which the second only starts if the first
  succeeded;
* `Counts.countAll_append`, `Call.exchangesOf_append` — what is read off a trace is read off its
  parts;
* `Call.tally_eq` — a call may be counted while it runs, instead of keeping its trace.
-/

namespace EngineClient

/-! ## Outcomes -/

namespace Outcome

/-- Whether a round trip timed out. -/
def isTimeout : Outcome → Bool
  | .ok _ => false
  | .error failure => failure.isTimeout

/-- The outcome with a response that was raised as a failure handed back as a response. -/
def settled : Outcome → Outcome
  | .error (.raised response) => .ok response
  | outcome => outcome

@[simp] theorem isTimeout_settled (outcome : Outcome) :
    isTimeout (settled outcome) = isTimeout outcome := by
  unfold settled
  split <;> rfl

@[simp] theorem settled_settled (outcome : Outcome) :
    settled (settled outcome) = settled outcome := by
  cases outcome with
  | ok response => rfl
  | error failure => cases failure <;> rfl

end Outcome

namespace Call

variable {α β γ σ : Type}

/-! ## Sequencing -/

theorem bind_done (call : Call α) : bind done call = call := by
  induction call with
  | done result => rfl
  | report event next ih => rw [bind, ih]
  | exchange request next ih =>
    rw [bind]
    exact congrArg (exchange request) (funext ih)

theorem bind_bind (f : α → Call β) (g : β → Call γ) (call : Call α) :
    bind g (bind f call) = bind (fun a => bind g (f a)) call := by
  induction call with
  | done result => rfl
  | report event next ih => simp only [bind, ih]
  | exchange request next ih => simp only [bind, ih]

instance : LawfulMonad Call :=
  LawfulMonad.mk' Call bind_done (fun _ _ => rfl) fun call f g => bind_bind f g call

/-! ## Traces -/

/-- The round trips of a trace with their outcomes, in order. -/
def exchangesOf (trace : List Step) : List (Request × Outcome) :=
  trace.filterMap fun
    | .exchanged request outcome => some (request, outcome)
    | .reported _ => none

/-- The waits of a trace by how their delays are drawn: those before its first round trip, and for
each round trip those after it and before the next. -/
def waitsOf : List Step →
    List (Binary64.Word → Option Duration) × List (List (Binary64.Word → Option Duration))
  | [] => ([], [])
  | .exchanged _ _ :: trace => ([], (waitsOf trace).1 :: (waitsOf trace).2)
  | .reported (.backoff draw) :: trace => (draw :: (waitsOf trace).1, (waitsOf trace).2)
  | .reported _ :: trace => waitsOf trace

theorem requestsOf_eq (trace : List Step) :
    requestsOf trace = (exchangesOf trace).map Prod.fst := by
  rw [requestsOf, exchangesOf, List.map_filterMap]
  congr 1
  funext step
  cases step <;> rfl

@[simp] theorem exchangesOf_nil : exchangesOf [] = [] := rfl

@[simp] theorem exchangesOf_exchanged (request : Request) (outcome : Outcome)
    (trace : List Step) :
    exchangesOf (.exchanged request outcome :: trace) =
      (request, outcome) :: exchangesOf trace := rfl

@[simp] theorem exchangesOf_reported (event : Event) (trace : List Step) :
    exchangesOf (.reported event :: trace) = exchangesOf trace := rfl

@[simp] theorem exchangesOf_append (trace later : List Step) :
    exchangesOf (trace ++ later) = exchangesOf trace ++ exchangesOf later :=
  List.filterMap_append

/-! ## Running -/

/-- Puts steps in front of a run. -/
def Run.afterAll (steps : List Step) (run : Run α σ) : Run α σ :=
  { run with trace := steps ++ run.trace }

/-- A run followed by what its result makes go on from the state it left. -/
def Run.andThen (run : Run α σ) (next : α → σ → Run β σ) : Run β σ :=
  (next run.result run.state).afterAll run.trace

theorem run_bind (perform : Transport σ) (f : α → Call β) (call : Call α) (state : σ) :
    (bind f call).run perform state =
      (call.run perform state).andThen fun a => (f a).run perform := by
  induction call generalizing state with
  | done result => rfl
  | report event next ih =>
    simp only [bind, run, ih]
    rfl
  | exchange request next ih =>
    simp only [bind, run, ih]
    rfl

/-! ## Scripts -/

/-- The outcomes of the round trips to come. -/
abbrev Script := Stream' Outcome

/-- The transport that answers by a script. -/
def scripted : Transport Script :=
  fun _ script => (script.head, script.tail)

/-- A call consumes the outcomes of a script in order, one for each round trip. -/
theorem consumed_eq_take (call : Call α) (script : Script) :
    (exchangesOf (call.run scripted script).trace).map Prod.snd =
      script.take (exchangesOf (call.run scripted script).trace).length := by
  induction call generalizing script with
  | done result => rfl
  | report event next ih => exact ih script
  | exchange request next ih =>
    show script.head :: (exchangesOf ((next script.head).run scripted script.tail).trace).map
      Prod.snd = script.head :: _
    rw [ih script.head script.tail]
    rfl

end Call

/-! ## Counting -/

namespace Counts

theorem countAll_append (counts : Counts) (trace later : List Call.Step) :
    counts.countAll (trace ++ later) = (counts.countAll trace).countAll later :=
  List.foldl_append

end Counts

/-- Steps that are counted as they happen are the steps of the trace. -/
theorem Call.tally_eq {α σ : Type} (perform : Transport σ) (call : Call α) (counts : Counts)
    (state : σ) :
    call.tally perform counts state =
      ((call.run perform state).result, counts.countAll (call.run perform state).trace,
        (call.run perform state).state) := by
  induction call generalizing counts state with
  | done result => rfl
  | report event next ih => exact ih _ state
  | exchange request next ih => exact ih (perform request state).1 _ (perform request state).2

/-! ## Operations -/

namespace Operation

open Call

variable {α β : Type}

/-- Runs an operation against a script. -/
def play (operation : Operation α) (script : Script) : Run (Except CallError α) Script :=
  Call.run scripted operation.run script

@[simp] theorem play_ofExcept (result : Except CallError α) (script : Script) :
    (ofExcept result).play script = ⟨result, [], script⟩ := rfl

/-- How an operation goes on with the result of the one before it. -/
def resume (next : α → Operation β) : Except CallError α → Operation β
  | .ok a => next a
  | .error error => ofExcept (.error error)

theorem play_bind (operation : Operation α) (next : α → Operation β) (script : Script) :
    (operation >>= next).play script =
      (operation.play script).andThen fun result => (resume next result).play := by
  show Call.run scripted (Call.bind (ExceptT.bindCont next) operation.run) script = _
  rw [run_bind]
  refine congrArg _ (funext fun result => ?_)
  cases result <;> rfl

end Operation

end EngineClient
