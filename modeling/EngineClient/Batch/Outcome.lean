/-!
# Outcomes of upserts
-/

namespace EngineClient

/-- The outcome of one upsert. -/
structure UpsertOutcome where
  /-- The document's id, if it is known. -/
  id : Option String
  index : String
  /-- Why it failed, if it did. -/
  failure : Option String
  deriving DecidableEq

namespace UpsertOutcome

/-- An upsert that succeeded. -/
def succeeded (id : Option String) (index : String) : UpsertOutcome :=
  ⟨id, index, none⟩

/-- An upsert that failed. -/
def failed (id : Option String) (index reason : String) : UpsertOutcome :=
  ⟨id, index, some reason⟩

/-- Whether the upsert succeeded. -/
def isSuccess (outcome : UpsertOutcome) : Bool :=
  outcome.failure.isNone

end UpsertOutcome

/-- The outcomes of a batch, in the order of the batch. -/
structure BatchOutcome where
  outcomes : List UpsertOutcome
  deriving DecidableEq

namespace BatchOutcome

/-- The outcomes that are failures. -/
def failures (batch : BatchOutcome) : List UpsertOutcome :=
  batch.outcomes.filter (! ·.isSuccess)

/-- Whether any upsert failed. -/
def hasFailures (batch : BatchOutcome) : Bool :=
  !batch.failures.isEmpty

end BatchOutcome

end EngineClient
