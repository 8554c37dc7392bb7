/-!
# Query results
-/

namespace EngineClient

/-- The records of a query result and the total reported with them. -/
structure QueryResult (α : Type) where
  /-- How many documents match, as reported. -/
  total : Nat
  /-- Whether that is only a lower bound. -/
  isLowerBound : Bool
  /-- The records, in the order of their hits. -/
  records : List α
  deriving DecidableEq

namespace QueryResult

variable {α : Type}

/-- No records, but a known total. -/
def ofTotal (total : Nat) : QueryResult α :=
  ⟨total, false, []⟩

/-- No records at all. -/
def empty : QueryResult α :=
  ofTotal 0

/-- The first record. -/
def first? (results : QueryResult α) : Option α :=
  results.records.head?

end QueryResult

end EngineClient
