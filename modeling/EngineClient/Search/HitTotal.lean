import EngineClient.Call.Error

/-!
# Total hits

A search response reports how many documents match, as a number or as an object with a number and
its relation to the true total. An integer of 64 bits is taken as it is. Any other number is looked
at in floating point: it counts if it is whole, is an overflow past 64 bits, and is cast otherwise.
-/

namespace EngineClient

/-- The total that a search response reports. -/
structure HitTotal where
  /-- The number reported. -/
  value : Nat
  /-- How it relates to the true total, if that is said. -/
  relation : Option String
  deriving DecidableEq

namespace HitTotal

/-- The relation of a total that is exact. -/
def exactRelation : String := "eq"

/-- The relation of a total at which the engine stopped counting. -/
def cappedRelation : String := "gte"

/-- The largest total that a result can count. -/
def maximum : Nat := 0x7FFFFFFF

/-! ## Reading -/

/-- The largest 64-bit number in floating point. It needs more bits than there are, so this is the
number after it. -/
def floatBound : Binary64 :=
  .ofInt (UInt64.size - 1)

/-- Reads the number of a total. -/
def readNumber (value : Json) : Except CallError Nat :=
  let invalid := CallError.unexpected s!"Invalid total hits value: {value.text}"
  match value.asUnsigned? with
  | some total => .ok total
  | none =>
    match value.asFloat? with
    | some total =>
      if .zero false ≤ total ∧ total.fract.isZero then
        if floatBound ≤ total then .error (.overflow (UInt64.size - 1))
        else .ok total.toUInt64.toNat
      else .error invalid
    | none => .error invalid

/-- Reads the total of a search response; an absent total is zero. -/
def ofBody (body : Json) : Except CallError HitTotal :=
  match (body.get? "hits").bind (·.get? "total") with
  | none => .ok ⟨0, none⟩
  | some (.object fields) => do
    let value ← (Json.Fields.get? fields "value").elim (.ok 0) readNumber
    return ⟨value, (Json.Fields.get? fields "relation").bind Json.asString?⟩
  | some total => do
    return ⟨← readNumber total, none⟩

/-! ## Judging -/

/-- Whether the number is only a lower bound. -/
def isLowerBound (total : HitTotal) : Bool :=
  total.relation.any (· ≠ exactRelation)

/-- The number, if a result can count that far. -/
def bounded (total : HitTotal) : Except CallError Nat :=
  if maximum < total.value then .error (.overflow total.value) else .ok total.value

/-- The failure to count past the engine's window. -/
def windowOverflow : CallError :=
  .uncounted
    "max result window overflow, unable to count the precise number of documents"

/-- The number for a count, which must not be capped. -/
def exact (total : HitTotal) : Except CallError Nat :=
  if total.relation = some cappedRelation then .error windowOverflow else total.bounded

end HitTotal

end EngineClient
