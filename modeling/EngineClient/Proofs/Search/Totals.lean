import EngineClient.Proofs.Fallible
import EngineClient.Proofs.Numeric.Whole
import EngineClient.Search.HitTotal

/-!
# Totals of a search response

The number of a total is read exactly or refused. It may take a way through floating point, with a
test for the fraction, a bound that is rounded and a cast that saturates, but what comes out is what
the number is as a rational one (**`HitTotal.readAs_readNumber`**); so how it is written has no say
in it. What a response states as its total stands in an object or in place of one
(`HitTotal.statedTotal?`). **`HitTotal.readsExactly_ofBody`** says which statements are read, and how
the others are refused; by `HitTotal.alike_ofBody`, the same statement is read alike wherever it
stands.

A result takes a total for a lower bound if the engine states any relation but equality
(`HitTotal.isLowerBound_eq_true_iff`). A count takes it for one only if the relation is that of a
capped total (`HitTotal.exact_of_bounded`). The two go by the same member of the response
(`HitTotal.relation_of_ofBody`).
-/

namespace EngineClient

/-- A number as a rational one. -/
def Json.Number.value : Json.Number → ℚ
  | .integer n => n
  | .float x => x.value

namespace HitTotal

open Json Fallible

/-! ## Numbers in floating point -/

/-- The bound on floats is rounded up to the first number past 64 bits. -/
theorem value_floatBound : floatBound.value = UInt64.size := by
  have bound : floatBound = ⟨false, 1 <<< 52, 12⟩ := by decide
  rw [bound]
  decide +kernel

/-- A float is past 64 bits if it reaches the bound. -/
theorem floatBound_le_iff {x : Binary64} {v : ℕ} (value : x.value = v) :
    floatBound ≤ x ↔ UInt64.size ≤ v := by
  show floatBound.value ≤ x.value ↔ _
  rw [value_floatBound, value, Nat.cast_le]

theorem readNumber_of_unsigned {value : Json} {v : ℕ} (unsigned : value.asUnsigned? = some v) :
    readNumber value = .ok v := by
  unfold readNumber
  rw [unsigned]

section

variable {value : Json} {x : Binary64} (notUnsigned : value.asUnsigned? = none)
  (float : value.asFloat? = some x)

include notUnsigned float

theorem readNumber_of_small {v : ℕ} (whole : x.value = v) (small : v < UInt64.size) :
    readNumber value = .ok v := by
  have below : ¬ floatBound ≤ x := mt (floatBound_le_iff whole).mp small.not_ge
  unfold readNumber
  rw [notUnsigned, float]
  dsimp only
  rw [if_pos (Binary64.exists_natCast_iff.mpr ⟨v, whole⟩), if_neg below,
    Binary64.toNat_toUInt64 whole small]

theorem readNumber_of_large {v : ℕ} (whole : x.value = v) (large : UInt64.size ≤ v) :
    readNumber value = .error (.overflow (UInt64.size - 1)) := by
  unfold readNumber
  rw [notUnsigned, float]
  dsimp only
  rw [if_pos (Binary64.exists_natCast_iff.mpr ⟨v, whole⟩),
    if_pos ((floatBound_le_iff whole).mpr large)]

theorem readNumber_of_other (other : ∀ v : ℕ, x.value ≠ v) :
    readNumber value = .error (.unexpected s!"Invalid total hits value: {value.text}") := by
  have unfit : ¬ (.zero false ≤ x ∧ x.fract.isZero = true) := by
    rw [Binary64.exists_natCast_iff]
    rintro ⟨v, whole⟩
    exact other v whole
  unfold readNumber
  rw [notUnsigned, float]
  exact if_neg unfit

end

/-! ## Numbers -/

/-- What becomes of a number in the place of a total. -/
inductive ReadAs (n : Json.Number) : Except CallError ℕ → Prop
  | exact {v : ℕ} (value : n.value = v) (small : v < UInt64.size) : ReadAs n (.ok v)
  | overflow {v : ℕ} (value : n.value = v) (large : UInt64.size ≤ v) :
      ReadAs n (.error (.overflow (UInt64.size - 1)))
  | invalid (other : ∀ v : ℕ, n.value ≠ v) :
      ReadAs n (.error (.unexpected s!"Invalid total hits value: {(Json.number n).text}"))

theorem readAs_float (x : Binary64) : ReadAs (.float x) (readNumber (.number (.float x))) := by
  by_cases natural : ∃ v : ℕ, x.value = v
  · obtain ⟨v, value⟩ := natural
    rcases lt_or_ge v UInt64.size with small | large
    · rw [readNumber_of_small rfl rfl value small]
      exact .exact value small
    · rw [readNumber_of_large rfl rfl value large]
      exact .overflow value large
  · rw [not_exists] at natural
    rw [readNumber_of_other rfl rfl natural]
    exact .invalid natural

/-- Only an integer that is not one of 64 bits takes the way through floating point, which is not
exact; but it keeps the sign and does not lead back below the bound. -/
theorem readAs_integer (n : ℤ) : ReadAs (.integer n) (readNumber (.number (.integer n))) := by
  by_cases unsigned : 0 ≤ n ∧ n < UInt64.size
  · have taken : (Json.number (.integer n)).asUnsigned? = some n.toNat := if_pos unsigned
    rw [readNumber_of_unsigned taken]
    refine .exact ?_ (by omega)
    show (n : ℚ) = (n.toNat : ℕ)
    exact_mod_cast (Int.toNat_of_nonneg unsigned.1).symm
  have notUnsigned : (Json.number (.integer n)).asUnsigned? = none := if_neg unsigned
  rcases lt_or_ge n 0 with negative | nonneg
  · have below := Binary64.value_ofInt_lt negative
    rw [readNumber_of_other notUnsigned rfl fun v value => ?_]
    · refine .invalid fun v value => ?_
      have same : n = v := by exact_mod_cast (show (n : ℚ) = v from value)
      omega
    · rw [value] at below
      exact absurd below v.cast_nonneg.not_gt
  · obtain ⟨m, rfl⟩ := Int.eq_ofNat_of_zero_le nonneg
    have large : UInt64.size ≤ m := by omega
    obtain ⟨v, value, reached⟩ :=
      Binary64.exists_natCast_ofInt (k := 64) (by decide) (by decide) large
    rw [readNumber_of_large notUnsigned rfl value reached]
    exact .overflow (v := m) (Int.cast_natCast m) large

/-- **A number is read as what it is.** -/
theorem readAs_readNumber (n : Json.Number) : ReadAs n (readNumber (.number n)) := by
  cases n with
  | integer n => exact readAs_integer n
  | float x => exact readAs_float x

/-- What is not a natural number is negative or has a fraction. -/
theorem forall_ne_natCast_iff {q : ℚ} : (∀ v : ℕ, q ≠ v) ↔ q < 0 ∨ q.den ≠ 1 := by
  constructor
  · intro other
    by_contra natural
    obtain ⟨nonneg, whole⟩ := not_or.mp natural
    rw [not_lt] at nonneg
    rw [not_not] at whole
    apply other q.num.toNat
    calc q = (q.num : ℚ) := ((Rat.den_eq_one_iff q).mp whole).symm
      _ = ((q.num.toNat : ℤ) : ℚ) := by rw [Int.toNat_of_nonneg (Rat.num_nonneg.mpr nonneg)]
      _ = (q.num.toNat : ℚ) := Int.cast_natCast _
  · rintro other v rfl
    exact other.elim v.cast_nonneg.not_gt fun fraction => fraction rfl

section

variable {value : Json}

/-- What is no number is no total. -/
theorem readNumber_of_not_number (other : ∀ n : Json.Number, value ≠ .number n) :
    readNumber value = .error (.unexpected s!"Invalid total hits value: {value.text}") := by
  cases value with
  | number n => exact absurd rfl (other n)
  | _ => rfl

theorem readNumber_eq_ok_iff {v : ℕ} :
    readNumber value = .ok v ↔
      ∃ n : Json.Number, value = .number n ∧ n.value = v ∧ v < UInt64.size := by
  by_cases number : ∃ n : Json.Number, value = .number n
  · obtain ⟨n, rfl⟩ := number
    simp only [Json.number.injEq, exists_eq_left']
    have read := readAs_readNumber n
    generalize readNumber (.number n) = result at read ⊢
    cases read with
    | exact value small =>
      rw [value, Except.ok.injEq, Nat.cast_inj]
      exact ⟨fun same => ⟨same, same ▸ small⟩, And.left⟩
    | overflow value large =>
      refine iff_of_false nofun ?_
      rintro ⟨same, small⟩
      rw [value, Nat.cast_inj] at same
      omega
    | invalid other => exact iff_of_false nofun fun ⟨same, _⟩ => other v same
  · rw [not_exists] at number
    rw [readNumber_of_not_number number]
    exact iff_of_false nofun fun ⟨n, same, _⟩ => number n same

/-- A natural number past 64 bits is too large, by as much as it may be. -/
theorem readNumber_eq_overflow_iff {bound : ℕ} :
    readNumber value = .error (.overflow bound) ↔ bound = UInt64.size - 1 ∧
      ∃ (n : Json.Number) (v : ℕ), value = .number n ∧ n.value = v ∧ UInt64.size ≤ v := by
  by_cases number : ∃ n : Json.Number, value = .number n
  · obtain ⟨n, rfl⟩ := number
    simp only [Json.number.injEq, exists_and_left, exists_eq_left']
    have read := readAs_readNumber n
    generalize readNumber (.number n) = result at read ⊢
    cases read with
    | exact value small =>
      refine iff_of_false nofun ?_
      rintro ⟨-, v, same, large⟩
      rw [value, Nat.cast_inj] at same
      omega
    | overflow value large =>
      rw [Except.error.injEq, CallError.overflow.injEq, eq_comm]
      exact (and_iff_left ⟨_, value, large⟩).symm
    | invalid other => exact iff_of_false nofun fun ⟨_, v, same, _⟩ => other v same
  · rw [not_exists] at number
    rw [readNumber_of_not_number number]
    exact iff_of_false nofun fun ⟨_, n, _, same, _⟩ => number n same

theorem readNumber_eq_unexpected_iff {text : String} :
    readNumber value = .error (.unexpected text) ↔
      text = s!"Invalid total hits value: {value.text}" ∧
        ∀ n : Json.Number, value = .number n → n.value < 0 ∨ n.value.den ≠ 1 := by
  by_cases number : ∃ n : Json.Number, value = .number n
  · obtain ⟨n, rfl⟩ := number
    simp only [Json.number.injEq, forall_eq', ← forall_ne_natCast_iff]
    have read := readAs_readNumber n
    generalize readNumber (.number n) = result at read ⊢
    cases read with
    | exact value small => exact iff_of_false nofun fun ⟨_, other⟩ => other _ value
    | overflow value large => exact iff_of_false nofun fun ⟨_, other⟩ => other _ value
    | invalid other =>
      rw [Except.error.injEq, CallError.unexpected.injEq, eq_comm]
      exact (and_iff_left other).symm
  · rw [not_exists] at number
    rw [readNumber_of_not_number number, Except.error.injEq, CallError.unexpected.injEq, eq_comm]
    exact (and_iff_left fun n same => absurd same (number n)).symm

end

/-! ## Statements -/

/-- The total that a search response states, in an object or in place of one. -/
def statedTotal? (body : Json) : Option Json :=
  match (body.get? "hits").bind (·.get? "total") with
  | some (.object fields) => Json.Fields.get? fields "value"
  | place => place

/-- The relation that a search response states between its total and the true one. -/
def statedRelation? (body : Json) : Option String :=
  (((body.get? "hits").bind (·.get? "total")).bind (·.get? "relation")).bind asString?

/-- A total is the number stated and the relation stated. -/
theorem ofBody_eq (body : Json) :
    ofBody body = ((statedTotal? body).elim (.ok 0) readNumber).map
      fun value => ⟨value, statedRelation? body⟩ := by
  unfold ofBody statedTotal? statedRelation?
  cases (body.get? "hits").bind (·.get? "total") with
  | none => rfl
  -- only an object has members
  | some place => cases place <;> rfl

variable {body : Json} {total : HitTotal}

theorem ofBody_eq_ok_iff :
    ofBody body = .ok total ↔ (statedTotal? body).elim (.ok 0) readNumber = .ok total.value ∧
      total.relation = statedRelation? body := by
  rw [ofBody_eq, map_eq_ok_iff]
  constructor
  · rintro ⟨value, read, rfl⟩
    exact ⟨read, rfl⟩
  · rintro ⟨read, relation⟩
    exact ⟨_, read, by rw [← relation]⟩

theorem ofBody_eq_error_iff {error : CallError} :
    ofBody body = .error error ↔
      ∃ value, statedTotal? body = some value ∧ readNumber value = .error error := by
  rw [ofBody_eq, map_eq_error_iff]
  cases statedTotal? body <;> simp

theorem relation_of_ofBody (read : ofBody body = .ok total) :
    total.relation = statedRelation? body :=
  (ofBody_eq_ok_iff.mp read).2

/-- The total of a response is read exactly, or refused for what is stated in its place. -/
structure ReadsExactly (body : Json) (result : Except CallError HitTotal) : Prop where
  /-- No total is zero. A number is what it says, if it is natural and has 64 bits. -/
  ok_iff : ∀ v : ℕ, (∃ total, result = .ok total ∧ total.value = v) ↔
    (statedTotal? body = none ∧ v = 0) ∨
      ∃ n : Json.Number, statedTotal? body = some (.number n) ∧ n.value = v ∧ v < UInt64.size
  relation : ∀ total, result = .ok total → total.relation = statedRelation? body
  /-- A natural number that has more than 64 bits is too large. -/
  overflow_iff : ∀ bound, result = .error (.overflow bound) ↔ bound = UInt64.size - 1 ∧
    ∃ (n : Json.Number) (v : ℕ), statedTotal? body = some (.number n) ∧ n.value = v ∧
      UInt64.size ≤ v
  /-- What is negative, has a fraction or is no number at all is no total. -/
  unexpected_iff : ∀ text, result = .error (.unexpected text) ↔
    ∃ value, statedTotal? body = some value ∧ text = s!"Invalid total hits value: {value.text}" ∧
      ∀ n : Json.Number, value = .number n → n.value < 0 ∨ n.value.den ≠ 1

theorem readsExactly_ofBody (body : Json) : ReadsExactly body (ofBody body) where
  ok_iff v := by
    have read_iff : (∃ total, ofBody body = .ok total ∧ total.value = v) ↔
        (statedTotal? body).elim (.ok 0) readNumber = .ok v := by
      simp only [ofBody_eq_ok_iff]
      constructor
      · rintro ⟨total, ⟨read, -⟩, rfl⟩
        exact read
      · intro read
        exact ⟨⟨v, statedRelation? body⟩, ⟨read, rfl⟩, rfl⟩
    rw [read_iff]
    cases statedTotal? body with
    | none => simp [eq_comm]
    | some value => simp [readNumber_eq_ok_iff]
  relation _ := relation_of_ofBody
  overflow_iff bound := by
    rw [ofBody_eq_error_iff]
    simp only [readNumber_eq_overflow_iff]
    constructor
    · rintro ⟨_, stated, bound, n, v, rfl, value, large⟩
      exact ⟨bound, n, v, stated, value, large⟩
    · rintro ⟨bound, n, v, stated, value, large⟩
      exact ⟨_, stated, bound, n, v, rfl, value, large⟩
  unexpected_iff text := by
    rw [ofBody_eq_error_iff]
    simp only [readNumber_eq_unexpected_iff]

/-! ## Spellings -/

/-- The same is stated: one value, or two numbers that are equal. -/
inductive SameStatement : Option Json → Option Json → Prop
  | same (stated : Option Json) : SameStatement stated stated
  | number {m n : Json.Number} (value : m.value = n.value) :
      SameStatement (some (.number m)) (some (.number n))

/-- Two readings agree: in the number, or in the kind of failure. -/
inductive Alike : Except CallError ℕ → Except CallError ℕ → Prop
  | total (value : ℕ) : Alike (.ok value) (.ok value)
  | overflow (bound : ℕ) : Alike (.error (.overflow bound)) (.error (.overflow bound))
  | unexpected (text other : String) :
      Alike (.error (.unexpected text)) (.error (.unexpected other))

/-- Two numbers cannot be read in different ways if they are the same rational number. -/
theorem ReadAs.alike {m n : Json.Number} (value : m.value = n.value) {one two : Except CallError ℕ}
    (first : ReadAs m one) (second : ReadAs n two) : Alike one two := by
  cases first with
  | @exact v is small =>
    rw [value] at is
    cases second with
    | exact same _ =>
      rw [is, Nat.cast_inj] at same
      rw [same]
      exact .total _
    | overflow same large =>
      rw [is, Nat.cast_inj] at same
      omega
    | invalid other => exact absurd is (other v)
  | @overflow v is large =>
    rw [value] at is
    cases second with
    | exact same small =>
      rw [is, Nat.cast_inj] at same
      omega
    | overflow => exact .overflow _
    | invalid other => exact absurd is (other v)
  | invalid other =>
    cases second with
    | @exact v is _ => exact absurd (value.trans is) (other v)
    | @overflow v is _ => exact absurd (value.trans is) (other v)
    | invalid => exact .unexpected _ _

theorem alike_readNumber {m n : Json.Number} (value : m.value = n.value) :
    Alike (readNumber (.number m)) (readNumber (.number n)) :=
  (readAs_readNumber m).alike value (readAs_readNumber n)

theorem alike_readNumber_self (value : Json) : Alike (readNumber value) (readNumber value) := by
  cases value with
  | number n => exact alike_readNumber rfl
  | _ => exact .unexpected _ _

/-- Neither the spelling of a number nor the place it stands in makes a difference. -/
theorem alike_ofBody {other : Json}
    (same : SameStatement (statedTotal? body) (statedTotal? other)) :
    Alike ((ofBody body).map HitTotal.value) ((ofBody other).map HitTotal.value) := by
  have number (body : Json) : (ofBody body).map HitTotal.value =
      (statedTotal? body).elim (.ok 0) readNumber := by
    rw [ofBody_eq]
    cases (statedTotal? body).elim (.ok 0) readNumber <;> rfl
  rw [number, number]
  generalize statedTotal? body = one at same ⊢
  generalize statedTotal? other = two at same ⊢
  cases same with
  | same =>
    cases one with
    | none => exact .total 0
    | some value => exact alike_readNumber_self value
  | number value => exact alike_readNumber value

/-! ## Judgements -/

theorem isLowerBound_eq_true_iff :
    total.isLowerBound = true ↔ ∃ relation, total.relation = some relation ∧
      relation ≠ exactRelation := by
  unfold isLowerBound
  cases total.relation <;> simp

theorem bounded_eq_ok_iff {n : Nat} :
    total.bounded = .ok n ↔ total.value ≤ maximum ∧ n = total.value := by
  unfold bounded
  split
  · rename_i large
    exact iff_of_false nofun fun ⟨small, _⟩ => Nat.not_lt.mpr small large
  · rename_i small
    rw [Except.ok.injEq]
    exact ⟨fun same => ⟨Nat.not_lt.mp small, same.symm⟩, fun ⟨_, same⟩ => same.symm⟩

theorem bounded_eq_error_iff {error : CallError} :
    total.bounded = .error error ↔ maximum < total.value ∧ error = .overflow total.value := by
  unfold bounded
  split
  · rename_i large
    rw [Except.error.injEq, eq_comm]
    exact (and_iff_right large).symm
  · rename_i small
    exact iff_of_false nofun fun ⟨large, _⟩ => small large

theorem exact_of_bounded {n : Nat} (bounded : total.bounded = .ok n) :
    total.exact =
      if total.relation = some cappedRelation then .error windowOverflow else .ok n := by
  rw [exact, bounded]

end HitTotal

end EngineClient
