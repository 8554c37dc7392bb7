import EngineClient.Numeric.Binary64

/-!
# JSON values

A number is an integer or a binary floating point number, and `1` differs from `1.0`. An object is
a list of fields in ascending order of their keys; `Fields.insert` keeps that order and replaces
the value of a key that is there already.
-/

namespace EngineClient

/-- A JSON number. -/
inductive Json.Number where
  /-- A number written without fraction and exponent, from `-2 ^ 63` to `2 ^ 64 - 1`. -/
  | integer (n : Int)
  /-- Any other number. -/
  | float (x : Binary64)
  deriving DecidableEq

/-- A JSON value. -/
inductive Json where
  | null
  | bool (b : Bool)
  | number (n : Json.Number)
  | string (s : String)
  | array (items : List Json)
  | object (fields : List (String × Json))

namespace Json

/-- The fields of an object. -/
abbrev Fields := List (String × Json)

instance : Inhabited Json := ⟨.null⟩

/-- An integer as a value. -/
def int (n : Int) : Json :=
  .number (.integer n)

/-! ## Equality -/

mutual

/-- Equality of values is decidable. -/
def decEq : (a b : Json) → Decidable (a = b)
  | .null, .null => isTrue rfl
  | .bool a, .bool b => if h : a = b then isTrue (h ▸ rfl) else isFalse (by simpa using h)
  | .number a, .number b => if h : a = b then isTrue (h ▸ rfl) else isFalse (by simpa using h)
  | .string a, .string b => if h : a = b then isTrue (h ▸ rfl) else isFalse (by simpa using h)
  | .array a, .array b =>
    match decEqItems a b with
    | isTrue h => isTrue (h ▸ rfl)
    | isFalse h => isFalse (by simpa using h)
  | .object a, .object b =>
    match decEqFields a b with
    | isTrue h => isTrue (h ▸ rfl)
    | isFalse h => isFalse (by simpa using h)
  | .null, .bool _ | .null, .number _ | .null, .string _ | .null, .array _ | .null, .object _
  | .bool _, .null | .bool _, .number _ | .bool _, .string _ | .bool _, .array _
  | .bool _, .object _ | .number _, .null | .number _, .bool _ | .number _, .string _
  | .number _, .array _ | .number _, .object _ | .string _, .null | .string _, .bool _
  | .string _, .number _ | .string _, .array _ | .string _, .object _ | .array _, .null
  | .array _, .bool _ | .array _, .number _ | .array _, .string _ | .array _, .object _
  | .object _, .null | .object _, .bool _ | .object _, .number _ | .object _, .string _
  | .object _, .array _ => isFalse (by simp)
termination_by structural a => a

/-- Equality of sequences of values is decidable. -/
def decEqItems : (a b : List Json) → Decidable (a = b)
  | [], [] => isTrue rfl
  | [], _ :: _ => isFalse (by simp)
  | _ :: _, [] => isFalse (by simp)
  | x :: xs, y :: ys =>
    match decEq x y, decEqItems xs ys with
    | isTrue h, isTrue hs => isTrue (by simp [h, hs])
    | isFalse h, _ => isFalse (by simp [h])
    | _, isFalse hs => isFalse (by simp [hs])
termination_by structural a => a

/-- Equality of fields is decidable. -/
def decEqFields : (a b : List (String × Json)) → Decidable (a = b)
  | [], [] => isTrue rfl
  | [], _ :: _ => isFalse (by simp)
  | _ :: _, [] => isFalse (by simp)
  | x :: xs, y :: ys =>
    match decEqField x y, decEqFields xs ys with
    | isTrue h, isTrue hs => isTrue (by simp [h, hs])
    | isFalse h, _ => isFalse (by simp [h])
    | _, isFalse hs => isFalse (by simp [hs])
termination_by structural a => a

/-- Equality of single fields is decidable. -/
def decEqField : (a b : String × Json) → Decidable (a = b)
  | (k, x), (l, y) =>
    match decEq x y with
    | isTrue h => if hk : k = l then isTrue (by simp [h, hk]) else isFalse (by simp [hk])
    | isFalse h => isFalse (by simp [h])
termination_by structural a => a

end

instance : DecidableEq Json := decEq

/-! ## Fields -/

namespace Fields

/-- The value of a key. -/
def get? (fields : Fields) (key : String) : Option Json :=
  fields.lookup key

/-- Sets the value of a key, keeping ascending order. -/
def insert (key : String) (value : Json) : Fields → Fields
  | [] => [(key, value)]
  | (k, v) :: rest =>
    if key < k then (key, value) :: (k, v) :: rest
    else if key = k then (key, value) :: rest
    else (k, v) :: insert key value rest

/-- Drops a key. -/
def erase (key : String) (fields : Fields) : Fields :=
  fields.filter fun field => field.1 ≠ key

/-- The object with these fields; of several values for one key the last counts. -/
def ofList (members : List (String × Json)) : Fields :=
  members.foldl (fun fields member => fields.insert member.1 member.2) []

end Fields

/-- The object with these fields; of several values for one key the last counts. -/
def ofFields (members : List (String × Json)) : Json :=
  .object (Fields.ofList members)

/-! ## Views -/

/-- The value of a key, if this is an object that has it. -/
def get? : Json → String → Option Json
  | .object fields, key => Fields.get? fields key
  | _, _ => none

/-- The text, if this is one. -/
def asString? : Json → Option String
  | .string s => some s
  | _ => none

/-- The items, if this is an array. -/
def asArray? : Json → Option (List Json)
  | .array items => some items
  | _ => none

theorem asString?_eq_some_iff {value : Json} {text : String} :
    value.asString? = some text ↔ value = .string text := by
  cases value <;> simp [asString?]

theorem asArray?_eq_some_iff {value : Json} {items : List Json} :
    value.asArray? = some items ↔ value = .array items := by
  cases value <;> simp [asArray?]

theorem bind_asString?_eq_some_iff {value : Option Json} {text : String} :
    value.bind asString? = some text ↔ value = some (.string text) := by
  simp [Option.bind_eq_some_iff, asString?_eq_some_iff]

theorem bind_asArray?_eq_some_iff {value : Option Json} {items : List Json} :
    value.bind asArray? = some items ↔ value = some (.array items) := by
  simp [Option.bind_eq_some_iff, asArray?_eq_some_iff]

/-- The number, if this is an integer from `0` to `2 ^ 64 - 1`. -/
def asUnsigned? : Json → Option Nat
  | .number (.integer n) => if 0 ≤ n ∧ n < UInt64.size then some n.toNat else none
  | _ => none

/-- The number in binary floating point, if this is a number; an integer is rounded to the nearest
one. -/
def asFloat? : Json → Option Binary64
  | .number (.integer n) => some (.ofInt n)
  | .number (.float x) => some x
  | _ => none

/-- The number, if this is an integer from `-2 ^ 63` to `2 ^ 63 - 1`. -/
def asSigned? : Json → Option Int
  | .number (.integer n) =>
    if -0x8000000000000000 ≤ n ∧ n < 0x8000000000000000 then some n else none
  | _ => none

end Json

end EngineClient
