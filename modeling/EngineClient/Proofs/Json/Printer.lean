import EngineClient.Json.Printer

/-!
# What is written

**`Json.clear_chars`**: the text of a value has no control character, whatever characters its keys
and texts have and whatever numbers it has. So a value never spans more than one line.
-/

namespace EngineClient.Json

/-! ## Control characters -/

/-- There is no control character, and so no line break, among the characters. -/
def Clear (cs : List Char) : Prop :=
  ∀ c ∈ cs, 0x20 ≤ c.toNat

instance (cs : List Char) : Decidable (Clear cs) :=
  List.decidableBAll (fun c : Char => 0x20 ≤ c.toNat) cs

@[simp] theorem clear_nil : Clear [] := List.forall_mem_nil _

@[simp] theorem clear_cons {c : Char} {cs : List Char} :
    Clear (c :: cs) ↔ 0x20 ≤ c.toNat ∧ Clear cs :=
  List.forall_mem_cons

@[simp] theorem clear_append {cs ds : List Char} : Clear (cs ++ ds) ↔ Clear cs ∧ Clear ds :=
  List.forall_mem_append

theorem Clear.of_subset {cs ds : List Char} (h : Clear ds) (subset : cs ⊆ ds) : Clear cs :=
  fun c mem => h c (subset mem)

theorem Clear.newline_notMem {cs : List Char} (h : Clear cs) : '\n' ∉ cs :=
  fun mem => absurd (h _ mem) (by decide)

/-! ## Numbers -/

theorem clear_digitsOf (n : Nat) : Clear (Decimal.digitsOf n) := by
  intro c mem
  have digit := Nat.isDigit_of_mem_toDigits (by decide) (by decide) mem
  have low := (Char.isDigit_iff_toNat.mp digit).1
  exact Nat.le_trans (by decide) low

theorem clear_integerChars (n : Int) : Clear (integerChars n) := by
  unfold integerChars
  split
  · exact clear_cons.mpr ⟨by decide, clear_digitsOf _⟩
  · exact clear_digitsOf _

theorem clear_replicate_zero (n : Nat) : Clear (List.replicate n '0') := by
  intro c mem
  rw [List.eq_of_mem_replicate mem]
  decide

theorem clear_positional (d : Decimal) : Clear d.positional := by
  have digits := clear_digitsOf d.digits
  simp only [Decimal.positional]
  split
  · simp [digits, clear_replicate_zero]
  split
  · simp [digits.of_subset (List.take_subset _ _), digits.of_subset (List.drop_subset _ _)]
  · simp [digits, clear_replicate_zero]

theorem clear_scientific (d : Decimal) : Clear d.scientific := by
  have digits := clear_digitsOf d.digits
  unfold Decimal.scientific
  refine clear_append.mpr ⟨?_, ?_⟩
  · split
    · decide
    · rename_i first h
      rw [h] at digits
      exact digits
    · rename_i first others h
      rw [h] at digits
      simpa using digits
  · refine clear_cons.mpr ⟨by decide, clear_cons.mpr ⟨?_, clear_digitsOf _⟩⟩
    split <;> decide

theorem clear_floatLayout (d : Decimal) : Clear (floatLayout d) := by
  simp only [floatLayout]
  split
  · exact clear_positional d
  · exact clear_scientific d

theorem clear_numberChars (n : Number) : Clear n.chars := by
  cases n with
  | integer n => exact clear_integerChars n
  | float x =>
    have body : Clear (if x.mantissa = 0 then ['0', '.', '0'] else floatLayout x.shortest) := by
      split
      · decide
      · exact clear_floatLayout _
    rw [Number.chars, Binary64.format]
    split
    · exact clear_cons.mpr ⟨by decide, body⟩
    · exact body

/-! ## Texts -/

theorem clear_hexDigit {n : Nat} (h : n < 16) : 0x20 ≤ (hexDigit n).toNat := by
  revert n
  decide

theorem clear_escapeChar (c : Char) : Clear (escapeChar c) := by
  unfold escapeChar
  split; · decide
  split; · decide
  split; · decide
  split; · decide
  split; · decide
  split; · decide
  split; · decide
  split
  · have high := clear_hexDigit (show c.toNat / 16 < 16 by omega)
    have low := clear_hexDigit (show c.toNat % 16 < 16 by omega)
    simp [high, low]
  · rename_i h
    simpa using h

theorem clear_stringChars (s : String) : Clear (stringChars s) := by
  have body : Clear (s.toList.flatMap escapeChar) := by
    intro c mem
    obtain ⟨d, -, mem⟩ := List.mem_flatMap.mp mem
    exact clear_escapeChar d c mem
  simp [stringChars, body]

/-! ## Values -/

mutual

/-- **A value is written on one line.** -/
theorem clear_chars : (value : Json) → Clear value.chars
  | .null | .bool true | .bool false | .array [] | .object [] => by
    rw [chars]
    decide
  | .number n => by
    rw [chars]
    exact clear_numberChars n
  | .string s => by
    rw [chars]
    exact clear_stringChars s
  | .array (item :: items) => by
    rw [chars]
    have first := clear_chars item
    have others := clear_itemsChars items
    simp [first, others]
  | .object (field :: fields) => by
    rw [chars]
    have first := clear_fieldChars field
    have others := clear_fieldsChars fields
    simp [first, others]
termination_by structural value => value

theorem clear_itemsChars : (items : List Json) → Clear (itemsChars items)
  | [] => by
    rw [itemsChars]
    decide
  | item :: items => by
    rw [itemsChars]
    have first := clear_chars item
    have others := clear_itemsChars items
    simp [first, others]
termination_by structural items => items

theorem clear_fieldsChars : (fields : List (String × Json)) → Clear (fieldsChars fields)
  | [] => by
    rw [fieldsChars]
    decide
  | field :: fields => by
    rw [fieldsChars]
    have first := clear_fieldChars field
    have others := clear_fieldsChars fields
    simp [first, others]
termination_by structural fields => fields

theorem clear_fieldChars : (field : String × Json) → Clear (fieldChars field)
  | (key, value) => by
    rw [fieldChars]
    have name := clear_stringChars key
    have body := clear_chars value
    simp [name, body]
termination_by structural field => field

end

end EngineClient.Json
