import EngineClient.Proofs.Json.Embedding
import EngineClient.Proofs.Json.Fields

/-!
# JSON round trip

**`Json.parse_text`**: a value is read back from its text if it is `Portable`, that is, if its
numbers are integers of 64 bits and it does not nest deeper than the reader goes. Its objects are
held in ascending order, which setting a key keeps (`Fields.Ascending.insert`). There is no condition
on its texts and on what its keys are made of.

The printer writes an array or an object as one of the texts of which `Json.takenFor_arrayText` and
`Json.takenFor_objectText` say what they are taken for. So **`Json.takenFor_text`**, by which the
text of a value is read back wherever it stands, is an induction on how deep the value nests.
-/

namespace EngineClient.Json

open Utf8 Reader

/-! ## Portable values -/

/-- The value's numbers are integers of 64 bits, signed or not, and its arrays and objects nest at
most `depth` deep. An object is held in ascending order, as any object that is made of fields. -/
inductive Portable : (depth : Nat) → Json → Prop where
  | null {depth : Nat} : Portable depth .null
  | bool {depth : Nat} (b : Bool) : Portable depth (.bool b)
  | integer {depth : Nat} {n : Int} (low : -0x8000000000000000 ≤ n) (high : n < UInt64.size) :
    Portable depth (.number (.integer n))
  | string {depth : Nat} (s : String) : Portable depth (.string s)
  | array {depth : Nat} {items : List Json} (inner : ∀ item ∈ items, Portable depth item) :
    Portable (depth + 1) (.array items)
  | object {depth : Nat} {fields : Fields} (ascending : fields.Ascending)
    (inner : ∀ field ∈ fields, Portable depth field.2) : Portable (depth + 1) (.object fields)

/-! ## Values by their first byte -/

section First

variable (fuel depth : Nat) (s : Bytes)

theorem value_quote :
    Reader.value fuel depth (code '"' :: s) =
      (Reader.string [] s >>= fun read => .ok (.string read.1, read.2)) := by
  rw [Reader.value.eq_def]
  rfl

theorem value_minus : Reader.value fuel depth (code '-' :: s) = Reader.number true s := by
  rw [Reader.value.eq_def]
  rfl

theorem value_digit {b : UInt8} (digit : isDigit b = true) :
    Reader.value fuel depth (b :: s) = Reader.number false (b :: s) := by
  have ne : ∀ c : Char, isDigit (code c) = false → b ≠ code c := fun c => ne_of_isDigit digit
  rw [Reader.value.eq_def, skipSpace_cons (isSpace_of_isDigit digit)]
  simp only [if_neg (ne '[' rfl), if_neg (ne '{' rfl), if_neg (ne '"' rfl), if_neg (ne 'n' rfl),
    if_neg (ne 't' rfl), if_neg (ne 'f' rfl), if_neg (ne '-' rfl), if_pos digit]

end First

theorem value_integerChars (fuel depth : Nat) {n : Int} (low : -0x8000000000000000 ≤ n)
    (high : n < UInt64.size) {rest : Bytes} (ends : EndsNumber rest) :
    Reader.value fuel depth (encodeChars (integerChars n) ++ rest) = .ok (.int n, rest) := by
  have size : UInt64.size = 0x10000000000000000 := rfl
  unfold integerChars
  split
  · have sign : true = true → 0 < n.natAbs ∧ n.natAbs ≤ 0x8000000000000000 := fun _ => by omega
    have read := number_digitsOf (by omega) sign ends
    have value : -(n.natAbs : Int) = n := by omega
    rw [if_pos rfl, value] at read
    exact (value_minus fuel depth _).trans read
  · have sign : false = true → 0 < n.natAbs ∧ n.natAbs ≤ 0x8000000000000000 :=
      fun h => absurd h Bool.false_ne_true
    have read := number_digitsOf (by omega) sign ends
    have value : (n.natAbs : Int) = n := by omega
    rw [if_neg Bool.false_ne_true, value] at read
    obtain ⟨b, s, bytes, digit⟩ := exists_encodeChars_digitsOf n.natAbs
    -- without a sign the reader puts the first digit back
    rw [bytes] at read ⊢
    exact (value_digit fuel depth _ digit).trans read

/-! ## Arrays and objects -/

/-- An item as it is printed. -/
def Item.printed (value : Json) : Item :=
  ⟨encodeChars value.chars, value, []⟩

/-- A field as it is printed. -/
def Member.printed (field : String × Json) : Member :=
  ⟨encodeChars (stringChars field.1) ++ [code ':'], field.1, encodeChars field.2.chars, field.2, []⟩

namespace Item

theorem map_bytes_printed (items : List Json) :
    (items.map printed).map bytes = items.map fun item => encodeChars item.chars := by
  rw [List.map_map]
  exact List.map_congr_left fun item _ => List.append_nil _

theorem map_value_printed (items : List Json) : (items.map printed).map value = items := by
  rw [List.map_map]
  exact List.map_id items

end Item

namespace Member

theorem map_bytes_printed (fields : Fields) :
    (fields.map printed).map bytes = fields.map fun field => encodeChars (fieldChars field) := by
  rw [List.map_map]
  refine List.map_congr_left fun field _ => ?_
  obtain ⟨key, value⟩ := field
  show encodeChars (stringChars key) ++ [code ':'] ++ encodeChars value.chars ++ [] = _
  rw [fieldChars, encodeChars_append, encodeChars_cons, List.append_nil, List.append_assoc]
  rfl

theorem map_entry_printed (fields : Fields) : (fields.map printed).map entry = fields := by
  rw [List.map_map]
  exact List.map_id fields

end Member

/-- Parts that are written with a comma in front of all but the first. -/
theorem encodeChars_closed {α : Type} {write : α → List Char} {behind : List α → List Char}
    {close : Char} (none : encodeChars (behind []) = [code close])
    (more : ∀ a as, behind (a :: as) = ',' :: write a ++ behind as) (a : α) (as : List α) :
    encodeChars (write a ++ behind as) =
      closed close ((a :: as).map fun a => encodeChars (write a)) := by
  induction as generalizing a with
  | nil => rw [List.map_singleton, closed_singleton, encodeChars_append, none]
  | cons next as ih =>
    rw [more, List.cons_append, encodeChars_append, encodeChars_cons, ih]
    simp only [List.map_cons, closed_cons_cons]
    rfl

theorem encodeChars_array (items : List Json) :
    encodeChars (Json.array items).chars =
      arrayText [] ((items.map Item.printed).map Item.bytes) := by
  rw [Item.map_bytes_printed]
  cases items with
  | nil => rfl
  | cons item items =>
    have parts : encodeChars (item.chars ++ itemsChars items) = closed ']' _ :=
      encodeChars_closed rfl (fun _ _ => rfl) item items
    rw [chars, List.cons_append, encodeChars_cons, parts]
    rfl

theorem encodeChars_object (field : String × Json) (fields : Fields) :
    encodeChars (Json.object (field :: fields)).chars =
      objectText (((field :: fields).map Member.printed).map Member.bytes) := by
  have parts : encodeChars (fieldChars field ++ fieldsChars fields) = closed '}' _ :=
    encodeChars_closed rfl (fun _ _ => rfl) field fields
  rw [Member.map_bytes_printed, chars, List.cons_append, encodeChars_cons, parts]
  rfl

/-! ## Round trip -/

theorem Member.fits_printed_of_takenFor {depth : Nat} {field : String × Json}
    (taken : TakenFor depth (encodeChars field.2.chars) field.2) : (printed field).Fits depth where
  opens := opensField_stringChars field.1
  taken := taken
  back := IsBlank.nil

theorem takenFor_chars {depth : Nat} {value : Json} (portable : Portable depth value) :
    TakenFor depth (encodeChars value.chars) value := by
  induction portable with
  | null =>
    intro fuel enough rest ends
    rw [Reader.value.eq_def]
    rfl
  | bool b =>
    intro fuel enough rest ends
    rw [Reader.value.eq_def]
    cases b <;> rfl
  | @integer depth n low high =>
    intro fuel enough rest ends
    exact value_integerChars fuel depth low high ends
  | string s =>
    intro fuel enough rest ends
    rw [chars, encodeChars_stringChars, value_quote, string_stringChars]
    rfl
  | @array depth items inner ih =>
    have fits : ∀ item ∈ items.map Item.printed, item.Fits depth :=
      List.forall_mem_map.mpr fun item mem => ⟨ih item mem, IsBlank.nil⟩
    have whole := takenFor_arrayText IsBlank.nil fits
    rwa [← encodeChars_array, Item.map_value_printed] at whole
  | @object depth fields ascending inner ih =>
    cases fields with
    | nil =>
      intro fuel enough rest ends
      rfl
    | cons field fields =>
      have fits : ∀ member ∈ (field :: fields).map Member.printed, member.Fits depth :=
        List.forall_mem_map.mpr fun f mem => Member.fits_printed_of_takenFor (ih f mem)
      have some : (field :: fields).map Member.printed ≠ [] := List.cons_ne_nil _ _
      have whole := takenFor_objectText some fits
      rwa [← encodeChars_object, Member.map_entry_printed, ofFields,
        Fields.ofList_of_ascending ascending] at whole

/-- The text of a value is taken for the value wherever it stands. -/
theorem takenFor_text {depth : Nat} {value : Json} (portable : Portable depth value) :
    TakenFor depth (encode value.text) value := by
  rw [text, encode_ofList]
  exact takenFor_chars portable

theorem Member.fits_printed {depth : Nat} {field : String × Json}
    (portable : Portable depth field.2) : (printed field).Fits depth :=
  fits_printed_of_takenFor (takenFor_chars portable)

/-- **JSON round trip.** A portable value that nests at most as deep as the reader goes is read
back from its text. -/
theorem parse_text {value : Json} (portable : Portable maxDepth value) :
    parse (encode value.text) = .ok value := by
  have parsed := parse_of_takenFor (takenFor_text portable) IsBlank.nil
  rwa [List.append_nil] at parsed

end EngineClient.Json
