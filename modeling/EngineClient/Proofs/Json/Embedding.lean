import EngineClient.Proofs.Json.Integers
import EngineClient.Proofs.Json.Texts
import Mathlib.Data.List.DropRight

/-!
# Texts inside texts

A text is read in the same way wherever it stands (`Json.TakenFor`): on its own, as an item of an
array, or behind a key of an object, with any white space around it and anything else beside it.

* **`Json.takenFor_arrayText`**, **`Json.takenFor_objectText`** — what is made of texts that are
  taken for values is taken for the array or the object of these values;
* `Json.parse_of_takenFor` — a text that is taken for a value is a text of the value on its own.

A value can be spelled in many ways, and a reader does not care which was chosen. So nothing is said
here about the spelling of a text: it is whatever the reader takes for some value.

The reader of the values inside an array or an object is a parameter of `Reader.items` and
`Reader.members`, and so are the theorems about them: if the inner reader takes the parts
(`Takes`), the outer one takes the whole. So no induction on values is needed.
-/

namespace EngineClient.Json

open Utf8 Reader

/-! ## White space -/

/-- White space alone. -/
def IsBlank (bytes : Bytes) : Prop :=
  ∀ b ∈ bytes, isSpace b = true

namespace IsBlank

variable {blank : Bytes} (h : IsBlank blank)

theorem nil : IsBlank [] := nofun

include h

theorem skipSpace_append (s : Bytes) : skipSpace (blank ++ s) = skipSpace s :=
  List.dropWhile_append_of_pos h

/-- White space ends a number, so it may be put in front of all that may follow one. -/
theorem endsNumber_append {s : Bytes} (ends : EndsNumber s) : EndsNumber (blank ++ s) := by
  cases blank with
  | nil => exact ends
  | cons b blank =>
    have space := h b List.mem_cons_self
    refine endsNumber_cons.mpr ⟨?_, ?_, ?_, ?_⟩
    · by_contra digit
      rw [Bool.not_eq_false] at digit
      rw [isSpace_of_isDigit digit] at space
      cases space
    all_goals
      rintro rfl
      exact absurd space (by decide)

end IsBlank

theorem skipSpace_cons {b : UInt8} (h : isSpace b = false) (s : Bytes) :
    skipSpace (b :: s) = b :: s :=
  List.dropWhile_cons_of_neg (by rw [h]; decide)

theorem isSpace_comma : isSpace (code ',') = false := by decide

theorem skipSpace_skipSpace (s : Bytes) : skipSpace (skipSpace s) = skipSpace s :=
  List.dropWhile_idempotent isSpace s

section Leading

variable (fuel depth : ℕ) (s : Bytes)

theorem value_skipSpace : Reader.value fuel depth (skipSpace s) = Reader.value fuel depth s := by
  rw [Reader.value.eq_def, Reader.value.eq_def, skipSpace_skipSpace]

theorem value_bracket :
    Reader.value fuel (depth + 1) (code '[' :: s) =
      Reader.array (Reader.value fuel depth) fuel s := rfl

theorem value_brace :
    Reader.value fuel (depth + 1) (code '{' :: s) =
      Reader.object (Reader.value fuel depth) fuel s := rfl

theorem value_nil : Reader.value fuel depth [] = .error .unexpectedEnd := by
  rw [Reader.value.eq_def]
  rfl

theorem value_closing_bracket :
    Reader.value fuel depth (code ']' :: s) = .error .malformed := by
  rw [Reader.value.eq_def]
  rfl

theorem key_skipSpace : Reader.key (skipSpace s) = Reader.key s := by
  rw [Reader.key, Reader.key, skipSpace_skipSpace]

theorem items_skipSpace :
    Reader.items (Reader.value fuel depth) fuel (skipSpace s) =
      Reader.items (Reader.value fuel depth) fuel s := by
  cases fuel with
  | zero => rfl
  | succ fuel => rw [Reader.items, Reader.items, value_skipSpace]

theorem members_skipSpace (inner : Reads Json) :
    Reader.members inner fuel (skipSpace s) = Reader.members inner fuel s := by
  cases fuel with
  | zero => rfl
  | succ fuel => rw [Reader.members, Reader.members, key_skipSpace]

end Leading

/-! ## Texts of values -/

/-- The reader takes the bytes for the value at the front of any input, if no number goes on
behind them. -/
def Takes (inner : Reads Json) (bytes : Bytes) (value : Json) : Prop :=
  ∀ rest, EndsNumber rest → inner (bytes ++ rest) = .ok (value, rest)

/-- The bytes are a text of the value, which nests at most `depth` deep. -/
def TakenFor (depth : ℕ) (bytes : Bytes) (value : Json) : Prop :=
  ∀ fuel, bytes.length ≤ fuel → Takes (Reader.value fuel depth) bytes value

theorem parse_of_takenFor {bytes back : Bytes} {value : Json} (taken : TakenFor maxDepth bytes value)
    (blank : IsBlank back) : parse (bytes ++ back) = .ok value := by
  have ends : EndsNumber back := by
    rw [← List.append_nil back]
    exact blank.endsNumber_append endsNumber_nil
  have read := taken (bytes ++ back).length (by rw [List.length_append]; omega) back ends
  have nothing : skipSpace back = [] := by
    rw [← List.append_nil back, blank.skipSpace_append]
    rfl
  rw [parse, parseWithin, read, ok_bind]
  simp only [nothing]
  rfl

theorem TakenFor.blank_append {depth : ℕ} {bytes blank : Bytes} {value : Json}
    (taken : TakenFor depth bytes value) (h : IsBlank blank) :
    TakenFor depth (blank ++ bytes) value := by
  intro fuel enough rest ends
  rw [List.length_append] at enough
  rw [← value_skipSpace, List.append_assoc, h.skipSpace_append, value_skipSpace]
  exact taken fuel (by omega) rest ends

/-! ## Arrays -/

/-- Parts with commas between them, and what closes them. -/
def closed (close : Char) (parts : List Bytes) : Bytes :=
  [code ','].intercalate parts ++ [code close]

section Closed

variable (close : Char) (part next : Bytes) (parts : List Bytes)

theorem closed_singleton : closed close [part] = part ++ [code close] := by
  rw [closed, List.intercalate_singleton]

theorem closed_cons_cons :
    closed close (part :: next :: parts) = part ++ code ',' :: closed close (next :: parts) := by
  simp only [closed, List.intercalate_cons_cons, List.append_assoc]
  rfl

theorem length_closed_cons :
    part.length + (closed close parts).length ≤ (closed close (part :: parts)).length := by
  cases parts with
  | nil => simp [closed]
  | cons next parts =>
    rw [closed_cons_cons, List.length_append, List.length_cons]
    omega

theorem length_le_length_closed : parts.length ≤ (closed close parts).length := by
  induction parts with
  | nil => exact Nat.zero_le _
  | cons part parts ih =>
    cases parts with
    | nil => simp [closed]
    | cons next parts =>
      rw [closed_cons_cons, List.length_append]
      simp only [List.length_cons] at ih ⊢
      omega

variable {part parts}

theorem length_part_le_length_closed (mem : part ∈ parts) :
    part.length ≤ (closed close parts).length := by
  induction parts with
  | nil => cases mem
  | cons first parts ih =>
    have whole := length_closed_cons close first parts
    rcases List.mem_cons.mp mem with rfl | mem
    · omega
    · have part := ih mem
      omega

end Closed

/-- An item of an array: a text, and the white space behind it. -/
structure Item where
  text : Bytes
  value : Json
  back : Bytes

namespace Item

def bytes (item : Item) : Bytes :=
  item.text ++ item.back

/-- The item has its place in an array whose values nest at most `depth` deep. -/
structure Fits (depth : ℕ) (item : Item) : Prop where
  taken : TakenFor depth item.text item.value
  back : IsBlank item.back

end Item

/-- The text of an array; without items it holds white space alone. -/
def arrayText (lead : Bytes) (items : List Bytes) : Bytes :=
  code '[' :: (lead ++ closed ']' items)

theorem items_closed {inner : Reads Json} {item : Item} {items : List Item}
    (read : ∀ i ∈ item :: items, Takes inner i.text i.value ∧ IsBlank i.back) {fuel : ℕ}
    (enough : items.length < fuel) (rest : Bytes) :
    Reader.items inner fuel (closed ']' ((item :: items).map Item.bytes) ++ rest) =
      .ok ((item :: items).map Item.value, rest) := by
  induction items generalizing item fuel with
  | nil =>
    obtain ⟨fuel, rfl⟩ : ∃ n, fuel = n + 1 := ⟨fuel - 1, by omega⟩
    obtain ⟨takes, blank⟩ := read item List.mem_cons_self
    have first := takes (item.back ++ ([code ']'] ++ rest))
      (blank.endsNumber_append (endsNumber_cons.mpr (by decide)))
    rw [List.map_singleton, closed_singleton, Item.bytes, List.append_assoc, List.append_assoc]
    simp only [Reader.items, first, ok_bind, blank.skipSpace_append]
    rfl
  | cons next items ih =>
    obtain ⟨fuel, rfl⟩ : ∃ n, fuel = n + 1 := ⟨fuel - 1, by omega⟩
    obtain ⟨⟨takes, blank⟩, others⟩ := List.forall_mem_cons.mp read
    have behind := ih others (Nat.lt_of_succ_lt_succ enough)
    -- the comma ends a number, and so does white space in front of it
    have first := takes
      (item.back ++ code ',' :: (closed ']' ((next :: items).map Item.bytes) ++ rest))
      (blank.endsNumber_append (endsNumber_cons.mpr (by decide)))
    rw [List.map_cons, List.map_cons, closed_cons_cons, Item.bytes, List.append_assoc,
      List.append_assoc, ← List.map_cons, List.cons_append, Reader.items.eq_def]
    simp only [first, ok_bind, blank.skipSpace_append, skipSpace_cons isSpace_comma, if_true,
      behind]
    rfl

/-- What is taken for items is no empty array, as no value starts with a closing bracket. -/
theorem array_of_items {fuel depth : ℕ} {s rest : Bytes} {found : List Json}
    (h : Reader.items (Reader.value fuel depth) fuel s = .ok (found, rest)) :
    Reader.array (Reader.value fuel depth) fuel s = .ok (.array found, rest) := by
  rw [← items_skipSpace] at h
  obtain ⟨fuel, rfl⟩ : ∃ n, fuel = n + 1 := by
    cases fuel with
    | zero => cases h
    | succ fuel => exact ⟨fuel, rfl⟩
  rw [Reader.array]
  cases front : skipSpace s with
  | nil =>
    rw [front, Reader.items, value_nil] at h
    cases h
  | cons b behind =>
    rw [front] at h
    have bracket : b ≠ code ']' := by
      rintro rfl
      rw [Reader.items, value_closing_bracket] at h
      cases h
    simp only [if_neg bracket, h, ok_bind]
    rfl

theorem takenFor_arrayText {depth : ℕ} {lead : Bytes} {items : List Item} (blank : IsBlank lead)
    (fits : ∀ item ∈ items, item.Fits depth) :
    TakenFor (depth + 1) (arrayText lead (items.map Item.bytes))
      (.array (items.map Item.value)) := by
  intro fuel enough rest ends
  rw [arrayText, List.length_cons, List.length_append] at enough
  rw [arrayText, List.cons_append, List.append_assoc, value_bracket]
  cases items with
  | nil =>
    rw [Reader.array, blank.skipSpace_append]
    rfl
  | cons item items =>
    -- the fuel stays the same for the parts, which are no longer than the whole
    have read : ∀ i ∈ item :: items,
        Takes (Reader.value fuel depth) i.text i.value ∧ IsBlank i.back := by
      intro i mem
      have part := length_part_le_length_closed ']' (List.mem_map_of_mem (f := Item.bytes) mem)
      rw [Item.bytes, List.length_append] at part
      exact ⟨(fits i mem).taken fuel (by omega), (fits i mem).back⟩
    have short := length_le_length_closed ']' ((item :: items).map Item.bytes)
    rw [List.length_map, List.length_cons] at short
    apply array_of_items
    rw [← items_skipSpace, blank.skipSpace_append, items_skipSpace]
    exact items_closed read (by omega) rest

/-! ## Objects -/

/-- The bytes are a text of the key, with the colon behind it. -/
def OpensField (bytes : Bytes) (key : String) : Prop :=
  ∀ rest, Reader.key (bytes ++ rest) = .ok (key, rest)

/-- The text of a key as it is printed. -/
theorem opensField_stringChars (key : String) :
    OpensField (encodeChars (stringChars key) ++ [code ':']) key := by
  intro rest
  rw [List.append_assoc, encodeChars_stringChars, Reader.key, skipSpace_cons (by decide)]
  simp only [if_true, string_stringChars, ok_bind]
  rfl

/-- A field of an object: its key with the colon, a text, and the white space behind it. -/
structure Member where
  opening : Bytes
  key : String
  text : Bytes
  value : Json
  back : Bytes

namespace Member

def bytes (member : Member) : Bytes :=
  member.opening ++ member.text ++ member.back

def entry (member : Member) : String × Json :=
  (member.key, member.value)

/-- The field has its place in an object whose values nest at most `depth` deep. -/
structure Fits (depth : ℕ) (member : Member) : Prop where
  opens : OpensField member.opening member.key
  taken : TakenFor depth member.text member.value
  back : IsBlank member.back

end Member

/-- The text of an object that has fields. -/
def objectText (members : List Bytes) : Bytes :=
  code '{' :: closed '}' members

theorem members_closed {inner : Reads Json} {member : Member} {members : List Member}
    (read : ∀ m ∈ member :: members,
      OpensField m.opening m.key ∧ Takes inner m.text m.value ∧ IsBlank m.back) {fuel : ℕ}
    (enough : members.length < fuel) (rest : Bytes) :
    Reader.members inner fuel (closed '}' ((member :: members).map Member.bytes) ++ rest) =
      .ok ((member :: members).map Member.entry, rest) := by
  induction members generalizing member fuel with
  | nil =>
    obtain ⟨fuel, rfl⟩ : ∃ n, fuel = n + 1 := ⟨fuel - 1, by omega⟩
    obtain ⟨opens, takes, blank⟩ := read member List.mem_cons_self
    have first := takes (member.back ++ ([code '}'] ++ rest))
      (blank.endsNumber_append (endsNumber_cons.mpr (by decide)))
    rw [List.map_singleton, closed_singleton, Member.bytes, List.append_assoc, List.append_assoc,
      List.append_assoc]
    simp only [Reader.members, opens _, first, ok_bind, blank.skipSpace_append]
    rfl
  | cons next members ih =>
    obtain ⟨fuel, rfl⟩ : ∃ n, fuel = n + 1 := ⟨fuel - 1, by omega⟩
    obtain ⟨⟨opens, takes, blank⟩, others⟩ := List.forall_mem_cons.mp read
    have behind := ih others (Nat.lt_of_succ_lt_succ enough)
    have first := takes
      (member.back ++ code ',' :: (closed '}' ((next :: members).map Member.bytes) ++ rest))
      (blank.endsNumber_append (endsNumber_cons.mpr (by decide)))
    rw [List.map_cons, List.map_cons, closed_cons_cons, Member.bytes, List.append_assoc,
      List.append_assoc, List.append_assoc, ← List.map_cons, List.cons_append,
      Reader.members.eq_def]
    simp only [opens _, first, ok_bind, blank.skipSpace_append, skipSpace_cons isSpace_comma,
      if_true, behind]
    rfl

/-- What is taken for fields is no empty object, as no key starts with a closing brace. -/
theorem object_of_members {inner : Reads Json} {fuel : ℕ} {s rest : Bytes}
    {found : List (String × Json)} (h : Reader.members inner fuel s = .ok (found, rest)) :
    Reader.object inner fuel s = .ok (.ofFields found, rest) := by
  rw [← members_skipSpace] at h
  obtain ⟨fuel, rfl⟩ : ∃ n, fuel = n + 1 := by
    cases fuel with
    | zero => cases h
    | succ fuel => exact ⟨fuel, rfl⟩
  rw [Reader.object]
  cases front : skipSpace s with
  | nil =>
    rw [front] at h
    cases h
  | cons b behind =>
    rw [front] at h
    have brace : b ≠ code '}' := by
      rintro rfl
      cases h
    simp only [if_neg brace, h, ok_bind]
    rfl

theorem takenFor_objectText {depth : ℕ} {members : List Member} (some : members ≠ [])
    (fits : ∀ member ∈ members, member.Fits depth) :
    TakenFor (depth + 1) (objectText (members.map Member.bytes))
      (.ofFields (members.map Member.entry)) := by
  intro fuel enough rest ends
  obtain ⟨member, members, rfl⟩ := List.exists_cons_of_ne_nil some
  rw [objectText, List.length_cons] at enough
  rw [objectText, List.cons_append, value_brace]
  have read : ∀ m ∈ member :: members, OpensField m.opening m.key ∧
      Takes (Reader.value fuel depth) m.text m.value ∧ IsBlank m.back := by
    intro m mem
    have part := length_part_le_length_closed '}' (List.mem_map_of_mem (f := Member.bytes) mem)
    rw [Member.bytes, List.length_append, List.length_append] at part
    exact ⟨(fits m mem).opens, (fits m mem).taken fuel (by omega), (fits m mem).back⟩
  have short := length_le_length_closed '}' ((member :: members).map Member.bytes)
  rw [List.length_map, List.length_cons] at short
  exact object_of_members (members_closed read (by omega) rest)

end EngineClient.Json
