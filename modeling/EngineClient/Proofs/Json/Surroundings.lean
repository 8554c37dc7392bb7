import EngineClient.Proofs.Json.RoundTrip

/-!
# Objects around a value

An object can be cut out of a text around the value of one of its keys (`Json.Surroundings`). Any
text of a value can be put there: the object is read with this value
(`Json.Surroundings.Fits.takenFor_fill`), and its other keys keep theirs
(`Json.Surroundings.Fits.get?_filled`).
-/

namespace EngineClient.Json

open Reader

/-- An object without the text of one value: the fields in front, the key of the value with its
colon, the white space around the value, and the fields behind. -/
structure Surroundings where
  earlier : List Member
  opening : Bytes
  key : String
  front : Bytes
  back : Bytes
  later : List Member

namespace Surroundings

variable (around : Surroundings)

/-- The field with the value put in. -/
def field (text : Bytes) (value : Json) : Member :=
  ⟨around.opening, around.key, around.front ++ text, value, around.back⟩

/-- All fields with the value put in. -/
def members (text : Bytes) (value : Json) : List Member :=
  around.earlier ++ around.field text value :: around.later

/-- The text of the object with the text of the value put in. -/
def fill (text : Bytes) : Bytes :=
  objectText (around.earlier.map Member.bytes ++
    (around.opening ++ (around.front ++ text) ++ around.back) :: around.later.map Member.bytes)

/-- The object with the value put in. -/
def filled (value : Json) : Json :=
  .ofFields (around.earlier.map Member.entry ++
    (around.key, value) :: around.later.map Member.entry)

/-- The fields beside the value, as an object. -/
def others : Json :=
  .ofFields ((around.earlier ++ around.later).map Member.entry)

/-- The object is read with values that nest at most `depth` deep, and no field behind the value has
its key. -/
structure Fits (depth : ℕ) : Prop where
  earlier : ∀ member ∈ around.earlier, member.Fits depth
  opens : OpensField around.opening around.key
  front : IsBlank around.front
  back : IsBlank around.back
  later : ∀ member ∈ around.later, member.Fits depth
  last : ∀ member ∈ around.later, member.key ≠ around.key

theorem objectText_members (text : Bytes) (value : Json) :
    objectText ((around.members text value).map Member.bytes) = around.fill text := by
  rw [members, List.map_append, List.map_cons]
  rfl

theorem ofFields_members (text : Bytes) (value : Json) :
    .ofFields ((around.members text value).map Member.entry) = around.filled value := by
  rw [members, List.map_append, List.map_cons]
  rfl

variable {around} {depth : ℕ}

theorem Fits.takenFor_fill (fits : around.Fits depth) {text : Bytes} {value : Json}
    (taken : TakenFor depth text value) :
    TakenFor (depth + 1) (around.fill text) (around.filled value) := by
  have all : ∀ member ∈ around.members text value, member.Fits depth := by
    intro member mem
    rcases List.mem_append.mp mem with mem | mem
    · exact fits.earlier member mem
    rcases List.mem_cons.mp mem with rfl | mem
    · exact ⟨fits.opens, taken.blank_append fits.front, fits.back⟩
    · exact fits.later member mem
  have some : around.members text value ≠ [] :=
    List.append_ne_nil_of_right_ne_nil _ (List.cons_ne_nil _ _)
  have read := takenFor_objectText some all
  rwa [objectText_members, ofFields_members] at read

/-- The value is found under its key, and under any other key what was there before. -/
theorem Fits.get?_filled (fits : around.Fits depth) (value : Json) (key : String) :
    (around.filled value).get? key =
      if key = around.key then some value else around.others.get? key := by
  have last : (around.later.map Member.entry).reverse.lookup around.key = none := by
    rw [List.lookup_eq_none_iff]
    intro entry mem
    obtain ⟨member, there, rfl⟩ := List.mem_map.mp (List.mem_reverse.mp mem)
    exact bne_iff_ne.mpr (Ne.symm (fits.last member there))
  -- of several values for one key the last counts, so the fields are looked up from behind
  show Fields.get? (Fields.ofList _) key = if _ then _ else Fields.get? (Fields.ofList _) key
  rw [Fields.get?_ofList, Fields.get?_ofList, List.map_append, List.reverse_append,
    List.reverse_append, List.reverse_cons, List.append_assoc, List.lookup_append,
    List.lookup_append, List.lookup_append]
  by_cases own : key = around.key
  · subst own
    rw [if_pos rfl, last, List.lookup_cons_self]
    rfl
  · rw [if_neg own, List.lookup_cons, beq_eq_false_iff_ne.mpr own]
    rfl

/-- The surroundings of a value in an object as it is printed. -/
def printed (earlier : Fields) (key : String) (later : Fields) : Surroundings :=
  ⟨earlier.map Member.printed, Utf8.encodeChars (stringChars key) ++ [code ':'], key, [], [],
    later.map Member.printed⟩

theorem fits_printed {earlier later : Fields} {key : String}
    (portable : ∀ field ∈ earlier ++ later, Portable depth field.2)
    (last : ∀ field ∈ later, field.1 ≠ key) : (printed earlier key later).Fits depth where
  earlier := List.forall_mem_map.mpr fun field mem =>
    Member.fits_printed (portable field (List.mem_append_left _ mem))
  opens := opensField_stringChars key
  front := IsBlank.nil
  back := IsBlank.nil
  later := List.forall_mem_map.mpr fun field mem =>
    Member.fits_printed (portable field (List.mem_append_right _ mem))
  last := List.forall_mem_map.mpr last

end Surroundings

end EngineClient.Json
