import EngineClient.Json.Basic
import Mathlib.Data.List.Induction

/-!
# Fields in ascending order

An object has its fields in strictly ascending order of their keys (`Fields.Ascending`), so no key
has two values. Setting a key keeps the order (`Fields.Ascending.insert`), and fields that are in
order are what they make (`Fields.ofList_of_ascending`). Setting a key changes the value of no other
key (`Fields.get?_insert`), in order or not.
-/

namespace EngineClient.Json.Fields

/-- Every key comes before those of the fields behind it. -/
def Ascending (fields : Fields) : Prop :=
  fields.Pairwise fun a b => a.1 < b.1

theorem mem_insert {key : String} {value : Json} {fields : Fields} {field : String × Json}
    (mem : field ∈ fields.insert key value) : field = (key, value) ∨ field ∈ fields := by
  induction fields with
  | nil => exact .inl (List.mem_singleton.mp mem)
  | cons first rest ih =>
    obtain ⟨k, v⟩ := first
    unfold insert at mem
    split at mem
    · exact List.mem_cons.mp mem
    split at mem
    · exact (List.mem_cons.mp mem).imp_right (List.mem_cons_of_mem _)
    · rcases List.mem_cons.mp mem with rfl | mem
      · exact .inr List.mem_cons_self
      · exact (ih mem).imp_right (List.mem_cons_of_mem _)

theorem Ascending.insert {fields : Fields} (h : Ascending fields) (key : String) (value : Json) :
    Ascending (fields.insert key value) := by
  induction fields with
  | nil => exact List.pairwise_singleton _ _
  | cons first rest ih =>
    obtain ⟨k, v⟩ := first
    obtain ⟨before, ordered⟩ := List.pairwise_cons.mp h
    unfold Fields.insert
    split
    · rename_i less
      refine List.pairwise_cons.mpr ⟨?_, h⟩
      intro field mem
      rcases List.mem_cons.mp mem with rfl | mem
      · exact less
      · exact String.lt_trans less (before field mem)
    split
    · rename_i same
      exact List.pairwise_cons.mpr ⟨same ▸ before, ordered⟩
    · rename_i notLess notSame
      have greater : k < key := Std.lt_of_le_of_ne (String.not_lt.mp notLess) (Ne.symm notSame)
      refine List.pairwise_cons.mpr ⟨?_, ih ordered⟩
      intro field mem
      rcases mem_insert mem with rfl | mem
      · exact greater
      · exact before field mem

/-- A key beyond all others is put at the end. -/
theorem insert_of_forall_lt {key : String} {fields : Fields}
    (before : ∀ field ∈ fields, field.1 < key) (value : Json) :
    fields.insert key value = fields ++ [(key, value)] := by
  induction fields with
  | nil => rfl
  | cons first rest ih =>
    obtain ⟨k, v⟩ := first
    obtain ⟨less, others⟩ := List.forall_mem_cons.mp before
    have notSame : key ≠ k := by
      rintro rfl
      exact String.lt_irrefl _ less
    rw [insert, if_neg (String.lt_asymm less), if_neg notSame, ih others]
    rfl

theorem foldl_of_ascending {done members : Fields} (h : Ascending (done ++ members)) :
    members.foldl (fun fields member => fields.insert member.1 member.2) done =
      done ++ members := by
  induction members generalizing done with
  | nil => exact (List.append_nil done).symm
  | cons member members ih =>
    -- the next key is beyond all that are there, so it goes to the end
    have before : ∀ field ∈ done, field.1 < member.1 := fun field mem =>
      (List.pairwise_append.mp h).2.2 field mem member List.mem_cons_self
    rw [List.append_cons] at h ⊢
    rw [List.foldl_cons, insert_of_forall_lt before]
    exact ih h

theorem ofList_of_ascending {fields : Fields} (h : Ascending fields) : ofList fields = fields :=
  foldl_of_ascending h

/-! ## Values of keys -/

variable (fields : Fields) (key : String) (value : Json)

theorem get?_cons (field : String × Json) (rest : Fields) (other : String) :
    get? (field :: rest) other = if other = field.1 then some field.2 else get? rest other := by
  obtain ⟨k, v⟩ := field
  rw [get?, List.lookup_cons]
  by_cases same : other = k
  · rw [if_pos same, beq_iff_eq.mpr same]
  · rw [if_neg same, beq_eq_false_iff_ne.mpr same]
    rfl

theorem get?_insert (other : String) :
    get? (insert key value fields) other =
      if other = key then some value else get? fields other := by
  induction fields with
  | nil => exact get?_cons (key, value) [] other
  | cons field rest ih =>
    obtain ⟨k, v⟩ := field
    rw [insert]
    split
    · exact get?_cons (key, value) _ other
    split
    · rename_i same
      subst same
      rw [get?_cons, get?_cons]
      split <;> rfl
    · rename_i notSame
      rw [get?_cons, get?_cons, ih]
      by_cases first : other = k
      · have second : other ≠ key := first ▸ Ne.symm notSame
        rw [if_pos first, if_neg second, if_pos first]
      · rw [if_neg first, if_neg first]

theorem ofList_concat (members : List (String × Json)) (member : String × Json) :
    ofList (members ++ [member]) = insert member.1 member.2 (ofList members) := by
  rw [ofList, List.foldl_append]
  rfl

/-- Of several values for one key the last counts. -/
theorem get?_ofList (members : List (String × Json)) :
    get? (ofList members) key = members.reverse.lookup key := by
  induction members using List.reverseRecOn with
  | nil => rfl
  | append_singleton members member ih =>
    rw [ofList_concat, get?_insert, ih, List.reverse_concat]
    exact (get?_cons member members.reverse key).symm

end EngineClient.Json.Fields
