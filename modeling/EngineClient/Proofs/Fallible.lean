import Mathlib.Data.List.Forall2

/-!
# Steps that may fail

Steps one after the other succeed if each of them does, and otherwise fail as the first one that
does not. The same holds of a list that is read item by item: `Fallible.mapM_eq_ok_iff` says what it
takes to read all of it, and `Fallible.mapM_eq_error_iff` that no item behind the first bad one has
a say in the failure.
-/

namespace EngineClient.Fallible

variable {α β ε δ : Type}

/-! ## One step -/

theorem map_eq_ok_iff {f : α → β} {result : Except ε α} {b : β} :
    result.map f = .ok b ↔ ∃ a, result = .ok a ∧ f a = b := by
  cases result <;> simp [Except.map]

theorem map_eq_error_iff {f : α → β} {result : Except ε α} {error : ε} :
    result.map f = .error error ↔ result = .error error := by
  cases result <;> simp [Except.map]

theorem mapError_eq_ok_iff {f : ε → δ} {result : Except ε α} {a : α} :
    result.mapError f = .ok a ↔ result = .ok a := by
  cases result <;> simp [Except.mapError]

theorem mapError_eq_error_iff {f : ε → δ} {result : Except ε α} {fault : δ} :
    result.mapError f = .error fault ↔ ∃ cause, result = .error cause ∧ f cause = fault := by
  cases result <;> simp [Except.mapError]

/-! ## Two steps -/

variable {first : Except ε α} {next : α → Except ε β}

theorem bind_eq_ok_iff {b : β} :
    first >>= next = .ok b ↔ ∃ a, first = .ok a ∧ next a = .ok b := by
  cases first <;> simp [bind, Except.bind]

theorem bind_eq_error_iff {error : ε} :
    first >>= next = .error error ↔
      first = .error error ∨ ∃ a, first = .ok a ∧ next a = .error error := by
  cases first <;> simp [bind, Except.bind]

/-! ## Lists -/

/-- All are read if each of them is. -/
theorem mapM_eq_ok_iff {read : α → Except ε β} {Gives : α → β → Prop} {items : List α}
    (each : ∀ a ∈ items, ∀ b, read a = .ok b ↔ Gives a b) (results : List β) :
    items.mapM read = .ok results ↔ List.Forall₂ Gives items results := by
  induction items generalizing results with
  | nil =>
    rw [List.mapM_nil, List.forall₂_nil_left_iff]
    exact ⟨fun h => (Except.ok.inj h).symm, fun h => h ▸ rfl⟩
  | cons a items ih =>
    obtain ⟨first, others⟩ := List.forall_mem_cons.mp each
    rw [List.mapM_cons, bind_eq_ok_iff]
    constructor
    · rintro ⟨b, one, all⟩
      obtain ⟨bs, rest, same⟩ := bind_eq_ok_iff.mp all
      cases same
      exact .cons ((first b).mp one) ((ih others bs).mp rest)
    · intro h
      cases h with
      | @cons _ b _ bs one rest =>
        exact ⟨b, (first b).mpr one, bind_eq_ok_iff.mpr ⟨bs, (ih others bs).mpr rest, rfl⟩⟩

theorem exists_mem_of_forall₂ {Gives : α → β → Prop} {items : List α} {results : List β}
    (all : List.Forall₂ Gives items results) {b : β} (mem : b ∈ results) :
    ∃ a ∈ items, Gives a b := by
  induction all with
  | nil => cases mem
  | cons first _ ih =>
    rcases List.mem_cons.mp mem with rfl | later
    · exact ⟨_, List.mem_cons_self, first⟩
    · obtain ⟨a, there, gives⟩ := ih later
      exact ⟨a, List.mem_cons_of_mem _ there, gives⟩

theorem exists_mapM_eq_ok_iff {read : α → Except ε β} {items : List α} :
    (∃ results, items.mapM read = .ok results) ↔ ∀ a ∈ items, ∃ b, read a = .ok b := by
  induction items with
  | nil => exact iff_of_true ⟨[], rfl⟩ nofun
  | cons a items ih =>
    rw [List.forall_mem_cons, ← ih, List.mapM_cons]
    constructor
    · rintro ⟨results, all⟩
      obtain ⟨b, one, others⟩ := bind_eq_ok_iff.mp all
      obtain ⟨bs, rest, -⟩ := bind_eq_ok_iff.mp others
      exact ⟨⟨b, one⟩, ⟨bs, rest⟩⟩
    · rintro ⟨⟨b, one⟩, ⟨bs, rest⟩⟩
      exact ⟨b :: bs, bind_eq_ok_iff.mpr ⟨b, one, bind_eq_ok_iff.mpr ⟨bs, rest, rfl⟩⟩⟩

/-- The first that cannot be read decides the failure, whatever stands behind it. -/
theorem mapM_eq_error_iff {read : α → Except ε β} {items : List α} {error : ε} :
    items.mapM read = .error error ↔
      ∃ before a after, items = before ++ a :: after ∧
        (∀ b ∈ before, ∃ result, read b = .ok result) ∧ read a = .error error := by
  induction items with
  | nil =>
    refine iff_of_false nofun ?_
    rintro ⟨before, a, after, none, -⟩
    cases before <;> cases none
  | cons first items ih =>
    rw [List.mapM_cons, bind_eq_error_iff]
    constructor
    · rintro (failed | ⟨b, one, rest⟩)
      · exact ⟨[], first, items, rfl, nofun, failed⟩
      · rcases bind_eq_error_iff.mp rest with rest | ⟨bs, -, never⟩
        · obtain ⟨before, a, after, rfl, read, failed⟩ := ih.mp rest
          exact ⟨first :: before, a, after, rfl, List.forall_mem_cons.mpr ⟨⟨b, one⟩, read⟩, failed⟩
        · cases never
    · rintro ⟨before, a, after, split, read, failed⟩
      cases before with
      | nil =>
        cases split
        exact .inl failed
      | cons b before =>
        cases split
        obtain ⟨⟨result, one⟩, others⟩ := List.forall_mem_cons.mp read
        exact .inr ⟨result, one, bind_eq_error_iff.mpr (.inl (ih.mpr ⟨before, a, after, rfl, others,
          failed⟩))⟩

end EngineClient.Fallible
