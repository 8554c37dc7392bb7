import EngineClient.Proofs.Text.Pieces
import Mathlib.Data.List.TakeWhile

/-!
# Words between separators

A text `Lists` words if between two separators there is at most one of them, with white space around
it. What is between two separators without a word is blank, and there may be any number of such
places, also at the ends.

* **`Text.words_eq_iff`** — reading finds exactly the words that a text lists, so each text lists
  just one sequence of words;
* `Text.trimChars_padded`, `Text.trim_eq_self_iff` — what trimming takes away, and when it takes
  nothing.
-/

namespace EngineClient.Text

variable {separator : Char} {cs more before after : List Char} {s : String}

/-! ## Trimming -/

/-- Neither the first nor the last character is white space. -/
def Bare (cs : List Char) : Prop :=
  (∀ c ∈ cs.head?, isBlank c = false) ∧ ∀ c ∈ cs.getLast?, isBlank c = false

/-- All is white space. -/
def Blank (cs : List Char) : Prop :=
  ∀ c ∈ cs, isBlank c = true

instance : Decidable (Bare cs) :=
  decidable_of_iff ((cs.head?.all fun c => !isBlank c) ∧ cs.getLast?.all fun c => !isBlank c)
    (by simp [Bare, Option.all_eq_true])

instance : Decidable (Blank cs) :=
  decidable_of_iff (cs.all isBlank) List.all_eq_true

theorem trimLeft_append (blank : Blank before) : trimLeft (before ++ cs) = trimLeft cs :=
  List.dropWhile_append_of_pos blank

theorem trimLeft_of_blank (blank : Blank cs) : trimLeft cs = [] :=
  List.dropWhile_eq_nil_iff.mpr blank

theorem trimLeft_eq_self (first : ∀ c ∈ cs.head?, isBlank c = false) : trimLeft cs = cs := by
  cases cs with
  | nil => rfl
  | cons c cs =>
    have dark : isBlank c = false := first c rfl
    rw [trimLeft, List.dropWhile_cons_of_neg (by simp [dark])]

theorem trimChars_padded (front : Blank before) (back : Blank after) (bare : Bare cs) :
    trimChars (before ++ cs ++ after) = cs := by
  rw [trimChars, List.append_assoc, trimLeft_append front]
  by_cases none : cs = []
  · rw [none, List.nil_append, trimLeft_of_blank back]
    rfl
  have whole : trimLeft (cs ++ after) = cs ++ after :=
    trimLeft_eq_self (by rw [List.head?_append_of_ne_nil cs none]; exact bare.1)
  have backReversed : Blank after.reverse := fun c mem => back c (List.mem_reverse.mp mem)
  rw [whole, List.reverse_append, trimLeft_append backReversed,
    trimLeft_eq_self (by rw [List.head?_reverse]; exact bare.2), List.reverse_reverse]

theorem exists_blank_append_trimLeft (cs : List Char) :
    ∃ before, Blank before ∧ cs = before ++ trimLeft cs ∧
      ∀ c ∈ (trimLeft cs).head?, isBlank c = false := by
  refine ⟨cs.takeWhile isBlank, fun c mem => List.mem_takeWhile_imp mem,
    List.takeWhile_append_dropWhile.symm, ?_⟩
  intro c first
  have stopped := List.head?_dropWhile_not isBlank cs
  rw [← trimLeft, Option.mem_def.mp first] at stopped
  simpa using stopped

/-- Trimming takes away white space, and leaves none at the ends. -/
theorem exists_padding (cs : List Char) :
    ∃ before after, Blank before ∧ Blank after ∧ cs = before ++ trimChars cs ++ after ∧
      Bare (trimChars cs) := by
  obtain ⟨before, front, left, first⟩ := exists_blank_append_trimLeft cs
  obtain ⟨after, back, right, last⟩ := exists_blank_append_trimLeft (trimLeft cs).reverse
  have inner : trimLeft cs = trimChars cs ++ after.reverse := by
    rw [trimChars, ← List.reverse_append, ← right, List.reverse_reverse]
  refine ⟨before, after.reverse, front, fun c mem => back c (List.mem_reverse.mp mem), ?_, ?_, ?_⟩
  · rw [List.append_assoc, ← inner]
    exact left
  · -- what is kept begins as what was there before its end was trimmed
    intro c kept
    refine first c ?_
    rw [inner, List.head?_append, Option.mem_def.mp kept]
    rfl
  · rw [trimChars, List.getLast?_reverse]
    exact last

theorem trim_eq_self_iff : trim s = s ↔ Bare s.toList := by
  constructor
  · intro same
    obtain ⟨_, _, _, _, _, bare⟩ := exists_padding s.toList
    rwa [← String.toList_ofList (l := trimChars s.toList), ← trim, same] at bare
  · intro bare
    have trimmed : trimChars ([] ++ s.toList ++ []) = s.toList := trimChars_padded nofun nofun bare
    rw [List.nil_append, List.append_nil] at trimmed
    rw [trim, trimmed, String.ofList_toList]

/-! ## Listing words -/

/-- A word is not empty, has no separator in it and no white space at its ends. -/
structure IsWord (separator : Char) (word : String) : Prop where
  ne_empty : word ≠ ""
  whole : separator ∉ word.toList
  bare : Bare word.toList

/-- White space between two separators. -/
structure Padding (separator : Char) (cs : List Char) : Prop where
  blank : Blank cs
  whole : separator ∉ cs

instance {word : String} : Decidable (IsWord separator word) :=
  decidable_of_iff (word ≠ "" ∧ separator ∉ word.toList ∧ Bare word.toList)
    ⟨fun ⟨ne, whole, bare⟩ => ⟨ne, whole, bare⟩, fun h => ⟨h.ne_empty, h.whole, h.bare⟩⟩

instance : Decidable (Padding separator cs) :=
  decidable_of_iff (Blank cs ∧ separator ∉ cs)
    ⟨fun ⟨blank, whole⟩ => ⟨blank, whole⟩, fun h => ⟨h.blank, h.whole⟩⟩

/-- What stands between two separators: at most one word. -/
inductive Entry (separator : Char) : List Char → List String → Prop
  | blank {cs : List Char} (padding : Padding separator cs) : Entry separator cs []
  | word {before after : List Char} (word : String) (front : Padding separator before)
      (back : Padding separator after) : Entry separator (before ++ word.toList ++ after) [word]

/-- Separators stand between the words of a text, and may stand anywhere else around them. -/
inductive Lists (separator : Char) : List Char → List String → Prop
  | last {cs : List Char} {listed : List String} (entry : Entry separator cs listed) :
      Lists separator cs listed
  | cons {cs more : List Char} {listed others : List String} (entry : Entry separator cs listed)
      (rest : Lists separator more others) :
      Lists separator (cs ++ separator :: more) (listed ++ others)

variable {word : String} {listed : List String}

/-! ## Reading them -/

theorem words_append (separator : Char) (cs more : List Char) :
    words separator (String.ofList (cs ++ separator :: more)) =
      words separator (String.ofList cs) ++ words separator (String.ofList more) := by
  simp only [words, String.toList_ofList, piecesOf_append_cons, List.map_append,
    List.filter_append]

theorem words_of_notMem (whole : separator ∉ cs) :
    words separator (String.ofList cs) =
      if trimChars cs = [] then [] else [String.ofList (trimChars cs)] := by
  simp only [words, String.toList_ofList, piecesOf_of_notMem whole, List.map_singleton]
  split
  · rename_i none
    simp [none]
  · rename_i some
    simp [some]

theorem Entry.words_eq (entry : Entry separator cs listed)
    (correct : ∀ word ∈ listed, IsWord separator word) :
    words separator (String.ofList cs) = listed := by
  cases entry with
  | blank padding =>
    rw [words_of_notMem padding.whole, if_pos]
    rw [trimChars, trimLeft_of_blank padding.blank]
    rfl
  | word word front back =>
    have isWord : IsWord separator word := correct word List.mem_cons_self
    have some : word.toList ≠ [] := fun none => isWord.ne_empty (String.toList_eq_nil_iff.mp none)
    rw [words_of_notMem, trimChars_padded front.blank back.blank isWord.bare, if_neg some,
      String.ofList_toList]
    simp only [List.mem_append, not_or]
    exact ⟨⟨front.whole, isWord.whole⟩, back.whole⟩

theorem Lists.words_eq (lists : Lists separator cs listed)
    (correct : ∀ word ∈ listed, IsWord separator word) :
    words separator (String.ofList cs) = listed := by
  induction lists with
  | last entry => exact entry.words_eq correct
  | cons entry rest ih =>
    obtain ⟨own, others⟩ := List.forall_mem_append.mp correct
    rw [words_append, entry.words_eq own, ih others]

/-- What has no separator is an entry with the word that is read in it. -/
theorem entry_words (whole : separator ∉ cs) :
    Entry separator cs (words separator (String.ofList cs)) ∧
      ∀ word ∈ words separator (String.ofList cs), IsWord separator word := by
  obtain ⟨before, after, front, back, parts, bare⟩ := exists_padding cs
  rw [words_of_notMem whole]
  split
  · rename_i none
    refine ⟨.blank ⟨?_, whole⟩, nofun⟩
    rw [parts, none, List.append_nil]
    exact List.forall_mem_append.mpr ⟨front, back⟩
  · rename_i some
    have apart := whole
    rw [parts, List.mem_append, List.mem_append, not_or, not_or] at apart
    obtain ⟨⟨left, middle⟩, right⟩ := apart
    have entry := Entry.word (String.ofList (trimChars cs)) ⟨front, left⟩ ⟨back, right⟩
    rw [String.toList_ofList, ← parts] at entry
    refine ⟨entry, List.forall_mem_singleton.mpr ⟨?_, ?_, ?_⟩⟩
    · simpa using some
    · rwa [String.toList_ofList]
    · rwa [String.toList_ofList]

theorem lists_words (separator : Char) (cs : List Char) :
    Lists separator cs (words separator (String.ofList cs)) ∧
      ∀ word ∈ words separator (String.ofList cs), IsWord separator word := by
  by_cases cut : separator ∈ cs
  · obtain ⟨front, rest, parts, whole⟩ := List.eq_append_cons_of_mem cut
    have shorter : rest.length < cs.length := by
      rw [parts, List.length_append, List.length_cons]
      omega
    obtain ⟨entry, own⟩ := entry_words whole
    obtain ⟨lists, others⟩ := lists_words separator rest
    rw [parts, words_append]
    exact ⟨.cons entry lists, List.forall_mem_append.mpr ⟨own, others⟩⟩
  · obtain ⟨entry, own⟩ := entry_words cut
    exact ⟨.last entry, own⟩
termination_by cs.length

/-- **Reading words.** The words that are read are those that the text lists. -/
theorem words_eq_iff :
    words separator s = listed ↔
      Lists separator s.toList listed ∧ ∀ word ∈ listed, IsWord separator word := by
  rw [← String.ofList_toList (s := s), String.toList_ofList]
  constructor
  · rintro rfl
    exact lists_words separator s.toList
  · rintro ⟨lists, correct⟩
    exact lists.words_eq correct

end EngineClient.Text
