import EngineClient.Url.Reader
import Mathlib.Data.List.Basic

/-!
# Paths have a root

The path of a URL that names a server by a well-known scheme starts with a slash, whatever dots,
drives and breaks it was read from (`Url.exists_path_of_parse`). Reading never takes the root away:
it is the last character that a draft holds, and each segment keeps it (`Draft.IsRooted.add`).
-/

namespace EngineClient.Url

namespace Path

/-! ## Drafts -/

/-- The text of the draft starts with a slash. -/
def Draft.IsRooted (draft : Draft) : Prop :=
  draft.held.getLast? = some '/'

theorem getLast?_parent (held : List Char) : (parent held).getLast? = held.getLast? := by
  unfold parent
  dsimp only
  split
  · rfl
  · rename_i left
    have some : (held.drop 1).dropWhile (· ≠ '/') ≠ [] := by
      intro none
      exact left (.inl (List.isEmpty_iff.mpr none))
    obtain ⟨front, whole⟩ := (List.dropWhile_suffix (· ≠ '/')).trans (List.drop_suffix 1 held)
    rw [← List.getLast?_append_of_ne_nil front some, whole]

namespace Draft.IsRooted

variable {draft : Draft}

theorem write (h : draft.IsRooted) (text : List Char) : (draft.write text).IsRooted := by
  have some : draft.held ≠ [] := by
    intro none
    rw [IsRooted, none] at h
    cases h
  rw [IsRooted, Draft.write, List.getLast?_append_of_ne_nil _ some]
  exact h

theorem add (h : draft.IsRooted) (scheme : String) (set : Percent.EncodeSet)
    (raw ending : List Char) : (draft.add scheme set raw ending).IsRooted := by
  unfold Draft.add
  dsimp only
  split
  · exact h.write _
  · split
    · exact h
    · exact (getLast?_parent draft.held).trans h
    · split
      · exact h.write _
      · exact h.write _

theorem addPieces (h : draft.IsRooted) (scheme : String) (pieces : List (List Char)) :
    (draft.addPieces scheme pieces).IsRooted := by
  fun_induction Draft.addPieces with
  | case1 draft => exact h
  | case2 draft piece => exact h.add ..
  | case3 draft piece pieces more ih => exact ih (h.add ..)

end Draft.IsRooted

end Path

theorem isRooted_readPath (scheme : String) (cs : List Char) :
    (readPath scheme ['/'] cs).IsRooted :=
  Path.Draft.IsRooted.addPieces (show (Path.Draft.ofText ['/']).IsRooted from rfl) scheme _

/-! ## URLs -/

theorem exists_pathOf {scheme : String} (served : scheme ≠ fileScheme) {draft : Path.Draft}
    (rooted : draft.IsRooted) :
    ∃ rest, pathOf scheme draft = .rooted (String.ofList ('/' :: rest)) := by
  have first : draft.text.head? = some '/' := by
    rw [Path.Draft.text, List.head?_reverse]
    exact rooted
  obtain ⟨rest, text⟩ := List.head?_eq_some_iff.mp first
  exact ⟨rest, by rw [pathOf, Path.Draft.trimRoot, if_neg served, text]⟩

theorem exists_path_of_readServed {scheme : String} (special : isSpecial scheme = true)
    (served : scheme ≠ fileScheme) {followed : Bool} {cs : List Char} {authority : Authority}
    {path : Path} (read : readServed scheme followed cs = .ok (authority, path)) :
    ∃ rest, path = .rooted (String.ofList ('/' :: rest)) := by
  unfold readServed at read
  simp only [special, if_true] at read
  split at read
  · cases read
  · cases known : readAuthority scheme (dropBreaks (cs.takeWhile fun c => !isSlash true c)) with
    | error fault =>
      rw [known] at read
      cases read
    | ok found =>
      rw [known] at read
      cases read
      exact exists_pathOf served (isRooted_readPath scheme _)

theorem exists_path_of_parse {s : String} {url : Url} (parsed : parse s = .ok url)
    (special : isSpecial url.scheme = true) (served : url.scheme ≠ fileScheme) :
    ∃ rest, url.path = .rooted (String.ofList ('/' :: rest)) := by
  unfold parse at parsed
  split at parsed
  · cases parsed
  · rename_i scheme rest _
    dsimp only at parsed
    -- whatever stands behind the two marks, the path is read from what stands before them
    generalize splitAtMark '#' rest = behind at parsed
    generalize splitAtMark '?' behind.1 = front at parsed
    cases known : readHierarchy scheme (front.2.isSome || behind.2.isSome) front.1 with
    | error fault =>
      rw [known] at parsed
      cases parsed
    | ok found =>
      rw [known] at parsed
      cases parsed
      dsimp only at special served ⊢
      simp only [readHierarchy, if_neg served, if_pos special] at known
      cases server : readServed scheme (front.2.isSome || behind.2.isSome)
          (front.1.dropWhile fun c => isSlash true c || isBreak c) with
      | error fault =>
        rw [server] at known
        cases known
      | ok pair =>
        rw [server] at known
        cases known
        exact exists_path_of_readServed special served server

end EngineClient.Url
