import EngineClient.Cluster.Resolve
import EngineClient.Proofs.Fallible
import EngineClient.Url.Reader

/-!
# URLs that requests are resolved against

Segments are added behind the root of a path, so a URL whose path has none is of no use to any
request, and any other URL serves all of them (`Request.resolve_of_hasRoot`,
`Request.resolve_of_not_hasRoot`). Which of the two a text will be read as shows in the first
character behind its scheme: **`Url.hasRoot_of_parse`**.
-/

namespace EngineClient

open Fallible

namespace Url

/-! ## Roots -/

/-- Whether a path has a root. -/
def Path.hasRoot : Path → Bool
  | .rooted _ => true
  | .rootless _ => false

/-- Whether a text names a root: its scheme is well known, or a slash stands behind the colon. -/
def namesRoot (s : String) : Bool :=
  (splitScheme? (trim s)).any fun (scheme, rest) =>
    isSpecial scheme || (rest.dropWhile isBreak).head? = some '/'

theorem withSegments?_of_hasRoot {url : Url} (h : url.path.hasRoot = true) (added : List String) :
    ∃ path, url.withSegments? added = some { url with path := path } := by
  rw [withSegments?]
  cases known : url.path with
  | rooted text => exact ⟨_, rfl⟩
  | rootless text =>
    rw [known] at h
    cases h

theorem withSegments?_of_not_hasRoot {url : Url} (h : url.path.hasRoot = false)
    (added : List String) : url.withSegments? added = none := by
  rw [withSegments?]
  cases known : url.path with
  | rooted text =>
    rw [known] at h
    cases h
  | rootless text => rfl

/-! ## Reading -/

theorem fst_splitAtMark (mark : Char) (cs : List Char) :
    (splitAtMark mark cs).1 = cs.takeWhile (· ≠ mark) := by
  unfold splitAtMark
  split
  · rename_i none
    have whole := List.takeWhile_append_dropWhile (p := (· ≠ mark)) (l := cs)
    rw [none, List.append_nil] at whole
    exact whole.symm
  · rfl

/-- A mark that cuts a text cannot cut off a slash in front. -/
theorem head?_dropWhile_splitAtMark {mark : Char} (kept : isBreak mark = false)
    (noSlash : mark ≠ '/') (cs : List Char) :
    ((splitAtMark mark cs).1.dropWhile isBreak).head? = some '/' ↔
      (cs.dropWhile isBreak).head? = some '/' := by
  rw [fst_splitAtMark]
  induction cs with
  | nil => rfl
  | cons c cs ih =>
    by_cases cut : c = mark
    · simp [cut, kept, noSlash]
    · rw [List.takeWhile_cons_of_pos (by simpa using cut), List.dropWhile_cons, List.dropWhile_cons]
      split
      · exact ih
      · rfl

theorem afterSlash?_eq_none_iff {cs : List Char} :
    afterSlash? false cs = none ↔ (cs.dropWhile isBreak).head? ≠ some '/' := by
  rw [afterSlash?]
  cases cs.dropWhile isBreak with
  | nil => simp
  | cons c rest => simp [isSlash]

theorem hasRoot_of_readServed {scheme : String} {followed : Bool} {cs : List Char}
    {found : Authority × Path} (read : readServed scheme followed cs = .ok found) :
    found.2.hasRoot = true := by
  unfold readServed at read
  dsimp only at read
  split at read
  · cases read
  · obtain ⟨⟨authority, left⟩, -, same⟩ := bind_eq_ok_iff.mp read
    cases same
    rfl

theorem hasRoot_of_readFileServer {cs : List Char} {found : Authority × Path}
    (read : readFileServer cs = .ok found) : found.2.hasRoot = true := by
  unfold readFileServer at read
  dsimp only at read
  split at read
  · cases read
    rfl
  · obtain ⟨host, -, read⟩ := bind_eq_ok_iff.mp read
    split at read
    · cases read
      rfl
    · cases read
      rfl

theorem hasRoot_of_readFile {cs : List Char} {found : Authority × Path}
    (read : readFile cs = .ok found) : found.2.hasRoot = true := by
  unfold readFile at read
  split at read
  · cases read
    rfl
  · split at read
    · cases read
      rfl
    · exact hasRoot_of_readFileServer read

theorem hasRoot_of_readOther {scheme : String} {followed : Bool} {cs : List Char}
    {authority : Option Authority} {path : Path}
    (read : readOther scheme followed cs = .ok (authority, path)) :
    path.hasRoot = true ↔ (cs.dropWhile isBreak).head? = some '/' := by
  unfold readOther at read
  split at read
  · rename_i noSlash
    cases read
    exact iff_of_false Bool.false_ne_true (afterSlash?_eq_none_iff.mp noSlash)
  · rename_i slash
    have front : (cs.dropWhile isBreak).head? = some '/' := by
      by_contra other
      rw [afterSlash?_eq_none_iff.mpr other] at slash
      cases slash
    refine iff_of_true ?_ front
    split at read
    · cases read
      rfl
    · obtain ⟨found, served, same⟩ := map_eq_ok_iff.mp read
      cases same
      exact hasRoot_of_readServed served

theorem hasRoot_of_readHierarchy {scheme : String} {followed : Bool} {cs : List Char}
    {authority : Option Authority} {path : Path}
    (read : readHierarchy scheme followed cs = .ok (authority, path)) :
    path.hasRoot = true ↔
      isSpecial scheme = true ∨ (cs.dropWhile isBreak).head? = some '/' := by
  unfold readHierarchy at read
  dsimp only at read
  split at read
  · rename_i file
    obtain ⟨found, local', same⟩ := map_eq_ok_iff.mp read
    cases same
    exact iff_of_true (hasRoot_of_readFile local') (.inl (by rw [file]; rfl))
  · split at read
    · rename_i special
      obtain ⟨found, served, same⟩ := map_eq_ok_iff.mp read
      cases same
      exact iff_of_true (hasRoot_of_readServed served) (.inl special)
    · rename_i other
      rw [hasRoot_of_readOther read, or_iff_right other]

/-- Whether a URL has a root shows in the text that it was read from. -/
theorem hasRoot_of_parse {s : String} {url : Url} (parsed : parse s = .ok url) :
    url.path.hasRoot = namesRoot s := by
  unfold parse at parsed
  unfold namesRoot
  split at parsed
  · cases parsed
  · rename_i scheme rest split
    dsimp only at parsed
    obtain ⟨⟨authority, path⟩, read, same⟩ := bind_eq_ok_iff.mp parsed
    cases same
    rw [split, Bool.eq_iff_iff, hasRoot_of_readHierarchy read,
      head?_dropWhile_splitAtMark (by decide) (by decide),
      head?_dropWhile_splitAtMark (by decide) (by decide)]
    simp

end Url

/-! ## Resolving -/

namespace Request

variable {node : Url}

theorem resolve_of_hasRoot (h : node.path.hasRoot = true) (request : Request) :
    ∃ url, request.resolve node = .ok url := by
  obtain ⟨path, extended⟩ := Url.withSegments?_of_hasRoot h request.segments
  rw [resolve, extended]
  exact ⟨_, rfl⟩

theorem resolve_of_not_hasRoot (h : node.path.hasRoot = false) (request : Request) :
    request.resolve node = .error (.invalidUrl node.text) := by
  rw [resolve, Url.withSegments?_of_not_hasRoot h]

end Request

end EngineClient
