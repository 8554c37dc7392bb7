import EngineClient.Proofs.Url.Form
import EngineClient.Proofs.Url.Segments

/-!
# Adding segments and pairs

What is left of a URL that segments and pairs are added to. Segments that stay as they are stand at
the end of the path, each behind a slash (`Url.withSegments?_of_stay`), and pairs at the end of the
query (`Url.decode_query_withPairs`). Neither a slash nor a question mark is left in a segment that
was encoded, so the text of the URL shows where path and query start, and what was added to either
(`Url.path_and_query_of_text_eq`).
-/

namespace EngineClient.Url

open Percent

/-! ## Paths -/

/-- Some segments that stay as they are, none of which is empty. -/
structure StaySegments (segments : List String) : Prop where
  nonempty : segments ≠ []
  some : ∀ s ∈ segments, s ≠ ""
  stay : ∀ s ∈ segments, StaysSegment s

/-- A path without one slash at its end, and nothing at all if only a slash is left. -/
def withoutSlash (path : List Char) : List Char :=
  let cut := if path.getLast? = some '/' then path.dropLast else path
  if cut = ['/'] then [] else cut

theorem ownPath_eq_withoutSlash (url : Url) : url.ownPath = withoutSlash url.path.chars := by
  unfold ownPath popEmpty withoutSlash
  dsimp only
  by_cases ended : url.path.chars.getLast? = some '/'
  · rw [if_pos ended]
    by_cases long : 2 ≤ url.path.chars.length
    · have cut : 2 ≤ url.path.chars.length ∧ url.path.chars.getLast? = some '/' := ⟨long, ended⟩
      rw [if_pos cut]
    · -- the root alone, which is not cut when segments are added
      obtain ⟨front, path⟩ := List.getLast?_eq_some_iff.mp ended
      have root : front = [] := by
        rw [path, List.length_append, List.length_singleton] at long
        exact List.length_eq_zero_iff.mp (by omega)
      rw [path, root]
      rfl
  · have kept : ¬ (2 ≤ url.path.chars.length ∧ url.path.chars.getLast? = some '/') :=
      fun both => ended both.2
    rw [if_neg ended, if_neg kept]

section

variable {scheme : String} {draft : Path.Draft} {front : List Char} {segments : List String}

/-- Encoded segments, each behind a slash. -/
def encodedSegments (scheme : String) (segments : List String) : List Char :=
  behindSlashes (segments.map fun s => encode (segmentSet scheme) s.toList)

theorem Path.Draft.Awaits.text_eq (awaits : draft.Awaits front) (some : front ≠ []) :
    draft.text = front := by
  cases awaits with
  | root hasDrive => exact absurd rfl some
  | behind text more => exact text

theorem awaits_foldl_push (served : scheme ≠ fileScheme) (awaits : draft.Awaits front)
    (some : ∀ s ∈ segments, s ≠ "") (stay : ∀ s ∈ segments, StaysSegment s) :
    (segments.foldl (push scheme) draft).Awaits (front ++ encodedSegments scheme segments) := by
  induction segments generalizing draft front with
  | nil =>
    rw [encodedSegments, List.map_nil, behindSlashes_nil, List.append_nil]
    exact awaits
  | cons s segments ih =>
    obtain ⟨some, others_some⟩ := List.forall_mem_cons.mp some
    obtain ⟨stays, others_stay⟩ := List.forall_mem_cons.mp stay
    have rest := ih (awaits_push_of_stays served awaits stays some) others_some others_stay
    rw [List.append_assoc] at rest
    exact rest

theorem slash_notMem_encoded (scheme : String) (segments : List String) :
    ∀ encoded ∈ segments.map fun s => encode (segmentSet scheme) s.toList, '/' ∉ encoded := by
  intro encoded mem
  obtain ⟨s, -, rfl⟩ := List.mem_map.mp mem
  exact slash_notMem_encode (segmentSet_slash scheme) _

theorem decode_piecesOf_encodedSegments (scheme : String) (segments : List String) :
    (Text.piecesOf '/' (encodedSegments scheme segments)).map decode =
      [] :: segments.map Utf8.encode := by
  have pieces : Text.piecesOf '/' (encodedSegments scheme segments) =
      [] :: segments.map fun s => encode (segmentSet scheme) s.toList :=
    Text.piecesOf_flatMap_cons (slash_notMem_encoded scheme segments) []
  rw [pieces, List.map_cons, List.map_map]
  refine congrArg _ (List.map_congr_left fun s _ => ?_)
  exact decode_encode (segmentSet_percent scheme) s.toList

theorem encodedSegments_injective {others : List String}
    (h : encodedSegments scheme segments = encodedSegments scheme others) : segments = others := by
  have decoded := decode_piecesOf_encodedSegments scheme segments
  rw [h, decode_piecesOf_encodedSegments] at decoded
  refine (List.map_injective_iff.mpr ?_ (List.tail_eq_of_cons_eq decoded)).symm
  intro s s' same
  exact String.toList_inj.mp (Utf8.encodeChars_injective same)

theorem segmentSet_question (scheme : String) : segmentSet scheme '?' = true := by
  unfold segmentSet
  split <;> rfl

theorem question_notMem_encodedSegments (scheme : String) (segments : List String) :
    '?' ∉ encodedSegments scheme segments := by
  intro mem
  obtain ⟨encoded, found, mem⟩ := List.mem_flatMap.mp mem
  obtain ⟨s, -, rfl⟩ := List.mem_map.mp found
  rcases List.mem_cons.mp mem with slash | inside
  · cases slash
  · exact notMem_encode (segmentSet_question scheme) (by decide) (by decide) _ inside

end

theorem withSegments?_of_stay {url : Url} {rest : List Char} {segments : List String}
    (served : url.scheme ≠ fileScheme) (rooted : url.path = .rooted (String.ofList ('/' :: rest)))
    (h : StaySegments segments) :
    url.withSegments? segments = some { url with path := .rooted (String.ofList
      (withoutSlash url.path.chars ++ encodedSegments url.scheme segments)) } := by
  have chars : url.path.chars = '/' :: rest := by
    rw [rooted, Path.chars, String.toList_ofList]
  have awaits := awaits_foldl_push served (awaits_ownPath chars) h.some h.stay
  have some : url.ownPath ++ encodedSegments url.scheme segments ≠ [] := by
    obtain ⟨s, segments, rfl⟩ := List.exists_cons_of_ne_nil h.nonempty
    simp [encodedSegments]
  have text := awaits.text_eq some
  rw [ownPath_eq_withoutSlash, chars] at text
  rw [chars]
  simp only [withSegments?, rooted, extend, String.toList_ofList, text]

/-! ## Queries -/

theorem withPairs_nil (url : Url) : url.withPairs [] = url := rfl

/-- Adding pairs changes nothing but the query. -/
theorem withPairs_eq (url : Url) (pairs : List (String × String)) :
    url.withPairs pairs = { url with query := (url.withPairs pairs).query } := by
  unfold withPairs
  split <;> rfl

theorem decode_query_withPairs (url : Url) (pairs : List (String × String)) :
    Form.decode ((url.withPairs pairs).query.getD "").toList =
      Form.decode (url.query.getD "").toList ++ pairs.map Form.pairBytes := by
  cases pairs with
  | nil => rw [withPairs_nil, List.map_nil, List.append_nil]
  | cons pair pairs =>
    rw [← Form.decode_foldl_append]
    simp [withPairs]

/-! ## Texts -/

theorem partChars_injective (mark : Char) : Function.Injective (partChars mark) := by
  intro part other same
  cases part with
  | none =>
    cases other with
    | none => rfl
    | some other => cases same
  | some part =>
    cases other with
    | none => cases same
    | some other => rw [String.toList_inj.mp (List.tail_eq_of_cons_eq same)]

theorem cut_partChars {mark : Char} {cs : List Char} (h : mark ∉ cs) (part : Option String) :
    (cs ++ partChars mark part).takeWhile (· ≠ mark) = cs ∧
      (cs ++ partChars mark part).dropWhile (· ≠ mark) = partChars mark part := by
  have inside : ∀ c ∈ cs, decide (c ≠ mark) = true := by
    intro c mem
    refine decide_eq_true ?_
    rintro rfl
    exact h mem
  rw [List.takeWhile_append_of_pos inside, List.dropWhile_append_of_pos inside]
  cases part <;> simp [partChars]

/-- URLs that differ behind a common front of their paths show where the query starts. -/
theorem path_and_query_of_text_eq {url : Url} {front cs ds : List Char}
    {query query' : Option String} (noMark : '?' ∉ cs) (noMark' : '?' ∉ ds)
    (h : text { url with path := .rooted (String.ofList (front ++ cs)), query := query } =
      text { url with path := .rooted (String.ofList (front ++ ds)), query := query' }) :
    cs = ds ∧ query = query' := by
  have same : chars { url with path := .rooted (String.ofList (front ++ cs)), query := query } =
      chars { url with path := .rooted (String.ofList (front ++ ds)), query := query' } := by
    simpa [text] using congrArg String.toList h
  simp only [chars, Path.chars, String.toList_ofList] at same
  have tails : cs ++ partChars '?' query = ds ++ partChars '?' query' := by
    have behind := List.append_cancel_right same
    simp only [List.append_assoc] at behind
    exact List.append_cancel_left (List.append_cancel_left (List.append_cancel_left
      (List.append_cancel_left behind)))
  have cut := cut_partChars noMark query
  rw [tails] at cut
  have cut' := cut_partChars noMark' query'
  exact ⟨cut.1.symm.trans cut'.1, partChars_injective '?' (cut.2.symm.trans cut'.2)⟩

end EngineClient.Url
