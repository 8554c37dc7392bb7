import EngineClient.Proofs.Url.Percent
import EngineClient.Url.Extend
import Mathlib.Data.List.Basic

/-!
# Adding segments

What `Url.push` does to the path of a URL that names a server. There are four ways for a segment to
go: it is passed over if it is `.` or `..` as it stands, and once its breaks are dropped it adds
nothing behind the slash, takes away the segment before it, or is written with the characters of the
set encoded.

`Url.Path.Draft.Awaits` says behind which text the next segment goes. The root alone is no segment,
so a draft that holds it awaits a segment behind the empty text.
-/

namespace EngineClient.Url

open Percent

/-! ## Names -/

/-- A text that stays as it is as a segment. -/
structure StaysSegment (s : String) : Prop where
  ne_dot : s ≠ "."
  ne_dots : s ≠ ".."
  noBreak : ∀ c ∈ s.toList, isBreak c = false

theorem dropBreaks_eq_self_iff {cs : List Char} :
    dropBreaks cs = cs ↔ ∀ c ∈ cs, isBreak c = false := by
  simp [dropBreaks, List.filter_eq_self]

theorem StaysSegment.dropBreaks {s : String} (h : StaysSegment s) :
    dropBreaks s.toList = s.toList :=
  dropBreaks_eq_self_iff.mpr h.noBreak

theorem toList_eq_iff {s : String} {cs : List Char} : s.toList = cs ↔ s = String.ofList cs := by
  constructor
  · rintro rfl
    exact String.ofList_toList.symm
  · rintro rfl
    exact String.toList_ofList

/-- The slashes and segments of the end of a path. -/
def behindSlashes (segments : List (List Char)) : List Char :=
  segments.flatMap ('/' :: ·)

@[simp] theorem behindSlashes_nil : behindSlashes [] = [] := rfl

@[simp] theorem behindSlashes_cons (segment : List Char) (segments : List (List Char)) :
    behindSlashes (segment :: segments) = '/' :: segment ++ behindSlashes segments := rfl

theorem cut_behindSlashes {segment : List Char} (slash : '/' ∉ segment)
    (segments : List (List Char)) :
    (segment ++ behindSlashes segments).takeWhile (· ≠ '/') = segment ∧
      (segment ++ behindSlashes segments).dropWhile (· ≠ '/') = behindSlashes segments := by
  have inside : ∀ c ∈ segment, decide (c ≠ '/') = true := by
    intro c mem
    refine decide_eq_true ?_
    rintro rfl
    exact slash mem
  rw [List.takeWhile_append_of_pos inside, List.dropWhile_append_of_pos inside]
  cases segments <;> simp

/-- The segments of the end of a path can be told from it. -/
theorem behindSlashes_injective {segments others : List (List Char)}
    (h : behindSlashes segments = behindSlashes others) (slash : ∀ s ∈ segments, '/' ∉ s)
    (slash' : ∀ s ∈ others, '/' ∉ s) : segments = others := by
  induction segments generalizing others with
  | nil =>
    cases others with
    | nil => rfl
    | cons other others => cases h
  | cons segment segments ih =>
    cases others with
    | nil => cases h
    | cons other others =>
      have tails : segment ++ behindSlashes segments = other ++ behindSlashes others :=
        List.tail_eq_of_cons_eq h
      have cut := cut_behindSlashes (slash segment List.mem_cons_self) segments
      have cut' := cut_behindSlashes (slash' other List.mem_cons_self) others
      rw [tails] at cut
      rw [cut.1.symm.trans cut'.1, ih (cut.2.symm.trans cut'.2)
        (fun s mem => slash s (List.mem_cons_of_mem _ mem))
        fun s mem => slash' s (List.mem_cons_of_mem _ mem)]

/-! ## One segment -/

section

variable {scheme : String} {set : EncodeSet} {draft : Path.Draft} {raw : List Char}

namespace Path

theorem parent_of_slash {front segment : List Char} (slash : '/' ∉ segment)
    (drive : startsWithDrive segment = false) :
    parent (front ++ '/' :: segment ++ ['/']).reverse = (front ++ ['/']).reverse := by
  have stop : ∀ c ∈ segment.reverse, decide (c ≠ '/') = true := by
    intro c mem
    refine decide_eq_true ?_
    rintro rfl
    exact slash (List.mem_reverse.mp mem)
  have held : (front ++ '/' :: segment ++ ['/']).reverse.drop 1 =
      segment.reverse ++ '/' :: front.reverse := by
    simp
  rw [parent, held, List.takeWhile_append_of_pos stop, List.dropWhile_append_of_pos stop]
  simp [drive]

namespace Draft

theorem add_of_served (served : scheme ≠ fileScheme) (ending : List Char) :
    draft.add scheme set raw ending =
      match dotCount? (encode set (dropBreaks raw)) with
      | some 1 => draft
      | some 2 => { draft with held := parent draft.held }
      | _ => draft.write (encode set (dropBreaks raw) ++ ending) := by
  have below : decide (scheme = fileScheme ∧ draft.held = ['/']) = false :=
    decide_eq_false fun h => served h.1
  rw [Draft.add, below]
  rfl

theorem add_of_dot (served : scheme ≠ fileScheme) (percent : set '%' = true)
    (dot : set '.' = false) (h : dropBreaks raw = ['.']) (ending : List Char) :
    draft.add scheme set raw ending = draft := by
  rw [add_of_served served, (dotCount?_encode_eq_some_iff percent dot (n := 1)).mpr h]
  rfl

theorem add_of_dots (served : scheme ≠ fileScheme) (percent : set '%' = true)
    (dot : set '.' = false) (h : dropBreaks raw = ['.', '.']) (ending : List Char) :
    draft.add scheme set raw ending = { draft with held := parent draft.held } := by
  rw [add_of_served served, (dotCount?_encode_eq_some_iff percent dot (n := 2)).mpr h]
  rfl

theorem add_of_name (served : scheme ≠ fileScheme) (percent : set '%' = true)
    (dot : set '.' = false) (one : dropBreaks raw ≠ ['.']) (two : dropBreaks raw ≠ ['.', '.'])
    (ending : List Char) :
    draft.add scheme set raw ending = draft.write (encode set (dropBreaks raw) ++ ending) := by
  rw [add_of_served served]
  split
  · exact absurd ((dotCount?_encode_eq_some_iff percent dot (n := 1)).mp ‹_›) one
  · exact absurd ((dotCount?_encode_eq_some_iff percent dot (n := 2)).mp ‹_›) two
  · rfl

@[simp] theorem text_write (text : List Char) : (draft.write text).text = draft.text ++ text := by
  simp [Draft.text, Draft.write]

/-- The next segment goes behind this text and a slash. -/
inductive Awaits : Draft → List Char → Prop
  | root (hasDrive : Bool) : Awaits ⟨['/'], hasDrive⟩ []
  | behind {draft : Draft} {front : List Char} (text : draft.text = front)
      (more : front.length ≠ 1) : Awaits draft front

theorem Awaits.of_segment {front segment : List Char} (text : draft.text = front ++ '/' :: segment)
    (some : segment ≠ []) : draft.Awaits (front ++ '/' :: segment) := by
  refine .behind text ?_
  have := List.length_pos_iff.mpr some
  simp
  omega

end Draft

end Path

/-! ## Pushing -/

theorem segmentSet_percent (scheme : String) : segmentSet scheme '%' = true := by
  unfold segmentSet
  split <;> rfl

theorem segmentSet_slash (scheme : String) : segmentSet scheme '/' = true := by
  unfold segmentSet
  split <;> rfl

theorem segmentSet_dot (scheme : String) : segmentSet scheme '.' = false := by
  unfold segmentSet
  split <;> rfl

section

variable {front : List Char} {segment : String}

theorem push_of_passed (h : segment = "." ∨ segment = "..") : push scheme draft segment = draft := by
  rw [push, if_pos h]

/-- What a segment is added to. -/
theorem push_eq (served : scheme ≠ fileScheme) (awaits : draft.Awaits front)
    (one : segment ≠ ".") (two : segment ≠ "..") :
    ∃ base : Path.Draft, base.text = front ++ ['/'] ∧
      push scheme draft segment = base.add scheme (segmentSet scheme) segment.toList [] := by
  have trim : ∀ draft : Path.Draft, draft.trimRoot scheme = draft := fun draft =>
    if_neg served
  simp only [push, one, two, or_self, if_false, trim]
  cases awaits with
  | root hasDrive => exact ⟨_, rfl, rfl⟩
  | behind text more =>
    refine ⟨draft.write ['/'], by rw [Path.Draft.text_write, text], ?_⟩
    split
    · rename_i held
      rw [← text, Path.Draft.text, held] at more
      exact absurd rfl more
    · rfl

theorem text_push_of_dot (served : scheme ≠ fileScheme) (awaits : draft.Awaits front)
    (one : segment ≠ ".") (dot : dropBreaks segment.toList = ['.']) :
    (push scheme draft segment).text = front ++ ['/'] := by
  have two : segment ≠ ".." := by
    rintro rfl
    cases dot
  obtain ⟨base, text, pushed⟩ := push_eq served awaits one two
  rw [pushed, Path.Draft.add_of_dot served (segmentSet_percent _) (segmentSet_dot _) dot, text]

theorem text_push_of_dots (served : scheme ≠ fileScheme) (awaits : draft.Awaits front)
    (two : segment ≠ "..") (dots : dropBreaks segment.toList = ['.', '.']) :
    (push scheme draft segment).text = (Path.parent (front ++ ['/']).reverse).reverse := by
  have one : segment ≠ "." := by
    rintro rfl
    cases dots
  obtain ⟨base, text, pushed⟩ := push_eq served awaits one two
  rw [pushed, Path.Draft.add_of_dots served (segmentSet_percent _) (segmentSet_dot _) dots, ← text]
  simp [Path.Draft.text]

theorem text_push_of_name (served : scheme ≠ fileScheme) (awaits : draft.Awaits front)
    (one : dropBreaks segment.toList ≠ ['.']) (two : dropBreaks segment.toList ≠ ['.', '.']) :
    (push scheme draft segment).text =
      front ++ '/' :: encode (segmentSet scheme) (dropBreaks segment.toList) := by
  have one' : segment ≠ "." := by
    rintro rfl
    exact one rfl
  have two' : segment ≠ ".." := by
    rintro rfl
    exact two rfl
  obtain ⟨base, text, pushed⟩ := push_eq served awaits one' two'
  rw [pushed, Path.Draft.add_of_name served (segmentSet_percent _) (segmentSet_dot _) one two,
    Path.Draft.text_write, text]
  simp

theorem text_push_of_stays (served : scheme ≠ fileScheme) (awaits : draft.Awaits front)
    (stays : StaysSegment segment) :
    (push scheme draft segment).text = front ++ '/' :: encode (segmentSet scheme) segment.toList := by
  rw [text_push_of_name served awaits, stays.dropBreaks]
  · rw [stays.dropBreaks, Ne, toList_eq_iff]
    exact stays.ne_dot
  · rw [stays.dropBreaks, Ne, toList_eq_iff]
    exact stays.ne_dots

theorem awaits_push_of_stays (served : scheme ≠ fileScheme) (awaits : draft.Awaits front)
    (stays : StaysSegment segment) (some : segment ≠ "") :
    (push scheme draft segment).Awaits
      (front ++ '/' :: encode (segmentSet scheme) segment.toList) := by
  refine .of_segment (text_push_of_stays served awaits stays) (encode_ne_nil (segmentSet_percent _) ?_)
  rw [Ne, toList_eq_iff]
  exact some

end

end

/-! ## Extending -/

/-- The path of a node in front of the segments of a request: no slash at its end, so nothing of
the root alone. -/
def ownPath (url : Url) : List Char :=
  if popEmpty url.path.chars = ['/'] then [] else popEmpty url.path.chars

/-- Only a node whose path is two slashes has a path of its own that is shorter by both. -/
theorem path_eq_ownPath (url : Url) :
    url.path.chars = url.ownPath ∨ url.path.chars = url.ownPath ++ ['/'] ∨
      url.path.chars = ['/', '/'] := by
  unfold ownPath popEmpty
  by_cases ended : 2 ≤ url.path.chars.length ∧ url.path.chars.getLast? = some '/'
  · have whole := List.dropLast_append_getLast? '/' ended.2
    rw [if_pos ended]
    split
    · rename_i root
      rw [root] at whole
      exact .inr (.inr whole.symm)
    · exact .inr (.inl whole.symm)
  · rw [if_neg ended]
    split
    · rename_i root
      exact .inr (.inl root)
    · exact .inl rfl

theorem exists_popEmpty (rest : List Char) : ∃ more, popEmpty ('/' :: rest) = '/' :: more := by
  unfold popEmpty
  split
  · rename_i long
    cases rest with
    | nil => exact absurd long.1 (by simp)
    | cons c rest => exact ⟨_, List.dropLast_cons_cons⟩
  · exact ⟨rest, rfl⟩

theorem awaits_ownPath {url : Url} {rest : List Char} (rooted : url.path.chars = '/' :: rest) :
    (Path.Draft.ofText (popEmpty url.path.chars)).Awaits url.ownPath := by
  obtain ⟨more, popped⟩ := exists_popEmpty rest
  rw [ownPath, rooted, popped]
  split
  · rename_i root
    rw [root]
    exact .root false
  · rename_i other
    refine .behind (List.reverse_reverse _) fun one => other ?_
    rw [List.length_eq_one_iff] at one
    obtain ⟨c, alone⟩ := one
    cases alone
    rfl

/-- The segments that a document comes to have in a path: what its id leaves of them. -/
def documentSegments (scheme index marker id : String) : List (List Char) :=
  let name := encode (segmentSet scheme)
  if id = "." ∨ id = ".." then [name index.toList, name marker.toList]
  else if dropBreaks id.toList = ['.'] then [name index.toList, name marker.toList, []]
  else if dropBreaks id.toList = ['.', '.'] then [name index.toList, []]
  else [name index.toList, name marker.toList, name (dropBreaks id.toList)]

section

variable {url : Url} {rest : List Char} {index marker : String}

theorem withSegments?_index (served : url.scheme ≠ fileScheme)
    (rooted : url.path = .rooted (String.ofList ('/' :: rest))) (stays : StaysSegment index) :
    url.withSegments? [index] = some { url with path := .rooted (String.ofList
      (url.ownPath ++ behindSlashes [encode (segmentSet url.scheme) index.toList])) } := by
  have chars : url.path.chars = '/' :: rest := by
    rw [rooted, Path.chars, String.toList_ofList]
  have text := text_push_of_stays served (awaits_ownPath chars) stays
  rw [chars] at text
  simp only [withSegments?, rooted, extend, List.foldl_cons, List.foldl_nil, String.toList_ofList,
    text, behindSlashes_cons, behindSlashes_nil, List.append_nil]

theorem withSegments?_document (served : url.scheme ≠ fileScheme)
    (rooted : url.path = .rooted (String.ofList ('/' :: rest))) (index_stays : StaysSegment index)
    (index_some : index ≠ "") (marker_stays : StaysSegment marker) (marker_some : marker ≠ "")
    (marker_drive : Path.startsWithDrive (encode (segmentSet url.scheme) marker.toList) = false)
    (id : String) :
    url.withSegments? [index, marker, id] = some { url with path := .rooted (String.ofList
      (url.ownPath ++ behindSlashes (documentSegments url.scheme index marker id))) } := by
  have chars : url.path.chars = '/' :: rest := by
    rw [rooted, Path.chars, String.toList_ofList]
  have first := awaits_push_of_stays served (awaits_ownPath chars) index_stays index_some
  have text := text_push_of_stays served first marker_stays
  have second := awaits_push_of_stays served first marker_stays marker_some
  rw [chars] at text second
  have last : ∀ cs, (push url.scheme (push url.scheme (push url.scheme
      (.ofText (popEmpty ('/' :: rest))) index) marker) id).text = cs →
      url.withSegments? [index, marker, id] =
        some { url with path := .rooted (String.ofList cs) } := by
    rintro cs rfl
    simp only [withSegments?, rooted, extend, List.foldl_cons, List.foldl_nil,
      String.toList_ofList]
  apply last
  -- index and marker have been added; what the id does to them are the cases of `documentSegments`
  unfold documentSegments
  dsimp only
  split
  · rename_i passed
    rw [push_of_passed passed, text]
    simp
  rename_i kept
  split
  · rename_i dot
    rw [text_push_of_dot served second (fun h => kept (.inl h)) dot]
    simp
  split
  · rename_i dots
    rw [text_push_of_dots served second (fun h => kept (.inr h)) dots,
      Path.parent_of_slash (slash_notMem_encode (segmentSet_slash _) _) marker_drive]
    simp
  · rw [text_push_of_name served second ‹_› ‹_›]
    simp

end

/-! ## Segments of documents -/

section

variable {scheme index marker id : String}

theorem slash_notMem_documentSegments :
    ∀ segment ∈ documentSegments scheme index marker id, '/' ∉ segment := by
  have name : ∀ cs, '/' ∉ encode (segmentSet scheme) cs :=
    slash_notMem_encode (segmentSet_slash scheme)
  unfold documentSegments
  dsimp only
  split
  · simp [name]
  split
  · simp [name]
  split
  · simp [name]
  · simp [name]

/-- Just the ids that stay segments can be read back. -/
theorem decode_documentSegments_iff (scheme index marker id : String) :
    (documentSegments scheme index marker id).map decode = [index, marker, id].map Utf8.encode ↔
      StaysSegment id := by
  have name : ∀ cs, decode (encode (segmentSet scheme) cs) = Utf8.encodeChars cs :=
    decode_encode (segmentSet_percent scheme)
  unfold documentSegments
  dsimp only
  constructor
  · intro read
    split at read
    · exact absurd (congrArg List.length read) (by simp)
    rename_i kept
    rw [not_or] at kept
    -- where there are three segments, the third one is that of the id
    have third : ∀ {a b c d e f : Bytes}, [a, b, c] = [d, e, f] → c = f := by
      rintro _ _ _ _ _ _ ⟨⟩
      rfl
    split at read
    · rename_i dot
      have bytes : Utf8.encodeChars [] = Utf8.encodeChars id.toList := third read
      rw [← Utf8.encodeChars_injective bytes] at dot
      cases dot
    split at read
    · exact absurd (congrArg List.length read) (by simp)
    · have bytes : Utf8.encodeChars (dropBreaks id.toList) = Utf8.encodeChars id.toList :=
        (name _).symm.trans (third read)
      exact ⟨kept.1, kept.2, dropBreaks_eq_self_iff.mp (Utf8.encodeChars_injective bytes)⟩
  · intro stays
    have same := stays.dropBreaks
    have one : id.toList ≠ ['.'] := fun h => stays.ne_dot (toList_eq_iff.mp h)
    have two : id.toList ≠ ['.', '.'] := fun h => stays.ne_dots (toList_eq_iff.mp h)
    rw [same, if_neg (not_or.mpr ⟨stays.ne_dot, stays.ne_dots⟩), if_neg one, if_neg two]
    simp only [List.map_cons, List.map_nil, name]
    rfl

theorem documentSegments_injective {other : String} (stays : StaysSegment id)
    (stays' : StaysSegment other)
    (h : documentSegments scheme index marker id = documentSegments scheme index marker other) :
    id = other := by
  have decoded := (decode_documentSegments_iff scheme index marker id).mpr stays
  rw [h, (decode_documentSegments_iff scheme index marker other).mpr stays'] at decoded
  have bytes : Utf8.encodeChars other.toList = Utf8.encodeChars id.toList := by
    injection decoded with _ decoded
    injection decoded with _ decoded
    injection decoded
  exact String.toList_inj.mp (Utf8.encodeChars_injective bytes).symm

/-- Just two dots with breaks among them lead to the index. -/
theorem documentSegments_eq_index_iff (scheme index id : String) (marker_some : marker ≠ "") :
    documentSegments scheme index marker id = [encode (segmentSet scheme) index.toList] ∨
      documentSegments scheme index marker id = [encode (segmentSet scheme) index.toList, []] ↔
    id ≠ ".." ∧ dropBreaks id.toList = ['.', '.'] := by
  unfold documentSegments
  dsimp only
  split
  · rename_i passed
    refine iff_of_false ?_ ?_
    · have written : encode (segmentSet scheme) marker.toList ≠ [] :=
        encode_ne_nil (segmentSet_percent scheme) fun h => marker_some (toList_eq_iff.mp h)
      simp [written]
    · rintro ⟨other, dots⟩
      rcases passed with rfl | rfl
      · cases dots
      · exact other rfl
  rename_i kept
  rw [not_or] at kept
  split
  · rename_i dot
    refine iff_of_false (by simp) ?_
    rw [dot]
    rintro ⟨-, ⟨⟩⟩
  split
  · rename_i dots
    exact iff_of_true (.inr rfl) ⟨kept.2, dots⟩
  · rename_i other
    exact iff_of_false (by simp) fun h => other h.2

end

end EngineClient.Url
