import EngineClient.Cluster.Resolve
import EngineClient.Endpoint.Documents
import EngineClient.Endpoint.Indexes
import EngineClient.Proofs.Url.Rooted
import EngineClient.Proofs.Url.Segments

/-!
# Addresses of documents

Where the requests about one document lead to, on a node that is reached by `http` or `https`. The
id of the document is added to the path as a segment, and most ids stay there as they are
(`Url.StaysSegment`). The others do not: `.` and `..` are passed over, tabs and line breaks are
dropped, and an id that is two dots but for breaks takes the segment before it away, so that the
request leads to the index.

**`Endpoint.addressed_resolve`** says which ids are safe: for them, and for them alone, the URL has
the path of the node and then index, marker and id.
-/

namespace EngineClient

open Url Percent

namespace Url

/-- The URL has the path of a node and then just these segments, percent-encoded. -/
def LeadsTo (url node : Url) (names : List String) : Prop :=
  ∃ segments : List (List Char),
    url = { node with path := .rooted (String.ofList (node.ownPath ++ behindSlashes segments)) } ∧
      (∀ segment ∈ segments, '/' ∉ segment) ∧ segments.map decode = names.map Utf8.encode

/-- URLs that differ in the path alone differ as texts. -/
theorem path_eq_of_text_eq {node : Url} {path other : Path}
    (h : text { node with path := path } = text { node with path := other }) :
    path.chars = other.chars := by
  have chars : chars { node with path := path } = chars { node with path := other } := by
    simpa [text] using congrArg String.toList h
  exact List.append_cancel_left (List.append_cancel_right (List.append_cancel_right chars))

end Url

theorem Request.resolve_of_bare {request : Request} {node url : Url} (bare : request.query = [])
    (h : node.withSegments? request.segments = some url) : request.resolve node = .ok url := by
  rw [Request.resolve, h, bare]
  rfl

/-! ## Documents -/

namespace Endpoint

/-- The name of an index: lower-case letters, digits and hyphens. -/
structure IsIndexName (index : String) : Prop where
  nonempty : index ≠ ""
  plain : ∀ c ∈ index.toList, c.isLower = true ∨ c.isDigit = true ∨ c = '-'

instance (index : String) : Decidable (IsIndexName index) :=
  decidable_of_iff
    (index ≠ "" ∧ index.toList.all (fun c => c.isLower || c.isDigit || c == '-') = true) <| by
    simp only [List.all_eq_true, Bool.or_eq_true, beq_iff_eq, or_assoc]
    exact ⟨fun ⟨nonempty, plain⟩ => ⟨nonempty, plain⟩, fun h => ⟨h.nonempty, h.plain⟩⟩

theorem IsIndexName.stays {index : String} (h : IsIndexName index) : StaysSegment index where
  ne_dot := by
    rintro rfl
    exact absurd (h.plain '.' (by decide)) (by decide)
  ne_dots := by
    rintro rfl
    exact absurd (h.plain '.' (by decide)) (by decide)
  noBreak := by
    intro c mem
    have plain := h.plain c mem
    by_contra isBreak
    simp only [Bool.not_eq_false, Url.isBreak, Bool.or_eq_true, beq_iff_eq] at isBreak
    rcases isBreak with (rfl | rfl) | rfl <;> exact absurd plain (by decide)

/-- The requests about one document, with the marker that stands between index and id. -/
inductive AboutDocument (index id : String) : Request → String → Prop
  | delete : AboutDocument index id (delete index id).request "_doc"
  | insert (document : Document) :
      AboutDocument index id (insert index (some id) document).request "_doc"
  | upsert (document : Document) :
      AboutDocument index id (upsert index id document).request "_update"

/-- How a request about a document is resolved on a node. -/
structure Addressed (node : Url) (index id marker : String) (url : Url) : Prop where
  /-- What is kept of the node is its path without a slash at the end; of two slashes, nothing. -/
  own : node.path.chars = node.ownPath ∨ node.path.chars = node.ownPath ++ ['/'] ∨
    node.path.chars = ['/', '/']
  /-- The path of the node, then index, marker and id: just for the ids that stay segments. -/
  leads : url.LeadsTo node [index, marker, id] ↔ StaysSegment id
  /-- No two of these ids lead to the same place. -/
  apart : StaysSegment id → ∀ id' request' url', AboutDocument index id' request' marker →
    StaysSegment id' → request'.resolve node = .ok url' → url'.text = url.text → id' = id
  /-- Just two dots with breaks among them lead to the index. -/
  index : ∃ whole, (deleteIndex index).request.resolve node = .ok whole ∧
    (url.path.chars = whole.path.chars ∨ url.path.chars = whole.path.chars ++ ['/'] ↔
      id ≠ ".." ∧ dropBreaks id.toList = ['.', '.'])

section

variable {s index id marker : String} {node : Url} {request : Request}

theorem AboutDocument.marker_stays (about : AboutDocument index id request marker)
    (scheme : String) :
    StaysSegment marker ∧ marker ≠ "" ∧
      Path.startsWithDrive (encode (segmentSet scheme) marker.toList) = false := by
  have drive : ∀ marker ∈ ["_doc", "_update"],
      Path.startsWithDrive (encode (segmentSet scheme) marker.toList) = false := by
    intro marker mem
    unfold Url.segmentSet
    split <;> revert marker <;> decide
  have noBreak : ∀ marker ∈ ["_doc", "_update"], ∀ c ∈ marker.toList, Url.isBreak c = false := by
    intro marker mem
    apply dropBreaks_eq_self_iff.mp
    revert marker
    decide
  cases about with
  | delete | insert document =>
    exact ⟨⟨by decide, by decide, noBreak "_doc" (by decide)⟩, by decide, drive "_doc" (by decide)⟩
  | upsert document =>
    exact ⟨⟨by decide, by decide, noBreak "_update" (by decide)⟩, by decide,
      drive "_update" (by decide)⟩

theorem AboutDocument.resolve_eq (about : AboutDocument index id request marker)
    (name : IsIndexName index) (served : node.scheme ≠ fileScheme) {rest : List Char}
    (rooted : node.path = .rooted (String.ofList ('/' :: rest))) :
    request.resolve node = .ok { node with path := .rooted (String.ofList
      (node.ownPath ++ behindSlashes (documentSegments node.scheme index marker id))) } := by
  obtain ⟨stays, some, drive⟩ := about.marker_stays node.scheme
  have found := withSegments?_document served rooted name.stays name.nonempty stays some drive id
  have segments : request.segments = [index, marker, id] ∧ request.query = [] := by
    cases about <;> exact ⟨rfl, rfl⟩
  exact Request.resolve_of_bare segments.2 (segments.1 ▸ found)

/-- **Addresses of documents.** On a node that is reached by `http` or `https`, a request about a
document is always resolved. It leads behind the path of the node to index, marker and id, and no
other of these ids leads there, if the id stays a segment; otherwise it leads elsewhere. Two dots
with tabs or line breaks among them make it lead to the index, with a slash at the end. -/
theorem addressed_resolve (parsed : Url.parse s = .ok node)
    (served : node.scheme = "http" ∨ node.scheme = "https") (name : IsIndexName index)
    (about : AboutDocument index id request marker) :
    ∃ url, request.resolve node = .ok url ∧ Addressed node index id marker url := by
  have special : isSpecial node.scheme = true ∧ node.scheme ≠ fileScheme := by
    rcases served with h | h <;> rw [h] <;> decide
  obtain ⟨rest, rooted⟩ := exists_path_of_parse parsed special.1 special.2
  -- no segment has a slash in it, so a path tells its segments
  have same : ∀ {segments others : List (List Char)}, (∀ s ∈ segments, '/' ∉ s) →
      (∀ s ∈ others, '/' ∉ s) →
      (node.ownPath ++ behindSlashes segments = node.ownPath ++ behindSlashes others ↔
        segments = others) := by
    intro segments others slash slash'
    rw [List.append_cancel_left_eq]
    exact ⟨fun h => behindSlashes_injective h slash slash', congrArg behindSlashes⟩
  refine ⟨_, about.resolve_eq name special.2 rooted, path_eq_ownPath node, ?_, ?_, ?_⟩
  · rw [← decode_documentSegments_iff node.scheme index marker id]
    constructor
    · rintro ⟨segments, url, slash, decoded⟩
      have path := congrArg (fun url : Url => url.path.chars) url
      simp only [Path.chars, String.toList_ofList] at path
      rw [(same slash_notMem_documentSegments slash).mp path]
      exact decoded
    · intro decoded
      exact ⟨_, rfl, slash_notMem_documentSegments, decoded⟩
  · intro stays id' request' url' about' stays' resolved texts
    rw [about'.resolve_eq name special.2 rooted] at resolved
    cases resolved
    have path := path_eq_of_text_eq texts
    simp only [Path.chars, String.toList_ofList] at path
    exact documentSegments_injective stays' stays
      ((same slash_notMem_documentSegments slash_notMem_documentSegments).mp path)
  · have found := withSegments?_index special.2 rooted name.stays
    refine ⟨_, Request.resolve_of_bare rfl found, ?_⟩
    have marker_some := (about.marker_stays node.scheme).2.1
    rw [← documentSegments_eq_index_iff node.scheme index id marker_some]
    have slash : '/' ∉ encode (Url.segmentSet node.scheme) index.toList :=
      slash_notMem_encode (segmentSet_slash _) _
    have ended : node.ownPath ++ behindSlashes [encode (Url.segmentSet node.scheme) index.toList] ++
        ['/'] = node.ownPath ++
          behindSlashes [encode (Url.segmentSet node.scheme) index.toList, []] := by
      simp
    simp only [Path.chars, String.toList_ofList, ended]
    rw [same slash_notMem_documentSegments (by simp [slash]),
      same slash_notMem_documentSegments (by simp [slash])]

end

theorem addressed_resolve_space :
    let node : Url :=
      ⟨"http", some ⟨"", none, .domain "localhost", some 9200⟩, false, .rooted "/", none, none⟩
    Url.parse "http://localhost:9200" = .ok node ∧ IsIndexName "metrics-1" ∧
      ∃ url, (delete "metrics-1" "a b").request.resolve node = .ok url ∧
        Addressed node "metrics-1" "a b" "_doc" url := by
  intro node
  have parsed : Url.parse "http://localhost:9200" = .ok node := by decide +kernel
  have name : IsIndexName "metrics-1" := by decide
  exact ⟨parsed, name, addressed_resolve parsed (.inl rfl) name .delete⟩

/-- A deletion of one document that leads to its index. -/
theorem delete_resolves_to_index :
    ∃ node url whole : Url, Url.parse "http://localhost:9200" = .ok node ∧
      (delete "metrics-1" ".\t.").request.resolve node = .ok url ∧
      (deleteIndex "metrics-1").request.resolve node = .ok whole ∧
      url.text = "http://localhost:9200/metrics-1/" ∧
      url.path.chars = whole.path.chars ++ ['/'] := by
  refine ⟨⟨"http", some ⟨"", none, .domain "localhost", some 9200⟩, false, .rooted "/", none, none⟩,
    _, _, ?_, rfl, rfl, ?_, ?_⟩ <;> decide +kernel

end Endpoint

end EngineClient
