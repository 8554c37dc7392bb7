import EngineClient.Cluster.Resolve
import EngineClient.Proofs.Url.Extending
import EngineClient.Proofs.Url.Rooted

/-!
# Requests can be told from their URLs

A request whose segments stay as they are is always resolved on a node that is reached by `http` or
`https`. What the URL has beside the node are the segments and the query pairs, in order, and both
are read back from it:

**`Request.faithful_resolve`**: so no two such requests with other segments or other pairs lead to
the same URL on one node.
-/

namespace EngineClient.Request

open Url Percent

/-- The URL of a request on a node carries the segments and the pairs of the request, and all that
the node has. -/
structure Faithful (node : Url) (request : Request) (url : Url) : Prop where
  /-- Scheme, server and fragment are those of the node. -/
  kept : url.scheme = node.scheme ∧ url.authority = node.authority ∧ url.guarded = node.guarded ∧
    url.fragment = node.fragment
  /-- The segments are added, each behind a slash, and cutting at slashes finds them again. -/
  path : ∃ added,
    url.path = .rooted (String.ofList (withoutSlash node.path.chars ++ added)) ∧
      added = request.segments.flatMap (fun s => '/' :: encode (segmentSet node.scheme) s.toList) ∧
      (Text.piecesOf '/' added).map decode = [] :: request.segments.map Utf8.encode
  /-- The query has the pairs of the node and then those of the request. -/
  pairs : Form.decode (url.query.getD "").toList =
    Form.decode (node.query.getD "").toList ++ request.query.map Form.pairBytes
  /-- Without pairs, the query is that of the node as it was written. -/
  untouched : request.query = [] → url.query = node.query
  /-- The URL of a request with other segments or other pairs is another one. -/
  apart : ∀ (other : Request) (url' : Url), StaySegments other.segments →
    other.resolve node = .ok url' → url'.text = url.text →
      other.segments = request.segments ∧ other.query = request.query

variable {s : String} {node : Url} {request : Request}

theorem resolve_of_stay {rest : List Char} (served : node.scheme ≠ fileScheme)
    (rooted : node.path = .rooted (String.ofList ('/' :: rest)))
    (h : StaySegments request.segments) :
    request.resolve node = .ok { node with
      path := .rooted (String.ofList
        (withoutSlash node.path.chars ++ encodedSegments node.scheme request.segments))
      query := (node.withPairs request.query).query } := by
  rw [resolve, withSegments?_of_stay served rooted h]
  dsimp only
  rw [withPairs_eq]
  -- the pairs are added to the query of the node, whatever its path is
  have same : ∀ path, ({ node with path := path }.withPairs request.query).query =
      (node.withPairs request.query).query := by
    intro path
    unfold withPairs
    split <;> rfl
  rw [same]

theorem pairs_eq_of_query_eq {pairs others : List (String × String)}
    (h : (node.withPairs pairs).query = (node.withPairs others).query) : pairs = others := by
  have decoded := decode_query_withPairs node pairs
  rw [h, decode_query_withPairs, List.append_cancel_left_eq] at decoded
  exact (List.map_injective_iff.mpr Form.pairBytes_injective decoded).symm

/-- **URLs are faithful.** On a node that is reached by `http` or `https`, a request whose segments
stay as they are is always resolved. Its URL is the node with the segments behind the path and the
pairs behind the query, from which both can be read back; so it is the URL of no request with other
segments or other pairs. -/
theorem faithful_resolve (parsed : Url.parse s = .ok node)
    (served : node.scheme = "http" ∨ node.scheme = "https") (h : StaySegments request.segments) :
    ∃ url, request.resolve node = .ok url ∧ Faithful node request url := by
  have special : isSpecial node.scheme = true ∧ node.scheme ≠ fileScheme := by
    rcases served with scheme | scheme <;> rw [scheme] <;> decide
  obtain ⟨rest, rooted⟩ := exists_path_of_parse parsed special.1 special.2
  refine ⟨_, resolve_of_stay special.2 rooted h, ⟨rfl, rfl, rfl, rfl⟩, ?_, ?_, ?_, ?_⟩
  · refine ⟨encodedSegments node.scheme request.segments, rfl, ?_, ?_⟩
    · rw [encodedSegments, behindSlashes, List.flatMap_map]
    · exact decode_piecesOf_encodedSegments node.scheme request.segments
  · exact decode_query_withPairs node request.query
  · intro none
    rw [none]
    rfl
  · intro other url' stay resolved texts
    rw [resolve_of_stay special.2 rooted stay] at resolved
    cases resolved
    obtain ⟨segments, query⟩ := path_and_query_of_text_eq
      (question_notMem_encodedSegments _ _) (question_notMem_encodedSegments _ _) texts
    exact ⟨encodedSegments_injective segments, pairs_eq_of_query_eq query⟩

/-- A node with a path of its own, a pair and a fragment. -/
theorem faithful_resolve_prefixed :
    let node : Url := ⟨"https", some ⟨"u", none, .domain "localhost", none⟩, false,
      .rooted "/base/", some "a=1&", some "f"⟩
    let request := (Request.bare .get ["my index", "_doc", "a/b"]).withParameter "q" "x & y"
    Url.parse "https://u@localhost/base/?a=1&#f" = .ok node ∧ StaySegments request.segments ∧
      ∃ url, request.resolve node = .ok url ∧ Faithful node request url := by
  intro node request
  have parsed : Url.parse "https://u@localhost/base/?a=1&#f" = .ok node := by decide +kernel
  have spaced : StaysSegment "my index" := ⟨by decide, by decide, by simp [isBreak]⟩
  have marker : StaysSegment "_doc" := ⟨by decide, by decide, by simp [isBreak]⟩
  have cut : StaysSegment "a/b" := ⟨by decide, by decide, by simp [isBreak]⟩
  have stay : StaySegments request.segments := by
    refine ⟨by decide, by decide, List.forall_mem_cons.mpr ⟨spaced, ?_⟩⟩
    exact List.forall_mem_cons.mpr ⟨marker, List.forall_mem_singleton.mpr cut⟩
  exact ⟨parsed, stay, faithful_resolve parsed (.inr rfl) stay⟩

end EngineClient.Request
