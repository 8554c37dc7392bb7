import EngineClient.Client.Basic
import EngineClient.Proofs.Batch.Encoding
import EngineClient.Proofs.Client.Converting
import EngineClient.Proofs.Json.Printer
import EngineClient.Proofs.Json.RoundTrip
import EngineClient.Proofs.Text.Pieces

/-!
# Lines of a body

The body of a batch is a sequence of lines, two for each item that can be converted
(`Batch.body_eq_terminated`). No character of an index, an id or a document can break a line, since
a JSON text is written on one (`Json.clear_chars`), so cutting the body at its line breaks gives
back the lines it was made of (`Text.piecesOf_terminated`).

**`Client.upsertBatch_lines`**: each pair of lines says what it was written for, and the second one
is what a single upsert of the item sends. Items that cannot be converted leave no trace.
-/

namespace EngineClient

open Call

/-! ## Lines of a text -/

namespace Text

variable {separator : Char} {pieces : List (List Char)}

/-- Pieces, each with a separator behind it. -/
def terminated (separator : Char) (pieces : List (List Char)) : List Char :=
  pieces.flatMap (· ++ [separator])

theorem terminated_cons (separator : Char) (piece : List Char) (pieces : List (List Char)) :
    terminated separator (piece :: pieces) = piece ++ separator :: terminated separator pieces := by
  rw [terminated, List.flatMap_cons, List.append_assoc]
  rfl

theorem piecesOf_terminated (h : ∀ piece ∈ pieces, separator ∉ piece) :
    piecesOf separator (terminated separator pieces) = pieces ++ [[]] := by
  induction pieces with
  | nil => rfl
  | cons piece pieces ih =>
    obtain ⟨first, others⟩ := List.forall_mem_cons.mp h
    rw [terminated_cons, piecesOf_append first, ih others, List.cons_append]

theorem count_terminated (h : ∀ piece ∈ pieces, separator ∉ piece) :
    (terminated separator pieces).count separator = pieces.length := by
  induction pieces with
  | nil => rfl
  | cons piece pieces ih =>
    obtain ⟨first, others⟩ := List.forall_mem_cons.mp h
    rw [terminated_cons, List.count_append, List.count_eq_zero.mpr first, List.count_cons_self,
      ih others, Nat.zero_add, List.length_cons]

theorem terminated_eq_nil_or (separator : Char) (pieces : List (List Char)) :
    terminated separator pieces = [] ∨
      (terminated separator pieces).getLast? = some separator := by
  induction pieces with
  | nil => exact .inl rfl
  | cons piece pieces ih =>
    refine .inr ?_
    rw [terminated_cons]
    rcases ih with none | last
    · rw [none, List.getLast?_append]
      rfl
    · rw [List.getLast?_append, List.getLast?_cons, last]
      rfl

end Text

namespace Batch

variable {S Q : Type}

/-! ## Lines of an item -/

theorem newline_notMem_text (value : Json) : '\n' ∉ value.text.toList := by
  rw [Json.text, String.toList_ofList]
  exact (Json.clear_chars value).newline_notMem

theorem parse_commandText (index id : String) :
    Json.parse (Utf8.encode (commandText index id)) =
      .ok (.object [("update", .object [("_id", .string id), ("_index", .string index)])]) := by
  apply Json.parse_text
  refine .object (List.pairwise_singleton _ _) (List.forall_mem_singleton.mpr ?_)
  refine .object (List.pairwise_pair.mpr ?_) (List.forall_mem_cons.mpr ⟨.string id, ?_⟩)
  · show "_id" < "_index"
    decide
  · exact List.forall_mem_singleton.mpr (.string index)

theorem parse_upsertText {document : Document} (portable : Json.Portable 126 document.toJson) :
    Json.parse (Utf8.encode (upsertText document)) =
      .ok (.object [("doc", document.toJson), ("doc_as_upsert", .bool true)]) := by
  apply Json.parse_text
  refine .object (List.pairwise_pair.mpr ?_) (List.forall_mem_cons.mpr ⟨portable, ?_⟩)
  · show "doc" < "doc_as_upsert"
    decide
  · exact List.forall_mem_singleton.mpr (.bool true)

/-! ## Lines of a body -/

/-- The lines of items with their documents, by turns a command and a document. -/
def linesOf (entries : List (Upsert S × Document)) : List (List Char) :=
  entries.flatMap fun entry =>
    [(commandText entry.1.index entry.1.id).toList, (upsertText entry.2).toList]

theorem linesOf_cons (entry : Upsert S × Document) (entries : List (Upsert S × Document)) :
    linesOf (entry :: entries) =
      (commandText entry.1.index entry.1.id).toList :: (upsertText entry.2).toList ::
        linesOf entries := rfl

theorem length_linesOf (entries : List (Upsert S × Document)) :
    (linesOf entries).length = 2 * entries.length := by
  induction entries with
  | nil => rfl
  | cons entry entries ih =>
    simp only [linesOf_cons, List.length_cons, ih]
    omega

theorem newline_notMem_linesOf (entries : List (Upsert S × Document)) :
    ∀ line ∈ linesOf entries, '\n' ∉ line := by
  intro line mem
  obtain ⟨entry, -, mem⟩ := List.mem_flatMap.mp mem
  rcases List.mem_pair.mp mem with rfl | rfl
  · exact newline_notMem_text _
  · exact newline_notMem_text _

theorem getElem?_linesOf {entries : List (Upsert S × Document)} {j : Nat} {item : Upsert S}
    {document : Document} (h : entries[j]? = some (item, document)) (rest : List (List Char)) :
    (linesOf entries ++ rest)[2 * j]? = some (commandText item.index item.id).toList ∧
      (linesOf entries ++ rest)[2 * j + 1]? = some (upsertText document).toList := by
  induction entries generalizing j with
  | nil => cases h
  | cons entry entries ih =>
    rw [linesOf_cons]
    cases j with
    | zero =>
      cases h
      exact ⟨rfl, rfl⟩
    | succ j => exact ih h

theorem body_eq_terminated (codec : RecordCodec S) (batch : List (Upsert S)) :
    (Plan.ofBatch codec batch).body.toList =
      Text.terminated '\n' (linesOf (converted codec batch)) := by
  rw [body_ofBatch]
  induction converted codec batch with
  | nil => rfl
  | cons entry entries ih =>
    rw [List.flatMap_cons, ih, linesOf_cons, Text.terminated_cons, Text.terminated_cons]
    simp [itemLines]

end Batch

/-! ## The lines of a batch -/

namespace Client

open Batch

variable {S Q : Type} (client : Client S Q)

/-- What the two lines of an item say. The command names the document to upsert; the other line is
what a single upsert of the item carries, whatever the engine answers, and has the document itself
if that can be read back at all. -/
structure Encodes (item : Upsert S) (document : Document) (command line : String) : Prop where
  /-- The command is read as the id and the index of the item. -/
  command : Json.parse (Utf8.encode command) =
    .ok (.object [("update", .object [("_id", .string item.id), ("_index", .string item.index)])])
  /-- A single upsert sends a request, and none with another body. -/
  single : ∀ script, let requests := requestsOf ((client.upsert item).play script).trace
    requests ≠ [] ∧ ∀ request ∈ requests, request.body = some (.json line)
  /-- The line is read as the document to upsert. -/
  document : Json.Portable 126 document.toJson → Json.parse (Utf8.encode line) =
    .ok (.object [("doc", document.toJson), ("doc_as_upsert", .bool true)])

theorem encodes_lines {item : Upsert S} {document : Document}
    (h : client.records.toDocument item.record = .ok document) :
    client.Encodes item document (commandText item.index item.id) (upsertText document) where
  command := parse_commandText item.index item.id
  single script := by
    obtain ⟨n, requests⟩ := Endpoint.requests_call (.upsert item.index item.id document)
      client.configuration.retryPolicy script
    rw [upsert_of_ok h, ask, requests]
    refine ⟨List.cons_ne_nil _ _, fun request mem => ?_⟩
    rw [List.eq_of_mem_replicate mem]
    rfl
  document := parse_upsertText

/-- **The lines of a batch can be read back.** The body has two line breaks for each item that can
be converted, of which the last one ends it. Cut at its line breaks, it gives the two lines of each
of these items, in order, and nothing behind them. An item that cannot be converted leaves no
trace: the others alone have the same body. -/
theorem upsertBatch_lines (batch : List (Upsert S)) :
    let body := (Plan.ofBatch client.records batch).body
    let sent := converted client.records batch
    let lines := Text.piecesOf '\n' body.toList
    body.toList.count '\n' = 2 * sent.length ∧
    (body = "" ∨ body.toList.getLast? = some '\n') ∧
    lines.length = 2 * sent.length + 1 ∧
    lines[2 * sent.length]? = some [] ∧
    (∀ j item document, sent[j]? = some (item, document) → ∃ command line : String,
      lines[2 * j]? = some command.toList ∧ lines[2 * j + 1]? = some line.toList ∧
      client.Encodes item document command line) ∧
    (Plan.ofBatch client.records (sent.map Prod.fst)).body = body := by
  intro body sent lines
  have eq : body.toList = Text.terminated '\n' (linesOf sent) :=
    body_eq_terminated client.records batch
  have cut : lines = linesOf sent ++ [[]] := by
    show Text.piecesOf '\n' body.toList = _
    rw [eq, Text.piecesOf_terminated (newline_notMem_linesOf sent)]
  have length := length_linesOf sent
  refine ⟨?_, ?_, ?_, ?_, ?_, ?_⟩
  · rw [eq, Text.count_terminated (newline_notMem_linesOf sent), length]
  · rw [← String.toList_eq_nil_iff, eq]
    exact Text.terminated_eq_nil_or '\n' (linesOf sent)
  · rw [cut, List.length_append, length]
    rfl
  · rw [cut, ← length, List.getElem?_append_right le_rfl, Nat.sub_self]
    rfl
  · intro j item document found
    obtain ⟨command, line⟩ := getElem?_linesOf found [[]]
    rw [← cut] at command line
    have converts := toDocument_of_mem_converted (List.mem_of_getElem? found)
    exact ⟨_, _, command, line, client.encodes_lines converts⟩
  · apply String.toList_inj.mp
    rw [body_eq_terminated, converted_map_fst, eq]

/-- Line breaks and quotes in an index, an id and a document, behind an item without document. -/
theorem upsertBatch_lines_quoted :
    let document : Document := ⟨[("a\nb", .int (-1))]⟩
    let batch : List (Upsert Json) :=
      [⟨"raw-1", "x", .null⟩, ⟨"raw\n2", "\"\\", document.toJson⟩]
    let lines := Text.piecesOf '\n' (Plan.ofBatch RecordCodec.plain batch).body.toList
    lines.length = 3 ∧ ∃ command line : String,
      lines[0]? = some command.toList ∧ lines[1]? = some line.toList ∧
      Json.parse (Utf8.encode command) = .ok (.object
        [("update", .object [("_id", .string "\"\\"), ("_index", .string "raw\n2")])]) ∧
      Json.parse (Utf8.encode line) =
        .ok (.object [("doc", document.toJson), ("doc_as_upsert", .bool true)]) := by
  intro document batch lines
  obtain ⟨-, -, length, -, pairs, -⟩ := plain.upsertBatch_lines batch
  obtain ⟨command, line, first, second, encodes⟩ := pairs 0 _ document rfl
  have portable : Json.Portable 126 document.toJson :=
    .object (List.pairwise_singleton _ _)
      (List.forall_mem_singleton.mpr (.integer (by decide) (by decide)))
  exact ⟨length, command, line, first, second, encodes.command, encodes.document portable⟩

end Client

end EngineClient
