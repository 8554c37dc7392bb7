import EngineClient.Client.Command
import EngineClient.Proofs.Endpoint.Asking
import EngineClient.Proofs.Text.Decoding
import EngineClient.Proofs.Text.Words

/-!
# Listings of indexes

The engine lists indexes in plain text, one name on a line. A `Listing` may end its lines with or
without a carriage return, have white space around names and blank lines anywhere, and leave its
last line unended.

**`Client.findIndexes_listing`**: the names that a listing has are found, all of them, in order, and
no others. A body is refused only if it is no text at all.
-/

namespace EngineClient

open Call Text

/-! ## Lines -/

/-- How a line ends. -/
inductive LineEnd where
  | lineFeed
  /-- A carriage return and a line feed. -/
  | pair

/-- The characters that end a line. -/
def LineEnd.chars : LineEnd → List Char
  | .lineFeed => ['\n']
  | .pair => ['\r', '\n']

/-- A text that has names on its lines, at most one on each. -/
inductive Listing : List Char → List String → Prop
  /-- The last line, which has no end. It may be empty. -/
  | last {cs : List Char} {names : List String} (line : Entry '\n' cs names) : Listing cs names
  | line {cs more : List Char} {names others : List String} (line : Entry '\n' cs names)
      (ending : LineEnd) (rest : Listing more others) :
      Listing (cs ++ ending.chars ++ more) (names ++ others)

variable {cs : List Char} {names : List String}

theorem Text.Entry.append_return (line : Entry '\n' cs names) :
    Entry '\n' (cs ++ ['\r']) names := by
  have padded : ∀ {after}, Padding '\n' after → Padding '\n' (after ++ ['\r']) := by
    rintro after ⟨blank, whole⟩
    refine ⟨List.forall_mem_append.mpr ⟨blank, List.forall_mem_singleton.mpr (by decide)⟩, ?_⟩
    simpa using whole
  cases line with
  | blank padding => exact .blank (padded padding)
  | word name front back =>
    rw [List.append_assoc]
    exact .word name front (padded back)

/-- The line feeds of a listing separate its names, and a carriage return is white space. -/
theorem listing_iff : Listing cs names ↔ Lists '\n' cs names := by
  constructor
  · intro listing
    induction listing with
    | last line => exact .last line
    | line line ending rest ih =>
      cases ending with
      | lineFeed =>
        rw [List.append_assoc]
        exact .cons line ih
      | pair =>
        rw [LineEnd.chars, List.append_cons, List.append_assoc]
        exact .cons line.append_return ih
  · intro lists
    induction lists with
    | last line => exact .last line
    | cons line rest ih =>
      rw [List.append_cons]
      exact .line line .lineFeed ih

/-! ## Answers -/

/-- The answer has the names of the text and nothing else. -/
structure IndexAnswer.Lists (answer : IndexAnswer) (text : String) : Prop where
  listing : Listing text.toList answer.names
  isPresent_iff : answer.isPresent = true ↔ answer.names ≠ []
  /-- A name is not empty, stands on one line and needs no trimming. -/
  name : ∀ name ∈ answer.names, name ≠ "" ∧ '\n' ∉ name.toList ∧ trim name = name

theorem IndexAnswer.lists_words (text : String) :
    (IndexAnswer.listing (words '\n' text)).Lists text := by
  obtain ⟨lists, correct⟩ := words_eq_iff.mp (rfl : words '\n' text = _)
  refine ⟨listing_iff.mpr lists, ?_, fun name mem => ?_⟩
  · simp [IndexAnswer.listing]
  · have isWord := correct name mem
    exact ⟨isWord.ne_empty, isWord.whole, trim_eq_self_iff.mpr isWord.bare⟩

theorem Endpoint.readNames_of_text {response : Response} {text : String}
    (body : Utf8.encode text = response.body) :
    readNames response = .ok (.listing (words '\n' text)) := by
  rw [readNames, Response.text, Utf8.decode_eq_ok_iff.mpr body]

theorem Endpoint.exists_readNames_eq_error {response : Response}
    (body : ∀ text, Utf8.encode text ≠ response.body) :
    ∃ reason, readNames response = .error (.unexpected reason) := by
  cases decoded : Utf8.decode response.body with
  | ok text => exact absurd (Utf8.decode_eq_ok_iff.mp decoded) (body text)
  | error fault => exact ⟨_, by rw [readNames, Response.text, decoded]⟩

namespace Client

variable {S Q : Type} {client : Client S Q} {script : Script} {response : Response}

theorem result_findIndexes (success : StatusClass.of response = .success)
    (answers : Answers client.configuration.retryPolicy script response) (pattern : String) :
    ((client.perform (.findIndexes pattern)).play script).result =
      Endpoint.readNames response := by
  show (((Endpoint.findIndexes pattern).call _).play script).result = _
  rw [Endpoint.result_call _ answers, Endpoint.conclude_of_success success]
  rfl

/-- **Listings of indexes.** If the engine answers with a status of the class success and the bytes
of a listing, then exactly the names of the listing are found, in order and as often as they are
there. Of all bodies only those are refused that are not the bytes of a text; from any other come
names that are not empty, stand on one line and have no white space at their ends. -/
theorem findIndexes_listing {status : UInt16} (low : 200 ≤ status.toNat)
    (high : status.toNat ≤ 299) {body : Bytes}
    (answers : Answers client.configuration.retryPolicy script ⟨some status, body⟩)
    (pattern : String) :
    let result := ((client.perform (.findIndexes pattern)).play script).result
    (∀ text names, Listing text.toList names → (∀ name ∈ names, IsWord '\n' name) →
      Utf8.encode text = body → result = .ok ⟨!names.isEmpty, names⟩) ∧
    ((∃ reason, result = .error (.unexpected reason)) ↔ ∀ text, Utf8.encode text ≠ body) ∧
    ∀ text, Utf8.encode text = body → ∃ answer, result = .ok answer ∧ answer.Lists text := by
  intro result
  have success : StatusClass.of ⟨some status, body⟩ = .success :=
    StatusClass.of_eq_success_iff.mpr ⟨status, rfl, low, high⟩
  have read : result = Endpoint.readNames ⟨some status, body⟩ :=
    result_findIndexes success answers pattern
  refine ⟨?_, ⟨?_, ?_⟩, ?_⟩
  · intro text names listing correct bytes
    have found := words_eq_iff.mpr ⟨listing_iff.mp listing, correct⟩
    rw [read, Endpoint.readNames_of_text bytes, found]
    rfl
  · rintro ⟨reason, failed⟩ text bytes
    rw [read, Endpoint.readNames_of_text bytes] at failed
    cases failed
  · intro noText
    rw [read]
    exact Endpoint.exists_readNames_eq_error noText
  · intro text bytes
    exact ⟨_, read.trans (Endpoint.readNames_of_text bytes), IndexAnswer.lists_words text⟩

/-- A blank line, a line with white space around the name, one that ends in a pair, and one without
an end, behind a timeout. -/
theorem findIndexes_listing_three :
    let text := "\n \tmetrics-1 \nraw-1\r\nraw-1"
    let script : Script := Stream'.cons (.error (.timeout .zero "slow"))
      (Stream'.const (.ok ⟨some 200, Utf8.encode text⟩))
    ((plain.perform (.findIndexes "*-1")).play script).result =
      .ok ⟨true, ["metrics-1", "raw-1", "raw-1"]⟩ := by
  intro text script
  have answers : Answers plain.configuration.retryPolicy script ⟨some 200, Utf8.encode text⟩ :=
    .cons_timeout (by decide) rfl _ _
  have correct : ∀ name ∈ ["metrics-1", "raw-1", "raw-1"], IsWord '\n' name := by decide
  have lines : text.toList = [] ++ LineEnd.lineFeed.chars ++
      ([' ', '\t'] ++ "metrics-1".toList ++ [' '] ++ LineEnd.lineFeed.chars ++
        ([] ++ "raw-1".toList ++ [] ++ LineEnd.pair.chars ++
          ([] ++ "raw-1".toList ++ []))) := by decide
  have listing : Listing text.toList ["metrics-1", "raw-1", "raw-1"] := by
    rw [lines]
    have none : Padding '\n' [] := by decide
    exact .line (.blank none) _ (.line (.word "metrics-1" (by decide) (by decide)) _
      (.line (.word "raw-1" none none) _ (.last (.word "raw-1" none none))))
  exact (findIndexes_listing (by decide) (by decide) answers "*-1").1 text _ listing correct rfl

end Client

end EngineClient
