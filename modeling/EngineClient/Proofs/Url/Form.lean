import EngineClient.Proofs.Text.Pieces
import EngineClient.Proofs.Url.Percent
import EngineClient.Url.Form

/-!
# Form-encoded queries read back

A key or a value decodes to its bytes (`Form.decodePart_encodePart`). Neither separator occurs in
one that is encoded, so a pair is found again behind whatever was in the query before it:

**`Form.decode_foldl_append`**: a query to which pairs are added decodes to its own pairs and then
the pairs added, in order.
-/

namespace EngineClient.Form

open Percent

/-- The bytes of a key and of a value. -/
def pairBytes (pair : String × String) : Bytes × Bytes :=
  (Utf8.encode pair.1, Utf8.encode pair.2)

theorem pairBytes_injective : Function.Injective pairBytes := by
  intro pair other same
  obtain ⟨key, value⟩ := Prod.mk.inj same
  exact Prod.ext (String.toList_inj.mp (Utf8.encodeChars_injective key))
    (String.toList_inj.mp (Utf8.encodeChars_injective value))

/-! ## Keys and values -/

theorem decodePart_cons (c : Char) (rest : List Char) :
    decodePart (c :: rest) =
      Percent.decode ((if c = '+' then ' ' else c) ::
        rest.map fun c => if c = '+' then ' ' else c) :=
  rfl

/-- No plus sign is written among percent signs and digits. -/
theorem decodePart_encodeBytes (bytes : Bytes) (rest : List Char) :
    decodePart (bytes.flatMap encodeByte ++ rest) = bytes ++ decodePart rest := by
  have kept : ∀ b : UInt8,
      (encodeByte b).map (fun c => if c = '+' then ' ' else c) = encodeByte b := by
    intro b
    refine (List.map_congr_left fun c mem => if_neg ?_).trans (List.map_id _)
    rintro rfl
    exact notMem_encodeByte (by decide) (by decide) b mem
  rw [decodePart, List.map_append, List.map_flatMap]
  simp only [kept]
  rw [decode_encodeBytes]
  rfl

/-- A space is the one character that is written as another one. -/
theorem decodePart_encodeChar (c : Char) (rest : List Char) :
    decodePart (encodeChar c ++ rest) = Utf8.encodeChar c ++ decodePart rest := by
  unfold encodeChar
  split
  · rename_i plain
    have plus : c ≠ '+' := by
      rintro rfl
      cases plain
    have percent : c ≠ '%' := by
      rintro rfl
      cases plain
    rw [List.singleton_append, decodePart_cons, if_neg plus]
    exact decode_cons_of_ne percent _
  · split
    · rename_i space
      rw [List.singleton_append, decodePart_cons, if_pos rfl, space]
      exact decode_cons_of_ne (by decide) _
    · exact decodePart_encodeBytes _ rest

/-- **Keys and values read back.** -/
theorem decodePart_encodePart (s : String) : decodePart (encodePart s) = Utf8.encode s := by
  have chars : ∀ cs : List Char, decodePart (cs.flatMap encodeChar) = Utf8.encodeChars cs := by
    intro cs
    induction cs with
    | nil => rfl
    | cons c cs ih => rw [List.flatMap_cons, decodePart_encodeChar, ih, Utf8.encodeChars_cons]
  exact chars s.toList

theorem separators_notMem_encodePart (s : String) : '&' ∉ encodePart s ∧ '=' ∉ encodePart s := by
  have coded : ∀ mark : Char, isPlain mark = false → mark ≠ '+' → mark ≠ '%' →
      mark.isAlphanum = false → mark ∉ encodePart s := by
    intro mark notPlain plus percent sign mem
    obtain ⟨c, -, mem⟩ := List.mem_flatMap.mp mem
    unfold encodeChar at mem
    split at mem
    · rename_i plain
      rw [List.mem_singleton.mp mem, plain] at notPlain
      cases notPlain
    · split at mem
      · exact plus (List.mem_singleton.mp mem)
      · obtain ⟨b, -, mem⟩ := List.mem_flatMap.mp mem
        exact notMem_encodeByte percent sign b mem
  exact ⟨coded '&' rfl (by decide) (by decide) rfl, coded '=' rfl (by decide) (by decide) rfl⟩

/-! ## Pairs -/

theorem decodePair_encodePair (pair : String × String) :
    decodePair (encodePair pair) = pairBytes pair := by
  have inside : ∀ c ∈ encodePart pair.1, decide (c ≠ '=') = true := by
    intro c mem
    refine decide_eq_true ?_
    rintro rfl
    exact (separators_notMem_encodePart pair.1).2 mem
  rw [decodePair, encodePair, List.takeWhile_append_of_pos inside,
    List.dropWhile_append_of_pos inside]
  simp [decodePart_encodePart, pairBytes]

theorem separator_notMem_encodePair (pair : String × String) : '&' ∉ encodePair pair := by
  intro mem
  rcases List.mem_append.mp mem with key | rest
  · exact (separators_notMem_encodePart pair.1).1 key
  · rcases List.mem_cons.mp rest with sign | value
    · cases sign
    · exact (separators_notMem_encodePart pair.2).1 value

/-! ## Queries -/

theorem pieces_eq (query : List Char) : pieces query = Text.piecesOf '&' query := by
  induction query with
  | nil => rfl
  | cons c cs ih =>
    cases found : Text.piecesOf '&' cs <;> simp [pieces, Text.piecesOf, ih, found]

/-- A pair makes one piece, which is never empty. -/
theorem decode_encodePair (pair : String × String) :
    decode (encodePair pair) = [pairBytes pair] := by
  have some : (encodePair pair).isEmpty = false := by
    simp [encodePair]
  rw [decode, pieces_eq, Text.piecesOf_of_notMem (separator_notMem_encodePair pair)]
  simp [some, decodePair_encodePair]

theorem decode_append (query : List Char) (pair : String × String) :
    decode (append query pair) = decode query ++ [pairBytes pair] := by
  unfold append
  split
  · rename_i none
    rw [List.isEmpty_iff.mp none, decode_encodePair]
    rfl
  · rw [← decode_encodePair pair]
    simp only [decode, pieces_eq, Text.piecesOf_append_cons, List.filter_append, List.map_append]

/-- **Pairs that are added read back**, behind those that were there. -/
theorem decode_foldl_append (pairs : List (String × String)) (query : List Char) :
    decode (pairs.foldl append query) = decode query ++ pairs.map pairBytes := by
  induction pairs generalizing query with
  | nil => rw [List.foldl_nil, List.map_nil, List.append_nil]
  | cons pair pairs ih =>
    rw [List.foldl_cons, ih, decode_append, List.append_assoc, List.map_cons]
    rfl

end EngineClient.Form
