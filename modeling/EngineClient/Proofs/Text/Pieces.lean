import EngineClient.Text.Blank
import Mathlib.Data.List.Basic

/-!
# Pieces of a text

Cutting a text at a separator. Two texts with a separator between them have the pieces of the one
and then those of the other (`Text.piecesOf_append_cons`). A text without separators is one piece, so
pieces behind separators are found again (`Text.piecesOf_flatMap_cons`).
-/

namespace EngineClient.Text

variable {separator : Char} {piece : List Char}

theorem piecesOf_ne_nil (separator : Char) (cs : List Char) : piecesOf separator cs ≠ [] := by
  cases cs with
  | nil => exact List.cons_ne_nil _ _
  | cons c cs =>
    unfold piecesOf
    split
    · exact List.cons_ne_nil _ _
    · split <;> exact List.cons_ne_nil _ _

/-- A separator starts a piece, and any other character goes in front of the piece behind it. -/
theorem piecesOf_cons {cs first : List Char} {others : List (List Char)}
    (pieces : piecesOf separator cs = first :: others) (c : Char) :
    piecesOf separator (c :: cs) =
      if c = separator then [] :: first :: others else (c :: first) :: others := by
  rw [piecesOf, pieces]

theorem piecesOf_append_cons (separator : Char) (cs rest : List Char) :
    piecesOf separator (cs ++ separator :: rest) =
      piecesOf separator cs ++ piecesOf separator rest := by
  induction cs with
  | nil =>
    obtain ⟨first, others, eq⟩ := List.exists_cons_of_ne_nil (piecesOf_ne_nil separator rest)
    rw [List.nil_append, piecesOf_cons eq, if_pos rfl, eq]
    rfl
  | cons c cs ih =>
    obtain ⟨first, others, eq⟩ := List.exists_cons_of_ne_nil (piecesOf_ne_nil separator cs)
    have whole : piecesOf separator (cs ++ separator :: rest) =
        first :: (others ++ piecesOf separator rest) := by
      rw [ih, eq]
      rfl
    rw [List.cons_append, piecesOf_cons whole, piecesOf_cons eq]
    split <;> rfl

theorem piecesOf_of_notMem (h : separator ∉ piece) : piecesOf separator piece = [piece] := by
  induction piece with
  | nil => rfl
  | cons c cs ih =>
    have ne : c ≠ separator := fun same => h (same ▸ List.mem_cons_self)
    have others : separator ∉ cs := fun mem => h (List.mem_cons_of_mem _ mem)
    rw [piecesOf_cons (ih others), if_neg ne]

/-- A piece ends at the first separator. -/
theorem piecesOf_append (h : separator ∉ piece) (rest : List Char) :
    piecesOf separator (piece ++ separator :: rest) = piece :: piecesOf separator rest := by
  rw [piecesOf_append_cons, piecesOf_of_notMem h]
  rfl

/-- Pieces, each with a separator in front of it. -/
theorem piecesOf_flatMap_cons {pieces : List (List Char)} (h : ∀ piece ∈ pieces, separator ∉ piece)
    (front : List Char) :
    piecesOf separator (front ++ pieces.flatMap (separator :: ·)) =
      piecesOf separator front ++ pieces := by
  induction pieces generalizing front with
  | nil => rw [List.flatMap_nil, List.append_nil, List.append_nil]
  | cons piece pieces ih =>
    obtain ⟨first, others⟩ := List.forall_mem_cons.mp h
    rw [List.flatMap_cons, List.cons_append, piecesOf_append_cons, ih others,
      piecesOf_of_notMem first]
    rfl

end EngineClient.Text
