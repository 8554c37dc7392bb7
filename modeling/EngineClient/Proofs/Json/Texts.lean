import EngineClient.Json.Printer
import EngineClient.Json.Reader
import EngineClient.Proofs.Text.Utf8

/-!
# Reading texts back

**`Json.Reader.string_stringChars`**: a text between quotes, with its escapes, is read as the text
it was written for, and the reader stops behind the closing quote.

There is one step of the reader for each way to write a character: an escape of one letter, an
escape of four hexadecimal digits, and the bytes of the character themselves
(`string_escapeChar`). The reader checks its bytes to be UTF-8 at the end, and what it holds then
are the bytes of the text.
-/

namespace EngineClient.Json.Reader

open Utf8

/-! ## Steps of the reader -/

section Steps

variable (held s : Bytes)

theorem string_quote : string held (code '"' :: s) = finish held s := by
  rw [string.eq_def]
  rfl

theorem string_letter {letter byte : UInt8} (h : escaped? letter = some byte) :
    string held (code '\\' :: letter :: s) = string (byte :: held) s := by
  rw [string.eq_def]
  simp only [h]
  rfl

/-- An escape that is not half of a surrogate pair. -/
theorem string_unit {a b c d : UInt8} {n : Nat} (h : codeUnit? a b c d = some n)
    (low : n < 0xD800) :
    string held (code '\\' :: code 'u' :: a :: b :: c :: d :: s) = string (pushChar n held) s := by
  have letter : escaped? (code 'u') = none := by decide
  have leading : isLeading n = false := by
    rw [isLeading, decide_eq_false (by omega)]
    rfl
  have trailing : isTrailing n = false := by
    rw [isTrailing, decide_eq_false (by omega)]
    rfl
  rw [string.eq_def]
  simp only [letter, h, leading, trailing]
  rfl

end Steps

/-! ## Bytes that stand for themselves -/

/-- The byte ends no text, starts no escape and is no control character. -/
def IsOrdinary (b : UInt8) : Prop :=
  b ≠ code '"' ∧ b ≠ code '\\' ∧ 0x20 ≤ b.toNat

theorem string_append {bytes : Bytes} (ordinary : ∀ b ∈ bytes, IsOrdinary b) (held s : Bytes) :
    string held (bytes ++ s) = string (bytes.reverse ++ held) s := by
  induction bytes generalizing held with
  | nil => rfl
  | cons b bytes ih =>
    obtain ⟨⟨quote, backslash, high⟩, others⟩ := List.forall_mem_cons.mp ordinary
    rw [List.cons_append, string.eq_def]
    simp only [if_neg quote, if_neg backslash, if_neg (Nat.not_lt.mpr high)]
    rw [ih others, List.reverse_cons, List.append_assoc]
    rfl

theorem isOrdinary_of_mem_encodeChar {c : Char} (quote : c ≠ '"') (backslash : c ≠ '\\')
    (high : 0x20 ≤ c.toNat) {b : UInt8} (mem : b ∈ encodeChar c) : IsOrdinary b := by
  by_cases ascii : c.toNat < 0x80
  · rw [encodeChar_of_lt ascii, List.mem_singleton] at mem
    have value : b.toNat = c.toNat := mem ▸ toNat_byte (by omega)
    -- an ASCII character is known by its byte
    have ne : ∀ d : Char, d.toNat < 0x80 → c ≠ d → b ≠ code d := by
      rintro d small ne rfl
      rw [code, toNat_byte (by omega)] at value
      exact ne (Char.toNat_inj.mp value.symm)
    exact ⟨ne _ (by decide) quote, ne _ (by decide) backslash, value ▸ high⟩
  · -- beyond ASCII every byte is too large to be one of the three
    have large := le_of_mem_encodeChar (Nat.not_lt.mp ascii) mem
    refine ⟨?_, ?_, Nat.le_trans (by decide) large⟩
    · rintro rfl
      exact absurd large (by decide)
    · rintro rfl
      exact absurd large (by decide)

/-! ## Characters and texts -/

theorem codeUnit?_hexDigits {n : Nat} (h : n < 0x20) :
    codeUnit? (code '0') (code '0') (code (hexDigit (n / 16))) (code (hexDigit (n % 16))) =
      some n := by
  revert n
  decide

/-- The reader undoes the way a character is written, and holds its bytes. -/
theorem string_escapeChar (held : Bytes) (c : Char) (s : Bytes) :
    string held (encodeChars (escapeChar c) ++ s) = string ((encodeChar c).reverse ++ held) s := by
  have letter : ∀ {d : Char} {byte : UInt8}, escaped? (code d) = some byte → d.toNat < 0x80 →
      encodeChar c = [byte] → string held (encodeChars ['\\', d] ++ s) =
        string ((encodeChar c).reverse ++ held) s := by
    intro d byte h ascii bytes
    have written : encodeChars ['\\', d] = [code '\\', code d] := by
      rw [encodeChars_cons, encodeChars_cons, encodeChar_of_lt ascii]
      rfl
    rw [written, bytes]
    exact string_letter held s h
  have bytes : ∀ {n : Nat}, c.toNat = n → n < 0x80 → encodeChar c = [UInt8.ofNat n] := by
    rintro n rfl ascii
    exact encodeChar_of_lt ascii
  -- the cases are those of `escapeChar`, in its order
  unfold escapeChar
  split
  · exact letter rfl (by decide) (bytes (congrArg Char.toNat ‹c = '"'›) (by decide))
  split
  · exact letter rfl (by decide) (bytes (congrArg Char.toNat ‹c = '\\'›) (by decide))
  split
  · exact letter rfl (by decide) (bytes ‹c.toNat = 0x08› (by decide))
  split
  · exact letter rfl (by decide) (bytes ‹c.toNat = 0x0C› (by decide))
  split
  · exact letter rfl (by decide) (bytes (congrArg Char.toNat ‹c = '\n'›) (by decide))
  split
  · exact letter rfl (by decide) (bytes (congrArg Char.toNat ‹c = '\r'›) (by decide))
  split
  · exact letter rfl (by decide) (bytes (congrArg Char.toNat ‹c = '\t'›) (by decide))
  split
  · rename_i low
    have digit : ∀ n < 16, encodeChar (hexDigit n) = [code (hexDigit n)] := by decide
    have written : encodeChars
        ['\\', 'u', '0', '0', hexDigit (c.toNat / 16), hexDigit (c.toNat % 16)] =
        [code '\\', code 'u', code '0', code '0', code (hexDigit (c.toNat / 16)),
          code (hexDigit (c.toNat % 16))] := by
      simp only [encodeChars_cons, encodeChars_nil, digit _ (show c.toNat / 16 < 16 by omega),
        digit _ (show c.toNat % 16 < 16 by omega)]
      rfl
    rw [written]
    refine (string_unit held s (codeUnit?_hexDigits low) (by omega)).trans ?_
    rw [pushChar, Char.ofNat_toNat]
  · rename_i quote backslash _ _ _ _ _ high
    rw [encodeChars_cons, encodeChars_nil, List.append_nil]
    exact string_append (fun b mem => isOrdinary_of_mem_encodeChar quote backslash
      (Nat.not_lt.mp high) mem) held s

theorem string_flatMap_escapeChar (held : Bytes) (cs : List Char) (s : Bytes) :
    string held (encodeChars (cs.flatMap escapeChar) ++ s) =
      string ((encodeChars cs).reverse ++ held) s := by
  induction cs generalizing held with
  | nil => rfl
  | cons c cs ih =>
    rw [List.flatMap_cons, encodeChars_append, List.append_assoc, string_escapeChar, ih,
      encodeChars_cons, List.reverse_append, List.append_assoc]

/-- The bytes of a text between quotes, taken apart. -/
theorem encodeChars_stringChars (text : String) (s : Bytes) :
    encodeChars (stringChars text) ++ s =
      code '"' :: (encodeChars (text.toList.flatMap escapeChar) ++ code '"' :: s) := by
  rw [stringChars, List.cons_append, encodeChars_cons, encodeChars_append, List.append_assoc,
    List.append_assoc]
  rfl

/-- **A text is read back**, behind its opening quote. -/
theorem string_stringChars (text : String) (s : Bytes) :
    string [] (encodeChars (text.toList.flatMap escapeChar) ++ code '"' :: s) = .ok (text, s) := by
  rw [string_flatMap_escapeChar, string_quote, finish, List.append_nil, List.reverse_reverse]
  have text_eq : decode (encodeChars text.toList) = .ok text := decode_encode text
  rw [text_eq]

end EngineClient.Json.Reader
