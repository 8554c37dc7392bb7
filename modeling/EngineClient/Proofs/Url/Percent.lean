import EngineClient.Proofs.Text.Utf8
import EngineClient.Url.Path

/-!
# Percent encoding reads back

What is encoded decodes to the bytes it was made of, if the percent sign is encoded itself
(`Percent.decode_encode`). What an encoded text looks like is settled by the set: a character of the
set does not occur in it, the percent sign and digits apart, and it is made of dots only if the text
was (`dotCount?_encode_eq_some_iff`).
-/

namespace EngineClient

/-- A byte below `0x80` is a character of its own. -/
theorem Utf8.toNat_eq_of_mem_encodeChar {c : Char} {b : UInt8} (mem : b ∈ encodeChar c)
    (ascii : b.toNat < 0x80) : c.toNat = b.toNat := by
  by_cases h : c.toNat < 0x80
  · rw [encodeChar_of_lt h, List.mem_singleton] at mem
    rw [mem, toNat_byte (by omega)]
  · have := le_of_mem_encodeChar (Nat.not_lt.mp h) mem
    omega

namespace Percent

variable {set : EncodeSet}

/-! ## Bytes -/

theorem hexValue?_hexDigit {n : ℕ} (h : n < 16) : hexValue? (hexDigit n) = some n := by
  revert n
  decide

theorem isAlphanum_hexDigit {n : ℕ} (h : n < 16) : (hexDigit n).isAlphanum = true := by
  revert n
  decide

/-- A byte is written with a percent sign, digits and letters. -/
theorem notMem_encodeByte {c : Char} (percent : c ≠ '%') (mark : c.isAlphanum = false) (b : UInt8) :
    c ∉ encodeByte b := by
  intro mem
  have bound : b.toNat < 256 := b.toNat_lt
  have high := isAlphanum_hexDigit (show b.toNat / 16 < 16 by omega)
  have low := isAlphanum_hexDigit (show b.toNat % 16 < 16 by omega)
  simp only [encodeByte, List.mem_cons, List.not_mem_nil, or_false] at mem
  rcases mem with rfl | rfl | rfl
  · exact percent rfl
  · exact Bool.false_ne_true (mark.symm.trans high)
  · exact Bool.false_ne_true (mark.symm.trans low)

theorem eq_of_hexDigit_eq_two {n : ℕ} (h : n < 16) : hexDigit n = '2' → n = 2 := by
  revert n
  decide

/-- The digits are written in upper case, so there is no other way to write a dot. -/
theorem eq_of_hexDigit_eq_e {n : ℕ} (h : n < 16) : hexDigit n = 'e' ∨ hexDigit n = 'E' → n = 14 := by
  revert n
  decide

theorem decode_encodeByte (b : UInt8) (rest : List Char) :
    decode (encodeByte b ++ rest) = b :: decode rest := by
  have bound : b.toNat < 256 := b.toNat_lt
  have high := hexValue?_hexDigit (show b.toNat / 16 < 16 by omega)
  have low := hexValue?_hexDigit (show b.toNat % 16 < 16 by omega)
  have whole : b.toNat / 16 * 16 + b.toNat % 16 = b.toNat := by omega
  simp only [encodeByte, List.cons_append, List.nil_append, decode, high, low, whole,
    UInt8.ofNat_toNat]

theorem decode_encodeBytes (bytes : Bytes) (rest : List Char) :
    decode (bytes.flatMap encodeByte ++ rest) = bytes ++ decode rest := by
  induction bytes with
  | nil => rfl
  | cons b bytes ih =>
    rw [List.flatMap_cons, List.append_assoc, decode_encodeByte, ih, List.cons_append]

theorem decode_cons_of_ne {c : Char} (h : c ≠ '%') (rest : List Char) :
    decode (c :: rest) = Utf8.encodeChar c ++ decode rest := by
  rw [decode]
  intro a b later same
  exact absurd same h

/-! ## Texts -/

@[simp] theorem encode_nil : encode set [] = [] := rfl

@[simp] theorem encode_cons (c : Char) (cs : List Char) :
    encode set (c :: cs) = encodeChar set c ++ encode set cs := rfl

/-- **What is encoded reads back.** -/
theorem decode_encode (percent : set '%' = true) (cs : List Char) :
    decode (encode set cs) = Utf8.encodeChars cs := by
  induction cs with
  | nil => rfl
  | cons c cs ih =>
    rw [encode_cons, Utf8.encodeChars_cons, ← ih]
    by_cases coded : set c = true
    · rw [encodeChar, if_pos coded, decode_encodeBytes]
    · have other : c ≠ '%' := by
        rintro rfl
        exact coded percent
      rw [encodeChar, if_neg coded]
      exact decode_cons_of_ne other _

theorem encode_ne_nil (percent : set '%' = true) {cs : List Char} (some : cs ≠ []) :
    encode set cs ≠ [] := by
  intro none
  have bytes := decode_encode percent cs
  rw [none] at bytes
  obtain ⟨c, more, rfl⟩ := List.exists_cons_of_ne_nil some
  have length := congrArg List.length bytes
  have := Utf8.length_encodeChar_pos c
  rw [Utf8.encodeChars_cons, List.length_append, decode, List.length_nil] at length
  omega

/-- A character of the set that is no percent sign, digit or letter does not occur. -/
theorem notMem_encode {c : Char} (coded : set c = true) (percent : c ≠ '%')
    (mark : c.isAlphanum = false) (cs : List Char) : c ∉ encode set cs := by
  intro mem
  obtain ⟨d, -, mem⟩ := List.mem_flatMap.mp mem
  by_cases other : set d = true
  · rw [encodeChar, if_pos other] at mem
    obtain ⟨b, -, mem⟩ := List.mem_flatMap.mp mem
    exact notMem_encodeByte percent mark b mem
  · rw [encodeChar, if_neg other, List.mem_singleton] at mem
    exact other (mem ▸ coded)

theorem slash_notMem_encode (slash : set '/' = true) (cs : List Char) :
    '/' ∉ encode set cs :=
  notMem_encode slash (by decide) (by decide) cs

end Percent

/-! ## Dots -/

namespace Url.Path

open Percent

variable {set : EncodeSet}

theorem dotCount?_encodeByte_append {b : UInt8} (h : b.toNat ≠ 0x2E) (rest : List Char) :
    dotCount? (encodeByte b ++ rest) = none := by
  have bound : b.toNat < 256 := b.toNat_lt
  have notDot : ∀ digit, digit = 'e' ∨ digit = 'E' →
      ¬ (hexDigit (b.toNat / 16) = '2' ∧ hexDigit (b.toNat % 16) = digit) := by
    rintro digit either ⟨two, last⟩
    have high := eq_of_hexDigit_eq_two (by omega) two
    have low := eq_of_hexDigit_eq_e (by omega) (last ▸ either)
    omega
  show dotCount? ('%' :: hexDigit (b.toNat / 16) :: hexDigit (b.toNat % 16) :: rest) = none
  rw [dotCount?.eq_def]
  split
  case h_1 same => cases same
  case h_2 same => cases same
  case h_3 same =>
    simp only [List.cons.injEq] at same
    exact absurd ⟨same.2.1, same.2.2.1⟩ (notDot _ (.inl rfl))
  case h_4 same =>
    simp only [List.cons.injEq] at same
    exact absurd ⟨same.2.1, same.2.2.1⟩ (notDot _ (.inr rfl))
  case h_5 => rfl

theorem dotCount?_cons_of_ne {c : Char} (dot : c ≠ '.') (percent : c ≠ '%') (rest : List Char) :
    dotCount? (c :: rest) = none := by
  rw [dotCount?.eq_def]
  split <;> simp_all

theorem dotCount?_encodeChar_append (percent : set '%' = true) {c : Char} (h : c ≠ '.')
    (rest : List Char) : dotCount? (encodeChar set c ++ rest) = none := by
  by_cases coded : set c = true
  · rw [encodeChar, if_pos coded]
    obtain ⟨b, more, bytes⟩ := List.exists_cons_of_length_pos (Utf8.length_encodeChar_pos c)
    rw [bytes, List.flatMap_cons, List.append_assoc]
    refine dotCount?_encodeByte_append (fun code => h ?_) _
    have same := Utf8.toNat_eq_of_mem_encodeChar (c := c) (by simp [bytes]) (show b.toNat < 0x80 by omega)
    exact Char.toNat_inj.mp (same.trans code)
  · rw [encodeChar, if_neg coded]
    refine dotCount?_cons_of_ne h ?_ rest
    rintro rfl
    exact coded percent

/-- **What is encoded is made of dots only if it was.** -/
theorem dotCount?_encode_eq_some_iff (percent : set '%' = true) (dot : set '.' = false)
    {cs : List Char} {n : ℕ} :
    dotCount? (encode set cs) = some n ↔ cs = List.replicate n '.' := by
  induction cs generalizing n with
  | nil => cases n <;> simp [dotCount?, List.replicate_succ]
  | cons c cs ih =>
    rw [encode_cons]
    by_cases same : c = '.'
    · subst same
      rw [encodeChar, dot, if_neg Bool.false_ne_true]
      cases n with
      | zero => simp [dotCount?]
      | succ n => simpa [dotCount?, List.replicate_succ] using ih
    · rw [dotCount?_encodeChar_append percent same]
      cases n <;> simp [List.replicate_succ, same]

end Url.Path

end EngineClient
