import EngineClient.Text.Utf8
import Mathlib.Data.Char

/-!
# UTF-8 round trip

**`Utf8.decode_encode`**: the bytes of a text decode to the text, whatever its characters.

The decoder takes a character off the front of its input in one step, of which there is one for each
length of the form; the bytes of a character make it take just that step
(`decodeFrom_encodeChar`). The bytes of a character beyond ASCII are all beyond ASCII
(`le_of_mem_encodeChar`), so no part of such a character is ever taken for a quote, a backslash or a
line break.
-/

namespace EngineClient.Utf8

/-! ## Sequences of characters -/

@[simp] theorem encodeChars_nil : encodeChars [] = [] := rfl

@[simp] theorem encodeChars_cons (c : Char) (cs : List Char) :
    encodeChars (c :: cs) = encodeChar c ++ encodeChars cs := rfl

@[simp] theorem encodeChars_append (cs ds : List Char) :
    encodeChars (cs ++ ds) = encodeChars cs ++ encodeChars ds :=
  List.flatMap_append

@[simp] theorem encode_ofList (cs : List Char) : encode (String.ofList cs) = encodeChars cs := by
  rw [encode, String.toList_ofList]

/-! ## Steps of the decoder -/

section Steps

variable (pos : Nat) (done : List Char) {a b c d : UInt8} (rest : Bytes)

theorem decodeFrom_one (high : a.toNat < 0x80) :
    decodeFrom pos done (a :: rest) = decodeFrom (pos + 1) (Char.ofNat a.toNat :: done) rest := by
  rw [decodeFrom.eq_def]
  exact if_pos high

theorem decodeFrom_two (low : 0xC2 ≤ a.toNat) (high : a.toNat < 0xE0)
    (second : isContinuation b = true) :
    decodeFrom pos done (a :: b :: rest) =
      decodeFrom (pos + 2) (Char.ofNat ((a.toNat - 0xC0) * 64 + (b.toNat - 0x80)) :: done)
        rest := by
  rw [decodeFrom.eq_def]
  simp only [if_neg (show ¬a.toNat < 0x80 by omega), if_neg (show ¬a.toNat < 0xC2 by omega),
    if_pos high, if_pos second]

theorem decodeFrom_three (low : 0xE0 ≤ a.toNat) (high : a.toNat < 0xF0)
    (second : isSecondOfThree a b = true) (third : isContinuation c = true) :
    decodeFrom pos done (a :: b :: c :: rest) =
      decodeFrom (pos + 3)
        (Char.ofNat ((a.toNat - 0xE0) * 4096 + (b.toNat - 0x80) * 64 + (c.toNat - 0x80)) :: done)
        rest := by
  rw [decodeFrom.eq_def]
  simp only [if_neg (show ¬a.toNat < 0x80 by omega), if_neg (show ¬a.toNat < 0xC2 by omega),
    if_neg (show ¬a.toNat < 0xE0 by omega), if_pos high, if_pos second, if_pos third]

theorem decodeFrom_four (low : 0xF0 ≤ a.toNat) (high : a.toNat < 0xF5)
    (second : isSecondOfFour a b = true) (third : isContinuation c = true)
    (fourth : isContinuation d = true) :
    decodeFrom pos done (a :: b :: c :: d :: rest) =
      decodeFrom (pos + 4)
        (Char.ofNat ((a.toNat - 0xF0) * 262144 + (b.toNat - 0x80) * 4096 + (c.toNat - 0x80) * 64
          + (d.toNat - 0x80)) :: done)
        rest := by
  rw [decodeFrom.eq_def]
  simp only [if_neg (show ¬a.toNat < 0x80 by omega), if_neg (show ¬a.toNat < 0xC2 by omega),
    if_neg (show ¬a.toNat < 0xE0 by omega), if_neg (show ¬a.toNat < 0xF0 by omega), if_pos high,
    if_pos second, if_pos third, if_pos fourth]

end Steps

/-! ## The bytes of a character -/

theorem toNat_byte {n : Nat} (h : n < 256) : (UInt8.ofNat n).toNat = n :=
  UInt8.toNat_ofNat_of_lt' h

theorem encodeChar_of_lt {c : Char} (h : c.toNat < 0x80) :
    encodeChar c = [UInt8.ofNat c.toNat] := by
  rw [encodeChar, if_pos h]

/-- No character is a surrogate or lies past the last code point. -/
theorem toNat_range (c : Char) :
    c.toNat < 0xD800 ∨ (0xDFFF < c.toNat ∧ c.toNat < 0x110000) :=
  c.valid

theorem isContinuation_byte {n : Nat} (h : n < 64) :
    isContinuation (UInt8.ofNat (0x80 + n)) = true := by
  rw [isContinuation, toNat_byte (by omega)]
  simp only [Bool.and_eq_true, decide_eq_true_eq]
  omega

theorem length_encodeChar_pos (c : Char) : 0 < (encodeChar c).length := by
  unfold encodeChar
  grind

theorem le_of_mem_encodeChar {c : Char} (h : 0x80 ≤ c.toNat) {b : UInt8}
    (mem : b ∈ encodeChar c) : 0x80 ≤ b.toNat := by
  have range := toNat_range c
  simp only [encodeChar, if_neg (Nat.not_lt.mpr h)] at mem
  split at mem
  · simp only [List.mem_cons, List.not_mem_nil, or_false] at mem
    rcases mem with rfl | rfl <;> rw [toNat_byte (by omega)] <;> omega
  split at mem
  · simp only [List.mem_cons, List.not_mem_nil, or_false] at mem
    rcases mem with rfl | rfl | rfl <;> rw [toNat_byte (by omega)] <;> omega
  · simp only [List.mem_cons, List.not_mem_nil, or_false] at mem
    rcases mem with rfl | rfl | rfl | rfl <;> rw [toNat_byte (by omega)] <;> omega

/-! ## Round trip -/

/-- The decoder takes a character off the front of its input, whatever follows. -/
theorem decodeFrom_encodeChar (pos : Nat) (done : List Char) (c : Char) (rest : Bytes) :
    decodeFrom pos done (encodeChar c ++ rest) =
      decodeFrom (pos + (encodeChar c).length) (c :: done) rest := by
  have range := toNat_range c
  have last := isContinuation_byte (Nat.mod_lt c.toNat (show 0 < 64 by omega))
  have middle := isContinuation_byte (Nat.mod_lt (c.toNat / 64) (show 0 < 64 by omega))
  -- the length of the form tells which step of the decoder takes it
  unfold encodeChar
  by_cases one : c.toNat < 0x80
  · rw [if_pos one]
    have first := toNat_byte (show c.toNat < 256 by omega)
    refine (decodeFrom_one pos done rest (by omega)).trans ?_
    rw [first, Char.ofNat_toNat]
    rfl
  by_cases two : c.toNat < 0x800
  · rw [if_neg one, if_pos two]
    have first := toNat_byte (show 0xC0 + c.toNat / 64 < 256 by omega)
    have second := toNat_byte (show 0x80 + c.toNat % 64 < 256 by omega)
    refine (decodeFrom_two pos done rest (by omega) (by omega) last).trans ?_
    have code : (0xC0 + c.toNat / 64 - 0xC0) * 64 + (0x80 + c.toNat % 64 - 0x80) = c.toNat := by
      omega
    rw [first, second, code, Char.ofNat_toNat]
    rfl
  by_cases three : c.toNat < 0x10000
  · rw [if_neg one, if_neg two, if_pos three]
    have first := toNat_byte (show 0xE0 + c.toNat / 4096 < 256 by omega)
    have second := toNat_byte (show 0x80 + c.toNat / 64 % 64 < 256 by omega)
    have third := toNat_byte (show 0x80 + c.toNat % 64 < 256 by omega)
    -- the shortest form is never overlong, and a surrogate is not a character
    have follows : isSecondOfThree (UInt8.ofNat (0xE0 + c.toNat / 4096))
        (UInt8.ofNat (0x80 + c.toNat / 64 % 64)) = true := by
      simp only [isSecondOfThree, middle, first, second, Bool.true_and, Bool.and_eq_true,
        Bool.or_eq_true, bne_iff_ne, decide_eq_true_eq]
      omega
    refine (decodeFrom_three pos done rest (by omega) (by omega) follows last).trans ?_
    have code : (0xE0 + c.toNat / 4096 - 0xE0) * 4096 + (0x80 + c.toNat / 64 % 64 - 0x80) * 64
        + (0x80 + c.toNat % 64 - 0x80) = c.toNat := by
      omega
    rw [first, second, third, code, Char.ofNat_toNat]
    rfl
  · rw [if_neg one, if_neg two, if_neg three]
    have first := toNat_byte (show 0xF0 + c.toNat / 262144 < 256 by omega)
    have second := toNat_byte (show 0x80 + c.toNat / 4096 % 64 < 256 by omega)
    have third := toNat_byte (show 0x80 + c.toNat / 64 % 64 < 256 by omega)
    have fourth := toNat_byte (show 0x80 + c.toNat % 64 < 256 by omega)
    have follows : isSecondOfFour (UInt8.ofNat (0xF0 + c.toNat / 262144))
        (UInt8.ofNat (0x80 + c.toNat / 4096 % 64)) = true := by
      simp only [isSecondOfFour, isContinuation_byte (Nat.mod_lt (c.toNat / 4096) (show 0 < 64 by
        omega)), first, second, Bool.true_and, Bool.and_eq_true, Bool.or_eq_true, bne_iff_ne,
        decide_eq_true_eq]
      omega
    refine (decodeFrom_four pos done rest (by omega) (by omega) follows middle last).trans ?_
    have code : (0xF0 + c.toNat / 262144 - 0xF0) * 262144
        + (0x80 + c.toNat / 4096 % 64 - 0x80) * 4096 + (0x80 + c.toNat / 64 % 64 - 0x80) * 64
        + (0x80 + c.toNat % 64 - 0x80) = c.toNat := by
      omega
    rw [first, second, third, fourth, code, Char.ofNat_toNat]
    rfl

theorem decodeFrom_encodeChars (pos : Nat) (done cs : List Char) :
    decodeFrom pos done (encodeChars cs) = .ok (done.reverse ++ cs) := by
  induction cs generalizing pos done with
  | nil => rw [encodeChars_nil, decodeFrom, List.append_nil]
  | cons c cs ih =>
    rw [encodeChars_cons, decodeFrom_encodeChar, ih, List.reverse_cons, List.append_assoc]
    rfl

/-- **UTF-8 carries every text.** -/
theorem decode_encode (s : String) : decode (encode s) = .ok s := by
  rw [decode, decodeChars, encode, decodeFrom_encodeChars]
  exact congrArg Except.ok String.ofList_toList

/-- No two sequences of characters have the same bytes. -/
theorem encodeChars_injective {cs ds : List Char} (h : encodeChars cs = encodeChars ds) :
    cs = ds := by
  have decoded := decodeFrom_encodeChars 0 [] cs
  rw [h, decodeFrom_encodeChars] at decoded
  exact (Except.ok.inj decoded).symm

end EngineClient.Utf8
