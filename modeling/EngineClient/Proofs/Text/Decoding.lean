import EngineClient.Proofs.Text.Utf8

/-!
# Bytes that are text

**`Utf8.decode_eq_ok_iff`**: the decoder accepts the bytes of texts and no others, so each text has
one form in bytes. A step of the decoder takes exactly the bytes of the character that it reads:
overlong forms, surrogates and numbers past the last code point are refused by what may follow a
first byte.
-/

namespace EngineClient.Utf8

variable {a b c d : UInt8}

theorem isContinuation_eq_true_iff :
    isContinuation b = true ↔ 0x80 ≤ b.toNat ∧ b.toNat < 0xC0 := by
  simp [isContinuation]

theorem toNat_ofNat_of_valid {n : ℕ} (valid : n.isValidChar) : (Char.ofNat n).toNat = n := by
  rw [Char.ofNat, dif_pos valid]
  rfl

theorem ofNat_eq_byte {n : ℕ} (h : n = b.toNat) : UInt8.ofNat n = b := by
  rw [h, UInt8.ofNat_toNat]

/-! ## The character of a form -/

theorem encodeChar_one (high : a.toNat < 0x80) : encodeChar (Char.ofNat a.toNat) = [a] := by
  have code := toNat_ofNat_of_valid (show a.toNat.isValidChar from .inl (by omega))
  rw [encodeChar_of_lt (by rw [code]; exact high), code, UInt8.ofNat_toNat]

theorem encodeChar_two (low : 0xC2 ≤ a.toNat) (high : a.toNat < 0xE0)
    (second : isContinuation b = true) :
    encodeChar (Char.ofNat ((a.toNat - 0xC0) * 64 + (b.toNat - 0x80))) = [a, b] := by
  rw [isContinuation_eq_true_iff] at second
  generalize shown : (a.toNat - 0xC0) * 64 + (b.toNat - 0x80) = n
  have code := toNat_ofNat_of_valid (show n.isValidChar from .inl (by omega))
  rw [encodeChar, code]
  simp only [if_neg (show ¬n < 0x80 by omega), if_pos (show n < 0x800 by omega)]
  rw [ofNat_eq_byte (show 0xC0 + n / 64 = a.toNat by omega),
    ofNat_eq_byte (show 0x80 + n % 64 = b.toNat by omega)]

theorem encodeChar_three (low : 0xE0 ≤ a.toNat) (high : a.toNat < 0xF0)
    (second : isSecondOfThree a b = true) (third : isContinuation c = true) :
    encodeChar (Char.ofNat
      ((a.toNat - 0xE0) * 4096 + (b.toNat - 0x80) * 64 + (c.toNat - 0x80))) = [a, b, c] := by
  simp only [isSecondOfThree, Bool.and_eq_true, Bool.or_eq_true, bne_iff_ne, decide_eq_true_eq,
    isContinuation_eq_true_iff] at second third
  generalize shown : (a.toNat - 0xE0) * 4096 + (b.toNat - 0x80) * 64 + (c.toNat - 0x80) = n
  have valid : n.isValidChar := by
    unfold Nat.isValidChar
    omega
  have code := toNat_ofNat_of_valid valid
  rw [encodeChar, code]
  simp only [if_neg (show ¬n < 0x80 by omega), if_neg (show ¬n < 0x800 by omega),
    if_pos (show n < 0x10000 by omega)]
  rw [ofNat_eq_byte (show 0xE0 + n / 4096 = a.toNat by omega),
    ofNat_eq_byte (show 0x80 + n / 64 % 64 = b.toNat by omega),
    ofNat_eq_byte (show 0x80 + n % 64 = c.toNat by omega)]

theorem encodeChar_four (low : 0xF0 ≤ a.toNat) (high : a.toNat < 0xF5)
    (second : isSecondOfFour a b = true) (third : isContinuation c = true)
    (fourth : isContinuation d = true) :
    encodeChar (Char.ofNat ((a.toNat - 0xF0) * 262144 + (b.toNat - 0x80) * 4096
      + (c.toNat - 0x80) * 64 + (d.toNat - 0x80))) = [a, b, c, d] := by
  simp only [isSecondOfFour, Bool.and_eq_true, Bool.or_eq_true, bne_iff_ne, decide_eq_true_eq,
    isContinuation_eq_true_iff] at second third fourth
  generalize shown : (a.toNat - 0xF0) * 262144 + (b.toNat - 0x80) * 4096
    + (c.toNat - 0x80) * 64 + (d.toNat - 0x80) = n
  have valid : n.isValidChar := by
    unfold Nat.isValidChar
    omega
  have code := toNat_ofNat_of_valid valid
  rw [encodeChar, code]
  simp only [if_neg (show ¬n < 0x80 by omega), if_neg (show ¬n < 0x800 by omega),
    if_neg (show ¬n < 0x10000 by omega)]
  rw [ofNat_eq_byte (show 0xF0 + n / 262144 = a.toNat by omega),
    ofNat_eq_byte (show 0x80 + n / 4096 % 64 = b.toNat by omega),
    ofNat_eq_byte (show 0x80 + n / 64 % 64 = c.toNat by omega),
    ofNat_eq_byte (show 0x80 + n % 64 = d.toNat by omega)]

/-! ## Whole sequences -/

/-- A character that was read stands in front of the rest as its form did. -/
theorem encodeChars_reverse_cons {x : Char} {form : Bytes} (formed : encodeChar x = form)
    (done : List Char) (rest : Bytes) :
    encodeChars (x :: done).reverse ++ rest = encodeChars done.reverse ++ (form ++ rest) := by
  rw [List.reverse_cons, encodeChars_append, encodeChars_cons, encodeChars_nil, formed,
    List.append_nil, List.append_assoc]

/-- What the decoder returns has the bytes of what was read before and then those of the input. -/
theorem encodeChars_of_decodeFrom {pos : ℕ} {done cs : List Char} {bytes : Bytes}
    (read : decodeFrom pos done bytes = .ok cs) :
    encodeChars cs = encodeChars done.reverse ++ bytes := by
  -- the cases that go on take a form of one, two, three or four bytes; the others refuse
  fun_induction decodeFrom pos done bytes with
  | case1 pos done =>
    obtain rfl := Except.ok.inj read
    rw [List.append_nil]
  | case2 pos done a rest n high ih =>
    rw [ih read]
    exact encodeChars_reverse_cons (encodeChar_one high) done rest
  | case5 pos done a n _ low high b rest second ih =>
    rw [ih read]
    exact encodeChars_reverse_cons (encodeChar_two (Nat.not_lt.mp low) high second) done rest
  | case9 pos done a n _ _ low high b second c rest third code ih =>
    rw [ih read]
    exact encodeChars_reverse_cons (encodeChar_three (Nat.not_lt.mp low) high second third) done
      rest
  | case15 pos done a n _ _ _ low high b second c third d rest fourth code ih =>
    rw [ih read]
    exact encodeChars_reverse_cons
      (encodeChar_four (Nat.not_lt.mp low) high second third fourth) done rest
  | _ => cases read

/-- **Text and bytes determine each other.** -/
theorem decode_eq_ok_iff {bytes : Bytes} {s : String} :
    decode bytes = .ok s ↔ encode s = bytes := by
  constructor
  · intro read
    cases decoded : decodeChars bytes with
    | error fault =>
      rw [decode, decoded] at read
      cases read
    | ok cs =>
      rw [decode, decoded] at read
      obtain rfl := Except.ok.inj read
      rw [encode_ofList]
      exact encodeChars_of_decodeFrom decoded
  · rintro rfl
    exact decode_encode s

end EngineClient.Utf8
