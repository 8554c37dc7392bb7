import EngineClient.Json.Printer
import EngineClient.Json.Reader
import EngineClient.Proofs.Text.Utf8

/-!
# Reading integers back

**`Json.Reader.number_digitsOf`**: the decimal digits of an integer are read as that integer, if it
has a place in 64 bits, and the reader stops behind the last digit.

What follows must not go on with the number (`EndsNumber`), or the reader would take it for further
digits, a fraction or an exponent. In the text of a value only the end of the input, a comma, a
bracket or a brace follows a number.
-/

namespace EngineClient.Json.Reader

open Utf8 Decimal

theorem ok_bind {ε α β : Type} (a : α) (f : α → Except ε β) : (Except.ok a >>= f) = f a := rfl

/-! ## Ends of numbers -/

/-- No number goes on at the front of the input. -/
def EndsNumber (s : Bytes) : Prop :=
  ∀ b ∈ s.head?, isDigit b = false ∧ b ≠ code '.' ∧ b ≠ code 'e' ∧ b ≠ code 'E'

theorem endsNumber_nil : EndsNumber [] := by
  intro b mem
  cases mem

theorem endsNumber_cons {b : UInt8} {s : Bytes} :
    EndsNumber (b :: s) ↔
      isDigit b = false ∧ b ≠ code '.' ∧ b ≠ code 'e' ∧ b ≠ code 'E' := by
  unfold EndsNumber
  simp

section Ends

variable {s : Bytes} (ends : EndsNumber s)
include ends

theorem takeWhile_of_endsNumber : s.takeWhile isDigit = [] := by
  cases s with
  | nil => rfl
  | cons b s => rw [List.takeWhile_cons_of_neg (by rw [(endsNumber_cons.mp ends).1]; decide)]

theorem dropWhile_of_endsNumber : s.dropWhile isDigit = s := by
  cases s with
  | nil => rfl
  | cons b s => rw [List.dropWhile_cons_of_neg (by rw [(endsNumber_cons.mp ends).1]; decide)]

theorem fractionDigits_of_endsNumber : fractionDigits s = .ok (none, s) := by
  cases s with
  | nil => rfl
  | cons b s => rw [fractionDigits, if_neg (endsNumber_cons.mp ends).2.1]

theorem exponent_of_endsNumber : exponent s = .ok (none, s) := by
  cases s with
  | nil => rfl
  | cons b s =>
    obtain ⟨-, -, small, large⟩ := endsNumber_cons.mp ends
    unfold exponent
    exact if_neg (not_or.mpr ⟨small, large⟩)

end Ends

/-! ## Digits -/

theorem toNat_code_of_isDigit {c : Char} (digit : c.isDigit = true) :
    (code c).toNat = c.toNat ∧ 0x30 ≤ c.toNat ∧ c.toNat ≤ 0x39 := by
  obtain ⟨low, high⟩ := Char.isDigit_iff_toNat.mp digit
  exact ⟨toNat_byte (Nat.lt_of_le_of_lt high (by decide)), low, high⟩

theorem isDigit_code {c : Char} (digit : c.isDigit = true) : isDigit (code c) = true := by
  obtain ⟨value, low, high⟩ := toNat_code_of_isDigit digit
  rw [isDigit, value, decide_eq_true low, decide_eq_true high]
  rfl

theorem ne_of_isDigit {b : UInt8} (digit : isDigit b = true) {c : UInt8}
    (other : isDigit c = false) : b ≠ c := by
  rintro rfl
  exact absurd digit (by rw [other]; decide)

theorem isSpace_of_isDigit {b : UInt8} (digit : isDigit b = true) : isSpace b = false := by
  have ne : ∀ c, isDigit c = false → (b == c) = false := fun c other =>
    beq_eq_false_iff_ne.mpr (ne_of_isDigit digit other)
  rw [isSpace, ne 0x20 rfl, ne 0x09 rfl, ne 0x0A rfl, ne 0x0D rfl]
  rfl

theorem encodeChars_of_isDigit {cs : List Char} (digits : ∀ c ∈ cs, c.isDigit = true) :
    encodeChars cs = cs.map code := by
  induction cs with
  | nil => rfl
  | cons c cs ih =>
    obtain ⟨first, others⟩ := List.forall_mem_cons.mp digits
    obtain ⟨-, -, high⟩ := toNat_code_of_isDigit first
    rw [encodeChars_cons, encodeChar_of_lt (by omega), ih others]
    rfl

theorem isDigit_of_mem_digitsOf {n : Nat} {c : Char} (mem : c ∈ digitsOf n) : c.isDigit = true :=
  Nat.isDigit_of_mem_toDigits (by decide) (by decide) mem

theorem exists_encodeChars_digitsOf (n : Nat) :
    ∃ b s, encodeChars (digitsOf n) = b :: s ∧ isDigit b = true := by
  obtain ⟨c, cs, digits⟩ := List.exists_cons_of_ne_nil (Nat.toDigits_ne_nil (b := 10) (n := n))
  have first : c ∈ digitsOf n := by
    rw [digitsOf, digits]
    exact List.mem_cons_self
  refine ⟨code c, cs.map code, ?_, isDigit_code (isDigit_of_mem_digitsOf first)⟩
  rw [encodeChars_of_isDigit fun c mem => isDigit_of_mem_digitsOf mem, digitsOf, digits]
  rfl

/-- No zero leads the digits of a number other than zero. -/
theorem head?_digitsOf {n : Nat} (h : 0 < n) : (digitsOf n).head? ≠ some '0' := by
  induction n using Nat.base_induction 10 (by decide) with
  | single m small =>
    rw [digitsOf, Nat.toDigits_of_lt_base small, List.head?_cons]
    revert m
    decide
  | digit m k small pos ih =>
    -- the digits of `10 * m + k` start with those of `m`
    obtain ⟨c, cs, digits⟩ := List.exists_cons_of_ne_nil (Nat.toDigits_ne_nil (b := 10) (n := m))
    have front := ih pos
    rw [digitsOf, digits] at front
    rw [digitsOf, ← Nat.toDigits_append_toDigits (by decide) pos small, digits]
    exact front

/-! ## Reading digits -/

section Digits

variable {ds rest : Bytes} (all : ∀ b ∈ ds, isDigit b = true) (ends : EndsNumber rest)
include all ends

theorem digits_append (ne : ds ≠ []) : digits (ds ++ rest) = .ok (ds, rest) := by
  obtain ⟨b, bs, rfl⟩ := List.exists_cons_of_ne_nil ne
  have first : isDigit b = true := all b List.mem_cons_self
  unfold digits
  rw [List.cons_append]
  simp only [first, if_true]
  rw [← List.cons_append, List.takeWhile_append_of_pos all, List.dropWhile_append_of_pos all,
    takeWhile_of_endsNumber ends, dropWhile_of_endsNumber ends, List.append_nil]

theorem wholeDigits_append (ne : ds ≠ [])
    (lead : ds.head? = some (code '0') → ds.length = 1) :
    wholeDigits (ds ++ rest) = .ok (ds, rest) := by
  rw [wholeDigits, digits_append all ends ne]
  match ds, lead with
  | [], _ => exact absurd rfl ne
  | [b], _ => rfl
  | b :: c :: bs, lead =>
    have first : b ≠ code '0' := by
      rintro rfl
      exact absurd (lead rfl) (by simp)
    exact if_neg first

/-- A number without fraction and exponent is what `numberOf?` makes of its digits. -/
theorem number_append (ne : ds ≠ []) (lead : ds.head? = some (code '0') → ds.length = 1)
    {negative : Bool} {n : Number} (value : numberOf? negative ds none none = some n) :
    number negative (ds ++ rest) = .ok (.number n, rest) := by
  have whole := wholeDigits_append all ends ne lead
  have fraction := fractionDigits_of_endsNumber ends
  have exponent := exponent_of_endsNumber ends
  simp only [number, whole, fraction, exponent, value, ok_bind]
  rfl

end Digits

/-! ## Values of digits -/

theorem le_ofDigitChars (cs : List Char) (front : Nat) : front ≤ Nat.ofDigitChars 10 cs front := by
  rw [Nat.ofDigitChars_eq_ofDigitChars_zero]
  exact Nat.le_trans (Nat.le_mul_of_pos_left _ (Nat.pow_pos (by decide))) (Nat.le_add_right _ _)

/-- Digits whose value fits into 64 bits all count. -/
theorem significand_map_code {cs : List Char} (digits : ∀ c ∈ cs, c.isDigit = true) {front : Nat}
    (fits : Nat.ofDigitChars 10 cs front < UInt64.size) :
    significand front (cs.map code) = (Nat.ofDigitChars 10 cs front, cs.length) := by
  induction cs generalizing front with
  | nil => rfl
  | cons c cs ih =>
    obtain ⟨first, others⟩ := List.forall_mem_cons.mp digits
    have value : front * 10 + ((code c).toNat - 0x30) = 10 * front + (c.toNat - '0'.toNat) := by
      rw [(toNat_code_of_isDigit first).1, Nat.mul_comm]
      rfl
    rw [Nat.ofDigitChars_cons] at fits ⊢
    -- what is read so far is at most the whole, so this digit still fits
    have step := Nat.lt_of_le_of_lt (le_ofDigitChars cs _) fits
    rw [List.map_cons, significand]
    simp only [value, if_pos step, ih others fits, List.length_cons]

theorem numberOf?_digitsOf {n : Nat} (fits : n < UInt64.size) {negative : Bool}
    (sign : negative = true → 0 < n ∧ n ≤ 0x8000000000000000) :
    numberOf? negative ((digitsOf n).map code) none none =
      some (.integer (if negative then -(n : Int) else n)) := by
  have value : Nat.ofDigitChars 10 (digitsOf n) 0 = n := Nat.ofDigitChars_ten_toDigits
  have read : significand 0 ((digitsOf n).map code) =
      (Nat.ofDigitChars 10 (digitsOf n) 0, (digitsOf n).length) :=
    significand_map_code (fun c mem => isDigit_of_mem_digitsOf mem) (value.symm ▸ fits)
  rw [value] at read
  simp only [numberOf?, read, List.length_map, Option.isNone_none, BEq.rfl, Bool.and_self,
    true_and]
  rw [if_pos sign]

/-- **An integer is read back**, behind its sign. -/
theorem number_digitsOf {n : Nat} (fits : n < UInt64.size) {negative : Bool}
    (sign : negative = true → 0 < n ∧ n ≤ 0x8000000000000000) {rest : Bytes}
    (ends : EndsNumber rest) :
    number negative (encodeChars (digitsOf n) ++ rest) =
      .ok (.int (if negative then -(n : Int) else n), rest) := by
  rw [encodeChars_of_isDigit fun c mem => isDigit_of_mem_digitsOf mem]
  have all : ∀ b ∈ (digitsOf n).map code, isDigit b = true := by
    intro b mem
    obtain ⟨c, digit, rfl⟩ := List.mem_map.mp mem
    exact isDigit_code (isDigit_of_mem_digitsOf digit)
  have ne : (digitsOf n).map code ≠ [] := by
    rw [Ne, List.map_eq_nil_iff]
    exact Nat.toDigits_ne_nil
  have lead : ((digitsOf n).map code).head? = some (code '0') →
      ((digitsOf n).map code).length = 1 := by
    intro h
    rcases Nat.eq_zero_or_pos n with rfl | pos
    · rfl
    · rw [List.head?_map, Option.map_eq_some_iff] at h
      obtain ⟨c, head, same⟩ := h
      have digit := isDigit_of_mem_digitsOf (List.mem_of_mem_head? head)
      have value : c.toNat = '0'.toNat :=
        (toNat_code_of_isDigit digit).1.symm.trans (congrArg UInt8.toNat same)
      rw [Char.toNat_inj.mp value] at head
      exact absurd head (head?_digitsOf pos)
  exact number_append all ends ne lead (numberOf?_digitsOf fits sign)

end EngineClient.Json.Reader
