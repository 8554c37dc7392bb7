/-!
# UTF-8

Text is `String`, what travels on the wire is `Bytes`. `encode` writes text as bytes and `decode`
reads it back. `decode` refuses at the first sequence that is not well formed and says where the
well-formed part ends and how many bytes the offending sequence has; a sequence that is merely cut
off by the end of the input has no length.
-/

namespace EngineClient

/-- A sequence of bytes, such as a response body. -/
abbrev Bytes := List UInt8

namespace Utf8

/-! ## Encoding -/

/-- The one to four bytes of a character. -/
def encodeChar (c : Char) : Bytes :=
  let n := c.toNat
  if n < 0x80 then
    [UInt8.ofNat n]
  else if n < 0x800 then
    [UInt8.ofNat (0xC0 + n / 64), UInt8.ofNat (0x80 + n % 64)]
  else if n < 0x10000 then
    [UInt8.ofNat (0xE0 + n / 4096), UInt8.ofNat (0x80 + n / 64 % 64), UInt8.ofNat (0x80 + n % 64)]
  else
    [UInt8.ofNat (0xF0 + n / 262144), UInt8.ofNat (0x80 + n / 4096 % 64),
      UInt8.ofNat (0x80 + n / 64 % 64), UInt8.ofNat (0x80 + n % 64)]

/-- The bytes of a sequence of characters. -/
def encodeChars (cs : List Char) : Bytes :=
  cs.flatMap encodeChar

/-- The bytes of a text. -/
def encode (s : String) : Bytes :=
  encodeChars s.toList

/-! ## Decoding -/

/-- Why and where bytes stop being UTF-8. -/
structure Fault where
  /-- How many bytes before the fault are well formed. -/
  validUpTo : Nat
  /-- Length of the offending sequence, absent when the input ends inside a sequence. -/
  badLength : Option Nat
  deriving DecidableEq

/-- The text shown for a fault. -/
def Fault.message (fault : Fault) : String :=
  match fault.badLength with
  | some length => s!"invalid utf-8 sequence of {length} bytes from index {fault.validUpTo}"
  | none => s!"incomplete utf-8 byte sequence from index {fault.validUpTo}"

/-- A byte that continues a sequence. -/
def isContinuation (b : UInt8) : Bool :=
  0x80 ≤ b.toNat && b.toNat < 0xC0

/-- Whether `b` may follow `a`, the first byte of a three-byte form: overlong forms and surrogates
are ruled out here. -/
def isSecondOfThree (a b : UInt8) : Bool :=
  isContinuation b && (a.toNat != 0xE0 || 0xA0 ≤ b.toNat) && (a.toNat != 0xED || b.toNat < 0xA0)

/-- Whether `b` may follow `a`, the first byte of a four-byte form: overlong forms and values past
the last code point are ruled out here. -/
def isSecondOfFour (a b : UInt8) : Bool :=
  isContinuation b && (a.toNat != 0xF0 || 0x90 ≤ b.toNat) && (a.toNat != 0xF4 || b.toNat < 0x90)

/-- Decodes from byte position `pos`; `done` holds the characters before it, last first. -/
def decodeFrom (pos : Nat) (done : List Char) : Bytes → Except Fault (List Char)
  | [] => .ok done.reverse
  | a :: rest =>
    let n := a.toNat
    if n < 0x80 then
      decodeFrom (pos + 1) (Char.ofNat n :: done) rest
    else if n < 0xC2 then
      .error ⟨pos, some 1⟩
    else if n < 0xE0 then
      match rest with
      | [] => .error ⟨pos, none⟩
      | b :: rest =>
        if isContinuation b then
          decodeFrom (pos + 2) (Char.ofNat ((n - 0xC0) * 64 + (b.toNat - 0x80)) :: done) rest
        else .error ⟨pos, some 1⟩
    else if n < 0xF0 then
      match rest with
      | [] => .error ⟨pos, none⟩
      | b :: rest =>
        if isSecondOfThree a b then
          match rest with
          | [] => .error ⟨pos, none⟩
          | c :: rest =>
            if isContinuation c then
              let code := (n - 0xE0) * 4096 + (b.toNat - 0x80) * 64 + (c.toNat - 0x80)
              decodeFrom (pos + 3) (Char.ofNat code :: done) rest
            else .error ⟨pos, some 2⟩
        else .error ⟨pos, some 1⟩
    else if n < 0xF5 then
      match rest with
      | [] => .error ⟨pos, none⟩
      | b :: rest =>
        if isSecondOfFour a b then
          match rest with
          | [] => .error ⟨pos, none⟩
          | c :: rest =>
            if isContinuation c then
              match rest with
              | [] => .error ⟨pos, none⟩
              | d :: rest =>
                if isContinuation d then
                  let code := (n - 0xF0) * 262144 + (b.toNat - 0x80) * 4096
                    + (c.toNat - 0x80) * 64 + (d.toNat - 0x80)
                  decodeFrom (pos + 4) (Char.ofNat code :: done) rest
                else .error ⟨pos, some 3⟩
            else .error ⟨pos, some 2⟩
        else .error ⟨pos, some 1⟩
    else .error ⟨pos, some 1⟩

/-- The characters of well-formed bytes. -/
def decodeChars (bytes : Bytes) : Except Fault (List Char) :=
  decodeFrom 0 [] bytes

/-- The text of well-formed bytes. -/
def decode (bytes : Bytes) : Except Fault String :=
  (decodeChars bytes).map String.ofList

end Utf8

end EngineClient
