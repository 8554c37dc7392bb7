import EngineClient.Text.Utf8

/-!
# Percent encoding

An encode set says which ASCII characters are written as `%XX`; characters past ASCII always are,
byte by byte. `Percent.decode` reads such text back as bytes; a percent sign that two hexadecimal
digits do not follow stands for itself.
-/

namespace EngineClient.Percent

/-! ## Encode sets -/

/-- The characters that are written as `%XX`. -/
abbrev EncodeSet := Char → Bool

/-- Control characters, and everything past ASCII. -/
def controls : EncodeSet := fun c =>
  c.toNat < 0x20 || 0x7F ≤ c.toNat

/-- A set with further characters. -/
def EncodeSet.with (set : EncodeSet) (more : List Char) : EncodeSet := fun c =>
  set c || more.contains c

/-- For fragments. -/
def fragmentSet : EncodeSet := EncodeSet.with controls [' ', '"', '<', '>', '\x60']

/-- For queries. -/
def querySet : EncodeSet := EncodeSet.with controls [' ', '"', '#', '<', '>']

/-- For queries of the well-known schemes. -/
def specialQuerySet : EncodeSet := EncodeSet.with querySet ['\x27']

/-- For paths as they are read. -/
def pathSet : EncodeSet := EncodeSet.with fragmentSet ['#', '?', '{', '}']

/-- For segments added to a path: a slash or a percent sign in a segment is data. -/
def segmentSet : EncodeSet := EncodeSet.with pathSet ['/', '%']

/-- For segments added to the path of a well-known scheme, where a backslash separates, too. -/
def specialSegmentSet : EncodeSet := EncodeSet.with segmentSet ['\\']

/-- For user names and passwords. -/
def userinfoSet : EncodeSet :=
  EncodeSet.with pathSet ['/', ':', ';', '=', '@', '[', '\\', ']', '^', '|']

/-! ## Encoding -/

/-- An upper-case hexadecimal digit. -/
def hexDigit (n : Nat) : Char :=
  (Nat.digitChar n).toUpper

/-- A byte as `%XX`. -/
def encodeByte (b : UInt8) : List Char :=
  ['%', hexDigit (b.toNat / 16), hexDigit (b.toNat % 16)]

/-- A character, encoded if it is in the set. -/
def encodeChar (set : EncodeSet) (c : Char) : List Char :=
  if set c then (Utf8.encodeChar c).flatMap encodeByte else [c]

/-- A text with the characters of the set encoded. -/
def encode (set : EncodeSet) (cs : List Char) : List Char :=
  cs.flatMap (encodeChar set)

/-! ## Decoding -/

/-- The value of a hexadecimal digit of either case. -/
def hexValue? (c : Char) : Option Nat :=
  let n := c.toNat
  if 0x30 ≤ n ∧ n ≤ 0x39 then some (n - 0x30)
  else if 0x41 ≤ n ∧ n ≤ 0x46 then some (n - 0x41 + 10)
  else if 0x61 ≤ n ∧ n ≤ 0x66 then some (n - 0x61 + 10)
  else none

/-- The bytes that a percent-encoded text stands for. -/
def decode : List Char → Bytes
  | [] => []
  | '%' :: a :: b :: rest =>
    match hexValue? a, hexValue? b with
    | some high, some low => UInt8.ofNat (high * 16 + low) :: decode rest
    | _, _ => UInt8.ofNat '%'.toNat :: decode (a :: b :: rest)
  | c :: rest => Utf8.encodeChar c ++ decode rest

end EngineClient.Percent
