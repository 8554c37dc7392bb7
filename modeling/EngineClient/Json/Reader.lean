import EngineClient.Json.Basic
import EngineClient.Numeric.Scaling
import EngineClient.Text.Utf8

/-!
# Reading JSON

`Json.parse` reads the bytes of one value, strictly: white space is space, tab, line feed and
carriage return; nothing may follow the value; arrays and objects nest at most 127 deep. The first
failure counts, and it is either the end of the input inside a value or anything else.

A text is checked to be UTF-8 at its closing quote. A number that is too large to be a float is
malformed; an integer too large for 64 bits is read as a float, and so is `-0`. Floats are read from
their first digits, as many as fit into 64 bits, by `Binary64.scaled?`.
-/

namespace EngineClient.Json

/-- Why bytes are not JSON. -/
inductive ReadError where
  /-- The input ends inside a value, or has none. -/
  | unexpectedEnd
  /-- Anything else that is not JSON. -/
  | malformed
  deriving DecidableEq

namespace Reader

/-- A value read off the front of the input, and the rest of the input. -/
abbrev Read (α : Type) := α × Bytes

/-- Reads a value off the front of the input. -/
abbrev Reads (α : Type) := Bytes → Except ReadError (Read α)

/-- The code of an ASCII character. -/
def code (c : Char) : UInt8 :=
  UInt8.ofNat c.toNat

/-- White space between tokens. -/
def isSpace (b : UInt8) : Bool :=
  b == 0x20 || b == 0x09 || b == 0x0A || b == 0x0D

/-- Skips white space. -/
def skipSpace (s : Bytes) : Bytes :=
  s.dropWhile isSpace

/-- Whether a byte is a decimal digit. -/
def isDigit (b : UInt8) : Bool :=
  0x30 ≤ b.toNat && b.toNat ≤ 0x39

/-- Reads the letters of a fixed word. -/
def word (value : Json) : List Char → Reads Json
  | [], s => .ok (value, s)
  | _ :: _, [] => .error .unexpectedEnd
  | c :: cs, b :: s => if b = code c then word value cs s else .error .malformed

/-! ## Texts -/

/-- The byte a one-letter escape stands for. -/
def escaped? (b : UInt8) : Option UInt8 :=
  if b = code '"' then some 0x22
  else if b = code '\\' then some 0x5C
  else if b = code '/' then some 0x2F
  else if b = code 'b' then some 0x08
  else if b = code 'f' then some 0x0C
  else if b = code 'n' then some 0x0A
  else if b = code 'r' then some 0x0D
  else if b = code 't' then some 0x09
  else none

/-- The value of a hexadecimal digit of either case. -/
def hexValue? (b : UInt8) : Option Nat :=
  let n := b.toNat
  if 0x30 ≤ n ∧ n ≤ 0x39 then some (n - 0x30)
  else if 0x41 ≤ n ∧ n ≤ 0x46 then some (n - 0x41 + 10)
  else if 0x61 ≤ n ∧ n ≤ 0x66 then some (n - 0x61 + 10)
  else none

/-- The value of four hexadecimal digits. -/
def codeUnit? (a b c d : UInt8) : Option Nat := do
  return (((← hexValue? a) * 16 + (← hexValue? b)) * 16 + (← hexValue? c)) * 16 + (← hexValue? d)

/-- Whether a code unit opens a surrogate pair. -/
def isLeading (n : Nat) : Bool :=
  0xD800 ≤ n && n ≤ 0xDBFF

/-- Whether a code unit closes a surrogate pair. -/
def isTrailing (n : Nat) : Bool :=
  0xDC00 ≤ n && n ≤ 0xDFFF

/-- Puts the bytes of a character in front of bytes that are held last first. -/
def pushChar (n : Nat) (held : Bytes) : Bytes :=
  (Utf8.encodeChar (Char.ofNat n)).reverse ++ held

/-- The text whose bytes are held last first. -/
def finish (held : Bytes) (s : Bytes) : Except ReadError (Read String) :=
  match Utf8.decode held.reverse with
  | .ok text => .ok (text, s)
  | .error _ => .error .malformed

/-- Reads a text after its opening quote; `held` has the bytes so far, last first. -/
def string (held : Bytes) : Reads String
  | [] => .error .unexpectedEnd
  | b :: s =>
    if b = code '"' then
      finish held s
    else if b = code '\\' then
      match s with
      | [] => .error .unexpectedEnd
      | e :: s =>
        match escaped? e with
        | some byte => string (byte :: held) s
        | none =>
          if e = code 'u' then
            match s with
            | h₁ :: h₂ :: h₃ :: h₄ :: s =>
              match codeUnit? h₁ h₂ h₃ h₄ with
              | none => .error .malformed
              | some unit =>
                if isTrailing unit then .error .malformed
                else if isLeading unit then
                  match s with
                  | [] => .error .unexpectedEnd
                  | [b] => if b = code '\\' then .error .unexpectedEnd else .error .malformed
                  | b :: e :: s =>
                    if b = code '\\' ∧ e = code 'u' then
                      match s with
                      | h₁ :: h₂ :: h₃ :: h₄ :: s =>
                        match codeUnit? h₁ h₂ h₃ h₄ with
                        | none => .error .malformed
                        | some second =>
                          if isTrailing second then
                            let n := (unit - 0xD800) * 1024 + (second - 0xDC00) + 0x10000
                            string (pushChar n held) s
                          else .error .malformed
                      | _ => .error .unexpectedEnd
                    else .error .malformed
                else string (pushChar unit held) s
            | _ => .error .unexpectedEnd
          else .error .malformed
    else if b.toNat < 0x20 then
      .error .malformed
    else
      string (b :: held) s

/-! ## Numbers -/

/-- The value of decimal digits. -/
def digitsValue (digits : Bytes) : Nat :=
  digits.foldl (fun n b => n * 10 + (b.toNat - 0x30)) 0

/-- One or more digits. -/
def digits (s : Bytes) : Except ReadError (Read Bytes) :=
  match s with
  | [] => .error .unexpectedEnd
  | b :: _ =>
    if isDigit b then .ok (s.takeWhile isDigit, s.dropWhile isDigit) else .error .malformed

/-- The digits before the point: no zero leads another digit. -/
def wholeDigits (s : Bytes) : Except ReadError (Read Bytes) := do
  let (ds, rest) ← digits s
  match ds with
  | b :: _ :: _ => if b = code '0' then .error .malformed else .ok (ds, rest)
  | _ => .ok (ds, rest)

/-- The digits after a point, if there is one. -/
def fractionDigits : Reads (Option Bytes)
  | [] => .ok (none, [])
  | b :: s =>
    if b = code '.' then do
      let (ds, rest) ← digits s
      return (some ds, rest)
    else .ok (none, b :: s)

/-- The value of an exponent, if there is one. -/
def exponent : Reads (Option Int)
  | [] => .ok (none, [])
  | b :: s =>
    if b = code 'e' ∨ b = code 'E' then
      match s with
      | [] => .error .unexpectedEnd
      | sign :: s => do
        if sign = code '-' then
          let (ds, rest) ← digits s
          return (some (-(digitsValue ds : Int)), rest)
        else
          let (ds, rest) ← digits (if sign = code '+' then s else sign :: s)
          return (some (digitsValue ds), rest)
    else .ok (none, b :: s)

/-- Adds digits to a significand as long as it fits into 64 bits, and counts them. -/
def significand (front : Nat) : Bytes → Nat × Nat
  | [] => (front, 0)
  | b :: digits =>
    let longer := front * 10 + (b.toNat - 0x30)
    if longer < UInt64.size then
      let (all, count) := significand longer digits
      (all, count + 1)
    else (front, 0)

/-- The number with these parts, unless it is too large. A float has the digits that fit into 64
bits, brought to their place. -/
def numberOf? (negative : Bool) (whole : Bytes) (fraction : Option Bytes) (exponent : Option Int) :
    Option Number :=
  let (front, count) := significand 0 whole
  let isInteger := fraction.isNone && exponent.isNone && count == whole.length
  if isInteger ∧ (negative → 0 < front ∧ front ≤ 0x8000000000000000) then
    some (.integer (if negative then -(front : Int) else front))
  else
    let (all, more) := significand front (fraction.getD [])
    let place : Int := (whole.length - count : Nat) - more + exponent.getD 0
    (Binary64.scaled? negative all place).map .float

/-- Reads a number after its sign. -/
def number (negative : Bool) (s : Bytes) : Except ReadError (Read Json) := do
  let (whole, s) ← wholeDigits s
  let (fraction, s) ← fractionDigits s
  let (exponent, s) ← exponent s
  match numberOf? negative whole fraction exponent with
  | some n => return (.number n, s)
  | none => .error .malformed

/-! ## Values -/

/-- The items of an array after its opening bracket, of which there is at least one. The fuel is
not less than the length of the input. -/
def items (inner : Reads Json) : Nat → Reads (List Json)
  | 0, _ => .error .malformed
  | fuel + 1, s => do
    let (item, s) ← inner s
    match skipSpace s with
    | [] => .error .unexpectedEnd
    | b :: s =>
      if b = code ',' then do
        let (rest, s) ← items inner fuel s
        return (item :: rest, s)
      else if b = code ']' then return ([item], s)
      else .error .malformed

/-- The key of a field, up to and with the colon. -/
def key (s : Bytes) : Except ReadError (Read String) :=
  match skipSpace s with
  | [] => .error .unexpectedEnd
  | b :: s =>
    if b = code '"' then do
      let (name, s) ← string [] s
      match skipSpace s with
      | [] => .error .unexpectedEnd
      | b :: s => if b = code ':' then return (name, s) else .error .malformed
    else .error .malformed

/-- The fields of an object after its opening brace, of which there is at least one. The fuel is
not less than the length of the input. -/
def members (inner : Reads Json) : Nat → Reads (List (String × Json))
  | 0, _ => .error .malformed
  | fuel + 1, s => do
    let (name, s) ← key s
    let (item, s) ← inner s
    match skipSpace s with
    | [] => .error .unexpectedEnd
    | b :: s =>
      if b = code ',' then do
        let (rest, s) ← members inner fuel s
        return ((name, item) :: rest, s)
      else if b = code '}' then return ([(name, item)], s)
      else .error .malformed

/-- An array after its opening bracket. -/
def array (inner : Reads Json) (fuel : Nat) (s : Bytes) : Except ReadError (Read Json) :=
  match skipSpace s with
  | [] => .error .unexpectedEnd
  | b :: rest =>
    if b = code ']' then .ok (.array [], rest)
    else do
      let (found, s) ← items inner fuel (b :: rest)
      return (.array found, s)

/-- An object after its opening brace. -/
def object (inner : Reads Json) (fuel : Nat) (s : Bytes) : Except ReadError (Read Json) :=
  match skipSpace s with
  | [] => .error .unexpectedEnd
  | b :: rest =>
    if b = code '}' then .ok (.object [], rest)
    else do
      let (found, s) ← members inner fuel (b :: rest)
      return (.ofFields found, s)

/-- One value, in which arrays and objects nest at most `depth` deep. -/
def value (fuel : Nat) (depth : Nat) (s : Bytes) : Except ReadError (Read Json) :=
  match skipSpace s with
  | [] => .error .unexpectedEnd
  | b :: s =>
    if b = code '[' then
      match depth with
      | 0 => .error .malformed
      | depth + 1 => array (value fuel depth) fuel s
    else if b = code '{' then
      match depth with
      | 0 => .error .malformed
      | depth + 1 => object (value fuel depth) fuel s
    else if b = code '"' then do
      let (text, s) ← string [] s
      return (.string text, s)
    else if b = code 'n' then word .null ['u', 'l', 'l'] s
    else if b = code 't' then word (.bool true) ['r', 'u', 'e'] s
    else if b = code 'f' then word (.bool false) ['a', 'l', 's', 'e'] s
    else if b = code '-' then number true s
    else if isDigit b then number false (b :: s)
    else .error .malformed
termination_by structural depth

end Reader

/-- How deep arrays and objects may nest. -/
def maxDepth : Nat := 127

/-- Reads one value that makes up the whole input and nests at most `depth` deep. -/
def parseWithin (depth : Nat) (bytes : Bytes) : Except ReadError Json := do
  let (value, rest) ← Reader.value bytes.length depth bytes
  match Reader.skipSpace rest with
  | [] => return value
  | _ :: _ => .error .malformed

/-- Reads one value that makes up the whole input. -/
def parse (bytes : Bytes) : Except ReadError Json :=
  parseWithin maxDepth bytes

end EngineClient.Json
