import EngineClient.Json.Basic
import EngineClient.Numeric.Decimal

/-!
# Writing JSON

The compact form: no white space, fields in the order they are held. A text escapes the quote, the
backslash and the characters below the space and nothing else, so no line break ever occurs in the
output. A float has at least one digit on each side of its point, and an exponent from `1e+16`
upwards and below `0.00001`.
-/

namespace EngineClient.Json

/-! ## Numbers and texts -/

/-- Digits of a float: around the point from `0.00001` up to `10 ^ 16`, else with an exponent. -/
def floatLayout (d : Decimal) : List Char :=
  let point := d.pointPosition
  if -5 < point ∧ point ≤ 16 then d.positional else d.scientific

/-- An integer in decimal digits. -/
def integerChars (n : Int) : List Char :=
  if n < 0 then '-' :: Decimal.digitsOf n.natAbs else Decimal.digitsOf n.natAbs

/-- A number as it is written. -/
def Number.chars : Number → List Char
  | .integer n => integerChars n
  | .float x => x.format floatLayout

/-- A lower-case hexadecimal digit. -/
def hexDigit (n : Nat) : Char :=
  Nat.digitChar n

/-- A character as it stands inside a text. -/
def escapeChar (c : Char) : List Char :=
  if c = '"' then ['\\', '"']
  else if c = '\\' then ['\\', '\\']
  else if c.toNat = 0x08 then ['\\', 'b']
  else if c.toNat = 0x0C then ['\\', 'f']
  else if c = '\n' then ['\\', 'n']
  else if c = '\r' then ['\\', 'r']
  else if c = '\t' then ['\\', 't']
  else if c.toNat < 0x20 then
    ['\\', 'u', '0', '0', hexDigit (c.toNat / 16), hexDigit (c.toNat % 16)]
  else [c]

/-- A text between quotes. -/
def stringChars (s : String) : List Char :=
  '"' :: s.toList.flatMap escapeChar ++ ['"']

/-! ## Values -/

mutual

/-- A value as it is written. -/
def chars : Json → List Char
  | .null => ['n', 'u', 'l', 'l']
  | .bool true => ['t', 'r', 'u', 'e']
  | .bool false => ['f', 'a', 'l', 's', 'e']
  | .number n => n.chars
  | .string s => stringChars s
  | .array [] => ['[', ']']
  | .array (item :: items) => '[' :: item.chars ++ itemsChars items
  | .object [] => ['{', '}']
  | .object (field :: fields) => '{' :: fieldChars field ++ fieldsChars fields
termination_by structural value => value

/-- The items after the first, and the closing bracket. -/
def itemsChars : List Json → List Char
  | [] => [']']
  | item :: items => ',' :: item.chars ++ itemsChars items
termination_by structural items => items

/-- The fields after the first, and the closing brace. -/
def fieldsChars : List (String × Json) → List Char
  | [] => ['}']
  | field :: fields => ',' :: fieldChars field ++ fieldsChars fields
termination_by structural fields => fields

/-- One field. -/
def fieldChars : String × Json → List Char
  | (key, value) => stringChars key ++ ':' :: value.chars
termination_by structural field => field

end

/-- The text of a value. -/
def text (value : Json) : String :=
  String.ofList value.chars

end EngineClient.Json
