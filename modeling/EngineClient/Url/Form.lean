import EngineClient.Url.Percent

/-!
# Form-encoded queries

Key-value pairs as `key=value` joined by `&`, a space written as `+`. `Form.decode` reads pairs
back as bytes; empty pieces between separators are passed over.
-/

namespace EngineClient.Form

/-! ## Encoding -/

/-- The characters that stand for themselves. -/
def isPlain (c : Char) : Bool :=
  c.isAlphanum || c == '*' || c == '-' || c == '.' || c == '_'

/-- A character of a key or a value. -/
def encodeChar (c : Char) : List Char :=
  if isPlain c then [c]
  else if c = ' ' then ['+']
  else (Utf8.encodeChar c).flatMap Percent.encodeByte

/-- A key or a value. -/
def encodePart (s : String) : List Char :=
  s.toList.flatMap encodeChar

/-- A pair. -/
def encodePair (pair : String × String) : List Char :=
  encodePart pair.1 ++ '=' :: encodePart pair.2

/-- Adds a pair to a query, behind a separator unless the query is empty. -/
def append (query : List Char) (pair : String × String) : List Char :=
  if query.isEmpty then encodePair pair else query ++ '&' :: encodePair pair

/-! ## Decoding -/

/-- The pieces between separators. -/
def pieces : List Char → List (List Char)
  | [] => [[]]
  | c :: cs =>
    match pieces cs with
    | [] => [[c]]
    | piece :: others => if c = '&' then [] :: piece :: others else (c :: piece) :: others

/-- The bytes of a key or a value. -/
def decodePart (cs : List Char) : Bytes :=
  Percent.decode (cs.map fun c => if c = '+' then ' ' else c)

/-- The pair of a piece: the key ends at the first equals sign, or with the piece. -/
def decodePair (piece : List Char) : Bytes × Bytes :=
  (decodePart (piece.takeWhile (· ≠ '=')), decodePart ((piece.dropWhile (· ≠ '=')).drop 1))

/-- The pairs of a query. -/
def decode (query : List Char) : List (Bytes × Bytes) :=
  ((pieces query).filter (! ·.isEmpty)).map decodePair

end EngineClient.Form
