/-!
# Texts and filler in TOML

Basic texts have escapes, literal ones do not; both come on one line or on several. What is read is
given back together with the rest of the input; a text that is not well formed has no reading.
-/

namespace EngineClient.Toml

/-- Reads a value off the front of the input. -/
abbrev Reads (α : Type) := List Char → Option (α × List Char)

/-! ## Filler -/

/-- A space or a tab. -/
def isSpace (c : Char) : Bool :=
  c == ' ' || c == '\t'

/-- Skips spaces and tabs. -/
def skipSpace (cs : List Char) : List Char :=
  cs.dropWhile isSpace

/-- Whether a character may stand in a comment or a text. -/
def isAllowed (c : Char) : Bool :=
  c == '\t' || (0x20 ≤ c.toNat && c.toNat ≠ 0x7F)

/-- Skips spaces, line breaks and comments; `inComment` tells whether one has begun. -/
def skipFiller (inComment : Bool) : List Char → Option (List Char)
  | [] => some []
  | '\n' :: cs => skipFiller false cs
  | '\r' :: '\n' :: cs => skipFiller false cs
  | c :: cs =>
    if inComment then
      if isAllowed c then skipFiller true cs else none
    else if isSpace c then skipFiller false cs
    else if c = '#' then skipFiller true cs
    else some (c :: cs)

/-- Skips the rest of a line, which has nothing but a comment, and the line break. -/
def endLine (inComment : Bool) : List Char → Option (List Char)
  | [] => some []
  | '\n' :: cs => some cs
  | '\r' :: '\n' :: cs => some cs
  | c :: cs =>
    if inComment then
      if isAllowed c then endLine true cs else none
    else if isSpace c then endLine false cs
    else if c = '#' then endLine true cs
    else none

/-! ## Escapes -/

/-- The value of a hexadecimal digit of either case. -/
def hexValue? (c : Char) : Option Nat :=
  if c.isDigit then some (c.toNat - 0x30)
  else if 'a' ≤ c ∧ c ≤ 'f' then some (c.toNat - 0x61 + 10)
  else if 'A' ≤ c ∧ c ≤ 'F' then some (c.toNat - 0x41 + 10)
  else none

/-- The character with a code of so many hexadecimal digits. -/
def codedChar (count : Nat) : Reads Char := fun cs => do
  let digits := cs.take count
  if digits.length < count then none
  let code ← digits.foldlM (fun n c => return n * 16 + (← hexValue? c)) 0
  if 0xD800 ≤ code ∧ code ≤ 0xDFFF ∨ 0x110000 ≤ code then none
  return (Char.ofNat code, cs.drop count)

/-- The character that an escape stands for, after its backslash. -/
def escape : Reads Char
  | 'b' :: cs => some ('\x08', cs)
  | 't' :: cs => some ('\t', cs)
  | 'n' :: cs => some ('\n', cs)
  | 'f' :: cs => some ('\x0c', cs)
  | 'r' :: cs => some ('\r', cs)
  | 'e' :: cs => some ('\x1b', cs)
  | '"' :: cs => some ('"', cs)
  | '\\' :: cs => some ('\\', cs)
  | 'x' :: cs => codedChar 2 cs
  | 'u' :: cs => codedChar 4 cs
  | 'U' :: cs => codedChar 8 cs
  | _ => none

/-- Skips spaces and line breaks. -/
def skipBlank : List Char → List Char
  | [] => []
  | '\n' :: cs => skipBlank cs
  | '\r' :: '\n' :: cs => skipBlank cs
  | c :: cs => if isSpace c then skipBlank cs else c :: cs

/-- Skips white space and line breaks after a backslash at the end of a line. -/
def skipFold? (cs : List Char) : Option (List Char) :=
  match skipSpace cs with
  | '\n' :: rest | '\r' :: '\n' :: rest => some (skipBlank rest)
  | _ => none

/-! ## Texts -/

/-- A text on one line after its opening quote. The fuel is at least the length of the input;
`held` has the characters so far, last first. -/
def line (quote : Char) (escapes : Bool) : Nat → List Char → Reads String
  | 0, _, _ => none
  | _, _, [] => none
  | fuel + 1, held, c :: cs =>
    if c = quote then some (String.ofList held.reverse, cs)
    else if escapes ∧ c = '\\' then do
      let (e, cs) ← escape cs
      line quote escapes fuel (e :: held) cs
    else if isAllowed c then line quote escapes fuel (c :: held) cs
    else none

/-- A text on several lines after its opening quotes. Line breaks stand as they are written, and up
to two quotes may stand right before the three that close it. -/
def lines (quote : Char) (escapes : Bool) : Nat → List Char → Reads String
  | 0, _, _ => none
  | _, _, [] => none
  | fuel + 1, held, c :: cs =>
    if c = quote then
      let count := min 5 ((c :: cs).takeWhile (· = quote)).length
      let rest := (c :: cs).drop count
      if 3 ≤ count then
        some (String.ofList (List.replicate (count - 3) quote ++ held).reverse, rest)
      else lines quote escapes fuel (List.replicate count quote ++ held) rest
    else if escapes ∧ c = '\\' then
      match skipFold? cs with
      | some rest => lines quote escapes fuel held rest
      | none => do
        let (e, cs) ← escape cs
        lines quote escapes fuel (e :: held) cs
    else if c = '\n' then lines quote escapes fuel (c :: held) cs
    else if c = '\r' then
      match cs with
      | '\n' :: rest => lines quote escapes fuel ('\n' :: c :: held) rest
      | _ => none
    else if isAllowed c then lines quote escapes fuel (c :: held) cs
    else none

/-- Drops a line break right after the opening quotes. -/
def dropBreak : List Char → List Char
  | '\n' :: cs => cs
  | '\r' :: '\n' :: cs => cs
  | cs => cs

/-- A text with its quotes, on one line. -/
def lineText : Reads String
  | '"' :: cs => line '"' true cs.length [] cs
  | '\x27' :: cs => line '\x27' false cs.length [] cs
  | _ => none

/-- A text with its quotes. -/
def text : Reads String
  | '"' :: '"' :: '"' :: cs => lines '"' true cs.length [] (dropBreak cs)
  | '\x27' :: '\x27' :: '\x27' :: cs => lines '\x27' false cs.length [] (dropBreak cs)
  | cs => lineText cs

/-! ## Keys -/

/-- Whether a character may stand in a key without quotes. -/
def isBare (c : Char) : Bool :=
  c.isAlphanum || c == '_' || c == '-'

/-- One part of a key. -/
def keyPart : Reads String
  | [] => none
  | c :: cs =>
    if isBare c then
      some (String.ofList ((c :: cs).takeWhile isBare), (c :: cs).dropWhile isBare)
    else lineText (c :: cs)

/-- Parts of a key joined by dots, with spaces around them. The fuel is at least the length of the
input. -/
def keyParts : Nat → Reads (List String)
  | 0, _ => none
  | fuel + 1, cs => do
    let (part, rest) ← keyPart (skipSpace cs)
    match skipSpace rest with
    | '.' :: rest =>
      let (parts, rest) ← keyParts fuel rest
      return (part :: parts, rest)
    | rest => return ([part], rest)

/-- How many parts a key may have. -/
def maxKeyParts : Nat := 80

/-- A key of one or more parts. -/
def key : Reads (List String) := fun cs =>
  (keyParts cs.length cs).filter fun (parts, _) => parts.length ≤ maxKeyParts

end EngineClient.Toml
