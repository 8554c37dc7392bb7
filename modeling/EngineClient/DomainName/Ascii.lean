import EngineClient.DomainName.Composition
import EngineClient.DomainName.Direction
import EngineClient.DomainName.Joining
import EngineClient.DomainName.Mapping
import EngineClient.DomainName.Punycode

/-!
# Domain names in ASCII

`DomainName.toAscii?` brings a name to the form in which it is looked up: mapped, composed, and with
the labels that are not ASCII in Punycode behind `xn--`. A label that comes in Punycode is checked
as if its text had been given.
-/

namespace EngineClient.DomainName

/-! ## Text -/

/-- Whether a character is ASCII. -/
def isAscii (c : Char) : Bool := c.toNat < 0x80

/-- A name as it is shown: mapped and composed, if no character is refused. -/
def shown? (name : List Char) : Option (List Char) :=
  (mapped? name).map compose

/-- The characters that no host may have. -/
def isDenied (c : Char) : Bool :=
  c.toNat ≤ 0x20 || c.toNat == 0x7F
    || ['#', '/', ':', '<', '>', '?', '@', '[', '\\', ']', '^', '|', '%'].contains c

/-! ## Labels -/

/-- What a label in Punycode starts with. -/
def codeMark : List Char := ['x', 'n', '-', '-']

/-- The longest code that is read. -/
def maxCodeLength : Nat := 2000

/-- The longest label that is written in Punycode. -/
def maxTextLength : Nat := 1000

/-- Reads a code, which stands for text in its final form. -/
def ofCode? (code : List Char) : Option (List Char) :=
  if code.isEmpty ∨ code.getLast? = some '-' ∨ !code.all isAscii ∨ maxCodeLength < code.length then
    none
  else
    (Punycode.decode? code).filter fun text =>
      shown? text = some text && !text.any fun c => isDenied c || c == '.'

/-- The text of a label. -/
def labelText? (label : List Char) : Option (List Char) :=
  if codeMark.isPrefixOf label then ofCode? (label.drop codeMark.length) else some label

/-- Whether the text of a label starts with no mark and has joiners only where they may stand. -/
def isWellFormed (text : List Char) : Bool :=
  !text.head?.any Text.isMark && joinersAllowed [] text

/-- A label in ASCII. -/
def asciiLabel? (label : List Char) : Option (List Char) :=
  if label.all isAscii then some label
  else if maxTextLength < label.length then none
  else some (codeMark ++ Punycode.encode label)

/-! ## Names -/

/-- The labels of a name that is shown, in ASCII. If a character runs from right to left, all labels
have to keep to one direction. -/
def asciiLabels? (labels : List (List Char)) : Option (List (List Char)) := do
  let texts ← labels.mapM labelText?
  let runsLeft := !texts.any (·.any runsRight)
  if texts.all isWellFormed ∧ (runsLeft ∨ texts.all isWellDirected) then
    labels.mapM asciiLabel?
  else none

/-- A name in ASCII. ASCII without Punycode is there already. -/
def toAscii? (name : List Char) : Option (List Char) := do
  let shown ← shown? name
  let labels := Text.piecesOf '.' shown
  if shown.any isDenied then none
  else if shown.all isAscii ∧ !labels.any codeMark.isPrefixOf then some shown
  else (asciiLabels? labels).map (['.'].intercalate ·)

end EngineClient.DomainName
