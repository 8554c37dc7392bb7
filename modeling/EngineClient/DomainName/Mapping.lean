import EngineClient.DomainName.Letters
import EngineClient.DomainName.Words
import EngineClient.Text.Blank
import EngineClient.Text.Ranges
import EngineClient.Text.Unassigned

/-!
# Mapping of domain names

What a character stands for in a domain name: capitals for small letters, symbols for the words they
show, and some for nothing at all. A name that has a refused character is no domain name. The rules
are those of version 17 of Unicode.
-/

namespace EngineClient.DomainName

/-! ## Tables -/

/-- The characters that no domain name may have, beside those that are not assigned. -/
def refusedRanges : List (Nat × Nat) :=
  [
    (0x80, 0x9F), (0x600, 0x605), (0x61C, 0x61C), (0x6DD, 0x6DD), (0x70F, 0x70F), (0x890, 0x891),
    (0x8E2, 0x8E2), (0x1680, 0x1680), (0x200E, 0x200F), (0x2024, 0x2026), (0x2028, 0x202E),
    (0x2066, 0x2069), (0x2488, 0x249B), (0x2FF0, 0x2FFF), (0x31EF, 0x31EF), (0x33C2, 0x33C2),
    (0x33C7, 0x33C7), (0x33D8, 0x33D8), (0xFE12, 0xFE12), (0xFE19, 0xFE19), (0xFE30, 0xFE30),
    (0xFE52, 0xFE52), (0xFFF9, 0xFFFD), (0x110BD, 0x110BD), (0x110CD, 0x110CD), (0x13430, 0x1343F),
    (0x1F100, 0x1F100), (0xE0001, 0xE0001), (0xE0020, 0xE007F)]

/-- The characters that are left out. -/
def droppedRanges : List (Nat × Nat) :=
  [
    (0xAD, 0xAD), (0x34F, 0x34F), (0x115F, 0x1160), (0x17B4, 0x17B5), (0x180B, 0x180F),
    (0x200B, 0x200B), (0x2060, 0x2064), (0x206A, 0x206F), (0x3164, 0x3164), (0xFE00, 0xFE0F),
    (0xFEFF, 0xFEFF), (0xFFA0, 0xFFA0), (0x1BCA0, 0x1BCA3), (0x1D173, 0x1D17A), (0xE0100, 0xE01EF)]

/-- The last run that starts at a code point or before it, and the distance from its start; the
starts ascend. -/
def runAt? (runs : List (Nat × String)) (n : Nat) : Option (List Char × Nat) :=
  (runs.takeWhile (·.1 ≤ n)).getLast?.map fun (first, run) => (run.toList, n - first)

/-- What a character at a fixed distance from its plain form stands for. -/
def shifted? (n : Nat) : Option (List Char) :=
  (shiftedRanges.find? fun (first, last, _) => first ≤ n && n ≤ last).map fun (_, _, distance) =>
    [Char.ofNat (n + distance).toNat]

/-- What a character that stands for one other stands for. -/
def letter? (n : Nat) : Option (List Char) := do
  let (letters, position) ← runAt? letterRuns n
  return [← letters[position]?]

/-- What a character that stands for several others stands for. -/
def word? (n : Nat) : Option (List Char) := do
  let (words, position) ← runAt? wordRuns n
  (Text.piecesOf '|' words)[position]?

/-! ## Mapping -/

/-- What a character stands for; a refused one for nothing that a name may have. -/
def mapChar? (c : Char) : Option (List Char) :=
  let n := c.toNat
  if n < 0x80 then some [c.toLower]
  else if Text.isUnassigned c || Text.inRanges refusedRanges n then none
  else if Text.inRanges droppedRanges n then some []
  else some ((shifted? n <|> letter? n <|> word? n).getD [c])

/-- The characters that a name stands for, if none is refused. -/
def mapped? (name : List Char) : Option (List Char) :=
  (name.mapM mapChar?).map List.flatten

end EngineClient.DomainName
