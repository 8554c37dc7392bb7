import EngineClient.DomainName.Marks

/-!
# Composed characters

A letter with marks can be written in several ways. `compose` brings text to the one where marks
stand in the order of their classes and where each mark that makes one character with its letter is
joined to it. It is meant for mapped text.
-/

namespace EngineClient.DomainName

/-! ## Syllables of Hangul -/

/-- The first syllable; 28 share their first two parts. -/
def firstSyllable : Nat := 0xAC00

/-- The number of syllables: 19 leading consonants, 21 vowels and 28 endings, one of them empty. -/
def syllableCount : Nat := 19 * 21 * 28

/-- The code point before the first ending. -/
def noEnding : Nat := 0x11A7

/-- The parts of a syllable. -/
def splitSyllable (c : Char) : List Char :=
  let index := c.toNat - firstSyllable
  let ending := if index % 28 = 0 then [] else [Char.ofNat (noEnding + index % 28)]
  Char.ofNat (0x1100 + index / 28 / 21) :: Char.ofNat (0x1161 + index / 28 % 21) :: ending

/-- The syllable that a consonant makes with a vowel, or an open syllable with an ending. -/
def joinSyllable? (base part : Char) : Option Char :=
  let b := base.toNat
  let p := part.toNat
  if 0x1100 ≤ b ∧ b < 0x1100 + 19 ∧ 0x1161 ≤ p ∧ p < 0x1161 + 21 then
    some (Char.ofNat (firstSyllable + ((b - 0x1100) * 21 + (p - 0x1161)) * 28))
  else if firstSyllable ≤ b ∧ b < firstSyllable + syllableCount ∧ (b - firstSyllable) % 28 = 0
      ∧ noEnding < p ∧ p < noEnding + 28 then
    some (Char.ofNat (b + (p - noEnding)))
  else none

/-! ## Taking apart -/

/-- A composed character without its last mark, and the mark; a syllable in its parts. -/
def split (c : Char) : List Char :=
  if firstSyllable ≤ c.toNat ∧ c.toNat < firstSyllable + syllableCount then splitSyllable c
  else
    match composedChars.find? fun (_, _, whole) => whole = c with
    | some (base, mark, _) => [base, mark]
    | none => [c]

/-- Text with all marks apart; a composed character has at most two. -/
def decompose (cs : List Char) : List Char :=
  (cs.flatMap split).flatMap split

/-! ## Order -/

/-- Puts a mark behind the marks of lower classes that follow it. -/
def putMark (c : Char) : List Char → List Char
  | [] => [c]
  | d :: ds =>
    if 0 < markClass d ∧ markClass d < markClass c then d :: putMark c ds else c :: d :: ds

/-- Text with the marks behind each letter in the order of their classes. -/
def orderMarks (cs : List Char) : List Char :=
  cs.foldr putMark []

/-! ## Joining -/

/-- What two characters make together. -/
def joined? (base mark : Char) : Option Char :=
  joinSyllable? base mark <|>
    (composedChars.find? fun (b, m, _) => b = base ∧ m = mark).map fun (_, _, whole) => whole

/-- Joins to a letter what can be; `passed` are the marks that cannot. A mark reaches the letter
only past marks of lower classes. -/
def joinTo (base : Char) (passed : List Char) : List Char → List Char
  | [] => base :: passed
  | c :: cs =>
    let reachesBase := passed.getLast?.all (markClass · < markClass c)
    match if reachesBase then joined? base c else none with
    | some whole => joinTo whole passed cs
    | none =>
      if markClass c = 0 then base :: passed ++ joinTo c [] cs
      else joinTo base (passed ++ [c]) cs

/-- Text with the marks joined to the letters before them. -/
def joinMarks (cs : List Char) : List Char :=
  let isMarked (c : Char) : Bool := markClass c ≠ 0
  let start := cs.takeWhile isMarked
  match cs.dropWhile isMarked with
  | [] => start
  | base :: rest => start ++ joinTo base [] rest

/-- Text in its composed form. Text in ASCII has no marks. -/
def compose (cs : List Char) : List Char :=
  if cs.all (·.toNat < 0x80) then cs else joinMarks (orderMarks (decompose cs))

end EngineClient.DomainName
