import EngineClient.Url.Percent
import EngineClient.Url.Scheme

/-!
# Paths of URLs

A path is encoded text, which has a root or has none, as in `mailto:someone`. A path with a root is
written segment by segment: `Path.Draft.add` appends a segment to the slash that the text ends with,
and resolves those made of dots. A drive of local files is never left by dots, whatever the scheme.
-/

namespace EngineClient.Url

/-- The path of a URL. -/
inductive Path where
  /-- Encoded text that starts with a slash or is empty. -/
  | rooted (text : String)
  /-- Encoded text without a root. -/
  | rootless (text : String)
  deriving DecidableEq

/-- A path as it stands in a URL. -/
def Path.chars : Path → List Char
  | .rooted text | .rootless text => text.toList

namespace Path

/-! ## Drives -/

/-- Whether a text is the name of a drive, such as `C:` or `C|`. -/
def isDrive : List Char → Bool
  | [letter, mark] => letter.isAlpha && (mark == ':' || mark == '|')
  | _ => false

/-- Whether a text starts with the name of a drive. -/
def startsWithDrive (cs : List Char) : Bool :=
  isDrive (cs.take 2) && (cs.drop 2).head?.all (['/', '\\', '?', '#'].contains ·)

/-- The letter of a drive and what stands behind it, if a tab or a line break comes between. -/
def cutDrive? (cs : List Char) : Option (Char × List Char) :=
  match cs.dropWhile isBreak with
  | [] => none
  | letter :: cs =>
    match cs.dropWhile isBreak with
    | ':' :: c :: cs =>
      let rest := dropBreaks cs
      if letter.isAlpha ∧ isBreak c ∧ !rest.isEmpty then some (letter, rest) else none
    | _ => none

/-! ## Dots -/

/-- How many dots a segment is made of, each of which may be encoded. -/
def dotCount? : List Char → Option Nat
  | [] => some 0
  | '.' :: cs | '%' :: '2' :: 'e' :: cs | '%' :: '2' :: 'E' :: cs => (dotCount? cs).map (· + 1)
  | _ => none

/-- What two dots lead to: a text without its last segment, which a slash ends. The text is held
last character first. The root and a drive stay. -/
def parent (held : List Char) : List Char :=
  let earlier := held.drop 1
  let segment := (earlier.takeWhile (· ≠ '/')).reverse
  let front := earlier.dropWhile (· ≠ '/')
  if front.isEmpty ∨ startsWithDrive segment then held else front

/-! ## Segments -/

/-- A path that is being written. -/
structure Draft where
  /-- The text so far, last character first. -/
  held : List Char
  /-- Whether a drive was written at the root of a file path. -/
  hasDrive : Bool

namespace Draft

/-- The start of a path. -/
def ofText (text : List Char) : Draft :=
  ⟨text.reverse, false⟩

/-- The text so far. -/
def text (draft : Draft) : List Char :=
  draft.held.reverse

/-- Writes a text as it is. -/
def write (draft : Draft) (text : List Char) : Draft :=
  { draft with held := text.reverse ++ draft.held }

/-- Adds a segment, which is given as it was before it was encoded, and its ending: a slash or
nothing. A drive at the root of a file path is written with a colon; a break behind its name ends
it. -/
def add (draft : Draft) (scheme : String) (set : Percent.EncodeSet) (raw ending : List Char) :
    Draft :=
  let atRoot : Bool := scheme = fileScheme ∧ draft.held = ['/']
  match if atRoot then cutDrive? raw else none with
  | some (letter, rest) => draft.write ([letter, ':', '/'] ++ Percent.encode set rest ++ ending)
  | none =>
    let segment := Percent.encode set (dropBreaks raw)
    match dotCount? segment with
    | some 1 => draft
    | some 2 => { draft with held := parent draft.held }
    | _ =>
      if atRoot ∧ isDrive segment then
        { draft.write (segment.take 1 ++ ':' :: ending) with hasDrive := true }
      else draft.write (segment ++ ending)

/-- Leaves one slash at the root of a file path. -/
def trimRoot (draft : Draft) (scheme : String) : Draft :=
  if scheme = fileScheme then
    { draft with held := ('/' :: draft.text.dropWhile (· = '/')).reverse }
  else draft

end Draft

end Path

end EngineClient.Url
