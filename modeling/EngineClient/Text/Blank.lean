/-!
# White space, trimming and splitting

White space is the Unicode property of that name: 25 characters, among them the no-break space and
the ideographic space, but not the zero-width space. Functions on `List Char` carry the rules and
the functions on `String` wrap them.
-/

namespace EngineClient.Text

/-! ## White space -/

/-- The code points with the property `White_Space`, as closed ranges. -/
def blankRanges : List (Nat × Nat) :=
  [(0x09, 0x0D), (0x20, 0x20), (0x85, 0x85), (0xA0, 0xA0), (0x1680, 0x1680), (0x2000, 0x200A),
    (0x2028, 0x2029), (0x202F, 0x202F), (0x205F, 0x205F), (0x3000, 0x3000)]

/-- Whether a character is white space. -/
def isBlank (c : Char) : Bool :=
  blankRanges.any fun (first, last) => first ≤ c.toNat && c.toNat ≤ last

/-- Removes white space at the front. -/
def trimLeft (cs : List Char) : List Char :=
  cs.dropWhile isBlank

/-- Removes white space at both ends. -/
def trimChars (cs : List Char) : List Char :=
  (trimLeft (trimLeft cs).reverse).reverse

/-- A text without the white space at its ends. -/
def trim (s : String) : String :=
  String.ofList (trimChars s.toList)

/-- Whether a text has nothing but white space. -/
def isBlankText (s : String) : Bool :=
  s.toList.all isBlank

/-! ## Splitting -/

/-- The pieces between occurrences of a separator: one more than there are separators. -/
def piecesOf (separator : Char) : List Char → List (List Char)
  | [] => [[]]
  | c :: cs =>
    match piecesOf separator cs with
    | [] => [[c]]
    | piece :: pieces => if c = separator then [] :: piece :: pieces else (c :: piece) :: pieces

/-- The trimmed pieces between occurrences of a separator, without those that are blank. -/
def words (separator : Char) (s : String) : List String :=
  ((piecesOf separator s.toList).map trimChars).filter (! ·.isEmpty) |>.map String.ofList

end EngineClient.Text
