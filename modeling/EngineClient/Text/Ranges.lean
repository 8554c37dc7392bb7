/-!
# Ranges of code points

A class of characters is a list of closed ranges of code points.
-/

namespace EngineClient.Text

/-- Whether a number lies in one of the closed ranges. -/
def inRanges (ranges : List (Nat × Nat)) (n : Nat) : Bool :=
  ranges.any fun (first, last) => first ≤ n && n ≤ last

end EngineClient.Text
