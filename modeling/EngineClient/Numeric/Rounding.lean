/-!
# Rounding to the nearest whole number

`roundHalfEven num den` is the whole number nearest to `num / den`; of two that are equally near it
is the even one.
-/

namespace EngineClient

/-- The whole number nearest to `num / den`, the even one on a tie. -/
def roundHalfEven (num den : Nat) : Nat :=
  let whole := num / den
  let twice := 2 * (num % den)
  if twice < den then whole
  else if den < twice then whole + 1
  else whole + whole % 2

end EngineClient
