import EngineClient.Numeric.Binary64

/-!
# Decimal text of binary numbers

Reading: `Binary64.ofDecimal?` is the number nearest to `± digits * 10 ^ exponent`. Writing:
`Binary64.shortest` chooses the fewest digits that read back, and of those the nearest to the
number. `Decimal.positional` and `Decimal.scientific` are the two ways to lay digits out.
-/

namespace EngineClient

namespace Binary64

/-! ## Reading -/

/-- How many decimal digits a number has; zero has none. -/
def digitCount (n : Nat) : Nat :=
  if n = 0 then 0 else (Nat.toDigits 10 n).length

/-- The number nearest to `± digits * 10 ^ exponent`, absent past the largest number. A value below
`10 ^ -330` is under half the smallest number and reads as zero, one of `10 ^ 310` or more is past
the largest; so no power outside that range has to be computed. -/
def ofDecimal? (negative : Bool) (digits : Nat) (exponent : Int) : Option Binary64 :=
  let scale : Int := digitCount digits + exponent
  if digits = 0 ∨ scale < -330 then some (zero negative)
  else if 311 ≤ scale then none
  else ofRatio? negative (digits * Nat.pow 10 exponent.toNat) (Nat.pow 10 (-exponent).toNat)

end Binary64

/-- The positive decimal number `digits * 10 ^ exponent`. -/
structure Decimal where
  digits : Nat
  /-- The power of ten that the last digit stands for. -/
  exponent : Int
  deriving DecidableEq

namespace Binary64

/-! ## The shortest digits that read back -/

/-- The numbers that round to `x`, as multiples of a quarter of its last place: the two ends, and
whether the ends themselves belong (they do when the mantissa is even). Below a power of two the
neighbours are twice as close. -/
def neighbourhood (x : Binary64) : Nat × Nat × Bool :=
  let m := x.mantissa
  let below := if m = 1 <<< 52 ∧ leastExponent < x.exponent then 1 else 2
  (4 * m - below, 4 * m + 2, m % 2 = 0)

/-- Looks for a multiple of `10 ^ k` that rounds to `x`, then of `10 ^ (k - 1)`, and so on. Of two
multiples around `x` the nearer is taken, the even one on a tie. -/
def shortestFrom (x : Binary64) : Nat → Int → Decimal
  | 0, k => ⟨0, k⟩
  | fuel + 1, k =>
    let (low, high, closed) := x.neighbourhood
    let place := x.exponent - 2
    -- `c * unit` compares with `y * quarter` as `c * 10 ^ k` with `y * 2 ^ place`
    let unit := Nat.pow 10 k.toNat <<< (-place).toNat
    let quarter := Nat.pow 10 (-k).toNat <<< place.toNat
    let reads (c : Nat) : Bool :=
      if closed then low * quarter ≤ c * unit && c * unit ≤ high * quarter
      else low * quarter < c * unit && c * unit < high * quarter
    let floor := 4 * x.mantissa * quarter / unit
    let nearest := roundHalfEven (4 * x.mantissa * quarter) unit
    let other := if nearest = floor then floor + 1 else floor
    if reads nearest then ⟨nearest, k⟩
    else if reads other then ⟨other, k⟩
    else shortestFrom x fuel (k - 1)

/-- The fewest digits that read back as the size of `x`, which is not zero. The search starts at a
power of ten above the number, and 17 digits are always enough. -/
def shortest (x : Binary64) : Decimal :=
  shortestFrom x 24 ((x.exponent + Nat.log2 x.mantissa + 1) * 30103 / 100000 + 2)

end Binary64

namespace Decimal

/-! ## Layout -/

/-- The decimal digits of a natural number. -/
def digitsOf (n : Nat) : List Char :=
  Nat.toDigits 10 n

/-- Where the decimal point stands, counted from the front of the digits. -/
def pointPosition (d : Decimal) : Int :=
  (digitsOf d.digits).length + d.exponent

/-- All digits around the point, at least one on each side. -/
def positional (d : Decimal) : List Char :=
  let digits := digitsOf d.digits
  let point := d.pointPosition
  if 0 ≤ d.exponent then
    digits ++ List.replicate d.exponent.toNat '0' ++ ['.', '0']
  else if 0 < point then
    digits.take point.toNat ++ '.' :: digits.drop point.toNat
  else
    ['0', '.'] ++ List.replicate (-point).toNat '0' ++ digits

/-- One digit before the point, the others behind it, and a signed exponent. -/
def scientific (d : Decimal) : List Char :=
  let exponent := d.pointPosition - 1
  let sign := if exponent < 0 then '-' else '+'
  let mantissa :=
    match digitsOf d.digits with
    | [] => ['0']
    | [first] => [first]
    | first :: others => first :: '.' :: others
  mantissa ++ 'e' :: sign :: digitsOf exponent.natAbs

end Decimal

namespace Binary64

/-- Sign and digits of a number, where `layout` places the digits of one that is not zero. -/
def format (layout : Decimal → List Char) (x : Binary64) : List Char :=
  let body := if x.mantissa = 0 then ['0', '.', '0'] else layout x.shortest
  if x.negative then '-' :: body else body

end Binary64

end EngineClient
