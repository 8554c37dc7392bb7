import EngineClient.Numeric.Rounding

/-!
# Binary floating point with 53 bits

`Binary64` is a finite number `± mantissa * 2 ^ exponent` of the 64-bit binary format, zero having
a sign. `value` is the rational number it denotes, and `ofRatio?` is the only place where anything is
rounded: to the nearest representable number, ties to the even mantissa. Sums, products and
quotients are the exact rational results, rounded once; whole parts and what is left of a number
without them need no rounding.

`Binary64.Word` adds what a 64-bit word can hold besides: the infinities and "not a number".
-/

namespace EngineClient

/-- A finite number `± mantissa * 2 ^ exponent`. -/
structure Binary64 where
  /-- Whether the sign bit is set; zero has a sign, too. -/
  negative : Bool
  /-- The significant bits, below `2 ^ 53`. -/
  mantissa : Nat
  /-- The power of two that the last bit of the mantissa stands for. -/
  exponent : Int
  deriving DecidableEq

namespace Binary64

/-! ## Range -/

/-- The exponent of the smallest numbers, and of zero. -/
def leastExponent : Int := -1074

/-- The exponent of the largest numbers. -/
def greatestExponent : Int := 971

/-- Zero with a sign. -/
def zero (negative : Bool) : Binary64 :=
  ⟨negative, 0, leastExponent⟩

/-- The size of the number as a fraction. -/
def magnitude (x : Binary64) : Nat × Nat :=
  (x.mantissa <<< x.exponent.toNat, 1 <<< (-x.exponent).toNat)

/-- The rational number denoted. -/
def value (x : Binary64) : Rat :=
  let (num, den) := x.magnitude
  mkRat (if x.negative then -(num : Int) else num) den

/-! ## Rounding -/

/-- The exponent of the last place of the numbers around `num / den`, which is positive. -/
def placeOf (num den : Nat) : Int :=
  let guess : Int := (Nat.log2 num : Int) - Nat.log2 den - 53
  let fits := num <<< (-(guess + 53)).toNat < den <<< (guess + 53).toNat
  max leastExponent (if fits then guess else guess + 1)

/-- The number nearest to `± num / den`, the one with the even mantissa on a tie; absent when that
is past the largest number. -/
def ofRatio? (negative : Bool) (num den : Nat) : Option Binary64 :=
  if num = 0 then
    some (zero negative)
  else
    let place := placeOf num den
    let mantissa := roundHalfEven (num <<< (-place).toNat) (den <<< place.toNat)
    let (mantissa, place) :=
      if mantissa = 1 <<< 53 then (1 <<< 52, place + 1) else (mantissa, place)
    if place ≤ greatestExponent then some ⟨negative, mantissa, place⟩ else none

/-- The number nearest to a rational one. -/
def ofRat? (q : Rat) : Option Binary64 :=
  ofRatio? (q < 0) q.num.natAbs q.den

/-- The number nearest to a whole one. -/
def ofInt? (n : Int) : Option Binary64 :=
  ofRatio? (n < 0) n.natAbs 1

/-- The largest number with a sign. -/
def greatest (negative : Bool) : Binary64 :=
  ⟨negative, (1 <<< 53) - 1, greatestExponent⟩

/-- The number nearest to a whole one. It is the largest if the whole one is past that, as no 64-bit
integer is. -/
def ofInt (n : Int) : Binary64 :=
  (ofInt? n).getD (greatest (n < 0))

/-! ## Arithmetic: the exact result, rounded once -/

/-- The rounded sum. -/
def add? (x y : Binary64) : Option Binary64 :=
  ofRat? (x.value + y.value)

/-- The rounded product. -/
def mul? (x y : Binary64) : Option Binary64 :=
  ofRat? (x.value * y.value)

/-- The rounded quotient by a number that is not zero. -/
def div? (x y : Binary64) : Option Binary64 :=
  ofRat? (x.value / y.value)

/-! ## Comparing -/

/-- Numbers compare as what they denote, so the two zeros are equal. -/
instance : LE Binary64 := ⟨fun x y => x.value ≤ y.value⟩

instance (x y : Binary64) : Decidable (x ≤ y) :=
  inferInstanceAs (Decidable (x.value ≤ y.value))

/-- Whether this is one of the zeros. -/
def isZero (x : Binary64) : Bool :=
  x.mantissa = 0

/-! ## Whole parts -/

/-- How many bits of the mantissa stand behind the binary point. -/
def fractionBits (x : Binary64) : Nat :=
  (-x.exponent).toNat

/-- The number without its fraction. -/
def trunc (x : Binary64) : Binary64 :=
  { x with mantissa := (x.mantissa >>> x.fractionBits) <<< x.fractionBits }

/-- The number minus its whole part. The difference has no bits that the number does not have, so
nothing is rounded. -/
def fract (x : Binary64) : Binary64 :=
  { x with mantissa := x.mantissa - x.trunc.mantissa }

/-- The whole part in 64 bits. What is negative gives zero, and what is past 64 bits the largest
number that they hold. -/
def toUInt64 (x : Binary64) : UInt64 :=
  let (num, den) := x.magnitude
  if x.negative then 0 else .ofNat (min (num / den) (UInt64.size - 1))

/-! ## Words -/

/-- What the 64 bits of a word stand for. -/
inductive Word where
  | notANumber
  | infinite (negative : Bool)
  | finite (x : Binary64)
  deriving DecidableEq

/-- Reads a word: sign bit, eleven bits of exponent, 52 bits of fraction. -/
def Word.ofBits (bits : UInt64) : Word :=
  let n := bits.toNat
  let negative : Bool := 1 <<< 63 ≤ n
  let exponent : Nat := (n >>> 52) % 2048
  let fraction : Nat := n % (1 <<< 52)
  if exponent = 2047 then
    if fraction = 0 then .infinite negative else .notANumber
  else if exponent = 0 then
    .finite ⟨negative, fraction, leastExponent⟩
  else
    .finite ⟨negative, (1 <<< 52) + fraction, (exponent : Int) - 1075⟩

end Binary64

end EngineClient
