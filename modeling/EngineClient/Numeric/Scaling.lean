import EngineClient.Numeric.Binary64

/-!
# Scaling by powers of ten

`Binary64.scaled?` brings a number of 64 bits to its decimal place: the number, the power of ten and
their product or quotient are each rounded. The result may be off by a few units in its last bit,
where `Binary64.ofDecimal?` has the nearest number.
-/

namespace EngineClient.Binary64

/-- The exponent of the largest power of ten. -/
def greatestPower : Nat := 308

/-- The number nearest to a power of ten. -/
def powerOfTen? (n : Nat) : Option Binary64 :=
  ofInt? (Nat.pow 10 n)

/-- The number over a power of ten up to the largest. -/
def over? (x : Binary64) (n : Nat) : Option Binary64 :=
  (powerOfTen? n).bind x.div?

/-- A number of 64 bits over a power of ten. What is past the largest power is divided by in a
second step; after two steps by the largest nothing is left. -/
def scaledDown? (x : Binary64) (n : Nat) : Option Binary64 :=
  if n ≤ greatestPower then x.over? n
  else if n ≤ 2 * greatestPower then (x.over? greatestPower).bind (·.over? (n - greatestPower))
  else some (zero x.negative)

/-- The number times a power of ten; absent when that is past the largest number. -/
def scaledUp? (x : Binary64) (n : Nat) : Option Binary64 :=
  if n ≤ greatestPower then (powerOfTen? n).bind x.mul?
  else if x.mantissa = 0 then some x
  else none

/-- The number `± n * 10 ^ exponent`, rounded at each step; absent when that is past the largest
number. -/
def scaled? (negative : Bool) (n : Nat) (exponent : Int) : Option Binary64 := do
  let x ← ofInt? n
  let scaled ← if exponent < 0 then x.scaledDown? exponent.natAbs else x.scaledUp? exponent.natAbs
  return { scaled with negative := negative }

end EngineClient.Binary64
