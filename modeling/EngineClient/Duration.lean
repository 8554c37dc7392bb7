import EngineClient.Numeric.Decimal

/-!
# Durations

A `Duration` is a whole number of nanoseconds, seconds being counted in 64 bits. `scale?` multiplies
by a binary number and rounds to the nearest nanosecond; it has no answer when the factor is not a
number or the product does not fit.
-/

namespace EngineClient

/-- A span of time in nanoseconds. -/
structure Duration where
  nanoseconds : Nat
  deriving DecidableEq

namespace Duration

/-! ## Units -/

/-- Nanoseconds in a second. -/
def perSecond : Nat := 1000000000

/-- Nanoseconds in a millisecond. -/
def perMillisecond : Nat := 1000000

/-- Nanoseconds in a microsecond. -/
def perMicrosecond : Nat := 1000

/-- No time at all. -/
def zero : Duration := ⟨0⟩

/-- From whole seconds and further nanoseconds. -/
def ofParts (seconds nanoseconds : Nat) : Duration :=
  ⟨seconds * perSecond + nanoseconds⟩

/-- From whole milliseconds. -/
def ofMilliseconds (n : Nat) : Duration :=
  ⟨n * perMillisecond⟩

/-- The whole seconds. -/
def seconds (d : Duration) : Nat :=
  d.nanoseconds / perSecond

/-- The nanoseconds past the whole seconds. -/
def fraction (d : Duration) : Nat :=
  d.nanoseconds % perSecond

/-- The whole milliseconds, at most the greatest 64-bit number. -/
def milliseconds (d : Duration) : UInt64 :=
  UInt64.ofNat (min (d.nanoseconds / perMillisecond) (UInt64.size - 1))

/-! ## Scaling -/

/-- The length in seconds as a binary number: the whole seconds and the rest are each converted and
then added. -/
def inSeconds? (d : Duration) : Option Binary64 := do
  let whole ← Binary64.ofInt? d.seconds
  let rest ← Binary64.ofInt? d.fraction
  let unit ← Binary64.ofInt? perSecond
  whole.add? (← rest.div? unit)

/-- The duration nearest to a number of seconds, ties to the even nanosecond. A negative number of
seconds has none, nor has one of `2 ^ 64` or more. -/
def ofSeconds? (x : Binary64) : Option Duration :=
  let (num, den) := x.magnitude
  let total := roundHalfEven (num * perSecond) den
  if (x.negative && x.mantissa != 0) || UInt64.size * perSecond ≤ total then none else some ⟨total⟩

/-- The duration times a factor. -/
def scale? (d : Duration) (factor : Binary64) : Option Duration := do
  ofSeconds? (← (← d.inSeconds?).mul? factor)

/-! ## Text -/

/-- A count of units with a fraction of `places` digits, written without trailing zeros. -/
def withFraction (whole rest places : Nat) : List Char :=
  let digits := Decimal.digitsOf rest
  let padded := List.replicate (places - digits.length) '0' ++ digits
  let trimmed := (padded.reverse.dropWhile (· == '0')).reverse
  Decimal.digitsOf whole ++ (if trimmed.isEmpty then [] else '.' :: trimmed)

/-- The duration in its largest unit that is not zero, with an exact decimal fraction. -/
def text (d : Duration) : String :=
  let n := d.nanoseconds
  if perSecond ≤ n then
    String.ofList (withFraction (n / perSecond) (n % perSecond) 9 ++ ['s'])
  else if perMillisecond ≤ n then
    String.ofList (withFraction (n / perMillisecond) (n % perMillisecond) 6 ++ ['m', 's'])
  else if perMicrosecond ≤ n then
    String.ofList (withFraction (n / perMicrosecond) (n % perMicrosecond) 3 ++ ['µ', 's'])
  else
    String.ofList (Decimal.digitsOf n ++ ['n', 's'])

end Duration

end EngineClient
