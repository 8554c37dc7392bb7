/-!
# Punycode

Labels of domain names in ASCII: the ASCII characters come first, then one number in base 36 for
each other character, in ascending order of code points. A number says how far the position of the
next insertion lies from the last; digit thresholds adapt to the size of earlier numbers. `decode`
reads back what `encode` writes, with numbers of 32 bits at most.
-/

namespace EngineClient.DomainName.Punycode

/-! ## Numbers -/

/-- A digit in base 36, letters first. -/
def digitChar (n : Nat) : Char :=
  if n < 26 then Char.ofNat (0x61 + n) else Char.ofNat (0x30 + (n - 26))

/-- The threshold of the digit at position `k`, a multiple of 36. -/
def threshold (k bias : Nat) : Nat :=
  min 26 (max 1 (k - bias))

theorem one_le_threshold (k bias : Nat) : 1 ≤ threshold k bias := by
  simp only [threshold]; omega

/-- A number as digits of variable threshold, the lowest first. -/
def digits (bias k n : Nat) : List Char :=
  let t := threshold k bias
  if n < t then [digitChar n]
  else digitChar (t + (n - t) % (36 - t)) :: digits bias (k + 36) ((n - t) / (36 - t))
termination_by n
decreasing_by
  have one_le := one_le_threshold k bias
  exact Nat.lt_of_le_of_lt (Nat.div_le_self ..) (by omega)

/-- Divides by 35 until a distance is small, counting the divisions. -/
def shrink (distance k : Nat) : Nat × Nat :=
  if 455 < distance then shrink (distance / 35) (k + 36) else (distance, k)
termination_by distance
decreasing_by exact Nat.div_lt_self (by omega) (by omega)

/-- The bias after a distance, `count` characters having been placed; the first is damped. -/
def adapt (distance count : Nat) (first : Bool) : Nat :=
  let scaled := distance / (if first then 700 else 2)
  let (rest, k) := shrink (scaled + scaled / count) 0
  k + 36 * rest / (rest + 38)

/-! ## Encoding -/

/-- The state of encoding a label. -/
structure State where
  /-- Digits so far. -/
  output : List Char
  /-- Distance since the last insertion. -/
  distance : Nat
  /-- Bias of the next number. -/
  bias : Nat
  /-- Characters placed so far. -/
  placed : Nat

/-- Passes one character while the code point `code` is placed; `basic` characters are ASCII. -/
def pass (basic code : Nat) (state : State) (c : Char) : State :=
  if c.toNat < code then { state with distance := state.distance + 1 }
  else if c.toNat = code then
    { output := state.output ++ digits state.bias 36 state.distance
      distance := 0
      bias := adapt state.distance (state.placed + 1) (state.placed = basic)
      placed := state.placed + 1 }
  else state

/-- Places the occurrences of the code points `codes`, which ascend from `next`. -/
def place (label : List Char) (basic : Nat) : List Nat → Nat → State → State
  | [], _, state => state
  | code :: codes, next, state =>
    let jumped :=
      { state with distance := state.distance + (code - next) * (state.placed + 1) }
    let passed := label.foldl (pass basic code) jumped
    place label basic codes (code + 1) { passed with distance := passed.distance + 1 }

/-- Adds a code point to an ascending list, once. -/
def insertCode (n : Nat) : List Nat → List Nat
  | [] => [n]
  | m :: ms => if n < m then n :: m :: ms else if n = m then m :: ms else m :: insertCode n ms

/-- The digits of a label. -/
def encode (label : List Char) : List Char :=
  let ascii := label.filter (·.toNat < 0x80)
  let codes := (label.filter (0x80 ≤ ·.toNat)).foldl (fun codes c => insertCode c.toNat codes) []
  let start := if ascii.isEmpty then [] else ascii ++ ['-']
  (place label ascii.length codes 0x80 ⟨start, 0, 72, ascii.length⟩).output

/-! ## Decoding -/

/-- The value of a digit in base 36. -/
def digitValue? (c : Char) : Option Nat :=
  if 'a' ≤ c ∧ c ≤ 'z' then some (c.toNat - 0x61)
  else if c.isDigit then some (c.toNat - 0x30 + 26)
  else none

/-- The state of decoding a label, between two numbers if `k` is 36. -/
structure Reading where
  /-- The characters placed so far. -/
  text : List Char
  /-- The code point that is placed. -/
  code : Nat
  /-- Where the number started to count. -/
  start : Nat
  /-- Where the number has counted to. -/
  index : Nat
  /-- The weight of the next digit. -/
  weight : Nat
  /-- The position of the next digit, a multiple of 36. -/
  k : Nat
  /-- Bias of the number. -/
  bias : Nat

/-- Places the character that a finished number is about. -/
def Reading.finish? (reading : Reading) : Option Reading :=
  let count := reading.text.length + 1
  let code := reading.code + reading.index / count
  let position := reading.index % count
  if h : code.isValidChar then
    some
      { text := reading.text.insertIdx position (Char.ofNatAux code h)
        code := code
        start := position + 1
        index := position + 1
        weight := 1
        k := 36
        bias := adapt (reading.index - reading.start) count (reading.start = 0) }
  else none

/-- Reads a digit. -/
def Reading.step? (reading : Reading) (c : Char) : Option Reading := do
  let digit ← digitValue? c
  let index := reading.index + digit * reading.weight
  let t := threshold reading.k reading.bias
  let weight := reading.weight * (36 - t)
  if UInt32.size ≤ index then none
  else if digit < t then Reading.finish? { reading with index := index }
  else if UInt32.size ≤ weight then none
  else some { reading with index := index, weight := weight, k := reading.k + 36 }

/-- Reads the digits behind some ASCII characters. -/
def decodeBehind? (ascii cs : List Char) : Option (List Char) := do
  let reading ← cs.foldlM Reading.step? ⟨ascii, 0x80, 0, 0, 1, 36, 72⟩
  if reading.k = 36 then some reading.text else none

/-- Reads a label; the ASCII characters end at the last hyphen, and there are some if there is
one. -/
def decode? (label : List Char) : Option (List Char) :=
  match label.reverse.dropWhile (· ≠ '-') with
  | [] => decodeBehind? [] label
  | [_] => none
  | _ :: ascii => decodeBehind? ascii.reverse (label.reverse.takeWhile (· ≠ '-')).reverse

end EngineClient.DomainName.Punycode
