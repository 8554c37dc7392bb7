import EngineClient.Numeric.Decimal
import EngineClient.Toml.Quoted
import EngineClient.Toml.Value

/-!
# Numbers, dates and times in TOML

A scalar without quotes is a word that has to be, as a whole, a truth value, an integer, a float, a
date, a time, or a date and a time.
-/

namespace EngineClient.Toml

/-! ## Integers -/

/-- The characters without underscores, each of which has to stand between two digits. -/
def withoutUnderscores (isDigit : Char → Bool) : List Char → Option (List Char)
  | [] => none
  | [c] => if isDigit c then some [c] else none
  | c :: '_' :: cs => do
    if isDigit c then return c :: (← withoutUnderscores isDigit cs) else none
  | c :: cs => do
    if isDigit c then return c :: (← withoutUnderscores isDigit cs) else none

/-- The value of digits in a base. -/
def digitsValue (base : Nat) (digits : List Char) : Nat :=
  digits.foldl (fun n c => n * base + (hexValue? c).getD 0) 0

/-- Digits in a base other than ten. -/
def based? (base : Nat) (cs : List Char) : Option Nat := do
  let digits ← withoutUnderscores (fun c => (hexValue? c).any (· < base)) cs
  return digitsValue base digits

/-- Decimal digits without a leading zero. -/
def wholeDigits? (cs : List Char) : Option (List Char) := do
  let digits ← withoutUnderscores Char.isDigit cs
  match digits with
  | '0' :: _ :: _ => none
  | _ => return digits

/-- A sign, if there is one, and what follows. -/
def splitSign : List Char → Bool × List Char
  | '-' :: cs => (true, cs)
  | '+' :: cs => (false, cs)
  | cs => (false, cs)

/-- An integer, without regard to its size. -/
def integer? : List Char → Option Int
  | '0' :: 'x' :: cs => (based? 16 cs).map Int.ofNat
  | '0' :: 'o' :: cs => (based? 8 cs).map Int.ofNat
  | '0' :: 'b' :: cs => (based? 2 cs).map Int.ofNat
  | cs => do
    let (negative, digits) := splitSign cs
    let n := digitsValue 10 (← wholeDigits? digits)
    return if negative then -(n : Int) else n

/-- Whether an integer is small enough to be read at all: it fits into 128 bits, with or without a
sign. -/
def isReadable (n : Int) : Bool :=
  let size : Int := UInt64.size * UInt64.size
  0 ≤ 2 * n + size && n < size

/-! ## Floats -/

/-- Whether a word is a float: digits with a fraction, an exponent or both, small enough to be
finite; or one of the words for infinity and "not a number". -/
def isFloat (cs : List Char) : Bool :=
  let (_, body) := splitSign cs
  if body = ['i', 'n', 'f'] ∨ body = ['n', 'a', 'n'] then true
  else
    let isExponentMark (c : Char) : Bool := c == 'e' || c == 'E'
    let mantissa := body.takeWhile (! isExponentMark ·)
    let exponentPart := body.dropWhile (! isExponentMark ·)
    let fractionPart := mantissa.dropWhile (· ≠ '.')
    let whole := wholeDigits? (mantissa.takeWhile (· ≠ '.'))
    let fraction :=
      match fractionPart with
      | [] => some []
      | _ :: digits => withoutUnderscores Char.isDigit digits
    let exponent : Option Int :=
      match exponentPart with
      | [] => some 0
      | _ :: digits =>
        let (negative, digits) := splitSign digits
        (withoutUnderscores Char.isDigit digits).map fun digits =>
          if negative then -(digitsValue 10 digits : Int) else digitsValue 10 digits
    match whole, fraction, exponent with
    | some whole, some fraction, some exponent =>
      (!fractionPart.isEmpty || !exponentPart.isEmpty) &&
        (Binary64.ofDecimal? false (digitsValue 10 (whole ++ fraction))
          (exponent - fraction.length)).isSome
    | _, _, _ => false

/-! ## Dates and times -/

/-- A number of so many decimal digits, and what follows. -/
def fixed? (count : Nat) (cs : List Char) : Option (Nat × List Char) :=
  let digits := cs.take count
  if digits.length = count ∧ digits.all Char.isDigit then
    some (digitsValue 10 digits, cs.drop count)
  else none

/-- The number of days of a month. -/
def daysIn (year month : Nat) : Nat :=
  if month = 2 then
    if year % 4 = 0 ∧ (year % 100 ≠ 0 ∨ year % 400 = 0) then 29 else 28
  else if month = 4 ∨ month = 6 ∨ month = 9 ∨ month = 11 then 30
  else 31

/-- What follows a date. -/
def afterDate? (cs : List Char) : Option (List Char) := do
  let (year, cs) ← fixed? 4 cs
  let '-' :: cs := cs | none
  let (month, cs) ← fixed? 2 cs
  let '-' :: cs := cs | none
  let (day, cs) ← fixed? 2 cs
  if 1 ≤ month ∧ month ≤ 12 ∧ 1 ≤ day ∧ day ≤ daysIn year month then some cs else none

/-- What follows a fraction of a second, if there is one. -/
def afterFraction? : List Char → Option (List Char)
  | '.' :: c :: cs => if c.isDigit then some (cs.dropWhile Char.isDigit) else none
  | '.' :: [] => none
  | cs => some cs

/-- What follows a time; seconds may be left out. -/
def afterTime? (cs : List Char) : Option (List Char) := do
  let (hour, cs) ← fixed? 2 cs
  let ':' :: cs := cs | none
  let (minute, cs) ← fixed? 2 cs
  if 23 < hour ∨ 59 < minute then none
  match cs with
  | ':' :: cs =>
    let (second, cs) ← fixed? 2 cs
    if 60 < second then none
    afterFraction? cs
  | cs => return cs

/-- Whether a word is the distance of a clock from universal time. -/
def isOffset : List Char → Bool
  | ['Z'] | ['z'] => true
  | sign :: cs =>
    (sign == '+' || sign == '-') &&
      match fixed? 2 cs with
      | some (hour, ':' :: cs) =>
        match fixed? 2 cs with
        | some (minute, []) => hour ≤ 23 && minute ≤ 59
        | _ => false
      | _ => false
  | [] => false

/-- Whether a word is a date, a time, or a date and a time with or without an offset. -/
def isMoment (cs : List Char) : Bool :=
  match afterDate? cs with
  | none => afterTime? cs == some []
  | some [] => true
  | some (mark :: cs) =>
    (mark == 'T' || mark == 't' || mark == ' ') &&
      match afterTime? cs with
      | some rest => rest.isEmpty || isOffset rest
      | none => false

/-! ## Words -/

/-- Whether a character may stand in a word. -/
def isWordChar (c : Char) : Bool :=
  c.isAlphanum || c == '+' || c == '-' || c == '_' || c == '.' || c == ':'

/-- A word; a date takes a time that follows it after a space. -/
def word (cs : List Char) : List Char × List Char :=
  let first := cs.takeWhile isWordChar
  let rest := cs.dropWhile isWordChar
  match rest with
  | ' ' :: c :: after =>
    if afterDate? first == some [] && c.isDigit then
      (first ++ ' ' :: (c :: after).takeWhile isWordChar, (c :: after).dropWhile isWordChar)
    else (first, rest)
  | _ => (first, rest)

/-- The value of a word. -/
def wordValue? (cs : List Char) : Option Value :=
  if cs = ['t', 'r', 'u', 'e'] then some (.bool true)
  else if cs = ['f', 'a', 'l', 's', 'e'] then some (.bool false)
  else
    match integer? cs with
    | some n => if isReadable n then some (.integer n) else none
    | none =>
      if isFloat cs then some .float
      else if isMoment cs then some .moment
      else none

end EngineClient.Toml
