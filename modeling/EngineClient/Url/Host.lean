import EngineClient.DomainName.Ascii
import EngineClient.Text.Blank
import EngineClient.Url.Percent

/-!
# Hosts

A host is a domain name, an address of four bytes or one of eight 16-bit pieces. Names of the
well-known schemes are brought to lower case and ASCII; a name whose last label is a number is an
address of four bytes. Hosts of other schemes are kept as they are written.
-/

namespace EngineClient

/-- Why a text is not a URL. -/
inductive UrlError where
  | emptyHost
  | invalidDomainName
  /-- A port that is not a number of 16 bits. -/
  | invalidPort
  /-- An address of four bytes that is not well formed. -/
  | invalidIpv4
  /-- An address in brackets that is not well formed. -/
  | invalidIpv6
  /-- A character that no host may have. -/
  | invalidDomainCharacter
  /-- A reference without a scheme. -/
  | relative
  deriving DecidableEq

/-- The text of an error. -/
def UrlError.message : UrlError → String
  | .emptyHost => "empty host"
  | .invalidDomainName => "invalid international domain name"
  | .invalidPort => "invalid port number"
  | .invalidIpv4 => "invalid IPv4 address"
  | .invalidIpv6 => "invalid IPv6 address"
  | .invalidDomainCharacter => "invalid domain character"
  | .relative => "relative URL without a base"

/-- The host of a URL. -/
inductive Host where
  /-- A name, which may be empty. -/
  | domain (name : String)
  /-- An address of four bytes, as one number. -/
  | ipv4 (address : Nat)
  /-- An address of eight pieces. -/
  | ipv6 (pieces : List Nat)
  deriving DecidableEq

namespace Host

/-! ## Addresses of four bytes -/

/-- The digits of a number in a base, if all of them are. -/
def digitsValue? (base : Nat) (cs : List Char) : Option Nat :=
  cs.foldlM (fun n c => do
    let digit ← Percent.hexValue? c
    if digit < base then some (n * base + digit) else none) 0

/-- One part of an address: decimal, octal after `0` or hexadecimal after `0x`. -/
def ipv4Part? : List Char → Option Nat
  | [] => none
  | '0' :: 'x' :: cs | '0' :: 'X' :: cs => digitsValue? 16 cs
  | '0' :: c :: cs => digitsValue? 8 (c :: cs)
  | cs => digitsValue? 10 cs

/-- The labels of a name, without an empty one at the end. -/
def labels (name : List Char) : List (List Char) :=
  let parts := Text.piecesOf '.' name
  match parts.getLast? with
  | some [] => parts.dropLast
  | _ => parts

/-- Whether the last label of a name is a number. -/
def endsInNumber (name : List Char) : Bool :=
  match (labels name).getLast? with
  | none => false
  | some last => (!last.isEmpty && last.all Char.isDigit) || (ipv4Part? last).isSome

/-- The address with these parts; the last part fills all bytes that are left. -/
def ipv4OfParts? (parts : List Nat) : Option Nat :=
  match parts.getLast? with
  | none => none
  | some last =>
    let front := parts.dropLast
    if front.length ≤ 3 ∧ front.all (· ≤ 255) ∧ last < Nat.pow 256 (4 - front.length) then
      some (front.foldl (fun n part => n * 256 + part) 0 * Nat.pow 256 (4 - front.length) + last)
    else none

/-- Reads an address of four bytes. -/
def ipv4? (name : List Char) : Option Nat :=
  ((labels name).mapM ipv4Part?).bind ipv4OfParts?

/-! ## Addresses of eight pieces -/

/-- A byte in decimal without leading zeros. -/
def byte? (cs : List Char) : Option Nat :=
  match cs with
  | [] => none
  | '0' :: _ :: _ => none
  | _ => (digitsValue? 10 cs).filter (· ≤ 255)

/-- One group: up to four hexadecimal digits, or, as the last one, four bytes in decimal. -/
def ipv6Group? (isLast : Bool) (cs : List Char) : Option (List Nat) :=
  if isLast ∧ cs.contains '.' then
    match (Text.piecesOf '.' cs).mapM byte? with
    | some [a, b, c, d] => some [a * 256 + b, c * 256 + d]
    | _ => none
  else if cs.isEmpty ∨ 4 < cs.length then none
  else (digitsValue? 16 cs).map fun n => [n]

/-- The pieces of groups separated by colons; `toEnd` tells whether the address ends with them. -/
def ipv6Groups? (toEnd : Bool) : List (List Char) → Option (List Nat)
  | [] => some []
  | [group] => ipv6Group? toEnd group
  | group :: groups => do
    return (← ipv6Group? false group) ++ (← ipv6Groups? toEnd groups)

/-- The pieces of a text, which may be empty. -/
def ipv6Side? (toEnd : Bool) (cs : List Char) : Option (List Nat) :=
  if cs.isEmpty then some [] else ipv6Groups? toEnd (Text.piecesOf ':' cs)

/-- A text before and after its first double colon. -/
def splitAtGap? : List Char → Option (List Char × List Char)
  | [] => none
  | ':' :: ':' :: rest => some ([], rest)
  | c :: rest => (splitAtGap? rest).map fun (before, after) => (c :: before, after)

/-- Reads an address of eight pieces; a double colon stands for one or more zero pieces. -/
def ipv6? (cs : List Char) : Option (List Nat) :=
  match splitAtGap? cs with
  | none => (ipv6Side? true cs).filter (·.length = 8)
  | some (before, after) => do
    let front ← ipv6Side? false before
    let back ← ipv6Side? true after
    if front.length + back.length ≤ 7 then
      some (front ++ List.replicate (8 - front.length - back.length) 0 ++ back)
    else none

/-! ## Reading -/

/-- Reads the address between brackets, if a text opens with one. -/
def bracketed? (cs : List Char) : Option (Except UrlError Host) :=
  match cs with
  | '[' :: rest =>
    some <|
      match rest.getLast?, ipv6? rest.dropLast with
      | some ']', some pieces => .ok (.ipv6 pieces)
      | _, _ => .error .invalidIpv6
  | _ => none

/-- Reads the host of a well-known scheme. -/
def read (cs : List Char) : Except UrlError Host :=
  match bracketed? cs with
  | some result => result
  | none =>
    match Utf8.decodeChars (Percent.decode cs) with
    | .error _ => .error .invalidDomainName
    | .ok name =>
      match DomainName.toAscii? name with
      | none => .error .invalidDomainName
      | some [] => .error .emptyHost
      | some ascii =>
        if endsInNumber ascii then
          match ipv4? ascii with
          | some address => .ok (.ipv4 address)
          | none => .error .invalidIpv4
        else .ok (.domain (String.ofList ascii))

/-- The characters that no host of another scheme may have. -/
def isForbiddenElsewhere (c : Char) : Bool :=
  ['\x00', '\t', '\n', '\r', ' ', '#', '/', ':', '<', '>', '?', '@', '[', '\\', ']', '^',
    '|'].contains c

/-- Reads the host of another scheme, which is kept as it is written. -/
def readElsewhere (cs : List Char) : Except UrlError Host :=
  match bracketed? cs with
  | some result => result
  | none =>
    if cs.any isForbiddenElsewhere then .error .invalidDomainCharacter
    else .ok (.domain (String.ofList (Percent.encode Percent.controls cs)))

/-! ## Writing -/

/-- The start and length of the first longest run of zeros; `position` is that of the head. -/
def zeroRun (position : Nat) : List Nat → Nat × Nat
  | [] => (position, 0)
  | piece :: pieces =>
    let here := (piece :: pieces).takeWhile (· = 0) |>.length
    let (start, length) := zeroRun (position + 1) pieces
    if length ≤ here then (position, here) else (start, length)

/-- Pieces in hexadecimal, separated by colons. -/
def pieceChars (pieces : List Nat) : List Char :=
  [':'].intercalate (pieces.map (Nat.toDigits 16))

/-- An address of eight pieces; the longest run of two or more zeros is left out. -/
def ipv6Chars (pieces : List Nat) : List Char :=
  let (start, length) := zeroRun 0 pieces
  if length < 2 then pieceChars pieces
  else pieceChars (pieces.take start) ++ [':', ':'] ++ pieceChars (pieces.drop (start + length))

/-- A host as it stands in a URL. -/
def chars : Host → List Char
  | .domain name => name.toList
  | .ipv4 address =>
    ['.'].intercalate ([0x1000000, 0x10000, 0x100, 1].map fun unit =>
      Nat.toDigits 10 (address / unit % 256))
  | .ipv6 pieces => '[' :: ipv6Chars pieces ++ [']']

end Host

end EngineClient
