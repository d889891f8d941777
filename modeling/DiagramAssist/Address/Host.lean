import DiagramAssist.Address.Domain.Basic
import DiagramAssist.Address.Ipv6

/-! # Hosts

The host of an address. A special scheme takes a domain name, in ASCII and without characters that
would change the meaning of the address, or an IP address, which is written in its normal form; the
host of any other scheme is kept as it is.
-/

namespace DiagramAssist.Address

/-- A character that no domain may hold. -/
def forbiddenInDomain (c : Char) : Bool :=
  c.toNat ≤ 0x20 || c.toNat == 0x7F || c == '#' || c == '/' || c == ':' || c == '<' || c == '>' ||
    c == '?' || c == '@' || c == '[' || c == '\\' || c == ']' || c == '^' || c == '|' || c == '%'

/-- A character that no opaque host may hold. -/
def forbiddenInHost (c : Char) : Bool :=
  c == '\x00' || c == '\t' || c == '\n' || c == '\r' || c == ' ' || c == '#' || c == '/' ||
    c == ':' || c == '<' || c == '>' || c == '?' || c == '@' || c == '[' || c == '\\' || c == ']' ||
    c == '^' || c == '|'

/-- The digits of a number in a base up to sixteen; no digits are zero. -/
def numberIn? (base : Nat) (digits : Chars) : Option Nat :=
  digits.foldlM
    (fun value c => do
      let digit ← hexValue? c
      if digit < base then return value * base + digit else none)
    0

/-- The number of one part of an IPv4 address: hexadecimal, octal or decimal. -/
def ipv4Number? (part : Chars) : Option Nat :=
  match part with
  | [] => none
  | '0' :: 'x' :: digits => numberIn? 16 digits
  | '0' :: 'X' :: digits => numberIn? 16 digits
  | '0' :: digit :: digits => numberIn? 8 (digit :: digits)
  | digits => numberIn? 10 digits

/-- The parts of a domain; a final dot starts no further part. -/
def domainParts (domain : Chars) : List Chars :=
  let parts := pieces (· == '.') domain
  if 1 < parts.length && parts.getLast? == some [] then parts.dropLast else parts

/-- Whether the last part of a domain is a number, which makes the domain an IPv4 address. -/
def endsInNumber (domain : Chars) : Bool :=
  match (domainParts domain).getLast? with
  | none => false
  | some last =>
    (!last.isEmpty && last.all Char.isDigit) ||
      match last with
      | '0' :: 'x' :: digits => digits.all fun c => (hexValue? c).isSome
      | '0' :: 'X' :: digits => digits.all fun c => (hexValue? c).isSome
      | _ => false

def decimal (value : Nat) : Chars :=
  Nat.toDigits 10 value

/-- The value of the numbers of an IPv4 address, the last of which fills the bytes left over. -/
def ipv4Value? : (numbers : List Nat) → (weight : Nat) → Option Nat
  | [], _ => none
  | [last], weight => if last < Nat.pow 256 weight then some last else none
  | number :: rest, weight =>
    if number < 256 then do
      return number * Nat.pow 256 (weight - 1) + (← ipv4Value? rest (weight - 1))
    else none

/-- The normal form of an IPv4 address. -/
def ipv4? (domain : Chars) : Option Chars := do
  let numbers ← (domainParts domain).mapM ipv4Number?
  if 4 < numbers.length then none
  let value ← ipv4Value? numbers 4
  return decimal (value / Nat.pow 256 3) ++ '.' :: decimal (value / Nat.pow 256 2 % 256) ++ '.' ::
    decimal (value / 256 % 256) ++ '.' :: decimal (value % 256)

/-- A domain, or an IPv4 address. -/
def domainHost? (text : Chars) : Option Chars := do
  let domain ← match Text.decodeFrom 0 (unescape text) with
    | .ok domain => some domain
    | .error _ => none
  let domain ← Domain.ascii? forbiddenInDomain domain
  if domain.isEmpty then none
  if endsInNumber domain then ipv4? domain else return domain

/-- A host that is kept as it is. -/
def opaqueHost? (text : Chars) : Option Chars :=
  if text.any forbiddenInHost then none else some (escape isControl text)

/-- The host that a text means; `isSpecial` says whether it is one of a special scheme. -/
def host? (isSpecial : Bool) (text : Chars) : Option Chars :=
  if text.head? == some '[' then bracketedHost? text
  else if isSpecial then domainHost? text
  else opaqueHost? text

end DiagramAssist.Address
