import DiagramAssist.Json.Basic

/-! # Numbers of JSON

A number is written as digits, perhaps with a fraction and an exponent. An integer that fits a
64-bit word is kept. Of any other number as many leading digits are taken as fit a word, and the
power of ten that is left over is multiplied in or divided out, so that the result may be one step
away from the nearest binary64 number. A number that is too large is refused.
-/

namespace DiagramAssist.Json

structure Numeral where
  negative : Bool
  whole : List Char
  /-- The digits behind the point, if there is one. -/
  fraction : Option (List Char)
  /-- Whether the exponent is negative, and its digits, if there is one. -/
  exponent : Option (Bool × List Char)
deriving DecidableEq, Inhabited

namespace Numeral

/-- The digits at the start of a text, which must not be missing. -/
def digits? (text : List Char) : Option (List Char × List Char) :=
  let digits := text.takeWhile Char.isDigit
  if digits.isEmpty then none else some (digits, text.dropWhile Char.isDigit)

/-- The digits in front of the point: no zero leads others. -/
def whole? (text : List Char) : Option (List Char × List Char) := do
  let (digits, rest) ← digits? text
  if 1 < digits.length && digits.head? == some '0' then none
  return (digits, rest)

/-- The fraction, if a point starts one. -/
def fraction? : List Char → Option (Option (List Char) × List Char)
  | '.' :: rest => (digits? rest).map fun (digits, rest) => (some digits, rest)
  | rest => some (none, rest)

/-- The sign and the digits behind the mark of an exponent. -/
def power? : List Char → Option ((Bool × List Char) × List Char)
  | '-' :: rest => (digits? rest).map fun (digits, rest) => ((true, digits), rest)
  | '+' :: rest => (digits? rest).map fun (digits, rest) => ((false, digits), rest)
  | rest => (digits? rest).map fun (digits, rest) => ((false, digits), rest)

/-- The exponent, if its mark starts one. -/
def exponent? : List Char → Option (Option (Bool × List Char) × List Char)
  | 'e' :: rest => (power? rest).map fun (power, rest) => (some power, rest)
  | 'E' :: rest => (power? rest).map fun (power, rest) => (some power, rest)
  | rest => some (none, rest)

/-- A number at the start of a text. -/
def read? (text : List Char) : Option (Numeral × List Char) := do
  let (negative, text) := match text with
    | '-' :: rest => (true, rest)
    | _ => (false, text)
  let (whole, rest) ← whole? text
  let (fraction, rest) ← fraction? rest
  let (exponent, rest) ← exponent? rest
  return (⟨negative, whole, fraction, exponent⟩, rest)

/-- A word has fewer than this many values. -/
def wordLimit : Nat := Nat.pow 2 64

/-- Appends digits to a number as long as it fits a word; the digits that are left are the second
result. -/
def takeDigits (value : Nat) : List Char → Nat × List Char
  | [] => (value, [])
  | digit :: rest =>
    let next := value * 10 + (digit.toNat - '0'.toNat)
    if next < wordLimit then takeDigits next rest else (value, digit :: rest)

def power (numeral : Numeral) : Int :=
  match numeral.exponent with
  | none => 0
  | some (isNegative, digits) =>
    let size := Int.ofNat (Binary64.digitsValue digits)
    if isNegative then -size else size

/-- The leading digits that fit a word, and the power of ten to multiply them with. Digits of the
fraction that do not fit are left out. -/
def parts (numeral : Numeral) : Nat × Int :=
  let fraction := numeral.fraction.getD []
  let (leading, cut) := takeDigits 0 numeral.whole
  let (leading, left) := takeDigits leading fraction
  (leading,
    numeral.power + Int.ofNat cut.length - Int.ofNat (fraction.length - left.length))

/-- The greatest power of ten that is a binary64 number. -/
def maxPower : Nat := 308

/-- A number times a power of ten; nothing if the result is too large. A power that is too low is
divided out in two steps. -/
def scaled? (value : Binary64) (power : Int) : Option Binary64 :=
  if maxPower < power then if value.isZero then some value else none
  else if 0 ≤ power then
    match value.timesTen power.toNat with
    | .infinite _ => none
    | product => some product
  else
    let places := (-power).toNat
    if places ≤ maxPower then some (value.overTen places)
    else some ((value.overTen maxPower).overTen (min maxPower (places - maxPower)))

/-- The value of a number, if it is not too large. A zero with a sign is no integer. -/
def value? (numeral : Numeral) : Option Json :=
  let size := Int.ofNat (Binary64.digitsValue numeral.whole)
  let signed := if numeral.negative then -size else size
  if numeral.fraction.isNone && numeral.exponent.isNone && minSigned ≤ signed &&
      signed ≤ maxUnsigned && !(numeral.negative && size == 0) then
    some (.integer signed)
  else
    let (leading, power) := numeral.parts
    (scaled? (.ofRatio numeral.negative leading 1) power).map .real

end Numeral

end DiagramAssist.Json
