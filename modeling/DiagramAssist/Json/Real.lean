import DiagramAssist.Json.Numeral
import DiagramAssist.Number.Shortest

/-! # Binary64 numbers as JSON text

A number is written with its shortest digits; of two that are equally near, the even one is taken.
Very large and very small numbers have an exponent and all others have a fraction, so that a number
is never read back as an integer.
-/

namespace DiagramAssist.Json

namespace Numeral

def fractionText : Option (List Char) → List Char
  | some digits => '.' :: digits
  | none => []

def exponentText : Option (Bool × List Char) → List Char
  | some (isNegative, digits) => 'e' :: (if isNegative then '-' else '+') :: digits
  | none => []

def text (numeral : Numeral) : List Char :=
  (if numeral.negative then ['-'] else []) ++
    (numeral.whole ++ (fractionText numeral.fraction ++ exponentText numeral.exponent))

/-- Writes the fraction of a point and digits, behind which all digits are zero. The point stands
behind as many digits, or before as many further zeros. -/
def ofDigits (negative : Bool) (digits : List Char) (point : Int) : Numeral :=
  if digits.isEmpty then ⟨negative, ['0'], some ['0'], none⟩
  else if -5 < point && point ≤ 0 then
    ⟨negative, ['0'], some (List.replicate (-point).toNat '0' ++ digits), none⟩
  else if 0 < point && point ≤ 16 then
    let places := point.toNat
    let fraction := digits.drop places
    ⟨negative, digits.take places ++ List.replicate (places - digits.length) '0',
      some (if fraction.isEmpty then ['0'] else fraction), none⟩
  else
    let fraction := digits.drop 1
    ⟨negative, digits.take 1, if fraction.isEmpty then none else some fraction,
      some (point < 1, Nat.toDigits 10 (point - 1).natAbs)⟩

/-- Whether a number is halfway between a grid point and the one below, which is among the reals
that round to the number. -/
def isHalfway (mantissa : Nat) (exponent : Int) (point : Nat) (place : Int) : Bool :=
  let interval := Binary64.roundingOf mantissa
  let (stepNumerator, stepDenominator) :=
    Binary64.scaleDown (if 0 ≤ place then Nat.pow 10 place.toNat else 1)
      (if 0 ≤ place then 1 else Nat.pow 10 (-place).toNat) (exponent - 2)
  2 * interval.value * stepDenominator == (2 * point - 1) * stepNumerator &&
    interval.holds ((point - 1) * stepNumerator) stepDenominator

/-- The shortest digits of a positive number and the place of the last one, which is even if there
are two such numbers equally near. -/
def evenDigits (mantissa : Nat) (exponent : Int) : Nat × Int :=
  let (point, place) := Binary64.shortestDigits mantissa exponent
  if point % 2 == 1 && isHalfway mantissa exponent point place then (point - 1, place)
  else (point, place)

/-- The written form of a finite number. -/
def ofFinite (negative : Bool) (mantissa : Nat) (exponent : Int) : Numeral :=
  let (point, place) := if mantissa = 0 then (0, 0) else evenDigits mantissa exponent
  let digits := Nat.toDigits 10 point
  ofDigits negative (digits.reverse.dropWhile (· == '0')).reverse
    (Int.ofNat digits.length + place)

end Numeral

/-- A number that is no integer of this format. JSON has no infinities. -/
def renderReal : Binary64 → String
  | .finite negative mantissa exponent =>
    String.ofList (Numeral.ofFinite negative mantissa exponent).text
  | .infinite _ => "null"

end DiagramAssist.Json
