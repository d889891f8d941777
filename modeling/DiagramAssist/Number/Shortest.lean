import DiagramAssist.Number.Binary64

/-! # Shortest decimal text

A number is written with the fewest significant digits that read back as the same number; of two
such digit strings the nearer one is taken, and the upper one when both are equally near. The text
is always positional: no exponent is ever written, and no fraction when the value is an integer.
-/

namespace DiagramAssist.Binary64

/-- The number of decimal digits of a natural number; zero has none. -/
def digitCount (value : Nat) : Nat :=
  if value = 0 then 0 else (Nat.toDigits 10 value).length

/-- How many zeros follow the decimal point of a ratio below one, as far as the bound allows. -/
def fractionZeros : (bound numerator denominator : Nat) → Nat
  | 0, _, _ => 0
  | bound + 1, numerator, denominator =>
    if denominator ≤ numerator * 10 then 0
    else 1 + fractionZeros bound (numerator * 10) denominator

/-- The decimal exponent `k` of a positive ratio: the least with the ratio below `10 ^ k`. -/
def decimalExponent (numerator denominator : Nat) : Int :=
  if denominator ≤ numerator then Int.ofNat (digitCount (numerator / denominator))
  else -(Int.ofNat (fractionZeros (digitCount denominator) numerator denominator))

/-- The reals that round to a number, all scaled by one power of two: the value itself and the two
ends, which belong to it when `closed`. -/
structure Rounding where
  value : Nat
  low : Nat
  high : Nat
  closed : Bool

/-- The rounding interval of a mantissa, in quarters of its unit. Below a power of two the
neighbour is only half as far away. -/
def roundingOf (mantissa : Nat) : Rounding where
  value := 4 * mantissa
  low := 4 * mantissa - (if mantissa = Nat.pow 2 52 then 1 else 2)
  high := 4 * mantissa + 2
  closed := mantissa % 2 == 0

/-- Whether a ratio, in the scale of the interval, lies in the interval. -/
def Rounding.holds (interval : Rounding) (numerator denominator : Nat) : Bool :=
  if interval.closed then
    interval.low * denominator ≤ numerator && numerator ≤ interval.high * denominator
  else
    interval.low * denominator < numerator && numerator < interval.high * denominator

/-- The point of the grid `10 ^ place` to be written for the interval, if one of the two neighbours
of the value on that grid lies in it. The interval is in units of `2 ^ exponent`. -/
def gridPoint? (interval : Rounding) (exponent place : Int) : Option Nat :=
  -- one grid step is `stepNumerator / stepDenominator` units of the interval
  let (stepNumerator, stepDenominator) :=
    scaleDown (if 0 ≤ place then Nat.pow 10 place.toNat else 1)
      (if 0 ≤ place then 1 else Nat.pow 10 (-place).toNat) exponent
  let lower := interval.value * stepDenominator / stepNumerator
  let fits := fun point : Nat => interval.holds (point * stepNumerator) stepDenominator
  let twiceBelow := 2 * (interval.value * stepDenominator - lower * stepNumerator)
  match fits lower, fits (lower + 1) with
  | true, true => if stepNumerator ≤ twiceBelow then some (lower + 1) else some lower
  | true, false => some lower
  | false, true => some (lower + 1)
  | false, false => none

/-- The first grid point found while the grid is refined, with the place of its last digit. -/
def refine (interval : Rounding) (exponent : Int) : (digits : Nat) → (place : Int) → Nat × Int
  | 0, place => (0, place)
  | digits + 1, place =>
    match gridPoint? interval exponent place with
    | some point => (point, place)
    | none => refine interval exponent digits (place - 1)

/-- The shortest digits of a positive number and the place of the last one. Seventeen digits always
suffice. -/
def shortestDigits (mantissa : Nat) (exponent : Int) : Nat × Int :=
  let (numerator, denominator) := scaleDown mantissa 1 (-exponent)
  refine (roundingOf mantissa) (exponent - 2) 17 (decimalExponent numerator denominator - 1)

/-- Writes `point · 10 ^ place` positionally. -/
def positional (point : Nat) (place : Int) : String :=
  let digits := Nat.toDigits 10 point
  if 0 ≤ place then String.ofList (digits ++ List.replicate place.toNat '0')
  else
    let width := (-place).toNat
    let padded := List.replicate (width + 1 - digits.length) '0' ++ digits
    let integer := padded.take (padded.length - width)
    let fraction := ((padded.drop (padded.length - width)).reverse.dropWhile (· == '0')).reverse
    String.ofList (if fraction.isEmpty then integer else integer ++ '.' :: fraction)

def render : Binary64 → String
  | .infinite negative => if negative then "-inf" else "inf"
  | .finite negative mantissa exponent =>
    let magnitude :=
      if mantissa = 0 then "0"
      else
        let (point, place) := shortestDigits mantissa exponent
        positional point place
    if negative then "-" ++ magnitude else magnitude

end DiagramAssist.Binary64
