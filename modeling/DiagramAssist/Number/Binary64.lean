/-! # Double precision numbers

The numbers of binary64 arithmetic that a decimal literal can denote: signed zeros, finite values
`mantissa · 2 ^ exponent` and the two infinities. A ratio is rounded to the nearest of them; of two
that are equally near, to the one with the even mantissa. Products and quotients with powers of ten
are rounded twice, because the power is rounded first.
-/

namespace DiagramAssist

/-- A binary64 value that is not a NaN. -/
inductive Binary64 where
  | finite (negative : Bool) (mantissa : Nat) (exponent : Int)
  | infinite (negative : Bool)
deriving DecidableEq

namespace Binary64

instance : Inhabited Binary64 := ⟨.finite false 0 0⟩

/-- The least exponent, that of the subnormal numbers. -/
def minExponent : Int := -1074

/-- The greatest exponent of a finite number. -/
def maxExponent : Int := 971

/-- Mantissas have fewer than 54 bits. -/
def mantissaLimit : Nat := Nat.pow 2 53

/-- The quotient rounded to the nearest integer, a half to the even neighbour. -/
def roundDiv (numerator denominator : Nat) : Nat :=
  let quotient := numerator / denominator
  let twice := 2 * (numerator % denominator)
  if twice < denominator then quotient
  else if denominator < twice then quotient + 1
  else if quotient % 2 = 0 then quotient else quotient + 1

/-- The ratio divided by a power of two, as a new ratio of natural numbers. -/
def scaleDown (numerator denominator : Nat) (exponent : Int) : Nat × Nat :=
  if 0 ≤ exponent then (numerator, denominator * Nat.pow 2 exponent.toNat)
  else (numerator * Nat.pow 2 (-exponent).toNat, denominator)

/-- The binary64 number nearest to a ratio. -/
def ofRatio (negative : Bool) (numerator denominator : Nat) : Binary64 :=
  if numerator = 0 then .finite negative 0 minExponent
  else
    let guess : Int := max minExponent (Int.ofNat numerator.log2 - Int.ofNat denominator.log2 - 53)
    let (n, d) := scaleDown numerator denominator guess
    let exponent := if mantissaLimit ≤ n / d then guess + 1 else guess
    let (n, d) := scaleDown numerator denominator exponent
    let rounded := roundDiv n d
    let (mantissa, exponent) :=
      if rounded = mantissaLimit then (rounded / 2, exponent + 1) else (rounded, exponent)
    if maxExponent < exponent then .infinite negative else .finite negative mantissa exponent

/-- The number written by a run of decimal digits. -/
def digitsValue (digits : List Char) : Nat :=
  digits.foldl (fun value digit => value * 10 + (digit.toNat - '0'.toNat)) 0

/-- The number denoted by a decimal literal with the given integer and fraction digits. -/
def ofDecimal (negative : Bool) (integer fraction : List Char) : Binary64 :=
  ofRatio negative (digitsValue (integer ++ fraction)) (Nat.pow 10 fraction.length)

/-- The number nearest to a ratio times a power of two. -/
def ofScaled (negative : Bool) (numerator denominator : Nat) (exponent : Int) : Binary64 :=
  let (n, d) := scaleDown numerator denominator (-exponent)
  ofRatio negative n d

/-- The product with the number nearest to a power of ten; infinite if one of the two is. -/
def timesTen (value : Binary64) (power : Nat) : Binary64 :=
  match value, ofRatio false (Nat.pow 10 power) 1 with
  | .finite negative m e, .finite _ m' e' => ofScaled negative (m * m') 1 (e + e')
  | .finite negative _ _, .infinite _ => .infinite negative
  | .infinite negative, _ => .infinite negative

/-- The quotient by the number nearest to a power of ten; zero if that is infinite. -/
def overTen (value : Binary64) (power : Nat) : Binary64 :=
  match value, ofRatio false (Nat.pow 10 power) 1 with
  | .finite negative m e, .finite _ m' e' => ofScaled negative m m' (e - e')
  | .finite negative _ _, .infinite _ => .finite negative 0 minExponent
  | .infinite negative, _ => .infinite negative

def isZero : Binary64 → Bool
  | .finite _ mantissa _ => mantissa == 0
  | .infinite _ => false

/-- Numeric equality: the two zeros are equal. -/
def same : Binary64 → Binary64 → Bool
  | .finite _ 0 _, .finite _ 0 _ => true
  | left, right => left == right

end Binary64

end DiagramAssist
