import DiagramAssist.Proofs.Document.Printable
import DiagramAssist.Proofs.Number.Rounding

/-! # The written form of a number reads back

The digits that are written for a number lie in its rounding interval: the grid of decimal numbers
is refined until a neighbour of the number lies there, and on a grid of seventeen digits one always
does. The digits are written positionally, as a decimal literal of just this value. So reading the
text of a finite number gives the number back (`Binary64.readsBack_of_canonical`).
-/

namespace DiagramAssist.Binary64

/-! ## Points of decimal grids -/

/-- A power of ten as a ratio of natural numbers. -/
theorem tenPower_ratio (place : Int) :
    0 < (if 0 ≤ place then 1 else Nat.pow 10 (-place).toNat) ∧
      ((if 0 ≤ place then Nat.pow 10 place.toNat else 1 : Nat) : ℚ) /
        (if 0 ≤ place then 1 else Nat.pow 10 (-place).toNat : Nat) = 10 ^ place := by
  split
  · next nonneg =>
    obtain ⟨k, rfl⟩ := Int.eq_ofNat_of_zero_le nonneg
    simp
  · next negative =>
    obtain ⟨k, rfl⟩ : ∃ k : Nat, place = -k := ⟨(-place).toNat, by omega⟩
    simp

section Grid

variable {mantissa : Nat} {exponent place : Int}

theorem cast_low_roundingOf (present : 0 < mantissa) :
    ((roundingOf mantissa).low : ℚ) = 4 * (mantissa - reachBelow mantissa) := by
  simp only [roundingOf, reachBelow, Nat.pow_eq]
  split
  · rw [Nat.cast_sub (by omega)]
    push_cast
    ring
  · rw [Nat.cast_sub (by omega)]
    push_cast
    ring

theorem cast_high_roundingOf : ((roundingOf mantissa).high : ℚ) = 4 * (mantissa + 1 / 2) := by
  simp only [roundingOf]
  push_cast
  ring

theorem closed_roundingOf : (roundingOf mantissa).closed = true ↔ mantissa % 2 = 0 := by
  simp only [roundingOf, beq_iff_eq]

/-- The interval in quarters of a unit is the rounding interval. -/
theorem holds_roundingOf {n d : Nat} {x : ℚ} (positive : 0 < d) (present : 0 < mantissa)
    (ratio : (n : ℚ) / d = x / 2 ^ (exponent - 2)) :
    (roundingOf mantissa).holds n d = true ↔ InInterval mantissa exponent x := by
  have positive' : (0 : ℚ) < d := by exact_mod_cast positive
  have quarters : (n : ℚ) / d = 4 * (x / 2 ^ exponent) := by
    rw [ratio, zpow_sub₀ two_ne_zero]
    field_simp
    norm_num
  have below : (roundingOf mantissa).low * d ≤ n ↔
      (mantissa : ℚ) - reachBelow mantissa ≤ x / 2 ^ exponent := by
    rw [← Nat.cast_le (α := ℚ), Nat.cast_mul, ← le_div_iff₀ positive',
      cast_low_roundingOf present, quarters, mul_le_mul_iff_right₀ four_pos]
  have above : n ≤ (roundingOf mantissa).high * d ↔ x / 2 ^ exponent ≤ mantissa + 1 / 2 := by
    rw [← Nat.cast_le (α := ℚ), Nat.cast_mul, ← div_le_iff₀ positive', cast_high_roundingOf,
      quarters, mul_le_mul_iff_right₀ four_pos]
  have inside : (roundingOf mantissa).low * d < n ↔
      (mantissa : ℚ) - reachBelow mantissa < x / 2 ^ exponent := by
    rw [← Nat.cast_lt (α := ℚ), Nat.cast_mul, ← lt_div_iff₀ positive',
      cast_low_roundingOf present, quarters, mul_lt_mul_iff_right₀ four_pos]
  have inside' : n < (roundingOf mantissa).high * d ↔ x / 2 ^ exponent < mantissa + 1 / 2 := by
    rw [← Nat.cast_lt (α := ℚ), Nat.cast_mul, ← div_lt_iff₀ positive', cast_high_roundingOf,
      quarters, mul_lt_mul_iff_right₀ four_pos]
  rw [Rounding.holds]
  split
  · next even =>
    simp only [Bool.and_eq_true, decide_eq_true_eq, below, above]
    have even := closed_roundingOf.mp even
    exact ⟨fun ends => ⟨ends.1, ends.2, fun odd => by omega⟩,
      fun interval => ⟨interval.below, interval.above⟩⟩
  · next odd =>
    simp only [Bool.and_eq_true, decide_eq_true_eq, inside, inside']
    have odd : mantissa % 2 = 1 := by
      rw [closed_roundingOf] at odd
      omega
    exact ⟨fun ends => ⟨ends.1.le, ends.2.le, fun _ => ends⟩, fun interval => interval.inside odd⟩

/-- One step of the grid `10 ^ place`, in units of the interval. -/
def gridStep (exponent place : Int) : Nat × Nat :=
  scaleDown (if 0 ≤ place then Nat.pow 10 place.toNat else 1)
    (if 0 ≤ place then 1 else Nat.pow 10 (-place).toNat) exponent

theorem gridStep_ratio (exponent place : Int) :
    0 < (gridStep exponent place).2 ∧
      ((gridStep exponent place).1 : ℚ) / (gridStep exponent place).2 =
        10 ^ place / 2 ^ exponent := by
  obtain ⟨positive, power⟩ := tenPower_ratio place
  have scaled := scaleDown_ratio (if 0 ≤ place then Nat.pow 10 place.toNat else 1) positive exponent
  rw [power] at scaled
  exact scaled

/-- Whether a point of the grid lies in the interval. -/
def fitsGrid (interval : Rounding) (exponent place : Int) (point : Nat) : Bool :=
  interval.holds (point * (gridStep exponent place).1) (gridStep exponent place).2

theorem fitsGrid_roundingOf (present : 0 < mantissa) (point : Nat) :
    fitsGrid (roundingOf mantissa) (exponent - 2) place point = true ↔
      InInterval mantissa exponent (point * 10 ^ place) := by
  obtain ⟨positive, ratio⟩ := gridStep_ratio (exponent - 2) place
  refine holds_roundingOf positive present ?_
  rw [Nat.cast_mul, mul_div_assoc, ratio, mul_div_assoc]

/-- The point of the grid at or below the value of an interval. -/
def gridBelow (interval : Rounding) (exponent place : Int) : Nat :=
  interval.value * (gridStep exponent place).2 / (gridStep exponent place).1

/-- A point that is found fits. If none is found, neither neighbour of the value fits. -/
theorem gridPoint?_cases (interval : Rounding) (exponent place : Int) :
    (∃ point, gridPoint? interval exponent place = some point ∧
      fitsGrid interval exponent place point = true) ∨
    gridPoint? interval exponent place = none ∧
      fitsGrid interval exponent place (gridBelow interval exponent place) = false ∧
      fitsGrid interval exponent place (gridBelow interval exponent place + 1) = false := by
  simp only [gridPoint?, fitsGrid, gridBelow, gridStep]
  generalize scaleDown _ _ exponent = step
  obtain ⟨numerator, denominator⟩ := step
  dsimp only
  split
  · next first second =>
    split
    · exact .inl ⟨_, rfl, second⟩
    · exact .inl ⟨_, rfl, first⟩
  · next first second => exact .inl ⟨_, rfl, first⟩
  · next first second => exact .inl ⟨_, rfl, second⟩
  · next first second => exact .inr ⟨rfl, first, second⟩

/-- The value of the interval lies between two points of the grid. -/
theorem gridBelow_bounds (mantissa : Nat) (exponent place : Int) :
    (gridBelow (roundingOf mantissa) (exponent - 2) place : ℚ) * 10 ^ place ≤
        mantissa * 2 ^ exponent ∧
      mantissa * 2 ^ exponent <
        (gridBelow (roundingOf mantissa) (exponent - 2) place + 1 : ℚ) * 10 ^ place := by
  obtain ⟨positive, ratio⟩ := gridStep_ratio (exponent - 2) place
  have step : (0 : ℚ) < 10 ^ place := by positivity
  have positive' : (0 : ℚ) < (gridStep (exponent - 2) place).2 := by exact_mod_cast positive
  have numerator : (0 : ℚ) < (gridStep (exponent - 2) place).1 := by
    refine (div_pos_iff_of_pos_right positive').mp ?_
    rw [ratio]
    positivity
  have quotient : (((roundingOf mantissa).value * (gridStep (exponent - 2) place).2 : Nat) : ℚ) /
      (gridStep (exponent - 2) place).1 = mantissa * 2 ^ exponent / 10 ^ place := by
    have inverse : ((gridStep (exponent - 2) place).2 : ℚ) / (gridStep (exponent - 2) place).1 =
        2 ^ (exponent - 2) / 10 ^ place := by
      rw [← inv_div, ratio, inv_div]
    have quarter : (2 : ℚ) ^ exponent = 4 * 2 ^ (exponent - 2) := by
      rw [zpow_sub₀ two_ne_zero]
      field_simp
      norm_num
    rw [Nat.cast_mul, mul_div_assoc, inverse, quarter]
    simp only [roundingOf]
    push_cast
    ring
  constructor
  · rw [← le_div_iff₀ step, ← quotient, le_div_iff₀ numerator, gridBelow]
    exact_mod_cast Nat.div_mul_le_self ..
  · rw [← div_lt_iff₀ step, ← quotient, div_lt_iff₀ numerator, gridBelow]
    exact_mod_cast Nat.lt_mul_of_div_lt (Nat.lt_succ_self _) (by exact_mod_cast numerator)

/-- A number that is nearer to the value than the interval reaches lies in the interval. -/
theorem inInterval_of_near {x : ℚ}
    (below : mantissa * 2 ^ exponent - x < reachBelow mantissa * 2 ^ exponent)
    (above : x - mantissa * 2 ^ exponent < reachBelow mantissa * 2 ^ exponent) :
    InInterval mantissa exponent x := by
  have unit : (0 : ℚ) < 2 ^ exponent := by positivity
  have low : (mantissa - reachBelow mantissa : ℚ) < x / 2 ^ exponent := by
    rw [lt_div_iff₀ unit]
    linarith
  have high : x / 2 ^ exponent < mantissa + 1 / 2 := by
    rw [div_lt_iff₀ unit]
    have reach : reachBelow mantissa * 2 ^ exponent ≤ 1 / 2 * 2 ^ exponent := by
      gcongr
      exact reachBelow_le mantissa
    linarith
  exact ⟨low.le, high.le, fun _ => ⟨low, high⟩⟩

/-- On a grid that is finer than the interval, a neighbour of the value fits. -/
theorem isSome_gridPoint? (present : 0 < mantissa)
    (fine : 10 ^ place < 2 * reachBelow mantissa * 2 ^ exponent) :
    (gridPoint? (roundingOf mantissa) (exponent - 2) place).isSome = true := by
  rcases gridPoint?_cases (roundingOf mantissa) (exponent - 2) place with
    ⟨point, found, -⟩ | ⟨-, first, second⟩
  · rw [found]
    rfl
  exfalso
  have step : (0 : ℚ) < 10 ^ place := by positivity
  obtain ⟨above, below⟩ := gridBelow_bounds mantissa exponent place
  generalize gridBelow (roundingOf mantissa) (exponent - 2) place = point
    at first second above below
  rw [Bool.eq_false_iff] at first second
  -- the nearer one of the two neighbours lies in the interval
  by_cases near : 2 * (mantissa * 2 ^ exponent - point * 10 ^ place) ≤ (10 : ℚ) ^ place
  · refine first ((fitsGrid_roundingOf present point).mpr (inInterval_of_near ?_ ?_)) <;> linarith
  · refine second ((fitsGrid_roundingOf present (point + 1)).mpr ?_)
    rw [Nat.cast_succ]
    refine inInterval_of_near ?_ ?_ <;> linarith

end Grid

/-! ## Seventeen digits -/

/-- If a point is found on one of the grids, the refinement ends with a point of its grid. -/
theorem gridPoint?_refine {interval : Rounding} {exponent last : Int}
    (found : (gridPoint? interval exponent last).isSome = true) {digits : Nat} {place : Int}
    (within : last ≤ place) (enough : place < last + digits) :
    gridPoint? interval exponent (refine interval exponent digits place).2 =
      some (refine interval exponent digits place).1 := by
  induction digits generalizing place with
  | zero =>
    rw [Int.natCast_zero, add_zero] at enough
    exact absurd within (not_le.mpr enough)
  | succ digits ih =>
    rw [refine]
    cases here : gridPoint? interval exponent place with
    | some point => exact here
    | none =>
      have other : last ≠ place := by
        rintro rfl
        rw [here] at found
        cases found
      push_cast at enough
      exact ih (by omega) (by omega)

theorem le_pow_digitCount (value : Nat) : value < 10 ^ digitCount value := by
  rw [digitCount]
  split
  · next zero => simp [zero]
  · exact (Nat.length_toDigits_le_iff (by decide) Nat.length_toDigits_pos).mp (le_refl _)

theorem pow_digitCount_le {value : Nat} (present : value ≠ 0) :
    10 ^ (digitCount value - 1) ≤ value := by
  rw [digitCount, if_neg present]
  by_cases single : (Nat.toDigits 10 value).length = 1
  · rw [single]
    exact Nat.pos_of_ne_zero present
  · have positive := @Nat.length_toDigits_pos 10 value
    by_contra less
    have short := (Nat.length_toDigits_le_iff (by decide) (by omega)).mpr (not_le.mp less)
    omega

/-- The zeros behind the point are followed by a digit, if the bound allows for it. -/
theorem le_mul_pow_fractionZeros {bound n d : Nat} (enough : d ≤ n * 10 ^ (bound + 1)) :
    d ≤ n * 10 ^ (fractionZeros bound n d + 1) := by
  induction bound generalizing n with
  | zero => exact enough
  | succ bound ih =>
    rw [fractionZeros]
    split
    · next reached => simpa using reached
    · have later := ih (n := n * 10) (by rw [mul_assoc, ← pow_succ']; exact enough)
      rw [mul_assoc, ← pow_succ'] at later
      rwa [Nat.add_comm 1]

/-- A ratio is not below the power of ten in front of its decimal exponent. -/
theorem pow_decimalExponent_le {n d : Nat} (present : n ≠ 0) (positive : 0 < d) :
    (10 : ℚ) ^ (decimalExponent n d - 1) ≤ n / d := by
  have positive' : (0 : ℚ) < d := by exact_mod_cast positive
  rw [decimalExponent]
  split
  · next large =>
    have quotient : n / d ≠ 0 := (Nat.div_pos large positive).ne'
    have digits : 0 < digitCount (n / d) := by
      rw [digitCount, if_neg quotient]
      exact Nat.length_toDigits_pos
    have exponent : Int.ofNat (digitCount (n / d)) - 1 = (digitCount (n / d) - 1 : Nat) := by
      rw [Int.ofNat_eq_natCast]
      omega
    rw [exponent, zpow_natCast, le_div_iff₀ positive']
    have bound := Nat.mul_le_of_le_div _ _ _ (pow_digitCount_le quotient)
    exact_mod_cast bound
  · have enough : d ≤ n * 10 ^ (digitCount d + 1) :=
      calc d
        _ ≤ 10 ^ digitCount d := (le_pow_digitCount d).le
        _ ≤ 10 ^ (digitCount d + 1) := Nat.pow_le_pow_right (by decide) (Nat.le_succ _)
        _ ≤ n * 10 ^ (digitCount d + 1) := Nat.le_mul_of_pos_left _ (Nat.pos_of_ne_zero present)
    have reached := le_mul_pow_fractionZeros enough
    generalize fractionZeros (digitCount d) n d = zeros at reached
    have exponent : -Int.ofNat zeros - 1 = -((zeros + 1 : Nat) : Int) := by
      rw [Int.ofNat_eq_natCast]
      omega
    have power : (0 : ℚ) < 10 ^ (zeros + 1) := by positivity
    rw [exponent, zpow_neg, zpow_natCast, le_div_iff₀ positive', inv_mul_le_iff₀ power, mul_comm]
    exact_mod_cast reached

/-- A grid with seventeen digits of a number is finer than the rounding interval of the number. -/
theorem seventeen_digits_lt {mantissa : Nat} {exponent digits : Int}
    (limited : mantissa < 2 ^ 53) (leading : (10 : ℚ) ^ (digits - 1) ≤ mantissa * 2 ^ exponent) :
    (10 : ℚ) ^ (digits - 17) < 2 * reachBelow mantissa * 2 ^ exponent := by
  have unit : (0 : ℚ) < 2 ^ exponent := by positivity
  have spread : (10 : ℚ) ^ (digits - 17) * 10 ^ 16 = 10 ^ (digits - 1) := by
    rw [← zpow_natCast, ← zpow_add₀ (by norm_num)]
    congr 1
    omega
  rw [reachBelow]
  split
  · next power =>
    rw [power] at leading
    push_cast at leading
    linarith
  · have bounded : (mantissa : ℚ) * 2 ^ exponent ≤ 2 ^ 53 * 2 ^ exponent := by
      gcongr
      exact_mod_cast limited.le
    linarith

/-- The digits that are written for a number lie in its rounding interval. -/
theorem shortestDigits_inInterval {mantissa : Nat} {exponent : Int}
    (canonical : Canonical mantissa exponent) (present : 0 < mantissa) :
    InInterval mantissa exponent
      ((shortestDigits mantissa exponent).1 * 10 ^ (shortestDigits mantissa exponent).2) := by
  obtain ⟨positive, ratio⟩ := scaleDown_ratio mantissa one_pos (-exponent)
  have unit : (0 : ℚ) < 2 ^ exponent := by positivity
  have value : ((scaleDown mantissa 1 (-exponent)).1 : ℚ) / (scaleDown mantissa 1 (-exponent)).2 =
      mantissa * 2 ^ exponent := by
    rw [ratio, zpow_neg, div_inv_eq_mul, Nat.cast_one, div_one]
  have numerator : (scaleDown mantissa 1 (-exponent)).1 ≠ 0 := by
    intro zero
    rw [zero, Nat.cast_zero, zero_div] at value
    have some : (0 : ℚ) < mantissa * 2 ^ exponent := by positivity
    exact some.ne value
  have leading := pow_decimalExponent_le numerator positive
  rw [value] at leading
  simp only [shortestDigits]
  generalize decimalExponent (scaleDown mantissa 1 (-exponent)).1
    (scaleDown mantissa 1 (-exponent)).2 = digits at leading
  have fine := seventeen_digits_lt canonical.mantissa_lt leading
  have found : gridPoint? (roundingOf mantissa) (exponent - 2)
      (refine (roundingOf mantissa) (exponent - 2) 17 (digits - 1)).2 = some _ :=
    gridPoint?_refine (isSome_gridPoint? present fine) (by omega) (by push_cast; omega)
  rcases gridPoint?_cases (roundingOf mantissa) (exponent - 2)
    (refine (roundingOf mantissa) (exponent - 2) 17 (digits - 1)).2 with
    ⟨point, here, fits⟩ | ⟨none, -⟩
  · cases Option.some.inj (here.symm.trans found)
    exact (fitsGrid_roundingOf present _).mp fits
  · rw [none] at found
    cases found

/-! ## Positional texts -/

open Reader

theorem digitsValue_eq (digits : List Char) :
    digitsValue digits = Nat.ofDigitChars 10 digits 0 := by
  rw [digitsValue, Nat.ofDigitChars_eq_foldl]
  simp only [Nat.mul_comm 10]

theorem digitsValue_toDigits (value : Nat) : digitsValue (Nat.toDigits 10 value) = value := by
  rw [digitsValue_eq, Nat.ofDigitChars_ten_toDigits]

theorem digitsValue_append_zeros (digits : List Char) (count : Nat) :
    digitsValue (digits ++ List.replicate count '0') = 10 ^ count * digitsValue digits := by
  rw [digitsValue_eq, Nat.ofDigitChars_append, Nat.ofDigitChars_replicate_zero, digitsValue_eq]

theorem digitsValue_zeros_append (digits : List Char) (count : Nat) :
    digitsValue (List.replicate count '0' ++ digits) = digitsValue digits := by
  rw [digitsValue_eq, Nat.ofDigitChars_append, Nat.ofDigitChars_replicate_zero, Nat.mul_zero,
    digitsValue_eq]

/-- What is left of digits without the zeros at their end. -/
theorem exists_append_zeros (digits : List Char) :
    ∃ count, digits =
      (digits.reverse.dropWhile (· == '0')).reverse ++ List.replicate count '0' := by
  have zeros : digits.reverse.takeWhile (· == '0') =
      List.replicate (digits.reverse.takeWhile (· == '0')).length '0' := by
    refine List.eq_replicate_iff.mpr ⟨rfl, fun c member => ?_⟩
    have zero := List.all_eq_true.mp List.all_takeWhile c member
    simpa using zero
  refine ⟨(digits.reverse.takeWhile (· == '0')).length, ?_⟩
  calc digits
    _ = (digits.reverse.takeWhile (· == '0') ++ digits.reverse.dropWhile (· == '0')).reverse := by
      rw [List.takeWhile_append_dropWhile, List.reverse_reverse]
    _ = _ := by rw [List.reverse_append, zeros, List.reverse_replicate, List.length_replicate]

theorem isDigit_toDigits (value : Nat) : (Nat.toDigits 10 value).all Char.isDigit = true :=
  List.all_eq_true.mpr fun _ member =>
    Nat.isDigit_of_mem_toDigits (by decide) (le_refl _) member

/-- The text is a decimal literal without a sign, and denotes the value. -/
def IsDecimal (text : List Char) (value : ℚ) : Prop :=
  ∃ integer fraction, AreDigits integer ∧
    (∀ digits, fraction = some digits → AreDigits digits) ∧
    text = integer ++ fractionText fraction ∧
    (digitsValue (integer ++ fraction.getD []) : ℚ) / (10 ^ (fraction.getD []).length : Nat) = value

theorem all_replicate_zero (count : Nat) :
    (List.replicate count '0').all Char.isDigit = true := by
  simp

/-- Zeros stand behind the digits of a multiple of a power of ten. -/
theorem isDecimal_positional_of_nonneg (point count : Nat) :
    IsDecimal (positional point count).toList (point * 10 ^ (count : Int)) := by
  refine ⟨Nat.toDigits 10 point ++ List.replicate count '0', none, ⟨?_, ?_⟩, nofun, ?_, ?_⟩
  · exact List.append_ne_nil_of_left_ne_nil Nat.toDigits_ne_nil _
  · rw [List.all_append, isDigit_toDigits, all_replicate_zero]
    rfl
  · simp only [positional, Int.natCast_nonneg, ↓reduceIte, String.toList_ofList, fractionText,
      List.append_nil]
    rfl
  · rw [Option.getD_none, List.append_nil, digitsValue_append_zeros, digitsValue_toDigits]
    simp [mul_comm]

/-- The digits of a multiple of a negative power of ten are parted by a point. Zeros in front make
them long enough, and zeros at the end are left out, with the point if nothing else stands there. -/
theorem isDecimal_positional_of_neg (point : Nat) {width : Nat} (places : 0 < width) :
    IsDecimal (positional point (-width)).toList (point * 10 ^ (-(width : Int))) := by
  have negative : ¬(0 : Int) ≤ -width := by omega
  simp only [positional, negative, ↓reduceIte, neg_neg, Int.toNat_natCast]
  have value : digitsValue (List.replicate (width + 1 - (Nat.toDigits 10 point).length) '0' ++
      Nat.toDigits 10 point) = point := by
    rw [digitsValue_zeros_append, digitsValue_toDigits]
  have digits : (List.replicate (width + 1 - (Nat.toDigits 10 point).length) '0' ++
      Nat.toDigits 10 point).all Char.isDigit = true := by
    rw [List.all_append, isDigit_toDigits, all_replicate_zero]
    rfl
  have long : width < (List.replicate (width + 1 - (Nat.toDigits 10 point).length) '0' ++
      Nat.toDigits 10 point).length := by
    rw [List.length_append, List.length_replicate]
    omega
  generalize List.replicate (width + 1 - (Nat.toDigits 10 point).length) '0' ++
    Nat.toDigits 10 point = padded at value digits long
  have behind : (padded.drop (padded.length - width)).length = width := by
    rw [List.length_drop]
    omega
  have parts := List.take_append_drop (padded.length - width) padded
  have present : padded.take (padded.length - width) ≠ [] := by
    rw [← List.length_pos_iff, List.length_take]
    omega
  generalize padded.take (padded.length - width) = integer at parts present
  generalize padded.drop (padded.length - width) = rest at parts behind
  obtain ⟨count, trimmed⟩ := exists_append_zeros rest
  generalize (rest.reverse.dropWhile (· == '0')).reverse = fraction at trimmed
  subst trimmed parts
  simp only [List.all_append, Bool.and_eq_true] at digits
  rw [List.length_append, List.length_replicate] at behind
  rw [← List.append_assoc, digitsValue_append_zeros] at value
  have ratio : (digitsValue (integer ++ fraction) : ℚ) / (10 ^ fraction.length : Nat) =
      point * 10 ^ (-(width : Int)) := by
    rw [← value, ← behind, zpow_neg, zpow_natCast, pow_add]
    push_cast
    field_simp
  by_cases empty : fraction = []
  · rw [if_pos (List.isEmpty_iff.mpr empty)]
    rw [empty] at ratio
    refine ⟨integer, none, ⟨present, digits.1⟩, nofun, ?_, ratio⟩
    rw [String.toList_ofList, fractionText, List.append_nil]
  · rw [if_neg (by rwa [List.isEmpty_iff])]
    refine ⟨integer, some fraction, ⟨present, digits.1⟩, ?_, String.toList_ofList, ratio⟩
    rintro _ ⟨⟩
    exact ⟨empty, digits.2.1⟩

/-- A number that is written positionally is a decimal literal of the value that is written. -/
theorem isDecimal_positional (point : Nat) (place : Int) :
    IsDecimal (positional point place).toList (point * 10 ^ place) := by
  by_cases nonneg : 0 ≤ place
  · obtain ⟨count, rfl⟩ := Int.eq_ofNat_of_zero_le nonneg
    exact isDecimal_positional_of_nonneg point count
  · obtain ⟨width, rfl⟩ : ∃ width : Nat, place = -width := ⟨(-place).toNat, by omega⟩
    exact isDecimal_positional_of_neg point (by omega)

/-- The text of a finite number in normal form reads back as the number. -/
theorem readsBack_of_canonical {negative : Bool} {mantissa : Nat} {exponent : Int}
    (canonical : Canonical mantissa exponent) :
    (finite negative mantissa exponent).ReadsBack := by
  obtain ⟨integer, fraction, whole, decimals, text, value⟩ : ∃ integer fraction,
      AreDigits integer ∧ (∀ digits, fraction = some digits → AreDigits digits) ∧
      (finite negative mantissa exponent).render.toList =
        decimalText negative integer fraction ∧
      ofDecimal negative integer (fraction.getD []) = finite negative mantissa exponent := by
    by_cases zero : mantissa = 0
    · subst zero
      have least : exponent = minExponent := canonical.normal.resolve_right (by norm_num)
      subst least
      exact ⟨['0'], none, ⟨List.cons_ne_nil _ _, rfl⟩, nofun, by cases negative <;> rfl, rfl⟩
    · have present := Nat.pos_of_ne_zero zero
      obtain ⟨integer, fraction, whole, decimals, text, value⟩ := isDecimal_positional
        (shortestDigits mantissa exponent).1 (shortestDigits mantissa exponent).2
      refine ⟨integer, fraction, whole, decimals, ?_, ?_⟩
      · simp only [render, zero, ↓reduceIte, decimalText, ← text]
        cases negative with
        | true =>
          simp only [↓reduceIte, String.toList_append]
          rfl
        | false => rfl
      · refine ofRatio_of_inInterval negative (Nat.pow_pos (by decide)) canonical present ?_
        rw [Nat.pow_eq, value]
        exact shortestDigits_inInterval canonical present
  have taken : numberLiteral.Takes (decimalText negative integer fraction) [] _ :=
    takes_numberLiteral whole decimals rfl
  obtain ⟨_, column, read, span, rfl⟩ := taken 0
  rw [List.append_nil, ← text, value] at read
  exact ⟨span, column, read⟩

/-- A decimal literal denotes an infinite number, or a number whose text reads back. -/
theorem readsBack_ofDecimal (negative : Bool) (integer fraction : List Char) :
    ofDecimal negative integer fraction = .infinite negative ∨
      (ofDecimal negative integer fraction).ReadsBack := by
  refine (canonical_ofRatio negative _ (Nat.pow_pos (by decide))).imp_right ?_
  rintro ⟨mantissa, exponent, value, canonical⟩
  rw [ofDecimal, Nat.pow_eq, value]
  exact readsBack_of_canonical canonical

end DiagramAssist.Binary64
