import DiagramAssist.Number.Shortest
import Mathlib.Algebra.Order.Field.Power
import Mathlib.Data.Rat.Cast.Order
import Mathlib.Tactic.FieldSimp
import Mathlib.Tactic.Linarith
import Mathlib.Tactic.Positivity
import Mathlib.Tactic.Ring

/-! # Rounding to the nearest number

Which number a ratio is rounded to depends only on where the ratio lies. A positive rational number
lies in exactly one binade, whose exponent is taken (`InBinade.unique`), and near exactly one
mantissa there (`Nearest.unique`). So the result is a number in normal form or infinite
(`canonical_ofRatio`), and every ratio in the rounding interval of a number is rounded to that
number (`ofRatio_of_inInterval`).
-/

namespace DiagramAssist.Binary64

/-! ## Nearest integers -/

/-- The integer is nearest to the rational number, and even if another one is as near. -/
structure Nearest (x : ℚ) (m : Nat) : Prop where
  below : (m : ℚ) - 1 / 2 ≤ x
  above : x ≤ m + 1 / 2
  even : x = m - 1 / 2 ∨ x = m + 1 / 2 → m % 2 = 0

theorem Nearest.not_lt {x : ℚ} {m m' : Nat} (first : Nearest x m) (second : Nearest x m') :
    ¬m < m' := by
  intro less
  have step : (m : ℚ) + 1 ≤ m' := by exact_mod_cast less
  have ties : x = m + 1 / 2 ∧ x = m' - 1 / 2 := by
    constructor <;> linarith [first.above, second.below]
  have next : (m' : ℚ) = (m + 1 : Nat) := by
    push_cast
    linarith [ties.1, ties.2]
  have even := first.even (.inr ties.1)
  have even' := second.even (.inl ties.2)
  have next : m' = m + 1 := by exact_mod_cast next
  omega

theorem Nearest.unique {x : ℚ} {m m' : Nat} (first : Nearest x m) (second : Nearest x m') :
    m = m' :=
  Nat.le_antisymm (Nat.not_lt.mp (second.not_lt first)) (Nat.not_lt.mp (first.not_lt second))

theorem nearest_roundDiv (n : Nat) {d : Nat} (positive : 0 < d) :
    Nearest (n / d) (roundDiv n d) := by
  have split : (n : ℚ) / d = (n / d : Nat) + (n % d : Nat) / d := by
    have parts : ((d * (n / d) + n % d : Nat) : ℚ) = n := by rw [Nat.div_add_mod]
    have present : (d : ℚ) ≠ 0 := by positivity
    rw [← parts]
    push_cast
    field_simp
  have positive' : (0 : ℚ) < d := by exact_mod_cast positive
  have small : ((n % d : Nat) : ℚ) / d < 1 := by
    rw [div_lt_one positive']
    exact_mod_cast Nat.mod_lt n positive
  have nonneg : (0 : ℚ) ≤ (n % d : Nat) / d := by positivity
  have twice : (2 * (n % d) < d ↔ ((n % d : Nat) : ℚ) / d < 1 / 2) ∧
      (d < 2 * (n % d) ↔ 1 / 2 < ((n % d : Nat) : ℚ) / d) := by
    rw [div_lt_iff₀ positive', lt_div_iff₀ positive']
    rw [← Nat.cast_lt (α := ℚ), ← Nat.cast_lt (α := ℚ)]
    push_cast
    constructor <;> constructor <;> intro less <;> linarith
  rw [split]
  generalize ((n % d : Nat) : ℚ) / d = part at small nonneg twice
  simp only [roundDiv, twice.1, twice.2]
  split
  · next low =>
    refine ⟨by linarith, by linarith, ?_⟩
    rintro (tie | tie) <;> linarith
  · next low =>
    split
    · next high =>
      have next : ((n / d + 1 : Nat) : ℚ) = (n / d : Nat) + 1 := Nat.cast_succ _
      refine ⟨by linarith, by linarith, ?_⟩
      rintro (tie | tie) <;> linarith
    · next high =>
      have half : part = 1 / 2 := le_antisymm (not_lt.mp high) (not_lt.mp low)
      subst half
      split
      · next even => exact ⟨by linarith, le_refl _, fun _ => even⟩
      · next odd =>
        have next : ((n / d + 1 : Nat) : ℚ) = (n / d : Nat) + 1 := Nat.cast_succ _
        exact ⟨by linarith, by linarith, fun _ => by omega⟩

/-! ## Binades -/

/-- The ratio divided by a power of two. -/
theorem scaleDown_ratio (n : Nat) {d : Nat} (positive : 0 < d) (e : Int) :
    0 < (scaleDown n d e).2 ∧
      ((scaleDown n d e).1 : ℚ) / (scaleDown n d e).2 = n / d / 2 ^ e := by
  rw [scaleDown]
  split
  · next nonneg =>
    obtain ⟨k, rfl⟩ := Int.eq_ofNat_of_zero_le nonneg
    simp only [Int.toNat_natCast, Nat.pow_eq, zpow_natCast]
    refine ⟨by positivity, ?_⟩
    push_cast
    rw [div_div]
  · next negative =>
    obtain ⟨k, rfl⟩ : ∃ k : Nat, e = -k := ⟨(-e).toNat, by omega⟩
    simp only [neg_neg, Int.toNat_natCast, Nat.pow_eq, zpow_neg, zpow_natCast]
    refine ⟨positive, ?_⟩
    push_cast
    rw [div_inv_eq_mul]
    ring

/-- The exponent is that of the binade which the number lies in: below the limit of mantissas, and
at least half of it, unless the exponent is the least one. -/
structure InBinade (x : ℚ) (e : Int) : Prop where
  least : minExponent ≤ e
  below : x < 2 ^ 53 * 2 ^ e
  above : e = minExponent ∨ 2 ^ 52 * 2 ^ e ≤ x

theorem InBinade.not_lt {x : ℚ} {e e' : Int} (first : InBinade x e) (second : InBinade x e') :
    ¬e < e' := by
  intro less
  have above := second.above.resolve_left (by have := first.least; omega)
  have grows : (2 : ℚ) ^ e * 2 ≤ 2 ^ e' := by
    rw [← zpow_add_one₀ two_ne_zero]
    exact zpow_le_zpow_right₀ one_le_two less
  linarith [first.below]

theorem InBinade.unique {x : ℚ} {e e' : Int} (first : InBinade x e) (second : InBinade x e') :
    e = e' :=
  Int.le_antisymm (Int.not_lt.mp (second.not_lt first)) (Int.not_lt.mp (first.not_lt second))

/-- The exponent that a ratio is rounded with. -/
def roundingExponent (n d : Nat) : Int :=
  let guess := max minExponent (Int.ofNat n.log2 - Int.ofNat d.log2 - 53)
  if mantissaLimit ≤ (scaleDown n d guess).1 / (scaleDown n d guess).2 then guess + 1 else guess

/-- A number with a rounded mantissa, which may have reached the limit. -/
def assemble (negative : Bool) (rounded : Nat) (exponent : Int) : Binary64 :=
  let (mantissa, exponent) :=
    if rounded = mantissaLimit then (rounded / 2, exponent + 1) else (rounded, exponent)
  if maxExponent < exponent then .infinite negative else .finite negative mantissa exponent

theorem ofRatio_eq (negative : Bool) {n : Nat} (d : Nat) (present : n ≠ 0) :
    ofRatio negative n d = assemble negative
      (roundDiv (scaleDown n d (roundingExponent n d)).1 (scaleDown n d (roundingExponent n d)).2)
      (roundingExponent n d) := by
  rw [ofRatio, if_neg present]
  rfl

/-- The logarithms of numerator and denominator bound a ratio. -/
theorem ratio_bounds {n d : Nat} (present : n ≠ 0) (positive : 0 < d) :
    (2 : ℚ) ^ ((n.log2 : Int) - d.log2 - 1) < n / d ∧
      (n : ℚ) / d < 2 ^ ((n.log2 : Int) - d.log2 + 1) := by
  have low : (2 : ℚ) ^ n.log2 ≤ n := by exact_mod_cast Nat.log2_self_le present
  have high : (n : ℚ) < 2 ^ (n.log2 + 1) := by exact_mod_cast Nat.lt_log2_self
  have low' : (2 : ℚ) ^ d.log2 ≤ d := by exact_mod_cast Nat.log2_self_le positive.ne'
  have high' : (d : ℚ) < 2 ^ (d.log2 + 1) := by exact_mod_cast Nat.lt_log2_self
  have positive' : (0 : ℚ) < d := by exact_mod_cast positive
  have first : (2 : ℚ) ^ ((n.log2 : Int) - d.log2 - 1) * 2 ^ (d.log2 + 1) = 2 ^ n.log2 := by
    rw [← zpow_natCast, ← zpow_natCast, ← zpow_add₀ two_ne_zero]
    congr 1
    omega
  have second : (2 : ℚ) ^ ((n.log2 : Int) - d.log2 + 1) * 2 ^ d.log2 = 2 ^ (n.log2 + 1) := by
    rw [← zpow_natCast, ← zpow_natCast, ← zpow_add₀ two_ne_zero]
    congr 1
    omega
  rw [lt_div_iff₀ positive', div_lt_iff₀ positive']
  constructor
  · calc (2 : ℚ) ^ ((n.log2 : Int) - d.log2 - 1) * d
      _ < 2 ^ ((n.log2 : Int) - d.log2 - 1) * 2 ^ (d.log2 + 1) := by gcongr
      _ ≤ n := first ▸ low
  · calc (n : ℚ)
      _ < 2 ^ ((n.log2 : Int) - d.log2 + 1) * 2 ^ d.log2 := second ▸ high
      _ ≤ 2 ^ ((n.log2 : Int) - d.log2 + 1) * d := by gcongr

theorem inBinade_roundingExponent {n d : Nat} (present : n ≠ 0) (positive : 0 < d) :
    InBinade (n / d) (roundingExponent n d) := by
  obtain ⟨low, high⟩ := ratio_bounds present positive
  simp only [roundingExponent, Int.ofNat_eq_natCast]
  generalize shifted : (n.log2 : Int) - d.log2 - 53 = shift
  have low : (2 : ℚ) ^ 52 * 2 ^ shift < n / d := by
    rw [← zpow_natCast, ← zpow_add₀ two_ne_zero]
    convert low using 2
    omega
  have high : (n : ℚ) / d < 2 ^ 53 * 2 ^ shift * 2 := by
    rw [← zpow_natCast, ← zpow_add₀ two_ne_zero, ← zpow_add_one₀ two_ne_zero]
    convert high using 2
    omega
  generalize guessed : max minExponent shift = guess
  have limit : mantissaLimit ≤ (scaleDown n d guess).1 / (scaleDown n d guess).2 ↔
      2 ^ 53 * 2 ^ guess ≤ (n : ℚ) / d := by
    obtain ⟨bottom, scaled⟩ := scaleDown_ratio n positive guess
    have bottom' : (0 : ℚ) < (scaleDown n d guess).2 := by exact_mod_cast bottom
    rw [Nat.le_div_iff_mul_le bottom, ← le_div_iff₀ (by positivity), ← scaled,
      le_div_iff₀ bottom', mantissaLimit, Nat.pow_eq]
    exact_mod_cast Iff.rfl
  simp only [limit]
  have least : minExponent ≤ guess := guessed ▸ le_max_left ..
  have above : shift ≤ guess := guessed ▸ le_max_right ..
  have grows : (2 : ℚ) ^ shift ≤ 2 ^ guess := zpow_le_zpow_right₀ one_le_two above
  have next : (2 : ℚ) ^ (guess + 1) = 2 ^ guess * 2 := zpow_add_one₀ two_ne_zero _
  split
  · next full =>
    refine ⟨by omega, ?_, .inr ?_⟩ <;> rw [next] <;> linarith
  · next free =>
    refine ⟨least, not_le.mp free, ?_⟩
    rcases max_choice minExponent shift with same | same
    · exact .inl (guessed ▸ same)
    · refine .inr ?_
      rw [← guessed, same]
      exact low.le

/-! ## Results of rounding -/

/-- Mantissa and exponent of a finite number in normal form: the mantissa has all its bits, unless
the exponent is the least one. -/
structure Canonical (mantissa : Nat) (exponent : Int) : Prop where
  mantissa_lt : mantissa < 2 ^ 53
  least : minExponent ≤ exponent
  greatest : exponent ≤ maxExponent
  normal : exponent = minExponent ∨ 2 ^ 52 ≤ mantissa

theorem canonical_zero : Canonical 0 minExponent :=
  ⟨by positivity, le_refl _, by decide, .inl rfl⟩

theorem Nearest.le_of_le {x : ℚ} {m k : Nat} (nearest : Nearest x m) (above : x ≤ k) : m ≤ k := by
  by_contra greater
  have step : (k : ℚ) + 1 ≤ m := by exact_mod_cast Nat.lt_of_not_le greater
  linarith [nearest.below]

theorem Nearest.ge_of_ge {x : ℚ} {m k : Nat} (nearest : Nearest x m) (below : k ≤ x) : k ≤ m := by
  by_contra less
  have step : (m : ℚ) + 1 ≤ k := by exact_mod_cast Nat.lt_of_not_le less
  linarith [nearest.above]

/-- A rounded mantissa does not exceed the limit, and has all its bits unless the exponent is the
least one. -/
theorem InBinade.mantissa_bounds {x : ℚ} {e : Int} {m : Nat} (binade : InBinade x e)
    (nearest : Nearest (x / 2 ^ e) m) : m ≤ 2 ^ 53 ∧ (e = minExponent ∨ 2 ^ 52 ≤ m) := by
  have unit : (0 : ℚ) < 2 ^ e := by positivity
  refine ⟨nearest.le_of_le ?_, binade.above.imp_right fun above => nearest.ge_of_ge ?_⟩
  · push_cast
    exact (div_le_iff₀ unit).mpr binade.below.le
  · push_cast
    exact (le_div_iff₀ unit).mpr above

/-- A ratio lies in a binade, and is rounded to the nearest mantissa there. -/
theorem exists_ofRatio_eq_assemble (negative : Bool) {n d : Nat} (present : n ≠ 0)
    (positive : 0 < d) : ∃ e m, InBinade (n / d) e ∧ Nearest (n / d / 2 ^ e) m ∧
      ofRatio negative n d = assemble negative m e := by
  have binade := inBinade_roundingExponent present positive
  obtain ⟨bottom, scaled⟩ := scaleDown_ratio n positive (roundingExponent n d)
  have nearest := nearest_roundDiv (scaleDown n d (roundingExponent n d)).1 bottom
  rw [scaled] at nearest
  exact ⟨_, _, binade, nearest, ofRatio_eq negative d present⟩

/-- The result of rounding is determined by the binade of the ratio and the nearest mantissa. -/
theorem ofRatio_of_nearest (negative : Bool) {n d : Nat} {e : Int} {m : Nat} (present : n ≠ 0)
    (positive : 0 < d) (binade : InBinade (n / d) e) (nearest : Nearest (n / d / 2 ^ e) m) :
    ofRatio negative n d = assemble negative m e := by
  obtain ⟨e', m', binade', nearest', rounded⟩ :=
    exists_ofRatio_eq_assemble negative present positive
  obtain rfl := binade'.unique binade
  obtain rfl := nearest'.unique nearest
  exact rounded

/-- Rounding gives a number in normal form, or an infinite one. -/
theorem canonical_ofRatio (negative : Bool) (n : Nat) {d : Nat} (positive : 0 < d) :
    ofRatio negative n d = .infinite negative ∨
      ∃ mantissa exponent, ofRatio negative n d = .finite negative mantissa exponent ∧
        Canonical mantissa exponent := by
  by_cases zero : n = 0
  · exact .inr ⟨0, minExponent, if_pos zero, canonical_zero⟩
  obtain ⟨e, m, binade, nearest, rounded⟩ := exists_ofRatio_eq_assemble negative zero positive
  obtain ⟨limited, normal⟩ := binade.mantissa_bounds nearest
  have least := binade.least
  rw [rounded, assemble]
  simp only [mantissaLimit, Nat.pow_eq]
  by_cases full : m = 2 ^ 53
  · simp only [full, ↓reduceIte]
    split
    · exact .inl rfl
    · next small =>
      exact .inr ⟨_, _, rfl, by norm_num, by omega, Int.not_lt.mp small, .inr (by norm_num)⟩
  · simp only [full, ↓reduceIte]
    split
    · exact .inl rfl
    · next small =>
      exact .inr ⟨_, _, rfl, Nat.lt_of_le_of_ne limited full, least, Int.not_lt.mp small, normal⟩

/-! ## Rounding intervals -/

/-- How far the ratios below a mantissa that round to it reach, in units of the mantissa. Below a
power of two the units are half as large. -/
def reachBelow (mantissa : Nat) : ℚ :=
  if mantissa = 2 ^ 52 then 1 / 4 else 1 / 2

/-- The rational number lies in the rounding interval of a number. The ends belong to the interval
when the mantissa is even. -/
structure InInterval (mantissa : Nat) (exponent : Int) (x : ℚ) : Prop where
  below : (mantissa : ℚ) - reachBelow mantissa ≤ x / 2 ^ exponent
  above : x / 2 ^ exponent ≤ mantissa + 1 / 2
  inside : mantissa % 2 = 1 →
    (mantissa : ℚ) - reachBelow mantissa < x / 2 ^ exponent ∧ x / 2 ^ exponent < mantissa + 1 / 2

theorem reachBelow_le (mantissa : Nat) : reachBelow mantissa ≤ 1 / 2 := by
  rw [reachBelow]
  split <;> norm_num

section Intervals

variable {mantissa : Nat} {exponent : Int} {x : ℚ}

/-- In its binade, a ratio of the interval has the mantissa for its nearest. -/
theorem InInterval.nearest (interval : InInterval mantissa exponent x) :
    Nearest (x / 2 ^ exponent) mantissa := by
  have reach := reachBelow_le mantissa
  refine ⟨by linarith [interval.below], interval.above, fun tie => ?_⟩
  by_contra odd
  have inside := interval.inside (by omega)
  rcases tie with tie | tie <;> linarith [inside.1, inside.2]

theorem InInterval.positive (interval : InInterval mantissa exponent x) (present : 0 < mantissa) :
    0 < x := by
  have unit : (0 : ℚ) < 2 ^ exponent := by positivity
  have least : (1 : ℚ) ≤ mantissa := by exact_mod_cast present
  have scaled : 0 < x / 2 ^ exponent := by
    linarith [interval.below, reachBelow_le mantissa]
  exact (div_pos_iff_of_pos_right unit).mp scaled

/-- The interval reaches below the binade of the number only for a power of two, and there into the
topmost half unit of the binade below. -/
theorem InInterval.inBinade (interval : InInterval mantissa exponent x)
    (canonical : Canonical mantissa exponent) :
    InBinade x exponent ∨ mantissa = 2 ^ 52 ∧ InBinade x (exponent - 1) ∧
      Nearest (x / 2 ^ (exponent - 1)) (2 ^ 53) := by
  have unit : (0 : ℚ) < 2 ^ exponent := by positivity
  have limited : (mantissa : ℚ) + 1 ≤ 2 ^ 53 := by exact_mod_cast canonical.mantissa_lt
  have below : x < 2 ^ 53 * 2 ^ exponent := by
    rw [← div_lt_iff₀ unit]
    linarith [interval.above]
  by_cases normal : exponent = minExponent ∨ 2 ^ 52 * 2 ^ exponent ≤ x
  · exact .inl ⟨canonical.least, below, normal⟩
  rw [not_or, not_le] at normal
  obtain ⟨notLeast, short⟩ := normal
  have short : x / 2 ^ exponent < 2 ^ 52 := (div_lt_iff₀ unit).mpr short
  have power : mantissa = 2 ^ 52 := by
    by_contra other
    have full := canonical.normal.resolve_left notLeast
    have more : (2 : ℚ) ^ 52 + 1 ≤ mantissa := by
      exact_mod_cast Nat.lt_of_le_of_ne full (Ne.symm other)
    linarith [interval.below, reachBelow_le mantissa]
  have half : (2 : ℚ) ^ exponent = 2 ^ (exponent - 1) * 2 := by
    rw [← zpow_add_one₀ two_ne_zero, sub_add_cancel]
  have scaled : x / 2 ^ (exponent - 1) = x / 2 ^ exponent * 2 := by
    rw [half]
    field_simp
  have reach := interval.below
  rw [power, reachBelow, if_pos rfl] at reach
  push_cast at reach
  have unit' : (0 : ℚ) < 2 ^ (exponent - 1) := by positivity
  refine .inr ⟨power, ⟨?_, ?_, .inr ?_⟩, ?_, ?_, fun _ => by norm_num⟩
  · have least := canonical.least
    omega
  · rw [← div_lt_iff₀ unit', scaled]
    linarith
  · rw [← le_div_iff₀ unit', scaled]
    linarith
  · rw [scaled]
    push_cast
    linarith
  · rw [scaled]
    push_cast
    linarith

/-- Every ratio in the rounding interval of a number is rounded to the number. -/
theorem ofRatio_of_inInterval (negative : Bool) {n d : Nat} (positive : 0 < d)
    (canonical : Canonical mantissa exponent) (present : 0 < mantissa)
    (interval : InInterval mantissa exponent (n / d)) :
    ofRatio negative n d = .finite negative mantissa exponent := by
  have some : n ≠ 0 := by
    rintro rfl
    have nothing := interval.positive present
    rw [Nat.cast_zero, zero_div] at nothing
    exact lt_irrefl _ nothing
  have finite : ¬maxExponent < exponent := Int.not_lt.mpr canonical.greatest
  rcases interval.inBinade canonical with binade | ⟨rfl, binade, nearest⟩
  · have limited : mantissa ≠ mantissaLimit := canonical.mantissa_lt.ne
    rw [ofRatio_of_nearest negative some positive binade interval.nearest, assemble]
    simp only [limited, finite, ↓reduceIte]
  · rw [ofRatio_of_nearest negative some positive binade nearest, assemble]
    simp only [mantissaLimit, Nat.pow_eq, ↓reduceIte, sub_add_cancel, finite]
    rfl

end Intervals

end DiagramAssist.Binary64
