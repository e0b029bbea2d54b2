import JsonTables.Proofs.ExactNumbers

/-!
# Integer parts

The integer part of a decimal is the integer next to it on the side of zero, however many digits
the decimal has after its point.  It is refused where the size of the decimal is more than a
thousand digits.  The size of a zero is what its scale makes of one digit, so a zero may be
refused too, and no other decimal is without being beyond every integer of so many digits.
-/

namespace JsonTables.Number

/-- The integer next to a rational number on the side of zero. -/
def towardZero (value : ℚ) : Int :=
  if 0 ≤ value then ⌊value⌋ else ⌈value⌉

theorem towardZero_intCast (value : Int) : towardZero value = value := by
  simp [towardZero]

theorem towardZero_of_nonneg {value : ℚ} (notNegative : 0 ≤ value) :
    towardZero value = ⌊value⌋ :=
  if_pos notNegative

theorem towardZero_neg (value : ℚ) : towardZero (-value) = -towardZero value := by
  rcases lt_trichotomy value 0 with negative | rfl | positive
  · rw [towardZero_of_nonneg (by linarith), towardZero, if_neg (not_le.mpr negative), Int.floor_neg]
  · simp [towardZero]
  · rw [towardZero_of_nonneg positive.le, towardZero, if_neg (by linarith), Int.ceil_neg]

/-- What is less than one step away from zero has no integer part. -/
theorem towardZero_eq_zero {value : ℚ} (small : |value| < 1) : towardZero value = 0 := by
  rcases abs_lt.mp small with ⟨aboveMinusOne, belowOne⟩
  unfold towardZero
  split
  · rename_i notNegative
    exact Int.floor_eq_zero_iff.mpr ⟨notNegative, belowOne⟩
  · rename_i negative
    exact Int.ceil_eq_zero_iff.mpr ⟨aboveMinusOne, (not_le.mp negative).le⟩

theorem towardZero_pow_of_neg {exponent : Int} (negative : exponent < 0) :
    towardZero (10 ^ exponent) = 0 := by
  apply towardZero_eq_zero
  rw [abs_of_pos (zpow_pos (by norm_num) exponent)]
  exact zpow_lt_one_of_neg₀ (by norm_num) negative

/-- Division that drops the remainder goes toward zero. -/
theorem towardZero_div (numerator : Int) (denominator : Nat) :
    towardZero (numerator / denominator : ℚ) = numerator.tdiv denominator := by
  have ofNonneg : ∀ numerator : Int, 0 ≤ numerator →
      towardZero (numerator / denominator : ℚ) = numerator.tdiv denominator := by
    intro numerator notNegative
    rw [towardZero_of_nonneg (by positivity), Rat.floor_intCast_div_natCast,
      Int.tdiv_eq_ediv_of_nonneg notNegative]
  rcases le_total 0 numerator with notNegative | notPositive
  · exact ofNonneg numerator notNegative
  · have opposite := ofNonneg (-numerator) (by omega)
    rw [Int.neg_tdiv, Int.cast_neg, neg_div, towardZero_neg] at opposite
    omega

/-- A number is less than one step farther from zero than its integer part. -/
theorem abs_lt_abs_towardZero (value : ℚ) : |value| < |(towardZero value : ℚ)| + 1 := by
  have ofNonneg : ∀ value : ℚ, 0 ≤ value → |value| < |(towardZero value : ℚ)| + 1 := by
    intro value notNegative
    rw [towardZero_of_nonneg notNegative, abs_of_nonneg notNegative]
    have below := Int.lt_floor_add_one value
    have atMost := le_abs_self (⌊value⌋ : ℚ)
    linarith
  rcases le_total 0 value with notNegative | notPositive
  · exact ofNonneg value notNegative
  · have opposite := ofNonneg (-value) (by linarith)
    rwa [abs_neg, towardZero_neg, Int.cast_neg, abs_neg] at opposite

namespace Decimal

variable {decimal : Decimal}

theorem abs_value (decimal : Decimal) :
    |decimal.value| = decimal.unscaled.natAbs / 10 ^ decimal.scale := by
  have scalePos : (0 : ℚ) < 10 ^ decimal.scale := zpow_pos (by norm_num) decimal.scale
  rw [value, abs_div, abs_of_pos scalePos, Nat.cast_natAbs, Int.cast_abs]

theorem value_eq_zero_iff : decimal.value = 0 ↔ decimal.unscaled = 0 := by
  have powerNonzero : (10 : ℚ) ^ decimal.scale ≠ 0 := zpow_ne_zero _ (by norm_num)
  rw [value, div_eq_zero_iff, or_iff_left powerNonzero, Int.cast_eq_zero]

/-- A decimal other than zero has at most so many digits before its point just if it is below the
power of ten with so many zeros. -/
theorem integerDigits_le_iff (nonzero : decimal.unscaled ≠ 0) (count : Int) :
    decimal.integerDigits ≤ count ↔ |decimal.value| < 10 ^ count := by
  have positive : 0 < decimal.unscaled.natAbs := by omega
  rcases size_bounds positive decimal.scale with ⟨atLeast, below⟩
  rw [abs_value, integerDigits]
  constructor
  · intro fewer
    exact below.trans_le (zpow_le_zpow_right₀ (by norm_num) fewer)
  · intro isBelow
    have shorter := (zpow_lt_zpow_iff_right₀ (by norm_num)).mp (atLeast.trans_lt isBelow)
    omega

theorem value_of_scale_nonpos (noFraction : decimal.scale ≤ 0) :
    decimal.value = (decimal.unscaled * 10 ^ (-decimal.scale).toNat : Int) := by
  obtain ⟨zeros, isScale⟩ := Int.exists_eq_neg_ofNat noFraction
  simp [value, isScale]

theorem value_of_scale_pos (hasFraction : 0 < decimal.scale) :
    decimal.value = decimal.unscaled / (10 ^ decimal.scale.toNat : Nat) := by
  obtain ⟨places, isScale⟩ := Int.eq_ofNat_of_zero_le hasFraction.le
  simp [value, isScale]

/-- The integer part of a decimal is the integer next to it on the side of zero, unless its size
is too great. -/
theorem integerPart?_eq (decimal : Decimal) :
    decimal.integerPart? =
      if maxIntegerDigits < decimal.integerDigits then none
      else some (towardZero decimal.value) := by
  simp only [integerPart?]
  split
  · rename_i noDigits
    have notTooMany : ¬maxIntegerDigits < decimal.integerDigits := by
      rw [maxIntegerDigits]
      omega
    have small : |decimal.value| < 1 := by
      by_cases isZero : decimal.unscaled = 0
      · simp [value_eq_zero_iff.mpr isZero]
      · simpa using (integerDigits_le_iff isZero 0).mp noDigits
    rw [if_neg notTooMany, towardZero_eq_zero small]
  · split
    · rfl
    · split
      · rename_i noFraction
        rw [value_of_scale_nonpos noFraction, towardZero_intCast]
      · rename_i hasFraction
        rw [value_of_scale_pos (not_le.mp hasFraction), towardZero_div]
        push_cast
        rfl

end Decimal

end JsonTables.Number
