import JsonTables.Cell
import Mathlib

/-!
# Exact numbers

A decimal and a finite binary number stand for rational numbers.  Decimals are compared by
their sizes and then digit by digit, and binary numbers by cross-multiplication; both come to
the order of the rational numbers, whatever the scales and the exponents.
-/

namespace JsonTables.Number

namespace Decimal

/-- The rational number that a decimal stands for. -/
def value (decimal : Decimal) : ℚ :=
  decimal.unscaled / 10 ^ decimal.scale

end Decimal

/-- A power with any exponent, as a quotient of powers with natural ones. -/
theorem pow_toNat_div_pow_toNat (base : ℚ) (exponent : Int) :
    base ^ exponent.toNat / base ^ (-exponent).toNat = base ^ exponent := by
  rcases exponent.eq_nat_or_neg with ⟨count, rfl | rfl⟩
  · simp
  · simp [zpow_neg]

/-- Natural numbers are ordered as the rational numbers that they are. -/
theorem compare_natCast (first second : Nat) :
    Ord.compare first second = cmp (first : ℚ) second := by
  rw [Nat.strictMono_cast.cmp_map_eq, cmp_eq_compare]

theorem compare_intCast (first second : Int) :
    Ord.compare first second = cmp (first : ℚ) second := by
  rw [Int.cast_strictMono.cmp_map_eq, cmp_eq_compare]

/-! ### Decimals -/

theorem digitCount_bounds {value : Nat} (positive : 0 < value) :
    10 ^ (digitCount value - 1) ≤ value ∧ value < 10 ^ digitCount value := by
  have atLeastOne : 0 < digitCount value := Nat.length_toDigits_pos
  constructor
  · by_contra below
    rw [Nat.not_le] at below
    by_cases isOne : digitCount value = 1
    · rw [isOne] at below
      omega
    · have fewer : digitCount value ≤ digitCount value - 1 :=
        (Nat.length_toDigits_le_iff (by decide) (by omega)).mpr below
      omega
  · exact (Nat.length_toDigits_le_iff (by decide) atLeastOne).mp le_rfl

namespace Decimal

/-- A positive decimal lies between the powers of ten that its size tells. -/
theorem size_bounds {digits : Nat} (positive : 0 < digits) (scale : Int) :
    (10 : ℚ) ^ ((digitCount digits : Int) - scale - 1) ≤ digits / 10 ^ scale ∧
      (digits : ℚ) / 10 ^ scale < 10 ^ ((digitCount digits : Int) - scale) := by
  have atLeastOne : 0 < digitCount digits := Nat.length_toDigits_pos
  rcases digitCount_bounds positive with ⟨lower, upper⟩
  have scalePos : (0 : ℚ) < 10 ^ scale := zpow_pos (by norm_num) scale
  constructor
  · rw [le_div_iff₀ scalePos, ← zpow_add₀ (by norm_num)]
    have exponent : (digitCount digits : Int) - scale - 1 + scale =
        (digitCount digits - 1 : Nat) := by omega
    rw [exponent, zpow_natCast]
    exact_mod_cast lower
  · rw [div_lt_iff₀ scalePos, ← zpow_add₀ (by norm_num), Int.sub_add_cancel, zpow_natCast]
    exact_mod_cast upper

theorem compareMagnitude_eq_cmp {first second : Nat} (firstPos : 0 < first)
    (secondPos : 0 < second) (firstScale secondScale : Int) :
    compareMagnitude first firstScale second secondScale =
      cmp ((first : ℚ) / 10 ^ firstScale) (second / 10 ^ secondScale) := by
  have firstBounds := size_bounds firstPos firstScale
  have secondBounds := size_bounds secondPos secondScale
  have powLe : ∀ {low high : Int}, low ≤ high → (10 : ℚ) ^ low ≤ 10 ^ high :=
    fun isLe => zpow_le_zpow_right₀ (by norm_num) isLe
  simp only [compareMagnitude]
  split
  · rename_i smaller
    symm
    rw [cmp_eq_lt_iff]
    calc (first : ℚ) / 10 ^ firstScale < 10 ^ ((digitCount first : Int) - firstScale) :=
          firstBounds.2
      _ ≤ 10 ^ ((digitCount second : Int) - secondScale - 1) := powLe (by omega)
      _ ≤ second / 10 ^ secondScale := secondBounds.1
  · split
    · rename_i greater
      symm
      rw [cmp_eq_gt_iff]
      calc (second : ℚ) / 10 ^ secondScale < 10 ^ ((digitCount second : Int) - secondScale) :=
            secondBounds.2
        _ ≤ 10 ^ ((digitCount first : Int) - firstScale - 1) := powLe (by omega)
        _ ≤ first / 10 ^ firstScale := firstBounds.1
    · -- the sizes are one, so both are multiplied by powers of ten until they are integers
      have shift := pow_toNat_div_pow_toNat 10 (secondScale - firstScale)
      rw [neg_sub, div_eq_iff (by positivity), zpow_sub₀ (by norm_num)] at shift
      have factorPos : (0 : ℚ) < 10 ^ secondScale * 10 ^ (firstScale - secondScale).toNat := by
        positivity
      rw [compare_natCast, ← cmp_mul_pos_right factorPos (first / 10 ^ firstScale : ℚ)]
      push_cast
      rw [shift]
      congr 1
      · field_simp
      · field_simp

theorem value_eq_natAbs (decimal : Decimal) (notNegative : 0 ≤ decimal.unscaled) :
    decimal.value = decimal.unscaled.natAbs / 10 ^ decimal.scale := by
  rw [value, Nat.cast_natAbs, abs_of_nonneg notNegative]

theorem value_eq_neg_natAbs (decimal : Decimal) (negative : decimal.unscaled < 0) :
    decimal.value = -(decimal.unscaled.natAbs / 10 ^ decimal.scale) := by
  rw [value, Nat.cast_natAbs, abs_of_neg negative]
  push_cast
  ring

theorem value_nonneg {decimal : Decimal} (notNegative : 0 ≤ decimal.unscaled) :
    0 ≤ decimal.value := by
  rw [value_eq_natAbs decimal notNegative]
  positivity

theorem value_pos {decimal : Decimal} (positive : 0 < decimal.unscaled) : 0 < decimal.value := by
  have absPos : 0 < decimal.unscaled.natAbs := by omega
  rw [value_eq_natAbs decimal positive.le]
  positivity

theorem value_neg {decimal : Decimal} (negative : decimal.unscaled < 0) : decimal.value < 0 := by
  have absPos : 0 < decimal.unscaled.natAbs := by omega
  rw [value_eq_neg_natAbs decimal negative, neg_lt_zero]
  positivity

theorem value_lt_of_sign_lt {first second : Decimal}
    (signLt : first.unscaled.sign < second.unscaled.sign) : first.value < second.value := by
  rcases lt_trichotomy first.unscaled 0 with firstNeg | firstZero | firstPos
  · rcases lt_or_ge second.unscaled 0 with secondNeg | secondNonneg
    · rw [Int.sign_eq_neg_one_of_neg firstNeg, Int.sign_eq_neg_one_of_neg secondNeg] at signLt
      omega
    · exact (value_neg firstNeg).trans_le (value_nonneg secondNonneg)
  · rw [firstZero, Int.sign_zero, Int.sign_pos_iff] at signLt
    rw [value, firstZero, Int.cast_zero, zero_div]
    exact value_pos signLt
  · rw [Int.sign_eq_one_of_pos firstPos] at signLt
    rcases Int.sign_trichotomy second.unscaled with isOne | isZero | isNegative <;> omega

/-- Decimals are compared as the numbers that they stand for. -/
theorem compare_eq_cmp (first second : Decimal) :
    first.compare second = cmp first.value second.value := by
  simp only [compare]
  split
  · rename_i signLt
    rw [Std.compare_eq_lt] at signLt
    exact (cmp_eq_lt_iff _ _).mpr (value_lt_of_sign_lt signLt) |>.symm
  · rename_i signGt
    rw [Std.compare_eq_gt] at signGt
    exact (cmp_eq_gt_iff _ _).mpr (value_lt_of_sign_lt signGt) |>.symm
  · rename_i sameSign
    rw [Std.compare_eq_iff_eq] at sameSign
    symm
    split
    · rename_i firstZero
      rw [firstZero, Int.sign_zero, eq_comm, Int.sign_eq_zero_iff_zero] at sameSign
      rw [cmp_eq_eq_iff, value, value, firstZero, sameSign, Int.cast_zero, zero_div, zero_div]
    · split
      · rename_i firstPos
        rw [Int.sign_eq_one_of_pos firstPos, eq_comm, Int.sign_eq_one_iff_pos] at sameSign
        rw [value_eq_natAbs _ firstPos.le, value_eq_natAbs _ sameSign.le,
          compareMagnitude_eq_cmp (by omega) (by omega)]
      · rename_i firstNonzero firstNotPos
        have firstNeg : first.unscaled < 0 := by omega
        rw [Int.sign_eq_neg_one_of_neg firstNeg, eq_comm, Int.sign_eq_neg_one_iff_neg] at sameSign
        rw [value_eq_neg_natAbs _ firstNeg, value_eq_neg_natAbs _ sameSign,
          compareMagnitude_eq_cmp (by omega) (by omega)]
        -- the greater magnitude is the lesser number
        exact StrictAnti.cmp_map_eq (fun _ _ => neg_lt_neg) _ _

theorem value_ofInt (value : Int) : (ofInt value).value = value := by
  simp [ofInt, Decimal.value]

end Decimal

/-! ### Binary numbers -/

/-- A magnitude with a sign. -/
def signed (negative : Bool) (magnitude : ℚ) : ℚ :=
  if negative then -magnitude else magnitude

namespace Binary

variable {format : BinaryFormat}

/-- The rational number that a finite binary number stands for. -/
def value? : Binary format → Option ℚ
  | .finite negative significand exponent => some (signed negative (significand * 2 ^ exponent))
  | _ => none

theorem quotient_eq (significand : Nat) (exponent : Int) :
    ((quotient significand exponent).1 : ℚ) / (quotient significand exponent).2 =
      significand * 2 ^ exponent := by
  simp only [quotient]
  push_cast
  rw [mul_div_assoc, pow_toNat_div_pow_toNat]

theorem signedQuotient_eq (negative : Bool) (significand : Nat) (exponent : Int) :
    ((signedQuotient negative significand exponent).1 : ℚ) /
        (signedQuotient negative significand exponent).2 =
      signed negative (significand * 2 ^ exponent) := by
  rw [← quotient_eq, signedQuotient, signed]
  cases negative with
  | true => simp [neg_div]
  | false => simp

theorem signedQuotient_pos (negative : Bool) (significand : Nat) (exponent : Int) :
    0 < (signedQuotient negative significand exponent).2 :=
  Nat.pow_pos (by decide)

/-- Finite binary numbers are compared as the numbers that they stand for. -/
theorem compare_eq_cmp {first second : Binary format} {firstValue secondValue : ℚ}
    (isFirst : first.value? = some firstValue) (isSecond : second.value? = some secondValue) :
    first.compare second = some (cmp firstValue secondValue) := by
  cases first with
  | nan => cases isFirst
  | infinite negative => cases isFirst
  | finite firstSign firstPart firstExponent =>
      cases second with
      | nan => cases isSecond
      | infinite negative => cases isSecond
      | finite secondSign secondPart secondExponent =>
          cases isFirst
          cases isSecond
          rw [← signedQuotient_eq, ← signedQuotient_eq, compare]
          have firstPos := signedQuotient_pos firstSign firstPart firstExponent
          have secondPos := signedQuotient_pos secondSign secondPart secondExponent
          generalize signedQuotient firstSign firstPart firstExponent = first at *
          generalize signedQuotient secondSign secondPart secondExponent = second at *
          have factorPos : (0 : ℚ) < first.2 * second.2 := by positivity
          rw [Option.some.injEq, compare_intCast,
            ← cmp_mul_pos_right factorPos (first.1 / first.2 : ℚ)]
          push_cast
          congr 1
          · field_simp
          · field_simp

end Binary

end JsonTables.Number
