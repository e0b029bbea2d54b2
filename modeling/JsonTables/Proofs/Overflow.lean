import JsonTables.Proofs.NearestNumbers
import JsonTables.Proofs.NumberOrder

/-!
# Overflow

A format has a greatest number, and numbers that are more than half a unit greater are rounded to
infinity.  So is the number in the middle, because the significand of the greatest number is odd.
No other number is: what does not overflow is rounded to a finite number, whichever way it is
written.
-/

namespace JsonTables.Number

namespace BinaryFormat

/-- Half a unit more than the greatest number of a format. -/
def overflowBound (format : BinaryFormat) : ℚ :=
  (2 ^ format.precision - 1 / 2) * 2 ^ format.maxExponent

/-- Whether a rational number is too great for a format, or its negative is. -/
def Overflows (format : BinaryFormat) (value : ℚ) : Prop :=
  format.overflowBound ≤ |value|

/-- Whether a format has bits and units, and numbers greater than one, but none beyond the reach
of decimals. -/
structure InReach (format : BinaryFormat) : Prop where
  precise : 0 < format.precision
  hasUnits : format.minExponent ≤ format.maxExponent
  someGreat : 0 ≤ format.maxExponent
  noneGreater : format.precision + format.maxExponent < 3 * Binary.decimalReach

theorem inReach_single : single.InReach :=
  ⟨by decide, by decide, by decide, by decide⟩

theorem inReach_double : double.InReach :=
  ⟨by decide, by decide, by decide, by decide⟩

variable {format : BinaryFormat}

theorem overflowBound_lt (format : BinaryFormat) :
    format.overflowBound < 2 ^ format.precision * 2 ^ format.maxExponent := by
  unfold overflowBound
  gcongr
  norm_num

/-- The bound is at least as many units as a significand with its last bit missing has. -/
theorem le_overflowBound (precise : 0 < format.precision) :
    2 ^ (format.precision - 1) * 2 ^ format.maxExponent ≤ format.overflowBound := by
  have isTwice : (2 : ℚ) ^ format.precision = 2 * 2 ^ (format.precision - 1) := by
    rw [← pow_succ', Nat.sub_add_cancel precise]
  have atLeastOne : (1 : ℚ) ≤ 2 ^ (format.precision - 1) := one_le_pow₀ (by norm_num)
  unfold overflowBound
  gcongr
  linarith

theorem overflowBound_pos (precise : 0 < format.precision) : 0 < format.overflowBound :=
  lt_of_lt_of_le (by positivity) (le_overflowBound precise)

/-- No number of a format overflows it. -/
theorem lt_overflowBound_of_holds {value : ℚ} (held : format.Holds value) :
    |value| < format.overflowBound := by
  apply (Binary.abs_le_of_holds held).trans_lt
  unfold overflowBound
  gcongr
  norm_num

end BinaryFormat

namespace Binary

open BinaryFormat (overflowBound overflowBound_lt le_overflowBound overflowBound_pos)

variable {format : BinaryFormat}

/-! ### Quotients -/

section

variable (inReach : format.InReach)

include inReach

/-- The greatest number of a format has all bits, and the greatest unit. -/
theorem canonical_greatest : format.Canonical (2 ^ format.precision - 1) format.maxExponent where
  small := Nat.sub_lt (Nat.pow_pos (by decide)) Nat.one_pos
  leastLe := inReach.hasUnits
  leGreatest := le_rfl
  full _ := by
    have fewer : 2 ^ (format.precision - 1) < 2 ^ format.precision :=
      Nat.pow_lt_pow_right (by decide) (Nat.sub_lt inReach.precise Nat.one_pos)
    omega

/-- The bound is the middle above the greatest number, the significand of which is odd. -/
theorem roundsToAtMost_greatest_iff {magnitude : ℚ} :
    RoundsToAtMost (2 ^ format.precision - 1) format.maxExponent magnitude ↔
      magnitude < format.overflowBound := by
  have isEven : 2 ^ format.precision % 2 = 0 :=
    Nat.mod_eq_zero_of_dvd (dvd_pow_self 2 inReach.precise.ne')
  have positive : 0 < 2 ^ format.precision := Nat.pow_pos (by decide)
  have isMiddle : middle (2 ^ format.precision - 1) format.maxExponent = format.overflowBound := by
    rw [middle, overflowBound, Nat.cast_pred positive]
    push_cast
    ring
  rw [RoundsToAtMost, isMiddle, or_iff_left]
  omega

/-- The nearest number to a magnitude is finite just if the magnitude does not overflow. -/
theorem IsNearest.isFinite_iff {negative : Bool} {number : Binary format} {magnitude : ℚ}
    (nearest : IsNearest negative number magnitude) (nonneg : 0 ≤ magnitude) :
    number.isFinite = true ↔ ¬format.Overflows magnitude := by
  have greatest := canonical_greatest inReach
  rw [BinaryFormat.Overflows, abs_of_nonneg nonneg, not_le, ← roundsToAtMost_greatest_iff inReach,
    ← nearest.atMost_iff _ _ greatest]
  rcases nearest.inFormat with rfl | ⟨significand, exponent, canonical, rfl⟩
  · exact iff_of_false Bool.false_ne_true (not_magnitudeAtMost_infinite _ _)
  · have small := canonical.small
    refine iff_of_true rfl (magnitudeAtMost_finite.mpr ?_)
    gcongr
    · omega
    · norm_num
    · exact canonical.leGreatest

/-- A quotient is rounded to a finite number just if it does not overflow. -/
theorem isFinite_ofQuotient_iff (negative : Bool) {numerator denominator : Nat}
    (denominatorPos : 0 < denominator) :
    (ofQuotient negative numerator denominator : Binary format).isFinite = true ↔
      ¬format.Overflows (numerator / denominator) :=
  (isNearest_ofQuotient inReach.precise inReach.hasUnits negative denominatorPos).isFinite_iff
    inReach (by positivity)

end

/-- What is not finite is infinite, with the sign of the quotient. -/
theorem ofQuotient_eq_infinite {negative : Bool} {numerator denominator : Nat}
    (notFinite : (ofQuotient negative numerator denominator : Binary format).isFinite = false) :
    (ofQuotient negative numerator denominator : Binary format) = .infinite negative := by
  simp only [ofQuotient] at notFinite ⊢
  grind [isFinite, zero]

/-! ### Decimals and numbers of another format -/

theorem one_le_overflowBound (inReach : format.InReach) : 1 ≤ format.overflowBound := by
  have units : (1 : ℚ) ≤ 2 ^ format.maxExponent := one_le_zpow₀ (by norm_num) inReach.someGreat
  have bits : (1 : ℚ) ≤ 2 ^ (format.precision - 1) := one_le_pow₀ (by norm_num)
  exact (one_le_mul_of_one_le_of_one_le bits units).trans (le_overflowBound inReach.precise)

/-- The first number that has a bit more than the greatest is within the reach of decimals. -/
theorem bits_le_reach (inReach : format.InReach) :
    (2 : ℚ) ^ format.precision * 2 ^ format.maxExponent ≤ 10 ^ decimalReach := by
  obtain ⟨units, isUnits⟩ := Int.eq_ofNat_of_zero_le inReach.someGreat
  have few : format.precision + units < 3 * 400 := by
    have noneGreater := inReach.noneGreater
    rw [isUnits, decimalReach] at noneGreater
    omega
  calc (2 : ℚ) ^ format.precision * 2 ^ format.maxExponent = 2 ^ (format.precision + units) := by
        rw [isUnits, zpow_natCast, pow_add]
    _ ≤ 10 ^ 400 := (two_pow_lt_ten_pow few).le
    _ = 10 ^ decimalReach := (zpow_natCast 10 400).symm

theorem overflowBound_le_reach (inReach : format.InReach) :
    format.overflowBound ≤ 10 ^ decimalReach :=
  (overflowBound_lt format).le.trans (bits_le_reach inReach)

theorem abs_signed (negative : Bool) (magnitude : ℚ) :
    |signed negative magnitude| = |magnitude| := by
  cases negative with
  | true => exact abs_neg magnitude
  | false => rfl

/-- Digits with an exponent are rounded to a finite number just if they do not overflow. -/
theorem isFinite_ofScientific_iff (inReach : format.InReach) (negative : Bool) (digits : Nat)
    (exponent : Int) :
    (ofScientific negative digits exponent : Binary format).isFinite = true ↔
      ¬format.Overflows (signed negative (digits * 10 ^ exponent)) := by
  have nonneg : (0 : ℚ) ≤ digits * 10 ^ exponent := by positivity
  rw [BinaryFormat.Overflows, abs_signed, abs_of_nonneg nonneg]
  rcases Nat.eq_zero_or_pos digits with rfl | digitsPos
  · apply iff_of_true rfl
    rw [Nat.cast_zero, zero_mul, not_le]
    exact overflowBound_pos inReach.precise
  · have bounds := Decimal.size_bounds digitsPos (-exponent)
    rw [zpow_neg, div_inv_eq_mul, sub_neg_eq_add] at bounds
    simp only [ofScientific, if_neg digitsPos.ne']
    split
    · rename_i beyond
      apply iff_of_false Bool.false_ne_true
      rw [not_not]
      calc format.overflowBound ≤ 10 ^ decimalReach := overflowBound_le_reach inReach
        _ ≤ 10 ^ ((digitCount digits : Int) + exponent - 1) :=
            zpow_le_zpow_right₀ (by norm_num) (by omega)
        _ ≤ digits * 10 ^ exponent := bounds.1
    · split
      · rename_i below
        apply iff_of_true rfl
        rw [not_le]
        calc (digits : ℚ) * 10 ^ exponent < 10 ^ ((digitCount digits : Int) + exponent) := bounds.2
          _ ≤ 10 ^ (0 : Int) := by
              apply zpow_le_zpow_right₀ (by norm_num)
              rw [decimalReach] at below
              omega
          _ ≤ format.overflowBound := (zpow_zero 10).trans_le (one_le_overflowBound inReach)
      · rw [isFinite_ofQuotient_iff inReach negative (Nat.pow_pos (by decide)),
          scientificQuotient_eq, BinaryFormat.Overflows, abs_of_nonneg nonneg]

/-- A finite number of another format is rounded to a finite number just if it does not
overflow. -/
theorem isFinite_convert_iff (inReach : format.InReach) {source : BinaryFormat}
    {number : Binary source} {rational : ℚ} (isRational : number.value? = some rational) :
    (number.convert : Binary format).isFinite = true ↔ ¬format.Overflows rational := by
  cases number with
  | nan => cases isRational
  | infinite negative => cases isRational
  | finite negative significand exponent =>
      cases isRational
      have denominatorPos : 0 < (quotient significand exponent).2 := Nat.pow_pos (by decide)
      rw [BinaryFormat.Overflows, abs_signed, ← quotient_eq]
      exact isFinite_ofQuotient_iff inReach negative denominatorPos

/-- A finite number that is not finite in another format is infinite there. -/
theorem convert_eq_infinite {source : BinaryFormat} {number : Binary source}
    (isFinite : number.isFinite = true)
    (notFinite : (number.convert : Binary format).isFinite = false) :
    ∃ negative, (number.convert : Binary format) = .infinite negative := by
  cases number with
  | nan => cases isFinite
  | infinite negative => cases isFinite
  | finite negative significand exponent => exact ⟨negative, ofQuotient_eq_infinite notFinite⟩

/-- A number that is not finite is infinite, if it is not one that is no number. -/
theorem isInfinite_eq_not_isFinite {number : Binary format}
    (isNumber : number.isFinite = false → ∃ negative, number = .infinite negative) :
    number.isInfinite = !number.isFinite := by
  cases number with
  | nan => cases (isNumber rfl).choose_spec
  | infinite negative => rfl
  | finite negative significand exponent => rfl

theorem exists_value? {number : Binary format} (isFinite : number.isFinite = true) :
    ∃ rational, number.value? = some rational := by
  cases number with
  | nan => cases isFinite
  | infinite negative => cases isFinite
  | finite negative significand exponent => exact ⟨_, rfl⟩

theorem atMost_iff {number : Binary format} {rational : ℚ}
    (isRational : number.value? = some rational) (bound : ℚ) :
    number.AtMost bound ↔ rational ≤ bound := by
  cases number <;> cases isRational
  rfl

theorem atLeast_iff {number : Binary format} {rational : ℚ}
    (isRational : number.value? = some rational) (bound : ℚ) :
    number.AtLeast bound ↔ bound ≤ rational := by
  cases number <;> cases isRational
  rfl

section

variable {number : Binary format} {rational rounded bound : ℚ} (rounds : Rounds number rational)
  (isRounded : number.value? = some rounded) (held : format.Holds bound)

include rounds isRounded held

/-- Rounding leaps over no magnitude that the format has. -/
theorem Rounds.abs_value_le (atMost : |rational| ≤ bound) : |rounded| ≤ bound := by
  rw [abs_le] at atMost ⊢
  exact ⟨(atLeast_iff isRounded _).mp (rounds.atLeast _ (holds_neg held) atMost.1),
    (atMost_iff isRounded _).mp (rounds.atMost _ held atMost.2)⟩

theorem Rounds.le_abs_value (atLeast : bound ≤ |rational|) : bound ≤ |rounded| := by
  rw [le_abs] at atLeast ⊢
  rcases atLeast with atLeast | atMost
  · exact .inl ((atLeast_iff isRounded _).mp (rounds.atLeast _ held atLeast))
  · have isAtMost := rounds.atMost (-bound) (holds_neg held) (le_neg.mp atMost)
    exact .inr (le_neg.mpr ((atMost_iff isRounded _).mp isAtMost))

end

theorem ofScientific_eq_infinite {negative : Bool} {digits : Nat} {exponent : Int}
    (notFinite : (ofScientific negative digits exponent : Binary format).isFinite = false) :
    (ofScientific negative digits exponent : Binary format) = .infinite negative := by
  simp only [ofScientific] at notFinite ⊢
  grind [isFinite, zero, ofQuotient_eq_infinite]

/-- The bound of 32 bits is a number of 64 bits. -/
theorem holds_overflowBound_single :
    BinaryFormat.double.Holds BinaryFormat.single.overflowBound := by
  refine ⟨2 ^ 25 - 1, 103, by decide, by decide, by decide, ?_⟩
  rw [abs_of_pos (overflowBound_pos (by decide))]
  norm_num [overflowBound, BinaryFormat.single]

end Binary

end JsonTables.Number
