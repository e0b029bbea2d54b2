import JsonTables.Proofs.Rounding

/-!
# Nearest numbers

A magnitude is rounded to at most a number of a format just if it is below the middle between the
number and the next, or in the middle and the significand of the number is even.  A number of a
format has one significand and one exponent if it has all the bits that it can have, so what is
rounded is told by the middles that are above it: two magnitudes are rounded to one number just if
no middle lies between them.
-/

namespace JsonTables.Number

/-- Whether a significand is one of a format at an exponent: it has all the bits that the format
has, unless the exponent is the least. -/
structure BinaryFormat.Canonical (format : BinaryFormat) (significand : Nat) (exponent : Int) :
    Prop where
  small : significand < 2 ^ format.precision
  leastLe : format.minExponent ≤ exponent
  leGreatest : exponent ≤ format.maxExponent
  full : format.minExponent < exponent → 2 ^ (format.precision - 1) ≤ significand

namespace Binary

variable {format : BinaryFormat}

/-- The middle between so many units and one more. -/
def middle (significand : Nat) (exponent : Int) : ℚ :=
  (significand + 1 / 2) * 2 ^ exponent

/-- Whether a magnitude is rounded to at most so many units: it is less than the middle above them,
or in the middle and the units are even. -/
def RoundsToAtMost (significand : Nat) (exponent : Int) (magnitude : ℚ) : Prop :=
  magnitude < middle significand exponent ∨
    significand % 2 = 0 ∧ magnitude = middle significand exponent

/-- Whether a number is finite and its magnitude is at most a rational number. -/
def MagnitudeAtMost (number : Binary format) (bound : ℚ) : Prop :=
  ∃ rational, number.value? = some rational ∧ |rational| ≤ bound

/-! ### The nearest integer to the middle -/

theorem nearestQuotient_le_iff {numerator denominator bound : Nat} (positive : 0 < denominator) :
    nearestQuotient numerator denominator ≤ bound ↔
      2 * numerator < (2 * bound + 1) * denominator ∨
        bound % 2 = 0 ∧ 2 * numerator = (2 * bound + 1) * denominator := by
  have parts := Nat.div_add_mod numerator denominator
  have restLt := Nat.mod_lt numerator positive
  have isMiddle : (2 * bound + 1) * denominator = 2 * (denominator * bound) + denominator := by ring
  simp only [nearestQuotient]
  generalize numerator / denominator = quotient at *
  generalize numerator % denominator = rest at *
  rcases lt_trichotomy quotient bound with less | rfl | greater
  · have nextLe : denominator * (quotient + 1) ≤ denominator * bound :=
      Nat.mul_le_mul_left denominator less
    rw [Nat.mul_add_one] at nextLe
    have isLess : 2 * numerator < (2 * bound + 1) * denominator := by omega
    rw [iff_true_right (.inl isLess)]
    split
    · omega
    · split
      · omega
      · split <;> omega
  · rw [isMiddle, ← parts]
    split
    · omega
    · split
      · omega
      · split <;> omega
  · have nextLe : denominator * (bound + 1) ≤ denominator * quotient :=
      Nat.mul_le_mul_left denominator greater
    rw [Nat.mul_add_one] at nextLe
    have isGreater : (2 * bound + 1) * denominator < 2 * numerator := by omega
    rw [iff_false_right (by omega)]
    split
    · omega
    · split
      · omega
      · split <;> omega

/-- The nearest multiple of a unit is at most a multiple just if the quotient is rounded so. -/
theorem rounded_le_iff {numerator denominator : Nat} (denominatorPos : 0 < denominator)
    (bound : Nat) (unit : Int) :
    nearestQuotient (scaledPair numerator denominator unit).1
        (scaledPair numerator denominator unit).2 ≤ bound ↔
      RoundsToAtMost bound unit (numerator / denominator) := by
  have scaledPos := scaledPair_pos denominatorPos numerator unit
  have scaledCast : (0 : ℚ) < (scaledPair numerator denominator unit).2 := by
    exact_mod_cast scaledPos
  have unitPos : (0 : ℚ) < 2 ^ unit := by positivity
  rw [nearestQuotient_le_iff scaledPos, RoundsToAtMost, middle, ← div_lt_iff₀ unitPos,
    ← div_eq_iff unitPos.ne', ← scaledPair_eq, div_lt_iff₀ scaledCast, div_eq_iff scaledCast.ne']
  generalize (scaledPair numerator denominator unit).1 = above
  generalize (scaledPair numerator denominator unit).2 = below
  apply or_congr
  · rw [← Nat.cast_lt (α := ℚ)]
    push_cast
    constructor <;> intro isLess <;> linarith
  · rw [← Nat.cast_inj (R := ℚ) (m := 2 * above)]
    push_cast
    apply and_congr_right
    intro _
    constructor <;> intro same <;> linarith

/-! ### Significands of a format -/

theorem lt_middle (significand : Nat) (exponent : Int) :
    (significand : ℚ) * 2 ^ exponent < middle significand exponent := by
  unfold middle
  gcongr
  linarith

theorem middle_lt (significand : Nat) (exponent : Int) :
    middle significand exponent < (significand + 1 : Nat) * 2 ^ exponent := by
  unfold middle
  push_cast
  gcongr
  norm_num

/-- With all bits of a coarser unit, a number is greater than all with a finer one. -/
theorem bits_le_of_full (precise : 0 < format.precision) {significand : Nat}
    (full : 2 ^ (format.precision - 1) ≤ significand) {unit exponent : Int}
    (finer : unit < exponent) :
    (2 : ℚ) ^ format.precision * 2 ^ unit ≤ significand * 2 ^ exponent := by
  calc (2 : ℚ) ^ format.precision * 2 ^ unit = 2 ^ (format.precision - 1) * 2 ^ (unit + 1) :=
        (pow_pred_mul precise unit).symm
    _ ≤ significand * 2 ^ exponent := by
        gcongr
        · exact_mod_cast full
        · norm_num
        · omega

/-- The next number is at most the first one that has a bit more. -/
theorem next_le_bits {significand : Nat} {exponent : Int}
    (canonical : format.Canonical significand exponent) :
    ((significand + 1 : Nat) : ℚ) * 2 ^ exponent ≤ 2 ^ format.precision * 2 ^ exponent := by
  gcongr
  exact_mod_cast canonical.small

section

variable (precise : 0 < format.precision) {significand other : Nat} {exponent otherExponent : Int}
  (canonical : format.Canonical significand exponent)

include precise canonical

/-- A number with a coarser unit is greater than any with a finer one, and the next to that. -/
theorem next_le_of_exponent_lt (otherCanonical : format.Canonical other otherExponent)
    (finer : exponent < otherExponent) :
    ((significand + 1 : Nat) : ℚ) * 2 ^ exponent ≤ other * 2 ^ otherExponent :=
  (next_le_bits canonical).trans
    (bits_le_of_full precise (otherCanonical.full (canonical.leastLe.trans_lt finer)) finer)

/-- No number of a format lies between two neighbours. -/
theorem le_of_lt_next (otherCanonical : format.Canonical other otherExponent)
    (less : (other : ℚ) * 2 ^ otherExponent < (significand + 1 : Nat) * 2 ^ exponent) :
    (other : ℚ) * 2 ^ otherExponent ≤ significand * 2 ^ exponent := by
  rcases lt_trichotomy otherExponent exponent with finer | rfl | coarser
  · have nextLe := next_le_of_exponent_lt precise otherCanonical canonical finer
    push_cast at nextLe
    have unitPos : (0 : ℚ) < 2 ^ otherExponent := by positivity
    linarith
  · have unitPos : (0 : ℚ) < 2 ^ otherExponent := by positivity
    have isLess := (mul_lt_mul_iff_left₀ unitPos).mp less
    have isLe : other ≤ significand := Nat.lt_add_one_iff.mp (by exact_mod_cast isLess)
    gcongr
  · exact absurd less
      (not_lt.mpr (next_le_of_exponent_lt precise canonical otherCanonical coarser))

/-- A number has one significand and one exponent. -/
theorem canonical_unique (otherCanonical : format.Canonical other otherExponent)
    (same : (significand : ℚ) * 2 ^ exponent = other * 2 ^ otherExponent) :
    significand = other ∧ exponent = otherExponent := by
  have next : ∀ (part : Nat) (unit : Int),
      (part : ℚ) * 2 ^ unit < ((part + 1 : Nat) : ℚ) * 2 ^ unit :=
    fun part unit => (lt_middle part unit).trans (middle_lt part unit)
  rcases lt_trichotomy exponent otherExponent with finer | rfl | coarser
  · have nextLe := next_le_of_exponent_lt precise canonical otherCanonical finer
    exact absurd same ((next _ _).trans_le nextLe).ne
  · have unitPos : (0 : ℚ) < 2 ^ exponent := by positivity
    exact ⟨by exact_mod_cast (mul_left_inj' unitPos.ne').mp same, rfl⟩
  · have nextLe := next_le_of_exponent_lt precise otherCanonical canonical coarser
    exact absurd same ((next _ _).trans_le nextLe).ne'

end

/-! ### Rounded magnitudes -/

theorem magnitudeAtMost_finite {negative : Bool} {significand : Nat} {exponent : Int} {bound : ℚ} :
    (finite negative significand exponent : Binary format).MagnitudeAtMost bound ↔
      (significand : ℚ) * 2 ^ exponent ≤ bound := by
  have nonneg : (0 : ℚ) ≤ significand * 2 ^ exponent := by positivity
  cases negative <;> simp [MagnitudeAtMost, value?, signed, abs_of_nonneg nonneg]

theorem not_magnitudeAtMost_infinite (negative : Bool) (bound : ℚ) :
    ¬(infinite negative : Binary format).MagnitudeAtMost bound := by
  rintro ⟨_, ⟨⟩, _⟩

/-- Whether a number with a sign is the nearest of its format to a magnitude, and the even one of
two that are as near.  It is infinite where the magnitude is greater than all middles. -/
structure IsNearest (negative : Bool) (number : Binary format) (magnitude : ℚ) : Prop where
  inFormat : number = .infinite negative ∨ ∃ significand exponent,
    format.Canonical significand exponent ∧ number = .finite negative significand exponent
  atMost_iff : ∀ significand exponent, format.Canonical significand exponent →
    (number.MagnitudeAtMost (significand * 2 ^ exponent) ↔
      RoundsToAtMost significand exponent magnitude)

/-- Magnitudes have one nearest number just if the same middles are above them. -/
theorem IsNearest.eq_iff (precise : 0 < format.precision) {negative : Bool}
    {number other : Binary format} {magnitude otherMagnitude : ℚ}
    (nearest : IsNearest negative number magnitude)
    (otherNearest : IsNearest negative other otherMagnitude) :
    number = other ↔ ∀ significand exponent, format.Canonical significand exponent →
      (RoundsToAtMost significand exponent magnitude ↔
        RoundsToAtMost significand exponent otherMagnitude) := by
  constructor
  · rintro rfl significand exponent canonical
    exact (nearest.atMost_iff _ _ canonical).symm.trans (otherNearest.atMost_iff _ _ canonical)
  · intro sameMiddles
    have sameBounds : ∀ significand exponent, format.Canonical significand exponent →
        (number.MagnitudeAtMost (significand * 2 ^ exponent) ↔
          other.MagnitudeAtMost (significand * 2 ^ exponent)) := by
      intro significand exponent canonical
      rw [nearest.atMost_iff _ _ canonical, otherNearest.atMost_iff _ _ canonical,
        sameMiddles _ _ canonical]
    rcases nearest.inFormat with rfl | ⟨significand, exponent, canonical, rfl⟩
    · rcases otherNearest.inFormat with rfl | ⟨significand, exponent, canonical, rfl⟩
      · rfl
      · exact absurd ((sameBounds _ _ canonical).mpr (magnitudeAtMost_finite.mpr le_rfl))
          (not_magnitudeAtMost_infinite _ _)
    · have otherLe := (sameBounds _ _ canonical).mp (magnitudeAtMost_finite.mpr le_rfl)
      rcases otherNearest.inFormat with rfl | ⟨otherPart, otherExponent, otherCanonical, rfl⟩
      · exact absurd otherLe (not_magnitudeAtMost_infinite _ _)
      · have numberLe := (sameBounds _ _ otherCanonical).mpr (magnitudeAtMost_finite.mpr le_rfl)
        have sameValue := le_antisymm (magnitudeAtMost_finite.mp numberLe)
          (magnitudeAtMost_finite.mp otherLe)
        obtain ⟨rfl, rfl⟩ := canonical_unique precise canonical otherCanonical sameValue
        rfl

theorem roundsToAtMost_zero (significand : Nat) (exponent : Int) :
    RoundsToAtMost significand exponent 0 := by
  left
  unfold middle
  positivity

/-- The number zero is the nearest to a magnitude that is below all middles. -/
theorem isNearest_zero (isRange : format.minExponent ≤ format.maxExponent) (negative : Bool)
    {magnitude : ℚ} (below : ∀ significand exponent, format.Canonical significand exponent →
      RoundsToAtMost significand exponent magnitude) :
    IsNearest negative (zero negative : Binary format) magnitude where
  inFormat := .inr ⟨0, format.minExponent,
    ⟨Nat.pow_pos (by decide), le_rfl, isRange, fun less => absurd less (lt_irrefl _)⟩, rfl⟩
  atMost_iff significand exponent canonical := by
    refine iff_of_true (magnitudeAtMost_finite.mpr ?_) (below _ _ canonical)
    rw [Nat.cast_zero, zero_mul]
    positivity

/-- An infinite number is the nearest to a magnitude that is beyond all middles. -/
theorem isNearest_infinite (negative : Bool) {magnitude : ℚ}
    (beyond : ∀ significand exponent, format.Canonical significand exponent →
      ¬RoundsToAtMost significand exponent magnitude) :
    IsNearest negative (infinite negative : Binary format) magnitude where
  inFormat := .inl rfl
  atMost_iff _ _ canonical :=
    iff_of_false (not_magnitudeAtMost_infinite _ _) (beyond _ _ canonical)

section

variable (precise : 0 < format.precision) (negative : Bool) {numerator denominator : Nat}
  (numeratorPos : 0 < numerator) (denominatorPos : 0 < denominator)

include precise numeratorPos denominatorPos

theorem canonical_ofQuotient :
    (ofQuotient negative numerator denominator : Binary format) = .infinite negative ∨
      ∃ significand exponent, format.Canonical significand exponent ∧
        (ofQuotient negative numerator denominator : Binary format) =
          .finite negative significand exponent := by
  have bits : (numerator : ℚ) / denominator <
      (2 ^ format.precision : Nat) * 2 ^ unitExponent format numerator denominator := by
    exact_mod_cast lt_bits_of_unitExponent precise denominatorPos
  have roundedLe := rounded_le denominatorPos bits.le
  have leastLe : format.minExponent ≤ unitExponent format numerator denominator :=
    le_max_right _ _
  have fullLe : format.minExponent < unitExponent format numerator denominator →
      2 ^ (format.precision - 1) ≤ nearestQuotient
        (scaledPair numerator denominator (unitExponent format numerator denominator)).1
        (scaledPair numerator denominator (unitExponent format numerator denominator)).2 := by
    intro above
    have firstBit := bits_of_unitExponent precise numeratorPos denominatorPos above
    exact le_rounded denominatorPos (by exact_mod_cast firstBit)
  simp only [ofQuotient, if_neg numeratorPos.ne']
  split
  · split
    · exact .inl rfl
    · have fewer : 2 ^ (format.precision - 1) < 2 ^ format.precision :=
        Nat.pow_lt_pow_right (by decide) (by omega)
      exact .inr ⟨_, _, ⟨fewer, by omega, by omega, fun _ => le_rfl⟩, rfl⟩
  · split
    · exact .inl rfl
    · exact .inr ⟨_, _, ⟨by omega, leastLe, by omega, fullLe⟩, rfl⟩

/-- A quotient is rounded to at most a number of the format just if the middle above that is above
it too. -/
theorem ofQuotient_atMost_iff {significand : Nat} {exponent : Int}
    (canonical : format.Canonical significand exponent) :
    (ofQuotient negative numerator denominator : Binary format).MagnitudeAtMost
        (significand * 2 ^ exponent) ↔
      RoundsToAtMost significand exponent (numerator / denominator) := by
  set unit := unitExponent format numerator denominator with isUnit
  set rounded := nearestQuotient (scaledPair numerator denominator unit).1
    (scaledPair numerator denominator unit).2 with isRounded
  have bits : (numerator : ℚ) / denominator < 2 ^ format.precision * 2 ^ unit :=
    lt_bits_of_unitExponent precise denominatorPos
  have leastLe : format.minExponent ≤ unit := le_max_right _ _
  have outcome := ofQuotient_eq precise negative numeratorPos denominator isUnit isRounded
  have leGreatest := canonical.leGreatest
  rcases lt_trichotomy unit exponent with finer | rfl | coarser
  · -- the quotient has not enough bits to come near the number
    have full := canonical.full (leastLe.trans_lt finer)
    have bitsLe := bits_le_of_full precise full finer
    have roundedLe : rounded ≤ 2 ^ format.precision :=
      rounded_le denominatorPos (by exact_mod_cast bits.le)
    rcases outcome with ⟨ownPart, ownExponent, isFinite, isValue⟩ | ⟨_, tooGreat⟩
    · refine iff_of_true ?_ (.inl ((bits.trans_le bitsLe).trans (lt_middle _ _)))
      rw [isFinite, magnitudeAtMost_finite, isValue]
      refine le_trans ?_ bitsLe
      gcongr
      exact_mod_cast roundedLe
    · omega
  · rw [← rounded_le_iff denominatorPos, ← isRounded]
    rcases outcome with ⟨ownPart, ownExponent, isFinite, isValue⟩ | ⟨isInfinite, tooGreat⟩
    · have unitPos : (0 : ℚ) < 2 ^ unit := by positivity
      rw [isFinite, magnitudeAtMost_finite, isValue, mul_le_mul_iff_left₀ unitPos, Nat.cast_le]
    · have isFull : rounded = 2 ^ format.precision := by omega
      have small := canonical.small
      rw [isInfinite]
      exact iff_of_false (not_magnitudeAtMost_infinite _ _) (by omega)
  · -- the quotient has a bit that the number has no room for
    have above := canonical.leastLe.trans_lt coarser
    have firstBit : (2 : ℚ) ^ (format.precision - 1) * 2 ^ unit ≤ numerator / denominator :=
      bits_of_unitExponent precise numeratorPos denominatorPos above
    have full : 2 ^ (format.precision - 1) ≤ rounded :=
      le_rounded denominatorPos (by exact_mod_cast firstBit)
    have nextLe : ((significand + 1 : Nat) : ℚ) * 2 ^ exponent ≤ numerator / denominator := by
      have bitsLe := bits_le_of_full precise le_rfl coarser
      push_cast at bitsLe
      exact (next_le_bits canonical).trans (bitsLe.trans firstBit)
    have middleLt := (middle_lt significand exponent).trans_le nextLe
    apply iff_of_false
    · rcases outcome with ⟨ownPart, ownExponent, isFinite, isValue⟩ | ⟨isInfinite, _⟩
      · rw [isFinite, magnitudeAtMost_finite, isValue, not_le]
        calc (significand : ℚ) * 2 ^ exponent < (significand + 1 : Nat) * 2 ^ exponent :=
              (lt_middle _ _).trans (middle_lt _ _)
          _ ≤ 2 ^ format.precision * 2 ^ exponent := next_le_bits canonical
          _ ≤ rounded * 2 ^ unit := bits_le_of_full precise full coarser
      · rw [isInfinite]
        exact not_magnitudeAtMost_infinite _ _
    · rintro (below | ⟨_, isMiddle⟩)
      · exact absurd below (not_lt.mpr middleLt.le)
      · exact middleLt.ne' isMiddle

end

/-- A quotient is rounded to the nearest number. -/
theorem isNearest_ofQuotient (precise : 0 < format.precision)
    (isRange : format.minExponent ≤ format.maxExponent) (negative : Bool)
    {numerator denominator : Nat} (denominatorPos : 0 < denominator) :
    IsNearest negative (ofQuotient negative numerator denominator : Binary format)
      (numerator / denominator) := by
  rcases Nat.eq_zero_or_pos numerator with rfl | numeratorPos
  · rw [Nat.cast_zero, zero_div]
    exact isNearest_zero isRange negative fun _ _ _ => roundsToAtMost_zero _ _
  · exact ⟨canonical_ofQuotient precise negative numeratorPos denominatorPos,
      fun _ _ canonical =>
        ofQuotient_atMost_iff precise negative numeratorPos denominatorPos canonical⟩

end Binary

end JsonTables.Number
