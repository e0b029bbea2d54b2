import JsonTables.Proofs.ExactNumbers

/-!
# Rounding to binary numbers

A quotient is rounded to the nearest multiple of a unit, which is fine enough to keep as many
bits as the format has.  So rounding never leaps over a number of the format: what is at most
such a number is rounded to one that is at most it, and what is at least it to one that is at
least it.  A number of the format is therefore rounded to itself.
-/

namespace JsonTables.Number

/-- Whether a rational number is one of the numbers of a format. -/
def BinaryFormat.Holds (format : BinaryFormat) (value : ℚ) : Prop :=
  ∃ (significand : Nat) (exponent : Int), significand < 2 ^ format.precision ∧
    format.minExponent ≤ exponent ∧ exponent ≤ format.maxExponent ∧
      |value| = significand * 2 ^ exponent

namespace Binary

variable {format : BinaryFormat}

/-- Whether a number, which may be infinite, is at most a rational one. -/
def AtMost : Binary format → ℚ → Prop
  | .nan, _ => False
  | .infinite negative, _ => negative = true
  | .finite negative significand exponent, bound =>
      signed negative (significand * 2 ^ exponent) ≤ bound

/-- Whether a number, which may be infinite, is at least a rational one. -/
def AtLeast : Binary format → ℚ → Prop
  | .nan, _ => False
  | .infinite negative, _ => negative = false
  | .finite negative significand exponent, bound =>
      bound ≤ signed negative (significand * 2 ^ exponent)

/-- Whether a number is one that its format has: a finite one has no more bits than the format,
and an exponent within its range. -/
def InFormat : Binary format → Prop
  | .finite _ significand exponent =>
      significand < 2 ^ format.precision ∧ format.minExponent ≤ exponent ∧
        exponent ≤ format.maxExponent
  | _ => True

theorem InFormat.holds {number : Binary format} (inFormat : number.InFormat) {rational : ℚ}
    (isRational : number.value? = some rational) : format.Holds rational := by
  cases number with
  | nan => cases isRational
  | infinite negative => cases isRational
  | finite negative significand exponent =>
      cases isRational
      refine ⟨significand, exponent, inFormat.1, inFormat.2.1, inFormat.2.2, ?_⟩
      have isAbs : |((significand : ℚ) * 2 ^ exponent)| = significand * 2 ^ exponent :=
        abs_of_nonneg (by positivity)
      cases negative with
      | true => exact (abs_neg _).trans isAbs
      | false => exact isAbs

/-! ### The nearest integer -/

theorem nearestQuotient_le {numerator denominator bound : Nat} (positive : 0 < denominator)
    (atMost : numerator ≤ bound * denominator) : nearestQuotient numerator denominator ≤ bound := by
  have quotientLe : numerator / denominator ≤ bound := Nat.div_le_of_le_mul (by rwa [Nat.mul_comm])
  have parts := Nat.div_add_mod numerator denominator
  have quotientLt : 0 < numerator % denominator → numerator / denominator < bound := by
    intro hasRest
    by_contra notLess
    have same : numerator / denominator = bound := by omega
    rw [same, Nat.mul_comm] at parts
    omega
  simp only [nearestQuotient]
  split
  · exact quotientLe
  · split
    · exact quotientLt (by omega)
    · split
      · exact quotientLe
      · exact quotientLt (by omega)

theorem le_nearestQuotient {numerator denominator bound : Nat} (positive : 0 < denominator)
    (atLeast : bound * denominator ≤ numerator) :
    bound ≤ nearestQuotient numerator denominator := by
  have leQuotient : bound ≤ numerator / denominator :=
    (Nat.le_div_iff_mul_le positive).mpr atLeast
  simp only [nearestQuotient]
  split
  · exact leQuotient
  · split
    · omega
    · split
      · exact leQuotient
      · omega

/-! ### The unit -/

/-- One bit fewer of the next unit is as much. -/
theorem pow_pred_mul (precise : 0 < format.precision) (unit : Int) :
    (2 : ℚ) ^ (format.precision - 1) * 2 ^ (unit + 1) = 2 ^ format.precision * 2 ^ unit := by
  rw [zpow_add_one₀ (by norm_num), mul_comm _ (2 : ℚ), ← mul_assoc, ← pow_succ,
    Nat.sub_add_cancel precise]

theorem scaledPair_pos {denominator : Nat} (positive : 0 < denominator) (numerator : Nat)
    (exponent : Int) : 0 < (scaledPair numerator denominator exponent).2 :=
  Nat.mul_pos positive (Nat.pow_pos (by decide))

theorem scaledPair_eq (numerator denominator : Nat) (exponent : Int) :
    ((scaledPair numerator denominator exponent).1 : ℚ) /
        (scaledPair numerator denominator exponent).2 =
      numerator / denominator / 2 ^ exponent := by
  have shift := pow_toNat_div_pow_toNat 2 exponent
  simp only [scaledPair]
  push_cast
  rw [← shift]
  field_simp

section

variable {numerator denominator : Nat} (denominatorPos : 0 < denominator)

include denominatorPos

theorem scaledPair_le_iff {unit : Int} {bound : Nat} :
    (scaledPair numerator denominator unit).1 ≤
        bound * (scaledPair numerator denominator unit).2 ↔
      (numerator : ℚ) / denominator ≤ bound * 2 ^ unit := by
  have scaledPos := scaledPair_pos denominatorPos numerator unit
  rw [← div_le_iff₀ (by positivity), ← scaledPair_eq, div_le_iff₀ (by exact_mod_cast scaledPos)]
  norm_cast

theorem le_scaledPair_iff {unit : Int} {bound : Nat} :
    bound * (scaledPair numerator denominator unit).2 ≤
        (scaledPair numerator denominator unit).1 ↔
      bound * 2 ^ unit ≤ (numerator : ℚ) / denominator := by
  have scaledPos := scaledPair_pos denominatorPos numerator unit
  rw [← le_div_iff₀ (by positivity), ← scaledPair_eq, le_div_iff₀ (by exact_mod_cast scaledPos)]
  norm_cast

end

/-- A quotient is at least the power of two that the sizes of its parts tell. -/
theorem pow_log2_le_div {numerator denominator : Nat} (numeratorPos : 0 < numerator)
    (denominatorPos : 0 < denominator) :
    (2 : ℚ) ^ ((numerator.log2 : Int) - denominator.log2 - 1) ≤ numerator / denominator := by
  have above : ((2 ^ numerator.log2 : Nat) : ℚ) ≤ numerator :=
    Nat.cast_le.mpr (Nat.log2_self_le numeratorPos.ne')
  have below : (denominator : ℚ) ≤ (2 ^ (denominator.log2 + 1) : Nat) :=
    Nat.cast_le.mpr Nat.lt_log2_self.le
  have denominatorPos : (0 : ℚ) < denominator := Nat.cast_pos.mpr denominatorPos
  rw [le_div_iff₀ denominatorPos]
  calc (2 : ℚ) ^ ((numerator.log2 : Int) - denominator.log2 - 1) * denominator
      ≤ 2 ^ ((numerator.log2 : Int) - denominator.log2 - 1) *
          (2 ^ (denominator.log2 + 1) : Nat) := by
        gcongr
    _ = (2 ^ numerator.log2 : Nat) := by
        push_cast
        rw [← zpow_natCast, ← zpow_natCast, ← zpow_add₀ (by norm_num)]
        congr 1
        push_cast
        ring
    _ ≤ numerator := above

theorem div_lt_pow_log2 {numerator denominator : Nat} (denominatorPos : 0 < denominator) :
    (numerator : ℚ) / denominator < 2 ^ ((numerator.log2 : Int) - denominator.log2 + 1) := by
  have above : (numerator : ℚ) < (2 ^ (numerator.log2 + 1) : Nat) :=
    Nat.cast_lt.mpr Nat.lt_log2_self
  have below : ((2 ^ denominator.log2 : Nat) : ℚ) ≤ denominator :=
    Nat.cast_le.mpr (Nat.log2_self_le denominatorPos.ne')
  have denominatorPos : (0 : ℚ) < denominator := Nat.cast_pos.mpr denominatorPos
  rw [div_lt_iff₀ denominatorPos]
  calc (numerator : ℚ) < (2 ^ (numerator.log2 + 1) : Nat) := above
    _ = 2 ^ ((numerator.log2 : Int) - denominator.log2 + 1) * (2 ^ denominator.log2 : Nat) := by
        push_cast
        rw [← zpow_natCast, ← zpow_natCast, ← zpow_add₀ (by norm_num)]
        congr 1
        push_cast
        ring
    _ ≤ 2 ^ ((numerator.log2 : Int) - denominator.log2 + 1) * denominator := by gcongr

/-- At its unit, a quotient has no more bits than the format. -/
theorem lt_bits_of_unitExponent (precise : 0 < format.precision) {numerator denominator : Nat}
    (denominatorPos : 0 < denominator) :
    (numerator : ℚ) / denominator <
      2 ^ format.precision * 2 ^ unitExponent format numerator denominator := by
  simp only [unitExponent]
  split
  · rename_i fewer
    rw [Nat.div_lt_iff_lt_mul (scaledPair_pos denominatorPos _ _), ← not_le,
      le_scaledPair_iff denominatorPos, not_le] at fewer
    calc (numerator : ℚ) / denominator
        < 2 ^ (format.precision - 1) *
            2 ^ ((numerator.log2 : Int) - denominator.log2 - format.precision + 1) := by
          exact_mod_cast fewer
      _ = 2 ^ format.precision *
            2 ^ ((numerator.log2 : Int) - denominator.log2 - format.precision) :=
          pow_pred_mul precise _
      _ ≤ _ := by
          gcongr
          · norm_num
          · exact le_max_left _ _
  · calc (numerator : ℚ) / denominator
        < 2 ^ ((numerator.log2 : Int) - denominator.log2 + 1) := div_lt_pow_log2 denominatorPos
      _ = 2 ^ format.precision *
            2 ^ ((numerator.log2 : Int) - denominator.log2 - format.precision + 1) := by
          rw [← zpow_natCast, ← zpow_add₀ (by norm_num)]
          congr 1
          ring
      _ ≤ _ := by
          gcongr
          · norm_num
          · exact le_max_left _ _

/-- Above the least unit, a quotient has all the bits of the format. -/
theorem bits_of_unitExponent (precise : 0 < format.precision) {numerator denominator : Nat}
    (numeratorPos : 0 < numerator) (denominatorPos : 0 < denominator)
    (above : format.minExponent < unitExponent format numerator denominator) :
    (2 : ℚ) ^ (format.precision - 1) * 2 ^ unitExponent format numerator denominator ≤
      numerator / denominator := by
  simp only [unitExponent] at above ⊢
  rw [lt_max_iff, or_iff_left (lt_irrefl _)] at above
  rw [max_eq_left above.le]
  split
  · have size := pow_log2_le_div numeratorPos denominatorPos
    rw [← zpow_natCast, ← zpow_add₀ (by norm_num)]
    convert size using 2
    push_cast [Nat.cast_pred precise]
    ring
  · rename_i enough
    rw [not_lt, Nat.le_div_iff_mul_le (scaledPair_pos denominatorPos _ _),
      le_scaledPair_iff denominatorPos] at enough
    exact_mod_cast enough

/-! ### Quotients -/

/-- A quotient is rounded to a multiple of its unit, or to infinity where that has too great an
exponent. -/
theorem ofQuotient_eq (precise : 0 < format.precision) (negative : Bool) {numerator : Nat}
    (numeratorPos : 0 < numerator) (denominator : Nat) {unit : Int} {rounded : Nat}
    (isUnit : unit = unitExponent format numerator denominator)
    (isRounded : rounded = nearestQuotient (scaledPair numerator denominator unit).1
      (scaledPair numerator denominator unit).2) :
    (∃ significand exponent,
        (ofQuotient negative numerator denominator : Binary format) =
          .finite negative significand exponent ∧
        (significand : ℚ) * 2 ^ exponent = rounded * 2 ^ unit) ∨
      (ofQuotient negative numerator denominator : Binary format) = .infinite negative ∧
        (format.maxExponent < unit ∨
          format.maxExponent < unit + 1 ∧ rounded = 2 ^ format.precision) := by
  subst isUnit isRounded
  simp only [ofQuotient, if_neg numeratorPos.ne']
  split
  · rename_i isFull
    split
    · rename_i tooGreat
      exact .inr ⟨rfl, .inr ⟨tooGreat, isFull⟩⟩
    · refine .inl ⟨_, _, rfl, ?_⟩
      rw [isFull]
      push_cast
      exact pow_pred_mul precise _
  · split
    · rename_i tooGreat
      exact .inr ⟨rfl, .inl tooGreat⟩
    · exact .inl ⟨_, _, rfl, rfl⟩

section

variable {numerator denominator : Nat} (denominatorPos : 0 < denominator)

include denominatorPos

/-- The nearest multiple of a unit is at most a multiple that a quotient is at most. -/
theorem rounded_le {unit : Int} {bound : Nat}
    (atMost : (numerator : ℚ) / denominator ≤ bound * 2 ^ unit) :
    nearestQuotient (scaledPair numerator denominator unit).1
      (scaledPair numerator denominator unit).2 ≤ bound := by
  apply nearestQuotient_le (scaledPair_pos denominatorPos numerator unit)
  exact (scaledPair_le_iff denominatorPos).mpr atMost

theorem le_rounded {unit : Int} {bound : Nat}
    (atLeast : bound * 2 ^ unit ≤ (numerator : ℚ) / denominator) :
    bound ≤ nearestQuotient (scaledPair numerator denominator unit).1
      (scaledPair numerator denominator unit).2 := by
  apply le_nearestQuotient (scaledPair_pos denominatorPos numerator unit)
  exact (le_scaledPair_iff denominatorPos).mpr atLeast

end

/-- A number with a finer unit has fewer bits above a coarser one. -/
theorem lt_of_exponent_lt (precise : 0 < format.precision) {significand : Nat}
    (small : significand < 2 ^ format.precision) {exponent unit : Int} (finer : exponent < unit) :
    (significand : ℚ) * 2 ^ exponent < 2 ^ (format.precision - 1) * 2 ^ unit := by
  have smallCast : (significand : ℚ) < 2 ^ format.precision := by exact_mod_cast small
  calc (significand : ℚ) * 2 ^ exponent < 2 ^ format.precision * 2 ^ exponent := by gcongr
    _ = 2 ^ (format.precision - 1) * 2 ^ (exponent + 1) := (pow_pred_mul precise exponent).symm
    _ ≤ 2 ^ (format.precision - 1) * 2 ^ unit := by
        gcongr
        · norm_num
        · omega

/-- A number with a coarser unit is a multiple of a finer one. -/
theorem coarser_eq {exponent unit : Int} (coarser : unit ≤ exponent) (significand : Nat) :
    (significand : ℚ) * 2 ^ exponent =
      (significand * 2 ^ (exponent - unit).toNat : Nat) * 2 ^ unit := by
  push_cast
  rw [mul_assoc, ← zpow_natCast, ← zpow_add₀ (by norm_num)]
  congr 2
  omega

section

variable (precise : 0 < format.precision) {numerator denominator : Nat}
  (numeratorPos : 0 < numerator) (denominatorPos : 0 < denominator) (negative : Bool)
  {significand : Nat} {exponent : Int} (small : significand < 2 ^ format.precision)
  (leastLe : format.minExponent ≤ exponent) (leGreatest : exponent ≤ format.maxExponent)

include precise numeratorPos denominatorPos small leastLe

/-- A quotient that is at most a number of the format is rounded to a finite number that is at
most it. -/
theorem ofQuotient_le (leGreatest : exponent ≤ format.maxExponent)
    (atMost : (numerator : ℚ) / denominator ≤ significand * 2 ^ exponent) :
    ∃ ownPart ownExponent,
      (ofQuotient negative numerator denominator : Binary format) =
        .finite negative ownPart ownExponent ∧
      (ownPart : ℚ) * 2 ^ ownExponent ≤ significand * 2 ^ exponent := by
  set unit := unitExponent format numerator denominator with isUnit
  have unitLe : unit ≤ exponent := by
    by_contra finer
    rw [not_le] at finer
    have bits := bits_of_unitExponent precise numeratorPos denominatorPos (leastLe.trans_lt finer)
    have fewer := lt_of_exponent_lt precise small finer
    exact absurd (bits.trans atMost) (not_le.mpr fewer)
  rw [coarser_eq unitLe] at atMost ⊢
  have roundedLe := rounded_le denominatorPos atMost
  have valueLe := mul_le_mul_of_nonneg_right (Nat.cast_le (α := ℚ).mpr roundedLe)
    (by positivity : (0 : ℚ) ≤ 2 ^ unit)
  rcases ofQuotient_eq precise negative numeratorPos denominator isUnit rfl with
    ⟨ownPart, ownExponent, isFinite, sameValue⟩ | ⟨_, tooGreat⟩
  · exact ⟨ownPart, ownExponent, isFinite, sameValue.trans_le valueLe⟩
  · rcases tooGreat with beyond | ⟨atEnd, isFull⟩
    · omega
    · -- at the last exponent the significand would have to be within the bound and full
      have sameUnit : exponent - unit = 0 := by omega
      rw [isFull, sameUnit, Int.toNat_zero, pow_zero, Nat.mul_one] at roundedLe
      omega

/-- A quotient that is at least a number of the format is rounded to one that is at least it. -/
theorem le_ofQuotient (atLeast : significand * 2 ^ exponent ≤ (numerator : ℚ) / denominator) :
    (ofQuotient negative numerator denominator : Binary format) = .infinite negative ∨
      ∃ ownPart ownExponent,
        (ofQuotient negative numerator denominator : Binary format) =
          .finite negative ownPart ownExponent ∧
        (significand : ℚ) * 2 ^ exponent ≤ ownPart * 2 ^ ownExponent := by
  set unit := unitExponent format numerator denominator with isUnit
  have valueLe : (significand : ℚ) * 2 ^ exponent ≤
      nearestQuotient (scaledPair numerator denominator unit).1
        (scaledPair numerator denominator unit).2 * 2 ^ unit := by
    rcases le_or_gt unit exponent with coarser | finer
    · rw [coarser_eq coarser] at atLeast ⊢
      exact mul_le_mul_of_nonneg_right
        (Nat.cast_le.mpr (le_rounded denominatorPos atLeast)) (by positivity)
    · have bits := bits_of_unitExponent precise numeratorPos denominatorPos (leastLe.trans_lt finer)
      have fullLe : 2 ^ (format.precision - 1) ≤
          nearestQuotient (scaledPair numerator denominator unit).1
            (scaledPair numerator denominator unit).2 :=
        le_rounded denominatorPos (by exact_mod_cast bits)
      calc (significand : ℚ) * 2 ^ exponent ≤ 2 ^ (format.precision - 1) * 2 ^ unit :=
            (lt_of_exponent_lt precise small finer).le
        _ ≤ _ := mul_le_mul_of_nonneg_right (by exact_mod_cast fullLe) (by positivity)
  rcases ofQuotient_eq precise negative numeratorPos denominator isUnit rfl with
    ⟨ownPart, ownExponent, isFinite, sameValue⟩ | ⟨isInfinite, _⟩
  · exact .inr ⟨ownPart, ownExponent, isFinite, valueLe.trans_eq sameValue.symm⟩
  · exact .inl isInfinite

end

/-! ### Signs -/

/-- Whether a number is a magnitude with a sign, rounded so that no number of the format is
leapt over. -/
structure RoundsMagnitude (negative : Bool) (number : Binary format) (magnitude : ℚ) : Prop where
  le : ∀ bound, format.Holds bound → magnitude ≤ bound →
    ∃ significand exponent, number = .finite negative significand exponent ∧
      (significand : ℚ) * 2 ^ exponent ≤ bound
  ge : ∀ bound, format.Holds bound → 0 ≤ bound → bound ≤ magnitude →
    number = .infinite negative ∨
      ∃ significand exponent, number = .finite negative significand exponent ∧
        bound ≤ (significand : ℚ) * 2 ^ exponent

/-- Whether a number is on the same side of every number of the format as a rational one, or
is that number. -/
structure Rounds (number : Binary format) (rational : ℚ) : Prop where
  atMost : ∀ bound, format.Holds bound → rational ≤ bound → number.AtMost bound
  atLeast : ∀ bound, format.Holds bound → bound ≤ rational → number.AtLeast bound

theorem roundsMagnitude_zero (negative : Bool) :
    RoundsMagnitude negative (zero negative : Binary format) 0 where
  le bound _ atMost := ⟨0, format.minExponent, rfl, by simpa using atMost⟩
  ge bound _ _ atLeast := .inr ⟨0, format.minExponent, rfl, by simpa using atLeast⟩

theorem roundsMagnitude_ofQuotient (precise : 0 < format.precision) (negative : Bool)
    {numerator denominator : Nat} (denominatorPos : 0 < denominator) :
    RoundsMagnitude negative (ofQuotient negative numerator denominator : Binary format)
      (numerator / denominator) := by
  rcases Nat.eq_zero_or_pos numerator with rfl | numeratorPos
  · rw [Nat.cast_zero, zero_div]
    exact roundsMagnitude_zero negative
  · constructor
    · rintro bound ⟨significand, exponent, small, leastLe, leGreatest, isAbs⟩ atMost
      have nonneg : 0 ≤ bound := le_trans (by positivity) atMost
      rw [abs_of_nonneg nonneg] at isAbs
      subst isAbs
      exact ofQuotient_le precise numeratorPos denominatorPos negative small leastLe leGreatest
        atMost
    · rintro bound ⟨significand, exponent, small, leastLe, _, isAbs⟩ nonneg atLeast
      rw [abs_of_nonneg nonneg] at isAbs
      subst isAbs
      exact le_ofQuotient precise numeratorPos denominatorPos negative small leastLe atLeast

theorem holds_neg {value : ℚ} (held : format.Holds value) : format.Holds (-value) := by
  rcases held with ⟨significand, exponent, small, leastLe, leGreatest, isAbs⟩
  exact ⟨significand, exponent, small, leastLe, leGreatest, (abs_neg value).trans isAbs⟩

theorem holds_zero {value : ℚ} (held : format.Holds value) : format.Holds 0 := by
  rcases held with ⟨_, exponent, _, leastLe, leGreatest, _⟩
  exact ⟨0, exponent, Nat.pow_pos (by decide), leastLe, leGreatest, by simp⟩

theorem RoundsMagnitude.rounds {negative : Bool} {number : Binary format} {magnitude : ℚ}
    (rounds : RoundsMagnitude negative number magnitude) (nonneg : 0 ≤ magnitude) :
    Rounds number (signed negative magnitude) := by
  -- whatever the sign, the number is beyond zero or is zero
  have beyondZero : ∀ bound, format.Holds bound → number = .infinite negative ∨
      ∃ significand exponent, number = .finite negative significand exponent := by
    intro bound held
    rcases rounds.ge 0 (holds_zero held) le_rfl nonneg with isInfinite | ⟨_, _, isFinite, _⟩
    · exact .inl isInfinite
    · exact .inr ⟨_, _, isFinite⟩
  cases negative with
  | false =>
      constructor
      · intro bound held exactLe
        rcases rounds.le bound held exactLe with ⟨significand, exponent, rfl, isLe⟩
        exact isLe
      · intro bound held leExact
        rcases le_or_gt 0 bound with boundNonneg | boundNeg
        · rcases rounds.ge bound held boundNonneg leExact with rfl | ⟨_, _, rfl, isLe⟩
          · exact rfl
          · exact isLe
        · rcases beyondZero bound held with rfl | ⟨significand, exponent, rfl⟩
          · exact rfl
          · have partNonneg : (0 : ℚ) ≤ significand * 2 ^ exponent := by positivity
            exact boundNeg.le.trans partNonneg
  | true =>
      constructor
      · intro bound held exactLe
        rcases le_or_gt 0 bound with boundNonneg | boundNeg
        · rcases beyondZero bound held with rfl | ⟨significand, exponent, rfl⟩
          · exact rfl
          · have partNonneg : (0 : ℚ) ≤ significand * 2 ^ exponent := by positivity
            exact (neg_nonpos.mpr partNonneg).trans boundNonneg
        · have boundLe : -bound ≤ magnitude := neg_le.mp exactLe
          rcases rounds.ge (-bound) (holds_neg held) (by linarith) boundLe with
            rfl | ⟨_, _, rfl, isLe⟩
          · exact rfl
          · exact neg_le.mp isLe
      · intro bound held leExact
        have leBound : magnitude ≤ -bound := le_neg.mp leExact
        rcases rounds.le (-bound) (holds_neg held) leBound with ⟨_, _, rfl, isLe⟩
        exact le_neg.mp isLe

/-! ### Integers, decimals and numbers of another format -/

theorem signed_natAbs (value : Int) : signed (value < 0) value.natAbs = value := by
  rcases lt_or_ge value 0 with negative | notNegative
  · simp [signed, negative, Nat.cast_natAbs, abs_of_neg]
  · simp [signed, not_lt.mpr notNegative, Nat.cast_natAbs, abs_of_nonneg notNegative]

theorem rounds_ofInt (value : Int) : Rounds (ofInt value : Double) value := by
  have rounded : RoundsMagnitude (value < 0) (ofInt value : Double) (value.natAbs / (1 : Nat)) :=
    roundsMagnitude_ofQuotient (by decide) _ Nat.one_pos
  rw [Nat.cast_one, div_one] at rounded
  have isRounded := rounded.rounds (by positivity)
  rwa [signed_natAbs] at isRounded

/-- The greatest number of a format has all bits of a significand in the greatest unit. -/
theorem abs_le_of_holds {value : ℚ} (held : format.Holds value) :
    |value| ≤ (2 ^ format.precision - 1) * 2 ^ format.maxExponent := by
  rcases held with ⟨significand, exponent, small, _, leGreatest, isAbs⟩
  have atMostLast : (significand : ℚ) + 1 ≤ 2 ^ format.precision := by exact_mod_cast small
  rw [isAbs]
  calc (significand : ℚ) * 2 ^ exponent ≤ significand * 2 ^ format.maxExponent := by
        gcongr
        norm_num
    _ ≤ (2 ^ format.precision - 1) * 2 ^ format.maxExponent := by
        gcongr
        linarith

theorem le_abs_of_holds {value : ℚ} (held : format.Holds value) (nonzero : value ≠ 0) :
    (2 : ℚ) ^ format.minExponent ≤ |value| := by
  rcases held with ⟨significand, exponent, _, leastLe, _, isAbs⟩
  have significandPos : 0 < significand := by
    rw [Nat.pos_iff_ne_zero]
    rintro rfl
    rw [Nat.cast_zero, zero_mul, abs_eq_zero] at isAbs
    exact nonzero isAbs
  rw [isAbs]
  calc (2 : ℚ) ^ format.minExponent ≤ 2 ^ exponent := zpow_le_zpow_right₀ (by norm_num) leastLe
    _ ≤ significand * 2 ^ exponent := le_mul_of_one_le_left (by positivity)
        (by exact_mod_cast significandPos)

theorem two_pow_lt_ten_pow {bits digits : Nat} (fewer : bits < 3 * digits) :
    (2 : ℚ) ^ bits < 10 ^ digits := by
  calc (2 : ℚ) ^ bits < 2 ^ (3 * digits) := pow_lt_pow_right₀ (by norm_num) fewer
    _ = (2 ^ 3) ^ digits := pow_mul 2 3 digits
    _ ≤ 10 ^ digits := by
        gcongr
        norm_num

/-- Every number of 64 bits has fewer digits before the point than the reach of decimals. -/
theorem lt_reach_of_holds {value : ℚ} (held : BinaryFormat.double.Holds value) :
    |value| < 10 ^ decimalReach := by
  have isPow : (2 : ℚ) ^ BinaryFormat.double.precision * 2 ^ BinaryFormat.double.maxExponent =
      2 ^ (53 + 971) := (pow_add 2 53 971).symm
  have atMost : |value| ≤
      2 ^ BinaryFormat.double.precision * 2 ^ BinaryFormat.double.maxExponent := by
    apply (abs_le_of_holds held).trans
    gcongr
    norm_num
  calc |value| ≤ 2 ^ (53 + 971) := atMost.trans_eq isPow
    _ < 10 ^ 400 := two_pow_lt_ten_pow (by norm_num)

/-- Every number of 64 bits but zero has fewer zeros after the point. -/
theorem reach_lt_of_holds {value : ℚ} (held : BinaryFormat.double.Holds value)
    (nonzero : value ≠ 0) : (10 : ℚ) ^ (-decimalReach - 1) < |value| := by
  have isReach : (-decimalReach - 1 : Int) = -(401 : Nat) := rfl
  have isLeast : BinaryFormat.double.minExponent = -(1074 : Nat) := rfl
  apply lt_of_lt_of_le _ (le_abs_of_holds held nonzero)
  rw [isReach, isLeast, zpow_neg, zpow_neg, zpow_natCast, zpow_natCast,
    inv_lt_inv₀ (by positivity) (by positivity)]
  exact two_pow_lt_ten_pow (by norm_num)

theorem scientificQuotient_eq (digits : Nat) (exponent : Int) :
    ((digits * 10 ^ exponent.toNat : Nat) : ℚ) / (10 ^ (-exponent).toNat : Nat) =
      digits * 10 ^ exponent := by
  push_cast
  rw [mul_div_assoc, pow_toNat_div_pow_toNat]

theorem roundsMagnitude_ofScientific (negative : Bool) {digits : Nat} (digitsPos : 0 < digits)
    (exponent : Int) :
    RoundsMagnitude negative (ofScientific negative digits exponent : Double)
      (digits * 10 ^ exponent) := by
  have bounds := Decimal.size_bounds digitsPos (-exponent)
  rw [zpow_neg, div_inv_eq_mul, sub_neg_eq_add] at bounds
  simp only [ofScientific, if_neg digitsPos.ne']
  split
  · rename_i beyond
    constructor
    · -- no number of the format is as great
      intro bound held atMost
      have reachLe : (10 : ℚ) ^ decimalReach ≤ 10 ^ ((digitCount digits : Int) + exponent - 1) :=
        zpow_le_zpow_right₀ (by norm_num) (by omega)
      have isLess := (le_abs_self bound).trans_lt (lt_reach_of_holds held)
      exact absurd ((reachLe.trans bounds.1).trans atMost) (not_le.mpr isLess)
    · exact fun _ _ _ _ => .inl rfl
  · split
    · rename_i below
      constructor
      · intro bound _ atMost
        refine ⟨0, BinaryFormat.double.minExponent, rfl, ?_⟩
        rw [Nat.cast_zero, zero_mul]
        exact le_trans (by positivity) atMost
      · -- no number of the format but zero is as small
        intro bound held nonneg atLeast
        refine .inr ⟨0, BinaryFormat.double.minExponent, rfl, ?_⟩
        rw [Nat.cast_zero, zero_mul]
        by_contra positive
        rw [not_le] at positive
        have leReach : (10 : ℚ) ^ ((digitCount digits : Int) + exponent) ≤
            10 ^ (-decimalReach - 1) := zpow_le_zpow_right₀ (by norm_num) (by omega)
        have isLess := reach_lt_of_holds held positive.ne'
        rw [abs_of_pos positive] at isLess
        linarith [bounds.2]
    · rw [← scientificQuotient_eq]
      exact roundsMagnitude_ofQuotient (by decide) negative (Nat.pow_pos (by decide))

theorem rounds_ofScientific (negative : Bool) (digits : Nat) (exponent : Int) :
    Rounds (ofScientific negative digits exponent : Double)
      (signed negative (digits * 10 ^ exponent)) := by
  have rounded : RoundsMagnitude negative (ofScientific negative digits exponent : Double)
      (digits * 10 ^ exponent) := by
    rcases Nat.eq_zero_or_pos digits with rfl | digitsPos
    · simp only [ofScientific, if_true, Nat.cast_zero, zero_mul]
      exact roundsMagnitude_zero negative
    · exact roundsMagnitude_ofScientific negative digitsPos exponent
  exact rounded.rounds (by positivity)

theorem signed_value (decimal : Decimal) :
    signed (decimal.unscaled < 0) (decimal.unscaled.natAbs * 10 ^ (-decimal.scale)) =
      decimal.value := by
  rw [zpow_neg, ← div_eq_mul_inv]
  rcases lt_or_ge decimal.unscaled 0 with negative | notNegative
  · simp [signed, negative, Decimal.value_eq_neg_natAbs decimal negative]
  · simp [signed, not_lt.mpr notNegative, Decimal.value_eq_natAbs decimal notNegative]

theorem rounds_ofDecimal (decimal : Decimal) :
    Rounds (ofDecimal decimal : Double) decimal.value := by
  rw [← signed_value]
  exact rounds_ofScientific _ _ _

/-- A finite number of another format is rounded. -/
theorem rounds_convert (precise : 0 < format.precision) {source : BinaryFormat}
    {number : Binary source} {rational : ℚ} (isRational : number.value? = some rational) :
    Rounds (number.convert : Binary format) rational := by
  cases number with
  | nan => cases isRational
  | infinite negative => cases isRational
  | finite negative significand exponent =>
      cases isRational
      rw [← quotient_eq]
      have rounded : RoundsMagnitude negative
          (convert (.finite negative significand exponent : Binary source) : Binary format)
          ((quotient significand exponent).1 / (quotient significand exponent).2) :=
        roundsMagnitude_ofQuotient precise negative (Nat.pow_pos (by decide))
      exact rounded.rounds (by positivity)

/-- A number of the format is rounded to itself. -/
theorem Rounds.value?_eq {number : Binary format} {rational : ℚ} (rounds : Rounds number rational)
    (held : format.Holds rational) : number.value? = some rational := by
  have atMost := rounds.atMost rational held le_rfl
  have atLeast := rounds.atLeast rational held le_rfl
  cases number with
  | nan => cases atMost
  | infinite negative =>
      cases atMost
      cases atLeast
  | finite negative significand exponent => exact congrArg some (le_antisymm atMost atLeast)

end Binary

end JsonTables.Number
