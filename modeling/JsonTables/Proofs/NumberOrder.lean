import JsonTables.Proofs.Rounding

/-!
# The order of numbers

Numbers of one kind, integers and decimals or binary ones, are ordered by their values.  Next
to a binary number, an integer or a decimal is rounded to 64 bits first.  Rounding leaps over
no number of that format, so the order may come out as equality, but never reversed; and
values that 64 bits hold are not rounded at all.
-/

namespace JsonTables

open Number (Binary BinaryFormat Decimal)

namespace Number.Binary

variable {format : BinaryFormat}

/-! ### Rounded numbers in order -/

theorem compare_of_atMost {first second : Binary format} {value : ℚ}
    (isValue : second.value? = some value) (atMost : first.AtMost value) :
    first.compare second = some .lt ∨ first.compare second = some .eq := by
  cases first with
  | nan => cases atMost
  | infinite negative =>
      cases second with
      | nan => cases isValue
      | infinite otherNegative => cases isValue
      | finite =>
          cases atMost
          exact .inl rfl
  | finite negative significand exponent =>
      rw [compare_eq_cmp rfl isValue]
      rcases lt_or_eq_of_le atMost with less | same
      · exact .inl (congrArg some ((cmp_eq_lt_iff _ _).mpr less))
      · exact .inr (congrArg some ((cmp_eq_eq_iff _ _).mpr same))

theorem compare_of_atLeast {first second : Binary format} {value : ℚ}
    (isValue : second.value? = some value) (atLeast : first.AtLeast value) :
    first.compare second = some .gt ∨ first.compare second = some .eq := by
  cases first with
  | nan => cases atLeast
  | infinite negative =>
      cases second with
      | nan => cases isValue
      | infinite otherNegative => cases isValue
      | finite =>
          cases atLeast
          exact .inl rfl
  | finite negative significand exponent =>
      rw [compare_eq_cmp rfl isValue]
      rcases lt_or_eq_of_le atLeast with greater | same
      · exact .inl (congrArg some ((cmp_eq_gt_iff _ _).mpr greater))
      · exact .inr (congrArg some ((cmp_eq_eq_iff _ _).mpr same.symm))

/-- Next to a number of the format, a rounded number is ordered as the exact one or is equal
to the other. -/
theorem Rounds.compare {first second : Binary format} {rational value : ℚ}
    (rounds : Rounds first rational) (isValue : second.value? = some value)
    (held : format.Holds value) :
    first.compare second = some (cmp rational value) ∨ first.compare second = some .eq := by
  rcases lt_trichotomy rational value with less | same | greater
  · rw [(cmp_eq_lt_iff _ _).mpr less]
    exact compare_of_atMost isValue (rounds.atMost value held less.le)
  · subst same
    rw [compare_eq_cmp (rounds.value?_eq held) isValue]
    exact .inl rfl
  · rw [(cmp_eq_gt_iff _ _).mpr greater]
    exact compare_of_atLeast isValue (rounds.atLeast value held greater.le)

theorem compare_swap (first second : Binary format) :
    second.compare first = (first.compare second).map Ordering.swap := by
  cases first with
  | nan => cases second <;> rfl
  | infinite firstNegative =>
      cases second with
      | nan => rfl
      | infinite secondNegative => cases firstNegative <;> cases secondNegative <;> rfl
      | finite => cases firstNegative <;> rfl
  | finite firstNegative firstPart firstExponent =>
      cases second with
      | nan => rfl
      | infinite secondNegative => cases secondNegative <;> rfl
      | finite => exact congrArg some Std.OrientedOrd.eq_swap

theorem Rounds.compare_right {first second : Binary format} {value rational : ℚ}
    (isValue : first.value? = some value) (held : format.Holds value)
    (rounds : Rounds second rational) :
    first.compare second = some (cmp value rational) ∨ first.compare second = some .eq := by
  rw [compare_swap second first, ← cmp_swap rational value]
  rcases rounds.compare isValue held with isExact | isEqual
  · exact .inl (congrArg _ isExact)
  · exact .inr (congrArg _ isEqual)

/-- A number is a rounding of what it stands for. -/
theorem rounds_of_value? {number : Binary format} {rational : ℚ}
    (isRational : number.value? = some rational) : Rounds number rational := by
  cases number with
  | nan => cases isRational
  | infinite negative => cases isRational
  | finite negative significand exponent =>
      cases isRational
      exact ⟨fun _ _ atMost => atMost, fun _ _ atLeast => atLeast⟩

theorem holds_double_of_single {value : ℚ} (held : BinaryFormat.single.Holds value) :
    BinaryFormat.double.Holds value := by
  rcases held with ⟨significand, exponent, small, leastLe, leGreatest, isAbs⟩
  simp only [BinaryFormat.single] at small leastLe leGreatest
  refine ⟨significand, exponent, ?_, ?_, ?_, isAbs⟩
  · exact small.trans (by decide)
  · simp only [BinaryFormat.double]
    omega
  · simp only [BinaryFormat.double]
    omega

/-- 64 bits hold every integer of so many bits as a significand has. -/
theorem holds_intCast {value : Int} (small : value.natAbs < 2 ^ 53) :
    BinaryFormat.double.Holds value := by
  refine ⟨value.natAbs, 0, small, by decide, by decide, ?_⟩
  rw [zpow_zero, mul_one, Nat.cast_natAbs, Int.cast_abs]

end Number.Binary

namespace Cell

namespace Quantity

/-- The rational number that a number stands for; one that is not finite stands for none. -/
def rational? : Quantity → Option ℚ
  | integer value => some value
  | decimal value => some value.value
  | binary value => value.value?

/-- Whether a quantity is a binary number. -/
def isBinary : Quantity → Bool
  | binary _ => true
  | _ => false

variable {first second : Quantity} {firstValue secondValue : ℚ}

/-- Integers and decimals are ordered by their values. -/
theorem compare_exact (isFirst : first.rational? = some firstValue)
    (isSecond : second.rational? = some secondValue) (firstExact : first.isBinary = false)
    (secondExact : second.isBinary = false) :
    first.compare second = some (cmp firstValue secondValue) := by
  cases first with
  | binary => cases firstExact
  | integer first =>
      cases isFirst
      cases second with
      | binary => cases secondExact
      | integer second =>
          cases isSecond
          exact congrArg some (Number.compare_intCast first second)
      | decimal second =>
          cases isSecond
          rw [← Decimal.value_ofInt first]
          exact congrArg some (Decimal.compare_eq_cmp _ _)
  | decimal first =>
      cases isFirst
      cases second with
      | binary => cases secondExact
      | integer second =>
          cases isSecond
          rw [compare, Decimal.compare_eq_cmp, cmp_swap, Decimal.value_ofInt]
      | decimal second =>
          cases isSecond
          exact congrArg some (Decimal.compare_eq_cmp first second)

theorem compare_eq_toDouble (binary : first.isBinary = true ∨ second.isBinary = true) :
    first.compare second = first.toDouble.compare second.toDouble := by
  cases first with
  | binary first => cases second <;> rfl
  | integer first =>
      cases second with
      | binary second => rfl
      | integer second => simp [isBinary] at binary
      | decimal second => simp [isBinary] at binary
  | decimal first =>
      cases second with
      | binary second => rfl
      | integer second => simp [isBinary] at binary
      | decimal second => simp [isBinary] at binary

theorem rounds_toDouble {quantity : Quantity} {rational : ℚ}
    (isRational : quantity.rational? = some rational) : quantity.toDouble.Rounds rational := by
  cases quantity with
  | integer value =>
      cases isRational
      exact Binary.rounds_ofInt value
  | decimal value =>
      cases isRational
      exact Binary.rounds_ofDecimal value
  | binary value => exact Binary.rounds_of_value? isRational

theorem value?_toDouble {quantity : Quantity} {rational : ℚ}
    (isRational : quantity.rational? = some rational) (binary : quantity.isBinary = true) :
    quantity.toDouble.value? = some rational := by
  cases quantity with
  | integer value => cases binary
  | decimal value => cases binary
  | binary value => exact isRational

section

variable (isFirst : first.rational? = some firstValue)
  (isSecond : second.rational? = some secondValue)

include isFirst isSecond

theorem compare_of_same_kind (sameKind : first.isBinary = second.isBinary) :
    first.compare second = some (cmp firstValue secondValue) := by
  cases isKind : first.isBinary with
  | false => exact compare_exact isFirst isSecond isKind (sameKind.symm.trans isKind)
  | true =>
      rw [compare_eq_toDouble (.inl isKind)]
      exact Binary.compare_eq_cmp (value?_toDouble isFirst isKind)
        (value?_toDouble isSecond (sameKind.symm.trans isKind))

theorem compare_of_holds (firstHeld : BinaryFormat.double.Holds firstValue)
    (secondHeld : BinaryFormat.double.Holds secondValue) :
    first.compare second = some (cmp firstValue secondValue) := by
  by_cases sameKind : first.isBinary = second.isBinary
  · exact compare_of_same_kind isFirst isSecond sameKind
  · have binary : first.isBinary = true ∨ second.isBinary = true := by grind
    rw [compare_eq_toDouble binary]
    exact Binary.compare_eq_cmp ((rounds_toDouble isFirst).value?_eq firstHeld)
      ((rounds_toDouble isSecond).value?_eq secondHeld)

/-- Rounding never reverses an order. -/
theorem compare_or_eq
    (firstHeld : first.isBinary = true → BinaryFormat.double.Holds firstValue)
    (secondHeld : second.isBinary = true → BinaryFormat.double.Holds secondValue) :
    first.compare second = some (cmp firstValue secondValue) ∨
      first.compare second = some .eq := by
  cases secondKind : second.isBinary with
  | true =>
      rw [compare_eq_toDouble (.inr secondKind)]
      exact (rounds_toDouble isFirst).compare (value?_toDouble isSecond secondKind)
        (secondHeld secondKind)
  | false =>
      cases firstKind : first.isBinary with
      | false => exact .inl (compare_exact isFirst isSecond firstKind secondKind)
      | true =>
          rw [compare_eq_toDouble (.inl firstKind)]
          exact (rounds_toDouble isSecond).compare_right (value?_toDouble isFirst firstKind)
            (firstHeld firstKind)

end

end Quantity

/-- The rational number in a cell of a numeric type; a number that is not finite is none. -/
def rational? : Cell → Option ℚ
  | byte value | short value | int value | long value | bigInteger value => some value
  | bigDecimal value => some value.value
  | float value => value.value?
  | double value => value.value?
  | _ => none

/-- Whether a cell has a binary number. -/
def isBinary : Cell → Bool
  | float _ | double _ => true
  | _ => false

/-- Whether the binary number of a cell, if it has one, is one of its format. -/
def InFormat : Cell → Prop
  | float value => value.InFormat
  | double value => value.InFormat
  | _ => True

theorem quantity_of_rational {cell : Cell} {rational : ℚ}
    (isRational : cell.rational? = some rational) (inFormat : cell.InFormat) :
    ∃ quantity, cell.quantity? = some quantity ∧ quantity.rational? = some rational ∧
      quantity.isBinary = cell.isBinary ∧
      (cell.isBinary = true → BinaryFormat.double.Holds rational) := by
  cases cell with
  | byte value | short value | int value | long value | bigInteger value =>
      exact ⟨.integer value, rfl, isRational, rfl, by simp [isBinary]⟩
  | bigDecimal value => exact ⟨.decimal value, rfl, isRational, rfl, by simp [isBinary]⟩
  | float value =>
      have held := Binary.holds_double_of_single (inFormat.holds isRational)
      have converted := (Binary.rounds_convert (by decide) isRational).value?_eq held
      exact ⟨.binary value.convert, rfl, converted, rfl, fun _ => held⟩
  | double value => exact ⟨.binary value, rfl, isRational, rfl, fun _ => inFormat.holds isRational⟩
  | _ => cases isRational

theorem compare_of_quantity {first second : Cell} {firstQuantity secondQuantity : Quantity}
    (isFirst : first.quantity? = some firstQuantity)
    (isSecond : second.quantity? = some secondQuantity) :
    first.compare second = firstQuantity.compare secondQuantity := by
  cases first <;> cases isFirst <;> cases second <;> cases isSecond <;> rfl

/-- Numbers of all types are ordered by value: exactly where both are binary or neither is,
and where 64 bits hold both.  Otherwise the order is right or it is equality. -/
theorem numbers_compare_by_value {first second : Cell} {firstValue secondValue : ℚ}
    (isFirst : first.rational? = some firstValue) (isSecond : second.rational? = some secondValue)
    (firstInFormat : first.InFormat) (secondInFormat : second.InFormat) :
    ∃ order, first.compare second = some order ∧
      (order = cmp firstValue secondValue ∨ order = .eq) ∧
      (first.isBinary = second.isBinary ∨
          BinaryFormat.double.Holds firstValue ∧ BinaryFormat.double.Holds secondValue →
        order = cmp firstValue secondValue) := by
  rcases quantity_of_rational isFirst firstInFormat with
    ⟨firstQuantity, hasFirst, firstExact, firstKind, firstHeld⟩
  rcases quantity_of_rational isSecond secondInFormat with
    ⟨secondQuantity, hasSecond, secondExact, secondKind, secondHeld⟩
  have isExact : first.isBinary = second.isBinary ∨
      BinaryFormat.double.Holds firstValue ∧ BinaryFormat.double.Holds secondValue →
      firstQuantity.compare secondQuantity = some (cmp firstValue secondValue) := by
    rintro (sameKind | ⟨holdsFirst, holdsSecond⟩)
    · exact Quantity.compare_of_same_kind firstExact secondExact
        (firstKind.trans (sameKind.trans secondKind.symm))
    · exact Quantity.compare_of_holds firstExact secondExact holdsFirst holdsSecond
  rw [← firstKind] at firstHeld
  rw [← secondKind] at secondHeld
  rw [compare_of_quantity hasFirst hasSecond]
  rcases Quantity.compare_or_eq firstExact secondExact firstHeld secondHeld with isCmp | isEqual
  · exact ⟨_, isCmp, .inl rfl, fun _ => rfl⟩
  · refine ⟨.eq, isEqual, .inr rfl, ?_⟩
    intro agrees
    exact Option.some.inj (isEqual.symm.trans (isExact agrees))

theorem three_exceeds_a_half :
    (int 3).rational? = some 3 ∧ (double (.finite false (2 ^ 52) (-53))).rational? = some (1 / 2) ∧
      (int 3).compare (double (.finite false (2 ^ 52) (-53))) = some .gt := by
  have isThree : (int 3).rational? = some 3 := rfl
  have isHalf : (double (.finite false (2 ^ 52) (-53))).rational? = some (1 / 2) := by
    apply congrArg some
    norm_num [Number.signed]
  have inFormat : (.finite false (2 ^ 52) (-53) : Number.Double).InFormat :=
    ⟨by decide, by decide, by decide⟩
  have holdsThree : BinaryFormat.double.Holds 3 := Binary.holds_intCast (by decide : 3 < 2 ^ 53)
  rcases numbers_compare_by_value isThree isHalf trivial inFormat with ⟨order, isOrder, _, isExact⟩
  have isCmp := isExact (.inr ⟨holdsThree, inFormat.holds isHalf⟩)
  refine ⟨isThree, isHalf, ?_⟩
  rw [isOrder, isCmp, (cmp_eq_gt_iff _ _).mpr (by norm_num)]

/-- A number of 64 bits equals the integer after it, where it has no bit for the unit. -/
theorem integer_equals_the_number_before :
    (long 9007199254740993).rational? = some 9007199254740993 ∧
      (double (.finite false (2 ^ 52) 1)).rational? = some 9007199254740992 ∧
      (double (.finite false (2 ^ 52) 1)).InFormat ∧
      (long 9007199254740993).compare (double (.finite false (2 ^ 52) 1)) = some .eq ∧
      cmp (9007199254740993 : ℚ) 9007199254740992 = .gt := by
  refine ⟨rfl, ?_, ⟨by decide, by decide, by decide⟩, by decide +kernel, ?_⟩
  · apply congrArg some
    norm_num [Number.signed]
  · exact (cmp_eq_gt_iff _ _).mpr (by norm_num)

end Cell

end JsonTables
