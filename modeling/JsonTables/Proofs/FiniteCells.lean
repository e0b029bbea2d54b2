import JsonTables.Proofs.ConvertedCells
import JsonTables.Proofs.RoundedTwice

/-!
# Cells that stay finite

A number of any type converts to a binary number, and nothing looks whether it has room there: a
number that is too great becomes infinite.  A binary number is too great where it overflows the
format of the type.  Integers and decimals are rounded to 64 bits first, so 32 bits lose those that
are rounded up to their bound, too.
-/

namespace JsonTables

open Number (Binary BinaryFormat Double Single)

namespace Number.Binary

variable {format : BinaryFormat} {negative : Bool}

/-! ### Numbers that are rounded to 64 bits first -/

/-- The last number of 64 bits before the bound of 32 bits. -/
def lastSignificand : Nat :=
  2 ^ 53 - 2 ^ 28 - 1

theorem canonical_last : BinaryFormat.double.Canonical lastSignificand 75 :=
  ⟨by decide, by decide, by decide, fun _ => by decide⟩

/-- The next number of 64 bits is the bound of 32 bits. -/
theorem next_last : ((lastSignificand + 1 : Nat) : ℚ) * 2 ^ (75 : Int) =
    BinaryFormat.single.overflowBound := by
  norm_num [lastSignificand, BinaryFormat.overflowBound, BinaryFormat.single]

/-- Half a unit of 64 bits below the bound of 32 bits. -/
theorem roundsToAtMost_last_iff {magnitude : ℚ} :
    RoundsToAtMost lastSignificand 75 magnitude ↔
      magnitude < BinaryFormat.single.overflowBound - 2 ^ 74 := by
  have isMiddle : middle lastSignificand 75 = BinaryFormat.single.overflowBound - 2 ^ 74 := by
    norm_num [middle, lastSignificand, BinaryFormat.overflowBound, BinaryFormat.single]
  have isOdd : ¬lastSignificand % 2 = 0 := by decide
  rw [RoundsToAtMost, isMiddle, or_iff_left (fun onMiddle => isOdd onMiddle.1)]

/-- A magnitude that is rounded to 64 bits first is finite with 32 bits just if it is not rounded up
to their bound. -/
theorem IsNearest.isFinite_convert_iff {wide : Double} {magnitude : ℚ}
    (nearest : IsNearest negative wide magnitude) :
    (wide.convert : Single).isFinite = true ↔
      magnitude < BinaryFormat.single.overflowBound - 2 ^ 74 := by
  rw [← roundsToAtMost_last_iff, ← nearest.atMost_iff _ _ canonical_last]
  rcases nearest.inFormat with rfl | ⟨significand, exponent, canonical, rfl⟩
  · exact iff_of_false Bool.false_ne_true (not_magnitudeAtMost_infinite _ _)
  · have nonneg : (0 : ℚ) ≤ significand * 2 ^ exponent := by positivity
    rw [Binary.isFinite_convert_iff BinaryFormat.inReach_single rfl, BinaryFormat.Overflows,
      abs_signed, abs_of_nonneg nonneg, not_le, magnitudeAtMost_finite, ← next_last]
    constructor
    · exact le_of_lt_next (by decide) canonical_last canonical
    · exact fun atMost => atMost.trans_lt ((lt_middle _ _).trans (middle_lt _ _))

theorem IsNearest.ne_nan {number : Binary format} {magnitude : ℚ}
    (nearest : IsNearest negative number magnitude) : number ≠ .nan := by
  rcases nearest.inFormat with rfl | ⟨_, _, _, rfl⟩ <;> nofun

theorem convert_ne_nan {source : BinaryFormat} {number : Binary source} (isNumber : number ≠ .nan) :
    (number.convert : Binary format) ≠ .nan := by
  cases number with
  | nan => exact absurd rfl isNumber
  | infinite negative => nofun
  | finite negative significand exponent =>
      intro isNan
      obtain ⟨_, isInfinite⟩ := convert_eq_infinite rfl (congrArg isFinite isNan)
      cases isNan.symm.trans isInfinite

end Number.Binary

namespace Cell

/-! ### Rounding to 64 bits -/

/-- Integers and decimals are rounded to the nearest number of 64 bits. -/
theorem Quantity.isNearest_toDouble {quantity : Quantity} {value : ℚ}
    (isRational : quantity.rational? = some value) (exact : quantity.isBinary = false) :
    ∃ negative, quantity.toDouble.IsNearest negative |value| := by
  cases quantity with
  | binary => cases exact
  | integer number =>
      cases isRational
      have nearest : (Binary.ofInt number : Double).IsNearest (number < 0)
          (number.natAbs / (1 : Nat)) :=
        Binary.isNearest_ofQuotient (by decide) (by decide) _ Nat.one_pos
      rw [Nat.cast_one, div_one, Nat.cast_natAbs, Int.cast_abs] at nearest
      exact ⟨_, nearest⟩
  | decimal decimal =>
      cases isRational
      have nearest : (Binary.ofDecimal decimal : Double).IsNearest (decimal.unscaled < 0)
          (decimal.unscaled.natAbs * 10 ^ (-decimal.scale)) :=
        Binary.isNearest_ofScientific BinaryFormat.inReach_double (by decide) _ _ _
      have nonneg : (0 : ℚ) ≤ decimal.unscaled.natAbs * 10 ^ (-decimal.scale) := by positivity
      rw [← abs_of_nonneg nonneg, ← Binary.abs_signed (decimal.unscaled < 0),
        Binary.signed_value] at nearest
      exact ⟨_, nearest⟩

/-! ### Conversion to binary numbers -/

/-- Whether a number in a cell has room in the binary numbers of a type.  What is no binary number
is rounded to 64 bits first, and half a unit of these is lost below the bound of 32. -/
def HasRoom (cell : Cell) (value : ℚ) : DataType → Prop
  | .float =>
      |value| < if cell.isBinary then BinaryFormat.single.overflowBound
        else BinaryFormat.single.overflowBound - 2 ^ 74
  | _ => |value| < BinaryFormat.double.overflowBound

/-- Whether a cell has an infinite number. -/
def isInfinite : Cell → Bool
  | float value => value.isInfinite
  | double value => value.isInfinite
  | _ => false

/-- Whether a cell is of a type and has a finite number if there is room, and else an infinite
one. -/
structure IsFiniteWithin (type : DataType) (room : Prop) (cell : Cell) : Prop where
  isType : cell.type? = some type
  finite : room → ∃ value, cell.rational? = some value
  infinite : ¬room → cell.isInfinite = true

theorem isFiniteWithin_of_number {format : BinaryFormat} {type : DataType}
    {wrap : Binary format → Cell} (isType : ∀ number, (wrap number).type? = some type)
    (isValue : ∀ number, (wrap number).rational? = number.value?)
    (isInfinite : ∀ number, (wrap number).isInfinite = number.isInfinite)
    {number : Binary format} (isNumber : number ≠ .nan) {room : Prop}
    (isFinite_iff : number.isFinite = true ↔ room) :
    (wrap number).IsFiniteWithin type room where
  isType := isType number
  finite hasRoom := by
    rw [isValue]
    exact Binary.exists_value? (isFinite_iff.mpr hasRoom)
  infinite noRoom := by
    have notFinite : ¬number.isFinite = true := mt isFinite_iff.mp noRoom
    rw [isInfinite]
    cases number with
    | nan => exact absurd rfl isNumber
    | infinite => rfl
    | finite => exact absurd rfl notFinite

theorem isFiniteWithin_float {number : Single} (isNumber : number ≠ .nan) {room : Prop}
    (isFinite_iff : number.isFinite = true ↔ room) : (float number).IsFiniteWithin .float room :=
  isFiniteWithin_of_number (fun _ => rfl) (fun _ => rfl) (fun _ => rfl) isNumber isFinite_iff

theorem isFiniteWithin_double {number : Double} (isNumber : number ≠ .nan) {room : Prop}
    (isFinite_iff : number.isFinite = true ↔ room) : (double number).IsFiniteWithin .double room :=
  isFiniteWithin_of_number (fun _ => rfl) (fun _ => rfl) (fun _ => rfl) isNumber isFinite_iff

theorem coerce_eq_self {type : DataType} {cell : Cell} (isType : cell.type? = some type) :
    cell.coerce type = .ok cell := by
  rw [coerce.eq_def, if_pos]
  simp [isType]

theorem coerce_eq_convert {type : DataType} {cell : Cell} (notNull : cell.isNull = false)
    (differs : cell.type? ≠ some type) (noArray : type.component? = none) :
    cell.coerce type = cell.convert type := by
  rw [coerce.eq_def, if_neg (by simp [notNull, differs])]
  split
  · cases noArray
  · rfl

theorem notNull_of_rational {cell : Cell} {value : ℚ} (isRational : cell.rational? = some value) :
    cell.isNull = false := by
  cases cell with
  | null => cases isRational
  | _ => rfl

theorem finite_of_value? {format : BinaryFormat} {number : Binary format} {value : ℚ}
    (isValue : number.value? = some value) : number ≠ .nan ∧ number.isFinite = true := by
  cases number with
  | finite => exact ⟨nofun, rfl⟩
  | _ => cases isValue

section

variable {cell : Cell} {value : ℚ} (isRational : cell.rational? = some value)
  (inFormat : cell.InFormat)

include isRational inFormat

/-- A number becomes a number of 64 bits, and is infinite just if it overflows them. -/
theorem coerce_double : ∃ result, cell.coerce .double = .ok result ∧
    result.IsFiniteWithin .double (cell.HasRoom value .double) := by
  obtain ⟨quantity, isQuantity, isExact, sameKind, held⟩ := quantity_of_rational isRational inFormat
  have room_iff : ¬BinaryFormat.double.Overflows value ↔ cell.HasRoom value .double := not_le
  have isWide : quantity.toDouble ≠ .nan ∧
      (quantity.toDouble.isFinite = true ↔ cell.HasRoom value .double) := by
    rw [← room_iff]
    cases isKind : quantity.isBinary with
    | true =>
        have isFinite := finite_of_value? (Quantity.value?_toDouble isExact isKind)
        have hasRoom := BinaryFormat.lt_overflowBound_of_holds (held (sameKind.symm.trans isKind))
        exact ⟨isFinite.1, iff_of_true isFinite.2 (not_le.mpr hasRoom)⟩
    | false =>
        obtain ⟨negative, nearest⟩ := Quantity.isNearest_toDouble isExact isKind
        refine ⟨nearest.ne_nan, ?_⟩
        rw [nearest.isFinite_iff BinaryFormat.inReach_double (abs_nonneg value),
          BinaryFormat.Overflows, abs_abs, BinaryFormat.Overflows]
  by_cases isType : cell.type? = some .double
  · cases cell with
    | double number =>
        cases isQuantity
        exact ⟨_, coerce_eq_self isType, isFiniteWithin_double isWide.1 isWide.2⟩
    | _ => cases isType
  · have isCoerced : cell.coerce .double = .ok (double quantity.toDouble) := by
      rw [coerce_eq_convert (notNull_of_rational isRational) isType rfl, convert, doubleOf,
        isQuantity]
      rfl
    exact ⟨_, isCoerced, isFiniteWithin_double isWide.1 isWide.2⟩

/-- A number becomes a number of 32 bits, and is infinite just if it has no room there. -/
theorem coerce_float : ∃ result, cell.coerce .float = .ok result ∧
    result.IsFiniteWithin .float (cell.HasRoom value .float) := by
  by_cases isType : cell.type? = some .float
  · cases cell with
    | float number =>
        have isFinite := finite_of_value? isRational
        have hasRoom := BinaryFormat.lt_overflowBound_of_holds (inFormat.holds isRational)
        exact ⟨_, coerce_eq_self isType,
          isFiniteWithin_float isFinite.1 (iff_of_true isFinite.2 hasRoom)⟩
    | _ => cases isType
  · obtain ⟨quantity, isQuantity, isExact, sameKind, held⟩ :=
      quantity_of_rational isRational inFormat
    have isCoerced : cell.coerce .float = .ok (float quantity.toDouble.convert) := by
      rw [coerce_eq_convert (notNull_of_rational isRational) isType rfl, convert, doubleOf,
        isQuantity]
      rfl
    refine ⟨_, isCoerced, ?_⟩
    cases isKind : quantity.isBinary with
    | true =>
        have isValue := Quantity.value?_toDouble isExact isKind
        apply isFiniteWithin_float (Binary.convert_ne_nan (finite_of_value? isValue).1)
        rw [Binary.isFinite_convert_iff BinaryFormat.inReach_single isValue, HasRoom, ← sameKind,
          if_pos isKind]
        exact not_le
    | false =>
        obtain ⟨negative, nearest⟩ := Quantity.isNearest_toDouble isExact isKind
        apply isFiniteWithin_float (Binary.convert_ne_nan nearest.ne_nan)
        rw [nearest.isFinite_convert_iff, HasRoom, ← sameKind, isKind]
        simp

end

end Cell

namespace Column

/-- A number converts to a binary number of a type, and is finite just if it has room there.  So do
the numbers of a column. -/
theorem numbers_are_finite_within {type : DataType} (isBinary : type = .float ∨ type = .double) :
    (∀ (cell : Cell) (value : ℚ), cell.rational? = some value → cell.InFormat →
      ∃ result, cell.coerce type = .ok result ∧
        result.IsFiniteWithin type (cell.HasRoom value type)) ∧
    ∀ name component kind cells column, of name type component kind cells = .ok column →
      List.Forall₂ (fun (cell result : Cell) => ∀ value, cell.rational? = some value →
        cell.InFormat → result.IsFiniteWithin type (cell.HasRoom value type))
        cells column.cells := by
  have isCoerced : ∀ (cell : Cell) (value : ℚ), cell.rational? = some value → cell.InFormat →
      ∃ result, cell.coerce type = .ok result ∧
        result.IsFiniteWithin type (cell.HasRoom value type) := by
    intro cell value isRational inFormat
    rcases isBinary with rfl | rfl
    · exact Cell.coerce_float isRational inFormat
    · exact Cell.coerce_double isRational inFormat
  refine ⟨isCoerced, ?_⟩
  intro name component kind cells column isMade
  apply (of_eq_ok isMade).2.imp
  intro cell result isResult value isRational inFormat
  obtain ⟨other, isOther, isFinite⟩ := isCoerced cell value isRational inFormat
  cases isResult.symm.trans isOther
  exact isFinite

/-- An integer beyond 64 bits has room in 32 bits of a binary number. -/
theorem big_integer_is_a_finite_float :
    (Cell.bigInteger (10 ^ 38)).HasRoom (10 ^ 38) .float ∧
      ∃ result value, (Cell.bigInteger (10 ^ 38)).coerce .float = .ok result ∧
        result.type? = some .float ∧ result.rational? = some value := by
  have isRational : (Cell.bigInteger (10 ^ 38)).rational? = some (10 ^ 38) := by
    norm_num [Cell.rational?]
  have hasRoom : (Cell.bigInteger (10 ^ 38)).HasRoom (10 ^ 38) .float := by
    norm_num [Cell.HasRoom, Cell.isBinary, BinaryFormat.overflowBound, BinaryFormat.single]
  obtain ⟨result, isCoerced, isFinite⟩ :=
    (numbers_are_finite_within (.inl rfl)).1 _ _ isRational trivial
  obtain ⟨value, isValue⟩ := isFinite.finite hasRoom
  exact ⟨hasRoom, result, value, isCoerced, isFinite.isType, isValue⟩

/-- A finite number of 64 bits is stored as an infinite one of 32 bits. -/
theorem finite_number_becomes_infinite :
    let number : Double := .finite false (2 ^ 52) 76
    number.InFormat ∧ (Cell.double number).rational? = some (2 ^ 128) ∧
      (Cell.double number).coerce .float = .ok (.float (.infinite false)) ∧
      ofType "numbers" .float [.double number] =
        .ok ⟨⟨"numbers", .float, none, .normal⟩, [.float (.infinite false)]⟩ := by
  intro number
  refine ⟨⟨by decide, by decide, by decide⟩, ?_, rfl, rfl⟩
  norm_num [Cell.rational?, number, Binary.value?, Number.signed]

end Column

end JsonTables
