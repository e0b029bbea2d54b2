import JsonTables.Proofs.NumberOrder

/-!
# The order of cells

Two cells in the other order have the swapped order, whatever their types.  Within four
families of cells any two have an order: exact numbers, texts, instants and truth values.  Every
cell of a family has a key, and the cells are ordered as their keys.  A character is ordered as
the text of that character and an integer as a decimal, so it does not matter which types of a
family meet.
-/

namespace JsonTables

namespace Text

theorem compareChars_eq_compareLex (first second : List Char) :
    compareChars first second = List.compareLex (compareOn Char.toNat) first second := by
  induction first generalizing second with
  | nil => cases second <;> rfl
  | cons char rest ih =>
      cases second with
      | nil => rfl
      | cons other others =>
          rw [compareChars, ih, List.compareLex_cons_cons]
          rfl

instance : Std.TransCmp compareChars := by
  have isLex : compareChars = List.compareLex (compareOn Char.toNat) := by
    funext first second
    exact compareChars_eq_compareLex first second
  rw [isLex]
  infer_instance

theorem compareChars_singleton (first second : Char) :
    compareChars [first] [second] = Ord.compare first.toNat second.toNat :=
  Ordering.then_eq

theorem compareText_swap (first second : String) :
    compareText second first = (compareText first second).swap := by
  have isSwapped : compareChars second.toList first.toList =
      (compareChars first.toList second.toList).swap := Std.OrientedCmp.eq_swap
  exact isSwapped

end Text

namespace Time.Instant

theorem compare_eq_compareLex (first second : Instant) :
    first.compare second = compareLex (compareOn seconds) (compareOn nanos) first second :=
  rfl

instance : Std.TransCmp Instant.compare := by
  have isLex : Instant.compare = compareLex (compareOn seconds) (compareOn nanos) := by
    funext first second
    exact compare_eq_compareLex first second
  rw [isLex]
  infer_instance

end Time.Instant

namespace Cell

/-! ### The other order -/

theorem Quantity.compare_swap (first second : Quantity) :
    second.compare first = (first.compare second).map Ordering.swap := by
  cases first with
  | integer first =>
      cases second with
      | integer second => exact congrArg some Std.OrientedOrd.eq_swap
      | decimal second => rfl
      | binary second => exact Number.Binary.compare_swap _ _
  | decimal first =>
      cases second with
      | integer second => simp [compare]
      | decimal second =>
          simp [compare, Number.Decimal.compare_eq_cmp, cmp_swap]
      | binary second => exact Number.Binary.compare_swap _ _
  | binary first => cases second <;> exact Number.Binary.compare_swap _ _

/-- What is no number has no order next to a number. -/
theorem compare_eq_none_of_quantity {first second : Cell} {quantity : Quantity}
    (isNumber : first.quantity? = some quantity) (noNumber : second.quantity? = none) :
    first.compare second = none ∧ second.compare first = none := by
  cases second with
  | byte | short | int | long | float | double | bigInteger | bigDecimal => cases noNumber
  | _ => cases first <;> cases isNumber <;> exact ⟨rfl, rfl⟩

theorem compare_swap_of_noNumber {first second : Cell} (firstNone : first.quantity? = none)
    (secondNone : second.quantity? = none) :
    second.compare first = (first.compare second).map Ordering.swap := by
  cases first with
  | boolean first =>
      cases second with
      | boolean second => exact congrArg some Std.OrientedOrd.eq_swap
      | _ => rfl
  | char first =>
      cases second with
      | char second => exact congrArg some Std.OrientedOrd.eq_swap
      | string second => exact congrArg some (Text.compareText_swap _ _)
      | _ => rfl
  | string first =>
      cases second with
      | char second => exact congrArg some (Text.compareText_swap _ _)
      | string second => exact congrArg some (Text.compareText_swap _ _)
      | instant second => simp [compare, Function.comp_def]
      | _ => rfl
  | instant first =>
      cases second with
      | string second => rfl
      | instant second => exact congrArg some Std.OrientedCmp.eq_swap
      | _ => rfl
  | null => cases second <;> rfl
  | json value => cases second <;> rfl
  | array elementType elements => cases second <;> rfl
  | _ => cases firstNone

theorem compare_swap (first second : Cell) :
    second.compare first = (first.compare second).map Ordering.swap := by
  cases isFirst : first.quantity? with
  | none =>
      cases isSecond : second.quantity? with
      | none => exact compare_swap_of_noNumber isFirst isSecond
      | some quantity =>
          have noOrder := compare_eq_none_of_quantity isSecond isFirst
          rw [noOrder.1, noOrder.2]
          rfl
  | some firstQuantity =>
      cases isSecond : second.quantity? with
      | none =>
          have noOrder := compare_eq_none_of_quantity isFirst isSecond
          rw [noOrder.1, noOrder.2]
          rfl
      | some secondQuantity =>
          rw [compare_of_quantity isFirst isSecond, compare_of_quantity isSecond isFirst]
          exact Quantity.compare_swap firstQuantity secondQuantity

/-! ### Families and keys -/

/-- The families of cells any two of which have an order. -/
inductive Family
  | exactNumbers
  | texts
  | instants
  | truthValues

/-- The family of a cell.  A binary number is in none, as it may be next to an exact one. -/
def family? : Cell → Option Family
  | byte _ | short _ | int _ | long _ | bigInteger _ | bigDecimal _ => some .exactNumbers
  | char _ | string _ => some .texts
  | instant _ => some .instants
  | boolean _ => some .truthValues
  | _ => none

/-- Whether a cell has an order next to another, and comes before it or with it. -/
def AtMost (first second : Cell) : Prop :=
  ∃ order, first.compare second = some order ∧ order.isLE

/-- Whether the cells of a family have an order that is total, and in which every cell is
equal to itself. -/
structure Family.IsOrdered (family : Family) : Prop where
  comparable : ∀ ⦃first second : Cell⦄, first.family? = some family →
    second.family? = some family → (first.compare second).isSome
  refl : ∀ ⦃cell : Cell⦄, cell.family? = some family → cell.compare cell = some .eq
  trans : ∀ ⦃first second third : Cell⦄, first.family? = some family →
    second.family? = some family → third.family? = some family →
    first.AtMost second → second.AtMost third → first.AtMost third

theorem Family.isOrdered_of_key {family : Family} {Key : Type} (key : Cell → Key)
    (compareKeys : Key → Key → Ordering) [Std.TransCmp compareKeys]
    (ordered : ∀ ⦃first second : Cell⦄, first.family? = some family →
      second.family? = some family →
      first.compare second = some (compareKeys (key first) (key second))) :
    family.IsOrdered where
  comparable := by
    intro first second isFirst isSecond
    rw [ordered isFirst isSecond]
    rfl
  refl := by
    intro cell isCell
    rw [ordered isCell isCell]
    exact congrArg some Std.ReflCmp.compare_self
  trans := by
    rintro first second third isFirst isSecond isThird ⟨_, isOrder, isLE⟩ ⟨_, isNext, nextLE⟩
    rw [ordered isFirst isSecond] at isOrder
    rw [ordered isSecond isThird] at isNext
    cases isOrder
    cases isNext
    exact ⟨_, ordered isFirst isThird, Std.TransCmp.isLE_trans isLE nextLE⟩

/-- The value of an exact number. -/
def exactValue (cell : Cell) : ℚ :=
  cell.rational?.getD 0

/-- The characters of a text. -/
def characters : Cell → List Char
  | char value => [value]
  | string text => text.toList
  | _ => []

/-- The point of time of an instant. -/
def moment : Cell → Time.Instant
  | instant value => value
  | _ => ⟨0, 0⟩

/-- A truth value as a number. -/
def truth : Cell → Nat
  | boolean value => value.toNat
  | _ => 0

variable {first second : Cell}

theorem compare_exactNumbers (isFirst : first.family? = some .exactNumbers)
    (isSecond : second.family? = some .exactNumbers) :
    first.compare second = some (Ord.compare first.exactValue second.exactValue) := by
  have isNumber : ∀ {cell : Cell}, cell.family? = some .exactNumbers →
      ∃ quantity, cell.quantity? = some quantity ∧
        quantity.rational? = some cell.exactValue ∧ quantity.isBinary = false := by
    intro cell isExact
    cases cell <;> cases isExact <;> exact ⟨_, rfl, rfl, rfl⟩
  rcases isNumber isFirst with ⟨firstQuantity, hasFirst, firstValue, firstExact⟩
  rcases isNumber isSecond with ⟨secondQuantity, hasSecond, secondValue, secondExact⟩
  rw [compare_of_quantity hasFirst hasSecond,
    Quantity.compare_exact firstValue secondValue firstExact secondExact, cmp_eq_compare]

theorem compare_texts (isFirst : first.family? = some .texts)
    (isSecond : second.family? = some .texts) :
    first.compare second = some (Text.compareChars first.characters second.characters) := by
  cases first with
  | char first =>
      cases second with
      | char second => exact congrArg some (Text.compareChars_singleton first second).symm
      | string second => simp [compare, characters, Text.compareText]
      | _ => cases isSecond
  | string first =>
      cases second with
      | char second => simp [compare, characters, Text.compareText]
      | string second => rfl
      | _ => cases isSecond
  | _ => cases isFirst

theorem compare_instants (isFirst : first.family? = some .instants)
    (isSecond : second.family? = some .instants) :
    first.compare second = some (first.moment.compare second.moment) := by
  cases first <;> cases isFirst
  cases second <;> cases isSecond
  rfl

theorem compare_truthValues (isFirst : first.family? = some .truthValues)
    (isSecond : second.family? = some .truthValues) :
    first.compare second = some (Ord.compare first.truth second.truth) := by
  cases first <;> cases isFirst
  cases second <;> cases isSecond
  rfl

theorem Family.isOrdered (family : Family) : family.IsOrdered := by
  cases family with
  | exactNumbers => exact isOrdered_of_key exactValue Ord.compare @compare_exactNumbers
  | texts => exact isOrdered_of_key characters Text.compareChars @compare_texts
  | instants => exact isOrdered_of_key moment Time.Instant.compare @compare_instants
  | truthValues => exact isOrdered_of_key truth Ord.compare @compare_truthValues

/-- Two cells in the other order have the swapped order, or none just if they have none.  Within
a family, any two cells have an order, in which a cell is equal to itself and which carries over
from one pair to the next. -/
theorem cells_are_ordered_consistently :
    (∀ first second : Cell,
        second.compare first = (first.compare second).map Ordering.swap ∧
          (second.compare first = none ↔ first.compare second = none)) ∧
      ∀ family : Family,
        (∀ first second : Cell, first.family? = some family → second.family? = some family →
            first.compare second ≠ none) ∧
          (∀ cell : Cell, cell.family? = some family → cell.compare cell = some .eq) ∧
          ∀ first second third : Cell, first.family? = some family →
            second.family? = some family → third.family? = some family →
            first.AtMost second → second.AtMost third → first.AtMost third := by
  constructor
  · intro first second
    have isSwapped := compare_swap first second
    refine ⟨isSwapped, ?_⟩
    rw [isSwapped, Option.map_eq_none_iff]
  · intro family
    have isOrdered := family.isOrdered
    refine ⟨?_, ?_, ?_⟩
    · intro first second isFirst isSecond
      exact Option.isSome_iff_ne_none.mp (isOrdered.comparable isFirst isSecond)
    · intro cell isCell
      exact isOrdered.refl isCell
    · intro first second third isFirst isSecond isThird
      exact isOrdered.trans isFirst isSecond isThird

/-- One is at most one and a half, and that at most an integer of more than 64 bits. -/
theorem one_is_at_most_a_great_integer :
    (byte 1).family? = some .exactNumbers ∧ (bigDecimal ⟨150, 2⟩).family? = some .exactNumbers ∧
      (bigInteger (10 ^ 20)).family? = some .exactNumbers ∧
      (byte 1).AtMost (bigDecimal ⟨150, 2⟩) ∧
      (bigDecimal ⟨150, 2⟩).AtMost (bigInteger (10 ^ 20)) ∧
      (byte 1).AtMost (bigInteger (10 ^ 20)) := by
  have lower : (byte 1).AtMost (bigDecimal ⟨150, 2⟩) := ⟨.lt, by decide +kernel, rfl⟩
  have upper : (bigDecimal ⟨150, 2⟩).AtMost (bigInteger (10 ^ 20)) := ⟨.lt, by decide +kernel, rfl⟩
  refine ⟨rfl, rfl, rfl, lower, upper, ?_⟩
  exact (cells_are_ordered_consistently.2 .exactNumbers).2.2 _ _ _ rfl rfl rfl lower upper

end Cell

end JsonTables
