import JsonTables.Cell.Coerce
import JsonTables.Proofs.RowFilling
import JsonTables.Proofs.WrittenNumbers
import JsonTables.Sketch

/-!
# Integers from cells and from documents

An integer comes into a column in two ways: in a cell of an integral type, which is converted, and
in a document, as the digits that spell it.  Both ways end in the same cell, and both are closed
just where the integer is out of the range of the type.  A text becomes a character or an instant
alike in both ways, too.
-/

namespace JsonTables

open Number (Bounds Spells int64)
open Time (EpochUnit Instant)

namespace Number.Bounds

theorem contains_signed_iff {bits : Nat} {value : Int} :
    (signed bits).contains value = true ↔
      -2 ^ (bits - 1) ≤ value ∧ value < 2 ^ (bits - 1) := by
  rw [contains_iff, signed, Int.le_sub_one_iff]

/-- More bits have room for what fewer have. -/
theorem contains_signed_mono {fewer more : Nat} (atMost : fewer ≤ more) {value : Int}
    (inside : (signed fewer).contains value = true) :
    (signed more).contains value = true := by
  have grows : (2 : Int) ^ (fewer - 1) ≤ 2 ^ (more - 1) :=
    pow_le_pow_right₀ (by decide) (by omega)
  rw [contains_signed_iff] at inside ⊢
  omega

end Number.Bounds

namespace DataType

/-- The types in which an integer keeps its value. -/
def keepsIntegers : DataType → Bool
  | byte | short | int | long | bigInteger | instant | bigDecimal => true
  | _ => false

/-- How many bits the integers of a type have, where that is limited.  An instant is a number of
nanoseconds. -/
def integerBits? : DataType → Option Nat
  | byte => some 8
  | short => some 16
  | int => some 32
  | long | instant => some 64
  | _ => none

/-- Whether an integer is in the range of a type. -/
def HoldsInteger (type : DataType) (value : Int) : Prop :=
  ∀ bits, type.integerBits? = some bits → -2 ^ (bits - 1) ≤ value ∧ value < 2 ^ (bits - 1)

/-- The cell of a type that stands for an integer. -/
def integerCell : DataType → Int → Cell
  | byte, value => .byte value
  | short, value => .short value
  | int, value => .int value
  | long, value => .long value
  | bigInteger, value => .bigInteger value
  | instant, value => .instant (.ofNanos value)
  | bigDecimal, value => .bigDecimal (.ofInt value)
  | _, _ => .null

/-- The shape that reads integers into cells of a type: the usual one, or that of a number of
nanoseconds. -/
def integerShape : DataType → Except DocumentError Shape
  | instant => Shape.buildInstant (some .nanos) {} none none
  | type => type.usualShape

/-- The kind of the leaf that reads integers into cells of a type. -/
def integerKind : DataType → LeafKind
  | byte => .byte
  | short => .short
  | int => .int
  | long => .long
  | bigInteger => .bigInteger
  | instant => .epoch .nanos
  | _ => .bigDecimal

theorem integerShape_eq {type : DataType} (keeps : type.keepsIntegers = true) :
    type.integerShape = .ok (.plainLeaf type.integerKind {} none none) := by
  cases type with
  | boolean | char | float | double | string | object | array => cases keeps
  | _ => rfl

theorem holdsInteger_iff_of_bits {type : DataType} {bits : Nat} {value : Int}
    (hasBits : type.integerBits? = some bits) :
    type.HoldsInteger value ↔ (Bounds.signed bits).contains value = true := by
  rw [Bounds.contains_signed_iff]
  simp [HoldsInteger, hasBits]

theorem holdsInteger_of_noBits {type : DataType} (noBits : type.integerBits? = none)
    (value : Int) : type.HoldsInteger value := by
  simp [HoldsInteger, noBits]

end DataType

/-! ### Converting -/

namespace Cell

/-- Whether a cell is of an integral type and holds an integer, which is in the range of the
type. -/
structure Holds (cell : Cell) (value : Int) : Prop where
  isInteger : cell.asInteger? = some value
  inRange : ∀ own, cell.type? = some own → own.HoldsInteger value

variable {cell result : Cell} {value : Int}

theorem narrow_eq_ok_iff {bounds : Bounds} {target : DataType} {narrowed : Int}
    (isInteger : cell.asInteger? = some value) :
    cell.narrow bounds target = .ok narrowed ↔
      bounds.contains value = true ∧ narrowed = value := by
  simp only [narrow, integerOf, isInteger, Except.ok_bind]
  split
  · rename_i inside
    rw [Except.pure_eq_ok_iff, and_iff_right inside, eq_comm]
  · rename_i outside
    simp [outside]

/-- An integer that is narrowed to the bits of a type and wrapped is a cell just if it is in the
range of the type. -/
theorem narrowed_eq_ok_iff {target : DataType} {bits : Nat} (wrap : Int → Cell)
    (hasBits : target.integerBits? = some bits) (isInteger : cell.asInteger? = some value) :
    (do return wrap (← cell.narrow (.signed bits) target)) = Except.ok result ↔
      target.HoldsInteger value ∧ result = wrap value := by
  simp only [Except.bind_eq_ok_iff, Except.pure_eq_ok_iff, narrow_eq_ok_iff isInteger,
    DataType.holdsInteger_iff_of_bits hasBits]
  constructor
  · rintro ⟨_, ⟨inside, rfl⟩, rfl⟩
    exact ⟨inside, rfl⟩
  · rintro ⟨inside, rfl⟩
    exact ⟨value, ⟨inside, rfl⟩, rfl⟩

theorem instantFrom_eq (isInteger : cell.asInteger? = some value) :
    cell.instantFrom = do return .ofNanos (← cell.narrow (.signed 64) .instant) := by
  cases cell <;> first | rfl | cases isInteger

theorem decimalFrom?_eq (isInteger : cell.asInteger? = some value) :
    cell.decimalFrom? = some (.ofInt value) := by
  cases cell <;> cases isInteger <;> rfl

theorem convert_integer_eq_ok_iff {target : DataType} (keeps : target.keepsIntegers = true)
    (isInteger : cell.asInteger? = some value) :
    cell.convert target = .ok result ↔
      target.HoldsInteger value ∧ result = target.integerCell value := by
  cases target with
  | byte => exact narrowed_eq_ok_iff byte rfl isInteger
  | short => exact narrowed_eq_ok_iff short rfl isInteger
  | int => exact narrowed_eq_ok_iff int rfl isInteger
  | long => exact narrowed_eq_ok_iff long rfl isInteger
  | instant =>
      have hasBits : DataType.instant.integerBits? = some 64 := rfl
      simp only [convert, instantFrom_eq isInteger, bind_assoc, pure_bind]
      exact narrowed_eq_ok_iff (fun nanos => instant (.ofNanos nanos)) hasBits isInteger
  | bigInteger =>
      rw [and_iff_right (DataType.holdsInteger_of_noBits rfl value)]
      simp [convert, integerOf, isInteger, DataType.integerCell, eq_comm]
  | bigDecimal =>
      rw [and_iff_right (DataType.holdsInteger_of_noBits rfl value)]
      simp [convert, decimalFrom?_eq isInteger, DataType.integerCell, eq_comm]
  | boolean | char | float | double | string | object | array => cases keeps

/-- A cell of an integral type is what stands for its integer in that type. -/
theorem eq_integerCell {target : DataType} (isInteger : cell.asInteger? = some value)
    (isType : cell.type? = some target) : cell = target.integerCell value := by
  cases cell <;> cases isInteger <;> cases isType <;> rfl

/-- A cell of an integral type is converted just if its integer is in the range of the type that
it is converted to. -/
theorem coerce_integer_eq_ok_iff {target : DataType} (keeps : target.keepsIntegers = true)
    (holds : cell.Holds value) : cell.coerce target = .ok result ↔
      target.HoldsInteger value ∧ result = target.integerCell value := by
  rcases holds with ⟨isInteger, inRange⟩
  by_cases isType : cell.type? = some target
  · have isKept : cell.coerce target = .ok cell := by
      rw [coerce.eq_def, isType, beq_self_eq_true, Bool.or_true, if_pos rfl]
    rw [isKept, and_iff_right (inRange target isType), ← eq_integerCell isInteger isType,
      Except.ok.injEq, eq_comm]
  · have isConverted : cell.coerce target = cell.convert target := by
      have notNull : cell.isNull = false := by cases cell <;> first | rfl | cases isInteger
      rw [coerce.eq_def, if_neg (by simp [notNull, isType])]
      split
      · cases isInteger
      · rfl
    rw [isConverted, convert_integer_eq_ok_iff keeps isInteger]

end Cell

/-! ### Reading -/

namespace Leaf

variable {text : String} {value : Int}

theorem isIntegerText_of_spells (spells : Spells text.toList value) :
    Json.isIntegerText text = true := by
  have plain := (Number.plain_of_spells spells).2
  simp only [Json.isIntegerText, List.all_eq_true]
  intro char charMem
  simp [plain char charMem]

theorem int64OfNumber_eq_ok_iff (spells : Spells text.toList value) {result : Int} :
    int64OfNumber text = .ok result ↔ int64.contains value = true ∧ result = value := by
  rw [← Number.int64_read_eq_ok_iff spells, int64OfNumber]
  split
  · rename_i isRead
    rw [isRead, Except.ok.injEq, Except.ok.injEq]
  · rename_i isFault
    simp [isFault, isIntegerText_of_spells spells]

theorem readIntegral_eq_ok_iff {bits : Nat} (fewer : bits ≤ 64)
    (spells : Spells text.toList value) (target : String) (allowDecimal : Bool) {result : Int} :
    readIntegral (.signed bits) target allowDecimal (.number text) = .ok result ↔
      (Bounds.signed bits).contains value = true ∧ result = value := by
  simp only [readIntegral, Except.bind_eq_ok_iff, int64OfNumber_eq_ok_iff spells]
  constructor
  · rintro ⟨_, ⟨_, rfl⟩, isRead⟩
    split at isRead
    · rename_i inside
      exact ⟨inside, (Except.pure_eq_ok_iff.mp isRead).symm⟩
    · cases isRead
  · rintro ⟨inside, rfl⟩
    exact ⟨result, ⟨Bounds.contains_signed_mono fewer inside, rfl⟩, by rw [if_pos inside]; rfl⟩

/-- A number of nanoseconds stands for itself. -/
theorem nanosOfInteger_nanos (inside : int64.contains value = true) :
    nanosOfInteger .nanos value = .ok value := by
  have unit : value * EpochUnit.nanos.toNanos = value := Int.mul_one value
  rw [nanosOfInteger, unit, if_pos inside]

theorem readNanos_eq_ok_iff (spells : Spells text.toList value) (allowDecimal : Bool)
    {result : Instant} : readEpoch .nanos allowDecimal (.number text) = .ok result ↔
      int64.contains value = true ∧ result = .ofNanos value := by
  simp only [readEpoch, isIntegerText_of_spells spells, if_true, Except.bind_eq_ok_iff,
    int64OfNumber_eq_ok_iff spells, and_assoc, exists_and_left, exists_eq_left]
  apply and_congr_right
  intro inside
  simp only [nanosOfInteger_nanos inside, Except.ok.injEq, exists_eq_left', Except.pure_eq_ok_iff]
  exact eq_comm

theorem readBigInteger_of_spells (spells : Spells text.toList value) (allowDecimal : Bool) :
    readBigInteger allowDecimal (.number text) = .ok value := by
  rw [readBigInteger, if_pos (isIntegerText_of_spells spells),
    Number.readInteger_of_spells spells]
  rfl

theorem readBigDecimal_of_spells (spells : Spells text.toList value) :
    readBigDecimal (.number text) = .ok (.ofInt value) := by
  rw [readBigDecimal, decimalOf, Number.decimal_read_of_spells spells]
  rfl

theorem readBits_eq_ok_iff {target : DataType} {bits : Nat}
    (hasBits : target.integerBits? = some bits) (fewer : bits ≤ 64)
    (spells : Spells text.toList value) (name : String) (allowDecimal : Bool) (wrap : Int → Cell)
    {cell : Cell} :
    (∃ scalar, readIntegral (.signed bits) name allowDecimal (.number text) = .ok scalar ∧
      cell = wrap scalar) ↔ target.HoldsInteger value ∧ cell = wrap value := by
  simp only [readIntegral_eq_ok_iff fewer spells, DataType.holdsInteger_iff_of_bits hasBits,
    and_assoc, exists_and_left, exists_eq_left]

/-- The digits of an integer are read as it just if it is in the range of the type. -/
theorem readInteger_eq_ok_iff {target : DataType} (keeps : target.keepsIntegers = true)
    (spells : Spells text.toList value) (allowDecimal : Bool) {cell : Cell} :
    (∃ scalar, readValue allowDecimal (.number text) target.integerKind = .ok scalar ∧
      cell = target.integerKind.cell scalar) ↔
      target.HoldsInteger value ∧ cell = target.integerCell value := by
  cases target with
  | byte => exact readBits_eq_ok_iff rfl (by decide) spells "byte" allowDecimal .byte
  | short => exact readBits_eq_ok_iff rfl (by decide) spells "short" allowDecimal .short
  | int => exact readBits_eq_ok_iff rfl (by decide) spells "int" allowDecimal .int
  | long => exact readBits_eq_ok_iff rfl (by decide) spells "long" allowDecimal .long
  | instant =>
      have hasBits : DataType.instant.integerBits? = some 64 := rfl
      simp only [DataType.integerKind, readValue, readNanos_eq_ok_iff spells,
        DataType.holdsInteger_iff_of_bits hasBits, and_assoc, exists_and_left, exists_eq_left]
      rfl
  | bigInteger =>
      rw [and_iff_right (DataType.holdsInteger_of_noBits rfl value)]
      simp only [DataType.integerKind, readValue, readBigInteger_of_spells spells, Except.ok.injEq,
        exists_eq_left']
      rfl
  | bigDecimal =>
      rw [and_iff_right (DataType.holdsInteger_of_noBits rfl value)]
      simp only [DataType.integerKind, readValue, readBigDecimal_of_spells spells, Except.ok.injEq,
        exists_eq_left']
      rfl
  | boolean | char | float | double | string | object | array => cases keeps

end Leaf

namespace Shape

variable {shape : Shape} {path : Path} {text : String} {row filled : Array Cell}

/-- A shape that reads integers fills a row with the integer that a number spells just if it is
in the range of the type. -/
theorem fill_integer_eq_ok_iff {target : DataType} {value : Int}
    (keeps : target.keepsIntegers = true) (isShape : target.integerShape = .ok shape)
    (spells : Spells text.toList value) : shape.fill path (some (.number text)) row = .ok filled ↔
      target.HoldsInteger value ∧ filled = row.push (target.integerCell value) := by
  have accepted : (target.integerKind.accepting {}).desired.contains .int = true := by
    cases target <;> rfl
  have isInt : (Json.number text).kind = .int := if_pos (Leaf.isIntegerText_of_spells spells)
  have notNull : Json.number text ≠ .null := nofun
  rw [DataType.integerShape_eq keeps] at isShape
  cases isShape
  simp only [plainLeaf, fill_leaf_eq_ok_iff, Leaf.read_some_eq_ok_iff notNull, isInt,
    accepted, true_and, Leaf.readInteger_eq_ok_iff keeps spells, and_assoc, exists_and_left,
    exists_eq_left]

end Shape

/-! ### Texts -/

theorem Cell.charOf_eq_ok_iff {text : String} {char : Char} :
    (Cell.string text).charOf = .ok char ↔ Leaf.readChar (.string text) = .ok char := by
  simp only [Cell.charOf, Leaf.readChar]
  generalize text.toList = chars
  rcases chars with _ | ⟨first, _ | ⟨second, rest⟩⟩ <;> simp

theorem Cell.instantFrom_text_eq_ok_iff {text : String} {instant : Instant} :
    (Cell.string text).instantFrom = .ok instant ↔
      Leaf.readInstant (.string text) = .ok instant := by
  rw [Cell.instantFrom, Leaf.readInstant, Except.mapError_eq_ok_iff, Except.mapError_eq_ok_iff]

/-- The usual leaf of a type reads a text as the cell that the text is converted to. -/
theorem Leaf.read_text_eq_ok_iff {target : DataType} {kind : LeafKind}
    (isKind : target.leafKind? = some kind) {path : Path} {text : String} {cell : Cell} :
    Leaf.read ⟨kind, kind.accepting {}, none, none⟩ path (some (.string text)) = .ok cell ↔
      (Cell.string text).coerce target = .ok cell := by
  have notNull : Json.string text ≠ .null := nofun
  rw [Leaf.read_some_eq_ok_iff notNull]
  cases target with
  | char =>
      cases isKind
      have isCoerced : (Cell.string text).coerce .char =
        (do return .char (← (Cell.string text).charOf)) := rfl
      rw [isCoerced, Except.bind_eq_ok_iff]
      simp only [Cell.charOf_eq_ok_iff, Except.pure_eq_ok_iff]
      apply (and_iff_right rfl).trans
      exact exists_congr fun char => and_congr_right fun _ => eq_comm
  | instant =>
      cases isKind
      have isCoerced : (Cell.string text).coerce .instant =
        (do return .instant (← (Cell.string text).instantFrom)) := rfl
      rw [isCoerced, Except.bind_eq_ok_iff]
      simp only [Cell.instantFrom_text_eq_ok_iff, Except.pure_eq_ok_iff]
      apply (and_iff_right rfl).trans
      exact exists_congr fun instant => and_congr_right fun _ => eq_comm
  | string =>
      cases isKind
      have isCoerced : (Cell.string text).coerce .string = .ok (.string text) := rfl
      rw [isCoerced, Except.ok.injEq]
      apply (and_iff_right rfl).trans
      simp only [readValue, readString, Except.ok.injEq, exists_eq_left']
      exact eq_comm
  | object => cases isKind
  | array component => cases isKind
  | _ =>
      -- texts are refused, and converted to no other type
      cases isKind
      constructor
      · rintro ⟨accepted, _⟩
        cases accepted
      · intro isCoerced
        cases isCoerced

/-- A cell of an integral type is converted to a type just if the shape of the type reads the
digits of its integer, and a text just if the usual shape of the type reads the text; and what
it is converted to is what is read. -/
theorem cells_are_converted_as_documents_are_read :
    (∀ (target : DataType) (shape : Shape) (cell : Cell) (value : Int) (text : String),
      target.keepsIntegers = true → target.integerShape = .ok shape → cell.Holds value →
      Spells text.toList value →
      (∀ result, cell.coerce target = .ok result ↔
        target.HoldsInteger value ∧ result = target.integerCell value) ∧
      ∀ path row filled, shape.fill path (some (.number text)) row = .ok filled ↔
        target.HoldsInteger value ∧ filled = row.push (target.integerCell value)) ∧
    ∀ (target : DataType) (shape : Shape) (text : String), target.leafKind?.isSome = true →
      target.usualShape = .ok shape →
      ∀ path row filled, shape.fill path (some (.string text)) row = .ok filled ↔
        ∃ result, (Cell.string text).coerce target = .ok result ∧ filled = row.push result := by
  constructor
  · intro target shape cell value text keeps isShape holds spells
    exact ⟨fun result => Cell.coerce_integer_eq_ok_iff keeps holds,
      fun path row filled => Shape.fill_integer_eq_ok_iff keeps isShape spells⟩
  · intro target shape text isLeaf isShape path row filled
    obtain ⟨kind, isKind⟩ := Option.isSome_iff_exists.mp isLeaf
    have isUsual : target.usualShape = .ok (DataType.usualLeaf kind) := by
      cases target <;> cases isKind <;> rfl
    rw [isUsual] at isShape
    cases isShape
    simp only [DataType.usualLeaf, Shape.plainLeaf, Shape.fill_leaf_eq_ok_iff,
      Leaf.read_text_eq_ok_iff isKind]

/-- The integer after the greatest long is neither converted to an instant nor read as one, and
a text of one letter is read as the character that it is converted to. -/
theorem integer_after_the_greatest_long_is_no_instant :
    (Cell.bigInteger 9223372036854775808).Holds 9223372036854775808 ∧
    (∀ result, (Cell.bigInteger 9223372036854775808).coerce .instant ≠ .ok result) ∧
    (∀ filled, (Shape.plainLeaf (.epoch .nanos) {} none none).fill []
      (some (.number "9223372036854775808")) #[] ≠ .ok filled) ∧
    (Shape.plainLeaf .char {} none none).fill [] (some (.string "é")) #[] =
      .ok #[.char 'é'] := by
  have holds : (Cell.bigInteger 9223372036854775808).Holds 9223372036854775808 :=
    ⟨rfl, by rintro own ⟨⟩; exact DataType.holdsInteger_of_noBits rfl _⟩
  have spells : Spells "9223372036854775808".toList 9223372036854775808 :=
    .plain (by decide) (by decide)
  have outside : ¬DataType.instant.HoldsInteger 9223372036854775808 := by
    intro inside
    exact absurd (inside 64 rfl) (by decide)
  have integers := cells_are_converted_as_documents_are_read.1 .instant _ _ _ _ rfl rfl holds spells
  have texts := cells_are_converted_as_documents_are_read.2 .char _ "é" rfl rfl [] #[] #[.char 'é']
  refine ⟨holds, ?_, ?_, texts.mpr ⟨.char 'é', rfl, rfl⟩⟩
  · intro result isCoerced
    exact outside ((integers.1 result).mp isCoerced).1
  · intro filled isFilled
    exact outside ((integers.2 [] #[] filled).mp isFilled).1

end JsonTables
