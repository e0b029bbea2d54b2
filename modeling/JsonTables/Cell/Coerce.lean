import JsonTables.Cell
import JsonTables.Text.Quoted

/-!
# Conversion of cells

A cell of a column has the type of the column.  Integers convert to each other
where they fit and to numbers of every other type, a text of one character to a
character, and a text or a number of nanoseconds to an instant.  Null is of every
type, and a column of objects takes every cell as it is.
-/

namespace JsonTables

open Number (Bounds Double Decimal)

/-- Why a cell does not convert to a type. -/
inductive CoercionFault
  | mismatch (cell : Cell) (target : DataType)
  | outOfRange (cell : Cell) (target : DataType)
  | notOneChar (text : String)
  | notInstant (text : String) (fault : Time.InstantFault)

/-- The text of a fault, with the cell and the type that was wanted. -/
def CoercionFault.message : CoercionFault → String
  | mismatch cell target =>
      match cell.type? with
      | some type => s!"cannot convert {cell} of type {type} to {target}"
      | none => s!"cannot convert {cell} to {target}"
  | outOfRange cell target => s!"value {cell} is out of range for {target}"
  | notOneChar text => s!"expected a single character, found {Text.quoted text}"
  | notInstant text fault => s!"invalid instant {Text.quoted text}: {fault.message}"

namespace Cell

/-- The integer of a cell that has one. -/
def integerOf (cell : Cell) (target : DataType) : Except CoercionFault Int :=
  match cell.asInteger? with
  | some value => .ok value
  | none => .error (.mismatch cell target)

/-- The integer of a cell within bounds. -/
def narrow (cell : Cell) (bounds : Bounds) (target : DataType) : Except CoercionFault Int := do
  let value ← cell.integerOf target
  if bounds.contains value then return value else throw (.outOfRange cell target)

/-- The number of 64 bits of a cell, which must be a number. -/
def doubleOf (cell : Cell) (target : DataType) : Except CoercionFault Double :=
  match cell.quantity? with
  | some quantity => .ok quantity.toDouble
  | none => .error (.mismatch cell target)

/-- The decimal of a cell: of an integer, or of the digits of a binary number. -/
def decimalFrom? : Cell → Option Decimal
  | float value => (Decimal.read (toString value)).toOption
  | double value => (Decimal.read (toString value)).toOption
  | cell => cell.asInteger?.map .ofInt

/-- The character of a cell, which must be a text of one. -/
def charOf (cell : Cell) : Except CoercionFault Char :=
  match cell with
  | string text =>
      match text.toList with
      | [letter] => .ok letter
      | _ => .error (.notOneChar text)
  | _ => .error (.mismatch cell .char)

/-- The instant of a cell: a text that spells one, or a number of nanoseconds. -/
def instantFrom (cell : Cell) : Except CoercionFault Time.Instant :=
  match cell with
  | string text => (Time.InstantText.readStrict text).mapError (.notInstant text)
  | _ => do return .ofNanos (← cell.narrow (.signed 64) .instant)

/-- Converts a cell that is of another type, and not null. -/
def convert (cell : Cell) : DataType → Except CoercionFault Cell
  | .boolean => .error (.mismatch cell .boolean)
  | .char => do return char (← cell.charOf)
  | .byte => do return byte (← cell.narrow (.signed 8) .byte)
  | .short => do return short (← cell.narrow (.signed 16) .short)
  | .int => do return int (← cell.narrow (.signed 32) .int)
  | .long => do return long (← cell.narrow (.signed 64) .long)
  | .float => do return float (← cell.doubleOf .float).convert
  | .double => do return double (← cell.doubleOf .double)
  | .string =>
      match cell with
      | char value => .ok (string (String.ofList [value]))
      | _ => .error (.mismatch cell .string)
  | .instant => do return instant (← cell.instantFrom)
  | .bigInteger => do return bigInteger (← cell.integerOf .bigInteger)
  | .bigDecimal =>
      match cell.decimalFrom? with
      | some value => .ok (bigDecimal value)
      | none => .error (.mismatch cell .bigDecimal)
  | .object => .ok cell
  | .array component => .error (.mismatch cell (.array component))

/-- Converts a cell to a type. -/
def coerce (target : DataType) (cell : Cell) : Except CoercionFault Cell :=
  if cell.isNull || cell.type? == some target then .ok cell
  else
    match target, cell with
    | .array component, array _ elements => do
        return array component (← elements.mapM (coerce component))
    | target, cell => cell.convert target

end Cell

end JsonTables
