import JsonTables.DataType
import JsonTables.Json.Render
import JsonTables.Number.Binary
import JsonTables.Text.Order
import JsonTables.Time.InstantText

/-!
# Cells

The values of a table.  A cell is null or has a data type.  Cells of different
types may still be ordered: numbers by value, characters as texts of one, and an
instant against a text that spells one.
-/

namespace JsonTables

open Number (Single Double Decimal)
open Time (Instant)

/-- A value of a table. -/
inductive Cell where
  | null
  | boolean (value : Bool)
  | char (value : Char)
  | byte (value : Int)
  | short (value : Int)
  | int (value : Int)
  | long (value : Int)
  | float (value : Single)
  | double (value : Double)
  | string (value : String)
  | instant (value : Instant)
  | bigInteger (value : Int)
  | bigDecimal (value : Decimal)
  | json (value : Json)
  | array (elementType : DataType) (elements : List Cell)
deriving Repr, Inhabited

namespace Cell

/-- The data type of a cell; null has none. -/
def type? : Cell → Option DataType
  | null => none
  | boolean _ => some .boolean
  | char _ => some .char
  | byte _ => some .byte
  | short _ => some .short
  | int _ => some .int
  | long _ => some .long
  | float _ => some .float
  | double _ => some .double
  | string _ => some .string
  | instant _ => some .instant
  | bigInteger _ => some .bigInteger
  | bigDecimal _ => some .bigDecimal
  | json _ => some .object
  | array elementType _ => some (.array elementType)

/-- Whether a cell is null. -/
def isNull : Cell → Bool
  | null => true
  | _ => false

/-- The text of a cell of type string. -/
def asString? : Cell → Option String
  | string text => some text
  | _ => none

/-- The cell of a JSON value; the value null is a null cell. -/
def ofJson : Json → Cell
  | .null => null
  | value => json value

/-- The integer of a cell of an integral type. -/
def asInteger? : Cell → Option Int
  | byte value | short value | int value | long value | bigInteger value => some value
  | _ => none

mutual

/-- The text of a cell, as it is shown and filtered by. -/
protected def toString : Cell → String
  | null => "null"
  | boolean value => if value then "true" else "false"
  | char value => String.ofList [value]
  | byte value => toString value
  | short value => toString value
  | int value => toString value
  | long value => toString value
  | float value => toString value
  | double value => toString value
  | string text => text
  | instant value => toString value
  | bigInteger value => toString value
  | bigDecimal value => toString value
  | json value => value.render
  | array _ elements => "[" ++ ", ".intercalate (textsOf elements) ++ "]"
termination_by structural cell => cell

/-- The text of every cell. -/
def textsOf : List Cell → List String
  | [] => []
  | cell :: rest => cell.toString :: textsOf rest
termination_by structural cells => cells

end

instance : ToString Cell := ⟨Cell.toString⟩

/-! ### Sameness -/

mutual

/-- Whether two cells are of one type and equal by value.  A number that is not a
number equals none, and a decimal equals those with more zeros at their end. -/
def same : Cell → Cell → Bool
  | null, null => true
  | boolean first, boolean second => first == second
  | char first, char second => first == second
  | byte first, byte second => first == second
  | short first, short second => first == second
  | int first, int second => first == second
  | long first, long second => first == second
  | float first, float second => first.same second
  | double first, double second => first.same second
  | string first, string second => first == second
  | instant first, instant second => first == second
  | bigInteger first, bigInteger second => first == second
  | bigDecimal first, bigDecimal second => first.same second
  | json first, json second => first.same second
  | array firstType first, array secondType second =>
      firstType == secondType && sameAll first second
  | _, _ => false
termination_by structural first => first

/-- `same` element by element. -/
def sameAll : List Cell → List Cell → Bool
  | [], [] => true
  | first :: rest, second :: others => same first second && sameAll rest others
  | _, _ => false
termination_by structural first => first

end

/-! ### Order -/

/-- A number of any type. -/
inductive Quantity
  | integer (value : Int)
  | decimal (value : Decimal)
  | binary (value : Double)

namespace Quantity

/-- The nearest binary number. -/
def toDouble : Quantity → Double
  | integer value => .ofInt value
  | decimal value => .ofDecimal value
  | binary value => value

/-- The order of two numbers.  It is exact among integers and decimals; next to a
binary number, both are rounded to binary numbers. -/
def compare : Quantity → Quantity → Option Ordering
  | integer first, integer second => some (Ord.compare first second)
  | decimal first, decimal second => some (first.compare second)
  | integer first, decimal second => some ((Decimal.ofInt first).compare second)
  | decimal first, integer second => some (((Decimal.ofInt second).compare first).swap)
  | first, second => first.toDouble.compare second.toDouble

end Quantity

/-- The number in a cell of a numeric type. -/
def quantity? : Cell → Option Quantity
  | byte value | short value | int value | long value | bigInteger value =>
      some (.integer value)
  | bigDecimal value => some (.decimal value)
  | float value => some (.binary value.convert)
  | double value => some (.binary value)
  | _ => none

/-- The order of an instant and the instant that a text spells. -/
def compareSpelled (instant : Instant) (text : String) : Option Ordering :=
  match Time.InstantText.readStrict text with
  | .ok spelled => some (instant.compare spelled)
  | .error _ => none

/-- The order of two cells, if they have one.  Null has no order. -/
def compare : Cell → Cell → Option Ordering
  | null, _ => none
  | _, null => none
  | boolean first, boolean second => some (Ord.compare first.toNat second.toNat)
  | string first, string second => some (Text.compareText first second)
  | char first, char second => some (Ord.compare first.toNat second.toNat)
  | char first, string second => some (Text.compareText (String.ofList [first]) second)
  | string first, char second => some (Text.compareText first (String.ofList [second]))
  | instant first, instant second => some (first.compare second)
  | instant first, string second => compareSpelled first second
  | string first, instant second => (compareSpelled second first).map Ordering.swap
  | first, second =>
      match first.quantity?, second.quantity? with
      | some first, some second => first.compare second
      | _, _ => none

end Cell

end JsonTables
