import JsonTables.Cell
import JsonTables.Text.Quoted

/-!
# Conditions

A condition compares the cell of a column with a value.  Cells that have no order
meet no condition, so null meets none but the one that asks for it.
-/

namespace JsonTables

/-- How a cell is compared with a value. -/
inductive Comparison
  | equal
  | notEqual
  | less
  | lessOrEqual
  | greater
  | greaterOrEqual
deriving DecidableEq, Repr

namespace Comparison

/-- The sign of a comparison, as conditions are shown. -/
def symbol : Comparison → String
  | equal => "=="
  | notEqual => "!="
  | less => "<"
  | lessOrEqual => "<="
  | greater => ">"
  | greaterOrEqual => ">="

/-- Whether a comparison holds of two values in an order. -/
def holds : Comparison → Ordering → Bool
  | equal, ordering => ordering.isEq
  | notEqual, ordering => ordering.isNe
  | less, ordering => ordering.isLT
  | lessOrEqual, ordering => ordering.isLE
  | greater, ordering => ordering.isGT
  | greaterOrEqual, ordering => ordering.isGE

/-- Whether a comparison asks for more than whether two values are equal. -/
def needsOrder : Comparison → Bool
  | equal | notEqual => false
  | less | lessOrEqual | greater | greaterOrEqual => true

end Comparison

/-- A column, and what its cell is compared with. -/
structure Condition where
  column : String
  comparison : Comparison
  value : Cell

namespace Condition

/-- Whether a cell meets a condition. -/
def holds (condition : Condition) (cell : Cell) : Bool :=
  match condition.value, condition.comparison with
  | .null, .equal => cell.isNull
  | .null, .notEqual => !cell.isNull
  | value, comparison => (cell.compare value).any comparison.holds

/-- The text of a value in a condition: a text is quoted. -/
def valueText : Cell → String
  | .string text => Text.quoted text
  | value => toString value

/-- The text of a condition. -/
protected def toString (condition : Condition) : String :=
  s!"{condition.column} {condition.comparison.symbol} {valueText condition.value}"

/-- Whether two conditions ask for the same. -/
def same (first second : Condition) : Bool :=
  first.column == second.column && first.comparison == second.comparison
    && first.value.same second.value

end Condition

end JsonTables
