import JsonTables.Text.Case
import JsonTables.Text.Order

/-!
# Tests of texts

A test holds a text against another, as it is or in lower case.
-/

namespace JsonTables

/-- How a text is held against another. -/
inductive TextOperator
  | startsWith
  | endsWith
  | contains
  | equal
  | notEqual
  | greater
  | greaterOrEqual
  | less
  | lessOrEqual
deriving DecidableEq, Repr

namespace TextOperator

/-- The name of an operator, as filters are shown. -/
def name : TextOperator → String
  | startsWith => "StartsWith"
  | endsWith => "EndsWith"
  | contains => "Contains"
  | equal => "Eq"
  | notEqual => "Neq"
  | greater => "Gt"
  | greaterOrEqual => "Gte"
  | less => "Lt"
  | lessOrEqual => "Lte"

/-- Whether characters follow each other somewhere among others. -/
def occursIn (part : List Char) : List Char → Bool
  | [] => part.isEmpty
  | char :: rest => part.isPrefixOf (char :: rest) || occursIn part rest

/-- Whether an operator holds of a text and the value that it is held against. -/
def holds (operator : TextOperator) (text value : String) : Bool :=
  match operator with
  | startsWith => value.toList.isPrefixOf text.toList
  | endsWith => value.toList.isSuffixOf text.toList
  | contains => occursIn value.toList text.toList
  | equal => text == value
  | notEqual => text != value
  | greater => (Text.compareText text value).isGT
  | greaterOrEqual => (Text.compareText text value).isGE
  | less => (Text.compareText text value).isLT
  | lessOrEqual => (Text.compareText text value).isLE

end TextOperator

/-- A test of the text of a cell against a text. -/
structure TextTest where
  operator : TextOperator
  value : String
  /-- Whether both texts are put into lower case first. -/
  ignoresCase : Bool := false
deriving DecidableEq, Repr

namespace TextTest

/-- Whether a text passes a test. -/
def holds (test : TextTest) (text : String) : Bool :=
  if test.ignoresCase then
    test.operator.holds (Text.toLower text) (Text.toLower test.value)
  else test.operator.holds text test.value

end TextTest

end JsonTables
