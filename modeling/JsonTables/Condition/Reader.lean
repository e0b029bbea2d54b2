import JsonTables.Condition
import JsonTables.JsonText.Reader
import JsonTables.Number.BinaryText
import JsonTables.TableError
import JsonTables.Text.Blank

/-!
# Reading conditions

A condition is written as the name of a column, a comparison and a literal, with
blanks where one likes.  A literal is a JSON text between double quotes, a plain
text between single quotes, one of the words `true`, `false` and `null`, or a
number.
-/

namespace JsonTables

open Number (int64 digits? Numeral)

/-- Why a text is not a condition. -/
inductive ConditionFault
  | malformed (condition : String)
  | nullOrder (condition : String)
  | invalidLiteral (literal : String)
  | invalidString (literal : String) (error : JsonText.TextError)

/-- The text of a fault, with the condition or the literal that has it. -/
def ConditionFault.message : ConditionFault → String
  | malformed condition => s!"invalid condition: {condition}"
  | nullOrder condition => s!"null can only be compared for equality: {condition}"
  | invalidLiteral literal => s!"invalid literal: {literal}"
  | invalidString literal error => s!"invalid string literal {literal}: {error.message}"

namespace Condition

/-! ### Literals -/

/-- The text between two quotes of a kind that a literal begins and ends with. -/
def unquote? (quote : Char) (chars : List Char) : Option (List Char) :=
  match chars with
  | first :: second :: rest =>
      let inner := second :: rest
      if first == quote && inner.getLast? == some quote then some inner.dropLast else none
  | _ => none

/-- A sign, whether it is a minus, and what follows it. -/
def splitSign : List Char → Bool × List Char
  | '+' :: rest => (false, rest)
  | '-' :: rest => (true, rest)
  | chars => (false, chars)

/-- The cell of an integer: a long if it fits into one. -/
def integerCell (value : Int) : Cell :=
  if int64.contains value then .long value else .bigInteger value

/-- The cell of a number: digits make an integer, other numerals a double. -/
def numberCell? (chars : List Char) : Option Cell :=
  let (negative, rest) := splitSign chars
  match digits? rest with
  | some value => some (integerCell (if negative then -(value : Int) else value))
  | none => (Numeral.read? rest).map fun numeral => .double (numeral.toBinary negative)

/-- The cell of a word that is a literal. -/
def wordCell? (text : String) : Option Cell :=
  if text = "true" then some (.boolean true)
  else if text = "false" then some (.boolean false)
  else if text = "null" then some .null
  else none

/-- Reads the literal of a condition: a text in quotes, a word or a number. -/
def readLiteral (chars : List Char) : Except ConditionFault Cell :=
  let text := String.ofList chars
  if (unquote? '"' chars).isSome then
    match JsonText.readAll (JsonText.string "a string") (JsonText.bytesOf text) with
    | .ok value => .ok (.string value)
    | .error error => .error (.invalidString text error)
  else
    match unquote? '\'' chars with
    | some inner => .ok (.string (String.ofList inner))
    | none =>
        match (wordCell? text).or (numberCell? chars) with
        | some value => .ok value
        | none => .error (.invalidLiteral text)

/-! ### Conditions -/

/-- The spellings of comparisons, in the order in which they are tried. -/
def spellings : List (String × Comparison) :=
  [ ("==", .equal), ("!=", .notEqual), ("<=", .lessOrEqual), (">=", .greaterOrEqual),
    ("=", .equal), ("<", .less), (">", .greater) ]

/-- A letter that a column's name may start with. -/
def isNameStart (char : Char) : Bool :=
  char.isAlpha || char == '_'

/-- A letter of a column's name. -/
def isNameChar (char : Char) : Bool :=
  isNameStart char || char.isDigit

/-- The literal of the rest of a condition: what is left without the blanks around
it, on one line.  Where nothing but blanks is left, one of them is the literal. -/
def literalOf? (chars : List Char) : Option (List Char) :=
  match Text.trim chars with
  | [] => (chars.reverse.find? (· != '\n')).map ([·])
  | body => if body.contains '\n' then none else some body

/-- The comparison at the start of the rest of a condition, and the literal after
it.  A comparison without a literal gives way to a shorter one. -/
def comparisonOf? (chars : List Char) : Option (Comparison × List Char) :=
  spellings.findSome? fun (spelling, comparison) =>
    if spelling.toList.isPrefixOf chars then
      (literalOf? (chars.drop spelling.length)).map fun literal => (comparison, literal)
    else none

/-- The column, the comparison and the literal of a condition. -/
def parts? (chars : List Char) : Option (List Char × Comparison × List Char) :=
  match Text.trimStart chars with
  | [] => none
  | first :: rest =>
      if isNameStart first then
        let column := first :: rest.takeWhile isNameChar
        (comparisonOf? (Text.trimStart (rest.dropWhile isNameChar))).map fun found =>
          (column, found)
      else none

/-- Reads a condition.  Only for equality is anything compared with null. -/
def read (text : String) : Except ConditionFault Condition :=
  match parts? text.toList with
  | none => .error (.malformed text)
  | some (column, comparison, literal) => do
      if comparison.needsOrder && literal == "null".toList then throw (.nullOrder text)
      return ⟨String.ofList column, comparison, ← readLiteral literal⟩

/-- Reads conditions, up to the first that is none. -/
def readEach (texts : List String) : Except TableError (List Condition) :=
  (texts.mapM read).mapError fun fault =>
    .construction "failed to create filters." (.invalid fault.message)

end Condition

end JsonTables
