import JsonTables.Issue
import JsonTables.Text.Blank

/-!
# Data types

The types of cells and columns, and their names.  The name of an array type is
the name of its component and a pair of brackets.  A name is read in either case,
with blanks around it and around the brackets, and some types have more than one.
-/

namespace JsonTables

/-- The type of a cell. -/
inductive DataType where
  | boolean
  | char
  | byte
  | short
  | int
  | long
  | float
  | double
  | string
  | instant
  | bigInteger
  | bigDecimal
  | object
  | array (component : DataType)
deriving DecidableEq, Repr, Inhabited

namespace DataType

/-- The types that are not arrays, in order, with their names. -/
def scalars : List (String × DataType) :=
  [ ("bool", boolean), ("char", char), ("byte", byte), ("short", short), ("int", int),
    ("long", long), ("float", float), ("double", double), ("string", string),
    ("instant", instant), ("big_integer", bigInteger), ("big_decimal", bigDecimal),
    ("object", object) ]

/-- Second names. -/
def aliases : List (String × DataType) :=
  [ ("boolean", boolean), ("int8", byte), ("int16", short), ("int32", int), ("int64", long),
    ("float32", float), ("float64", double), ("str", string), ("datetime", instant),
    ("biginteger", bigInteger), ("bigdecimal", bigDecimal) ]

/-- The name of a type, as it is shown. -/
def name : DataType → String
  | boolean => "bool"
  | char => "char"
  | byte => "byte"
  | short => "short"
  | int => "int"
  | long => "long"
  | float => "float"
  | double => "double"
  | string => "string"
  | instant => "instant"
  | bigInteger => "big_integer"
  | bigDecimal => "big_decimal"
  | object => "object"
  | array component => component.name ++ "[]"

instance : ToString DataType := ⟨name⟩

/-- The component of an array type. -/
def component? : DataType → Option DataType
  | array component => some component
  | _ => none

/-- Whether a type is that of arrays. -/
def isArray : DataType → Bool
  | array _ => true
  | _ => false

/-- Whether a type has values of a fixed size. -/
def isPrimitive : DataType → Bool
  | boolean | char | byte | short | int | long | float | double => true
  | _ => false

/-- Wraps a type in so many layers of arrays. -/
def nest : Nat → DataType → DataType
  | 0, type => type
  | layers + 1, type => array (nest layers type)

/-- Takes pairs of brackets and blanks off a text in reverse order: how many pairs
there were, and what is left. -/
def peelReversed : List Char → Nat × List Char
  | [] => (0, [])
  | ']' :: '[' :: rest =>
      let (layers, base) := peelReversed rest
      (layers + 1, base)
  | letter :: rest => if Text.isBlank letter then peelReversed rest else (0, letter :: rest)

/-- The layers of brackets after a name, and the name without blanks around it. -/
def peel (text : List Char) : Nat × List Char :=
  let (layers, base) := peelReversed text.reverse
  (layers, Text.trimStart base.reverse)

/-- The type of a name that has no brackets, in either case of letters. -/
def ofBase? (base : List Char) : Option DataType :=
  (scalars ++ aliases).lookup (String.ofList (base.map Char.toLower))

/-- Reads the name of a type. -/
def read (text : String) : Except Issue DataType :=
  let (layers, base) := peel text.toList
  match ofBase? base with
  | some type => .ok (nest layers type)
  | none => .error (.invalid s!"unknown data type: {String.ofList base}")

end DataType

end JsonTables
