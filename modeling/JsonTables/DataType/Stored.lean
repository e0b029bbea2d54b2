import JsonTables.DataType
import JsonTables.Json.Render
import JsonTables.JsonText.Typed

/-!
# Data types in JSON text

A type is stored as its name, and an array type as a record with its component.
-/

namespace JsonTables.DataType

open JsonText (Reader Halt Bytes Scanned)

/-- The stored names of the types, in order; those of array types have a component. -/
inductive StoredName
  | scalar (type : DataType)
  | array

/-- The stored names of types. -/
def storedNames : List (String × StoredName) :=
  [ ("boolean", .scalar .boolean), ("char", .scalar .char), ("byte", .scalar .byte),
    ("short", .scalar .short), ("int", .scalar .int), ("long", .scalar .long),
    ("float", .scalar .float), ("double", .scalar .double), ("string", .scalar .string),
    ("instant", .scalar .instant), ("bigInteger", .scalar .bigInteger),
    ("bigDecimal", .scalar .bigDecimal), ("object", .scalar .object), ("array", .array) ]

/-- The stored form of a type: a name, or the component of an array under its name. -/
def toJson : DataType → Json
  | boolean => .string "boolean"
  | char => .string "char"
  | byte => .string "byte"
  | short => .string "short"
  | int => .string "int"
  | long => .string "long"
  | float => .string "float"
  | double => .string "double"
  | string => .string "string"
  | instant => .string "instant"
  | bigInteger => .string "bigInteger"
  | bigDecimal => .string "bigDecimal"
  | object => .string "object"
  | array component => .object [("array", .object [("component", component.toJson)])]

/-- Reads the component in the record of an array type. -/
def componentField (read : Reader DataType) (depth : Nat) (known : Option DataType)
    (key : String) : Reader (Option DataType) :=
  if key = "component" then JsonText.fieldValue key known read
  else fun rest => do
    let (_, rest) ← JsonText.ignored depth rest
    return (known, rest)

/-- Reads a stored type, in a form that nests at most `fuel` deep. -/
def stored : Nat → Nat → Reader DataType
  | 0, _ => fun rest => JsonText.failNext .tooDeep rest
  | fuel + 1, depth =>
      JsonText.variant storedNames depth fun name depth? =>
        match name, depth? with
        | .scalar type, none => fun rest => .ok (type, rest)
        | .scalar type, some _ => fun rest => do
            let (_, rest) ← JsonText.unit rest
            return (type, rest)
        | .array, none => JsonText.loneVariant "struct variant"
        | .array, some depth =>
            JsonText.listOrObject "struct variant DType::Array" depth
              (fun depth rest => do
                let wanted := "struct variant DType::Array with 1 element"
                let (component, rest) ← JsonText.itemAt 0 wanted (stored fuel depth) rest
                return (.array component, rest))
              (fun depth rest => do
                let (known, rest) ←
                  JsonText.fields (componentField (stored fuel depth) depth) none rest
                return (.array (← JsonText.required "component" known rest), rest))

/-- The type that a text stores. -/
def ofStoredText (text : String) : Except JsonText.TextError DataType :=
  JsonText.readAll (stored (JsonText.maxDepth + 1) JsonText.maxDepth) (JsonText.bytesOf text)

end JsonTables.DataType
