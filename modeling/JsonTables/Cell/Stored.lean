import JsonTables.Cell
import JsonTables.DataType.Stored
import JsonTables.Number.Limbs

/-!
# Cells in JSON text

A cell is stored as an object with the name of its type and its value; null is
stored as its name alone.  Integers of any size are stored as a sign and limbs,
decimals and instants as their texts.
-/

namespace JsonTables.Cell

open JsonText (Reader Halt Bytes Scanned Mismatch)
open Number (Bounds Single Double Decimal)

/-! ### Writing -/

/-- The stored form of an integer of a fixed size. -/
def integerToJson (value : Int) : Json :=
  .number (toString value)

/-- The stored form of an integer of any size. -/
def bigIntegerToJson (value : Int) : Json :=
  .array [integerToJson value.sign,
    .array ((Number.toLimbs value.natAbs).map fun limb : Nat => integerToJson limb)]

/-- The stored form of a binary number; there is none for one that is not finite. -/
def binaryToJson {format : Number.BinaryFormat} (value : Number.Binary format) : Json :=
  match value.toJson? with
  | some text => .number text
  | none => .null

mutual

/-- The stored form of a cell: its type as the only key, but for null. -/
def toJson : Cell → Json
  | null => .string "null"
  | boolean value => .object [("boolean", .bool value)]
  | char value => .object [("char", .string (String.ofList [value]))]
  | byte value => .object [("byte", integerToJson value)]
  | short value => .object [("short", integerToJson value)]
  | int value => .object [("int", integerToJson value)]
  | long value => .object [("long", integerToJson value)]
  | float value => .object [("float", binaryToJson value)]
  | double value => .object [("double", binaryToJson value)]
  | string text => .object [("string", .string text)]
  | instant value => .object [("instant", .string (toString value))]
  | bigInteger value => .object [("bigInteger", bigIntegerToJson value)]
  | bigDecimal value => .object [("bigDecimal", .string (toString value))]
  | json value => .object [("json", value)]
  | array elementType elements =>
      .object [("array", .object [("elementType", elementType.toJson),
        ("elements", .array (toJsonAll elements))])]
termination_by structural cell => cell

/-- The stored forms of cells. -/
def toJsonAll : List Cell → List Json
  | [] => []
  | cell :: rest => toJson cell :: toJsonAll rest
termination_by structural cells => cells

end

/-! ### Reading -/

/-- What a stored instant is expected to be. -/
def instantWanted : String := "an RFC 3339 formatted date and time string"

/-- The instant that a text spells. -/
def instantOf (text : String) : Except Mismatch Time.Instant :=
  (Time.InstantText.readRelaxed text).mapError fun fault => .refused fault.message

/-- What a stored decimal is expected to be. -/
def decimalWanted : String := "a number or formatted decimal string"

/-- The decimal that a text spells. -/
def decimalOf (text : String) : Except Mismatch Decimal :=
  (Decimal.read text).mapError fun fault => .refused fault.message

/-- The integer of a sign and limbs. -/
def signedLimbs (sign : Int) (limbs : List Nat) : Int :=
  sign * (Number.ofLimbs limbs : Nat)

/-- The sign of a stored integer, which is one of three numbers. -/
def signOf (sign : Int) : Except Mismatch Int :=
  if sign = -1 ∨ sign = 0 ∨ sign = 1 then .ok sign
  else .error (.invalidValue (.integer sign) "a sign of -1, 0, or 1")

/-- Reads the sign of a stored integer. -/
def signReader : Reader Int := fun rest => do
  let (sign, rest) ← JsonText.integer (.signed 8) "i8" rest
  match signOf sign with
  | .ok sign => return (sign, rest)
  | .error cause => .error (.unplaced cause rest)

/-- What the limbs of an integer are read from. -/
def limbsWanted : String := "a sequence of unsigned 32-bit numbers"

/-- Reads an integer of any size. -/
def bigIntegerReader (depth : Nat) : Reader Int :=
  JsonText.peeked fun rest => do
    let wanted := "a tuple of size 2"
    if JsonText.startsWith rest '[' then
      let depth ← JsonText.enter depth rest
      JsonText.placed (JsonText.closed JsonText.endList do
        let (sign, rest) ← JsonText.itemAt 0 wanted signReader (rest.drop 1)
        let limbs := JsonText.list limbsWanted depth fun _ =>
          JsonText.integer (.unsigned 32) "u32"
        let (limbs, rest) ← JsonText.itemAt 1 wanted limbs rest
        return (signedLimbs sign (limbs.map Int.toNat), rest))
    else JsonText.wrongType wanted rest

/-- Reads a decimal from a text or an integer. -/
def decimalReader (depth : Nat) : Reader Decimal :=
  JsonText.peeked fun rest => do
    let mismatch := fun found => JsonText.Mismatch.invalidType found decimalWanted
    if JsonText.startsWith rest '-' || !(JsonText.spanDigits rest).1.isEmpty then
      let (token, rest) ← JsonText.number rest
      match token.found with
      | .integer value => return (.ofInt value, rest)
      | _ => JsonText.mismatchHere (mismatch .object) rest
    else if JsonText.startsWith rest '[' then
      let _ ← JsonText.enter depth rest
      JsonText.placed (JsonText.closed JsonText.endList
        (.error (.unplaced (mismatch .list) (rest.drop 1))))
    else if JsonText.startsWith rest '\x7b' then
      let _ ← JsonText.enter depth rest
      JsonText.placed (JsonText.closed JsonText.endObject
        (.error (.unplaced (mismatch .object) (rest.drop 1))))
    else JsonText.stringAs decimalWanted decimalOf rest

/-- The names that a stored cell may have: the types of cells, and null. -/
inductive StoredName
  | null
  | boolean
  | char
  | byte
  | short
  | int
  | long
  | float
  | double
  | string
  | instant
  | bigInteger
  | bigDecimal
  | json
  | array

/-- The names under which cells are stored, in order. -/
def storedNames : List (String × StoredName) :=
  [ ("null", .null), ("boolean", .boolean), ("char", .char), ("byte", .byte),
    ("short", .short), ("int", .int), ("long", .long), ("float", .float),
    ("double", .double), ("string", .string), ("instant", .instant),
    ("bigInteger", .bigInteger), ("bigDecimal", .bigDecimal), ("json", .json),
    ("array", .array) ]

/-- Reads a value and makes a cell of it. -/
def reading {α : Type} (read : Reader α) (make : α → Cell) : Reader Cell := fun rest => do
  let (value, rest) ← read rest
  return (make value, rest)

/-- The parts of a stored array. -/
structure StoredArray where
  elementType : Option DataType
  elements : Option (List Cell)

/-- Reads a part of a stored array, which comes once; other keys are skipped. -/
def arrayField (readType : Reader DataType) (readElements : Reader (List Cell)) (depth : Nat)
    (known : StoredArray) (key : String) : Reader StoredArray := fun rest => do
  if key = "elementType" then
    let (elementType, rest) ← JsonText.fieldValue key known.elementType readType rest
    return ({ known with elementType }, rest)
  else if key = "elements" then
    let (elements, rest) ← JsonText.fieldValue key known.elements readElements rest
    return ({ known with elements }, rest)
  else
    let (_, rest) ← JsonText.ignored depth rest
    return (known, rest)

/-- Reads the record of a stored array; `read` reads an element. -/
def arrayReader (read : Nat → Reader Cell) (depth : Nat) : Reader Cell :=
  let readType := fun depth => DataType.stored (JsonText.maxDepth + 1) depth
  let readElements := fun depth => JsonText.list "a sequence" depth read
  JsonText.listOrObject "struct variant Literal::Array" depth
    (fun depth rest => do
      let wanted := "struct variant Literal::Array with 2 elements"
      let (elementType, rest) ← JsonText.itemAt 0 wanted (readType depth) rest
      let (elements, rest) ← JsonText.itemAt 1 wanted (readElements depth) rest
      return (.array elementType elements, rest))
    (fun depth rest => do
      let field := arrayField (readType depth) (readElements depth) depth
      let (known, rest) ← JsonText.fields field ⟨none, none⟩ rest
      let elementType ← JsonText.required "elementType" known.elementType rest
      return (.array elementType (← JsonText.required "elements" known.elements rest), rest))

/-- Reads the stored value of a cell; `read` reads an element of an array. -/
def contentReader (read : Nat → Reader Cell) (depth : Nat) : StoredName → Reader Cell
  | .null => reading JsonText.unit fun _ => .null
  | .boolean => reading JsonText.bool .boolean
  | .char => reading (JsonText.stringAs "a character" JsonText.singleChar) .char
  | .byte => reading (JsonText.integer (.signed 8) "i8") .byte
  | .short => reading (JsonText.integer (.signed 16) "i16") .short
  | .int => reading (JsonText.integer (.signed 32) "i32") .int
  | .long => reading (JsonText.integer (.signed 64) "i64") .long
  | .float => reading (JsonText.binary "f32") .float
  | .double => reading (JsonText.binary "f64") .double
  | .string => reading (JsonText.string "a string") .string
  | .instant => reading (JsonText.stringAs instantWanted instantOf) .instant
  | .bigInteger => reading (bigIntegerReader depth) .bigInteger
  | .bigDecimal => reading (decimalReader depth) .bigDecimal
  | .json =>
      reading (JsonText.value (.spelled "string containing a number") depth)
        fun value => .json value.mergeRepeats
  | .array => arrayReader read depth

/-- Reads a stored cell, in a form that nests at most `fuel` deep. -/
def stored : Nat → Nat → Reader Cell
  | 0, _ => fun rest => JsonText.failNext .tooDeep rest
  | fuel + 1, depth =>
      JsonText.variant storedNames depth fun name depth? =>
        match name, depth? with
        | .null, none => fun rest => .ok (.null, rest)
        | .array, none => JsonText.loneVariant "struct variant"
        | _, none => JsonText.loneVariant "newtype variant"
        | name, some depth => contentReader (stored fuel) depth name

/-- The cell that a text stores. -/
def ofStoredText (text : String) : Except JsonText.TextError Cell :=
  JsonText.readAll (stored (JsonText.maxDepth + 1) JsonText.maxDepth) (JsonText.bytesOf text)

end JsonTables.Cell
