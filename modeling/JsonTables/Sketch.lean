import JsonTables.Shape.Build
import JsonTables.Shape.Decode

/-!
# Sketches

A short way of saying what a value looks like, in which only the types are given:
an object of sketches by name, a list of one sketch, a tuple of several.  A sketch
resolves to a shape with the usual rules.
-/

namespace JsonTables

/-- The plain types that a sketch may name. -/
inductive NativeType
  | bool
  | int
  | float
  | str
  | datetime
  | object
deriving DecidableEq, Repr

namespace NativeType

/-- The plain types by their names. -/
def known : List (String × NativeType) :=
  [ ("bool", bool), ("int", int), ("float", float), ("str", str), ("datetime", datetime),
    ("object", object) ]

/-- The plain type that has a name. -/
def read (name : String) : Except Issue NativeType :=
  match known.lookup name with
  | some type => .ok type
  | none => .error (.invalid s!"unknown native type: {name}")

/-- The data type of a plain type. -/
def dataType : NativeType → DataType
  | bool => .boolean
  | int => .long
  | float => .double
  | str => .string
  | datetime => .instant
  | object => .object

end NativeType

namespace DataType

/-- The leaves of a type that is no array type; an object is left as it is. -/
def leafKind? : DataType → Option LeafKind
  | boolean => some .boolean
  | char => some .char
  | byte => some .byte
  | short => some .short
  | int => some .int
  | long => some .long
  | float => some .float
  | double => some .double
  | string => some .string
  | instant => some .instant
  | bigInteger => some .bigInteger
  | bigDecimal => some .bigDecimal
  | object | array _ => none

/-- The leaf of a kind that nothing more is said about. -/
def usualLeaf (kind : LeafKind) : Shape :=
  .plainLeaf kind {} none none

/-- The types whose arrays have a usual shape. -/
def hasUsualArray : DataType → Bool
  | bigInteger | bigDecimal | object | array _ => false
  | _ => true

/-- The shape that a type has where nothing more is said, if it has one. -/
def usualShape? : DataType → Option Shape
  | object => some .any
  | array component =>
      if component.hasUsualArray then
        component.leafKind?.map fun kind => .plainArray (usualLeaf kind) {}
      else none
  | type => type.leafKind?.map usualLeaf

/-- The shape that a type has where nothing more is said. -/
def usualShape (type : DataType) : Except DocumentError Shape :=
  match type.usualShape? with
  | some shape => .ok shape
  | none => .error (.invalid s!"no default JSON value options for data type {type}")

end DataType

/-- A sketch of a shape. -/
inductive Sketch where
  /-- A shape that is already made. -/
  | shape (shape : Shape)
  | type (type : DataType)
  | native (type : NativeType)
  | fields (fields : List (String × Sketch))
  /-- A list of values; there must be one sketch, for all of them. -/
  | list (items : List Sketch)
  | tuple (slots : List Sketch)

namespace Sketch

/-! ### Resolving -/

mutual

/-- The shape that a sketch describes, made from its parts up. -/
def resolve : Sketch → Except DocumentError Shape
  | shape made => .ok made
  | type named => named.usualShape
  | native plain => plain.dataType.usualShape
  | fields parts => do Shape.buildObject (← resolveFields parts) Shape.defaultRules
  | list [item] => do Shape.buildArray (← resolve item) {}
  | list _ => .error (.invalid "Expected List as json type to have exactly one element")
  | tuple slots => do Shape.buildTuple (← resolveAll slots) {}
termination_by structural sketch => sketch

/-- The fields that are sketched, in order. -/
def resolveFields : List (String × Sketch) → Except DocumentError (List (String × Shape))
  | [] => .ok []
  | (name, sketch) :: rest => do
      let shape ← resolve sketch
      return (name, shape) :: (← resolveFields rest)
termination_by structural fields => fields

/-- The shapes that are sketched, in order. -/
def resolveAll : List Sketch → Except DocumentError (List Shape)
  | [] => .ok []
  | sketch :: rest => do
      let shape ← resolve sketch
      return shape :: (← resolveAll rest)
termination_by structural sketches => sketches

end

/-- The objects of types, of sketches that must be objects. -/
def resolveVariants : List (String × Sketch) → Except DocumentError (List (String × ObjectShape))
  | [] => .ok []
  | (tag, sketch) :: rest => do
      let record ← Shape.variantOf tag (← sketch.resolve)
      return (tag, record) :: (← resolveVariants rest)

/-! ### Reading -/

/-- The sketch of a name: a data type, or one of two words. -/
def ofName (name : String) : Except DocumentError Sketch :=
  if name = "any" then .ok (shape .any)
  else if name = "skip" then .ok (shape Shape.dropAny)
  else
    match DataType.read name with
    | .ok named => .ok (type named)
    | .error issue => .error (.ofIssue issue)

/-- The key of a tuple. -/
def tupleKey : String := "$tuple"

/-- The key of a plain type. -/
def nativeKey : String := "$native"

/-- The key of a stored shape. -/
def shapeKey : String := "$options"

/-- The plain type of a name. -/
def ofNativeName (name : String) : Except DocumentError Sketch :=
  match NativeType.read name with
  | .ok plain => .ok (native plain)
  | .error issue => .error (.ofIssue issue)

/-- A shape that is stored in a value. -/
def ofStored (value : Json) : Except DocumentError Sketch :=
  match Shape.ofStoredValue value with
  | .ok made => .ok (shape made)
  | .error cause => .error (.text (.mismatch cause none))

mutual

/-- Reads a sketch from a value without repeated keys. -/
def ofJson : Json → Except DocumentError Sketch
  | .string name => ofName name
  | .array items => do return list (← ofItems items)
  | .object [(key, .array items)] => do
      if key = tupleKey then return tuple (← ofItems items)
      else if key = shapeKey then ofStored (.array items)
      else return fields [(key, list (← ofItems items))]
  | .object [(key, .string name)] => do
      if key = nativeKey then ofNativeName name
      else if key = shapeKey then ofStored (.string name)
      else return fields [(key, ← ofName name)]
  | .object [(key, value)] => do
      if key = shapeKey then ofStored value
      else return fields [(key, ← ofJson value)]
  | .object entries => do return fields (← ofEntries entries)
  | value =>
      .error (.invalid s!"unexpected JSON value type description: {value.render}")
termination_by structural value => value

/-- The sketches that items stand for. -/
def ofItems : List Json → Except DocumentError (List Sketch)
  | [] => .ok []
  | item :: rest => do
      let sketch ← ofJson item
      return sketch :: (← ofItems rest)
termination_by structural items => items

/-- The sketches that the values of entries stand for. -/
def ofEntries : List (String × Json) → Except DocumentError (List (String × Sketch))
  | [] => .ok []
  | (key, value) :: rest => do
      let sketch ← ofJson value
      return (key, sketch) :: (← ofEntries rest)
termination_by structural entries => entries

end

end Sketch

end JsonTables
