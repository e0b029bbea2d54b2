import JsonTables.DocumentError
import JsonTables.Shape

/-!
# Checking shapes

A shape is checked when it is made, its parts before it.  It may accept only the
kinds of tokens that it can read, its defaults must be of use, and no key of an
object may belong to two fields.
-/

namespace JsonTables

/-- Why a shape is refused. -/
inductive ShapeFault
  | unreadableKind (shape : String) (kind : Kind)
  | uselessOnNull (shape : String)
  | uselessOnMissing (shape : String)
  | keyWidth (columns : Nat)
  | matchingOfUnknownField (name : String)
  | overlappingAlias (name : String)
  | overlappingField (name : String)
  | sharedTypeField (name : String)
  | requiredVariant (tag : String)
  | variantField (name tag : String)
deriving DecidableEq, Repr

/-- The text of a fault, with the name of the shape that has it. -/
def ShapeFault.message : ShapeFault → String
  | unreadableKind shape kind => s!"{shape} options cannot accept {kind.name} values"
  | uselessOnNull shape => s!"{shape} options: on_null is only valid when null is allowed"
  | uselessOnMissing shape =>
      s!"{shape} options: on_missing is only valid when missing is allowed"
  | keyWidth columns =>
      s!"object_kv key options must produce exactly one column, found {columns}"
  | matchingOfUnknownField name => s!"field matching given for unknown field '{name}'"
  | overlappingAlias name => s!"name and aliases must be non-overlapping, found '{name}' overlaps"
  | overlappingField name => s!"found overlapping field name '{name}'"
  | sharedTypeField name => s!"type field '{name}' collides with a shared field"
  | requiredVariant tag => s!"object options for type '{tag}' must allow missing"
  | variantField name tag =>
      s!"field '{name}' for type '{tag}' collides with a shared field or the type field"

/-- Fails with the fault of a value, if there is a value. -/
def refuse? {α : Type} (found : Option α) (fault : α → ShapeFault) : Except ShapeFault Unit :=
  match found with
  | some value => .error (fault value)
  | none => .ok ()

namespace FieldMatching

variable (lower : String → String)

/-- The first alias that is one name with the name or an alias before it. -/
def overlappingAlias? (matching : FieldMatching) (before : List String) :
    List String → Option String
  | [] => none
  | other :: rest =>
      if before.any fun name => sameName matching.ignoresCase name other lower then some other
      else overlappingAlias? matching (before ++ [other]) rest

/-- The first name of a field that is one name with a name of another field, in
either case of letters if one of the two ignores it. -/
def overlap? (name : String) (matching : FieldMatching) (otherName : String)
    (other : FieldMatching) : Option String :=
  (matching.names name).find? fun known =>
    (other.names otherName).any fun taken =>
      sameName (matching.ignoresCase || other.ignoresCase) known taken lower

end FieldMatching

namespace ObjectShape

section Names

variable (lower : String → String)

/-- The first name of a field that belongs to one of the fields before it. -/
def overlapBefore? (name : String) (matching : FieldMatching) :
    List (String × FieldMatching) → Option String
  | [] => none
  | (other, otherMatching) :: rest =>
      match FieldMatching.overlap? lower name matching other otherMatching with
      | some taken => some taken
      | none => overlapBefore? name matching rest

/-- Checks the names of fields against each other and those of fields before. -/
def checkNames (before : List (String × FieldMatching)) :
    List (String × FieldMatching) → Except ShapeFault Unit
  | [] => .ok ()
  | (name, matching) :: rest => do
      refuse? (matching.overlappingAlias? lower [name] matching.aliases) .overlappingAlias
      refuse? (overlapBefore? lower name matching before) .overlappingField
      checkNames (before ++ [(name, matching)]) rest

end Names

/-- The fields of an object with the way each is found. -/
def matchings (object : ObjectShape) : List (String × FieldMatching) :=
  object.fields.map fun field => (field.1, matchingIn object.rules.matching field.1)

/-- Checks that no key belongs to two fields. -/
def checkFields (object : ObjectShape) (lower : String → String := Text.toLower) :
    Except ShapeFault Unit := do
  let isField := fun name => object.fields.any (·.1 == name)
  refuse? ((object.rules.matching.map (·.1)).find? (!isField ·)) .matchingOfUnknownField
  checkNames lower [] object.matchings

end ObjectShape

namespace Shape

/-- Checks that a shape can read every kind of tokens that it accepts. -/
def checkKinds (shape : Shape) : Except ShapeFault Unit :=
  let accepted := shape.desired?.elim [] (·.toList)
  refuse? (accepted.find? (!shape.parseable.contains ·)) (.unreadableKind shape.name)

/-- Checks that the defaults of a leaf can be of use. -/
def checkDefaults : Shape → Except ShapeFault Unit
  | leaf scalar => do
      if scalar.onNull.isSome && !scalar.acceptance.desired.contains .null then
        throw (.uselessOnNull scalar.kind.name)
      if scalar.onMissing.isSome && !scalar.acceptance.allowMissing then
        throw (.uselessOnMissing scalar.kind.name)
  | _ => .ok ()

/-- Checks an object without the shapes of its fields. -/
def checkObject (record : ObjectShape) : Except ShapeFault Unit := do
  checkKinds (object record)
  record.checkFields

/-- Checks the objects of types against the fields that all types share. -/
def checkVariants (shared : List String) :
    List (String × ObjectShape) → Except ShapeFault Unit
  | [] => .ok ()
  | (tag, record) :: rest => do
      checkObject record
      unless record.rules.acceptance.allowMissing do throw (.requiredVariant tag)
      refuse? (shared.find? record.knows) (.variantField · tag)
      checkVariants shared rest

/-- Checks what is particular to a kind of shape. -/
def checkParts : Shape → Except ShapeFault Unit
  | object record => record.checkFields
  | keyValue key _ _ => if key.width = 1 then .ok () else .error (.keyWidth key.width)
  | typed rules shared variants => do
      let names := shared.map (·.1)
      if names.contains rules.typeField then throw (.sharedTypeField rules.typeField)
      checkVariants (names ++ [rules.typeField]) variants
  | _ => .ok ()

/-- Checks a shape whose parts have been checked. -/
def check (shape : Shape) : Except ShapeFault Unit := do
  checkKinds shape
  checkDefaults shape
  checkParts shape

/-- A shape that has passed its check. -/
def checked (shape : Shape) : Except DocumentError Shape :=
  match shape.check with
  | .ok () => .ok shape
  | .error fault => .error (.invalid fault.message)

end Shape

end JsonTables
