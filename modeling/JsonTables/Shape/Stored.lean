import JsonTables.Cell.Stored
import JsonTables.Shape

/-!
# Shapes in JSON text

A shape is stored as an object: the name of its kind and then its parts.
Defaults and ways of finding fields that are not given are left out.
-/

namespace JsonTables

/-- The stored name of what is done about repeated keys. -/
def RepeatPolicy.storedName : RepeatPolicy → String
  | error => "error"
  | useFirst => "useFirst"

/-- The stored name of a unit. -/
def Time.EpochUnit.storedName : Time.EpochUnit → String
  | seconds => "epochSeconds"
  | millis => "epochMillis"
  | micros => "epochMicros"
  | nanos => "epochNanos"

/-- The stored form of a set of kinds, in the order of `Kind.all`. -/
def KindSet.toJson (set : KindSet) : Json :=
  .array (set.toList.map fun kind => .string kind.name)

namespace Acceptance

/-- The stored parts of what is accepted. -/
def entries (acceptance : Acceptance) : List (String × Json) :=
  [("allowMissing", .bool acceptance.allowMissing), ("desiredTypes", acceptance.desired.toJson)]

end Acceptance

namespace FieldMatching

/-- The stored form of how a field is found. -/
def toJson (matching : FieldMatching) : Json :=
  let aliases :=
    if matching.aliases.isEmpty then []
    else [("aliases", Json.array (matching.aliases.map .string))]
  let repeats :=
    match matching.repeats with
    | some policy => [("repeatedBehavior", Json.string policy.storedName)]
    | none => []
  .object (aliases ++ ("caseInsensitiveMatch", Json.bool matching.ignoresCase) :: repeats)

end FieldMatching

namespace LeafKind

/-- The stored name of a kind of leaves. -/
def storedName : LeafKind → String
  | epoch _ => "instantNumber"
  | bigInteger => "bigInteger"
  | bigDecimal => "bigDecimal"
  | kind => kind.name

/-- The stored form of a value of a kind of leaves. -/
def valueToJson : (kind : LeafKind) → kind.Value → Json
  | boolean, value => .bool value
  | char, value => .string (String.ofList [value])
  | byte, value | short, value | int, value | long, value => Cell.integerToJson value
  | float, value => Cell.binaryToJson (value : Number.Single)
  | double, value => Cell.binaryToJson (value : Number.Double)
  | string, value => .string value
  | instant, value | epoch _, value => .string (toString (value : Time.Instant))
  | bigInteger, value => Cell.bigIntegerToJson value
  | bigDecimal, value => .string (toString (value : Number.Decimal))

/-- The stored part that only some kinds have. -/
def formatEntry : LeafKind → List (String × Json)
  | epoch unit => [("format", .string unit.storedName)]
  | _ => []

end LeafKind

namespace Leaf

/-- The stored entry of a default, if there is one. -/
def defaultEntry (key : String) (kind : LeafKind) : Option kind.Value → List (String × Json)
  | some value => [(key, kind.valueToJson value)]
  | none => []

/-- The stored form of a leaf. -/
def toJson (leaf : Leaf) : Json :=
  .object (("type", .string leaf.kind.storedName) :: leaf.kind.formatEntry
    ++ leaf.acceptance.entries ++ defaultEntry "onNull" leaf.kind leaf.onNull
    ++ defaultEntry "onMissing" leaf.kind leaf.onMissing)

end Leaf

namespace Shape

/-- A stored object with its kind in front. -/
def tagged (kind : String) (entries : List (String × Json)) : Json :=
  .object (("type", .string kind) :: entries)

/-- The stored parts of an object's rules, after its fields. -/
def ruleEntries (rules : ObjectRules) : List (String × Json) :=
  let matching :=
    if rules.matching.isEmpty then []
    else [("fieldMatching", Json.object (rules.matching.map fun entry =>
      (entry.1, entry.2.toJson)))]
  ("allowUnknownFields", Json.bool rules.allowUnknown) :: rules.acceptance.entries
    ++ ("repeatedFieldBehavior", Json.string rules.repeats.storedName) :: matching

mutual

/-- The stored form of a shape: its kind and its parts. -/
def toJson : Shape → Json
  | leaf scalar => scalar.toJson
  | object record => tagged "object" (objectEntries record)
  | array element acceptance =>
      tagged "array" (("element", toJson element) :: acceptance.entries)
  | keyValue key value acceptance =>
      tagged "objectKv"
        (("key", toJson key) :: ("value", toJson value) :: acceptance.entries)
  | tuple slots acceptance =>
      tagged "tuple" (("values", .array (slotsToJson slots)) :: acceptance.entries)
  | typed rules shared variants =>
      tagged "typedObject"
        (("typeField", .string rules.typeField) :: ("sharedFields", .object (fieldsToJson shared))
          :: ("objects", .object (variantsToJson variants))
          :: ("allowUnknownTypes", .bool rules.allowUnknown) :: rules.acceptance.entries
          ++ [("repeatedFieldBehavior", .string rules.repeats.storedName)])
  | any => tagged "any" []
  | skip acceptance => tagged "skip" acceptance.entries
termination_by structural shape => shape

/-- The stored parts of an object. -/
def objectEntries : ObjectShape → List (String × Json)
  | .record fields rules => ("fields", .object (fieldsToJson fields)) :: ruleEntries rules
termination_by structural record => record

/-- The stored forms of fields. -/
def fieldsToJson : List (String × Shape) → List (String × Json)
  | [] => []
  | (name, shape) :: rest => (name, toJson shape) :: fieldsToJson rest
termination_by structural fields => fields

/-- The stored forms of slots. -/
def slotsToJson : List Shape → List Json
  | [] => []
  | slot :: rest => toJson slot :: slotsToJson rest
termination_by structural slots => slots

/-- The stored forms of the objects of types. -/
def variantsToJson : List (String × ObjectShape) → List (String × Json)
  | [] => []
  | (tag, record) :: rest => (tag, .object (objectEntries record)) :: variantsToJson rest
termination_by structural variants => variants

end

end Shape

end JsonTables
