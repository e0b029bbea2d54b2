import JsonTables.Field
import JsonTables.Leaf

/-!
# Shapes

The shape of a JSON value, and the columns that values of the shape fill.  A leaf
fills one column and the parts of a compound shape fill theirs side by side, so a
row is as wide as its shape whatever the value.
-/

namespace JsonTables

/-- The rules of an object other than its fields. -/
structure ObjectRules where
  /-- Whether entries that belong to no field are passed over. -/
  allowUnknown : Bool
  acceptance : Acceptance
  repeats : RepeatPolicy := .useFirst
  /-- How fields are found; those without an entry here have their own name alone. -/
  matching : List (String × FieldMatching) := []
deriving DecidableEq, Repr

/-- The rules of an object whose fields depend on the value of one of them. -/
structure VariantRules where
  /-- The field that names the type. -/
  typeField : String
  /-- Whether a type that is not known is passed over. -/
  allowUnknown : Bool
  acceptance : Acceptance
  /-- For the type field and the fields that all types share. -/
  repeats : RepeatPolicy := .useFirst
deriving DecidableEq, Repr

mutual

/-- The shape of a JSON value. -/
inductive Shape where
  | leaf (leaf : Leaf)
  | object (object : ObjectShape)
  /-- A list of values of one shape. -/
  | array (element : Shape) (acceptance : Acceptance)
  /-- An object as a list of keys and a list of values. -/
  | keyValue (key value : Shape) (acceptance : Acceptance)
  /-- A list with a shape for every position. -/
  | tuple (slots : List Shape) (acceptance : Acceptance)
  /-- An object whose fields depend on its type. -/
  | typed (rules : VariantRules) (shared : List (String × Shape))
      (variants : List (String × ObjectShape))
  /-- Any value, kept as it is. -/
  | any
  /-- A value that is checked and dropped. -/
  | skip (acceptance : Acceptance)

/-- The shape of an object with known fields. -/
inductive ObjectShape where
  | record (fields : List (String × Shape)) (rules : ObjectRules)

end

namespace ObjectShape

/-- The fields of an object, in order. -/
def fields : ObjectShape → List (String × Shape)
  | record fields _ => fields

/-- The rules of an object. -/
def rules : ObjectShape → ObjectRules
  | record _ rules => rules

/-- How a field is found. -/
def matchingIn (matching : List (String × FieldMatching)) (name : String) : FieldMatching :=
  (matching.lookup name).getD .exact

/-- Whether a key is read by one of the fields. -/
def knows (object : ObjectShape) (key : String) : Bool :=
  object.fields.any fun field =>
    (matchingIn object.rules.matching field.1).accepts field.1 key

end ObjectShape

/-- A column that a shape fills: the way to its value, and its type. -/
structure ShapeColumn where
  path : List String
  type : DataType
deriving DecidableEq, Repr

namespace ShapeColumn

/-- The column of a part under a name. -/
def under (name : String) (column : ShapeColumn) : ShapeColumn :=
  ⟨name :: column.path, column.type⟩

/-- The column of many values. -/
def many (column : ShapeColumn) : ShapeColumn :=
  ⟨column.path, .array column.type⟩

end ShapeColumn

namespace Shape

/-- The name of the keys of an object that is read as a map. -/
def keyPath : String := "Key"

/-- The name of the values of an object that is read as a map. -/
def valuePath : String := "Value"

/-- The name of a shape's kind. -/
def name : Shape → String
  | leaf scalar => scalar.kind.name
  | object _ => "object"
  | array .. => "array"
  | keyValue .. => "object_kv"
  | tuple .. => "tuple"
  | typed .. => "typed_object"
  | any => "any"
  | skip _ => "skip"

/-- What is accepted in place of a value; a shape for any value accepts all. -/
def acceptance? : Shape → Option Acceptance
  | leaf scalar => some scalar.acceptance
  | object record => some record.rules.acceptance
  | array _ acceptance => some acceptance
  | keyValue _ _ acceptance => some acceptance
  | tuple _ acceptance => some acceptance
  | typed rules _ _ => some rules.acceptance
  | any => none
  | skip acceptance => some acceptance

/-- Whether the value may be absent. -/
def allowMissing (shape : Shape) : Bool :=
  shape.acceptance?.elim true (·.allowMissing)

/-- The kinds of tokens that are accepted, if they are limited. -/
def desired? (shape : Shape) : Option KindSet :=
  shape.acceptance?.map (·.desired)

/-- Whether a kind of tokens is accepted. -/
def accepts (shape : Shape) (kind : Kind) : Bool :=
  shape.desired?.elim true (·.contains kind)

/-- Whether null is accepted. -/
def allowNull (shape : Shape) : Bool :=
  shape.accepts .null

/-- The kinds of tokens that a shape can read. -/
def parseable : Shape → KindSet
  | leaf scalar => scalar.kind.parseable
  | object _ | keyValue .. | typed .. => .ofList [.object, .null]
  | array .. | tuple .. => .ofList [.array, .null]
  | any | skip _ => .all

mutual

/-- The columns of a shape, in order. -/
def columns : Shape → List ShapeColumn
  | leaf scalar => [⟨[], scalar.kind.type⟩]
  | object record => objectColumns record
  | array element _ => element.columns.map .many
  | keyValue key value _ =>
      key.columns.map (fun column => (column.under keyPath).many)
        ++ value.columns.map (fun column => (column.under valuePath).many)
  | tuple slots _ =>
      match slots with
      | [slot] => slot.columns
      | slots => slotColumns 0 slots
  | typed rules shared variants =>
      ⟨[rules.typeField], .string⟩ :: (fieldColumns shared ++ variantColumns variants)
  | any => [⟨[], .object⟩]
  | skip _ => []
termination_by structural shape => shape

/-- The columns of an object's fields, each under the name of its field. -/
def objectColumns : ObjectShape → List ShapeColumn
  | .record fields _ => fieldColumns fields
termination_by structural record => record

/-- The columns of fields, each under the name of its field. -/
def fieldColumns : List (String × Shape) → List ShapeColumn
  | [] => []
  | (name, shape) :: rest => shape.columns.map (.under name) ++ fieldColumns rest
termination_by structural fields => fields

/-- The columns of the positions of a tuple, each under its number. -/
def slotColumns (position : Nat) : List Shape → List ShapeColumn
  | [] => []
  | slot :: rest =>
      slot.columns.map (.under (toString position)) ++ slotColumns (position + 1) rest
termination_by structural slots => slots

/-- The columns of the fields of every type, under the name of the type. -/
def variantColumns : List (String × ObjectShape) → List ShapeColumn
  | [] => []
  | (tag, record) :: rest =>
      (objectColumns record).map (.under tag) ++ variantColumns rest
termination_by structural variants => variants

end

/-- The number of columns of a shape. -/
def width (shape : Shape) : Nat :=
  shape.columns.length

/-- The number of columns of an object's fields. -/
def objectWidth (record : ObjectShape) : Nat :=
  (objectColumns record).length

/-! ### Sameness -/

mutual

/-- Whether two shapes read every value alike: fields, types and rules may come in
another order, slots may not. -/
def same : Shape → Shape → Bool
  | leaf first, leaf second => first.same second
  | object first, object second => sameObject first second
  | array first firstAcceptance, array second secondAcceptance =>
      same first second && firstAcceptance == secondAcceptance
  | keyValue firstKey firstValue firstAcceptance,
      keyValue secondKey secondValue secondAcceptance =>
      same firstKey secondKey && same firstValue secondValue
        && firstAcceptance == secondAcceptance
  | tuple first firstAcceptance, tuple second secondAcceptance =>
      sameSlots first second && firstAcceptance == secondAcceptance
  | typed firstRules firstShared first, typed secondRules secondShared second =>
      firstRules == secondRules
        && firstShared.length == secondShared.length && sameFields firstShared secondShared
        && first.length == second.length && sameVariants first second
  | any, any => true
  | skip first, skip second => first == second
  | _, _ => false
termination_by structural first => first

/-- Whether two objects have the same fields and rules. -/
def sameObject : ObjectShape → ObjectShape → Bool
  | .record first firstRules, second =>
      first.length == second.fields.length && sameFields first second.fields
        && firstRules.allowUnknown == second.rules.allowUnknown
        && firstRules.acceptance == second.rules.acceptance
        && firstRules.repeats == second.rules.repeats
        && firstRules.matching.length == second.rules.matching.length
        && firstRules.matching.all fun entry =>
          second.rules.matching.lookup entry.1 == some entry.2
termination_by structural first => first

/-- Whether every field has the same shape among other fields. -/
def sameFields : List (String × Shape) → List (String × Shape) → Bool
  | [], _ => true
  | (name, shape) :: rest, others =>
      (match others.lookup name with
        | some other => same shape other
        | none => false) && sameFields rest others
termination_by structural first => first

/-- Whether slots have the same shapes one by one. -/
def sameSlots : List Shape → List Shape → Bool
  | [], [] => true
  | first :: rest, second :: others => same first second && sameSlots rest others
  | _, _ => false
termination_by structural first => first

/-- Whether every type has the same object among other types. -/
def sameVariants : List (String × ObjectShape) → List (String × ObjectShape) → Bool
  | [], _ => true
  | (tag, record) :: rest, others =>
      (match others.lookup tag with
        | some other => sameObject record other
        | none => false) && sameVariants rest others
termination_by structural first => first

end

end Shape

end JsonTables
