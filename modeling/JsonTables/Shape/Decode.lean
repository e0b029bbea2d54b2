import JsonTables.Content
import JsonTables.Shape.Check
import JsonTables.Shape.Stored

/-!
# Reading stored shapes

A stored shape is an object with the name of its kind and its parts, or a list of
the name and the parts in order.  The parts are buffered until the kind is known,
so a mismatch among them has no place; they are read in the order in which they
come, and only then is a part missed that has not come.  Every shape is checked
when its parts have been read.
-/

namespace JsonTables

open JsonText (Mismatch Reader Halt Bytes Scanned)
open Time (EpochUnit)

/-- The kinds of stored shapes. -/
inductive StoredKind
  | leaf (kind : LeafKind)
  /-- An instant that is a number of some unit. -/
  | epoch
  | object
  | array
  | keyValue
  | tuple
  | typed
  | any
  | skip

namespace StoredKind

/-- The names of the kinds, in order. -/
def known : List (String × StoredKind) :=
  [ ("bool", leaf .boolean), ("char", leaf .char), ("byte", leaf .byte),
    ("short", leaf .short), ("int", leaf .int), ("long", leaf .long),
    ("float", leaf .float), ("double", leaf .double), ("string", leaf .string),
    ("instant", leaf .instant), ("instantNumber", epoch), ("bigInteger", leaf .bigInteger),
    ("bigDecimal", leaf .bigDecimal), ("object", object), ("array", array),
    ("objectKv", keyValue), ("tuple", tuple), ("typedObject", typed), ("any", any),
    ("skip", skip) ]

/-- The kind of the leaves of a stored kind; that of other shapes does not matter. -/
def leafKind : StoredKind → LeafKind
  | leaf kind => kind
  | epoch => .instant
  | _ => .boolean

/-- The name of the record that holds the parts of a kind. -/
def recordName : StoredKind → String
  | leaf _ => "struct ScalarOptions"
  | epoch => "struct InstantNumberOptions"
  | object => "struct ObjectOptions"
  | array => "struct ArrayOptions"
  | keyValue => "struct ObjectKvOptions"
  | tuple => "struct TupleOptions"
  | typed => "struct TypedObjectOptions"
  | any => "unit"
  | skip => "struct SkipOptions"

end StoredKind

/-- The parts of stored shapes, but for their kind. -/
inductive StoredPart
  | format
  | fields
  | allowUnknown
  | repeats
  | matching
  | element
  | value
  | slots
  | typeField
  | variants
  | allowMissing
  | desired
  | onNull
  | onMissing
deriving DecidableEq

namespace StoredPart

/-- Whether a part may be left out. -/
def isOptional : StoredPart → Bool
  | repeats | matching | onNull | onMissing => true
  | _ => false

/-- The parts that say what is accepted. -/
def acceptance : List (String × StoredPart) :=
  [("allowMissing", allowMissing), ("desiredTypes", desired)]

/-- The parts that hold the defaults of a leaf. -/
def defaults : List (String × StoredPart) :=
  [("onNull", onNull), ("onMissing", onMissing)]

/-- The parts of a kind, in order. -/
def ofKind : StoredKind → List (String × StoredPart)
  | .leaf _ => acceptance ++ defaults
  | .epoch => ("format", format) :: acceptance ++ defaults
  | .object =>
      [("fields", fields), ("allowUnknownFields", allowUnknown)] ++ acceptance
        ++ [("repeatedFieldBehavior", repeats), ("fieldMatching", matching)]
  | .array => ("element", element) :: acceptance
  | .keyValue => ("key", element) :: ("value", value) :: acceptance
  | .tuple => ("values", slots) :: acceptance
  | .typed =>
      [("typeField", typeField), ("sharedFields", fields), ("objects", variants),
        ("allowUnknownTypes", allowUnknown)] ++ acceptance
        ++ [("repeatedFieldBehavior", repeats)]
  | .any => []
  | .skip => acceptance

end StoredPart

/-- The parts of a shape that have been read. -/
structure Draft (α : Type) where
  format : Option EpochUnit := none
  fields : Option (List (String × Shape)) := none
  allowUnknown : Option Bool := none
  repeats : Option RepeatPolicy := none
  matching : Option (List (String × FieldMatching)) := none
  element : Option Shape := none
  value : Option Shape := none
  slots : Option (List Shape) := none
  typeField : Option String := none
  variants : Option (List (String × ObjectShape)) := none
  allowMissing : Option Bool := none
  desired : Option KindSet := none
  onNull : Option (Option α) := none
  onMissing : Option (Option α) := none

/-- Readers of the parts of a shape that hold shapes. -/
structure PartReaders where
  shape : Unit → Except Mismatch Shape
  fields : Unit → Except Mismatch (List (String × Shape))
  slots : Unit → Except Mismatch (List Shape)
  variants : Unit → Except Mismatch (List (String × ObjectShape))

namespace Content

/-- The policies and their stored names. -/
def policies : List (String × RepeatPolicy) :=
  [RepeatPolicy.error, .useFirst].map fun policy => (policy.storedName, policy)

/-- The units and their stored names. -/
def units : List (String × EpochUnit) :=
  EpochUnit.all.map fun unit => (unit.storedName, unit)

/-- The kinds of tokens and their names. -/
def kinds : List (String × Kind) :=
  Kind.all.map fun kind => (kind.name, kind)

/-- A content that must be a list of names of kinds. -/
def toKindSet (content : Content) : Except Mismatch KindSet := do
  return .ofList (← (← content.toItems "a sequence").mapM (toVariant kinds))

/-- A content that must store a value of a kind of leaves. -/
def toValue (content : Content) : (kind : LeafKind) → Except Mismatch kind.Value
  | .boolean => content.toBool
  | .char => content.textAs "a character" JsonText.singleChar
  | .byte => content.toInteger (.signed 8) "i8"
  | .short => content.toInteger (.signed 16) "i16"
  | .int => content.toInteger (.signed 32) "i32"
  | .long => content.toInteger (.signed 64) "i64"
  | .float => content.toBinary "f32"
  | .double => content.toBinary "f64"
  | .string => content.toText
  | .instant | .epoch _ => content.textAs Cell.instantWanted Cell.instantOf
  | .bigInteger => content.toBigInteger
  | .bigDecimal => content.toDecimal

/-! ### The ways in which fields are found -/

/-- The parts of a way to find a field that have been read. -/
structure MatchingDraft where
  aliases : Option (List String) := none
  ignoresCase : Option Bool := none
  repeats : Option (Option RepeatPolicy) := none

namespace MatchingDraft

/-- The way to find a field that has the parts. -/
def finish (draft : MatchingDraft) : FieldMatching :=
  ⟨draft.aliases.getD [], draft.ignoresCase.getD false, draft.repeats.getD none⟩

/-- The names of the parts, in order. -/
def parts : List String := ["aliases", "caseInsensitiveMatch", "repeatedBehavior"]

/-- Whether a part has been read. -/
def has (draft : MatchingDraft) (part : String) : Bool :=
  if part = "aliases" then draft.aliases.isSome
  else if part = "caseInsensitiveMatch" then draft.ignoresCase.isSome
  else draft.repeats.isSome

/-- Takes in a part; parts of other names are skipped. -/
def set (draft : MatchingDraft) (part : String) (content : Content) :
    Except Mismatch MatchingDraft := do
  if part = "aliases" then
    return { draft with aliases := some (← (← content.toItems "a sequence").mapM toText) }
  else if part = "caseInsensitiveMatch" then
    return { draft with ignoresCase := some (← content.toBool) }
  else
    return { draft with repeats := some (← content.optional (toVariant policies)) }

/-- Reads parts by their names. -/
def fromEntries (draft : MatchingDraft) :
    List (String × Content) → Except Mismatch MatchingDraft
  | [] => .ok draft
  | (part, content) :: rest => do
      if parts.contains part then
        if draft.has part then throw (.duplicateField part)
        fromEntries (← draft.set part content) rest
      else fromEntries draft rest

/-- Reads parts in order. -/
def fromItems (draft : MatchingDraft) :
    List String → List Content → Except Mismatch MatchingDraft
  | part :: others, content :: rest => do fromItems (← draft.set part content) others rest
  | _, _ => .ok draft

end MatchingDraft

/-- A content that must be a way to find a field. -/
def toMatching : Content → Except Mismatch FieldMatching
  | map entries => do return (← MatchingDraft.fromEntries {} entries).finish
  | list items => do
      let draft ← MatchingDraft.fromItems {} MatchingDraft.parts items
      if MatchingDraft.parts.length < items.length then
        tooLong items.length MatchingDraft.parts.length
      return draft.finish
  | other => other.mismatch "struct FieldMatching"

/-- A content that must be the ways to find fields; of two for one field the last
counts. -/
def toMatchings (content : Content) : Except Mismatch (List (String × FieldMatching)) := do
  let entries ← (← content.toEntries).mapM fun entry => do
    return (entry.1, ← entry.2.toMatching)
  return Json.lastOccurrences entries

/-! ### Drafts -/

end Content

namespace Draft

variable {α : Type}

/-- Whether a part has been read. -/
def has (draft : Draft α) : StoredPart → Bool
  | .format => draft.format.isSome
  | .fields => draft.fields.isSome
  | .allowUnknown => draft.allowUnknown.isSome
  | .repeats => draft.repeats.isSome
  | .matching => draft.matching.isSome
  | .element => draft.element.isSome
  | .value => draft.value.isSome
  | .slots => draft.slots.isSome
  | .typeField => draft.typeField.isSome
  | .variants => draft.variants.isSome
  | .allowMissing => draft.allowMissing.isSome
  | .desired => draft.desired.isSome
  | .onNull => draft.onNull.isSome
  | .onMissing => draft.onMissing.isSome

/-- Takes in a part. -/
def set (draft : Draft α) (valueOf : Content → Except Mismatch α) (readers : PartReaders)
    (content : Content) : StoredPart → Except Mismatch (Draft α)
  | .format => do return { draft with format := some (← content.toVariant Content.units) }
  | .fields => do return { draft with fields := some (← readers.fields ()) }
  | .allowUnknown => do return { draft with allowUnknown := some (← content.toBool) }
  | .repeats => do return { draft with repeats := some (← content.toVariant Content.policies) }
  | .matching => do return { draft with matching := some (← content.toMatchings) }
  | .element => do return { draft with element := some (← readers.shape ()) }
  | .value => do return { draft with value := some (← readers.shape ()) }
  | .slots => do return { draft with slots := some (← readers.slots ()) }
  | .typeField => do return { draft with typeField := some (← content.toText) }
  | .variants => do return { draft with variants := some (← readers.variants ()) }
  | .allowMissing => do return { draft with allowMissing := some (← content.toBool) }
  | .desired => do return { draft with desired := some (← content.toKindSet) }
  | .onNull => do return { draft with onNull := some (← content.optional valueOf) }
  | .onMissing => do return { draft with onMissing := some (← content.optional valueOf) }

/-- A part that must have been read. -/
def need {β : Type} (name : String) : Option β → Except Mismatch β
  | some part => .ok part
  | none => .error (.missingField name)

/-- What is accepted, of which both parts are needed. -/
def acceptance (draft : Draft α) : Except Mismatch Acceptance := do
  let allowMissing ← need "allowMissing" draft.allowMissing
  return ⟨allowMissing, ← need "desiredTypes" draft.desired⟩

/-- The object that has the parts. -/
def toObject (draft : Draft α) : Except Mismatch ObjectShape := do
  let fields ← need "fields" draft.fields
  let allowUnknown ← need "allowUnknownFields" draft.allowUnknown
  let acceptance ← draft.acceptance
  return .record fields
    ⟨allowUnknown, acceptance, draft.repeats.getD .useFirst, draft.matching.getD []⟩

/-- The shape that has the parts. -/
def toShape (kind : StoredKind) (draft : Draft kind.leafKind.Value) : Except Mismatch Shape :=
  match kind, draft with
  | .leaf kind, draft => do
      let acceptance ← draft.acceptance
      return .leaf ⟨kind, acceptance, draft.onNull.getD none, draft.onMissing.getD none⟩
  | .epoch, draft => do
      let unit ← need "format" draft.format
      let acceptance ← draft.acceptance
      return .leaf ⟨.epoch unit, acceptance, draft.onNull.getD none, draft.onMissing.getD none⟩
  | .object, draft => do return .object (← draft.toObject)
  | .array, draft => do
      let element ← need "element" draft.element
      return .array element (← draft.acceptance)
  | .keyValue, draft => do
      let key ← need "key" draft.element
      let value ← need "value" draft.value
      return .keyValue key value (← draft.acceptance)
  | .tuple, draft => do
      let slots ← need "values" draft.slots
      return .tuple slots (← draft.acceptance)
  | .typed, draft => do
      let typeField ← need "typeField" draft.typeField
      let shared ← need "sharedFields" draft.fields
      let variants ← need "objects" draft.variants
      let allowUnknown ← need "allowUnknownTypes" draft.allowUnknown
      let acceptance ← draft.acceptance
      return .typed ⟨typeField, allowUnknown, acceptance, draft.repeats.getD .useFirst⟩
        shared variants
  | .any, _ => .ok .any
  | .skip, draft => do return .skip (← draft.acceptance)

end Draft

namespace Content

/-- The kind that a content names, or gives by its position among the kinds. -/
def toKind : Content → Except Mismatch StoredKind
  | text name => JsonText.variantName StoredKind.known name
  | integer value =>
      if value < 0 then (integer value).mismatch "variant identifier"
      else
        match StoredKind.known[value.toNat]? with
        | some (_, kind) => .ok kind
        | none =>
            .error (.invalidValue (.integer value)
              s!"variant index 0 <= i < {StoredKind.known.length}")
  | other => other.mismatch "variant identifier"

/-- The key of a stored shape's kind. -/
def kindKey : String := "type"

/-- The kind that the entries of an object name. -/
def kindAmong (known : Option StoredKind) :
    List (String × Content) → Except Mismatch StoredKind
  | [] =>
      match known with
      | some kind => .ok kind
      | none => .error (.missingField kindKey)
  | (key, content) :: rest =>
      if key = kindKey then
        match known with
        | some _ => .error (.duplicateField kindKey)
        | none => do kindAmong (some (← content.toKind)) rest
      else kindAmong known rest

/-- A shape that has been checked. -/
def checked (shape : Shape) : Except Mismatch Shape :=
  match shape.checked with
  | .ok shape => .ok shape
  | .error error => .error (.refused error.message)

/-- What is wanted of a list that has the parts of a kind. -/
def wantedList (kind : StoredKind) : String :=
  let count := (StoredPart.ofKind kind).length
  s!"{kind.recordName} with {count} element" ++ (if count = 1 then "" else "s")

mutual

/-- The shape that a content stores, checked. -/
def toShape : Content → Except Mismatch Shape
  | map entries => do
      let kind ← kindAmong none entries
      let draft ← draftOfEntries kind {} entries
      checked (← draft.toShape)
  | list [] => .error (.missingField kindKey)
  | list (tag :: items) => do
      let kind ← tag.toKind
      let draft ← draftOfItems kind (StoredPart.ofKind kind) 0 {} items
      checked (← draft.toShape)
  | other => other.mismatch "internally tagged enum ValueOptions"
termination_by structural content => content

/-- Reads the parts of a shape by their names. -/
def draftOfEntries (kind : StoredKind) (draft : Draft kind.leafKind.Value) :
    List (String × Content) → Except Mismatch (Draft kind.leafKind.Value)
  | [] => .ok draft
  | (name, content) :: rest => do
      match (StoredPart.ofKind kind).lookup name with
      | none => draftOfEntries kind draft rest
      | some part =>
          if draft.has part then throw (.duplicateField name)
          let readers : PartReaders :=
            { shape := fun _ => toShape content, fields := fun _ => toFields content,
              slots := fun _ => toSlots content, variants := fun _ => toVariants content }
          let draft ← draft.set (fun content => toValue content kind.leafKind) readers content part
          draftOfEntries kind draft rest
termination_by structural entries => entries

/-- Reads the parts of a shape in order. -/
def draftOfItems (kind : StoredKind) (parts : List (String × StoredPart)) (position : Nat)
    (draft : Draft kind.leafKind.Value) :
    List Content → Except Mismatch (Draft kind.leafKind.Value)
  | [] =>
      match parts with
      | [] => .ok draft
      | (_, part) :: _ =>
          if part.isOptional then .ok draft
          else .error (.invalidLength position (wantedList kind))
  | content :: rest => do
      match parts with
      | [] => tooLong (position + rest.length + 1) position
      | (_, part) :: parts =>
          let readers : PartReaders :=
            { shape := fun _ => toShape content, fields := fun _ => toFields content,
              slots := fun _ => toSlots content, variants := fun _ => toVariants content }
          let draft ← draft.set (fun content => toValue content kind.leafKind) readers content part
          draftOfItems kind parts (position + 1) draft rest
termination_by structural items => items

/-- A content that must be shapes by name. -/
def toFields : Content → Except Mismatch (List (String × Shape))
  | map entries => do return Json.lastOccurrences (← fieldsOfEntries entries)
  | other => other.mismatch "a map"
termination_by structural content => content

/-- The fields that entries store, in order and with repeated names. -/
def fieldsOfEntries : List (String × Content) → Except Mismatch (List (String × Shape))
  | [] => .ok []
  | (name, content) :: rest => do
      let shape ← toShape content
      return (name, shape) :: (← fieldsOfEntries rest)
termination_by structural entries => entries

/-- The slots that a content stores. -/
def toSlots : Content → Except Mismatch (List Shape)
  | list items => slotsOfItems items
  | other => other.mismatch "a sequence"
termination_by structural content => content

/-- The slots that items store. -/
def slotsOfItems : List Content → Except Mismatch (List Shape)
  | [] => .ok []
  | content :: rest => do
      let shape ← toShape content
      return shape :: (← slotsOfItems rest)
termination_by structural items => items

/-- A content that must be objects by the names of their types. -/
def toVariants : Content → Except Mismatch (List (String × ObjectShape))
  | map entries => do return Json.lastOccurrences (← variantsOfEntries entries)
  | other => other.mismatch "a map"
termination_by structural content => content

/-- The types that entries store, in order and with repeated names. -/
def variantsOfEntries : List (String × Content) → Except Mismatch (List (String × ObjectShape))
  | [] => .ok []
  | (tag, content) :: rest => do
      let record ← toRecord content
      return (tag, record) :: (← variantsOfEntries rest)
termination_by structural entries => entries

/-- A content that must be an object, whose kind is not named. -/
def toRecord : Content → Except Mismatch ObjectShape
  | map entries => do (← draftOfEntries .object {} entries).toObject
  | list items => do
      (← draftOfItems .object (StoredPart.ofKind .object) 0 {} items).toObject
  | other => other.mismatch "struct ObjectOptions"
termination_by structural content => content

end

end Content

namespace Shape

/-! ### From text and from values -/

/-- The kind of a stored shape and the contents of its parts. -/
structure Gathered where
  kind : StoredKind
  parts : Content

/-- The shape of a kind and its parts. -/
def Gathered.toShape (gathered : Gathered) : Except Mismatch Shape := do
  match gathered.parts with
  | .list items =>
      let parts := StoredPart.ofKind gathered.kind
      let draft ← Content.draftOfItems gathered.kind parts 0 {} items
      Content.checked (← draft.toShape)
  | .map entries =>
      let draft ← Content.draftOfEntries gathered.kind {} entries
      Content.checked (← draft.toShape)
  | other => other.mismatch gathered.kind.recordName

/-- What a shape is stored as. -/
def wanted : String := "internally tagged enum ValueOptions"

/-- Reads the name of a stored shape's kind. -/
def kindReader : Reader StoredKind :=
  JsonText.stringAs "variant identifier" (JsonText.variantName StoredKind.known)

/-- Reads a value as a content. -/
def contentReader (depth : Nat) : Reader Content := fun rest => do
  let (value, rest) ← JsonText.value .kept depth rest
  match Content.ofToken value with
  | .ok content => return (content, rest)
  | .error cause => .error (.unplaced cause rest)

/-- Reads an entry of a stored shape: its kind, or a part that is buffered. -/
def gatherEntry (depth : Nat) (known : Option StoredKind × List (String × Content))
    (key : String) : Reader (Option StoredKind × List (String × Content)) := fun rest => do
  if key = Content.kindKey then
    let (kind, rest) ← JsonText.fieldValue key known.1 kindReader rest
    return ((kind, known.2), rest)
  else
    let (content, rest) ← contentReader depth (← JsonText.colon rest)
    return ((known.1, known.2 ++ [(key, content)]), rest)

/-- Reads a stored shape without looking at its parts. -/
def gather (depth : Nat) : Reader Gathered :=
  JsonText.listOrObject wanted depth
    (fun depth rest => do
      match ← JsonText.itemAt? true kindReader rest with
      | (none, rest) => .error (.unplaced (.missingField Content.kindKey) rest)
      | (some kind, rest) =>
          let (items, rest) ←
            JsonText.itemsFrom (contentReader depth) false (rest.length + 1) rest
          return (⟨kind, .list items⟩, rest))
    (fun depth rest => do
      let ((kind, entries), rest) ← JsonText.fields (gatherEntry depth) (none, []) rest
      return (⟨← JsonText.required Content.kindKey kind rest, .map entries⟩, rest))

/-- Reads a stored shape: its kind and its parts first, and of these the shape. -/
def storedReader : Reader Shape := fun rest => do
  let (gathered, rest) ← gather JsonText.maxDepth rest
  match gathered.toShape with
  | .ok shape => return (shape, rest)
  | .error cause => .error (.unplaced cause rest)

/-- The shape that a text stores. -/
def ofStoredText (text : String) : Except JsonText.TextError Shape :=
  JsonText.readAll storedReader (JsonText.bytesOf text)

/-- The kind that a value names. -/
def kindOfValue : Json → Except Mismatch StoredKind
  | .string name => JsonText.variantName StoredKind.known name
  | .number _ => .error (.invalidType (.other "number") "variant identifier")
  | other => do (← Content.ofValue other).mismatch "variant identifier"

/-- The kind among the entries of a value, and the contents of the others. -/
def gatherValue (known : Option StoredKind) (parts : List (String × Content)) :
    List (String × Json) → Except Mismatch Gathered
  | [] =>
      match known with
      | some kind => .ok ⟨kind, .map parts⟩
      | none => .error (.missingField Content.kindKey)
  | (key, value) :: rest => do
      if key = Content.kindKey then gatherValue (some (← kindOfValue value)) parts rest
      else gatherValue known (parts ++ [(key, ← Content.ofValue value)]) rest

/-- Reads a stored shape from a value without repeated keys. -/
def ofStoredValue : Json → Except Mismatch Shape
  | .object entries => do (← gatherValue none [] entries).toShape
  | .array [] => .error (.missingField Content.kindKey)
  | .array (tag :: items) => do
      let kind ← kindOfValue tag
      Gathered.toShape ⟨kind, .list (← items.mapM Content.ofValue)⟩
  | .number text => do
      match ← Content.ofNumberValue wanted text with
      | .map _ => throw (.missingField Content.kindKey)
      | other => other.mismatch wanted
  | other => do (← Content.ofValue other).mismatch wanted

end Shape

end JsonTables
