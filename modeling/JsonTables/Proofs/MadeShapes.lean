import JsonTables.Proofs.StoredShapes
import JsonTables.Sketch

/-!
# Shapes that can be made

A shape is built of parts, resolved from a sketch, usual for a data type, or read from
where it was stored.  Most ways end in a check of the one node that has been added.  Two
do not: what is usual is right as it stands, and so is what accepts anything.  Whatever way
a shape was made, it is valid.
-/

namespace JsonTables

/-! ### Building -/

namespace Shape

theorem isValid_of_buildLeaf {kind : LeafKind} {allow : Allowances}
    {onNull onMissing : Option kind.Value} {made : Shape}
    (isMade : buildLeaf kind allow onNull onMissing = .ok made) : made.IsValid := by
  apply isValid_of_checked isMade
  simp [plainLeaf, parts]

theorem isValid_of_buildInstant {unit : Option Time.EpochUnit} {allow : Allowances}
    {onNull onMissing : Option Time.Instant} {made : Shape}
    (isMade : buildInstant unit allow onNull onMissing = .ok made) : made.IsValid := by
  unfold buildInstant at isMade
  split at isMade
  · exact isValid_of_buildLeaf isMade
  · split at isMade
    · cases isMade
    · exact isValid_of_buildLeaf isMade

theorem isValid_of_buildObject {fields : List (String × Shape)} {rules : ObjectRules}
    {made : Shape} (isMade : buildObject fields rules = .ok made)
    (valid : ∀ field ∈ fields, field.2.IsValid) : made.IsValid := by
  apply isValid_of_checked isMade
  simp only [parts, ObjectShape.fields, List.forall_mem_map]
  intro field fieldMem
  exact valid field (Json.mem_of_mem_lastOccurrences fieldMem)

theorem isValid_of_buildArray {element : Shape} {allow : Allowances} {made : Shape}
    (isMade : buildArray element allow = .ok made) (valid : element.IsValid) : made.IsValid := by
  apply isValid_of_checked isMade
  simpa [plainArray, parts] using valid

theorem isValid_of_buildKeyValue {key value : Option Shape} {allow : Allowances} {made : Shape}
    (isMade : buildKeyValue key value allow = .ok made) (keyValid : ∀ shape ∈ key, shape.IsValid)
    (valueValid : ∀ shape ∈ value, shape.IsValid) : made.IsValid := by
  apply isValid_of_checked isMade
  have usualKey : (plainLeaf .string {} none none).IsValid :=
    isValid_iff.mpr ⟨rfl, by simp [plainLeaf, parts]⟩
  simp only [parts, List.forall_mem_cons, List.not_mem_nil, false_implies, implies_true, and_true]
  constructor
  · cases key with
    | none => exact usualKey
    | some shape => exact keyValid shape rfl
  · cases value with
    | none => exact isValid_any
    | some shape => exact valueValid shape rfl

theorem isValid_of_buildTuple {slots : List Shape} {allow : Allowances} {made : Shape}
    (isMade : buildTuple slots allow = .ok made) (valid : ∀ slot ∈ slots, slot.IsValid) :
    made.IsValid :=
  isValid_of_checked isMade valid

theorem isValid_of_buildTyped {rules : VariantRules} {shared : List (String × Shape)}
    {variants : List (String × ObjectShape)} {made : Shape}
    (isMade : buildTyped rules shared variants = .ok made)
    (sharedValid : ∀ field ∈ shared, field.2.IsValid)
    (variantsValid : ∀ variant ∈ variants, (object variant.2).IsValid) : made.IsValid := by
  apply isValid_of_checked isMade
  simp only [parts, List.forall_mem_append, List.forall_mem_map]
  constructor
  · intro field fieldMem
    exact sharedValid field (Json.mem_of_mem_lastOccurrences fieldMem)
  · intro variant variantMem
    exact variantsValid variant (Json.mem_of_mem_lastOccurrences variantMem)

theorem isValid_of_buildSkip {allowMissing : Bool} {desired : KindSet} {made : Shape}
    (isMade : buildSkip allowMissing desired = .ok made) : made.IsValid := by
  apply isValid_of_checked isMade
  simp [parts]

end Shape

/-! ### Usual shapes -/

namespace DataType

theorem isValid_usualLeaf (kind : LeafKind) : (usualLeaf kind).IsValid := by
  refine Shape.isValid_iff.mpr ⟨?_, by simp [usualLeaf, Shape.plainLeaf, Shape.parts]⟩
  cases kind <;> rfl

/-- The usual shape of a data type is valid, though it is never checked. -/
theorem isValid_of_usualShape {type : DataType} {made : Shape}
    (isUsual : type.usualShape = .ok made) : made.IsValid := by
  have found : type.usualShape? = some made := by
    unfold usualShape at isUsual
    split at isUsual
    · simp_all
    · cases isUsual
  cases type with
  | object =>
      cases found
      exact Shape.isValid_any
  | array component =>
      simp only [usualShape?, Option.ite_none_right_eq_some, Option.map_eq_some_iff] at found
      rcases found with ⟨_, kind, _, rfl⟩
      refine Shape.isValid_iff.mpr ⟨rfl, ?_⟩
      simpa [Shape.plainArray, Shape.parts] using isValid_usualLeaf kind
  | _ =>
      cases found
      exact isValid_usualLeaf _

end DataType

/-! ### Sketches -/

namespace Sketch

mutual

/-- The shapes in a sketch that are already made. -/
def shapes : Sketch → List Shape
  | shape made => [made]
  | type _ | native _ => []
  | fields parts => shapesOfFields parts
  | list items | tuple items => shapesOfAll items
termination_by structural sketch => sketch

/-- The shapes that fields are sketched by. -/
def shapesOfFields : List (String × Sketch) → List Shape
  | [] => []
  | (_, sketch) :: rest => shapes sketch ++ shapesOfFields rest
termination_by structural fields => fields

/-- The shapes that sketches hold. -/
def shapesOfAll : List Sketch → List Shape
  | [] => []
  | sketch :: rest => shapes sketch ++ shapesOfAll rest
termination_by structural sketches => sketches

end

mutual

/-- A sketch resolves to a valid shape if the shapes in it are valid. -/
theorem isValid_of_resolve : (sketch : Sketch) → (∀ shape ∈ sketch.shapes, shape.IsValid) →
    ∀ made, sketch.resolve = .ok made → made.IsValid
  | shape found, valid, made, isMade => by
      cases isMade
      exact valid found (List.mem_singleton.mpr rfl)
  | type named, _, made, isMade => DataType.isValid_of_usualShape isMade
  | native plain, _, made, isMade => DataType.isValid_of_usualShape isMade
  | fields parts, valid, made, isMade => by
      simp only [resolve, Except.bind_eq_ok_iff] at isMade
      rcases isMade with ⟨resolved, areResolved, isMade⟩
      exact Shape.isValid_of_buildObject isMade
        (isValid_of_resolveFields parts valid resolved areResolved)
  | list [], _, made, isMade => by cases isMade
  | list [item], valid, made, isMade => by
      simp only [resolve, Except.bind_eq_ok_iff] at isMade
      rcases isMade with ⟨element, isElement, isMade⟩
      refine Shape.isValid_of_buildArray isMade (isValid_of_resolve item ?_ element isElement)
      intro shape shapeMem
      exact valid shape (List.mem_append_left _ shapeMem)
  | list (_ :: _ :: _), _, made, isMade => by cases isMade
  | tuple slots, valid, made, isMade => by
      simp only [resolve, Except.bind_eq_ok_iff] at isMade
      rcases isMade with ⟨resolved, areResolved, isMade⟩
      exact Shape.isValid_of_buildTuple isMade
        (isValid_of_resolveAll slots valid resolved areResolved)
termination_by structural sketch => sketch

theorem isValid_of_resolveFields : (parts : List (String × Sketch)) →
    (∀ shape ∈ shapesOfFields parts, shape.IsValid) →
    ∀ resolved, resolveFields parts = .ok resolved → ∀ field ∈ resolved, field.2.IsValid
  | [], _, resolved, areResolved => by
      cases areResolved
      simp
  | (name, sketch) :: rest, valid, resolved, areResolved => by
      simp only [resolveFields, Except.bind_eq_ok_iff, Except.pure_eq_ok_iff] at areResolved
      rcases areResolved with ⟨shape, isShape, others, areOthers, rfl⟩
      simp only [shapesOfFields, List.forall_mem_append] at valid
      rw [List.forall_mem_cons]
      exact ⟨isValid_of_resolve sketch valid.1 shape isShape,
        isValid_of_resolveFields rest valid.2 others areOthers⟩
termination_by structural parts => parts

theorem isValid_of_resolveAll : (sketches : List Sketch) →
    (∀ shape ∈ shapesOfAll sketches, shape.IsValid) →
    ∀ resolved, resolveAll sketches = .ok resolved → ∀ shape ∈ resolved, shape.IsValid
  | [], _, resolved, areResolved => by
      cases areResolved
      simp
  | sketch :: rest, valid, resolved, areResolved => by
      simp only [resolveAll, Except.bind_eq_ok_iff, Except.pure_eq_ok_iff] at areResolved
      rcases areResolved with ⟨shape, isShape, others, areOthers, rfl⟩
      simp only [shapesOfAll, List.forall_mem_append] at valid
      rw [List.forall_mem_cons]
      exact ⟨isValid_of_resolve sketch valid.1 shape isShape,
        isValid_of_resolveAll rest valid.2 others areOthers⟩
termination_by structural sketches => sketches

end

theorem isValid_of_ofName {name : String} {sketch : Sketch} (isNamed : ofName name = .ok sketch) :
    ∀ shape ∈ sketch.shapes, shape.IsValid := by
  unfold ofName at isNamed
  split at isNamed
  · cases isNamed
    simpa [shapes] using Shape.isValid_any
  · split at isNamed
    · cases isNamed
      have passed : Shape.dropAny.check = .ok () := rfl
      simpa [shapes] using Shape.isValid_iff.mpr ⟨passed, by simp [Shape.dropAny, Shape.parts]⟩
    · split at isNamed <;> cases isNamed
      simp [shapes]

theorem shapes_of_ofNativeName {name : String} {sketch : Sketch}
    (isNamed : ofNativeName name = .ok sketch) : sketch.shapes = [] := by
  unfold ofNativeName at isNamed
  split at isNamed <;> cases isNamed
  rfl

theorem isValid_of_ofStored {value : Json} {sketch : Sketch}
    (isStored : ofStored value = .ok sketch) : ∀ shape ∈ sketch.shapes, shape.IsValid := by
  unfold ofStored at isStored
  split at isStored <;> cases isStored
  rename_i made isMade
  simpa [shapes] using Shape.isValid_of_ofStoredValue isMade

mutual

/-- The shapes in a sketch that is read from a value are valid. -/
theorem isValid_of_ofJson : (value : Json) → ∀ sketch, ofJson value = .ok sketch →
    ∀ shape ∈ sketch.shapes, shape.IsValid
  | .string name, sketch, isRead => isValid_of_ofName isRead
  | .array items, sketch, isRead => by
      simp only [ofJson, Except.bind_eq_ok_iff, Except.pure_eq_ok_iff] at isRead
      rcases isRead with ⟨sketches, areRead, rfl⟩
      exact isValid_of_ofItems items sketches areRead
  | .object [(key, .array items)], sketch, isRead => by
      simp only [ofJson] at isRead
      split at isRead
      · rcases Except.bind_eq_ok_iff.mp isRead with ⟨sketches, areRead, isSketch⟩
        cases isSketch
        exact isValid_of_ofItems items sketches areRead
      · split at isRead
        · exact isValid_of_ofStored isRead
        · rcases Except.bind_eq_ok_iff.mp isRead with ⟨sketches, areRead, isSketch⟩
          cases isSketch
          simpa [shapes, shapesOfFields] using isValid_of_ofItems items sketches areRead
  | .object [(key, .string name)], sketch, isRead => by
      simp only [ofJson] at isRead
      split at isRead
      · simp [shapes_of_ofNativeName isRead]
      · split at isRead
        · exact isValid_of_ofStored isRead
        · rcases Except.bind_eq_ok_iff.mp isRead with ⟨named, isNamed, isSketch⟩
          cases isSketch
          simpa [shapes, shapesOfFields] using isValid_of_ofName isNamed
  | .object [(key, .object entries)], sketch, isRead => by
      simp only [ofJson] at isRead
      split at isRead
      · exact isValid_of_ofStored isRead
      · rcases Except.bind_eq_ok_iff.mp isRead with ⟨inner, isInner, isSketch⟩
        cases isSketch
        simpa [shapes, shapesOfFields] using isValid_of_ofJson (.object entries) inner isInner
  | .object [(key, .null)], sketch, isRead
  | .object [(key, .bool _)], sketch, isRead
  | .object [(key, .number _)], sketch, isRead => by
      simp only [ofJson] at isRead
      split at isRead
      · exact isValid_of_ofStored isRead
      · cases isRead
  | .object [], sketch, isRead => by
      cases isRead
      simp [shapes, shapesOfFields]
  | .object (first :: second :: rest), sketch, isRead => by
      simp only [ofJson, Except.bind_eq_ok_iff, Except.pure_eq_ok_iff] at isRead
      rcases isRead with ⟨sketches, areRead, rfl⟩
      exact isValid_of_ofEntries (first :: second :: rest) sketches areRead
  | .null, sketch, isRead | .bool _, sketch, isRead | .number _, sketch, isRead => by
      cases isRead
termination_by structural value => value

theorem isValid_of_ofItems : (items : List Json) → ∀ sketches, ofItems items = .ok sketches →
    ∀ shape ∈ shapesOfAll sketches, shape.IsValid
  | [], sketches, areRead => by
      cases areRead
      simp [shapesOfAll]
  | item :: rest, sketches, areRead => by
      simp only [ofItems, Except.bind_eq_ok_iff, Except.pure_eq_ok_iff] at areRead
      rcases areRead with ⟨sketch, isRead, others, areOthers, rfl⟩
      simp only [shapesOfAll, List.forall_mem_append]
      exact ⟨isValid_of_ofJson item sketch isRead, isValid_of_ofItems rest others areOthers⟩
termination_by structural items => items

theorem isValid_of_ofEntries : (entries : List (String × Json)) →
    ∀ sketches, ofEntries entries = .ok sketches →
      ∀ shape ∈ shapesOfFields sketches, shape.IsValid
  | [], sketches, areRead => by
      cases areRead
      simp [shapesOfFields]
  | (key, value) :: rest, sketches, areRead => by
      simp only [ofEntries, Except.bind_eq_ok_iff, Except.pure_eq_ok_iff] at areRead
      rcases areRead with ⟨sketch, isRead, others, areOthers, rfl⟩
      simp only [shapesOfFields, List.forall_mem_append]
      exact ⟨isValid_of_ofJson value sketch isRead, isValid_of_ofEntries rest others areOthers⟩
termination_by structural entries => entries

end

end Sketch

/-! ### All ways -/

namespace Shape

/-- The shapes that can be made, of nothing or of shapes that have been made. -/
inductive Made : Shape → Prop
  | leaf {kind : LeafKind} {allow : Allowances} {onNull onMissing : Option kind.Value}
      {made : Shape} (isMade : buildLeaf kind allow onNull onMissing = .ok made) : Made made
  | instant {unit : Option Time.EpochUnit} {allow : Allowances}
      {onNull onMissing : Option Time.Instant} {made : Shape}
      (isMade : buildInstant unit allow onNull onMissing = .ok made) : Made made
  | object {fields : List (String × Shape)} {rules : ObjectRules} {made : Shape}
      (parts : ∀ field ∈ fields, Made field.2) (isMade : buildObject fields rules = .ok made) :
      Made made
  | array {element : Shape} {allow : Allowances} {made : Shape} (part : Made element)
      (isMade : buildArray element allow = .ok made) : Made made
  | keyValue {key value : Option Shape} {allow : Allowances} {made : Shape}
      (keyPart : ∀ shape, key = some shape → Made shape)
      (valuePart : ∀ shape, value = some shape → Made shape)
      (isMade : buildKeyValue key value allow = .ok made) : Made made
  | tuple {slots : List Shape} {allow : Allowances} {made : Shape}
      (parts : ∀ slot ∈ slots, Made slot) (isMade : buildTuple slots allow = .ok made) : Made made
  | typed {rules : VariantRules} {shared : List (String × Shape)}
      {variants : List (String × ObjectShape)} {made : Shape}
      (sharedParts : ∀ field ∈ shared, Made field.2)
      (variantParts : ∀ variant ∈ variants, Made (.object variant.2))
      (isMade : buildTyped rules shared variants = .ok made) : Made made
  | any : Made any
  | skip {allowMissing : Bool} {desired : KindSet} {made : Shape}
      (isMade : buildSkip allowMissing desired = .ok made) : Made made
  /-- Any shape that passes, of shapes that have been made. -/
  | checked {shape made : Shape} (parts : ∀ part ∈ shape.held, Made part)
      (isMade : shape.checked = .ok made) : Made made
  /-- The usual shape of a data type. -/
  | usual {type : DataType} {made : Shape} (isMade : type.usualShape = .ok made) : Made made
  /-- What a sketch resolves to. -/
  | resolved {sketch : Sketch} {made : Shape} (parts : ∀ shape ∈ sketch.shapes, Made shape)
      (isMade : sketch.resolve = .ok made) : Made made
  /-- A shape in a sketch that is read from a value. -/
  | sketched {value : Json} {sketch : Sketch} {made : Shape}
      (isRead : Sketch.ofJson value = .ok sketch) (isMade : made ∈ sketch.shapes) : Made made
  | stored {text : String} {made : Shape} (isMade : ofStoredText text = .ok made) : Made made
  | storedValue {value : Json} {made : Shape} (isMade : ofStoredValue value = .ok made) :
      Made made
  /-- A node of a shape, taken out of it. -/
  | node {node shape : Shape} (whole : Made shape) (isNode : IsNodeOf node shape) : Made node

theorem IsNodeOf.trans {inner node shape : Shape} (isInner : IsNodeOf inner node)
    (isNode : IsNodeOf node shape) : IsNodeOf inner shape := by
  induction isNode with
  | self => exact isInner
  | inside partMem _ ih => exact .inside partMem ih

theorem Made.isValid {shape : Shape} (made : Made shape) : shape.IsValid := by
  induction made with
  | leaf isMade => exact isValid_of_buildLeaf isMade
  | instant isMade => exact isValid_of_buildInstant isMade
  | object _ isMade valid => exact isValid_of_buildObject isMade valid
  | array _ isMade valid => exact isValid_of_buildArray isMade valid
  | keyValue _ _ isMade keyValid valueValid =>
      exact isValid_of_buildKeyValue isMade keyValid valueValid
  | tuple _ isMade valid => exact isValid_of_buildTuple isMade valid
  | typed _ _ isMade sharedValid variantsValid =>
      exact isValid_of_buildTyped isMade sharedValid variantsValid
  | any => exact isValid_any
  | skip isMade => exact isValid_of_buildSkip isMade
  | checked _ isMade valid => exact isValid_of_checked_held isMade valid
  | usual isMade => exact DataType.isValid_of_usualShape isMade
  | resolved _ isMade valid => exact Sketch.isValid_of_resolve _ valid _ isMade
  | sketched isRead isMade => exact Sketch.isValid_of_ofJson _ _ isRead _ isMade
  | stored isMade => exact isValid_of_ofStoredText isMade
  | storedValue isMade => exact isValid_of_ofStoredValue isMade
  | node _ isNode valid =>
      intro inner isInner
      exact valid inner (isInner.trans isNode)

/-- Whatever way a shape was made, every node of it, the objects of types included, passes
its check: it can read what it accepts and obeys the rules of its kind. -/
theorem nodes_pass_of_made {shape : Shape} (made : Made shape) :
    ∀ node, IsNodeOf node shape →
      node.check = .ok () ∧ node.ReadsAccepted ∧ node.ObeysOwnRules := by
  intro node isNode
  have passed := made.isValid node isNode
  exact ⟨passed, check_eq_ok_iff.mp passed⟩

/-- The object of a type that has been taken out of storage and built into another shape
passes. -/
theorem nodes_pass_of_made_typed :
    let stored : Json := .object [("type", .string "object"),
      ("fields", .object [("id", .object [("type", .string "any")])]),
      ("allowUnknownFields", .bool false), ("allowMissing", .bool true),
      ("desiredTypes", .array [.string "object"])]
    let record : ObjectShape := .record [("id", any)]
      ⟨false, ⟨true, .ofList [.object]⟩, .useFirst, []⟩
    let whole := typed (variantRules "kind" {} true .error) [] [("a", record)]
    ofStoredValue stored = .ok (object record) ∧ Made whole ∧ (object record).check = .ok () ∧
      (object record).ReadsAccepted ∧ (object record).ObeysOwnRules := by
  intro stored record whole
  have isStored : ofStoredValue stored = .ok (object record) := by rfl
  have isTyped :
      buildTyped (variantRules "kind" {} true .error) [] [("a", record)] = .ok whole := by
    rfl
  have made : Made whole := .typed (by simp) (by simpa using .storedValue isStored) isTyped
  have isNode : IsNodeOf (object record) whole := .inside (List.mem_singleton.mpr rfl) .self
  exact ⟨isStored, made, nodes_pass_of_made made (object record) isNode⟩

end Shape

end JsonTables
