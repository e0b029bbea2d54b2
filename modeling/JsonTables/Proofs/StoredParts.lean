import JsonTables.Proofs.StoredContents
import JsonTables.Proofs.StoredShapes

/-!
# Parts of stored shapes

A shape is stored as its parts by their names.  Each part that is read is put where it
belongs in a draft, and the draft of all the parts makes the settled shape, if the shapes
among the parts are read back.
-/

namespace JsonTables

open JsonText (Mismatch)

namespace Shape

/-! ### What is stored -/

/-- The kind that a shape is stored as. -/
def storedKind : Shape → StoredKind
  | leaf ⟨.epoch _, _, _, _⟩ => .epoch
  | leaf scalar => .leaf scalar.kind
  | object _ => .object
  | array _ _ => .array
  | keyValue _ _ _ => .keyValue
  | tuple _ _ => .tuple
  | typed _ _ _ => .typed
  | any => .any
  | skip _ => .skip

/-- The name of the kind that a shape is stored as. -/
def storedName : Shape → String
  | leaf scalar => scalar.kind.storedName
  | object _ => "object"
  | array _ _ => "array"
  | keyValue _ _ _ => "objectKv"
  | tuple _ _ => "tuple"
  | typed _ _ _ => "typedObject"
  | any => "any"
  | skip _ => "skip"

/-- The parts of a shape as they are stored. -/
def storedParts : Shape → List (String × Json)
  | leaf scalar =>
      scalar.kind.formatEntry ++ (scalar.acceptance.entries
        ++ (Leaf.defaultEntry "onNull" scalar.kind scalar.onNull
          ++ Leaf.defaultEntry "onMissing" scalar.kind scalar.onMissing))
  | object record => objectEntries record
  | array element acceptance => ("element", toJson element) :: acceptance.entries
  | keyValue key value acceptance =>
      ("key", toJson key) :: ("value", toJson value) :: acceptance.entries
  | tuple slots acceptance => ("values", .array (slotsToJson slots)) :: acceptance.entries
  | typed rules shared variants =>
      ("typeField", .string rules.typeField) :: ("sharedFields", .object (fieldsToJson shared))
        :: ("objects", .object (variantsToJson variants))
        :: ("allowUnknownTypes", .bool rules.allowUnknown) :: (rules.acceptance.entries
          ++ [("repeatedFieldBehavior", .string rules.repeats.storedName)])
  | any => []
  | skip acceptance => acceptance.entries

theorem toJson_eq_tagged (shape : Shape) :
    shape.toJson = tagged shape.storedName shape.storedParts := by
  cases shape with
  | leaf scalar =>
      simp only [toJson, Leaf.toJson, tagged, storedName, storedParts, List.cons_append,
        List.append_assoc]
  | _ => rfl

theorem variantName_storedName (shape : Shape) :
    JsonText.variantName StoredKind.known shape.storedName = .ok shape.storedKind := by
  cases shape with
  | leaf scalar =>
      rcases scalar with ⟨kind, _, _, _⟩
      cases kind <;> rfl
  | _ => rfl

end Shape

namespace Content

/-! ### Drafts -/

section Steps

variable {kind : StoredKind} {draft : Draft kind.leafKind.Value} {rest : List (String × Json)}

variable (kind draft) in
/-- The draft with one more part, which is read from a content. -/
def withPart (content : Content) (part : StoredPart) :
    Except Mismatch (Draft kind.leafKind.Value) :=
  draft.set (fun content => content.toValue kind.leafKind)
    { shape := fun _ => content.toShape, fields := fun _ => content.toFields,
      slots := fun _ => content.toSlots, variants := fun _ => content.toVariants } content part

/-- A part that is read is put into the draft; `put` is the place that the part has there. -/
theorem draftOfEntries_cons {name : String} {stored : Json} {part : StoredPart} {α : Type}
    {read : Except Mismatch α} {found : α} {put : α → Draft kind.leafKind.Value}
    {next : Draft kind.leafKind.Value}
    (isPart : (StoredPart.ofKind kind).lookup name = some part) (isNew : draft.has part = false)
    (isRead : read = .ok found)
    (isPut : withPart kind draft (ofRead stored) part = do return put (← read))
    (isNext : put found = next) :
    draftOfEntries kind draft (ofReadEntries ((name, stored) :: rest)) =
      draftOfEntries kind next (ofReadEntries rest) := by
  rw [withPart, isRead, Except.ok_bind] at isPut
  simp only [ofReadEntries, draftOfEntries, isPart, isNew, Bool.false_eq_true, if_false, isPut,
    ← isNext]
  rfl

theorem draftOfEntries_acceptance {acceptance : Acceptance}
    (hasMissing : (StoredPart.ofKind kind).lookup "allowMissing" = some .allowMissing)
    (hasDesired : (StoredPart.ofKind kind).lookup "desiredTypes" = some .desired)
    (newMissing : draft.allowMissing = none) (newDesired : draft.desired = none) :
    draftOfEntries kind draft (ofReadEntries (acceptance.entries ++ rest)) =
      draftOfEntries kind
        { draft with
          allowMissing := some acceptance.allowMissing
          desired := some acceptance.desired }
        (ofReadEntries rest) := by
  refine (draftOfEntries_cons hasMissing (congrArg Option.isSome newMissing) rfl rfl rfl).trans ?_
  exact draftOfEntries_cons hasDesired (congrArg Option.isSome newDesired)
    (toKindSet_ofRead acceptance.desired) rfl rfl

theorem draftOfEntries_lastAcceptance {acceptance : Acceptance}
    (hasMissing : (StoredPart.ofKind kind).lookup "allowMissing" = some .allowMissing)
    (hasDesired : (StoredPart.ofKind kind).lookup "desiredTypes" = some .desired)
    (newMissing : draft.allowMissing = none) (newDesired : draft.desired = none) :
    draftOfEntries kind draft (ofReadEntries acceptance.entries) =
      .ok { draft with
        allowMissing := some acceptance.allowMissing
        desired := some acceptance.desired } := by
  rw [← List.append_nil acceptance.entries,
    draftOfEntries_acceptance hasMissing hasDesired newMissing newDesired]
  rfl

theorem draftOfEntries_repeats {policy : RepeatPolicy}
    (hasRepeats : (StoredPart.ofKind kind).lookup "repeatedFieldBehavior" = some .repeats)
    (isNew : draft.repeats = none) :
    draftOfEntries kind draft
        (ofReadEntries (("repeatedFieldBehavior", .string policy.storedName) :: rest)) =
      draftOfEntries kind { draft with repeats := some policy } (ofReadEntries rest) :=
  draftOfEntries_cons hasRepeats (congrArg Option.isSome isNew) (toVariant_policy policy) rfl rfl

theorem draftOfEntries_matching {matching : List (String × FieldMatching)}
    (hasMatching : (StoredPart.ofKind kind).lookup "fieldMatching" = some .matching)
    (isNew : draft.matching = none) (differ : (matching.map (·.1)).Nodup) :
    draftOfEntries kind draft (ofReadEntries
        (if matching.isEmpty then []
        else [("fieldMatching", Json.object (matching.map fun entry =>
          (entry.1, entry.2.toJson)))])) =
      .ok { draft with matching := if matching.isEmpty then none else some matching } := by
  cases matching.isEmpty with
  | true =>
      cases draft
      cases isNew
      rfl
  | false =>
      exact draftOfEntries_cons hasMatching (congrArg Option.isSome isNew)
        (toMatchings_ofRead differ) rfl rfl

theorem optional_toValue {content : Content} {kind : LeafKind} {value : kind.Value}
    (isRead : content.toValue kind = .ok value) :
    content.optional (fun content => content.toValue kind) = .ok (some value) := by
  cases content with
  | null => cases kind <;> cases isRead
  | _ => simp only [optional, isRead, Except.ok_bind]; rfl

theorem draftOfEntries_defaults {onNull onMissing : Option kind.leafKind.Value}
    (hasNull : (StoredPart.ofKind kind).lookup "onNull" = some .onNull)
    (hasMissing : (StoredPart.ofKind kind).lookup "onMissing" = some .onMissing)
    (newNull : draft.onNull = none) (newMissing : draft.onMissing = none)
    (nullStorable : ∀ value ∈ onNull, kind.leafKind.IsStorable value)
    (missingStorable : ∀ value ∈ onMissing, kind.leafKind.IsStorable value) :
    draftOfEntries kind draft (ofReadEntries (Leaf.defaultEntry "onNull" kind.leafKind onNull
        ++ Leaf.defaultEntry "onMissing" kind.leafKind onMissing)) =
      .ok { draft with
        onNull := onNull.map fun value => some (kind.leafKind.settledValue value)
        onMissing := onMissing.map fun value => some (kind.leafKind.settledValue value) } := by
  have withMissing : ∀ draft : Draft kind.leafKind.Value, draft.onMissing = none →
      draftOfEntries kind draft (ofReadEntries
          (Leaf.defaultEntry "onMissing" kind.leafKind onMissing)) =
        .ok { draft with
          onMissing := onMissing.map fun value => some (kind.leafKind.settledValue value) } := by
    intro draft isNew
    cases onMissing with
    | none =>
        cases draft
        cases isNew
        rfl
    | some value =>
        have isRead := optional_toValue (toValue_ofRead (missingStorable value rfl))
        exact draftOfEntries_cons hasMissing (congrArg Option.isSome isNew) isRead rfl rfl
  cases onNull with
  | none =>
      cases draft
      cases newNull
      exact withMissing _ newMissing
  | some value =>
      have isRead := optional_toValue (toValue_ofRead (nullStorable value rfl))
      refine (draftOfEntries_cons hasNull (congrArg Option.isSome newNull) isRead rfl rfl).trans ?_
      exact withMissing _ newMissing

end Steps

/-! ### Shapes of parts -/

/-- Whether the parts of a shape make the settled shape as they are read. -/
def MakesSettled (shape : Shape) : Prop :=
  (do (← draftOfEntries shape.storedKind {} (ofReadEntries shape.storedParts)).toShape) =
    Except.ok (ε := Mismatch) shape.settled

/-- Whether a shape is read back from the content it is stored as. -/
def ReadsBack (shape : Shape) : Prop :=
  (ofRead shape.toJson).toShape = .ok shape.settled

-- The proofs for the kinds of shapes go part by part, in the order in which the parts are stored.
theorem makesSettled_of {shape : Shape} {draft : Draft shape.storedKind.leafKind.Value}
    (isDraft : draftOfEntries shape.storedKind {} (ofReadEntries shape.storedParts) = .ok draft)
    (isShape : draft.toShape = .ok shape.settled) : MakesSettled shape := by
  rw [MakesSettled, isDraft]
  exact isShape

theorem makesSettled_leaf {leaf : Leaf} (storable : leaf.HoldsStorable) :
    MakesSettled (.leaf leaf) := by
  rcases leaf with ⟨kind, acceptance, onNull, onMissing⟩
  cases kind with
  | epoch unit =>
      -- The draft of a number of units holds instants, whatever the unit is.
      have asInstant : ∀ (key : String) (default : Option Time.Instant),
          Leaf.defaultEntry key (.epoch unit) default = Leaf.defaultEntry key .instant default := by
        intro key default
        cases default <;> rfl
      have isDraft : draftOfEntries .epoch {} (ofReadEntries
          (("format", .string unit.storedName) :: (acceptance.entries
            ++ (Leaf.defaultEntry "onNull" .instant onNull
              ++ Leaf.defaultEntry "onMissing" .instant onMissing)))) = .ok _ :=
        (draftOfEntries_cons rfl rfl (toVariant_unit unit) rfl rfl).trans
          ((draftOfEntries_acceptance rfl rfl rfl rfl).trans
            (draftOfEntries_defaults rfl rfl rfl rfl storable.onNull storable.onMissing))
      rw [← asInstant, ← asInstant] at isDraft
      refine makesSettled_of isDraft ?_
      cases onNull <;> cases onMissing <;> rfl
  | _ =>
      refine makesSettled_of ((draftOfEntries_acceptance rfl rfl rfl rfl).trans
        (draftOfEntries_defaults rfl rfl rfl rfl storable.onNull storable.onMissing)) ?_
      cases onNull <;> cases onMissing <;> rfl

theorem toFields_ofRead {fields : List (String × Shape)} (differ : (fields.map (·.1)).Nodup)
    (readBack : ∀ field ∈ fields, ReadsBack field.2) :
    (ofRead (.object (Shape.fieldsToJson fields))).toFields = .ok (Shape.settledFields fields) := by
  have areRead : fieldsOfEntries (ofReadEntries (Shape.fieldsToJson fields)) =
      .ok (Shape.settledFields fields) := by
    clear differ
    induction fields with
    | nil => rfl
    | cons field rest ih =>
        rw [List.forall_mem_cons] at readBack
        have isRead : (ofRead field.2.toJson).toShape = .ok field.2.settled := readBack.1
        simp only [Shape.fieldsToJson, ofReadEntries, fieldsOfEntries, isRead, ih readBack.2,
          Except.ok_bind]
        rfl
  have settledDiffer : ((Shape.settledFields fields).map (·.1)).Nodup := by
    rwa [Shape.names_settledFields]
  rw [ofRead, toFields, areRead, Except.ok_bind, Json.lastOccurrences_eq_self settledDiffer]
  rfl

theorem toSlots_ofRead {slots : List Shape} (readBack : ∀ slot ∈ slots, ReadsBack slot) :
    (ofRead (.array (Shape.slotsToJson slots))).toSlots = .ok (Shape.settledSlots slots) := by
  rw [ofRead, toSlots]
  induction slots with
  | nil => rfl
  | cons slot rest ih =>
      rw [List.forall_mem_cons] at readBack
      have isRead : (ofRead slot.toJson).toShape = .ok slot.settled := readBack.1
      simp only [Shape.slotsToJson, ofReadItems, slotsOfItems, isRead, ih readBack.2,
        Except.ok_bind]
      rfl

theorem makesSettled_array {element : Shape} {acceptance : Acceptance}
    (readBack : ReadsBack element) : MakesSettled (.array element acceptance) :=
  makesSettled_of ((draftOfEntries_cons rfl rfl readBack rfl rfl).trans
    (draftOfEntries_lastAcceptance rfl rfl rfl rfl)) rfl

theorem makesSettled_keyValue {key value : Shape} {acceptance : Acceptance}
    (keyBack : ReadsBack key) (valueBack : ReadsBack value) :
    MakesSettled (.keyValue key value acceptance) :=
  makesSettled_of ((draftOfEntries_cons rfl rfl keyBack rfl rfl).trans
    ((draftOfEntries_cons rfl rfl valueBack rfl rfl).trans
      (draftOfEntries_lastAcceptance rfl rfl rfl rfl))) rfl

theorem makesSettled_tuple {slots : List Shape} {acceptance : Acceptance}
    (readBack : ∀ slot ∈ slots, ReadsBack slot) : MakesSettled (.tuple slots acceptance) :=
  makesSettled_of ((draftOfEntries_cons rfl rfl (toSlots_ofRead readBack) rfl rfl).trans
    (draftOfEntries_lastAcceptance rfl rfl rfl rfl)) rfl

theorem makesSettled_any : MakesSettled .any :=
  rfl

theorem makesSettled_skip {acceptance : Acceptance} : MakesSettled (.skip acceptance) :=
  makesSettled_of (draftOfEntries_lastAcceptance rfl rfl rfl rfl) rfl

theorem makesSettled_object {record : ObjectShape} (storable : (Shape.object record).HoldsStorable)
    (readBack : ∀ field ∈ record.fields, ReadsBack field.2) : MakesSettled (.object record) := by
  rcases record with ⟨fields, rules⟩
  rcases rules with ⟨allowUnknown, acceptance, repeats, matching⟩
  have areFields : (ofRead (.object (Shape.fieldsToJson fields))).toFields =
      .ok (Shape.settledFields fields) := toFields_ofRead storable.1 readBack
  refine makesSettled_of ((draftOfEntries_cons rfl rfl areFields rfl rfl).trans
    ((draftOfEntries_cons rfl rfl rfl rfl rfl).trans
      ((draftOfEntries_acceptance rfl rfl rfl rfl).trans
        ((draftOfEntries_repeats rfl rfl).trans
          (draftOfEntries_matching rfl rfl storable.2))))) ?_
  cases matching <;> rfl

/-- The object of a type is stored as its parts, and not as a shape. -/
theorem toRecord_ofRead {record : ObjectShape} (makes : MakesSettled (.object record)) :
    (ofRead (.object (Shape.objectEntries record))).toRecord =
      .ok (Shape.settledObject record) := by
  rcases Except.bind_eq_ok_iff.mp makes with ⟨draft, isDraft, isShape⟩
  rcases Except.bind_eq_ok_iff.mp isShape with ⟨made, isMade, isObject⟩
  cases isObject
  rw [ofRead, toRecord]
  exact Except.bind_eq_ok_iff.mpr ⟨draft, isDraft, isMade⟩

theorem toVariants_ofRead {variants : List (String × ObjectShape)}
    (differ : (variants.map (·.1)).Nodup)
    (make : ∀ variant ∈ variants, MakesSettled (.object variant.2)) :
    (ofRead (.object (Shape.variantsToJson variants))).toVariants =
      .ok (Shape.settledVariants variants) := by
  have areRead : variantsOfEntries (ofReadEntries (Shape.variantsToJson variants)) =
      .ok (Shape.settledVariants variants) := by
    clear differ
    induction variants with
    | nil => rfl
    | cons variant rest ih =>
        rw [List.forall_mem_cons] at make
        simp only [Shape.variantsToJson, ofReadEntries, variantsOfEntries,
          toRecord_ofRead make.1, ih make.2, Except.ok_bind]
        rfl
  have settledDiffer : ((Shape.settledVariants variants).map (·.1)).Nodup := by
    rwa [Shape.names_settledVariants]
  rw [ofRead, toVariants, areRead, Except.ok_bind, Json.lastOccurrences_eq_self settledDiffer]
  rfl

theorem makesSettled_typed {rules : VariantRules} {shared : List (String × Shape)}
    {variants : List (String × ObjectShape)}
    (storable : (Shape.typed rules shared variants).HoldsStorable)
    (readBack : ∀ field ∈ shared, ReadsBack field.2)
    (make : ∀ variant ∈ variants, MakesSettled (.object variant.2)) :
    MakesSettled (.typed rules shared variants) := by
  have areFields := toFields_ofRead storable.1 readBack
  have areVariants := toVariants_ofRead storable.2 make
  exact makesSettled_of ((draftOfEntries_cons rfl rfl rfl rfl rfl).trans
    ((draftOfEntries_cons rfl rfl areFields rfl rfl).trans
      ((draftOfEntries_cons rfl rfl areVariants rfl rfl).trans
        ((draftOfEntries_cons rfl rfl rfl rfl rfl).trans
          ((draftOfEntries_acceptance rfl rfl rfl rfl).trans
            (draftOfEntries_repeats rfl rfl)))))) rfl

/-! ### Shapes -/

theorem notKind_storedParts (shape : Shape) : ∀ entry ∈ shape.storedParts, entry.1 ≠ kindKey := by
  have notDefault : ∀ (kind : LeafKind) (default : Option kind.Value) (key : String),
      key ≠ kindKey → ∀ entry ∈ Leaf.defaultEntry key kind default, entry.1 ≠ kindKey := by
    intro kind default key notKind
    cases default <;> simp [Leaf.defaultEntry, notKind]
  cases shape with
  | leaf scalar =>
      rcases scalar with ⟨kind, acceptance, onNull, onMissing⟩
      have notFormat : ∀ entry ∈ kind.formatEntry, entry.1 ≠ kindKey := by
        cases kind <;> simp [LeafKind.formatEntry, kindKey]
      have notNull := notDefault kind onNull "onNull" (by decide)
      have notMissing := notDefault kind onMissing "onMissing" (by decide)
      simp only [Shape.storedParts, List.forall_mem_append]
      refine ⟨notFormat, ?_, notNull, notMissing⟩
      simp [Acceptance.entries, kindKey]
  | object record =>
      rcases record with ⟨fields, rules⟩
      cases isEmpty : rules.matching.isEmpty <;>
        simp [Shape.storedParts, Shape.objectEntries, Shape.ruleEntries, Acceptance.entries,
          kindKey, isEmpty]
  | _ => simp [Shape.storedParts, Acceptance.entries, kindKey]

theorem kindAmong_some {kind : StoredKind} {entries : List (String × Json)}
    (notKind : ∀ entry ∈ entries, entry.1 ≠ kindKey) :
    kindAmong (some kind) (ofReadEntries entries) = .ok kind := by
  induction entries with
  | nil => rfl
  | cons entry rest ih =>
      rw [List.forall_mem_cons] at notKind
      rw [ofReadEntries, kindAmong, if_neg notKind.1]
      exact ih notKind.2

/-- A shape is read back if its parts make the settled shape and it passes its check. -/
theorem readsBack_of {shape : Shape} (makes : MakesSettled shape) (passes : shape.check = .ok ()) :
    ReadsBack shape := by
  have isKind : kindAmong none
      ((kindKey, text shape.storedName) :: ofReadEntries shape.storedParts) =
        .ok shape.storedKind := by
    rw [kindAmong, if_pos rfl, toKind, Shape.variantName_storedName]
    exact kindAmong_some (notKind_storedParts shape)
  have noPart : (StoredPart.ofKind shape.storedKind).lookup kindKey = none := by
    cases shape.storedKind <;> rfl
  have isChecked : checked shape.settled = .ok shape.settled :=
    checked_eq_ok_iff.mpr ⟨by rwa [Shape.check_settled], rfl⟩
  rcases Except.bind_eq_ok_iff.mp makes with ⟨draft, isDraft, isShape⟩
  have isWhole : draftOfEntries shape.storedKind {}
      ((kindKey, text shape.storedName) :: ofReadEntries shape.storedParts) = .ok draft := by
    simp only [draftOfEntries, noPart]
    exact isDraft
  rw [ReadsBack, Shape.toJson_eq_tagged, Shape.tagged, ofRead, ofReadEntries, toShape]
  exact Except.bind_eq_ok_iff.mpr ⟨_, isKind, Except.bind_eq_ok_iff.mpr ⟨draft, isWhole,
    Except.bind_eq_ok_iff.mpr ⟨_, isShape, isChecked⟩⟩⟩

/-- The parts of a valid shape that can be stored make the settled shape. -/
theorem makesSettled {shape : Shape} (valid : shape.IsValid) (storable : shape.IsStorable) :
    MakesSettled shape := by
  induction shape using Shape.induction_on_parts with
  | step shape ih =>
      have holds := storable _ .self
      have make : ∀ part ∈ shape.parts, MakesSettled part := fun part partMem =>
        ih part partMem (valid.part partMem) (storable.part partMem)
      -- A shape is read back only if it passes, so the parts have to be valid as well.
      have readBack : ∀ part ∈ shape.parts, ReadsBack part := fun part partMem =>
        readsBack_of (make part partMem) (valid.part partMem _ .self)
      cases shape with
      | leaf scalar => exact makesSettled_leaf holds
      | object record => exact makesSettled_object holds (List.forall_mem_map.mp readBack)
      | array element acceptance =>
          exact makesSettled_array (readBack element (by simp [Shape.parts]))
      | keyValue key value acceptance =>
          exact makesSettled_keyValue (readBack key (by simp [Shape.parts]))
            (readBack value (by simp [Shape.parts]))
      | tuple slots acceptance => exact makesSettled_tuple readBack
      | typed rules shared variants =>
          simp only [Shape.parts, List.forall_mem_append, List.forall_mem_map] at make readBack
          exact makesSettled_typed holds readBack.1 make.2
      | any => exact makesSettled_any
      | skip acceptance => exact makesSettled_skip

end Content

end JsonTables
