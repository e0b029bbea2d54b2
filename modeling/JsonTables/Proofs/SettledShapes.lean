import JsonTables.Proofs.LookedUp
import JsonTables.Proofs.ValidShapes
import JsonTables.Proofs.WrittenInstants

/-!
# Settled shapes

A decimal that is stored comes back as what it settles to, of one value with it, and an
instant as the one that its text tells.  So a shape comes back with its defaults settled.
Nothing else of it is changed: it has the same names in the same order and it passes the
same checks.  It is the same shape just if none of its defaults is a leap second in the
middle of a minute, for such an instant is told as another.
-/

namespace JsonTables

open Number (Bounds Decimal int64)
open Time (Instant)

/-! ### Values -/

namespace LeafKind

/-- Whether a value is within the range of the type of a kind.  Binary numbers are left out. -/
def IsStorable : (kind : LeafKind) → kind.Value → Prop
  | byte, value => (Bounds.signed 8).contains value = true
  | short, value => (Bounds.signed 16).contains value = true
  | int, value => (Bounds.signed 32).contains value = true
  | long, value => (Bounds.signed 64).contains value = true
  | float, _ | double, _ => False
  | instant, value | epoch _, value => Instant.IsInCalendar value
  | bigDecimal, value => int64.contains (Decimal.scale value) = true
  | boolean, _ | char, _ | string, _ | bigInteger, _ => True

/-- The value that a stored value is read as. -/
def settledValue : (kind : LeafKind) → kind.Value → kind.Value
  | bigDecimal, value => Decimal.settled value
  | instant, value | epoch _, value => Instant.settled value
  | boolean, value | char, value | byte, value | short, value | int, value | long, value
  | float, value | double, value | string, value | bigInteger, value => value

/-- Whether a value is in no leap second but one at the end of a minute. -/
def LeapEndsMinute : (kind : LeafKind) → kind.Value → Prop
  | instant, value | epoch _, value => Instant.LeapEndsMinute value
  | _, _ => True

theorem same_settledValue_iff {kind : LeafKind} {value : kind.Value}
    (storable : kind.IsStorable value) :
    (kind.cell value).same (kind.cell (kind.settledValue value)) = true ↔
      kind.LeapEndsMinute value := by
  cases kind with
  | bigDecimal => exact iff_of_true (Decimal.same_settled value) trivial
  | float | double => exact storable.elim
  | instant | epoch _ => exact beq_iff_eq.trans (eq_comm.trans Instant.settled_eq_iff)
  | _ => exact iff_of_true (beq_self_eq_true value) trivial

end LeafKind

namespace Leaf

/-- The leaf that a stored leaf is read as. -/
def settled (leaf : Leaf) : Leaf :=
  ⟨leaf.kind, leaf.acceptance, leaf.onNull.map leaf.kind.settledValue,
    leaf.onMissing.map leaf.kind.settledValue⟩

/-- Whether the defaults of a leaf are within the range of its type. -/
structure HoldsStorable (leaf : Leaf) : Prop where
  onNull : ∀ value ∈ leaf.onNull, leaf.kind.IsStorable value
  onMissing : ∀ value ∈ leaf.onMissing, leaf.kind.IsStorable value

/-- Whether no default of a leaf is a leap second in the middle of a minute. -/
structure LeapsEndMinutes (leaf : Leaf) : Prop where
  onNull : ∀ value ∈ leaf.onNull, leaf.kind.LeapEndsMinute value
  onMissing : ∀ value ∈ leaf.onMissing, leaf.kind.LeapEndsMinute value

theorem sameValue_settled_iff {kind : LeafKind} {default : Option kind.Value}
    (storable : ∀ value ∈ default, kind.IsStorable value) :
    sameValue default (default.map kind.settledValue) = true ↔
      ∀ value ∈ default, kind.LeapEndsMinute value := by
  cases default with
  | none => exact iff_of_true rfl (by rintro _ ⟨⟩)
  | some value =>
      refine (LeafKind.same_settledValue_iff (storable value rfl)).trans ?_
      simp only [Option.mem_some_iff, forall_eq']

theorem same_settled_iff {leaf : Leaf} (storable : leaf.HoldsStorable) :
    leaf.same leaf.settled = true ↔ leaf.LeapsEndMinutes := by
  have sameKind : (leaf.kind == leaf.kind && leaf.acceptance == leaf.acceptance) = true := by
    simp
  simp only [same, settled, sameKind, Bool.true_and, Bool.and_eq_true,
    sameValue_settled_iff storable.onNull, sameValue_settled_iff storable.onMissing]
  exact ⟨fun ⟨onNull, onMissing⟩ => ⟨onNull, onMissing⟩,
    fun ends => ⟨ends.onNull, ends.onMissing⟩⟩

end Leaf

namespace Shape

/-! ### Shapes -/

mutual

/-- The shape that a stored shape is read as. -/
def settled : Shape → Shape
  | leaf scalar => leaf scalar.settled
  | object record => object (settledObject record)
  | array element acceptance => array (settled element) acceptance
  | keyValue key value acceptance => keyValue (settled key) (settled value) acceptance
  | tuple slots acceptance => tuple (settledSlots slots) acceptance
  | typed rules shared variants => typed rules (settledFields shared) (settledVariants variants)
  | any => any
  | skip acceptance => skip acceptance
termination_by structural shape => shape

/-- The object that a stored object is read as. -/
def settledObject : ObjectShape → ObjectShape
  | .record fields rules => .record (settledFields fields) rules
termination_by structural record => record

/-- The fields that stored fields are read as. -/
def settledFields : List (String × Shape) → List (String × Shape)
  | [] => []
  | (name, shape) :: rest => (name, settled shape) :: settledFields rest
termination_by structural fields => fields

/-- The slots that stored slots are read as. -/
def settledSlots : List Shape → List Shape
  | [] => []
  | slot :: rest => settled slot :: settledSlots rest
termination_by structural slots => slots

/-- The types that stored types are read as. -/
def settledVariants : List (String × ObjectShape) → List (String × ObjectShape)
  | [] => []
  | (tag, record) :: rest => (tag, settledObject record) :: settledVariants rest
termination_by structural variants => variants

end

/-- Whether the names in a shape differ, and its defaults are within the ranges of their types. -/
def HoldsStorable : Shape → Prop
  | leaf scalar => scalar.HoldsStorable
  | object record =>
      (record.fields.map (·.1)).Nodup ∧ (record.rules.matching.map (·.1)).Nodup
  | typed _ shared variants => (shared.map (·.1)).Nodup ∧ (variants.map (·.1)).Nodup
  | _ => True

/-- Whether every node of a shape can be stored. -/
def IsStorable (shape : Shape) : Prop :=
  ∀ node, IsNodeOf node shape → node.HoldsStorable

theorem isStorable_iff {shape : Shape} :
    shape.IsStorable ↔ shape.HoldsStorable ∧ ∀ part ∈ shape.parts, part.IsStorable :=
  forall_isNodeOf_iff

theorem IsStorable.part {part shape : Shape} (storable : shape.IsStorable)
    (partMem : part ∈ shape.parts) : part.IsStorable :=
  (isStorable_iff.mp storable).2 part partMem

/-- Whether no default in a shape is a leap second in the middle of a minute. -/
def LeapsEndMinutes (shape : Shape) : Prop :=
  ∀ node, IsNodeOf node shape → ∀ scalar, node = leaf scalar → scalar.LeapsEndMinutes

theorem leapsEndMinutes_iff {shape : Shape} :
    shape.LeapsEndMinutes ↔ (∀ scalar, shape = leaf scalar → scalar.LeapsEndMinutes) ∧
      ∀ part ∈ shape.parts, part.LeapsEndMinutes :=
  forall_isNodeOf_iff

theorem leapsEndMinutes_leaf_iff {scalar : Leaf} :
    (leaf scalar).LeapsEndMinutes ↔ scalar.LeapsEndMinutes := by
  rw [leapsEndMinutes_iff]
  simp [Shape.parts]

/-! ### Names -/

@[simp]
theorem map_settledFields {α : Type} (f : String → α) (fields : List (String × Shape)) :
    (settledFields fields).map (fun field => f field.1) = fields.map fun field => f field.1 := by
  induction fields with
  | nil => rfl
  | cons field rest ih => simp only [settledFields, List.map_cons, ih]

theorem names_settledFields (fields : List (String × Shape)) :
    (settledFields fields).map (·.1) = fields.map (·.1) :=
  map_settledFields id fields

@[simp]
theorem any_settledFields (p : String → Bool) (fields : List (String × Shape)) :
    (settledFields fields).any (fun field => p field.1) = fields.any fun field => p field.1 := by
  induction fields with
  | nil => rfl
  | cons field rest ih => simp only [settledFields, List.any_cons, ih]

theorem names_settledVariants (variants : List (String × ObjectShape)) :
    (settledVariants variants).map (·.1) = variants.map (·.1) := by
  induction variants with
  | nil => rfl
  | cons variant rest ih => simp only [settledVariants, List.map_cons, ih]

@[simp]
theorem rules_settledObject (record : ObjectShape) :
    (settledObject record).rules = record.rules := by
  cases record
  rfl

@[simp]
theorem fields_settledObject (record : ObjectShape) :
    (settledObject record).fields = settledFields record.fields := by
  cases record
  rfl

/-! ### Checks -/

mutual

theorem columns_settled : (shape : Shape) → shape.settled.columns = shape.columns
  | leaf _ | any | skip _ => rfl
  | object record => objectColumns_settled record
  | array element acceptance => by simp only [settled, columns, columns_settled element]
  | keyValue key value acceptance => by
      simp only [settled, columns, columns_settled key, columns_settled value]
  | tuple [] acceptance => rfl
  | tuple [slot] acceptance => columns_settled slot
  | tuple (first :: second :: rest) acceptance => slotColumns_settled (first :: second :: rest) 0
  | typed rules shared variants => by
      simp only [settled, columns, fieldColumns_settled shared, variantColumns_settled variants]
termination_by structural shape => shape

theorem objectColumns_settled : (record : ObjectShape) →
    objectColumns (settledObject record) = objectColumns record
  | .record fields _ => fieldColumns_settled fields
termination_by structural record => record

theorem fieldColumns_settled : (fields : List (String × Shape)) →
    fieldColumns (settledFields fields) = fieldColumns fields
  | [] => rfl
  | (name, shape) :: rest => by
      simp only [settledFields, fieldColumns, columns_settled shape, fieldColumns_settled rest]
termination_by structural fields => fields

theorem slotColumns_settled : (slots : List Shape) → (position : Nat) →
    slotColumns position (settledSlots slots) = slotColumns position slots
  | [], _ => rfl
  | slot :: rest, position => by
      simp only [settledSlots, slotColumns, columns_settled slot, slotColumns_settled rest]
termination_by structural slots => slots

theorem variantColumns_settled : (variants : List (String × ObjectShape)) →
    variantColumns (settledVariants variants) = variantColumns variants
  | [] => rfl
  | (tag, record) :: rest => by
      simp only [settledVariants, variantColumns, objectColumns_settled record,
        variantColumns_settled rest]
termination_by structural variants => variants

end

theorem checkFields_settled (record : ObjectShape) :
    (settledObject record).checkFields = record.checkFields := by
  have matchings : (settledObject record).matchings = record.matchings := by
    simp only [ObjectShape.matchings, rules_settledObject, fields_settledObject]
    exact map_settledFields (fun name => (name, _)) record.fields
  have isField : ∀ name, (settledFields record.fields).any (·.1 == name) =
      record.fields.any (·.1 == name) := fun name => any_settledFields (· == name) record.fields
  simp only [ObjectShape.checkFields, matchings, rules_settledObject, fields_settledObject, isField]

theorem checkKinds_settled (shape : Shape) : shape.settled.checkKinds = shape.checkKinds := by
  cases shape with
  | object record => cases record; rfl
  | _ => rfl

theorem checkVariants_settled (names : List String) (variants : List (String × ObjectShape)) :
    checkVariants names (settledVariants variants) = checkVariants names variants := by
  induction variants with
  | nil => rfl
  | cons variant rest ih =>
      rcases variant with ⟨tag, record⟩
      have knows : (settledObject record).knows = record.knows := by
        funext key
        simp only [ObjectShape.knows, rules_settledObject, fields_settledObject]
        exact any_settledFields (fun name =>
          (ObjectShape.matchingIn record.rules.matching name).accepts name key) record.fields
      have kinds := checkKinds_settled (object record)
      rw [settled] at kinds
      simp only [settledVariants, checkVariants, checkObject, kinds, checkFields_settled,
        rules_settledObject, knows, ih]

/-- A settled shape passes or fails as the shape does. -/
theorem check_settled (shape : Shape) : shape.settled.check = shape.check := by
  have defaults : shape.settled.checkDefaults = shape.checkDefaults := by
    cases shape with
    | leaf scalar => simp [settled, Leaf.settled, checkDefaults]
    | _ => rfl
  have parts : shape.settled.checkParts = shape.checkParts := by
    cases shape with
    | object record => exact checkFields_settled record
    | keyValue key value acceptance =>
        have sameWidth : key.settled.width = key.width := congrArg List.length (columns_settled key)
        simp only [settled, checkParts]
        rw [sameWidth]
    | typed rules shared variants =>
        simp only [settled, checkParts, checkVariants_settled, names_settledFields]
    | _ => rfl
  simp only [check, checkKinds_settled, defaults, parts]

/-! ### Sameness -/

theorem mem_settledFields {fields : List (String × Shape)} {field : String × Shape}
    (fieldMem : field ∈ fields) : (field.1, field.2.settled) ∈ settledFields fields := by
  induction fields with
  | nil => cases fieldMem
  | cons first rest ih =>
      rcases List.mem_cons.mp fieldMem with rfl | inRest
      · exact List.mem_cons_self
      · exact List.mem_cons_of_mem _ (ih inRest)

theorem mem_settledVariants {variants : List (String × ObjectShape)}
    {variant : String × ObjectShape} (variantMem : variant ∈ variants) :
    (variant.1, settledObject variant.2) ∈ settledVariants variants := by
  induction variants with
  | nil => cases variantMem
  | cons first rest ih =>
      rcases List.mem_cons.mp variantMem with rfl | inRest
      · exact List.mem_cons_self
      · exact List.mem_cons_of_mem _ (ih inRest)

theorem length_settledFields (fields : List (String × Shape)) :
    (settledFields fields).length = fields.length := by
  simpa using congrArg List.length (names_settledFields fields)

theorem length_settledVariants (variants : List (String × ObjectShape)) :
    (settledVariants variants).length = variants.length := by
  simpa using congrArg List.length (names_settledVariants variants)

mutual

/-- A shape that can be stored is the same shape as it is settled just if the leap seconds
in it are at the ends of minutes. -/
theorem same_settled_iff : (shape : Shape) → shape.IsStorable →
    (shape.same shape.settled = true ↔ shape.LeapsEndMinutes)
  | leaf scalar, storable =>
      (Leaf.same_settled_iff (storable _ .self)).trans leapsEndMinutes_leaf_iff.symm
  | object record, storable => sameObject_settled_iff record storable
  | array element acceptance, storable => by
      have parts := (isStorable_iff.mp storable).2
      have sameElement := same_settled_iff element (parts element (by simp [Shape.parts]))
      rw [leapsEndMinutes_iff]
      simp [settled, same, Shape.parts, sameElement]
  | keyValue key value acceptance, storable => by
      have parts := (isStorable_iff.mp storable).2
      have sameKey := same_settled_iff key (parts key (by simp [Shape.parts]))
      have sameValue := same_settled_iff value (parts value (by simp [Shape.parts]))
      rw [leapsEndMinutes_iff]
      simp [settled, same, Shape.parts, sameKey, sameValue]
  | tuple slots acceptance, storable => by
      have parts := (isStorable_iff.mp storable).2
      rw [leapsEndMinutes_iff]
      simp [settled, same, Shape.parts, sameSlots_settled_iff slots parts]
  | typed rules shared variants, storable => by
      rcases isStorable_iff.mp storable with ⟨⟨sharedDiffer, variantsDiffer⟩, parts⟩
      simp only [Shape.parts, List.forall_mem_append, List.forall_mem_map] at parts
      have namesDiffer : ((settledFields shared).map (·.1)).Nodup := by
        rwa [names_settledFields]
      have tagsDiffer : ((settledVariants variants).map (·.1)).Nodup := by
        rwa [names_settledVariants]
      have fields := sameFields_settled_iff shared parts.1 (settledFields shared)
        fun field fieldMem => lookup_of_mem namesDiffer (mem_settledFields fieldMem)
      have objects := sameVariants_settled_iff variants parts.2 (settledVariants variants)
        fun variant variantMem => lookup_of_mem tagsDiffer (mem_settledVariants variantMem)
      rw [leapsEndMinutes_iff]
      simp only [settled, same, length_settledFields, length_settledVariants, beq_self_eq_true,
        Bool.true_and, Bool.and_true, Bool.and_eq_true, fields, objects, Shape.parts,
        List.forall_mem_append, List.forall_mem_map, reduceCtorEq, false_implies, implies_true,
        true_and]
  | any, _ => by
      rw [leapsEndMinutes_iff]
      simp [settled, same, Shape.parts]
  | skip acceptance, _ => by
      rw [leapsEndMinutes_iff]
      simp [settled, same, Shape.parts]
termination_by structural shape => shape

theorem sameObject_settled_iff : (record : ObjectShape) → (object record).IsStorable →
    (sameObject record (settledObject record) = true ↔ (object record).LeapsEndMinutes)
  | .record fields rules, storable => by
      rcases isStorable_iff.mp storable with ⟨⟨fieldsDiffer, matchingDiffers⟩, parts⟩
      simp only [Shape.parts, ObjectShape.fields, List.forall_mem_map] at parts
      have namesDiffer : ((settledFields fields).map (·.1)).Nodup := by
        rwa [names_settledFields]
      have sameFields := sameFields_settled_iff fields parts (settledFields fields)
        fun field fieldMem => lookup_of_mem namesDiffer (mem_settledFields fieldMem)
      have matching : (rules.matching.all fun entry =>
          rules.matching.lookup entry.1 == some entry.2) = true := by
        rw [List.all_eq_true]
        intro entry entryMem
        have isMatching : rules.matching.lookup entry.1 = some entry.2 :=
          lookup_of_mem matchingDiffers entryMem
        rw [isMatching, beq_self_eq_true]
      rw [leapsEndMinutes_iff]
      simp only [settledObject, sameObject, ObjectShape.fields, ObjectShape.rules,
        length_settledFields, beq_self_eq_true, Bool.true_and, Bool.and_true, matching, sameFields,
        Shape.parts, List.forall_mem_map, reduceCtorEq, false_implies, implies_true, true_and]
termination_by structural record => record

theorem sameFields_settled_iff : (fields : List (String × Shape)) →
    (∀ field ∈ fields, field.2.IsStorable) → ∀ others : List (String × Shape),
      (∀ field ∈ fields, others.lookup field.1 = some field.2.settled) →
        (sameFields fields others = true ↔ ∀ field ∈ fields, field.2.LeapsEndMinutes)
  | [], _, _, _ => by simp [sameFields]
  | (name, shape) :: rest, storable, others, areFields => by
      rw [List.forall_mem_cons] at storable areFields
      simp [sameFields, areFields.1, same_settled_iff shape storable.1,
        sameFields_settled_iff rest storable.2 others areFields.2]
termination_by structural fields => fields

theorem sameSlots_settled_iff : (slots : List Shape) → (∀ slot ∈ slots, slot.IsStorable) →
    (sameSlots slots (settledSlots slots) = true ↔ ∀ slot ∈ slots, slot.LeapsEndMinutes)
  | [], _ => by simp [settledSlots, sameSlots]
  | slot :: rest, storable => by
      rw [List.forall_mem_cons] at storable
      simp [settledSlots, sameSlots, same_settled_iff slot storable.1,
        sameSlots_settled_iff rest storable.2]
termination_by structural slots => slots

theorem sameVariants_settled_iff : (variants : List (String × ObjectShape)) →
    (∀ variant ∈ variants, (object variant.2).IsStorable) →
      ∀ others : List (String × ObjectShape),
        (∀ variant ∈ variants, others.lookup variant.1 = some (settledObject variant.2)) →
          (sameVariants variants others = true ↔
            ∀ variant ∈ variants, (object variant.2).LeapsEndMinutes)
  | [], _, _, _ => by simp [sameVariants]
  | (tag, record) :: rest, storable, others, areVariants => by
      rw [List.forall_mem_cons] at storable areVariants
      simp [sameVariants, areVariants.1, sameObject_settled_iff record storable.1,
        sameVariants_settled_iff rest storable.2 others areVariants.2]
termination_by structural variants => variants

end

/-! ### Order -/

mutual

/-- A shape without the defaults of its leaves.  Of everything else the order is left as it is. -/
def withoutDefaults : Shape → Shape
  | leaf scalar => leaf ⟨scalar.kind, scalar.acceptance, none, none⟩
  | object record => object (objectWithoutDefaults record)
  | array element acceptance => array (withoutDefaults element) acceptance
  | keyValue key value acceptance =>
      keyValue (withoutDefaults key) (withoutDefaults value) acceptance
  | tuple slots acceptance => tuple (slotsWithoutDefaults slots) acceptance
  | typed rules shared variants =>
      typed rules (fieldsWithoutDefaults shared) (variantsWithoutDefaults variants)
  | any => any
  | skip acceptance => skip acceptance
termination_by structural shape => shape

/-- An object without the defaults in its fields. -/
def objectWithoutDefaults : ObjectShape → ObjectShape
  | .record fields rules => .record (fieldsWithoutDefaults fields) rules
termination_by structural record => record

/-- Fields without the defaults in them. -/
def fieldsWithoutDefaults : List (String × Shape) → List (String × Shape)
  | [] => []
  | (name, shape) :: rest => (name, withoutDefaults shape) :: fieldsWithoutDefaults rest
termination_by structural fields => fields

/-- Slots without the defaults in them. -/
def slotsWithoutDefaults : List Shape → List Shape
  | [] => []
  | slot :: rest => withoutDefaults slot :: slotsWithoutDefaults rest
termination_by structural slots => slots

/-- Types without the defaults in their objects. -/
def variantsWithoutDefaults : List (String × ObjectShape) → List (String × ObjectShape)
  | [] => []
  | (tag, record) :: rest => (tag, objectWithoutDefaults record) :: variantsWithoutDefaults rest
termination_by structural variants => variants

end

mutual

/-- Nothing but defaults is changed in a settled shape. -/
theorem withoutDefaults_settled : (shape : Shape) →
    shape.settled.withoutDefaults = shape.withoutDefaults
  | leaf _ | any | skip _ => rfl
  | object record => by
      simp only [settled, withoutDefaults, objectWithoutDefaults_settled record]
  | array element acceptance => by
      simp only [settled, withoutDefaults, withoutDefaults_settled element]
  | keyValue key value acceptance => by
      simp only [settled, withoutDefaults, withoutDefaults_settled key,
        withoutDefaults_settled value]
  | tuple slots acceptance => by
      simp only [settled, withoutDefaults, slotsWithoutDefaults_settled slots]
  | typed rules shared variants => by
      simp only [settled, withoutDefaults, fieldsWithoutDefaults_settled shared,
        variantsWithoutDefaults_settled variants]
termination_by structural shape => shape

theorem objectWithoutDefaults_settled : (record : ObjectShape) →
    objectWithoutDefaults (settledObject record) = objectWithoutDefaults record
  | .record fields rules => by
      simp only [settledObject, objectWithoutDefaults, fieldsWithoutDefaults_settled fields]
termination_by structural record => record

theorem fieldsWithoutDefaults_settled : (fields : List (String × Shape)) →
    fieldsWithoutDefaults (settledFields fields) = fieldsWithoutDefaults fields
  | [] => rfl
  | (name, shape) :: rest => by
      simp only [settledFields, fieldsWithoutDefaults, withoutDefaults_settled shape,
        fieldsWithoutDefaults_settled rest]
termination_by structural fields => fields

theorem slotsWithoutDefaults_settled : (slots : List Shape) →
    slotsWithoutDefaults (settledSlots slots) = slotsWithoutDefaults slots
  | [] => rfl
  | slot :: rest => by
      simp only [settledSlots, slotsWithoutDefaults, withoutDefaults_settled slot,
        slotsWithoutDefaults_settled rest]
termination_by structural slots => slots

theorem variantsWithoutDefaults_settled : (variants : List (String × ObjectShape)) →
    variantsWithoutDefaults (settledVariants variants) = variantsWithoutDefaults variants
  | [] => rfl
  | (tag, record) :: rest => by
      simp only [settledVariants, variantsWithoutDefaults, objectWithoutDefaults_settled record,
        variantsWithoutDefaults_settled rest]
termination_by structural variants => variants

end

end Shape

end JsonTables
