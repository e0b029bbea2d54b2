import JsonTables.Proofs.LookedUp
import JsonTables.Proofs.ShapeInduction
import JsonTables.Shape.Read

/-!
# Looser shapes

A shape is loosened by accepting more anywhere in it: absent values, kinds of tokens,
entries of no field, types that are not known, a field that is repeated.  Its parts,
their names and what stands for null or for an absent value stay as they are, and so do
its columns.
-/

namespace JsonTables

/-- Whether what is accepted is accepted too by another acceptance. -/
structure Acceptance.LoosensTo (first second : Acceptance) : Prop where
  missing : first.allowMissing = true → second.allowMissing = true
  desired : ∀ kind, first.desired.contains kind = true → second.desired.contains kind = true

/-- Whether a policy is kept, or repeated fields are no longer refused. -/
def RepeatPolicy.LoosensTo (first second : RepeatPolicy) : Prop :=
  second = first ∨ second = .useFirst

/-- Whether a field is found under the same names, with a policy that is as loose; where
a matching has no policy, it is that of the object. -/
structure FieldMatching.LoosensTo (first second : FieldMatching)
    (repeats otherRepeats : RepeatPolicy) : Prop where
  aliases : second.aliases = first.aliases
  ignoresCase : second.ignoresCase = first.ignoresCase
  repeats : (first.repeats.getD repeats).LoosensTo (second.repeats.getD otherRepeats)

theorem FieldMatching.LoosensTo.accepts {matching other : FieldMatching}
    {repeats otherRepeats : RepeatPolicy} (loosens : matching.LoosensTo other repeats otherRepeats)
    (name key : String) : other.accepts name key = matching.accepts name key := by
  simp only [FieldMatching.accepts, FieldMatching.names, loosens.aliases, loosens.ignoresCase]

/-- Whether the rules of an object with some fields are loosened. -/
structure ObjectRules.LoosensTo (names : List String) (first second : ObjectRules) : Prop where
  unknown : first.allowUnknown = true → second.allowUnknown = true
  acceptance : first.acceptance.LoosensTo second.acceptance
  matching : ∀ name ∈ names,
    (ObjectShape.matchingIn first.matching name).LoosensTo
      (ObjectShape.matchingIn second.matching name) first.repeats second.repeats

/-- Whether the rules of an object with a type are loosened. -/
structure VariantRules.LoosensTo (first second : VariantRules) : Prop where
  typeField : second.typeField = first.typeField
  unknown : first.allowUnknown = true → second.allowUnknown = true
  acceptance : first.acceptance.LoosensTo second.acceptance
  repeats : first.repeats.LoosensTo second.repeats

/-- Whether a leaf accepts more, and is otherwise the same. -/
def Leaf.LoosensTo (first second : Leaf) : Prop :=
  ∃ acceptance, first.acceptance.LoosensTo acceptance ∧ second = { first with acceptance }

namespace Shape

mutual

/-- Whether a shape has the parts, the names and the defaults of another and is as loose
everywhere. -/
def LoosensTo : Shape → Shape → Prop
  | leaf first, leaf second => first.LoosensTo second
  | object first, object second => ObjectLoosensTo first second
  | array first firstAcceptance, array second secondAcceptance =>
      first.LoosensTo second ∧ firstAcceptance.LoosensTo secondAcceptance
  | keyValue firstKey firstValue firstAcceptance,
      keyValue secondKey secondValue secondAcceptance =>
      firstKey.LoosensTo secondKey ∧ firstValue.LoosensTo secondValue
        ∧ firstAcceptance.LoosensTo secondAcceptance
  | tuple first firstAcceptance, tuple second secondAcceptance =>
      SlotsLoosenTo first second ∧ firstAcceptance.LoosensTo secondAcceptance
  | typed firstRules firstShared first, typed secondRules secondShared second =>
      firstRules.LoosensTo secondRules ∧ FieldsLoosenTo firstShared secondShared
        ∧ VariantsLoosenTo first second
  | any, any => True
  | skip first, skip second => first.LoosensTo second
  | _, _ => False
termination_by structural first => first

/-- Whether an object has the fields of another, each as loose. -/
def ObjectLoosensTo : ObjectShape → ObjectShape → Prop
  | .record first firstRules, .record second secondRules =>
      FieldsLoosenTo first second ∧ firstRules.LoosensTo (first.map (·.1)) secondRules
termination_by structural first => first

/-- Whether fields have the names of others and shapes that are as loose. -/
def FieldsLoosenTo : List (String × Shape) → List (String × Shape) → Prop
  | [], [] => True
  | (firstName, first) :: rest, (secondName, second) :: others =>
      secondName = firstName ∧ first.LoosensTo second ∧ FieldsLoosenTo rest others
  | _, _ => False
termination_by structural first => first

/-- `LoosensTo` slot by slot. -/
def SlotsLoosenTo : List Shape → List Shape → Prop
  | [], [] => True
  | first :: rest, second :: others => first.LoosensTo second ∧ SlotsLoosenTo rest others
  | _, _ => False
termination_by structural first => first

/-- Whether types have the names of others and objects that are as loose. -/
def VariantsLoosenTo : List (String × ObjectShape) → List (String × ObjectShape) → Prop
  | [], [] => True
  | (firstTag, first) :: rest, (secondTag, second) :: others =>
      secondTag = firstTag ∧ ObjectLoosensTo first second ∧ VariantsLoosenTo rest others
  | _, _ => False
termination_by structural first => first

end

/-- Whether another reading gives the cells of one, wherever that gives any. -/
def ReadKept (read other : Path → Option Json → Row) : Prop :=
  ∀ ⦃path value? cells⦄, read path value? = .ok cells → other path value? = .ok cells

/-- Whether another shape has the columns of one and reads all that it reads. -/
structure KeptBy (shape other : Shape) : Prop where
  columns : other.columns = shape.columns
  read : ReadKept shape.read other.read

/-- Whether other fields have the names of some and keep what they read. -/
def FieldsKeptBy (fields others : List (String × Shape)) : Prop :=
  List.Forall₂ (fun field other => other.1 = field.1 ∧ field.2.KeptBy other.2) fields others

/-- Whether another object has the fields of one, keeps what they read, and loosens
its rules. -/
structure ObjectKeptBy (record other : ObjectShape) : Prop where
  fields : FieldsKeptBy record.fields other.fields
  rules : record.rules.LoosensTo (record.fields.map (·.1)) other.rules

/-- Whether other types have the names of some and keep what their fields read. -/
def VariantsKeptBy (variants others : List (String × ObjectShape)) : Prop :=
  List.Forall₂ (fun variant other => other.1 = variant.1 ∧ ObjectKeptBy variant.2 other.2)
    variants others

/-! ### Lists of shapes -/

theorem fieldsLoosenTo_iff {fields others : List (String × Shape)} :
    FieldsLoosenTo fields others ↔
      List.Forall₂ (fun field other => other.1 = field.1 ∧ field.2.LoosensTo other.2)
        fields others := by
  induction fields generalizing others with
  | nil => cases others <;> simp [FieldsLoosenTo]
  | cons field rest ih =>
      cases others with
      | nil => simp [FieldsLoosenTo]
      | cons other others => simp [FieldsLoosenTo, ih, and_assoc]

theorem slotsLoosenTo_iff {slots others : List Shape} :
    SlotsLoosenTo slots others ↔ List.Forall₂ LoosensTo slots others := by
  induction slots generalizing others with
  | nil => cases others <;> simp [SlotsLoosenTo]
  | cons slot rest ih =>
      cases others with
      | nil => simp [SlotsLoosenTo]
      | cons other others => simp [SlotsLoosenTo, ih]

theorem variantsLoosenTo_iff {variants others : List (String × ObjectShape)} :
    VariantsLoosenTo variants others ↔
      List.Forall₂ (fun variant other => other.1 = variant.1 ∧ ObjectLoosensTo variant.2 other.2)
        variants others := by
  induction variants generalizing others with
  | nil => cases others <;> simp [VariantsLoosenTo]
  | cons variant rest ih =>
      cases others with
      | nil => simp [VariantsLoosenTo]
      | cons other others => simp [VariantsLoosenTo, ih, and_assoc]

theorem fieldsKeptBy_of_loosenTo {fields others : List (String × Shape)}
    (kept : ∀ field ∈ fields, ∀ other, field.2.LoosensTo other → field.2.KeptBy other)
    (loosen : FieldsLoosenTo fields others) : FieldsKeptBy fields others := by
  rw [fieldsLoosenTo_iff] at loosen
  apply ((List.forall₂_and_left fields others).mpr ⟨kept, loosen⟩).imp
  rintro field other ⟨fieldKept, sameName, loosens⟩
  exact ⟨sameName, fieldKept other.2 loosens⟩

theorem slotsKeptBy_of_loosenTo {slots others : List Shape}
    (kept : ∀ slot ∈ slots, ∀ other, slot.LoosensTo other → slot.KeptBy other)
    (loosen : SlotsLoosenTo slots others) : List.Forall₂ KeptBy slots others := by
  rw [slotsLoosenTo_iff] at loosen
  apply ((List.forall₂_and_left slots others).mpr ⟨kept, loosen⟩).imp
  rintro slot other ⟨slotKept, loosens⟩
  exact slotKept other loosens

theorem objectKeptBy_of_loosensTo {record other : ObjectShape}
    (kept : ∀ field ∈ record.fields, ∀ other, field.2.LoosensTo other → field.2.KeptBy other)
    (loosens : ObjectLoosensTo record other) : ObjectKeptBy record other := by
  rcases record with ⟨fields, rules⟩
  rcases other with ⟨others, otherRules⟩
  simp only [ObjectLoosensTo] at loosens
  exact ⟨fieldsKeptBy_of_loosenTo kept loosens.1, loosens.2⟩

theorem variantsKeptBy_of_loosenTo {variants others : List (String × ObjectShape)}
    (kept : ∀ variant ∈ variants, ∀ field ∈ variant.2.fields, ∀ other,
      field.2.LoosensTo other → field.2.KeptBy other)
    (loosen : VariantsLoosenTo variants others) : VariantsKeptBy variants others := by
  rw [variantsLoosenTo_iff] at loosen
  apply ((List.forall₂_and_left variants others).mpr ⟨kept, loosen⟩).imp
  rintro variant other ⟨fieldsKept, sameTag, loosens⟩
  exact ⟨sameTag, objectKeptBy_of_loosensTo fieldsKept loosens⟩

/-! ### Columns -/

theorem FieldsKeptBy.columns {fields others : List (String × Shape)}
    (kept : FieldsKeptBy fields others) : fieldColumns others = fieldColumns fields :=
  fieldColumns_of_forall₂ KeptBy.columns kept

theorem FieldsKeptBy.names {fields others : List (String × Shape)}
    (kept : FieldsKeptBy fields others) : others.map (·.1) = fields.map (·.1) :=
  names_of_forall₂ kept

theorem ObjectKeptBy.columns {record other : ObjectShape} (kept : ObjectKeptBy record other) :
    objectColumns other = objectColumns record := by
  rcases record with ⟨fields, rules⟩
  rcases other with ⟨others, otherRules⟩
  simp only [objectColumns]
  exact kept.fields.columns

theorem VariantsKeptBy.columns {variants others : List (String × ObjectShape)}
    (kept : VariantsKeptBy variants others) : variantColumns others = variantColumns variants :=
  variantColumns_of_forall₂ ObjectKeptBy.columns kept

end Shape

end JsonTables
