import JsonTables.Proofs.LookedUp
import JsonTables.Proofs.MirroredValues

/-!
# Shapes that are the same

Shapes are the same whatever the order of their fields, of the types of objects, and of the ways
in which fields are found.  The columns of a shape are in the order of its fields, though, and so
are the faults of a value that has several.  Shapes that are the same and list their fields and
types in one order, at every depth, have the same columns and read every value alike.
-/

namespace JsonTables

/-! ### Cells -/

/-- Whether two cells are one, or the same, or arrays of cells that are alike. -/
inductive Cell.Alike : Cell → Cell → Prop
  | refl (cell : Cell) : Alike cell cell
  | same {first second : Cell} (areSame : first.same second = true) : Alike first second
  | array (type : DataType) {firsts seconds : List Cell}
      (alike : List.Forall₂ Alike firsts seconds) :
      Alike (.array type firsts) (.array type seconds)

namespace Shape

theorem alike_refl (cells : List Cell) : List.Forall₂ Cell.Alike cells cells :=
  List.forall₂_same.mpr fun cell _ => .refl cell

theorem heads_alike {rows others : List (List Cell)}
    (alike : List.Forall₂ (List.Forall₂ Cell.Alike) rows others) :
    List.Forall₂ Cell.Alike (rows.filterMap List.head?) (others.filterMap List.head?) := by
  induction alike with
  | nil => exact .nil
  | cons first _ ih =>
      cases first with
      | nil => exact ih
      | cons cell _ => exact .cons cell ih

theorem tails_alike {rows others : List (List Cell)}
    (alike : List.Forall₂ (List.Forall₂ Cell.Alike) rows others) :
    List.Forall₂ (List.Forall₂ Cell.Alike) (rows.map List.tail) (others.map List.tail) := by
  rw [List.forall₂_map_left_iff, List.forall₂_map_right_iff]
  apply alike.imp
  intro row other rowAlike
  cases rowAlike with
  | nil => exact .nil
  | cons _ rest => exact rest

/-- Rows that are alike make arrays that are alike. -/
theorem arrayCells_alike (columns : List ShapeColumn) {rows others : List (List Cell)}
    (alike : List.Forall₂ (List.Forall₂ Cell.Alike) rows others) :
    List.Forall₂ Cell.Alike (arrayCells columns rows) (arrayCells columns others) := by
  induction columns generalizing rows others with
  | nil => exact .nil
  | cons column rest ih =>
      exact .cons (.array column.type (heads_alike alike)) (ih (tails_alike alike))

end Shape

/-! ### Leaves -/

/-- Leaves that are the same read a value to cells that are alike, or fail alike. -/
theorem Leaf.read_of_same {leaf other : Leaf} (areSame : leaf.same other = true) (path : Path)
    (value? : Option Json) :
    Except.Rel Eq Cell.Alike (leaf.read path value?) (other.read path value?) := by
  rcases leaf with ⟨kind, acceptance, onNull, onMissing⟩
  rcases other with ⟨otherKind, otherAcceptance, otherOnNull, otherOnMissing⟩
  simp only [Leaf.same, Leaf.sameValue, Bool.and_eq_true, beq_iff_eq] at areSame
  rcases areSame with ⟨⟨⟨rfl, rfl⟩, nullsSame⟩, missingSame⟩
  unfold Leaf.read
  dsimp only
  split
  · split
    · exact .ok (.same missingSame)
    · exact .error rfl
  · split
    · exact .ok (.same nullsSame)
    · exact .error rfl
  · rename_i value _
    by_cases accepted : acceptance.desired.contains value.kind = true
    · rw [if_pos accepted, if_pos accepted]
      cases readValue (acceptance.desired.contains .decimal) value kind with
      | error fault => exact .error rfl
      | ok scalar => exact .ok (.refl _)
    · rw [if_neg accepted, if_neg accepted]
      exact .error rfl

namespace Shape

/-! ### Names -/

/-- Whether no two fields or types of a shape have one name, nor two ways of finding fields. -/
def NamesDiffer : Shape → Prop
  | object record =>
      (record.fields.map (·.1)).Nodup ∧ (record.rules.matching.map (·.1)).Nodup
  | typed _ shared variants => (shared.map (·.1)).Nodup ∧ (variants.map (·.1)).Nodup
  | _ => True

/-- Whether the names in every node of a shape differ. -/
def HasDistinctNames (shape : Shape) : Prop :=
  ∀ node, IsNodeOf node shape → node.NamesDiffer

theorem hasDistinctNames_iff {shape : Shape} : shape.HasDistinctNames ↔
    shape.NamesDiffer ∧ ∀ part ∈ shape.parts, part.HasDistinctNames :=
  forall_isNodeOf_iff

theorem HasDistinctNames.part {part shape : Shape} (distinct : shape.HasDistinctNames)
    (partMem : part ∈ shape.parts) : part.HasDistinctNames :=
  (hasDistinctNames_iff.mp distinct).2 part partMem

mutual

/-- Whether shapes that are built alike list their fields and types in one order, at every
depth. -/
def ListsAlike : Shape → Shape → Prop
  | object first, object second => ObjectListsAlike first second
  | array first _, array second _ => first.ListsAlike second
  | keyValue firstKey firstValue _, keyValue secondKey secondValue _ =>
      firstKey.ListsAlike secondKey ∧ firstValue.ListsAlike secondValue
  | tuple first _, tuple second _ => SlotsListAlike first second
  | typed _ firstShared first, typed _ secondShared second =>
      FieldsListAlike firstShared secondShared ∧ VariantsListAlike first second
  | _, _ => True
termination_by structural first => first

/-- `ListsAlike` for the fields of objects. -/
def ObjectListsAlike : ObjectShape → ObjectShape → Prop
  | .record first _, second => FieldsListAlike first second.fields
termination_by structural first => first

/-- Whether fields have the names of others in their order, and shapes that list alike. -/
def FieldsListAlike : List (String × Shape) → List (String × Shape) → Prop
  | [], [] => True
  | (firstName, first) :: rest, (secondName, second) :: others =>
      secondName = firstName ∧ first.ListsAlike second ∧ FieldsListAlike rest others
  | _, _ => False
termination_by structural first => first

/-- `ListsAlike` slot by slot. -/
def SlotsListAlike : List Shape → List Shape → Prop
  | [], [] => True
  | first :: rest, second :: others => first.ListsAlike second ∧ SlotsListAlike rest others
  | _, _ => False
termination_by structural first => first

/-- Whether types have the names of others in their order, and objects that list alike. -/
def VariantsListAlike : List (String × ObjectShape) → List (String × ObjectShape) → Prop
  | [], [] => True
  | (firstTag, first) :: rest, (secondTag, second) :: others =>
      secondTag = firstTag ∧ ObjectListsAlike first second ∧ VariantsListAlike rest others
  | _, _ => False
termination_by structural first => first

end

theorem fieldsListAlike_iff {fields others : List (String × Shape)} :
    FieldsListAlike fields others ↔
      List.Forall₂ (fun field other => other.1 = field.1 ∧ field.2.ListsAlike other.2)
        fields others := by
  induction fields generalizing others with
  | nil => cases others <;> simp [FieldsListAlike]
  | cons field rest ih =>
      cases others with
      | nil => simp [FieldsListAlike]
      | cons other others => simp [FieldsListAlike, ih, and_assoc]

theorem variantsListAlike_iff {variants others : List (String × ObjectShape)} :
    VariantsListAlike variants others ↔
      List.Forall₂ (fun variant other => other.1 = variant.1 ∧ ObjectListsAlike variant.2 other.2)
        variants others := by
  induction variants generalizing others with
  | nil => cases others <;> simp [VariantsListAlike]
  | cons variant rest ih =>
      cases others with
      | nil => simp [VariantsListAlike]
      | cons other others => simp [VariantsListAlike, ih, and_assoc]

/-! ### Sameness by names -/

theorem sameFields_iff {fields others : List (String × Shape)} :
    sameFields fields others = true ↔ ∀ field ∈ fields, ∃ other,
      others.lookup field.1 = some other ∧ field.2.same other = true := by
  induction fields with
  | nil => simp [sameFields]
  | cons field rest ih =>
      rw [List.forall_mem_cons, ← ih, sameFields, Bool.and_eq_true]
      apply and_congr_left
      intro _
      cases others.lookup field.1 <;> simp

theorem sameVariants_iff {variants others : List (String × ObjectShape)} :
    sameVariants variants others = true ↔ ∀ variant ∈ variants, ∃ other,
      others.lookup variant.1 = some other ∧ sameObject variant.2 other = true := by
  induction variants with
  | nil => simp [sameVariants]
  | cons variant rest ih =>
      rw [List.forall_mem_cons, ← ih, sameVariants, Bool.and_eq_true]
      apply and_congr_left
      intro _
      cases others.lookup variant.1 <;> simp

/-- What is looked up under different names, which others list in the same order, is what is at
the same place. -/
theorem forall₂_of_lookup {α : Type} {related : String × α → α → Prop}
    {alike : String × α → String × α → Prop} {entries others : List (String × α)}
    (differ : (entries.map (·.1)).Nodup)
    (inOrder : List.Forall₂ (fun entry other => other.1 = entry.1 ∧ alike entry other)
      entries others)
    (areRelated : ∀ entry ∈ entries, ∃ other,
      others.lookup entry.1 = some other ∧ related entry other) :
    List.Forall₂ (fun entry other => other.1 = entry.1 ∧ related entry other.2 ∧ alike entry other)
      entries others := by
  induction inOrder with
  | nil => exact .nil
  | @cons entry other rest others first _ ih =>
      rcases other with ⟨name, other⟩
      obtain rfl : name = entry.1 := first.1
      rw [List.forall_mem_cons] at areRelated
      rcases List.nodup_cons.mp differ with ⟨notAgain, restDiffer⟩
      rcases areRelated with ⟨⟨found, isFound, isRelated⟩, restRelated⟩
      have isOther : other = found := by simpa using isFound
      refine .cons ⟨rfl, isOther ▸ isRelated, first.2⟩ (ih restDiffer ?_)
      intro later laterMem
      have isLater : later.1 ≠ entry.1 := by
        intro sameName
        have again : later.1 ∈ rest.map (·.1) := List.mem_map_of_mem laterMem
        rw [sameName] at again
        exact notAgain again
      rcases restRelated later laterMem with ⟨found, isFound, isRelated⟩
      rw [List.lookup_cons, beq_eq_false_iff_ne.mpr isLater] at isFound
      exact ⟨found, isFound, isRelated⟩

/-- Entries with different names, all of which are found among as many others, are all that is
found there. -/
theorem lookup_eq_of_included {α : Type} {entries others : List (String × α)}
    (differ : (entries.map (·.1)).Nodup) (sameLength : entries.length = others.length)
    (included : ∀ entry ∈ entries, others.lookup entry.1 = some entry.2) (name : String) :
    others.lookup name = entries.lookup name := by
  cases found : entries.lookup name with
  | some value => exact included _ (mem_of_lookup found)
  | none =>
      rw [lookup_eq_none_iff] at found ⊢
      have allThere : entries.map (·.1) ⊆ others.map (·.1) := by
        intro key keyMem
        rcases List.mem_map.mp keyMem with ⟨entry, entryMem, rfl⟩
        exact List.mem_map_of_mem (mem_of_lookup (included entry entryMem))
      have permuted : (entries.map (·.1)).Perm (others.map (·.1)) :=
        (List.subperm_of_subset differ allThere).perm_of_length_le (by simp [sameLength])
      rwa [← permuted.mem_iff]

/-! ### Readings -/

/-- Whether another reading gives cells that are alike, and the same faults. -/
def ReadsLike (read other : Path → Option Json → Row) : Prop :=
  ∀ path value?, Except.Rel Eq (List.Forall₂ Cell.Alike) (read path value?) (other path value?)

/-- Whether another shape has the columns of one and reads every value alike. -/
structure BehavesAs (shape other : Shape) : Prop where
  columns : other.columns = shape.columns
  read : ReadsLike shape.read other.read

/-- Whether other fields have the names of some and behave as they do. -/
def FieldsBehaveAs (fields others : List (String × Shape)) : Prop :=
  List.Forall₂ (fun field other => other.1 = field.1 ∧ field.2.BehavesAs other.2) fields others

/-- Whether the fields of another object behave as those of one, and are found alike. -/
structure ObjectBehavesAs (record other : ObjectShape) : Prop where
  fields : FieldsBehaveAs record.fields other.fields
  matching : ∀ name,
    other.rules.matching.lookup name = record.rules.matching.lookup name
  unknown : other.rules.allowUnknown = record.rules.allowUnknown
  acceptance : other.rules.acceptance = record.rules.acceptance
  repeats : other.rules.repeats = record.rules.repeats

/-- Whether other types have the names of some and objects that behave as theirs do. -/
def VariantsBehaveAs (variants others : List (String × ObjectShape)) : Prop :=
  List.Forall₂ (fun variant other => other.1 = variant.1 ∧ ObjectBehavesAs variant.2 other.2)
    variants others

theorem FieldsBehaveAs.columns {fields others : List (String × Shape)}
    (behave : FieldsBehaveAs fields others) : fieldColumns others = fieldColumns fields :=
  fieldColumns_of_forall₂ BehavesAs.columns behave

theorem FieldsBehaveAs.names {fields others : List (String × Shape)}
    (behave : FieldsBehaveAs fields others) : others.map (·.1) = fields.map (·.1) :=
  names_of_forall₂ behave

theorem ObjectBehavesAs.columns {record other : ObjectShape}
    (behaves : ObjectBehavesAs record other) : objectColumns other = objectColumns record := by
  rcases record with ⟨fields, rules⟩
  rcases other with ⟨others, otherRules⟩
  exact behaves.fields.columns

theorem VariantsBehaveAs.columns {variants others : List (String × ObjectShape)}
    (behave : VariantsBehaveAs variants others) :
    variantColumns others = variantColumns variants :=
  variantColumns_of_forall₂ ObjectBehavesAs.columns behave

theorem ObjectBehavesAs.matchingIn {record other : ObjectShape}
    (behaves : ObjectBehavesAs record other) (name : String) :
    ObjectShape.matchingIn other.rules.matching name =
      ObjectShape.matchingIn record.rules.matching name := by
  rw [ObjectShape.matchingIn, ObjectShape.matchingIn, behaves.matching]

theorem ObjectBehavesAs.knows {record other : ObjectShape}
    (behaves : ObjectBehavesAs record other) (key : String) :
    other.knows key = record.knows key := by
  have byName : ∀ record : ObjectShape, record.knows key = (record.fields.map (·.1)).any
      fun name => (ObjectShape.matchingIn record.rules.matching name).accepts name key := by
    intro record
    simp only [ObjectShape.knows, List.any_map, Function.comp_def]
  simp only [byName, behaves.fields.names, behaves.matchingIn]

theorem append_alike {cells others rest otherRest : List Cell}
    (alike : List.Forall₂ Cell.Alike cells others)
    (restAlike : List.Forall₂ Cell.Alike rest otherRest) :
    List.Forall₂ Cell.Alike (cells ++ rest) (others ++ otherRest) :=
  List.rel_append alike restAlike

theorem readItems_like {read other : Path → Option Json → Row} (like : ReadsLike read other)
    (path : Path) (position : Nat) (items : List Json) :
    Except.Rel Eq (List.Forall₂ (List.Forall₂ Cell.Alike)) (readItems read path position items)
      (readItems other path position items) := by
  induction items generalizing position with
  | nil => exact .ok .nil
  | cons item rest ih =>
      simp only [readItems]
      refine (like _ _).bind ?_
      intro row other _ rowAlike
      refine (ih (position + 1)).bind ?_
      intro rows others _ rowsAlike
      exact .ok (.cons rowAlike rowsAlike)

theorem readEntries_like {readKey otherKey readValue otherValue : Path → Option Json → Row}
    (keyLike : ReadsLike readKey otherKey) (valueLike : ReadsLike readValue otherValue)
    (path : Path) (entries : List (String × Json)) :
    Except.Rel Eq
      (fun rows others => List.Forall₂ (List.Forall₂ Cell.Alike) rows.1 others.1 ∧
        List.Forall₂ (List.Forall₂ Cell.Alike) rows.2 others.2)
      (readEntries readKey readValue path entries)
      (readEntries otherKey otherValue path entries) := by
  induction entries with
  | nil => exact .ok ⟨.nil, .nil⟩
  | cons entry rest ih =>
      simp only [readEntries]
      refine (keyLike _ _).bind ?_
      intro keyRow otherKeyRow _ keyAlike
      refine (valueLike _ _).bind ?_
      intro valueRow otherValueRow _ valueAlike
      refine ih.bind ?_
      intro rows others _ rowsAlike
      exact .ok ⟨.cons keyAlike rowsAlike.1, .cons valueAlike rowsAlike.2⟩

theorem readFields_like {fields others : List (String × Shape)}
    (behave : FieldsBehaveAs fields others) {matching otherMatching : List (String × FieldMatching)}
    (sameMatching : ∀ name,
      ObjectShape.matchingIn otherMatching name = ObjectShape.matchingIn matching name)
    (repeats : RepeatPolicy) (path : Path) (entries : List (String × Json)) :
    Except.Rel Eq (List.Forall₂ Cell.Alike) (readFields fields matching repeats path entries)
      (readFields others otherMatching repeats path entries) := by
  induction behave with
  | nil => exact .ok .nil
  | cons first _ ih =>
      simp only [readFields, first.1, sameMatching]
      refine (Except.Rel.refl (fun _ => rfl) _).bind ?_
      rintro found _ _ rfl
      refine (first.2.read _ _).bind ?_
      intro cells others _ alike
      refine ih.bind ?_
      intro rest otherRest _ restAlike
      exact .ok (append_alike alike restAlike)

theorem readAlike_like {fields others : List (String × Shape)}
    (behave : FieldsBehaveAs fields others) (path : Path) (value? : Option Json) :
    Except.Rel Eq (List.Forall₂ Cell.Alike) (readAlike fields path value?)
      (readAlike others path value?) := by
  induction behave with
  | nil => exact .ok .nil
  | cons first _ ih =>
      simp only [readAlike, first.1]
      refine (first.2.read _ _).bind ?_
      intro cells others _ alike
      refine ih.bind ?_
      intro rest otherRest _ restAlike
      exact .ok (append_alike alike restAlike)

theorem readSlots_like {slots others : List Shape} (behave : List.Forall₂ BehavesAs slots others)
    (path : Path) (position : Nat) (values : List (Option Json)) :
    Except.Rel Eq (List.Forall₂ Cell.Alike) (readSlots slots path position values)
      (readSlots others path position values) := by
  induction behave generalizing position values with
  | nil => exact .ok .nil
  | cons first _ ih =>
      cases values with
      | nil => exact .ok .nil
      | cons value? values =>
          simp only [readSlots]
          refine (first.read _ _).bind ?_
          intro cells others _ alike
          refine (ih (position + 1) values).bind ?_
          intro rest otherRest _ restAlike
          exact .ok (append_alike alike restAlike)

theorem readOwnFields_like {record other : ObjectShape} (behaves : ObjectBehavesAs record other)
    (path : Path) (entries : List (String × Json)) :
    Except.Rel Eq (List.Forall₂ Cell.Alike) (readOwnFields record path entries)
      (readOwnFields other path entries) := by
  rcases record with ⟨fields, rules⟩
  rcases other with ⟨others, otherRules⟩
  have sameRepeats : otherRules.repeats = rules.repeats := behaves.repeats
  rw [readOwnFields, readOwnFields, sameRepeats]
  exact readFields_like behaves.fields behaves.matchingIn rules.repeats path entries

theorem readVariants_like {variants others : List (String × ObjectShape)}
    (behave : VariantsBehaveAs variants others) (tag : String) (path : Path)
    (entries : List (String × Json)) :
    Except.Rel Eq (List.Forall₂ Cell.Alike) (readVariants variants tag path entries)
      (readVariants others tag path entries) := by
  induction behave with
  | nil => exact .ok .nil
  | @cons variant other _ _ first _ ih =>
      rcases variant with ⟨name, record⟩
      rcases other with ⟨otherName, otherRecord⟩
      rcases first with ⟨sameName, behaves⟩
      obtain rfl : otherName = name := sameName
      by_cases isTag : otherName = tag
      · simp only [readVariants, if_pos isTag]
        refine (readOwnFields_like behaves path entries).bind ?_
        intro cells others _ alike
        refine ih.bind ?_
        intro rest otherRest _ restAlike
        exact .ok (append_alike alike restAlike)
      · simp only [readVariants, if_neg isTag, pure_bind, objectWidth, behaves.columns]
        refine ih.bind ?_
        intro rest otherRest _ restAlike
        exact .ok (append_alike (alike_refl _) restAlike)

/-! ### Checks -/

/-- What is checked before a value is read depends on the name of a shape and on what it
accepts. -/
theorem checkKind_eq {shape other : Shape} (sameName : other.name = shape.name)
    (sameAcceptance : other.acceptance? = shape.acceptance?) (path : Path)
    (value? : Option Json) : other.checkKind path value? = shape.checkKind path value? := by
  have sameMissing : other.allowMissing = shape.allowMissing := by
    rw [allowMissing, allowMissing, sameAcceptance]
  have sameKinds : ∀ kind, other.accepts kind = shape.accepts kind := by
    intro kind
    rw [accepts, accepts, desired?, desired?, sameAcceptance]
  cases value? with
  | none => rw [checkKind, checkKind, sameMissing, sameName]
  | some value => rw [checkKind, checkKind, sameKinds, sameName]

/-- A check and a step come to the like, if the step does. -/
theorem checked_like {shape other : Shape} (sameName : other.name = shape.name)
    (sameAcceptance : other.acceptance? = shape.acceptance?) {path : Path}
    {value? : Option Json} {α β : Type} {results : α → β → Prop}
    {next : Except ValueError α} {otherNext : Except ValueError β}
    (like : Except.Rel Eq results next otherNext) :
    Except.Rel Eq results (shape.checkKind path value? >>= fun _ => next)
      (other.checkKind path value? >>= fun _ => otherNext) := by
  rw [checkKind_eq sameName sameAcceptance]
  refine (Except.Rel.refl (fun _ => rfl) _).bind ?_
  intro _ _ _ _
  exact like

theorem ObjectBehavesAs.checkKnown {record other : ObjectShape}
    (behaves : ObjectBehavesAs record other) (path : Path) (entries : List (String × Json)) :
    Shape.checkKnown other path entries = Shape.checkKnown record path entries := by
  have sameKnown := behaves.knows
  have sameUnknown := behaves.unknown
  rcases record with ⟨fields, rules⟩
  rcases other with ⟨others, otherRules⟩
  simp only [ObjectShape.rules] at sameUnknown
  simp only [Shape.checkKnown, sameKnown, sameUnknown]

theorem checkEntries_eq {rules : VariantRules} {selected otherSelected : Option ObjectShape}
    (behave : Option.Rel ObjectBehavesAs selected otherSelected) (shared : List String)
    (tag : String) (entries : List (String × Json)) (path : Path) :
    checkEntries rules shared otherSelected tag entries path =
      checkEntries rules shared selected tag entries path := by
  cases behave with
  | none => rfl
  | some behaves => simp only [checkEntries, behaves.unknown, Option.any_some, behaves.knows]

/-! ### Shapes -/

theorem leaf_behaves {scalar other : Leaf} (areSame : scalar.same other = true) :
    (leaf scalar).BehavesAs (leaf other) := by
  constructor
  · have sameKind : scalar.kind = other.kind := by
      simp only [Leaf.same, Bool.and_eq_true, beq_iff_eq] at areSame
      exact areSame.1.1.1
    simp only [columns, sameKind]
  · intro path value?
    simp only [read]
    refine (Leaf.read_of_same areSame path value?).bind ?_
    intro cell another _ alike
    exact .ok (.cons alike .nil)

theorem object_behaves {record other : ObjectShape} (behaves : ObjectBehavesAs record other) :
    (object record).BehavesAs (object other) := by
  constructor
  · exact behaves.columns
  · intro path value?
    have sameName : (object other).name = (object record).name := rfl
    have sameAcceptance : (object other).acceptance? = (object record).acceptance? :=
      congrArg some behaves.acceptance
    have alike : ∀ value?, Except.Rel Eq (List.Forall₂ Cell.Alike)
        (readAlike record.fields path value?) (readAlike other.fields path value?) :=
      readAlike_like behaves.fields path
    simp only [read]
    refine checked_like sameName sameAcceptance ?_
    cases value? with
    | none =>
        rcases record with ⟨fields, rules⟩
        rcases other with ⟨others, otherRules⟩
        exact alike none
    | some value =>
        cases value with
        | object entries =>
            rw [readObject_object, readObject_object, behaves.checkKnown]
            refine (Except.Rel.refl (fun _ => rfl) _).bind ?_
            intro _ _ _ _
            exact readOwnFields_like behaves path entries
        | _ =>
            rcases record with ⟨fields, rules⟩
            rcases other with ⟨others, otherRules⟩
            exact alike _

theorem array_behaves {element other : Shape} (behaves : element.BehavesAs other)
    (acceptance : Acceptance) : (array element acceptance).BehavesAs (array other acceptance) := by
  constructor
  · simp only [columns, behaves.columns]
  · intro path value?
    simp only [read, width, behaves.columns]
    refine checked_like rfl rfl ?_
    split
    · refine (readItems_like behaves.read path 0 _).bind ?_
      intro rows others _ rowsAlike
      exact .ok (arrayCells_alike _ rowsAlike)
    · exact .ok (alike_refl _)

theorem keyValue_behaves {key otherKey value otherValue : Shape}
    (keyBehaves : key.BehavesAs otherKey) (valueBehaves : value.BehavesAs otherValue)
    (acceptance : Acceptance) :
    (keyValue key value acceptance).BehavesAs (keyValue otherKey otherValue acceptance) := by
  constructor
  · simp only [columns, keyBehaves.columns, valueBehaves.columns]
  · intro path value?
    simp only [read, width, keyBehaves.columns, valueBehaves.columns]
    refine checked_like rfl rfl ?_
    split
    · refine (readEntries_like keyBehaves.read valueBehaves.read path _).bind ?_
      rintro ⟨keys, values⟩ ⟨otherKeys, otherValues⟩ _ ⟨keysAlike, valuesAlike⟩
      exact .ok (append_alike (arrayCells_alike _ keysAlike) (arrayCells_alike _ valuesAlike))
    · exact .ok (alike_refl _)

theorem tuple_behaves {slots others : List Shape} (behave : List.Forall₂ BehavesAs slots others)
    (acceptance : Acceptance) : (tuple slots acceptance).BehavesAs (tuple others acceptance) := by
  have sameLength := behave.length_eq
  constructor
  · exact tupleColumns_of_forall₂ BehavesAs.columns behave acceptance acceptance
  · intro path value?
    simp only [read]
    refine checked_like rfl rfl ?_
    split
    · rw [← sameLength]
      split
      · exact readSlots_like behave path 0 _
      · exact .error rfl
    · rw [List.map_const', List.map_const', ← sameLength]
      exact readSlots_like behave path 0 _

theorem typed_behaves {shared others : List (String × Shape)}
    {variants otherVariants : List (String × ObjectShape)}
    (sharedBehave : FieldsBehaveAs shared others)
    (variantsBehave : VariantsBehaveAs variants otherVariants) (rules : VariantRules) :
    (typed rules shared variants).BehavesAs (typed rules others otherVariants) := by
  have sameColumns : columns (typed rules others otherVariants) =
      columns (typed rules shared variants) := by
    simp only [columns, sharedBehave.columns, variantsBehave.columns]
  refine ⟨sameColumns, ?_⟩
  intro path value?
  simp only [read, sameColumns]
  refine checked_like rfl rfl ?_
  split
  · refine (Except.Rel.refl (fun _ => rfl) _).bind ?_
    rintro tag? _ _ rfl
    cases tag? with
    | none => exact .ok (alike_refl _)
    | some tag =>
        simp only [sharedBehave.names, checkEntries_eq (lookup_of_forall₂ variantsBehave tag)]
        refine (Except.Rel.refl (fun _ => rfl) _).bind ?_
        rintro _ _ _ rfl
        refine (readFields_like sharedBehave (fun _ => rfl) _ _ _).bind ?_
        intro sharedCells otherShared _ sharedAlike
        refine (readVariants_like variantsBehave tag path _).bind ?_
        intro cells others _ alike
        exact .ok (.cons (.refl _) (append_alike sharedAlike alike))
  · exact .ok (alike_refl _)

section

variable {fields others : List (String × Shape)}
  (behave : ∀ field ∈ fields, ∀ other, field.2.same other = true → field.2.ListsAlike other →
    field.2.HasDistinctNames → field.2.BehavesAs other)

include behave

theorem fieldsBehaveAs_of_same (differ : (fields.map (·.1)).Nodup)
    (distinct : ∀ field ∈ fields, field.2.HasDistinctNames)
    (areSame : sameFields fields others = true) (listAlike : FieldsListAlike fields others) :
    FieldsBehaveAs fields others := by
  have pairs := forall₂_of_lookup differ (fieldsListAlike_iff.mp listAlike)
    (sameFields_iff.mp areSame)
  apply ((List.forall₂_and_left fields others).mpr
    ⟨fun field fieldMem => And.intro (behave field fieldMem) (distinct field fieldMem), pairs⟩).imp
  rintro field other ⟨⟨fieldBehaves, fieldDistinct⟩, sameName, fieldSame, fieldAlike⟩
  exact ⟨sameName, fieldBehaves other.2 fieldSame fieldAlike fieldDistinct⟩

theorem objectBehavesAs_of_same {rules otherRules : ObjectRules}
    (distinct : (object (.record fields rules)).HasDistinctNames)
    (areSame : sameObject (.record fields rules) (.record others otherRules) = true)
    (listAlike : FieldsListAlike fields others) :
    ObjectBehavesAs (.record fields rules) (.record others otherRules) := by
  have namesDiffer := (hasDistinctNames_iff.mp distinct).1
  simp only [sameObject, Bool.and_eq_true, beq_iff_eq, List.all_eq_true, ObjectShape.fields,
    ObjectShape.rules] at areSame
  rcases areSame with
    ⟨⟨⟨⟨⟨⟨_, fieldsSame⟩, sameUnknown⟩, sameAcceptance⟩, sameRepeats⟩, asMany⟩, included⟩
  constructor
  · apply fieldsBehaveAs_of_same behave namesDiffer.1 ?_ fieldsSame listAlike
    intro field fieldMem
    exact distinct.part (field_mem_parts fieldMem)
  · exact lookup_eq_of_included namesDiffer.2 asMany included
  · exact sameUnknown.symm
  · exact sameAcceptance.symm
  · exact sameRepeats.symm

end

theorem slotsBehave_of_same {slots others : List Shape}
    (behave : ∀ slot ∈ slots, ∀ other, slot.same other = true → slot.ListsAlike other →
      slot.HasDistinctNames → slot.BehavesAs other)
    (distinct : ∀ slot ∈ slots, slot.HasDistinctNames)
    (areSame : sameSlots slots others = true) (listAlike : SlotsListAlike slots others) :
    List.Forall₂ BehavesAs slots others := by
  induction slots generalizing others with
  | nil =>
      cases others with
      | nil => exact .nil
      | cons other others => cases areSame
  | cons slot rest ih =>
      cases others with
      | nil => cases areSame
      | cons other others =>
          rw [List.forall_mem_cons] at behave distinct
          simp only [sameSlots, Bool.and_eq_true] at areSame
          rcases areSame with ⟨slotSame, restSame⟩
          rcases listAlike with ⟨slotAlike, restAlike⟩
          exact .cons (behave.1 other slotSame slotAlike distinct.1)
            (ih behave.2 distinct.2 restSame restAlike)

theorem variantsBehaveAs_of_same {variants others : List (String × ObjectShape)}
    (behave : ∀ variant ∈ variants, ∀ field ∈ variant.2.fields, ∀ other,
      field.2.same other = true → field.2.ListsAlike other → field.2.HasDistinctNames →
        field.2.BehavesAs other)
    (differ : (variants.map (·.1)).Nodup)
    (distinct : ∀ variant ∈ variants, (object variant.2).HasDistinctNames)
    (areSame : sameVariants variants others = true)
    (listAlike : VariantsListAlike variants others) : VariantsBehaveAs variants others := by
  have pairs := forall₂_of_lookup differ (variantsListAlike_iff.mp listAlike)
    (sameVariants_iff.mp areSame)
  apply ((List.forall₂_and_left variants others).mpr
    ⟨fun variant inside => And.intro (behave variant inside) (distinct variant inside), pairs⟩).imp
  rintro ⟨tag, ⟨fields, rules⟩⟩ ⟨otherTag, ⟨others, otherRules⟩⟩
    ⟨⟨fieldsBehave, fieldsDistinct⟩, sameTag, objectSame, fieldsAlike⟩
  exact ⟨sameTag, objectBehavesAs_of_same fieldsBehave fieldsDistinct objectSame fieldsAlike⟩

/-- Shapes that are the same, and list their fields and types in one order, behave alike. -/
theorem behavesAs_of_same (shape : Shape) : ∀ other, shape.same other = true →
    shape.ListsAlike other → shape.HasDistinctNames → shape.BehavesAs other := by
  induction shape with
  | leaf scalar =>
      intro other areSame _ _
      cases other with
      | leaf other =>
          simp only [same] at areSame
          exact leaf_behaves areSame
      | _ => cases areSame
  | object fields rules ih =>
      intro other areSame listAlike distinct
      cases other with
      | object other =>
          rcases other with ⟨others, otherRules⟩
          exact object_behaves (objectBehavesAs_of_same ih distinct areSame listAlike)
      | _ => cases areSame
  | array element acceptance ih =>
      intro other areSame listAlike distinct
      cases other with
      | array other otherAcceptance =>
          simp only [same, Bool.and_eq_true, beq_iff_eq] at areSame
          rcases areSame with ⟨elementSame, rfl⟩
          exact array_behaves (ih other elementSame listAlike (distinct.part (by simp [parts]))) _
      | _ => cases areSame
  | keyValue key value acceptance keyIh valueIh =>
      intro other areSame listAlike distinct
      cases other with
      | keyValue otherKey otherValue otherAcceptance =>
          simp only [same, Bool.and_eq_true, beq_iff_eq] at areSame
          rcases areSame with ⟨⟨keySame, valueSame⟩, rfl⟩
          exact keyValue_behaves
            (keyIh otherKey keySame listAlike.1 (distinct.part (by simp [parts])))
            (valueIh otherValue valueSame listAlike.2 (distinct.part (by simp [parts]))) _
      | _ => cases areSame
  | tuple slots acceptance ih =>
      intro other areSame listAlike distinct
      cases other with
      | tuple others otherAcceptance =>
          simp only [same, Bool.and_eq_true, beq_iff_eq] at areSame
          rcases areSame with ⟨slotsSame, rfl⟩
          apply tuple_behaves
          apply slotsBehave_of_same ih _ slotsSame listAlike
          intro slot slotMem
          exact distinct.part slotMem
      | _ => cases areSame
  | typed rules shared variants sharedIh variantsIh =>
      intro other areSame listAlike distinct
      cases other with
      | typed otherRules others otherVariants =>
          have namesDiffer := (hasDistinctNames_iff.mp distinct).1
          simp only [same, Bool.and_eq_true, beq_iff_eq] at areSame
          rcases areSame with ⟨⟨⟨⟨rfl, _⟩, sharedSame⟩, _⟩, variantsSame⟩
          apply typed_behaves
          · apply fieldsBehaveAs_of_same sharedIh namesDiffer.1 ?_ sharedSame listAlike.1
            intro field fieldMem
            exact distinct.part (shared_mem_parts fieldMem)
          · apply variantsBehaveAs_of_same variantsIh namesDiffer.2 ?_ variantsSame listAlike.2
            intro variant variantMem
            exact distinct.part (variant_mem_parts variantMem)
      | _ => cases areSame
  | any =>
      intro other areSame _ _
      cases other with
      | any => exact ⟨rfl, fun _ _ => .self (fun _ => rfl) alike_refl _⟩
      | _ => cases areSame
  | skip acceptance =>
      intro other areSame _ _
      cases other with
      | skip otherAcceptance =>
          simp only [same, beq_iff_eq] at areSame
          subst areSame
          exact ⟨rfl, fun _ _ => .self (fun _ => rfl) alike_refl _⟩
      | _ => cases areSame

end Shape

namespace Layout

variable {shape other : Shape} (areSame : shape.same other = true)
  (listAlike : shape.ListsAlike other) (distinct : shape.HasDistinctNames)

include areSame listAlike distinct

theorem rowShape_behaves : (rowShape shape).BehavesAs (rowShape other) := by
  cases shape with
  | array element acceptance =>
      cases other with
      | array other otherAcceptance =>
          simp only [Shape.same, Bool.and_eq_true] at areSame
          exact Shape.behavesAs_of_same element other areSame.1 listAlike
            (distinct.part (by simp [Shape.parts]))
      | _ => cases areSame
  | _ =>
      cases other with
      | array other otherAcceptance => cases areSame
      | _ => exact Shape.behavesAs_of_same _ _ areSame listAlike distinct

theorem readRows_like (value? : Option Json) :
    Except.Rel Eq (List.Forall₂ (List.Forall₂ Cell.Alike)) (readRows shape value?)
      (readRows other value?) := by
  have behaves := (rowShape_behaves areSame listAlike distinct).read
  cases shape with
  | array element acceptance =>
      cases other with
      | array other otherAcceptance =>
          simp only [Shape.same, Bool.and_eq_true, beq_iff_eq] at areSame
          rcases areSame with ⟨_, rfl⟩
          simp only [readRows, Shape.ownRow_eq (Shape.fill_eq _)]
          refine Shape.checked_like rfl rfl ?_
          split
          · exact Shape.readItems_like behaves [] 0 _
          · exact .ok .nil
      | _ => cases areSame
  | _ =>
      cases other with
      | array other otherAcceptance => cases areSame
      | _ =>
          simp only [readRows, Shape.ownRow_eq (Shape.fill_eq _)]
          refine (behaves [] value?).bind ?_
          intro row otherRow _ rowAlike
          exact .ok (.cons rowAlike .nil)

end Layout

namespace Shape

/-- Shapes that are the same, and list their fields and types in one order at every depth, have
the same columns, and a value fills a row with cells that are alike, or fails alike.  So documents
have rows that are alike, under the same names. -/
theorem same_shapes_behave_alike {shape other : Shape} (areSame : shape.same other = true)
    (listAlike : shape.ListsAlike other) (distinct : shape.HasDistinctNames) :
    other.columns = shape.columns ∧
    (∀ path value? row, Except.Rel Eq
      (fun filled another => List.Forall₂ Cell.Alike filled.toList another.toList)
      (shape.fill path value? row) (other.fill path value? row)) ∧
    ∀ naming, Except.Rel Eq
      (fun layout another => another.names = layout.names ∧ another.columns = layout.columns ∧
        ∀ value?, Except.Rel Eq (List.Forall₂ (List.Forall₂ Cell.Alike)) (layout.rows value?)
          (another.rows value?))
      (Layout.ofShape shape naming) (Layout.ofShape other naming) := by
  have behaves := behavesAs_of_same shape other areSame listAlike distinct
  refine ⟨behaves.columns, ?_, ?_⟩
  · intro path value? row
    rw [fill_eq, fill_eq]
    apply (behaves.read path value?).map
    intro cells others alike
    simpa using append_alike (alike_refl row.toList) alike
  · intro naming
    simp only [Layout.ofShape, (Layout.rowShape_behaves areSame listAlike distinct).columns]
    split
    · exact .error rfl
    · refine .ok ⟨rfl, rfl, ?_⟩
      intro value?
      apply (Layout.readRows_like areSame listAlike distinct value?).mapError
      rintro fault _ rfl
      rfl

/-- Ways of finding fields may be listed in another order, and a decimal may have more zeros. -/
theorem zeros_of_a_default_make_no_difference :
    let number (default : Number.Decimal) : Shape :=
      .leaf ⟨.bigDecimal, ⟨true, .ofList [.decimal]⟩, none, some default⟩
    let rules (matching : List (String × FieldMatching)) : ObjectRules :=
      { allowUnknown := true, acceptance := ⟨false, .ofList [.object]⟩, matching }
    let first : FieldMatching := { aliases := ["x"] }
    let second : FieldMatching := { aliases := ["y"] }
    let shape : Shape := .object
      (.record [("a", number ⟨15, 1⟩), ("b", number ⟨2, 0⟩)] (rules [("a", first), ("b", second)]))
    let other : Shape := .object
      (.record [("a", number ⟨150, 2⟩), ("b", number ⟨2, 0⟩)] (rules [("b", second), ("a", first)]))
    shape.same other = true ∧ shape.ListsAlike other ∧ shape.HasDistinctNames ∧
      other.columns = shape.columns ∧ ∀ path value? row, Except.Rel Eq
        (fun filled another => List.Forall₂ Cell.Alike filled.toList another.toList)
        (shape.fill path value? row) (other.fill path value? row) := by
  intro number rules first second shape other
  have areSame : shape.same other = true := by cbv
  have listAlike : shape.ListsAlike other := ⟨rfl, trivial, rfl, trivial, trivial⟩
  have leafDistinct : ∀ default, (number default).HasDistinctNames := by
    intro default
    exact hasDistinctNames_iff.mpr ⟨trivial, List.forall_mem_nil _⟩
  have distinct : shape.HasDistinctNames := by
    refine hasDistinctNames_iff.mpr ⟨⟨by decide, by decide⟩, ?_⟩
    exact List.forall_mem_cons.mpr
      ⟨leafDistinct _, List.forall_mem_singleton.mpr (leafDistinct _)⟩
  rcases same_shapes_behave_alike areSame listAlike distinct with ⟨sameColumns, filledAlike, _⟩
  exact ⟨areSame, listAlike, distinct, sameColumns, filledAlike⟩

/-- Objects with the same fields in another order are the same, and valid, but have their columns
in another order. -/
theorem fields_in_another_order_make_other_columns :
    let number : Shape := .leaf ⟨.int, ⟨true, .ofList [.int]⟩, none, none⟩
    let text : Shape := .leaf ⟨.string, ⟨true, .ofList [.string]⟩, none, none⟩
    let rules : ObjectRules := { allowUnknown := true, acceptance := ⟨true, .ofList [.object]⟩ }
    let shape : Shape := .object (.record [("a", number), ("b", text)] rules)
    let other : Shape := .object (.record [("b", text), ("a", number)] rules)
    let value : Json := .object [("a", .number "1"), ("b", .string "x")]
    shape.IsValid ∧ other.IsValid ∧ shape.HasDistinctNames ∧ shape.same other = true ∧
      shape.columns ≠ other.columns ∧
      shape.fill [] (some value) #[] = .ok #[.int 1, .string "x"] ∧
      other.fill [] (some value) #[] = .ok #[.string "x", .int 1] := by
  intro number text rules shape other value
  have numberValid : number.IsValid := isValid_iff.mpr ⟨by cbv, List.forall_mem_nil _⟩
  have textValid : text.IsValid := isValid_iff.mpr ⟨by cbv, List.forall_mem_nil _⟩
  have valid : shape.IsValid := isValid_iff.mpr
    ⟨by cbv, List.forall_mem_cons.mpr ⟨numberValid, List.forall_mem_singleton.mpr textValid⟩⟩
  have otherValid : other.IsValid := isValid_iff.mpr
    ⟨by cbv, List.forall_mem_cons.mpr ⟨textValid, List.forall_mem_singleton.mpr numberValid⟩⟩
  have numberDistinct : number.HasDistinctNames :=
    hasDistinctNames_iff.mpr ⟨trivial, List.forall_mem_nil _⟩
  have textDistinct : text.HasDistinctNames :=
    hasDistinctNames_iff.mpr ⟨trivial, List.forall_mem_nil _⟩
  have distinct : shape.HasDistinctNames := by
    refine hasDistinctNames_iff.mpr ⟨⟨by decide, by decide⟩, ?_⟩
    exact List.forall_mem_cons.mpr ⟨numberDistinct, List.forall_mem_singleton.mpr textDistinct⟩
  exact ⟨valid, otherValid, distinct, by cbv, by decide, by cbv, by cbv⟩

end Shape

end JsonTables
