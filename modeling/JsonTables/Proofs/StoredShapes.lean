import JsonTables.Proofs.ValidShapes
import JsonTables.Shape.Decode

/-!
# Valid stored shapes

A shape that is read from where it was stored is checked when its parts have been read.
The object of a type is not, since it is read as parts and not as a shape; it is checked
with the shape that has it.  So whatever is read is valid.
-/

namespace JsonTables

open JsonText (Mismatch)

/-- Whether shapes that have been read as parts are valid.  Of the objects of types only
the fields are known to be so: the objects are checked with the shape that holds them. -/
structure Draft.HoldsValid {α : Type} (draft : Draft α) : Prop where
  fields : ∀ fields ∈ draft.fields, ∀ field ∈ fields, field.2.IsValid
  element : ∀ shape ∈ draft.element, shape.IsValid
  value : ∀ shape ∈ draft.value, shape.IsValid
  slots : ∀ slots ∈ draft.slots, ∀ slot ∈ slots, slot.IsValid
  variants : ∀ variants ∈ draft.variants, ∀ variant ∈ variants, ∀ field ∈ variant.2.fields,
    field.2.IsValid

/-- Whether what the readers of parts read is valid. -/
structure PartReaders.ReadValid (readers : PartReaders) : Prop where
  shape : ∀ made, readers.shape () = .ok made → made.IsValid
  fields : ∀ fields, readers.fields () = .ok fields → ∀ field ∈ fields, field.2.IsValid
  slots : ∀ slots, readers.slots () = .ok slots → ∀ slot ∈ slots, slot.IsValid
  variants : ∀ variants, readers.variants () = .ok variants → ∀ variant ∈ variants,
    ∀ field ∈ variant.2.fields, field.2.IsValid

namespace Draft

variable {α : Type}

theorem holdsValid_empty : ({} : Draft α).HoldsValid := by
  constructor <;> simp

theorem HoldsValid.set {draft next : Draft α} (holds : draft.HoldsValid)
    {valueOf : Content → Except Mismatch α} {readers : PartReaders} (reads : readers.ReadValid)
    {content : Content} {part : StoredPart}
    (isSet : draft.set valueOf readers content part = .ok next) : next.HoldsValid := by
  cases part with
  | fields =>
      simp only [Draft.set, Except.bind_eq_ok_iff, Except.pure_eq_ok_iff] at isSet
      rcases isSet with ⟨fields, areRead, rfl⟩
      exact { holds with fields := by simpa using reads.fields fields areRead }
  | element =>
      simp only [Draft.set, Except.bind_eq_ok_iff, Except.pure_eq_ok_iff] at isSet
      rcases isSet with ⟨shape, isRead, rfl⟩
      exact { holds with element := by simpa using reads.shape shape isRead }
  | value =>
      simp only [Draft.set, Except.bind_eq_ok_iff, Except.pure_eq_ok_iff] at isSet
      rcases isSet with ⟨shape, isRead, rfl⟩
      exact { holds with value := by simpa using reads.shape shape isRead }
  | slots =>
      simp only [Draft.set, Except.bind_eq_ok_iff, Except.pure_eq_ok_iff] at isSet
      rcases isSet with ⟨slots, areRead, rfl⟩
      exact { holds with slots := by simpa using reads.slots slots areRead }
  | variants =>
      simp only [Draft.set, Except.bind_eq_ok_iff, Except.pure_eq_ok_iff] at isSet
      rcases isSet with ⟨variants, areRead, rfl⟩
      exact { holds with variants := by simpa using reads.variants variants areRead }
  | _ =>
      simp only [Draft.set, Except.bind_eq_ok_iff, Except.pure_eq_ok_iff] at isSet
      rcases isSet with ⟨_, _, rfl⟩
      exact { holds with }

theorem need_eq_ok_iff {β : Type} {name : String} {found : Option β} {part : β} :
    need name found = .ok part ↔ found = some part := by
  cases found <;> simp [need]

theorem HoldsValid.toObject {draft : Draft α} (holds : draft.HoldsValid) {record : ObjectShape}
    (isMade : draft.toObject = .ok record) : ∀ field ∈ record.fields, field.2.IsValid := by
  simp only [Draft.toObject, Except.bind_eq_ok_iff, need_eq_ok_iff, Except.pure_eq_ok_iff] at isMade
  rcases isMade with ⟨fields, isFields, _, _, _, _, rfl⟩
  exact holds.fields fields isFields

/-- A shape of parts that are valid is valid if it passes its check. -/
theorem HoldsValid.toShape {kind : StoredKind} {draft : Draft kind.leafKind.Value}
    (holds : draft.HoldsValid) {made : Shape} (isMade : draft.toShape kind = .ok made)
    (passed : made.check = .ok ()) : made.IsValid := by
  cases kind with
  | object =>
      simp only [Draft.toShape, Except.bind_eq_ok_iff, Except.pure_eq_ok_iff] at isMade
      rcases isMade with ⟨record, isRecord, rfl⟩
      refine Shape.isValid_iff.mpr ⟨passed, ?_⟩
      simpa only [Shape.parts, List.forall_mem_map] using holds.toObject isRecord
  | array =>
      simp only [Draft.toShape, Except.bind_eq_ok_iff, need_eq_ok_iff,
        Except.pure_eq_ok_iff] at isMade
      rcases isMade with ⟨element, isElement, _, _, rfl⟩
      refine Shape.isValid_iff.mpr ⟨passed, ?_⟩
      simpa [Shape.parts] using holds.element element isElement
  | keyValue =>
      simp only [Draft.toShape, Except.bind_eq_ok_iff, need_eq_ok_iff,
        Except.pure_eq_ok_iff] at isMade
      rcases isMade with ⟨key, isKey, value, isValue, _, _, rfl⟩
      refine Shape.isValid_iff.mpr ⟨passed, ?_⟩
      simpa [Shape.parts] using And.intro (holds.element key isKey) (holds.value value isValue)
  | tuple =>
      simp only [Draft.toShape, Except.bind_eq_ok_iff, need_eq_ok_iff,
        Except.pure_eq_ok_iff] at isMade
      rcases isMade with ⟨slots, areSlots, _, _, rfl⟩
      exact Shape.isValid_iff.mpr ⟨passed, holds.slots slots areSlots⟩
  | typed =>
      simp only [Draft.toShape, Except.bind_eq_ok_iff, need_eq_ok_iff,
        Except.pure_eq_ok_iff] at isMade
      rcases isMade with ⟨_, _, shared, isShared, variants, areVariants, _, _, _, _, rfl⟩
      exact Shape.isValid_typed passed (holds.fields shared isShared)
        (holds.variants variants areVariants)
  | any =>
      cases isMade
      exact Shape.isValid_any
  | _ =>
      simp only [Draft.toShape, Except.bind_eq_ok_iff, need_eq_ok_iff,
        Except.pure_eq_ok_iff] at isMade
      refine Shape.isValid_iff.mpr ⟨passed, ?_⟩
      grind [Shape.parts]

end Draft

namespace Content

theorem checked_eq_ok_iff {shape made : Shape} :
    checked shape = .ok made ↔ shape.check = .ok () ∧ made = shape := by
  rw [← Shape.checked_eq_ok_iff, checked]
  cases shape.checked <;> simp

theorem isValid_of_checked {kind : StoredKind} {draft : Draft kind.leafKind.Value}
    (holds : draft.HoldsValid) {made : Shape}
    (isMade : (draft.toShape kind >>= checked) = .ok made) : made.IsValid := by
  rcases Except.bind_eq_ok_iff.mp isMade with ⟨shape, isShape, isChecked⟩
  rcases checked_eq_ok_iff.mp isChecked with ⟨passed, rfl⟩
  exact holds.toShape isShape passed

-- The readers of stored shapes call each other; so do their proofs, one for each reader.
mutual

theorem isValid_of_toShape : (content : Content) → ∀ made, content.toShape = .ok made →
    made.IsValid
  | map entries => by
      intro made isMade
      simp only [toShape, Except.bind_eq_ok_iff] at isMade
      rcases isMade with ⟨kind, _, draft, isDraft, isMade⟩
      exact isValid_of_checked (holdsValid_of_entries kind entries Draft.holdsValid_empty isDraft)
        (Except.bind_eq_ok_iff.mpr isMade)
  | list [] => by
      intro made isMade
      cases isMade
  | list (tag :: items) => by
      intro made isMade
      simp only [toShape, Except.bind_eq_ok_iff] at isMade
      rcases isMade with ⟨kind, _, draft, isDraft, isMade⟩
      exact isValid_of_checked (holdsValid_of_items kind items Draft.holdsValid_empty isDraft)
        (Except.bind_eq_ok_iff.mpr isMade)
  | null | bool _ | integer _ | float _ | text _ => by
      intro made isMade
      cases isMade
termination_by structural content => content

theorem holdsValid_of_entries (kind : StoredKind) : (entries : List (String × Content)) →
    ∀ {draft next : Draft kind.leafKind.Value}, draft.HoldsValid →
      draftOfEntries kind draft entries = .ok next → next.HoldsValid
  | [], _, _, holds, isNext => by
      cases isNext
      exact holds
  | (name, content) :: rest, draft, _, holds, isNext => by
      simp only [draftOfEntries] at isNext
      split at isNext
      · exact holdsValid_of_entries kind rest holds isNext
      · rename_i part _
        cases isKnown : draft.has part with
        | true => simp [isKnown] at isNext
        | false =>
            simp only [isKnown, Bool.false_eq_true, if_false, Except.bind_eq_ok_iff] at isNext
            rcases isNext with ⟨_, isSet, isNext⟩
            have holdsMore := holds.set ⟨isValid_of_toShape content, isValid_of_toFields content,
              isValid_of_toSlots content, isValid_of_toVariants content⟩ isSet
            exact holdsValid_of_entries kind rest holdsMore isNext
termination_by structural entries => entries

theorem holdsValid_of_items (kind : StoredKind) : (items : List Content) →
    ∀ {parts : List (String × StoredPart)} {position : Nat}
      {draft next : Draft kind.leafKind.Value}, draft.HoldsValid →
      draftOfItems kind parts position draft items = .ok next → next.HoldsValid
  | [], parts, _, _, _, holds, isNext => by
      have isSame : _ = _ := isNext
      simp only [draftOfItems] at isSame
      grind
  | content :: rest, parts, _, _, _, holds, isNext => by
      cases parts with
      | nil =>
          simp only [draftOfItems, tooLong] at isNext
          cases isNext
      | cons first parts =>
          simp only [draftOfItems, Except.bind_eq_ok_iff] at isNext
          rcases isNext with ⟨_, isSet, isNext⟩
          have holdsMore := holds.set ⟨isValid_of_toShape content, isValid_of_toFields content,
            isValid_of_toSlots content, isValid_of_toVariants content⟩ isSet
          exact holdsValid_of_items kind rest holdsMore isNext
termination_by structural items => items

theorem isValid_of_toFields : (content : Content) → ∀ fields, content.toFields = .ok fields →
    ∀ field ∈ fields, field.2.IsValid
  | map entries => by
      intro fields areRead field fieldMem
      simp only [toFields, Except.bind_eq_ok_iff, Except.pure_eq_ok_iff] at areRead
      rcases areRead with ⟨all, areAll, rfl⟩
      exact isValid_of_fieldsOfEntries entries all areAll field
        (Json.mem_of_mem_lastOccurrences fieldMem)
  | list _ | null | bool _ | integer _ | float _ | text _ => by
      intro fields areRead
      cases areRead
termination_by structural content => content

theorem isValid_of_fieldsOfEntries : (entries : List (String × Content)) →
    ∀ fields, fieldsOfEntries entries = .ok fields → ∀ field ∈ fields, field.2.IsValid
  | [] => by
      intro fields areRead
      cases areRead
      simp
  | (name, content) :: rest => by
      intro fields areRead
      simp only [fieldsOfEntries, Except.bind_eq_ok_iff, Except.pure_eq_ok_iff] at areRead
      rcases areRead with ⟨shape, isShape, others, areOthers, rfl⟩
      rw [List.forall_mem_cons]
      exact ⟨isValid_of_toShape content shape isShape,
        isValid_of_fieldsOfEntries rest others areOthers⟩
termination_by structural entries => entries

theorem isValid_of_toSlots : (content : Content) → ∀ slots, content.toSlots = .ok slots →
    ∀ slot ∈ slots, slot.IsValid
  | list items => isValid_of_slotsOfItems items
  | map _ | null | bool _ | integer _ | float _ | text _ => by
      intro slots areRead
      cases areRead
termination_by structural content => content

theorem isValid_of_slotsOfItems : (items : List Content) →
    ∀ slots, slotsOfItems items = .ok slots → ∀ slot ∈ slots, slot.IsValid
  | [] => by
      intro slots areRead
      cases areRead
      simp
  | content :: rest => by
      intro slots areRead
      simp only [slotsOfItems, Except.bind_eq_ok_iff, Except.pure_eq_ok_iff] at areRead
      rcases areRead with ⟨shape, isShape, others, areOthers, rfl⟩
      rw [List.forall_mem_cons]
      exact ⟨isValid_of_toShape content shape isShape,
        isValid_of_slotsOfItems rest others areOthers⟩
termination_by structural items => items

theorem isValid_of_toVariants : (content : Content) → ∀ variants,
    content.toVariants = .ok variants → ∀ variant ∈ variants, ∀ field ∈ variant.2.fields,
      field.2.IsValid
  | map entries => by
      intro variants areRead variant variantMem
      simp only [toVariants, Except.bind_eq_ok_iff, Except.pure_eq_ok_iff] at areRead
      rcases areRead with ⟨all, areAll, rfl⟩
      exact isValid_of_variantsOfEntries entries all areAll variant
        (Json.mem_of_mem_lastOccurrences variantMem)
  | list _ | null | bool _ | integer _ | float _ | text _ => by
      intro variants areRead
      cases areRead
termination_by structural content => content

theorem isValid_of_variantsOfEntries : (entries : List (String × Content)) →
    ∀ variants, variantsOfEntries entries = .ok variants → ∀ variant ∈ variants,
      ∀ field ∈ variant.2.fields, field.2.IsValid
  | [] => by
      intro variants areRead
      cases areRead
      simp
  | (tag, content) :: rest => by
      intro variants areRead
      simp only [variantsOfEntries, Except.bind_eq_ok_iff, Except.pure_eq_ok_iff] at areRead
      rcases areRead with ⟨record, isRecord, others, areOthers, rfl⟩
      rw [List.forall_mem_cons]
      exact ⟨isValid_of_toRecord content record isRecord,
        isValid_of_variantsOfEntries rest others areOthers⟩
termination_by structural entries => entries

theorem isValid_of_toRecord : (content : Content) → ∀ record, content.toRecord = .ok record →
    ∀ field ∈ record.fields, field.2.IsValid
  | map entries => by
      intro record isRecord
      simp only [toRecord, Except.bind_eq_ok_iff] at isRecord
      rcases isRecord with ⟨draft, isDraft, isRecord⟩
      exact (holdsValid_of_entries .object entries Draft.holdsValid_empty isDraft).toObject isRecord
  | list items => by
      intro record isRecord
      simp only [toRecord, Except.bind_eq_ok_iff] at isRecord
      rcases isRecord with ⟨draft, isDraft, isRecord⟩
      exact (holdsValid_of_items .object items Draft.holdsValid_empty isDraft).toObject isRecord
  | null | bool _ | integer _ | float _ | text _ => by
      intro record isRecord
      cases isRecord
termination_by structural content => content

end

end Content

namespace Shape

theorem isValid_of_gathered {gathered : Gathered} {made : Shape}
    (isMade : gathered.toShape = .ok made) : made.IsValid := by
  rcases gathered with ⟨kind, parts⟩
  cases parts with
  | list items =>
      simp only [Gathered.toShape, Except.bind_eq_ok_iff] at isMade
      rcases isMade with ⟨draft, isDraft, isMade⟩
      exact Content.isValid_of_checked
        (Content.holdsValid_of_items kind items Draft.holdsValid_empty isDraft)
        (Except.bind_eq_ok_iff.mpr isMade)
  | map entries =>
      simp only [Gathered.toShape, Except.bind_eq_ok_iff] at isMade
      rcases isMade with ⟨draft, isDraft, isMade⟩
      exact Content.isValid_of_checked
        (Content.holdsValid_of_entries kind entries Draft.holdsValid_empty isDraft)
        (Except.bind_eq_ok_iff.mpr isMade)
  | _ => cases isMade

theorem isValid_of_ofStoredText {text : String} {made : Shape}
    (isStored : ofStoredText text = .ok made) : made.IsValid := by
  simp only [ofStoredText, JsonText.readAll, storedReader, Except.mapError_eq_ok_iff,
    Except.bind_eq_ok_iff] at isStored
  rcases isStored with ⟨⟨shape, rest⟩, ⟨⟨gathered, after⟩, _, isShape⟩, isMade⟩
  cases isGathered : gathered.toShape with
  | error cause => simp [isGathered] at isShape
  | ok found =>
      simp only [isGathered, Except.pure_eq_ok_iff, Prod.mk.injEq] at isShape
      rcases isShape with ⟨rfl, rfl⟩
      split at isMade
      · cases isMade
        exact isValid_of_gathered isGathered
      · cases isMade

theorem isValid_of_ofStoredValue {value : Json} {made : Shape}
    (isStored : ofStoredValue value = .ok made) : made.IsValid := by
  unfold ofStoredValue at isStored
  split at isStored
  · rcases Except.bind_eq_ok_iff.mp isStored with ⟨gathered, _, isMade⟩
    exact isValid_of_gathered isMade
  · cases isStored
  · simp only [Except.bind_eq_ok_iff] at isStored
    rcases isStored with ⟨_, _, _, _, isMade⟩
    exact isValid_of_gathered isMade
  · rcases Except.bind_eq_ok_iff.mp isStored with ⟨content, _, isMade⟩
    cases content <;> cases isMade
  · rcases Except.bind_eq_ok_iff.mp isStored with ⟨content, _, isMade⟩
    cases content <;> cases isMade

end Shape

end JsonTables
