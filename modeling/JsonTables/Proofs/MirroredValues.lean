import JsonTables.Proofs.RowTypes
import JsonTables.Proofs.ValidShapes

/-!
# Values that are read alike

Two values may differ and yet be read alike: in the order of entries, in entries that
come too late, in entries that no field knows.  What such differences have in common is
how they go on.  Where two values differ in the way in question, so do the values that a
shape finds in them, item by item and field by field, and the checks on the way come out
alike.  Then the two values are read alike, and so are the rows of two documents.
-/

namespace JsonTables

theorem KindSet.contains_ofList_iff {kinds : List Kind} {kind : Kind} :
    (ofList kinds).contains kind = true ↔ kind ∈ kinds := by
  have inFold : ∀ set : KindSet, (kinds.foldl insert set).contains kind = true ↔
      set.contains kind = true ∨ kind ∈ kinds := by
    induction kinds with
    | nil => simp
    | cons first rest ih =>
        intro set
        rw [List.foldl_cons, ih, contains_insert, List.mem_cons]
        simp only [Bool.or_eq_true, beq_iff_eq, eq_comm (a := first)]
        tauto
  simpa [ofList] using inFold empty

theorem Json.eq_null_of_kind {value : Json} (isKind : value.kind = .null) : value = .null := by
  cases value with
  | number text =>
      simp only [kind] at isKind
      split at isKind <;> cases isKind
  | null => rfl
  | _ => cases isKind

theorem Json.exists_eq_array_of_kind {value : Json} (isKind : value.kind = .array) :
    ∃ items, value = .array items := by
  cases value with
  | number text =>
      simp only [kind] at isKind
      split at isKind <;> cases isKind
  | array items => exact ⟨items, rfl⟩
  | _ => cases isKind

theorem Json.exists_eq_object_of_kind {value : Json} (isKind : value.kind = .object) :
    ∃ entries, value = .object entries := by
  cases value with
  | number text =>
      simp only [kind] at isKind
      split at isKind <;> cases isKind
  | object entries => exact ⟨entries, rfl⟩
  | _ => cases isKind

theorem Json.isObject_or_isNull {value : Json}
    (isKind : (KindSet.ofList [.object, .null]).contains value.kind = true) :
    (∃ entries, value = .object entries) ∨ value = .null := by
  simp only [KindSet.contains_ofList_iff, List.mem_cons, List.not_mem_nil, or_false] at isKind
  exact isKind.imp exists_eq_object_of_kind eq_null_of_kind

theorem Json.isArray_or_isNull {value : Json}
    (isKind : (KindSet.ofList [.array, .null]).contains value.kind = true) :
    (∃ items, value = .array items) ∨ value = .null := by
  simp only [KindSet.contains_ofList_iff, List.mem_cons, List.not_mem_nil, or_false] at isKind
  exact isKind.imp exists_eq_array_of_kind eq_null_of_kind

namespace Leaf

/-- A leaf does not look into a list. -/
theorem read_array_eq (leaf : Leaf) (path : Path) (items others : List Json) :
    leaf.read path (some (.array items)) = leaf.read path (some (.array others)) := by
  have sameValue : ∀ allowDecimal, readValue allowDecimal (.array items) leaf.kind =
      readValue allowDecimal (.array others) leaf.kind := by
    intro allowDecimal
    cases leaf.kind <;> rfl
  simp only [read, sameValue, Json.kind]
  rfl

/-- A leaf does not look into an object. -/
theorem read_object_eq (leaf : Leaf) (path : Path) (entries others : List (String × Json)) :
    leaf.read path (some (.object entries)) = leaf.read path (some (.object others)) := by
  have sameValue : ∀ allowDecimal, readValue allowDecimal (.object entries) leaf.kind =
      readValue allowDecimal (.object others) leaf.kind := by
    intro allowDecimal
    cases leaf.kind <;> rfl
  simp only [read, sameValue, Json.kind]
  rfl

end Leaf

namespace Shape

/-- Whether a shape reads an object as a map. -/
def IsMap : Shape → Prop
  | keyValue .. => True
  | _ => False

theorem IsValid.readsAccepted {shape : Shape} (valid : shape.IsValid) : shape.ReadsAccepted :=
  (check_eq_ok_iff.mp (isValid_iff.mp valid).1).1

theorem shared_mem_parts {rules : VariantRules} {shared : List (String × Shape)}
    {variants : List (String × ObjectShape)} {field : String × Shape} (fieldMem : field ∈ shared) :
    field.2 ∈ (typed rules shared variants).parts :=
  List.mem_append_left _ (List.mem_map_of_mem fieldMem)

theorem variant_mem_parts {rules : VariantRules} {shared : List (String × Shape)}
    {variants : List (String × ObjectShape)} {variant : String × ObjectShape}
    (variantMem : variant ∈ variants) :
    object variant.2 ∈ (typed rules shared variants).parts :=
  List.mem_append_right _ (List.mem_map_of_mem (f := fun variant => object variant.2) variantMem)

theorem field_mem_parts {record : ObjectShape} {field : String × Shape}
    (fieldMem : field ∈ record.fields) : field.2 ∈ (object record).parts :=
  List.mem_map_of_mem fieldMem

/-- Checks that the entries of an object belong to its fields, unless others may stand
beside them. -/
def checkKnown : ObjectShape → Path → List (String × Json) → Except ValueError Unit
  | .record fields rules, path, entries => do
      unless rules.allowUnknown do
        if let some (key, _) := entries.find? (!(ObjectShape.record fields rules).knows ·.1) then
          misfit path (.unknownField key)

/-- An object is read by checking its entries and reading its fields. -/
theorem readObject_object (record : ObjectShape) (path : Path) (entries : List (String × Json)) :
    readObject record path (some (.object entries)) =
      (checkKnown record path entries >>= fun _ => readOwnFields record path entries) := by
  rcases record with ⟨fields, rules⟩
  simp only [readObject, checkKnown, readOwnFields]
  by_cases admits : rules.allowUnknown = true
  · rw [if_pos admits, if_pos admits]
    rfl
  · rw [if_neg admits, if_neg admits]
    cases entries.find? fun entry => !(ObjectShape.record fields rules).knows entry.1 <;> rfl

section

variable (faults : ValueError → ValueError → Prop) (related : Shape → Json → Json → Prop)

/-- Whether fields find related values among two lists of entries, or find none in both. -/
def FindAlike (fields : List (String × Shape)) (matching : List (String × FieldMatching))
    (repeats : RepeatPolicy) (path : Path) (entries others : List (String × Json)) : Prop :=
  ∀ field ∈ fields, Except.Rel faults (Option.Rel (related field.2))
    (findField entries field.1 (ObjectShape.matchingIn matching field.1) repeats path)
    (findField others field.1 (ObjectShape.matchingIn matching field.1) repeats path)

/-- `FindAlike` for the fields of an object. -/
def OwnFieldsFindAlike (record : ObjectShape) (path : Path)
    (entries others : List (String × Json)) : Prop :=
  FindAlike faults related record.fields record.rules.matching record.rules.repeats path entries
    others

/-- Whether two values are read alike at every path. -/
def ReadsAlike (read : Path → Option Json → Row) (value other : Json) : Prop :=
  ∀ path, Except.Rel faults Eq (read path (some value)) (read path (some other))

/-- Whether values that are related for a shape are of one kind, and have related values in
them for the shapes in it, the checks on the way coming out alike. -/
structure Mirrors : Prop where
  fault : ∀ fault, faults fault fault
  kind : ∀ {shape value other}, related shape value other → other.kind = value.kind
  leaf : ∀ {scalar value other}, related (leaf scalar) value other → ∀ path,
    Except.Rel faults Eq (scalar.read path (some value)) (scalar.read path (some other))
  any : ∀ {value other}, related any value other → other.dropRepeats = value.dropRepeats
  items : ∀ {element acceptance items others},
    related (array element acceptance) (.array items) (.array others) →
      List.Forall₂ (related element) items others
  entries : ∀ {key value acceptance entries others},
    related (keyValue key value acceptance) (.object entries) (.object others) →
      List.Forall₂ (fun entry other => other.1 = entry.1 ∧ related value entry.2 other.2)
        entries others
  slots : ∀ {slots acceptance items others},
    related (tuple slots acceptance) (.array items) (.array others) →
      others.length = items.length ∧ ∀ (position : Nat) (slot : Shape) (item other : Json),
        slots[position]? = some slot → items[position]? = some item →
          others[position]? = some other → related slot item other
  fields : ∀ {record entries others},
    related (object record) (.object entries) (.object others) → ∀ path,
      Except.Rel faults Eq (checkKnown record path entries) (checkKnown record path others) ∧
        OwnFieldsFindAlike faults related record path entries others
  tag : ∀ {rules shared variants entries others},
    related (typed rules shared variants) (.object entries) (.object others) → ∀ path,
      Except.Rel faults Eq (readTag rules entries path) (readTag rules others path)
  variant : ∀ {rules shared variants entries others},
    related (typed rules shared variants) (.object entries) (.object others) → ∀ path tag,
      readTag rules entries path = .ok (some tag) →
        Except.Rel faults Eq
          (checkEntries rules (shared.map (·.1)) (variants.lookup tag) tag entries path)
          (checkEntries rules (shared.map (·.1)) (variants.lookup tag) tag others path) ∧
        FindAlike faults related shared [] rules.repeats path entries others ∧
        ∀ record, (tag, record) ∈ variants →
          OwnFieldsFindAlike faults related record path entries others

end

section

variable {faults : ValueError → ValueError → Prop} {related : Shape → Json → Json → Prop}

/-! ### Lists -/

theorem readItems_alike {read : Path → Option Json → Row} {items others : List Json}
    (alike : List.Forall₂ (ReadsAlike faults read) items others) (path : Path) (position : Nat) :
    Except.Rel faults Eq (readItems read path position items)
      (readItems read path position others) := by
  induction alike generalizing position with
  | nil => exact .ok rfl
  | cons first _ ih =>
      simp only [readItems]
      refine (first _).bind ?_
      rintro row _ _ rfl
      refine (ih (position + 1)).bind ?_
      rintro rows _ _ rfl
      exact .ok rfl

/-- The keys are the same, so they are read to the same. -/
theorem readEntries_alike (fault : ∀ fault, faults fault fault)
    {readKey readValue : Path → Option Json → Row} {entries others : List (String × Json)}
    (alike : List.Forall₂ (fun entry other =>
      other.1 = entry.1 ∧ ReadsAlike faults readValue entry.2 other.2) entries others)
    (path : Path) :
    Except.Rel faults Eq (readEntries readKey readValue path entries)
      (readEntries readKey readValue path others) := by
  induction alike with
  | nil => exact .ok rfl
  | @cons entry other _ _ first _ ih =>
      rcases entry with ⟨key, value⟩
      rcases other with ⟨otherKey, another⟩
      rcases first with ⟨sameKey, isAlike⟩
      obtain rfl : otherKey = key := sameKey
      simp only [readEntries]
      refine (Except.Rel.refl fault _).bind ?_
      rintro keyRow _ _ rfl
      refine (isAlike _).bind ?_
      rintro valueRow _ _ rfl
      refine ih.bind ?_
      rintro rows _ _ rfl
      exact .ok rfl

theorem readFields_alike (fault : ∀ fault, faults fault fault) {fields : List (String × Shape)}
    (alike : ∀ field ∈ fields, ∀ value other, related field.2 value other →
      ReadsAlike faults field.2.read value other)
    {matching : List (String × FieldMatching)} {repeats : RepeatPolicy} {path : Path}
    {entries others : List (String × Json)}
    (find : FindAlike faults related fields matching repeats path entries others) :
    Except.Rel faults Eq (readFields fields matching repeats path entries)
      (readFields fields matching repeats path others) := by
  induction fields with
  | nil => exact .ok rfl
  | cons field rest ih =>
      rw [List.forall_mem_cons] at alike
      rw [FindAlike, List.forall_mem_cons] at find
      simp only [readFields]
      refine find.1.bind ?_
      intro found other _ isFound
      have cellsAlike : Except.Rel faults Eq (field.2.read (.field field.1 :: path) found)
          (field.2.read (.field field.1 :: path) other) := by
        cases isFound with
        | none => exact .refl fault _
        | some isRelated => exact alike.1 _ _ isRelated _
      refine cellsAlike.bind ?_
      rintro cells _ _ rfl
      refine (ih alike.2 find.2).bind ?_
      rintro rest _ _ rfl
      exact .ok rfl

theorem readSlots_alike {slots : List Shape}
    (alike : ∀ slot ∈ slots, ∀ value other, related slot value other →
      ReadsAlike faults slot.read value other)
    {items others : List Json} (sameLength : others.length = items.length)
    (areRelated : ∀ (position : Nat) (slot : Shape) (item other : Json),
      slots[position]? = some slot → items[position]? = some item →
        others[position]? = some other → related slot item other)
    (path : Path) (position : Nat) :
    Except.Rel faults Eq (readSlots slots path position (items.map some))
      (readSlots slots path position (others.map some)) := by
  induction slots generalizing items others position with
  | nil => exact .ok rfl
  | cons slot rest ih =>
      rw [List.forall_mem_cons] at alike
      cases items with
      | nil =>
          obtain rfl : others = [] := List.length_eq_zero_iff.mp sameLength
          exact .ok rfl
      | cons item items =>
          cases others with
          | nil => cases sameLength
          | cons other others =>
              simp only [List.map_cons, readSlots]
              have firstAlike := alike.1 item other (areRelated 0 slot item other rfl rfl rfl)
              have restAlike := ih alike.2 (by simpa using sameLength)
                (fun place => areRelated (place + 1)) (position + 1)
              refine (firstAlike _).bind ?_
              rintro cells _ _ rfl
              refine restAlike.bind ?_
              rintro cells _ _ rfl
              exact .ok rfl

theorem readVariants_alike (fault : ∀ fault, faults fault fault)
    {variants : List (String × ObjectShape)}
    (alike : ∀ variant ∈ variants, ∀ field ∈ variant.2.fields, ∀ value other,
      related field.2 value other → ReadsAlike faults field.2.read value other)
    {tag : String} {path : Path} {entries others : List (String × Json)}
    (find : ∀ record, (tag, record) ∈ variants →
      OwnFieldsFindAlike faults related record path entries others) :
    Except.Rel faults Eq (readVariants variants tag path entries)
      (readVariants variants tag path others) := by
  induction variants with
  | nil => exact .ok rfl
  | cons variant rest ih =>
      rcases variant with ⟨name, ⟨fields, rules⟩⟩
      rw [List.forall_mem_cons] at alike
      have restAlike := ih alike.2 fun record inRest => find record (List.mem_cons_of_mem _ inRest)
      by_cases isTag : name = tag
      · subst isTag
        simp only [readVariants, if_true, readOwnFields]
        refine (readFields_alike fault alike.1 (find _ List.mem_cons_self)).bind ?_
        rintro cells _ _ rfl
        refine restAlike.bind ?_
        rintro others _ _ rfl
        exact .ok rfl
      · simp only [readVariants, if_neg isTag, pure_bind]
        refine restAlike.bind ?_
        rintro others _ _ rfl
        exact .ok rfl

/-! ### Shapes -/

/-- Values of one kind pass the check of a shape or fail it alike; those that pass are of a
kind that the shape can read. -/
theorem checked_alike (fault : ∀ fault, faults fault fault) {shape : Shape}
    (readsAccepted : shape.ReadsAccepted) {acceptance : Acceptance}
    (isOf : shape.acceptance? = some acceptance) {value other : Json}
    (sameKind : other.kind = value.kind) {path : Path} {α : Type}
    {next otherNext : Except ValueError α}
    (alike : shape.parseable.contains value.kind = true → Except.Rel faults Eq next otherNext) :
    Except.Rel faults Eq (shape.checkKind path (some value) >>= fun _ => next)
      (shape.checkKind path (some other) >>= fun _ => otherNext) := by
  have desired : shape.desired? = some acceptance.desired := by
    rw [desired?, isOf]
    rfl
  simp only [checkKind, sameKind, accepts, desired, Option.elim_some]
  split
  · rename_i accepted
    -- a valid shape accepts no kind that it cannot read
    exact alike (readsAccepted _ desired _ accepted)
  · exact .refl fault _

theorem object_alike (mirrors : Mirrors faults related) {fields : List (String × Shape)}
    {rules : ObjectRules} (readsAccepted : (object (.record fields rules)).ReadsAccepted)
    (alike : ∀ field ∈ fields, ∀ value other, related field.2 value other →
      ReadsAlike faults field.2.read value other)
    {value other : Json} (isRelated : related (object (.record fields rules)) value other) :
    ReadsAlike faults (object (.record fields rules)).read value other := by
  intro path
  have sameKind := mirrors.kind isRelated
  simp only [read]
  refine checked_alike mirrors.fault readsAccepted rfl sameKind ?_
  intro parseable
  rcases Json.isObject_or_isNull parseable with ⟨entries, rfl⟩ | rfl
  · obtain ⟨others, rfl⟩ := Json.exists_eq_object_of_kind sameKind
    rcases mirrors.fields isRelated path with ⟨known, find⟩
    rw [readObject_object, readObject_object]
    refine known.bind ?_
    rintro _ _ _ rfl
    exact readFields_alike mirrors.fault alike find
  · obtain rfl := Json.eq_null_of_kind sameKind
    exact .refl mirrors.fault _

theorem array_alike (mirrors : Mirrors faults related) {element : Shape} {acceptance : Acceptance}
    (readsAccepted : (array element acceptance).ReadsAccepted)
    (alike : ∀ value other, related element value other →
      ReadsAlike faults element.read value other)
    {value other : Json} (isRelated : related (array element acceptance) value other) :
    ReadsAlike faults (array element acceptance).read value other := by
  intro path
  have sameKind := mirrors.kind isRelated
  simp only [read]
  refine checked_alike mirrors.fault readsAccepted rfl sameKind ?_
  intro parseable
  rcases Json.isArray_or_isNull parseable with ⟨items, rfl⟩ | rfl
  · obtain ⟨others, rfl⟩ := Json.exists_eq_array_of_kind sameKind
    have itemsAlike := (mirrors.items isRelated).imp alike
    refine (readItems_alike itemsAlike path 0).bind ?_
    rintro rows _ _ rfl
    exact .ok rfl
  · obtain rfl := Json.eq_null_of_kind sameKind
    exact .refl mirrors.fault _

theorem keyValue_alike (mirrors : Mirrors faults related) {key value : Shape}
    {acceptance : Acceptance} (readsAccepted : (keyValue key value acceptance).ReadsAccepted)
    (alike : ∀ json other, related value json other → ReadsAlike faults value.read json other)
    {json other : Json} (isRelated : related (keyValue key value acceptance) json other) :
    ReadsAlike faults (keyValue key value acceptance).read json other := by
  intro path
  have sameKind := mirrors.kind isRelated
  simp only [read]
  refine checked_alike mirrors.fault readsAccepted rfl sameKind ?_
  intro parseable
  rcases Json.isObject_or_isNull parseable with ⟨entries, rfl⟩ | rfl
  · obtain ⟨others, rfl⟩ := Json.exists_eq_object_of_kind sameKind
    have entriesAlike := (mirrors.entries isRelated).imp fun entry other isRelated =>
      And.intro isRelated.1 (alike entry.2 other.2 isRelated.2)
    refine (readEntries_alike mirrors.fault entriesAlike path).bind ?_
    rintro rows _ _ rfl
    exact .ok rfl
  · obtain rfl := Json.eq_null_of_kind sameKind
    exact .refl mirrors.fault _

theorem tuple_alike (mirrors : Mirrors faults related) {slots : List Shape}
    {acceptance : Acceptance} (readsAccepted : (tuple slots acceptance).ReadsAccepted)
    (alike : ∀ slot ∈ slots, ∀ value other, related slot value other →
      ReadsAlike faults slot.read value other)
    {value other : Json} (isRelated : related (tuple slots acceptance) value other) :
    ReadsAlike faults (tuple slots acceptance).read value other := by
  intro path
  have sameKind := mirrors.kind isRelated
  simp only [read]
  refine checked_alike mirrors.fault readsAccepted rfl sameKind ?_
  intro parseable
  rcases Json.isArray_or_isNull parseable with ⟨items, rfl⟩ | rfl
  · obtain ⟨others, rfl⟩ := Json.exists_eq_array_of_kind sameKind
    rcases mirrors.slots isRelated with ⟨sameLength, areRelated⟩
    simp only [sameLength]
    split
    · exact readSlots_alike alike sameLength areRelated path 0
    · exact .refl mirrors.fault _
  · obtain rfl := Json.eq_null_of_kind sameKind
    exact .refl mirrors.fault _

theorem typed_alike (mirrors : Mirrors faults related) {rules : VariantRules}
    {shared : List (String × Shape)} {variants : List (String × ObjectShape)}
    (readsAccepted : (typed rules shared variants).ReadsAccepted)
    (sharedAlike : ∀ field ∈ shared, ∀ value other, related field.2 value other →
      ReadsAlike faults field.2.read value other)
    (variantsAlike : ∀ variant ∈ variants, ∀ field ∈ variant.2.fields, ∀ value other,
      related field.2 value other → ReadsAlike faults field.2.read value other)
    {value other : Json} (isRelated : related (typed rules shared variants) value other) :
    ReadsAlike faults (typed rules shared variants).read value other := by
  intro path
  have sameKind := mirrors.kind isRelated
  simp only [read]
  refine checked_alike mirrors.fault readsAccepted rfl sameKind ?_
  intro parseable
  rcases Json.isObject_or_isNull parseable with ⟨entries, rfl⟩ | rfl
  · obtain ⟨others, rfl⟩ := Json.exists_eq_object_of_kind sameKind
    refine (mirrors.tag isRelated path).bind ?_
    rintro tag? _ isTag rfl
    cases tag? with
    | none => exact .ok rfl
    | some tag =>
        -- the type is the same in both, and so are the fields that are read from here on
        rcases mirrors.variant isRelated path tag isTag with ⟨known, sharedFind, ownFind⟩
        refine known.bind ?_
        rintro _ _ _ rfl
        refine (readFields_alike mirrors.fault sharedAlike sharedFind).bind ?_
        rintro sharedCells _ _ rfl
        refine (readVariants_alike mirrors.fault variantsAlike ownFind).bind ?_
        rintro cells _ _ rfl
        exact .ok rfl
  · obtain rfl := Json.eq_null_of_kind sameKind
    exact .refl mirrors.fault _

/-- Values that mirror each other are read alike by every valid shape. -/
theorem read_alike (mirrors : Mirrors faults related) (shape : Shape) :
    shape.IsValid → ∀ value other, related shape value other →
      ReadsAlike faults shape.read value other := by
  induction shape with
  | leaf scalar =>
      intro _ value other isRelated path
      simp only [read]
      refine (mirrors.leaf isRelated path).bind ?_
      rintro cell _ _ rfl
      exact .ok rfl
  | object fields rules ih =>
      intro valid value other isRelated
      apply object_alike mirrors valid.readsAccepted ?_ isRelated
      intro field fieldMem
      exact ih field fieldMem (valid.part (field_mem_parts fieldMem))
  | array element acceptance ih =>
      intro valid value other isRelated
      exact array_alike mirrors valid.readsAccepted (ih (valid.part (by simp [parts]))) isRelated
  | keyValue key value acceptance _ ih =>
      intro valid json other isRelated
      exact keyValue_alike mirrors valid.readsAccepted (ih (valid.part (by simp [parts])))
        isRelated
  | tuple slots acceptance ih =>
      intro valid value other isRelated
      apply tuple_alike mirrors valid.readsAccepted ?_ isRelated
      intro slot slotMem
      exact ih slot slotMem (valid.part slotMem)
  | typed rules shared variants sharedIh variantsIh =>
      intro valid value other isRelated
      apply typed_alike mirrors valid.readsAccepted ?_ ?_ isRelated
      · intro field fieldMem
        exact sharedIh field fieldMem (valid.part (shared_mem_parts fieldMem))
      · intro variant variantMem field fieldMem
        have variantValid := valid.part (variant_mem_parts variantMem)
        exact variantsIh variant variantMem field fieldMem
          (variantValid.part (field_mem_parts fieldMem))
  | any =>
      intro _ value other isRelated path
      simp only [read, mirrors.any isRelated]
      exact .ok rfl
  | skip acceptance =>
      intro valid value other isRelated path
      simp only [read]
      refine checked_alike mirrors.fault valid.readsAccepted rfl (mirrors.kind isRelated) ?_
      intro _
      exact .ok rfl

/-- Rows are filled alike from values that mirror each other. -/
theorem fill_alike (mirrors : Mirrors faults related) {shape : Shape} (valid : shape.IsValid)
    {value other : Json} (isRelated : related shape value other) (path : Path) (row : Array Cell) :
    Except.Rel faults Eq (shape.fill path (some value) row)
      (shape.fill path (some other) row) := by
  rw [fill_eq, fill_eq]
  apply (read_alike mirrors shape valid value other isRelated path).map
  rintro cells _ rfl
  rfl

/-- Documents that mirror each other have the same rows, or faults that are related. -/
theorem readRows_alike (mirrors : Mirrors faults related) {shape : Shape} (valid : shape.IsValid)
    {value other : Json} (isRelated : related shape value other) :
    Except.Rel faults Eq (Layout.readRows shape (some value))
      (Layout.readRows shape (some other)) := by
  cases shape with
  | array element acceptance =>
      have sameKind := mirrors.kind isRelated
      have elementAlike := read_alike mirrors element (valid.part List.mem_cons_self)
      simp only [Layout.readRows, ownRow_eq (fill_eq element)]
      refine checked_alike mirrors.fault valid.readsAccepted rfl sameKind ?_
      intro parseable
      rcases Json.isArray_or_isNull parseable with ⟨items, rfl⟩ | rfl
      · obtain ⟨others, rfl⟩ := Json.exists_eq_array_of_kind sameKind
        exact readItems_alike ((mirrors.items isRelated).imp elementAlike) [] 0
      · obtain rfl := Json.eq_null_of_kind sameKind
        exact .refl mirrors.fault _
  | _ =>
      simp only [Layout.readRows, ownRow_eq (fill_eq _)]
      refine (read_alike mirrors _ valid value other isRelated []).bind ?_
      rintro cells _ _ rfl
      exact .ok rfl

end

end Shape

end JsonTables
