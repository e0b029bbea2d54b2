import JsonTables.Proofs.LookedUp
import JsonTables.Proofs.Loosening
import JsonTables.Proofs.ValidShapes

/-!
# Strict objects

An object that admits no unknown fields and no repeated ones accounts for its entries:
each is read by one field, and no field reads two.  Three checks together see to this.
The check of the shape keeps the names of fields apart, that of the entries finds those
that no field knows, and a field that is found twice is refused.
-/

namespace JsonTables

namespace Shape

/-- Whether a field reads an entry, each given by its place. -/
def ReadsAt (fields : List (String × FieldMatching)) (entries : List (String × Json))
    (place position : Nat) : Prop :=
  ∃ field entry, fields[place]? = some field ∧ entries[position]? = some entry ∧
    field.2.accepts field.1 entry.1 = true

/-- Whether each entry is read by one field, each field reads one entry at most, and the
value that a field is found to have is that of the entry it reads. -/
structure AccountsFor (fields : List (String × FieldMatching)) (entries : List (String × Json)) :
    Prop where
  reader : ∀ position < entries.length, ∃! place, ReadsAt fields entries place position
  single : ∀ place position other, ReadsAt fields entries place position →
    ReadsAt fields entries place other → position = other
  value : ∀ field ∈ fields, ∀ entry ∈ entries, field.2.accepts field.1 entry.1 = true →
    ∀ repeats path, findField entries field.1 field.2 repeats path = .ok (some entry.2)

/-- Whether no two entries are accepted by a field. -/
def AcceptsOnce (field : String × FieldMatching) (entries : List (String × Json)) : Prop :=
  entries.Pairwise fun entry other =>
    field.2.accepts field.1 entry.1 = true → field.2.accepts field.1 other.1 = false

section Fields

variable {field : String × FieldMatching} {entries : List (String × Json)}

theorem filter_of_acceptsOnce (once : AcceptsOnce field entries) {entry : String × Json}
    (entryMem : entry ∈ entries) (accepted : field.2.accepts field.1 entry.1 = true) :
    (entries.filter fun other => field.2.accepts field.1 other.1) = [entry] := by
  induction entries with
  | nil => cases entryMem
  | cons first rest ih =>
      rcases List.pairwise_cons.mp once with ⟨firstOnce, restOnce⟩
      rcases List.mem_cons.mp entryMem with rfl | inRest
      · have noOther : (rest.filter fun other => field.2.accepts field.1 other.1) = [] := by
          apply List.filter_eq_nil_iff.mpr
          intro other otherMem
          simp [firstOnce other otherMem accepted]
        rw [List.filter_cons_of_pos (by exact accepted), noOther]
      · have notFirst : ¬field.2.accepts field.1 first.1 = true := by
          intro isFirst
          simp [firstOnce entry inRest isFirst] at accepted
        rw [List.filter_cons_of_neg (by exact notFirst)]
        exact ih restOnce inRest

theorem findField_of_acceptsOnce (once : AcceptsOnce field entries) {entry : String × Json}
    (entryMem : entry ∈ entries) (accepted : field.2.accepts field.1 entry.1 = true)
    (repeats : RepeatPolicy) (path : Path) :
    findField entries field.1 field.2 repeats path = .ok (some entry.2) := by
  simp only [findField, filter_of_acceptsOnce once entryMem accepted]

/-- A field that may not be repeated is found only where it accepts one entry at most. -/
theorem acceptsOnce_of_findField {repeats : RepeatPolicy} {path : Path} {found : Option Json}
    (isFound : findField entries field.1 field.2 repeats path = .ok found)
    (strict : field.2.repeats.getD repeats = .error) : AcceptsOnce field entries := by
  have atMostOne : (entries.filter fun entry => field.2.accepts field.1 entry.1).length ≤ 1 := by
    simp only [findField, strict] at isFound
    split at isFound
    · rename_i none
      simp [none]
    · rename_i one
      simp [one]
    · cases isFound
  clear isFound
  induction entries with
  | nil => exact .nil
  | cons first rest ih =>
      cases accepted : field.2.accepts field.1 first.1 with
      | false =>
          rw [List.filter_cons_of_neg (by simp [accepted])] at atMostOne
          refine List.pairwise_cons.mpr ⟨?_, ih atMostOne⟩
          intro _ _ isFirst
          simp [accepted] at isFirst
      | true =>
          rw [List.filter_cons_of_pos (by simp [accepted]), List.length_cons] at atMostOne
          refine List.pairwise_cons.mpr ⟨?_, ih (by omega)⟩
          intro other otherMem _
          have noOther : (rest.filter fun entry => field.2.accepts field.1 entry.1) = [] :=
            List.length_eq_zero_iff.mp (by omega)
          simpa using List.filter_eq_nil_iff.mp noOther other otherMem

/-- Where fields are read, each is found in its way. -/
theorem findField_of_readFields {fields : List (String × Shape)}
    {matching : List (String × FieldMatching)} {repeats : RepeatPolicy} {path : Path}
    {cells : List Cell} (areRead : readFields fields matching repeats path entries = .ok cells) :
    ∀ field ∈ fields, ∃ found, findField entries field.1
      (ObjectShape.matchingIn matching field.1) repeats path = .ok found := by
  induction fields generalizing cells with
  | nil => simp
  | cons field rest ih =>
      simp only [readFields, Except.bind_eq_ok_iff] at areRead
      rcases areRead with ⟨found, isFound, _, _, _, restRead, _⟩
      rw [List.forall_mem_cons]
      exact ⟨⟨found, isFound⟩, ih restRead⟩

end Fields

/-- Fields that are apart, know every entry and accept one at most account for the
entries. -/
theorem accountsFor_of_apart {fields : List (String × FieldMatching)}
    {entries : List (String × Json)}
    (apart : fields.Pairwise (ObjectShape.Apart Text.toLower))
    (known : ∀ entry ∈ entries, ∃ field ∈ fields, field.2.accepts field.1 entry.1 = true)
    (once : ∀ field ∈ fields, AcceptsOnce field entries) : AccountsFor fields entries := by
  have notBefore : ∀ {first second position : Nat}, ReadsAt fields entries first position →
      ReadsAt fields entries second position → ¬first < second := by
    rintro first second position ⟨field, entry, fieldAt, entryAt, accepted⟩
      ⟨otherField, other, otherFieldAt, otherAt, otherAccepted⟩ before
    obtain rfl : entry = other := by simpa [entryAt] using otherAt
    have notAccepted := pairwise_iff_getElem?.mp apart before fieldAt otherFieldAt entry.1 accepted
    simp [otherAccepted] at notAccepted
  have notEarlier : ∀ {place first second : Nat}, ReadsAt fields entries place first →
      ReadsAt fields entries place second → ¬first < second := by
    rintro place first second ⟨field, entry, fieldAt, entryAt, accepted⟩
      ⟨otherField, other, otherFieldAt, otherAt, otherAccepted⟩ before
    obtain rfl : field = otherField := by simpa [fieldAt] using otherFieldAt
    have acceptsOnce := once field (List.mem_of_getElem? fieldAt)
    have notAccepted := pairwise_iff_getElem?.mp acceptsOnce before entryAt otherAt accepted
    simp [otherAccepted] at notAccepted
  refine ⟨?_, ?_, ?_⟩
  · intro position inEntries
    have entryAt : entries[position]? = some entries[position] := List.getElem?_eq_getElem inEntries
    rcases known _ (List.mem_of_getElem? entryAt) with ⟨field, fieldMem, accepted⟩
    rcases List.mem_iff_getElem?.mp fieldMem with ⟨place, fieldAt⟩
    have isReader : ReadsAt fields entries place position :=
      ⟨field, entries[position], fieldAt, entryAt, accepted⟩
    refine ⟨place, isReader, ?_⟩
    intro other otherReader
    have before := notBefore otherReader isReader
    have after := notBefore isReader otherReader
    omega
  · intro place position other isRead otherRead
    have before := notEarlier isRead otherRead
    have after := notEarlier otherRead isRead
    omega
  · intro field fieldMem entry entryMem accepted repeats path
    exact findField_of_acceptsOnce (once field fieldMem) entryMem accepted repeats path

end Shape

namespace ObjectShape

/-- Whether an object admits no unknown fields and no field of it repeated. -/
structure IsStrict (record : ObjectShape) : Prop where
  unknown : record.rules.allowUnknown = false
  repeats : ∀ field ∈ record.matchings, field.2.repeats.getD record.rules.repeats = .error

theorem knows_iff {record : ObjectShape} {key : String} :
    record.knows key = true ↔ ∃ field ∈ record.matchings, field.2.accepts field.1 key = true := by
  simp [knows, matchings]

theorem IsUnambiguous.apart {record : ObjectShape} (unambiguous : record.IsUnambiguous) :
    record.matchings.Pairwise (Apart Text.toLower) :=
  apart_of_namedAt_unique unambiguous.names

/-- The fields of a strict object accept one entry at most, where they have been read. -/
theorem IsStrict.acceptsOnce {record : ObjectShape} (strict : record.IsStrict) {path : Path}
    {entries : List (String × Json)} {cells : List Cell}
    (areRead : Shape.readOwnFields record path entries = .ok cells) :
    ∀ field ∈ record.matchings, Shape.AcceptsOnce field entries := by
  rcases record with ⟨fields, rules⟩
  intro field fieldMem
  rcases List.mem_map.mp fieldMem with ⟨own, ownMem, rfl⟩
  rcases Shape.findField_of_readFields areRead own ownMem with ⟨found, isFound⟩
  exact Shape.acceptsOnce_of_findField isFound (strict.repeats _ fieldMem)

end ObjectShape

namespace Shape

open ObjectShape (Apart IsStrict)

/-- A strict object that is read accounts for its entries. -/
theorem accountsFor_of_readObject {record : ObjectShape} (unambiguous : record.IsUnambiguous)
    (strict : record.IsStrict) {path : Path} {entries : List (String × Json)} {cells : List Cell}
    (isRead : readObject record path (some (.object entries)) = .ok cells) :
    AccountsFor record.matchings entries := by
  rcases record with ⟨fields, rules⟩
  rcases readObject_eq_ok_iff.mp isRead with ⟨unknown | known, areRead⟩
  · have refused : rules.allowUnknown = false := strict.unknown
    simp [unknown] at refused
  · apply accountsFor_of_apart unambiguous.apart
    · intro entry entryMem
      exact ObjectShape.knows_iff.mp (known entry entryMem)
    · exact strict.acceptsOnce areRead

/-- The fields of an object of a type: that of the type, the shared ones and its own. -/
def fieldsOfType (rules : VariantRules) (shared : List (String × Shape)) (record : ObjectShape) :
    List (String × FieldMatching) :=
  (rules.typeField, .exact) :: (shared.map fun field => (field.1, .exact)) ++ record.matchings

theorem accepts_exact_iff {name key : String} :
    FieldMatching.exact.accepts name key = true ↔ name = key := by
  simp [FieldMatching.exact, FieldMatching.accepts, FieldMatching.names, FieldMatching.sameName]

theorem apart_exact_iff {name : String} {field : String × FieldMatching} :
    Apart Text.toLower (name, .exact) field ↔ field.2.accepts field.1 name = false := by
  constructor
  · intro apart
    exact apart name (accepts_exact_iff.mpr rfl)
  · intro refused key isName
    rw [← accepts_exact_iff.mp isName]
    exact refused

/-- The fields of an object of a type are apart, if the shared ones have different names
and the object may stand beside them. -/
theorem apart_fieldsOfType {rules : VariantRules} {shared : List (String × Shape)}
    {record : ObjectShape} (typeFree : rules.typeField ∉ shared.map (·.1))
    (sharedDiffer : (shared.map (·.1)).Nodup)
    (beside : record.IsVariantBeside (shared.map (·.1) ++ [rules.typeField])) :
    (fieldsOfType rules shared record).Pairwise (Apart Text.toLower) := by
  have apartFromOwn : ∀ name ∈ shared.map (·.1) ++ [rules.typeField],
      ∀ field ∈ record.matchings, Apart Text.toLower (name, .exact) field := by
    intro name nameMem field fieldMem
    apply apart_exact_iff.mpr
    by_contra accepted
    have known := ObjectShape.knows_iff.mpr ⟨field, fieldMem, by simpa using accepted⟩
    simp [beside.unknown name nameMem] at known
  have apartNames : ∀ {first second : String}, first ≠ second →
      Apart Text.toLower (first, .exact) (second, .exact) := by
    intro first second differ
    apply apart_exact_iff.mpr
    by_contra accepted
    exact differ (accepts_exact_iff.mp (by simpa using accepted)).symm
  refine List.pairwise_append.mpr ⟨List.pairwise_cons.mpr ⟨?_, ?_⟩, beside.unambiguous.apart, ?_⟩
  · rw [List.forall_mem_map]
    intro field fieldMem
    apply apartNames
    rintro isType
    exact typeFree (isType ▸ List.mem_map_of_mem fieldMem)
  · rw [List.pairwise_map]
    exact (List.pairwise_map.mp sharedDiffer).imp apartNames
  · rw [List.forall_mem_cons, List.forall_mem_map]
    constructor
    · exact apartFromOwn rules.typeField (by simp)
    · intro field fieldMem
      exact apartFromOwn field.1 (List.mem_append_left _ (List.mem_map_of_mem fieldMem))

theorem head?_filter_exact (entries : List (String × Json)) (name : String) :
    (entries.filter fun entry => FieldMatching.exact.accepts name entry.1).head?.map (·.2) =
      entries.lookup name := by
  induction entries with
  | nil => rfl
  | cons first rest ih =>
      by_cases isName : name = first.1
      · have accepted := accepts_exact_iff.mpr isName
        rw [List.filter_cons_of_pos (by exact accepted)]
        simp [List.lookup, isName]
      · have refused : ¬FieldMatching.exact.accepts name first.1 = true := by
          rw [accepts_exact_iff]
          exact isName
        rw [List.filter_cons_of_neg (by exact refused), ih]
        simp [List.lookup, beq_eq_false_iff_ne.mpr isName]

/-- A field that has its own name alone is found at the first entry of that name. -/
theorem lookup_of_findField {entries : List (String × Json)} {name : String}
    {repeats : RepeatPolicy} {path : Path} {found : Option Json}
    (isFound : findField entries name .exact repeats path = .ok found) :
    entries.lookup name = found := by
  rw [← head?_filter_exact]
  simp only [findField] at isFound
  split at isFound
  · rename_i none
    cases isFound
    simp [none]
  · rename_i one
    cases isFound
    simp [one]
  · rename_i several
    rw [several]
    split at isFound <;> cases isFound
    rfl

/-- Where the field of the type holds a text, the type is found to be that text. -/
theorem findField_of_readTag {rules : VariantRules} {entries : List (String × Json)}
    {path : Path} {tag : String} {tag? : Option String}
    (isTag : entries.lookup rules.typeField = some (.string tag))
    (isRead : readTag rules entries path = .ok tag?) :
    findField entries rules.typeField .exact rules.repeats path = .ok (some (.string tag)) ∧
      tag? = some tag := by
  simp only [readTag, Except.bind_eq_ok_iff] at isRead
  rcases isRead with ⟨found, isFound, isRead⟩
  rw [lookup_of_findField isFound] at isTag
  subst isTag
  cases isRead
  exact ⟨isFound, rfl⟩

theorem readOwnFields_of_readVariants {variants : List (String × ObjectShape)} {tag : String}
    {record : ObjectShape} (isSelected : variants.lookup tag = some record) {path : Path}
    {entries : List (String × Json)} {cells : List Cell}
    (areRead : readVariants variants tag path entries = .ok cells) :
    ∃ own, readOwnFields record path entries = .ok own := by
  induction variants generalizing cells with
  | nil => cases isSelected
  | cons variant rest ih =>
      rcases variant with ⟨name, other⟩
      by_cases isName : tag = name
      · subst isName
        simp only [List.lookup, beq_self_eq_true, Option.some.injEq] at isSelected
        subst isSelected
        simp only [readVariants, if_true, Except.bind_eq_ok_iff] at areRead
        rcases areRead with ⟨own, ownRead, _⟩
        exact ⟨own, ownRead⟩
      · simp only [List.lookup, beq_eq_false_iff_ne.mpr isName] at isSelected
        simp only [readVariants, if_neg (Ne.symm isName), Except.bind_eq_ok_iff] at areRead
        rcases areRead with ⟨_, _, others, othersRead, _⟩
        exact ih isSelected othersRead

/-- An object of a known type that is strict accounts for its entries, where neither the
field of the type nor a shared one may be repeated. -/
theorem accountsFor_of_readTyped {rules : VariantRules} {shared : List (String × Shape)}
    {variants : List (String × ObjectShape)} {record : ObjectShape}
    (obeys : (typed rules shared variants).ObeysOwnRules)
    (sharedDiffer : (shared.map (·.1)).Nodup) (repeats : rules.repeats = .error)
    (strict : record.IsStrict) {path : Path} {entries : List (String × Json)} {tag : String}
    (isTag : entries.lookup rules.typeField = some (.string tag))
    (isSelected : variants.lookup tag = some record) {cells : List Cell}
    (isRead : read (typed rules shared variants) path (some (.object entries)) = .ok cells) :
    AccountsFor (fieldsOfType rules shared record) entries := by
  rcases obeys with ⟨typeFree, besides⟩
  have beside := besides (tag, record) (mem_of_lookup isSelected)
  simp only [read, Except.bind_eq_ok_iff] at isRead
  rcases isRead with ⟨_, _, tag?, tagRead, isRead⟩
  rcases findField_of_readTag isTag tagRead with ⟨typeFound, rfl⟩
  simp only [Except.bind_eq_ok_iff, isSelected] at isRead
  rcases isRead with ⟨_, entriesPass, _, sharedRead, _, variantsRead, _⟩
  rcases readOwnFields_of_readVariants isSelected variantsRead with ⟨own, ownRead⟩
  apply accountsFor_of_apart (apart_fieldsOfType typeFree sharedDiffer beside)
  · rcases checkEntries_some_eq_ok_iff.mp entriesPass with unknown | known
    · simp [strict.unknown] at unknown
    · intro entry entryMem
      have isKnown := known entry entryMem
      simp only [Bool.or_eq_true, beq_iff_eq, List.contains_iff_mem, List.mem_map,
        ObjectShape.knows_iff] at isKnown
      simp only [fieldsOfType, List.cons_append, List.mem_cons, List.mem_append, List.mem_map]
      rcases isKnown with (isType | ⟨field, fieldMem, isShared⟩) | ⟨field, fieldMem, accepted⟩
      · exact ⟨(rules.typeField, .exact), .inl rfl, accepts_exact_iff.mpr isType.symm⟩
      · exact ⟨(field.1, .exact), .inr (.inl ⟨field, fieldMem, rfl⟩),
          accepts_exact_iff.mpr isShared⟩
      · exact ⟨field, .inr (.inr fieldMem), accepted⟩
  · simp only [fieldsOfType, List.cons_append, List.forall_mem_cons, List.forall_mem_append,
      List.forall_mem_map]
    refine ⟨?_, ?_, strict.acceptsOnce ownRead⟩
    · exact acceptsOnce_of_findField typeFound repeats
    · intro field fieldMem
      rcases findField_of_readFields sharedRead field fieldMem with ⟨found, isFound⟩
      exact acceptsOnce_of_findField isFound repeats

/-- A valid object that is strict accounts for the entries of every object that it is
filled from: each entry is read by one field, and each field reads one entry at most.  So
does a valid object with types for an object of a type that is strict, the field of the
type and the shared fields being among the fields. -/
theorem strict_objects_account_for_entries {shape : Shape} (passed : shape.check = .ok ())
    {path : Path} {entries : List (String × Json)} {row filled : Array Cell}
    (isFilled : shape.fill path (some (.object entries)) row = .ok filled) :
    (∀ record, shape = .object record → record.IsStrict →
      AccountsFor record.matchings entries) ∧
    ∀ rules shared variants tag record, shape = .typed rules shared variants →
      (shared.map (·.1)).Nodup → rules.repeats = .error →
        entries.lookup rules.typeField = some (.string tag) →
          variants.lookup tag = some record → record.IsStrict →
            AccountsFor (fieldsOfType rules shared record) entries := by
  have obeys := (check_eq_ok_iff.mp passed).2
  have isRead : ∃ cells, shape.read path (some (.object entries)) = .ok cells := by
    rw [fill_eq] at isFilled
    cases isRead : shape.read path (some (.object entries)) with
    | error fault => simp [isRead, behind, Except.map] at isFilled
    | ok cells => exact ⟨cells, rfl⟩
  rcases isRead with ⟨cells, isRead⟩
  constructor
  · rintro record rfl strict
    simp only [read, Except.bind_eq_ok_iff] at isRead
    rcases isRead with ⟨_, _, objectRead⟩
    exact accountsFor_of_readObject obeys strict objectRead
  · rintro rules shared variants tag record rfl sharedDiffer repeats isTag isSelected strict
    exact accountsFor_of_readTyped obeys sharedDiffer repeats strict isTag isSelected isRead

/-- An object with a type, a shared field and a field in either case of letters. -/
theorem strict_typed_object_accounts_for_entries :
    let record : ObjectShape := .record [("size", any)]
      { allowUnknown := false, acceptance := ⟨true, .ofList [.object]⟩, repeats := .error
        matching := [("size", { ignoresCase := true })] }
    let rules : VariantRules := ⟨"kind", true, ⟨true, .ofList [.object]⟩, .error⟩
    let entries : List (String × Json) :=
      [("SIZE", .number "3"), ("kind", .string "box"), ("id", .number "7")]
    let shape := typed rules [("id", any)] [("box", record)]
    let filled : Array Cell := #[.string "box", .json (.number "7"), .json (.number "3")]
    shape.check = .ok () ∧ shape.fill [] (some (.object entries)) #[] = .ok filled ∧
      (object record).check = .ok () ∧
      (object record).fill [] (some (.object [("Size", .null)])) #[] = .ok #[.null] ∧
      AccountsFor (fieldsOfType rules [("id", any)] record) entries ∧
      AccountsFor record.matchings [("Size", .null)] := by
  intro record rules entries shape filled
  have passed : shape.check = .ok () := by cbv
  have isFilled : shape.fill [] (some (.object entries)) #[] = .ok filled := by cbv
  have objectPassed : (object record).check = .ok () := by cbv
  have objectFilled :
      (object record).fill [] (some (.object [("Size", .null)])) #[] = .ok #[.null] := by cbv
  have strict : record.IsStrict := ⟨rfl, by decide⟩
  have accounts := (strict_objects_account_for_entries passed isFilled).2 rules [("id", any)]
    [("box", record)] "box" record rfl (by decide) rfl rfl rfl strict
  have objectAccounts := (strict_objects_account_for_entries objectPassed objectFilled).1 record
    rfl strict
  exact ⟨passed, isFilled, objectPassed, objectFilled, accounts, objectAccounts⟩

end Shape

end JsonTables
