import JsonTables.Proofs.AskedParts

/-!
# Faults and their places

A value is read on from the place where it was found, and the place has no say in what is read:
only a fault tells it.  On from two places a value comes to the same cells, or to the same fault
at the end of the same steps.  Every one of these steps leads into a part that is there: to a
field that the shape declares or to the field of its type, to a key of an object that is a map,
or to a position of a list or a tuple.
-/

namespace JsonTables

/-- The text of steps, the first one first. -/
def renderSteps : List Step → String
  | [] => ""
  | step :: rest => step.render ++ renderSteps rest

/-- The text of a path that goes on is the text of the path and that of the steps. -/
theorem Path.render_goesOn (steps : List Step) (path : Path) :
    Path.render (steps.reverse ++ path) = path.render ++ renderSteps steps := by
  induction steps generalizing path with
  | nil => simp [renderSteps]
  | cons step rest ih =>
      rw [List.reverse_cons, List.append_assoc, List.singleton_append, ih, renderSteps,
        Path.render, String.append_assoc]

namespace Shape

/-- Whether steps lead from a value, or none, that a shape reads into a part where a fault may be:
to nowhere, to the field of the type, or to what the shape asks a part of it to read and on from
there. -/
inductive Leads : Shape → Option Json → List Step → Prop
  | here {shape : Shape} {value? : Option Json} : Leads shape value? []
  | type {rules : VariantRules} {shared : List (String × Shape)}
      {variants : List (String × ObjectShape)} {entries : List (String × Json)} :
      Leads (typed rules shared variants) (some (.object entries)) [.field rules.typeField]
  | inside {shape part : Shape} {value? part? : Option Json} {step : Step} {steps : List Step}
      (path : Path) (asks : Asks shape path value? part (step :: path) part?)
      (leads : Leads part part? steps) : Leads shape value? (step :: steps)

/-! ### Faults on from two places -/

/-- Whether two faults have one cause, and are at the end of the same steps on from two places. -/
structure SameFault (leads : List Step → Prop) (first second : Path) (fault other : ValueError) :
    Prop where
  cause : fault.misfit = other.misfit
  steps : ∃ steps, leads steps ∧ fault.path = steps.reverse ++ first ∧
    other.path = steps.reverse ++ second

/-- Whether two computations come to one result, or to one fault on from two places. -/
abbrev Located {α : Type} (leads : List Step → Prop) (first second : Path) :
    Except ValueError α → Except ValueError α → Prop :=
  Except.Rel (SameFault leads first second) Eq

/-- Whether a reading of a value comes to the same on from any two places. -/
def ReadsOn (read : Path → Option Json → Row) (value? : Option Json)
    (leads : List Step → Prop) : Prop :=
  ∀ first second, Located leads first second (read first value?) (read second value?)

section

variable {α : Type} {leads inner : List Step → Prop} {first second : Path}

theorem misfit_located (here : leads []) (cause : Misfit) :
    Located leads first second (misfit first cause : Except ValueError α) (misfit second cause) :=
  .error ⟨rfl, [], here, rfl, rfl⟩

theorem misfit_field_located {name : String} (atField : leads [.field name]) (cause : Misfit) :
    Located leads first second (misfit (.field name :: first) cause : Except ValueError α)
      (misfit (.field name :: second) cause) :=
  .error ⟨rfl, [.field name], atField, rfl, rfl⟩

theorem Located.mono {outcome other : Except ValueError α}
    (located : Located inner first second outcome other)
    (weaker : ∀ steps, inner steps → leads steps) :
    Located leads first second outcome other := by
  cases located with
  | ok same => exact .ok same
  | error fault =>
      rcases fault with ⟨sameCause, steps, isInner, isFirst, isSecond⟩
      exact .error ⟨sameCause, steps, weaker steps isInner, isFirst, isSecond⟩

/-- What is read one step on is at fault one step on. -/
theorem Located.inside {outcome other : Except ValueError α} {step : Step}
    (located : Located (fun steps => leads (step :: steps)) (step :: first) (step :: second)
      outcome other) : Located leads first second outcome other := by
  cases located with
  | ok same => exact .ok same
  | error fault =>
      rcases fault with ⟨sameCause, steps, isInner, isFirst, isSecond⟩
      refine .error ⟨sameCause, step :: steps, isInner, ?_, ?_⟩
      · rw [isFirst, List.reverse_cons, List.append_assoc, List.singleton_append]
      · rw [isSecond, List.reverse_cons, List.append_assoc, List.singleton_append]

theorem ReadsOn.mono {read : Path → Option Json → Row} {value? : Option Json}
    (reads : ReadsOn read value? inner) (weaker : ∀ steps, inner steps → leads steps) :
    ReadsOn read value? leads :=
  fun first second => (reads first second).mono weaker

/-! ### Checks -/

theorem checkKind_located (here : leads []) (shape : Shape) (value? : Option Json) :
    Located leads first second (shape.checkKind first value?)
      (shape.checkKind second value?) := by
  cases value? with
  | none =>
      simp only [checkKind]
      split
      · exact .ok rfl
      · exact misfit_located here _
  | some value =>
      simp only [checkKind]
      split
      · exact .ok rfl
      · exact misfit_located here _

theorem readLeaf_located (here : leads []) (scalar : Leaf) (value? : Option Json) :
    Located leads first second (scalar.read first value?) (scalar.read second value?) := by
  simp only [Leaf.read]
  split
  · split
    · exact .ok rfl
    · exact misfit_located here _
  · split
    · exact .ok rfl
    · exact misfit_located here _
  · split
    · split
      · exact .ok rfl
      · exact misfit_located here _
    · exact misfit_located here _

theorem findField_located (here : leads []) (entries : List (String × Json)) (name : String)
    (matching : FieldMatching) (repeats : RepeatPolicy) :
    Located leads first second (findField entries name matching repeats first)
      (findField entries name matching repeats second) := by
  simp only [findField]
  split
  · exact .ok rfl
  · exact .ok rfl
  · split
    · exact .ok rfl
    · exact misfit_located here _

/-- A check for unknown entries is at fault with the object itself. -/
theorem unlessAllowed_located (here : leads []) (cause : String → Misfit) (allowUnknown : Bool)
    (unknown : Option (String × Json)) :
    Located leads first second
      (do
        unless allowUnknown do
          if let some (key, _) := unknown then misfit first (cause key))
      (do
        unless allowUnknown do
          if let some (key, _) := unknown then misfit second (cause key)) := by
  split
  · exact .ok rfl
  · split
    · exact misfit_located here _
    · exact .ok rfl

theorem checkKnown_located (here : leads []) (record : ObjectShape)
    (entries : List (String × Json)) :
    Located leads first second (checkKnown record first entries)
      (checkKnown record second entries) := by
  rcases record with ⟨fields, rules⟩
  exact unlessAllowed_located here _ _ _

theorem readTag_located {rules : VariantRules} (here : leads [])
    (atType : leads [.field rules.typeField]) (entries : List (String × Json)) :
    Located leads first second (readTag rules entries first) (readTag rules entries second) := by
  refine (findField_located here entries rules.typeField .exact rules.repeats).bind ?_
  rintro found _ _ rfl
  split
  · exact .ok rfl
  · split
    · exact .ok rfl
    · exact misfit_field_located atType _
  · exact misfit_field_located atType _
  · exact misfit_located here _

theorem checkEntries_located {rules : VariantRules} (here : leads [])
    (atType : leads [.field rules.typeField]) (shared : List String)
    (selected : Option ObjectShape) (tag : String) (entries : List (String × Json)) :
    Located leads first second (checkEntries rules shared selected tag entries first)
      (checkEntries rules shared selected tag entries second) := by
  cases selected with
  | none =>
      simp only [checkEntries]
      split
      · exact .ok rfl
      · exact misfit_field_located atType _
  | some record => exact unlessAllowed_located here _ _ _

/-! ### Lists of parts -/

theorem readItems_located {read : Path → Option Json → Row} {position : Nat} {items : List Json}
    (reads : ∀ index item, items[index]? = some item →
      ReadsOn read (some item) fun steps => leads (.index (position + index) :: steps)) :
    Located leads first second (readItems read first position items)
      (readItems read second position items) := by
  induction items generalizing position with
  | nil => exact .ok rfl
  | cons item rest ih =>
      have restReads : ∀ index other, rest[index]? = some other →
          ReadsOn read (some other) fun steps =>
            leads (.index (position + 1 + index) :: steps) := by
        intro index other isOther
        rw [Nat.add_right_comm]
        exact reads (index + 1) other isOther
      simp only [readItems]
      refine (reads 0 item rfl _ _).inside.bind ?_
      rintro row _ _ rfl
      refine (ih restReads).bind ?_
      rintro rows _ _ rfl
      exact .ok rfl

theorem readEntries_located {readKey readValue : Path → Option Json → Row}
    {entries : List (String × Json)}
    (keyReads : ∀ entry ∈ entries,
      ReadsOn readKey (some (.string entry.1)) fun steps => leads (.field entry.1 :: steps))
    (valueReads : ∀ entry ∈ entries,
      ReadsOn readValue (some entry.2) fun steps => leads (.field entry.1 :: steps)) :
    Located leads first second (readEntries readKey readValue first entries)
      (readEntries readKey readValue second entries) := by
  induction entries with
  | nil => exact .ok rfl
  | cons entry rest ih =>
      rw [List.forall_mem_cons] at keyReads valueReads
      simp only [readEntries]
      refine (keyReads.1 _ _).inside.bind ?_
      rintro keyRow _ _ rfl
      refine (valueReads.1 _ _).inside.bind ?_
      rintro valueRow _ _ rfl
      refine (ih keyReads.2 valueReads.2).bind ?_
      rintro rows _ _ rfl
      exact .ok rfl

theorem readFields_located (here : leads []) {fields : List (String × Shape)}
    {matching : List (String × FieldMatching)} {repeats : RepeatPolicy}
    {entries : List (String × Json)}
    (reads : ∀ field ∈ fields, ∀ found,
      findField entries field.1 (ObjectShape.matchingIn matching field.1) repeats first =
        .ok found → ReadsOn field.2.read found fun steps => leads (.field field.1 :: steps)) :
    Located leads first second (readFields fields matching repeats first entries)
      (readFields fields matching repeats second entries) := by
  induction fields with
  | nil => exact .ok rfl
  | cons field rest ih =>
      rw [List.forall_mem_cons] at reads
      simp only [readFields]
      refine (findField_located here entries field.1 _ repeats).bind ?_
      rintro found _ isFound rfl
      refine (reads.1 found isFound _ _).inside.bind ?_
      rintro cells _ _ rfl
      refine (ih reads.2).bind ?_
      rintro others _ _ rfl
      exact .ok rfl

theorem readAlike_located {fields : List (String × Shape)} {value? : Option Json}
    (reads : ∀ field ∈ fields,
      ReadsOn field.2.read value? fun steps => leads (.field field.1 :: steps)) :
    Located leads first second (readAlike fields first value?)
      (readAlike fields second value?) := by
  induction fields with
  | nil => exact .ok rfl
  | cons field rest ih =>
      rw [List.forall_mem_cons] at reads
      simp only [readAlike]
      refine (reads.1 _ _).inside.bind ?_
      rintro cells _ _ rfl
      refine (ih reads.2).bind ?_
      rintro others _ _ rfl
      exact .ok rfl

theorem readSlots_located {slots : List Shape} {position : Nat} {values : List (Option Json)}
    (reads : ∀ index slot value?, slots[index]? = some slot → values[index]? = some value? →
      ReadsOn slot.read value? fun steps => leads (.index (position + index) :: steps)) :
    Located leads first second (readSlots slots first position values)
      (readSlots slots second position values) := by
  induction slots generalizing values position with
  | nil => exact .ok rfl
  | cons slot rest ih =>
      cases values with
      | nil => exact .ok rfl
      | cons value? values =>
          have restReads : ∀ index other another?, rest[index]? = some other →
              values[index]? = some another? → ReadsOn other.read another? fun steps =>
                leads (.index (position + 1 + index) :: steps) := by
            intro index other another? isOther isAnother
            rw [Nat.add_right_comm]
            exact reads (index + 1) other another? isOther isAnother
          simp only [readSlots]
          refine (reads 0 slot value? rfl rfl _ _).inside.bind ?_
          rintro cells _ _ rfl
          refine (ih restReads).bind ?_
          rintro others _ _ rfl
          exact .ok rfl

theorem readVariants_located (here : leads []) {variants : List (String × ObjectShape)}
    {tag : String} {entries : List (String × Json)}
    (reads : ∀ record, (tag, record) ∈ variants → ∀ field ∈ record.fields, ∀ found,
      findField entries field.1 (ObjectShape.matchingIn record.rules.matching field.1)
        record.rules.repeats first = .ok found →
      ReadsOn field.2.read found fun steps => leads (.field field.1 :: steps)) :
    Located leads first second (readVariants variants tag first entries)
      (readVariants variants tag second entries) := by
  induction variants with
  | nil => exact .ok rfl
  | cons variant rest ih =>
      rcases variant with ⟨name, ⟨fields, rules⟩⟩
      have restLocated := ih fun record inRest => reads record (List.mem_cons_of_mem _ inRest)
      by_cases isTag : name = tag
      · subst isTag
        simp only [readVariants, if_true, readOwnFields]
        refine (readFields_located here (reads _ List.mem_cons_self)).bind ?_
        rintro cells _ _ rfl
        refine restLocated.bind ?_
        rintro others _ _ rfl
        exact .ok rfl
      · simp only [readVariants, if_neg isTag, pure_bind]
        refine restLocated.bind ?_
        rintro others _ _ rfl
        exact .ok rfl

end

/-! ### Shapes -/

theorem read_object_located {fields : List (String × Shape)} {rules : ObjectRules}
    (reads : ∀ field ∈ fields, ∀ part?, ReadsOn field.2.read part? (Leads field.2 part?))
    (value? : Option Json) :
    ReadsOn (object (.record fields rules)).read value?
      (Leads (object (.record fields rules)) value?) := by
  intro first second
  simp only [read]
  refine (checkKind_located .here _ value?).bind ?_
  rintro _ _ - rfl
  by_cases isObject : ∃ entries, value? = some (.object entries)
  · rcases isObject with ⟨entries, rfl⟩
    rw [readObject_object, readObject_object]
    refine (checkKnown_located .here _ entries).bind ?_
    rintro _ _ - rfl
    apply readFields_located .here
    intro field fieldMem found isFound
    exact (reads field fieldMem found).mono fun _ => .inside first (.field fieldMem isFound)
  · have fallsBack : FallsBack (object (.record fields rules)) value? :=
      fun entries isEntries => isObject ⟨entries, isEntries⟩
    have isAlike : ∀ path, readObject (.record fields rules) path value? =
        readAlike fields path value? := by
      intro path
      simp only [readObject]
      split
      · exact absurd rfl (fallsBack _)
      · rfl
    rw [isAlike, isAlike]
    apply readAlike_located
    intro field fieldMem
    exact (reads field fieldMem value?).mono fun _ =>
      .inside first (.fieldAlike fallsBack fieldMem)

theorem read_array_located {element : Shape} (acceptance : Acceptance)
    (reads : ∀ part?, ReadsOn element.read part? (Leads element part?)) (value? : Option Json) :
    ReadsOn (array element acceptance).read value? (Leads (array element acceptance) value?) := by
  intro first second
  simp only [read]
  refine (checkKind_located .here _ value?).bind ?_
  rintro _ _ - rfl
  split
  · rename_i items
    have itemsLocated : Located (Leads (array element acceptance) (some (.array items))) first
        second (readItems element.read first 0 items) (readItems element.read second 0 items) := by
      apply readItems_located
      intro index item isItem
      rw [Nat.zero_add]
      exact (reads (some item)).mono fun _ => .inside first (.item isItem)
    refine itemsLocated.bind ?_
    rintro rows _ _ rfl
    exact .ok rfl
  · exact .ok rfl

theorem read_keyValue_located {key value : Shape} (acceptance : Acceptance)
    (keyReads : ∀ part?, ReadsOn key.read part? (Leads key part?))
    (valueReads : ∀ part?, ReadsOn value.read part? (Leads value part?))
    (value? : Option Json) :
    ReadsOn (keyValue key value acceptance).read value?
      (Leads (keyValue key value acceptance) value?) := by
  intro first second
  simp only [read]
  refine (checkKind_located .here _ value?).bind ?_
  rintro _ _ - rfl
  split
  · rename_i entries
    have entriesLocated : Located (Leads (keyValue key value acceptance) (some (.object entries)))
        first second (readEntries key.read value.read first entries)
        (readEntries key.read value.read second entries) := by
      apply readEntries_located
      · intro entry entryMem
        exact (keyReads _).mono fun _ => .inside first (.key entryMem)
      · intro entry entryMem
        exact (valueReads _).mono fun _ => .inside first (.value entryMem)
    refine entriesLocated.bind ?_
    rintro rows _ _ rfl
    exact .ok rfl
  · exact .ok rfl

theorem read_tuple_located {slots : List Shape} (acceptance : Acceptance)
    (reads : ∀ slot ∈ slots, ∀ part?, ReadsOn slot.read part? (Leads slot part?))
    (value? : Option Json) :
    ReadsOn (tuple slots acceptance).read value? (Leads (tuple slots acceptance) value?) := by
  intro first second
  simp only [read]
  refine (checkKind_located .here _ value?).bind ?_
  rintro _ _ - rfl
  split
  · rename_i items
    split
    · rename_i sameLength
      apply readSlots_located
      intro index slot item? isSlot isItem
      rw [List.getElem?_map, Option.map_eq_some_iff] at isItem
      rcases isItem with ⟨item, isItem, rfl⟩
      rw [Nat.zero_add]
      exact (reads slot (List.mem_of_getElem? isSlot) _).mono fun _ =>
        .inside first (.slot sameLength isSlot isItem)
    · exact misfit_located .here _
  · rename_i notArray
    apply readSlots_located
    intro index slot own? isSlot isOwn
    rw [List.getElem?_map, isSlot, Option.map_some, Option.some.injEq] at isOwn
    rw [Nat.zero_add, ← isOwn]
    exact (reads slot (List.mem_of_getElem? isSlot) _).mono fun _ =>
      .inside first (.slotAlike notArray isSlot)

theorem read_typed_located {rules : VariantRules} {shared : List (String × Shape)}
    {variants : List (String × ObjectShape)}
    (sharedReads : ∀ field ∈ shared, ∀ part?, ReadsOn field.2.read part? (Leads field.2 part?))
    (variantReads : ∀ variant ∈ variants, ∀ field ∈ variant.2.fields, ∀ part?,
      ReadsOn field.2.read part? (Leads field.2 part?))
    (value? : Option Json) :
    ReadsOn (typed rules shared variants).read value?
      (Leads (typed rules shared variants) value?) := by
  intro first second
  simp only [read]
  refine (checkKind_located .here _ value?).bind ?_
  rintro _ _ - rfl
  split
  · rename_i entries
    refine (readTag_located .here .type entries).bind ?_
    rintro tag? _ isTag rfl
    cases tag? with
    | none => exact .ok rfl
    | some tag =>
        refine (checkEntries_located .here .type _ _ tag entries).bind ?_
        rintro _ _ - rfl
        have sharedLocated : Located (Leads (typed rules shared variants) (some (.object entries)))
            first second (readFields shared [] rules.repeats first entries)
            (readFields shared [] rules.repeats second entries) := by
          apply readFields_located .here
          intro field fieldMem found isFound
          exact (sharedReads field fieldMem found).mono fun _ =>
            .inside first (.shared isTag fieldMem isFound)
        refine sharedLocated.bind ?_
        rintro sharedCells _ _ rfl
        have ownLocated : Located (Leads (typed rules shared variants) (some (.object entries)))
            first second (readVariants variants tag first entries)
            (readVariants variants tag second entries) := by
          apply readVariants_located .here
          intro record recordMem field fieldMem found isFound
          exact (variantReads _ recordMem field fieldMem found).mono fun _ =>
            .inside first (.variant isTag recordMem fieldMem isFound)
        refine ownLocated.bind ?_
        rintro cells _ _ rfl
        exact .ok rfl
  · exact .ok rfl

/-- On from any two places a shape reads a value to the same cells, or to the same fault at the
end of steps that lead from the value into a part of it. -/
theorem read_located (shape : Shape) :
    ∀ value?, ReadsOn shape.read value? (Leads shape value?) := by
  induction shape with
  | leaf scalar =>
      intro value? first second
      simp only [read]
      refine (readLeaf_located .here scalar value?).bind ?_
      rintro cell _ _ rfl
      exact .ok rfl
  | object fields rules reads => exact read_object_located reads
  | array element acceptance reads => exact read_array_located acceptance reads
  | keyValue key value acceptance keyReads valueReads =>
      exact read_keyValue_located acceptance keyReads valueReads
  | tuple slots acceptance reads => exact read_tuple_located acceptance reads
  | typed rules shared variants sharedReads variantReads =>
      exact read_typed_located sharedReads variantReads
  | any =>
      intro value? first second
      cases value? <;> exact .ok rfl
  | skip acceptance =>
      intro value? first second
      simp only [read]
      refine (checkKind_located .here _ value?).bind ?_
      rintro _ _ - rfl
      exact .ok rfl

/-- Where a value stands has no say in the cells that are read. -/
theorem read_eq_ok_iff_of_path (shape : Shape) (value? : Option Json) (first second : Path)
    {cells : List Cell} : shape.read first value? = .ok cells ↔
      shape.read second value? = .ok cells := by
  have alike := read_located shape value? first second
  generalize shape.read first value? = outcome at alike
  generalize shape.read second value? = other at alike
  cases alike with
  | ok same => rw [same]
  | error fault => simp

/-- On from any two places a value puts the same cells behind a row, or it has the same fault.
The place of the fault is at the end of steps from the place of the value, and so its text is
the text of that place and that of the steps.  The steps are the same for both, and lead from
the value into a part of it. -/
theorem faults_are_located (shape : Shape) (value? : Option Json) (first second : Path) :
    (∃ cells : List Cell, ∀ row, shape.fill first value? row = .ok (row ++ cells) ∧
      shape.fill second value? row = .ok (row ++ cells)) ∨
    ∃ steps cause firstPlace secondPlace, Leads shape value? steps ∧
      (∀ row, shape.fill first value? row = .error ⟨firstPlace, cause⟩ ∧
        shape.fill second value? row = .error ⟨secondPlace, cause⟩) ∧
      firstPlace = steps.reverse ++ first ∧ secondPlace = steps.reverse ++ second ∧
      firstPlace.render = first.render ++ renderSteps steps ∧
      secondPlace.render = second.render ++ renderSteps steps := by
  have located := read_located shape value? first second
  simp only [fill_eq shape _ _ _]
  generalize shape.read first value? = outcome at located
  generalize shape.read second value? = other at located
  cases located with
  | @ok cells _ same =>
      subst same
      exact .inl ⟨cells, fun row => ⟨rfl, rfl⟩⟩
  | @error fault other same =>
      rcases fault with ⟨firstPlace, cause⟩
      rcases other with ⟨secondPlace, otherCause⟩
      rcases same with ⟨rfl, steps, leads, rfl, rfl⟩
      exact .inr ⟨steps, cause, _, _, leads, fun row => ⟨rfl, rfl⟩, rfl, rfl,
        Path.render_goesOn steps first, Path.render_goesOn steps second⟩

end Shape

end JsonTables
