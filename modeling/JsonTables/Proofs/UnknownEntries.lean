import JsonTables.Proofs.EntryOrder
import JsonTables.Proofs.StrictObjects

/-!
# Unknown entries

Where an object passes over entries that none of its fields knows, such entries have no say
in what is read: whatever is in them, and wherever they stand, the same rows are read or the
same fault is found.  Values are compared one insertion at a time.  An insertion goes on
inside the value of an entry that a field reads, so its value may differ as well; the keys
that fields find, the type that is read and the checks of entries are alike in both.
-/

namespace JsonTables.Shape

/-! ### Insertions -/

/-- Whether an object passes over an entry under a key: it allows unknown entries and no field
of it knows the key.  If the fields depend on the type, it is the type that the object has
which must allow them, or that is not known itself and allowed. -/
inductive PassesOver (key : String) : Shape → List (String × Json) → Prop
  | object {record : ObjectShape} {entries : List (String × Json)}
      (allowed : record.rules.allowUnknown = true) (unknown : record.knows key = false) :
      PassesOver key (object record) entries
  | typed {rules : VariantRules} {shared : List (String × Shape)}
      {variants : List (String × ObjectShape)} {entries : List (String × Json)} {tag : String}
      (isTag : entries.lookup rules.typeField = some (.string tag))
      (admitted : tag ∈ variants.map (·.1) ∨ rules.allowUnknown = true)
      (allowed : ∀ record, (tag, record) ∈ variants → record.rules.allowUnknown = true)
      (notType : key ≠ rules.typeField) (notShared : key ∉ shared.map (·.1))
      (unknown : ∀ record, (tag, record) ∈ variants → record.knows key = false) :
      PassesOver key (typed rules shared variants) entries

/-- Whether a shape reads the entry of an object under a key as a value of a part of it. -/
inductive ReadsUnder (key : String) : Shape → List (String × Json) → Shape → Prop
  | field {record : ObjectShape} {entries : List (String × Json)} {field : String × Shape}
      (fieldMem : field ∈ record.fields)
      (accepted : (ObjectShape.matchingIn record.rules.matching field.1).accepts field.1 key =
        true) : ReadsUnder key (object record) entries field.2
  | value {keys values : Shape} {acceptance : Acceptance} {entries : List (String × Json)} :
      ReadsUnder key (keyValue keys values acceptance) entries values
  | shared {rules : VariantRules} {shared : List (String × Shape)}
      {variants : List (String × ObjectShape)} {entries : List (String × Json)} {part : Shape}
      (fieldMem : (key, part) ∈ shared) :
      ReadsUnder key (typed rules shared variants) entries part
  | variant {rules : VariantRules} {shared : List (String × Shape)}
      {variants : List (String × ObjectShape)} {entries : List (String × Json)} {tag : String}
      {record : ObjectShape} {field : String × Shape}
      (isTag : entries.lookup rules.typeField = some (.string tag))
      (recordMem : (tag, record) ∈ variants) (fieldMem : field ∈ record.fields)
      (accepted : (ObjectShape.matchingIn record.rules.matching field.1).accepts field.1 key =
        true) : ReadsUnder key (typed rules shared variants) entries field.2

/-- Whether the second of two values is the first with one more entry, which the shape passes
over: in the object that it stands for, or in a value inside that it reads. -/
inductive Inserts : Shape → Json → Json → Prop
  | here {shape : Shape} {before after : List (String × Json)} {key : String} {value : Json}
      (passes : PassesOver key shape (before ++ after)) :
      Inserts shape (.object (before ++ after)) (.object (before ++ (key, value) :: after))
  | entry {shape : Shape} {before after : List (String × Json)} {key : String}
      {value other : Json}
      (isRead : ∃ part, ReadsUnder key shape (before ++ (key, value) :: after) part)
      (inner : ∀ part, ReadsUnder key shape (before ++ (key, value) :: after) part →
        Inserts part value other) :
      Inserts shape (.object (before ++ (key, value) :: after))
        (.object (before ++ (key, other) :: after))
  | item {element : Shape} {acceptance : Acceptance} {before after : List Json}
      {value other : Json} (inner : Inserts element value other) :
      Inserts (array element acceptance) (.array (before ++ value :: after))
        (.array (before ++ other :: after))
  | slot {slots : List Shape} {acceptance : Acceptance} {before after : List Json} {slot : Shape}
      {value other : Json} (isSlot : slots[before.length]? = some slot)
      (inner : Inserts slot value other) :
      Inserts (tuple slots acceptance) (.array (before ++ value :: after))
        (.array (before ++ other :: after))

/-- Whether two values are the same, or the second has one more entry. -/
abbrev InsertsOnce (shape : Shape) : Json → Json → Prop :=
  Relation.ReflGen (Inserts shape)

theorem Inserts.kind_eq {shape : Shape} {value other : Json} (inserts : Inserts shape value other) :
    other.kind = value.kind := by
  cases inserts <;> rfl

/-- Lists that differ in one place are related place by place, if what is in it is related. -/
theorem forall₂_replace {α : Type} {related : α → α → Prop} (same : ∀ value, related value value)
    (before after : List α) {value other : α} (isRelated : related value other) :
    List.Forall₂ related (before ++ value :: after) (before ++ other :: after) :=
  List.rel_append (List.forall₂_same.mpr fun entry _ => same entry)
    (.cons isRelated (List.forall₂_same.mpr fun entry _ => same entry))

/-! ### Entries with the same keys -/

section

variable {entries others : List (String × Json)}

/-- A search by the key finds the same key, or nothing in both. -/
theorem find?_of_sameKeys (sameKeys : others.map (·.1) = entries.map (·.1)) (p : String → Bool) :
    (entries.find? (p ·.1) = none ∧ others.find? (p ·.1) = none) ∨
      ∃ key value other, entries.find? (p ·.1) = some (key, value) ∧
        others.find? (p ·.1) = some (key, other) := by
  have sameFound : (others.find? (p ·.1)).map (·.1) = (entries.find? (p ·.1)).map (·.1) := by
    have keysFound := congrArg (List.find? p) sameKeys
    rwa [List.find?_map, List.find?_map] at keysFound
  cases isFound : entries.find? (p ·.1) with
  | none =>
      rw [isFound] at sameFound
      exact .inl ⟨rfl, Option.map_eq_none_iff.mp sameFound⟩
  | some entry =>
      rw [isFound] at sameFound
      rcases Option.map_eq_some_iff.mp sameFound with ⟨⟨key, other⟩, isOther, rfl⟩
      exact .inr ⟨entry.1, entry.2, other, rfl, isOther⟩

theorem checkKnown_of_sameKeys (sameKeys : others.map (·.1) = entries.map (·.1))
    (record : ObjectShape) (path : Path) :
    checkKnown record path others = checkKnown record path entries := by
  rcases record with ⟨fields, rules⟩
  rcases find?_of_sameKeys sameKeys (!(ObjectShape.record fields rules).knows ·) with
    ⟨notFound, notOther⟩ | ⟨key, value, other, isFound, isOther⟩
  · simp only [checkKnown, notFound, notOther]
  · simp only [checkKnown, isFound, isOther]

theorem checkEntries_of_sameKeys (sameKeys : others.map (·.1) = entries.map (·.1))
    (rules : VariantRules) (shared : List String) (selected : Option ObjectShape) (tag : String)
    (path : Path) :
    checkEntries rules shared selected tag others path =
      checkEntries rules shared selected tag entries path := by
  rcases find?_of_sameKeys sameKeys (fun key =>
      !(key == rules.typeField || shared.contains key || selected.any (·.knows key))) with
    ⟨notFound, notOther⟩ | ⟨key, value, other, isFound, isOther⟩
  · simp only [checkEntries, notFound, notOther]
  · simp only [checkEntries, isFound, isOther]

/-- A field finds related values, if the values of the entries that it accepts are related. -/
theorem findField_of_sameKeys {related : Json → Json → Prop} {name : String}
    {matching : FieldMatching}
    (alike : List.Forall₂ (fun entry other => other.1 = entry.1 ∧
      (matching.accepts name entry.1 = true → related entry.2 other.2)) entries others)
    (repeats : RepeatPolicy) (path : Path) :
    Except.Rel Eq (Option.Rel related) (findField entries name matching repeats path)
      (findField others name matching repeats path) := by
  have accepted : List.Forall₂ (fun entry other => related entry.2 other.2)
      (entries.filter fun entry => matching.accepts name entry.1)
      (others.filter fun entry => matching.accepts name entry.1) := by
    induction alike with
    | nil => exact .nil
    | cons first _ ih =>
        rw [List.filter_cons, List.filter_cons, first.1]
        split
        · rename_i isAccepted
          exact .cons (first.2 isAccepted) ih
        · exact ih
  simp only [findField]
  generalize (entries.filter fun entry => matching.accepts name entry.1) = found at *
  generalize (others.filter fun entry => matching.accepts name entry.1) = others at *
  cases accepted with
  | nil => exact .ok .none
  | cons first rest =>
      cases rest with
      | nil => exact .ok (.some first)
      | cons _ _ =>
          cases matching.repeats.getD repeats with
          | useFirst => exact .ok (.some first)
          | error => exact .error rfl

theorem readTag_of_sameKeys {rules : VariantRules}
    (alike : List.Forall₂ (fun entry other => other.1 = entry.1 ∧
      (other.2 = entry.2 ∨ ∃ shape, Inserts shape entry.2 other.2)) entries others)
    (path : Path) :
    Except.Rel Eq Eq (readTag rules entries path) (readTag rules others path) := by
  let related : Json → Json → Prop := fun value other =>
    other = value ∨ ∃ shape, Inserts shape value other
  have found : Except.Rel Eq (Option.Rel related)
      (findField entries rules.typeField .exact rules.repeats path)
      (findField others rules.typeField .exact rules.repeats path) :=
    findField_of_sameKeys (alike.imp fun _ _ same => ⟨same.1, fun _ => same.2⟩) rules.repeats path
  simp only [readTag]
  refine found.bind ?_
  intro value another _ isFound
  cases isFound with
  | none => exact .error rfl
  | some same =>
      rcases same with rfl | ⟨shape, inserts⟩
      · exact .refl (fun _ => rfl) _
      · cases inserts <;> exact .error rfl

end

/-! ### Entries with one more among them -/

section

variable {before after : List (String × Json)} {key : String} {value : Json}

theorem findField_insert {name : String} {matching : FieldMatching}
    (refused : matching.accepts name key = false) (repeats : RepeatPolicy) (path : Path) :
    findField (before ++ (key, value) :: after) name matching repeats path =
      findField (before ++ after) name matching repeats path := by
  have sameAccepted : ((before ++ (key, value) :: after).filter fun entry =>
        matching.accepts name entry.1) =
      (before ++ after).filter fun entry => matching.accepts name entry.1 := by
    simp only [List.filter_append, List.filter_cons, refused, Bool.false_eq_true, if_false]
  simp only [findField, sameAccepted]

theorem accepts_exact_eq_false {name : String} (differ : key ≠ name) :
    FieldMatching.exact.accepts name key = false := by
  rw [Bool.eq_false_iff, ne_eq, accepts_exact_iff]
  exact differ.symm

theorem readTag_insert {rules : VariantRules} (notType : key ≠ rules.typeField) (path : Path) :
    readTag rules (before ++ (key, value) :: after) path =
      readTag rules (before ++ after) path := by
  simp only [readTag, findField_insert (accepts_exact_eq_false notType)]

end

theorem refused_of_knows {record : ObjectShape} {key : String}
    (unknown : record.knows key = false) {field : String × Shape}
    (fieldMem : field ∈ record.fields) :
    (ObjectShape.matchingIn record.rules.matching field.1).accepts field.1 key = false :=
  Bool.eq_false_iff.mpr (List.any_eq_false.mp unknown field fieldMem)

/-- The type that is read of an object is the string under the first key that names it. -/
theorem lookup_of_readTag {rules : VariantRules} {entries : List (String × Json)} {path : Path}
    {tag : String} (isRead : readTag rules entries path = .ok (some tag)) :
    entries.lookup rules.typeField = some (.string tag) := by
  simp only [readTag, Except.bind_eq_ok_iff] at isRead
  rcases isRead with ⟨found, isFound, isTag⟩
  split at isTag
  · cases isTag
    exact lookup_of_findField isFound
  · split at isTag <;> cases isTag
  · cases isTag
  · cases isTag

/-- Where the type of an object allows unknown entries, its entries are not checked. -/
theorem checkEntries_of_admitted {rules : VariantRules} {shared : List String}
    {variants : List (String × ObjectShape)} {tag : String}
    (admitted : tag ∈ variants.map (·.1) ∨ rules.allowUnknown = true)
    (allowed : ∀ record, (tag, record) ∈ variants → record.rules.allowUnknown = true)
    (entries : List (String × Json)) (path : Path) :
    checkEntries rules shared (variants.lookup tag) tag entries path = .ok () := by
  cases selected : variants.lookup tag with
  | none =>
      rw [checkEntries_none_eq_ok_iff]
      exact admitted.resolve_left (lookup_eq_none_iff.mp selected)
  | some record =>
      rw [checkEntries_some_eq_ok_iff]
      exact .inl (allowed record (mem_of_lookup selected))

/-! ### Values with one more entry in them -/

theorem rel_found_refl {shape : Shape} (found : Except ValueError (Option Json)) :
    Except.Rel Eq (Option.Rel (InsertsOnce shape)) found found := by
  rcases found with fault | _ | value
  · exact .error rfl
  · exact .ok .none
  · exact .ok (.some .refl)

theorem findAlike_refl (fields : List (String × Shape)) (matching : List (String × FieldMatching))
    (repeats : RepeatPolicy) (path : Path) (entries : List (String × Json)) :
    FindAlike Eq InsertsOnce fields matching repeats path entries entries :=
  fun _ _ => rel_found_refl _

section

variable {before after : List (String × Json)} {key : String} {value : Json}
  {fields : List (String × Shape)} {matching : List (String × FieldMatching)}

theorem sameKeys_replace {other : Json} :
    (before ++ (key, other) :: after).map (·.1) = (before ++ (key, value) :: after).map (·.1) := by
  simp

theorem findAlike_insert
    (refused : ∀ field ∈ fields,
      (ObjectShape.matchingIn matching field.1).accepts field.1 key = false)
    (repeats : RepeatPolicy) (path : Path) :
    FindAlike Eq InsertsOnce fields matching repeats path (before ++ after)
      (before ++ (key, value) :: after) := by
  intro field fieldMem
  rw [findField_insert (refused field fieldMem)]
  exact rel_found_refl _

theorem findAlike_replace {other : Json}
    (inner : ∀ field ∈ fields,
      (ObjectShape.matchingIn matching field.1).accepts field.1 key = true →
        Inserts field.2 value other)
    (repeats : RepeatPolicy) (path : Path) :
    FindAlike Eq InsertsOnce fields matching repeats path (before ++ (key, value) :: after)
      (before ++ (key, other) :: after) := by
  intro field fieldMem
  apply findField_of_sameKeys
  apply forall₂_replace
  · exact fun entry => ⟨rfl, fun _ => .refl⟩
  · exact ⟨rfl, fun accepted => .single (inner field fieldMem accepted)⟩

end

theorem slots_replace {slots : List Shape} {before after : List Json} {slot : Shape}
    {value other : Json} (isSlot : slots[before.length]? = some slot)
    (inner : Inserts slot value other) (position : Nat) (shape : Shape) (item another : Json)
    (isShape : slots[position]? = some shape)
    (isItem : (before ++ value :: after)[position]? = some item)
    (isOther : (before ++ other :: after)[position]? = some another) :
    InsertsOnce shape item another := by
  rcases lt_trichotomy position before.length with isBefore | rfl | isAfter
  · rw [List.getElem?_append_left isBefore] at isItem isOther
    obtain rfl := Option.some.inj (isItem.symm.trans isOther)
    exact .refl
  · simp only [List.getElem?_append_right le_rfl, Nat.sub_self, List.getElem?_cons_zero,
      Option.some.injEq] at isItem isOther
    obtain rfl := Option.some.inj (isSlot.symm.trans isShape)
    subst isItem isOther
    exact .single inner
  · obtain ⟨distance, rfl⟩ := Nat.exists_eq_add_of_lt isAfter
    rw [List.getElem?_append_right (by omega)] at isItem isOther
    have isPast : before.length + distance + 1 - before.length = distance + 1 := by omega
    rw [isPast, List.getElem?_cons_succ] at isItem isOther
    obtain rfl := Option.some.inj (isItem.symm.trans isOther)
    exact .refl

/-- A value with one more entry, which the shape passes over, mirrors the value without. -/
theorem insertsOnce_mirrors : Mirrors Eq InsertsOnce where
  fault _ := rfl
  kind := by
    rintro shape value other (_ | inserts)
    · rfl
    · exact inserts.kind_eq
  leaf := by
    rintro scalar value other (_ | inserts) path
    · exact .refl (fun _ => rfl) _
    · cases inserts with
      | here passes => cases passes
      | entry isRead =>
          rcases isRead with ⟨_, ⟨⟩⟩
  any := by
    rintro value other (_ | inserts)
    · rfl
    · cases inserts with
      | here passes => cases passes
      | entry isRead =>
          rcases isRead with ⟨_, ⟨⟩⟩
  items := by
    rintro element acceptance items others (_ | inserts)
    · exact List.forall₂_same.mpr fun _ _ => .refl
    · cases inserts with
      | item inner => exact forall₂_replace (fun _ => .refl) _ _ (.single inner)
  entries := by
    rintro key value acceptance entries others (_ | inserts)
    · exact List.forall₂_same.mpr fun _ _ => ⟨rfl, .refl⟩
    · cases inserts with
      | here passes => cases passes
      | entry _ inner =>
          exact forall₂_replace (fun _ => ⟨rfl, .refl⟩) _ _ ⟨rfl, .single (inner _ .value)⟩
  slots := by
    rintro slots acceptance items others (_ | inserts)
    · refine ⟨rfl, ?_⟩
      intro position slot item other _ isItem isOther
      obtain rfl := Option.some.inj (isItem.symm.trans isOther)
      exact .refl
    · cases inserts with
      | slot isSlot inner => exact ⟨by simp, slots_replace isSlot inner⟩
  fields := by
    rintro record entries others (_ | inserts) path
    · exact ⟨.refl (fun _ => rfl) _, findAlike_refl _ _ _ _ _⟩
    · cases inserts with
      | here passes =>
          cases passes with
          | object allowed unknown =>
              have passesCheck : ∀ entries, checkKnown record path entries = .ok () :=
                fun entries => checkKnown_eq_ok_iff.mpr (.inl allowed)
              refine ⟨?_, findAlike_insert (fun _ => refused_of_knows unknown) _ path⟩
              rw [passesCheck, passesCheck]
              exact .ok rfl
      | entry _ inner =>
          rw [checkKnown_of_sameKeys sameKeys_replace]
          refine ⟨.refl (fun _ => rfl) _, findAlike_replace ?_ _ path⟩
          exact fun field fieldMem accepted => inner _ (.field fieldMem accepted)
  tag := by
    rintro rules shared variants entries others (_ | inserts) path
    · exact .refl (fun _ => rfl) _
    · cases inserts with
      | here passes =>
          cases passes with
          | typed _ _ _ notType =>
              rw [readTag_insert notType]
              exact .refl (fun _ => rfl) _
      | entry isRead inner =>
          rcases isRead with ⟨part, isRead⟩
          apply readTag_of_sameKeys
          apply forall₂_replace
          · exact fun entry => ⟨rfl, .inl rfl⟩
          · exact ⟨rfl, .inr ⟨part, inner part isRead⟩⟩
  variant := by
    rintro rules shared variants entries others (_ | inserts) path tag isTag
    · exact ⟨.refl (fun _ => rfl) _, findAlike_refl _ _ _ _ _,
        fun _ _ => findAlike_refl _ _ _ _ _⟩
    · have isLookedUp := lookup_of_readTag isTag
      cases inserts with
      | here passes =>
          cases passes with
          | @typed _ _ _ _ own isOwn admitted allowed notType notShared unknown =>
              -- the type that is read is the one that allows the entry
              obtain rfl : own = tag := by simpa [isOwn] using isLookedUp
              refine ⟨?_, findAlike_insert ?_ _ path, ?_⟩
              · rw [checkEntries_of_admitted admitted allowed,
                  checkEntries_of_admitted admitted allowed]
                exact .ok rfl
              · intro field fieldMem
                apply accepts_exact_eq_false
                rintro rfl
                exact notShared (List.mem_map_of_mem fieldMem)
              · intro record recordMem
                exact findAlike_insert (fun _ => refused_of_knows (unknown record recordMem)) _ path
      | entry _ inner =>
          rw [checkEntries_of_sameKeys sameKeys_replace]
          refine ⟨.refl (fun _ => rfl) _, findAlike_replace ?_ _ path, ?_⟩
          · intro field fieldMem accepted
            obtain rfl := accepts_exact_iff.mp accepted
            exact inner _ (.shared fieldMem)
          · intro record recordMem
            apply findAlike_replace
            intro field fieldMem accepted
            exact inner _ (.variant isLookedUp recordMem fieldMem accepted)

/-- Entries that no field knows, in the objects that pass them over, have no say in what is
read of a value, however many there are, wherever they stand and whatever is in them: the
same rows are filled, or the same fault is found. -/
theorem unknown_entries_make_no_difference {shape : Shape} (valid : shape.IsValid)
    {value other : Json} (inserted : Relation.ReflTransGen (Inserts shape) value other) :
    (∀ path row, shape.fill path (some other) row = shape.fill path (some value) row) ∧
      ∀ naming layout, Layout.ofShape shape naming = .ok layout →
        layout.rows (some other) = layout.rows (some value) := by
  induction inserted with
  | refl => exact ⟨fun _ _ => rfl, fun _ _ _ => rfl⟩
  | tail _ inserts ih =>
      have once := Relation.ReflGen.single inserts
      refine ⟨?_, ?_⟩
      · intro path row
        rw [← ih.1 path row]
        exact (fill_alike insertsOnce_mirrors valid once path row).eq.symm
      · intro naming layout made
        rw [← ih.2 naming layout made]
        have sameRows := (readRows_alike insertsOnce_mirrors valid once).eq
        simp only [Layout.rows, Layout.eq_of_ofShape made, sameRows]

/-- A note in a box on a list, and then an object in front of the list. -/
theorem note_in_a_box_makes_no_difference :
    let acceptance : Acceptance := ⟨true, .ofList [.object, .null]⟩
    let record : ObjectShape := .record [("size", any)] { allowUnknown := true, acceptance }
    let box := typed ⟨"kind", false, acceptance, .error⟩ [("id", any)] [("box", record)]
    let boxes := array box ⟨true, .ofList [.array]⟩
    let shape := object (.record [("boxes", boxes)] { allowUnknown := true, acceptance })
    let plain : Json := .object [("kind", .string "box"), ("size", .number "3")]
    let noted : Json :=
      .object [("kind", .string "box"), ("note", .array [.null]), ("size", .number "3")]
    let value : Json := .object [("boxes", .array [.null, plain])]
    let middle : Json := .object [("boxes", .array [.null, noted])]
    let other : Json := .object [("extra", plain), ("boxes", .array [.null, noted])]
    let filled : Array Cell := #[.array .string [.null, .string "box"],
      .array .object [.null, .null], .array .object [.null, .json (.number "3")]]
    shape.IsValid ∧ Inserts shape value middle ∧ Inserts shape middle other ∧
      shape.fill [] (some value) #[] = .ok filled ∧
        shape.fill [] (some other) #[] = .ok filled := by
  intro acceptance record box boxes shape plain noted value middle other filled
  have recordValid : (object record).IsValid :=
    isValid_iff.mpr ⟨by cbv, List.forall_mem_singleton.mpr isValid_any⟩
  have boxValid : box.IsValid := isValid_iff.mpr
    ⟨by cbv, List.forall_mem_cons.mpr ⟨isValid_any, List.forall_mem_singleton.mpr recordValid⟩⟩
  have boxesValid : boxes.IsValid :=
    isValid_iff.mpr ⟨by cbv, List.forall_mem_singleton.mpr boxValid⟩
  have valid : shape.IsValid :=
    isValid_iff.mpr ⟨by cbv, List.forall_mem_singleton.mpr boxesValid⟩
  have notesBox : Inserts box plain noted := by
    apply @Inserts.here box [("kind", .string "box")] [("size", .number "3")]
    apply PassesOver.typed rfl (.inl List.mem_cons_self)
    · simp [record, ObjectShape.rules]
    · decide
    · decide
    · intro own isOwn
      obtain rfl := (Prod.mk.inj (List.mem_singleton.mp isOwn)).2
      cbv
  have notesBoxes : Inserts boxes (.array [.null, plain]) (.array [.null, noted]) :=
    @Inserts.item box _ [.null] [] _ _ notesBox
  have first : Inserts shape value middle := by
    apply @Inserts.entry shape [] [] "boxes"
    · exact ⟨boxes, @ReadsUnder.field "boxes" _ _ ("boxes", boxes) List.mem_cons_self (by cbv)⟩
    · intro part isRead
      simp only [shape] at isRead
      cases isRead with
      | field fieldMem =>
          obtain rfl := List.mem_singleton.mp fieldMem
          exact notesBoxes
  have second : Inserts shape middle other := by
    apply @Inserts.here shape [] [("boxes", .array [.null, noted])]
    exact .object rfl (by cbv)
  have isFilled : shape.fill [] (some value) #[] = .ok filled := by cbv
  refine ⟨valid, first, second, isFilled, ?_⟩
  rw [(unknown_entries_make_no_difference valid (.tail (.single first) second)).1, isFilled]

end JsonTables.Shape
