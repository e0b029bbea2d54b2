import JsonTables.Proofs.MirroredValues

/-!
# Asked parts

Where a shape reads a value, it asks parts of it to read what it finds there: fields what is
under their keys, elements the items of a list, and all fields or slots the same where there
is nothing to look into.  The reading of the whole is made of theirs: it comes to a result
just where each of them does, and is at fault with the value of a leaf just where one of them
is.
-/

namespace JsonTables

/-- Whether an error is about the value of a leaf. -/
def ValueError.IsOfLeaf (error : ValueError) : Prop :=
  ∃ fault, error.misfit = .scalar fault

namespace Shape

/-! ### Readings of parts -/

/-- Whether a value is not of the form that a shape looks into, so that the shape has nulls
for it, or asks its parts about the value itself. -/
def FallsBack : Shape → Option Json → Prop
  | object _, value? | keyValue .., value? | typed .., value? =>
      ∀ entries, value? ≠ some (.object entries)
  | array .., value? | tuple .., value? => ∀ items, value? ≠ some (.array items)
  | leaf _, _ | any, _ | skip _, _ => False

/-- Whether a shape that reads a value, or none, asks a part of it to read another. -/
inductive Asks : Shape → Path → Option Json → Shape → Path → Option Json → Prop
  | field {record : ObjectShape} {path : Path} {entries : List (String × Json)}
      {field : String × Shape} {found : Option Json} (fieldMem : field ∈ record.fields)
      (isFound : findField entries field.1 (ObjectShape.matchingIn record.rules.matching field.1)
        record.rules.repeats path = .ok found) :
      Asks (object record) path (some (.object entries)) field.2 (.field field.1 :: path) found
  | fieldAlike {record : ObjectShape} {path : Path} {value? : Option Json}
      {field : String × Shape} (fallsBack : FallsBack (object record) value?)
      (fieldMem : field ∈ record.fields) :
      Asks (object record) path value? field.2 (.field field.1 :: path) value?
  | item {element : Shape} {acceptance : Acceptance} {path : Path} {items : List Json}
      {position : Nat} {item : Json} (isItem : items[position]? = some item) :
      Asks (array element acceptance) path (some (.array items)) element
        (.index position :: path) (some item)
  | key {key value : Shape} {acceptance : Acceptance} {path : Path}
      {entries : List (String × Json)} {entry : String × Json} (entryMem : entry ∈ entries) :
      Asks (keyValue key value acceptance) path (some (.object entries)) key
        (.field entry.1 :: path) (some (.string entry.1))
  | value {key value : Shape} {acceptance : Acceptance} {path : Path}
      {entries : List (String × Json)} {entry : String × Json} (entryMem : entry ∈ entries) :
      Asks (keyValue key value acceptance) path (some (.object entries)) value
        (.field entry.1 :: path) (some entry.2)
  | slot {slots : List Shape} {acceptance : Acceptance} {path : Path} {items : List Json}
      {position : Nat} {slot : Shape} {item : Json} (sameLength : items.length = slots.length)
      (isSlot : slots[position]? = some slot) (isItem : items[position]? = some item) :
      Asks (tuple slots acceptance) path (some (.array items)) slot (.index position :: path)
        (some item)
  | slotAlike {slots : List Shape} {acceptance : Acceptance} {path : Path}
      {value? : Option Json} {position : Nat} {slot : Shape}
      (fallsBack : FallsBack (tuple slots acceptance) value?)
      (isSlot : slots[position]? = some slot) :
      Asks (tuple slots acceptance) path value? slot (.index position :: path) value?
  | shared {rules : VariantRules} {shared : List (String × Shape)}
      {variants : List (String × ObjectShape)} {path : Path} {entries : List (String × Json)}
      {tag : String} {field : String × Shape} {found : Option Json}
      (isTag : readTag rules entries path = .ok (some tag)) (fieldMem : field ∈ shared)
      (isFound : findField entries field.1 .exact rules.repeats path = .ok found) :
      Asks (typed rules shared variants) path (some (.object entries)) field.2
        (.field field.1 :: path) found
  | variant {rules : VariantRules} {shared : List (String × Shape)}
      {variants : List (String × ObjectShape)} {path : Path} {entries : List (String × Json)}
      {tag : String} {record : ObjectShape} {field : String × Shape} {found : Option Json}
      (isTag : readTag rules entries path = .ok (some tag)) (recordMem : (tag, record) ∈ variants)
      (fieldMem : field ∈ record.fields)
      (isFound : findField entries field.1 (ObjectShape.matchingIn record.rules.matching field.1)
        record.rules.repeats path = .ok found) :
      Asks (typed rules shared variants) path (some (.object entries)) field.2
        (.field field.1 :: path) found

/-- The readings of the parts that a shape asks. -/
def Asked (shape : Shape) (path : Path) (value? : Option Json) (reading : Row) : Prop :=
  ∃ part partPath part?, Asks shape path value? part partPath part? ∧
    reading = part.read partPath part?

/-! ### Steps that read no leaf -/

/-- Whether a computation is never at fault with the value of a leaf. -/
def ReadsNoLeaf {α : Type} (outcome : Except ValueError α) : Prop :=
  ∀ fault, outcome = .error fault → ¬fault.IsOfLeaf

namespace ReadsNoLeaf

variable {α β : Type}

theorem ok (value : α) : ReadsNoLeaf (.ok value) :=
  nofun

theorem misfit {cause : Misfit} (notOfLeaf : ∀ fault, cause ≠ .scalar fault) (path : Path) :
    ReadsNoLeaf (misfit path cause : Except ValueError α) := by
  rintro fault isError ⟨cause, isOfLeaf⟩
  cases isError
  exact notOfLeaf cause isOfLeaf

theorem bind {first : Except ValueError α} {next : α → Except ValueError β}
    (noFirst : ReadsNoLeaf first) (noNext : ∀ value, ReadsNoLeaf (next value)) :
    ReadsNoLeaf (first >>= next) := by
  intro fault isError
  rcases Except.bind_eq_error_iff.mp isError with firstFails | ⟨value, _, nextFails⟩
  · exact noFirst fault firstFails
  · exact noNext value fault nextFails

end ReadsNoLeaf

theorem readsNoLeaf_checkKind (shape : Shape) (path : Path) (value? : Option Json) :
    ReadsNoLeaf (shape.checkKind path value?) := by
  cases value? with
  | none =>
      simp only [checkKind]
      split
      · exact .ok ()
      · exact .misfit (by simp) path
  | some value =>
      simp only [checkKind]
      split
      · exact .ok ()
      · exact .misfit (by simp) path

theorem readsNoLeaf_findField (entries : List (String × Json)) (name : String)
    (matching : FieldMatching) (repeats : RepeatPolicy) (path : Path) :
    ReadsNoLeaf (findField entries name matching repeats path) := by
  simp only [findField]
  split
  · exact .ok _
  · exact .ok _
  · split
    · exact .ok _
    · exact .misfit (by simp) path

/-- A check for unknown entries finds fault with their keys alone. -/
theorem readsNoLeaf_unlessAllowed {cause : String → Misfit}
    (notOfLeaf : ∀ key fault, cause key ≠ .scalar fault) (allowUnknown : Bool)
    (unknown : Option (String × Json)) (path : Path) :
    ReadsNoLeaf (do
      unless allowUnknown do
        if let some (key, _) := unknown then misfit path (cause key)) := by
  split
  · exact .ok ()
  · split
    · exact .misfit (notOfLeaf _) path
    · exact .ok ()

theorem readsNoLeaf_checkKnown (record : ObjectShape) (path : Path)
    (entries : List (String × Json)) : ReadsNoLeaf (checkKnown record path entries) := by
  rcases record with ⟨fields, rules⟩
  exact readsNoLeaf_unlessAllowed (by simp) _ _ path

theorem readsNoLeaf_readTag (rules : VariantRules) (entries : List (String × Json))
    (path : Path) : ReadsNoLeaf (readTag rules entries path) := by
  refine (readsNoLeaf_findField entries rules.typeField .exact rules.repeats path).bind ?_
  intro found
  split
  · exact .ok _
  · split
    · exact .ok _
    · exact .misfit (by simp) _
  · exact .misfit (by simp) _
  · exact .misfit (by simp) _

theorem readsNoLeaf_checkEntries (rules : VariantRules) (shared : List String)
    (selected : Option ObjectShape) (tag : String) (entries : List (String × Json))
    (path : Path) : ReadsNoLeaf (checkEntries rules shared selected tag entries path) := by
  have ofKeys : ∀ key fault, Misfit.unknownFieldOfType key tag ≠ .scalar fault := by simp
  cases selected with
  | none =>
      simp only [checkEntries]
      split
      · exact .ok ()
      · refine (ReadsNoLeaf.misfit (by simp) _).bind ?_
        exact fun allowUnknown => readsNoLeaf_unlessAllowed ofKeys allowUnknown _ path
  | some record => exact readsNoLeaf_unlessAllowed ofKeys record.rules.allowUnknown _ path

/-! ### Readings of parts -/

/-- Whether a computation comes to a result just where some readings do, and is at fault with
the value of a leaf just where one of them is. -/
structure MadeOf {α : Type} (readings : Row → Prop) (outcome : Except ValueError α) : Prop where
  ok : ∀ result, outcome = .ok result → ∀ reading, readings reading →
    ∃ cells, reading = .ok cells
  error : ∀ fault, outcome = .error fault → fault.IsOfLeaf → readings (.error fault)

namespace MadeOf

variable {α β : Type} {readings others : Row → Prop}

theorem of_ok (value : α) : MadeOf (fun _ => False) (.ok value : Except ValueError α) where
  ok _ _ _ isFalse := isFalse.elim
  error _ isError := nomatch isError

theorem of_misfit {cause : Misfit} (notOfLeaf : ∀ fault, cause ≠ .scalar fault) (path : Path) :
    MadeOf (fun _ => False) (misfit path cause : Except ValueError α) where
  ok _ _ _ isFalse := isFalse.elim
  error fault isError ofLeaf := ReadsNoLeaf.misfit notOfLeaf path fault isError ofLeaf

theorem self (reading : Row) : MadeOf (· = reading) reading where
  ok := by
    rintro cells isRead _ rfl
    exact ⟨cells, isRead⟩
  error _ isError _ := isError.symm

theorem congr {outcome : Except ValueError α} (made : MadeOf readings outcome)
    (same : ∀ reading, readings reading ↔ others reading) : MadeOf others outcome where
  ok result isResult reading isOther := made.ok result isResult reading ((same reading).mpr isOther)
  error fault isError ofLeaf := (same _).mp (made.error fault isError ofLeaf)

/-- Two steps after each other are made of the readings of both. -/
theorem bind {first : Except ValueError α} {next : α → Except ValueError β}
    (madeFirst : MadeOf readings first)
    (madeNext : ∀ value, first = .ok value → MadeOf others (next value)) :
    MadeOf (fun reading => readings reading ∨ others reading) (first >>= next) where
  ok := by
    rintro result isResult reading isReading
    rcases Except.bind_eq_ok_iff.mp isResult with ⟨value, isFirst, isNext⟩
    rcases isReading with inFirst | inNext
    · exact madeFirst.ok value isFirst reading inFirst
    · exact (madeNext value isFirst).ok result isNext reading inNext
  error := by
    intro fault isError ofLeaf
    rcases Except.bind_eq_error_iff.mp isError with firstFails | ⟨value, isFirst, nextFails⟩
    · exact .inl (madeFirst.error fault firstFails ofLeaf)
    · exact .inr ((madeNext value isFirst).error fault nextFails ofLeaf)

/-- A first step that reads no leaf says which readings follow. -/
theorem after {first : Except ValueError α} {next : α → Except ValueError β}
    {following : α → Row → Prop} (noLeaf : ReadsNoLeaf first)
    (madeNext : ∀ value, first = .ok value → MadeOf (following value) (next value)) :
    MadeOf (fun reading => ∃ value, first = .ok value ∧ following value reading)
      (first >>= next) where
  ok := by
    rintro result isResult reading ⟨other, isOther, isReading⟩
    rcases Except.bind_eq_ok_iff.mp isResult with ⟨value, isFirst, isNext⟩
    obtain rfl := Except.ok.inj (isFirst.symm.trans isOther)
    exact (madeNext value isFirst).ok result isNext reading isReading
  error := by
    intro fault isError ofLeaf
    rcases Except.bind_eq_error_iff.mp isError with firstFails | ⟨value, isFirst, nextFails⟩
    · exact absurd ofLeaf (noLeaf fault firstFails)
    · exact ⟨value, isFirst, (madeNext value isFirst).error fault nextFails ofLeaf⟩

/-- A check that reads no leaf has no say in which readings follow. -/
theorem afterCheck {check : Except ValueError Unit} {next : Unit → Except ValueError β}
    (noLeaf : ReadsNoLeaf check) (madeNext : MadeOf readings (next ())) :
    MadeOf readings (check >>= next) where
  ok := by
    intro result isResult
    exact madeNext.ok result (Except.check_bind_eq_ok_iff.mp isResult).2
  error := by
    intro fault isError ofLeaf
    rcases Except.bind_eq_error_iff.mp isError with checkFails | ⟨_, _, nextFails⟩
    · exact absurd ofLeaf (noLeaf fault checkFails)
    · exact madeNext.error fault nextFails ofLeaf

theorem map {outcome : Except ValueError α} (made : MadeOf readings outcome) (f : α → β) :
    MadeOf readings (outcome >>= fun value => pure (f value)) :=
  (made.bind fun value _ => of_ok (f value)).congr fun _ => by rw [or_false]

end MadeOf

/-! ### Lists of parts -/

theorem madeOf_readItems (read : Path → Option Json → Row) (path : Path) (position : Nat)
    (items : List Json) :
    MadeOf (fun reading => ∃ index item, items[index]? = some item ∧
        reading = read (.index (position + index) :: path) (some item))
      (readItems read path position items) := by
  induction items generalizing position with
  | nil => exact (MadeOf.of_ok _).congr (by simp)
  | cons item rest ih =>
      simp only [readItems]
      refine ((MadeOf.self _).bind fun row _ => (ih (position + 1)).map _).congr ?_
      intro reading
      constructor
      · rintro (isFirst | ⟨index, item, isItem, inRest⟩)
        · exact ⟨0, item, rfl, isFirst⟩
        · refine ⟨index + 1, item, isItem, ?_⟩
          rw [inRest, Nat.add_right_comm, Nat.add_assoc]
      · rintro ⟨_ | index, other, isItem, isReading⟩
        · cases isItem
          exact .inl isReading
        · refine .inr ⟨index, other, isItem, ?_⟩
          rw [isReading, Nat.add_right_comm, Nat.add_assoc]

theorem madeOf_readEntries (readKey readValue : Path → Option Json → Row) (path : Path)
    (entries : List (String × Json)) :
    MadeOf (fun reading => ∃ entry ∈ entries,
        reading = readKey (.field entry.1 :: path) (some (.string entry.1)) ∨
          reading = readValue (.field entry.1 :: path) (some entry.2))
      (readEntries readKey readValue path entries) := by
  induction entries with
  | nil => exact (MadeOf.of_ok _).congr (by simp)
  | cons entry rest ih =>
      simp only [readEntries]
      refine ((MadeOf.self _).bind fun keyRow _ =>
        (MadeOf.self _).bind fun valueRow _ => ih.map _).congr ?_
      simp only [List.exists_mem_cons_iff, or_assoc, implies_true]

/-- The readings of fields from the entries of an object. -/
def FieldReadings (fields : List (String × Shape)) (matching : List (String × FieldMatching))
    (repeats : RepeatPolicy) (path : Path) (entries : List (String × Json)) (reading : Row) :
    Prop :=
  ∃ field ∈ fields, ∃ found,
    findField entries field.1 (ObjectShape.matchingIn matching field.1) repeats path = .ok found ∧
      reading = field.2.read (.field field.1 :: path) found

theorem madeOf_readFields (fields : List (String × Shape))
    (matching : List (String × FieldMatching)) (repeats : RepeatPolicy) (path : Path)
    (entries : List (String × Json)) :
    MadeOf (FieldReadings fields matching repeats path entries)
      (readFields fields matching repeats path entries) := by
  induction fields with
  | nil => exact (MadeOf.of_ok _).congr (by simp [FieldReadings])
  | cons field rest ih =>
      rw [readFields, ← bind_assoc]
      have firstMade := MadeOf.after
        (readsNoLeaf_findField entries field.1 (ObjectShape.matchingIn matching field.1) repeats
          path)
        fun found _ => MadeOf.self (field.2.read (.field field.1 :: path) found)
      refine (firstMade.bind fun cells _ => ih.map _).congr ?_
      simp only [FieldReadings, List.exists_mem_cons_iff, implies_true]

theorem madeOf_readAlike (fields : List (String × Shape)) (path : Path) (value? : Option Json) :
    MadeOf (fun reading => ∃ field ∈ fields,
        reading = field.2.read (.field field.1 :: path) value?)
      (readAlike fields path value?) := by
  induction fields with
  | nil => exact (MadeOf.of_ok _).congr (by simp)
  | cons field rest ih =>
      simp only [readAlike]
      refine ((MadeOf.self _).bind fun cells _ => ih.map _).congr ?_
      simp only [List.exists_mem_cons_iff, implies_true]

theorem madeOf_readSlots {slots : List Shape} {values : List (Option Json)}
    (sameLength : values.length = slots.length) (path : Path) (position : Nat) :
    MadeOf (fun reading => ∃ (index : Nat) (slot : Shape) (value? : Option Json),
        slots[index]? = some slot ∧ values[index]? = some value? ∧
          reading = slot.read (.index (position + index) :: path) value?)
      (readSlots slots path position values) := by
  induction slots generalizing values position with
  | nil => exact (MadeOf.of_ok _).congr (by simp)
  | cons slot rest ih =>
      cases values with
      | nil => cases sameLength
      | cons value? values =>
          simp only [readSlots]
          have restMade := ih (Nat.succ.inj sameLength) (position + 1)
          refine ((MadeOf.self _).bind fun cells _ => restMade.map _).congr ?_
          intro reading
          constructor
          · rintro (isFirst | ⟨index, other, value?, isSlot, isValue, inRest⟩)
            · exact ⟨0, slot, value?, rfl, rfl, isFirst⟩
            · refine ⟨index + 1, other, value?, isSlot, isValue, ?_⟩
              rw [inRest, Nat.add_right_comm, Nat.add_assoc]
          · rintro ⟨_ | index, other, another, isSlot, isValue, isReading⟩
            · cases isSlot
              cases isValue
              exact .inl isReading
            · refine .inr ⟨index, other, another, isSlot, isValue, ?_⟩
              rw [isReading, Nat.add_right_comm, Nat.add_assoc]

theorem madeOf_readVariants (variants : List (String × ObjectShape)) (tag : String) (path : Path)
    (entries : List (String × Json)) :
    MadeOf (fun reading => ∃ record, (tag, record) ∈ variants ∧
        FieldReadings record.fields record.rules.matching record.rules.repeats path entries reading)
      (readVariants variants tag path entries) := by
  induction variants with
  | nil => exact (MadeOf.of_ok _).congr (by simp)
  | cons variant rest ih =>
      rcases variant with ⟨name, ⟨fields, rules⟩⟩
      by_cases isTag : name = tag
      · subst isTag
        simp only [readVariants, if_true, readOwnFields]
        refine ((madeOf_readFields fields _ _ _ _).bind fun cells _ => ih.map _).congr ?_
        intro reading
        simp only [List.mem_cons, Prod.mk.injEq, true_and, or_and_right, exists_or,
          exists_eq_left, ObjectShape.fields, ObjectShape.rules]
      · simp only [readVariants, if_neg isTag, pure_bind]
        refine (ih.map _).congr ?_
        simp [Ne.symm isTag]

/-! ### Shapes -/

theorem false_iff_asked {shape : Shape} {path : Path} {value? : Option Json}
    (nothingAsked : ∀ part partPath part?, ¬Asks shape path value? part partPath part?)
    (reading : Row) : False ↔ Asked shape path value? reading := by
  refine iff_of_false id ?_
  rintro ⟨part, partPath, part?, asks, _⟩
  exact nothingAsked part partPath part? asks

theorem madeOf_read_object (record : ObjectShape) (path : Path) (value? : Option Json) :
    MadeOf (Asked (object record) path value?) ((object record).read path value?) := by
  rcases record with ⟨fields, rules⟩
  simp only [read]
  apply MadeOf.afterCheck (readsNoLeaf_checkKind _ path value?)
  by_cases isObject : ∃ entries, value? = some (.object entries)
  · rcases isObject with ⟨entries, rfl⟩
    rw [readObject_object]
    apply MadeOf.afterCheck (readsNoLeaf_checkKnown _ path entries)
    apply (madeOf_readFields fields rules.matching rules.repeats path entries).congr
    intro reading
    constructor
    · rintro ⟨field, fieldMem, found, isFound, isReading⟩
      exact ⟨_, _, _, @Asks.field (.record fields rules) path _ field found fieldMem isFound,
        isReading⟩
    · rintro ⟨_, _, _, asks, isReading⟩
      cases asks with
      | field fieldMem isFound => exact ⟨_, fieldMem, _, isFound, isReading⟩
      | fieldAlike fallsBack => exact absurd rfl (fallsBack entries)
  · have fallsBack : FallsBack (object (.record fields rules)) value? :=
      fun entries isEntries => isObject ⟨entries, isEntries⟩
    have isAlike : readObject (.record fields rules) path value? =
        readAlike fields path value? := by
      simp only [readObject]
      split
      · exact absurd rfl (fallsBack _)
      · rfl
    rw [isAlike]
    apply (madeOf_readAlike fields path value?).congr
    intro reading
    constructor
    · rintro ⟨field, fieldMem, isReading⟩
      exact ⟨_, _, _, .fieldAlike fallsBack fieldMem, isReading⟩
    · rintro ⟨_, _, _, asks, isReading⟩
      cases asks with
      | field => exact absurd rfl (fallsBack _)
      | fieldAlike _ fieldMem => exact ⟨_, fieldMem, isReading⟩

theorem madeOf_read_array (element : Shape) (acceptance : Acceptance) (path : Path)
    (value? : Option Json) :
    MadeOf (Asked (array element acceptance) path value?)
      ((array element acceptance).read path value?) := by
  simp only [read]
  apply MadeOf.afterCheck (readsNoLeaf_checkKind _ path value?)
  split
  · rename_i items
    refine ((madeOf_readItems element.read path 0 items).map _).congr ?_
    intro reading
    constructor
    · rintro ⟨index, item, isItem, isReading⟩
      rw [Nat.zero_add] at isReading
      exact ⟨_, _, _, .item isItem, isReading⟩
    · rintro ⟨_, _, _, asks, isReading⟩
      cases asks with
      | @item _ _ _ _ position item isItem =>
          refine ⟨position, item, isItem, ?_⟩
          rw [isReading, Nat.zero_add]
  · rename_i notArray
    apply (MadeOf.of_ok _).congr (false_iff_asked _)
    intro _ _ _ asks
    cases asks with
    | item => exact notArray _ rfl

theorem madeOf_read_keyValue (key value : Shape) (acceptance : Acceptance) (path : Path)
    (value? : Option Json) :
    MadeOf (Asked (keyValue key value acceptance) path value?)
      ((keyValue key value acceptance).read path value?) := by
  simp only [read]
  apply MadeOf.afterCheck (readsNoLeaf_checkKind _ path value?)
  split
  · rename_i entries
    refine ((madeOf_readEntries key.read value.read path entries).map _).congr ?_
    intro reading
    constructor
    · rintro ⟨entry, entryMem, isReading | isReading⟩
      · exact ⟨_, _, _, .key entryMem, isReading⟩
      · exact ⟨_, _, _, .value entryMem, isReading⟩
    · rintro ⟨_, _, _, asks, isReading⟩
      cases asks with
      | key entryMem => exact ⟨_, entryMem, .inl isReading⟩
      | value entryMem => exact ⟨_, entryMem, .inr isReading⟩
  · rename_i notObject
    apply (MadeOf.of_ok _).congr (false_iff_asked _)
    intro _ _ _ asks
    cases asks with
    | key => exact notObject _ rfl
    | value => exact notObject _ rfl

theorem madeOf_read_tuple (slots : List Shape) (acceptance : Acceptance) (path : Path)
    (value? : Option Json) :
    MadeOf (Asked (tuple slots acceptance) path value?)
      ((tuple slots acceptance).read path value?) := by
  simp only [read]
  apply MadeOf.afterCheck (readsNoLeaf_checkKind _ path value?)
  split
  · rename_i items
    split
    · rename_i sameLength
      have asMany : (items.map some).length = slots.length := by rwa [List.length_map]
      apply (madeOf_readSlots asMany path 0).congr
      intro reading
      constructor
      · rintro ⟨index, slot, value?, isSlot, isValue, isReading⟩
        rw [List.getElem?_map, Option.map_eq_some_iff] at isValue
        rcases isValue with ⟨item, isItem, rfl⟩
        rw [Nat.zero_add] at isReading
        exact ⟨_, _, _, .slot sameLength isSlot isItem, isReading⟩
      · rintro ⟨_, _, _, asks, isReading⟩
        cases asks with
        | @slot _ _ _ _ position _ item _ isSlot isItem =>
            refine ⟨position, _, some item, isSlot, ?_, ?_⟩
            · rw [List.getElem?_map, isItem, Option.map_some]
            · rw [isReading, Nat.zero_add]
        | slotAlike fallsBack => exact absurd rfl (fallsBack items)
    · rename_i otherLength
      apply (MadeOf.of_misfit (by simp) path).congr (false_iff_asked _)
      intro _ _ _ asks
      cases asks with
      | slot sameLength => exact otherLength sameLength
      | slotAlike fallsBack => exact absurd rfl (fallsBack items)
  · rename_i notArray
    have asMany : (slots.map fun _ => value?).length = slots.length := List.length_map _
    apply (madeOf_readSlots asMany path 0).congr
    intro reading
    constructor
    · rintro ⟨index, slot, own?, isSlot, isValue, isReading⟩
      rw [List.getElem?_map, isSlot, Option.map_some, Option.some.injEq] at isValue
      rw [Nat.zero_add, ← isValue] at isReading
      exact ⟨_, _, _, .slotAlike notArray isSlot, isReading⟩
    · rintro ⟨_, _, _, asks, isReading⟩
      cases asks with
      | slot => exact (notArray _ rfl).elim
      | @slotAlike _ _ _ _ position _ _ isSlot =>
          refine ⟨position, _, value?, isSlot, ?_, ?_⟩
          · rw [List.getElem?_map, isSlot, Option.map_some]
          · rw [isReading, Nat.zero_add]

/-- The readings of the shared fields and of those of a type; of an object whose type is null
nothing is read. -/
def TypeReadings (rules : VariantRules) (shared : List (String × Shape))
    (variants : List (String × ObjectShape)) (path : Path) (entries : List (String × Json)) :
    Option String → Row → Prop
  | none, _ => False
  | some tag, reading =>
      FieldReadings shared [] rules.repeats path entries reading ∨
        ∃ record, (tag, record) ∈ variants ∧
          FieldReadings record.fields record.rules.matching record.rules.repeats path entries
            reading

theorem asked_typed_iff {rules : VariantRules} {shared : List (String × Shape)}
    {variants : List (String × ObjectShape)} {path : Path} {entries : List (String × Json)}
    {reading : Row} :
    Asked (typed rules shared variants) path (some (.object entries)) reading ↔
      ∃ tag?, readTag rules entries path = .ok tag? ∧
        TypeReadings rules shared variants path entries tag? reading := by
  constructor
  · rintro ⟨_, _, _, asks, isReading⟩
    cases asks with
    | shared isTag fieldMem isFound =>
        exact ⟨_, isTag, .inl ⟨_, fieldMem, _, isFound, isReading⟩⟩
    | variant isTag recordMem fieldMem isFound =>
        exact ⟨_, isTag, .inr ⟨_, recordMem, _, fieldMem, _, isFound, isReading⟩⟩
  · rintro ⟨_ | tag, isTag, readings⟩
    · exact readings.elim
    · rcases readings with ⟨field, fieldMem, found, isFound, isReading⟩ |
        ⟨record, recordMem, field, fieldMem, found, isFound, isReading⟩
      · exact ⟨_, _, _, .shared isTag fieldMem isFound, isReading⟩
      · exact ⟨_, _, _, .variant isTag recordMem fieldMem isFound, isReading⟩

theorem madeOf_read_typed (rules : VariantRules) (shared : List (String × Shape))
    (variants : List (String × ObjectShape)) (path : Path) (value? : Option Json) :
    MadeOf (Asked (typed rules shared variants) path value?)
      ((typed rules shared variants).read path value?) := by
  simp only [read]
  apply MadeOf.afterCheck (readsNoLeaf_checkKind _ path value?)
  split
  · rename_i entries
    apply MadeOf.congr _ fun _ => asked_typed_iff.symm
    apply MadeOf.after (readsNoLeaf_readTag rules entries path)
    intro tag? _
    cases tag? with
    | none => exact .of_ok _
    | some tag =>
        apply MadeOf.afterCheck (readsNoLeaf_checkEntries _ _ _ tag entries path)
        apply (madeOf_readFields shared [] rules.repeats path entries).bind
        intro cells _
        exact (madeOf_readVariants variants tag path entries).map _
  · rename_i notObject
    apply (MadeOf.of_ok _).congr (false_iff_asked _)
    intro _ _ _ asks
    cases asks with
    | shared => exact notObject _ rfl
    | variant => exact notObject _ rfl

theorem madeOf_read_any (path : Path) (value? : Option Json) :
    MadeOf (Asked any path value?) (any.read path value?) := by
  have nothingAsked : ∀ part partPath part?, ¬Asks any path value? part partPath part? := by
    intro _ _ _ asks
    cases asks
  simp only [read]
  split
  · exact (MadeOf.of_ok _).congr (false_iff_asked nothingAsked)
  · exact (MadeOf.of_ok _).congr (false_iff_asked nothingAsked)

theorem madeOf_read_skip (acceptance : Acceptance) (path : Path) (value? : Option Json) :
    MadeOf (Asked (skip acceptance) path value?) ((skip acceptance).read path value?) := by
  simp only [read]
  apply MadeOf.afterCheck (readsNoLeaf_checkKind _ path value?)
  apply (MadeOf.of_ok _).congr (false_iff_asked _)
  intro _ _ _ asks
  cases asks

/-- What a shape reads is made of the readings of the parts that it asks. -/
theorem madeOf_read {shape : Shape} (notLeaf : ∀ scalar, shape ≠ leaf scalar) (path : Path)
    (value? : Option Json) : MadeOf (Asked shape path value?) (shape.read path value?) := by
  cases shape with
  | leaf scalar => exact absurd rfl (notLeaf scalar)
  | object record => exact madeOf_read_object record path value?
  | array element acceptance => exact madeOf_read_array element acceptance path value?
  | keyValue key value acceptance => exact madeOf_read_keyValue key value acceptance path value?
  | tuple slots acceptance => exact madeOf_read_tuple slots acceptance path value?
  | typed rules shared variants => exact madeOf_read_typed rules shared variants path value?
  | any => exact madeOf_read_any path value?
  | skip acceptance => exact madeOf_read_skip acceptance path value?

end Shape

end JsonTables
