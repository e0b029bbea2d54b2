import JsonTables.Proofs.DroppedRepeats
import JsonTables.Proofs.MirroredValues
import JsonTables.Proofs.StrictObjects

/-!
# The order of entries

In which order the entries of objects come makes no difference to what is read, as long as
no field finds two of them: then the entry that a field finds is the same in every order,
and only the entry that a fault is about may be another.
-/

namespace JsonTables

/-- Whether two values differ at most in the order of entries, in any of their objects. -/
inductive Json.Reorders : Json → Json → Prop
  | null : Reorders .null .null
  | bool (value : Bool) : Reorders (.bool value) (.bool value)
  | number (text : String) : Reorders (.number text) (.number text)
  | string (text : String) : Reorders (.string text) (.string text)
  | array {items others : List Json} (each : List.Forall₂ Reorders items others) :
      Reorders (.array items) (.array others)
  | object {entries middle others : List (String × Json)}
      (keys : middle.map (·.1) = entries.map (·.1))
      (values : List.Forall₂ Reorders (entries.map (·.2)) (middle.map (·.2)))
      (permuted : middle.Perm others) : Reorders (.object entries) (.object others)

theorem Json.Reorders.kind_eq {value other : Json} (reorders : value.Reorders other) :
    other.kind = value.kind := by
  cases reorders <;> rfl

namespace Shape

/-! ### Shapes and the values they stand for -/

/-- Whether a shape that stands for a value has a part stand for a value in it, or has the
object of its type stand for the whole of it. -/
inductive Hands : Shape → Json → Shape → Json → Prop
  | field {record : ObjectShape} {entries : List (String × Json)} {field : String × Shape}
      {entry : String × Json} (fieldMem : field ∈ record.fields) (entryMem : entry ∈ entries)
      (accepted : (ObjectShape.matchingIn record.rules.matching field.1).accepts field.1
        entry.1 = true) : Hands (object record) (.object entries) field.2 entry.2
  | item {element : Shape} {acceptance : Acceptance} {items : List Json} {item : Json}
      (itemMem : item ∈ items) : Hands (array element acceptance) (.array items) element item
  | key {key value : Shape} {acceptance : Acceptance} {entries : List (String × Json)}
      {entry : String × Json} (entryMem : entry ∈ entries) :
      Hands (keyValue key value acceptance) (.object entries) key (.string entry.1)
  | value {key value : Shape} {acceptance : Acceptance} {entries : List (String × Json)}
      {entry : String × Json} (entryMem : entry ∈ entries) :
      Hands (keyValue key value acceptance) (.object entries) value entry.2
  | slot {slots : List Shape} {acceptance : Acceptance} {items : List Json} {position : Nat}
      {slot : Shape} {item : Json} (isSlot : slots[position]? = some slot)
      (isItem : items[position]? = some item) :
      Hands (tuple slots acceptance) (.array items) slot item
  | shared {rules : VariantRules} {shared : List (String × Shape)}
      {variants : List (String × ObjectShape)} {entries : List (String × Json)}
      {field : String × Shape} {value : Json} (fieldMem : field ∈ shared)
      (entryMem : (field.1, value) ∈ entries) :
      Hands (typed rules shared variants) (.object entries) field.2 value
  | variant {rules : VariantRules} {shared : List (String × Shape)}
      {variants : List (String × ObjectShape)} {entries : List (String × Json)}
      {tag : String} {record : ObjectShape}
      (tagMem : (rules.typeField, .string tag) ∈ entries) (recordMem : (tag, record) ∈ variants) :
      Hands (typed rules shared variants) (.object entries) (object record) (.object entries)

theorem Hands.part_mem {shape part : Shape} {value inner : Json}
    (hands : Hands shape value part inner) : part ∈ shape.parts := by
  cases hands with
  | field fieldMem => exact field_mem_parts fieldMem
  | item => exact List.mem_cons_self
  | key => exact List.mem_cons_self
  | value => exact List.mem_cons_of_mem _ List.mem_cons_self
  | slot isSlot => exact List.mem_of_getElem? isSlot
  | shared fieldMem => exact shared_mem_parts fieldMem
  | variant _ recordMem => exact variant_mem_parts recordMem

theorem Hands.hasNoRepeats {shape part : Shape} {value inner : Json}
    (hands : Hands shape value part inner) (distinct : value.HasNoRepeats) :
    inner.HasNoRepeats := by
  cases hands with
  | field _ entryMem =>
      cases distinct with
      | object _ each => exact each _ entryMem
  | item itemMem =>
      cases distinct with
      | array each => exact each _ itemMem
  | key => exact .string _
  | value entryMem =>
      cases distinct with
      | object _ each => exact each _ entryMem
  | slot _ isItem =>
      cases distinct with
      | array each => exact each _ (List.mem_of_getElem? isItem)
  | shared _ entryMem =>
      cases distinct with
      | object _ each => exact each _ entryMem
  | variant => exact distinct

/-- Whether a shape stands for a value, where another stands for a value that holds it. -/
inductive StandsFor (node : Shape) (inner : Json) : Shape → Json → Prop
  | self : StandsFor node inner node inner
  | inside {shape part : Shape} {value partValue : Json}
      (hands : Hands shape value part partValue) (below : StandsFor node inner part partValue) :
      StandsFor node inner shape value

/-- Whether no field of a shape finds two entries of an object that it stands for. -/
def FindsOnce : Shape → Json → Prop
  | object record, .object entries => ∀ field ∈ record.matchings, AcceptsOnce field entries
  | typed rules shared _, .object entries =>
      AcceptsOnce (rules.typeField, .exact) entries ∧
        ∀ field ∈ shared, AcceptsOnce (field.1, .exact) entries
  | _, _ => True

theorem acceptsOnce_exact {entries : List (String × Json)}
    (distinct : (entries.map (·.1)).Nodup) (name : String) :
    AcceptsOnce (name, .exact) entries := by
  refine (List.pairwise_map.mp distinct).imp ?_
  intro entry other differ isName
  rw [← Bool.not_eq_true, accepts_exact_iff, accepts_exact_iff.mp isName]
  exact differ

/-- Where no key is repeated, fields that have their own names alone find one entry. -/
theorem findsOnce_of_hasNoRepeats {shape : Shape}
    (exactNames : ∀ node, IsNodeOf node shape →
      ∀ record, node = object record → record.rules.matching = [])
    {value : Json} (distinct : value.HasNoRepeats) {node : Shape} {inner : Json}
    (standsFor : StandsFor node inner shape value) : FindsOnce node inner := by
  induction standsFor with
  | self =>
      cases distinct with
      | object distinct =>
          cases node with
          | object record =>
              refine List.forall_mem_map.mpr ?_
              intro field _
              rw [exactNames _ .self record rfl]
              exact acceptsOnce_exact distinct field.1
          | typed rules shared variants =>
              exact ⟨acceptsOnce_exact distinct _, fun field _ => acceptsOnce_exact distinct _⟩
          | _ => exact trivial
      | _ => cases node <;> exact trivial
  | inside hands _ ih =>
      refine ih ?_ (hands.hasNoRepeats distinct)
      intro node isNode
      exact exactNames node (.inside hands.part_mem isNode)

/-- Whether two values differ in the order of entries alone, no field finds two of them, and
the shape keeps no order of its own. -/
structure OnlyReorders (shape : Shape) (value other : Json) : Prop where
  plain : ∀ node, IsNodeOf node shape → ¬node.IsMap ∧ node ≠ any
  once : ∀ node inner, StandsFor node inner shape value → FindsOnce node inner
  reorders : value.Reorders other

theorem OnlyReorders.part {shape part : Shape} {value other inner another : Json}
    (only : OnlyReorders shape value other) (hands : Hands shape value part inner)
    (reorders : inner.Reorders another) : OnlyReorders part inner another where
  plain node isNode := only.plain node (.inside hands.part_mem isNode)
  once node inner below := only.once node inner (.inside hands below)
  reorders := reorders

/-! ### Entries -/

/-- Whether every entry has one of the same key among other entries, which differs at most in
the order of entries within it, and the keys are the same in another order. -/
structure EntriesReorder (entries others : List (String × Json)) : Prop where
  keys : (entries.map (·.1)).Perm (others.map (·.1))
  entry : ∀ entry ∈ entries, ∃ other ∈ others, other.1 = entry.1 ∧ entry.2.Reorders other.2

theorem exists_of_mem_of_forall₂ {entries others : List (String × Json)}
    (keys : others.map (·.1) = entries.map (·.1))
    (values : List.Forall₂ Json.Reorders (entries.map (·.2)) (others.map (·.2)))
    {entry : String × Json} (entryMem : entry ∈ entries) :
    ∃ other ∈ others, other.1 = entry.1 ∧ entry.2.Reorders other.2 := by
  induction entries generalizing others with
  | nil => cases entryMem
  | cons first rest ih =>
      rcases List.map_eq_cons_iff.mp keys with ⟨other, others, rfl, sameKey, restKeys⟩
      rcases values with _ | ⟨firstReorders, restReorder⟩
      rcases List.mem_cons.mp entryMem with rfl | inRest
      · exact ⟨other, List.mem_cons_self, sameKey, firstReorders⟩
      · rcases ih restKeys restReorder inRest with ⟨another, anotherMem, reorders⟩
        exact ⟨another, List.mem_cons_of_mem other anotherMem, reorders⟩

theorem entriesReorder_of_reorders {entries : List (String × Json)} {other : Json}
    (reorders : (Json.object entries).Reorders other) :
    ∃ others, other = .object others ∧ EntriesReorder entries others := by
  cases reorders with
  | @object _ middle others keys values permuted =>
      refine ⟨others, rfl, keys ▸ permuted.map (·.1), ?_⟩
      intro entry entryMem
      rcases exists_of_mem_of_forall₂ keys values entryMem with ⟨another, anotherMem, reorders⟩
      exact ⟨another, permuted.mem_iff.mp anotherMem, reorders⟩

section

variable {entries others : List (String × Json)}

/-- What holds of every key holds of the keys in another order. -/
theorem EntriesReorder.forall_key_iff (reorder : EntriesReorder entries others)
    (p : String → Prop) : (∀ entry ∈ entries, p entry.1) ↔ ∀ other ∈ others, p other.1 := by
  rw [← List.forall_mem_map (P := p), ← List.forall_mem_map (l := others) (P := p)]
  exact forall_congr' fun key => imp_congr_left reorder.keys.mem_iff

/-- Whether a field accepts two entries is told by their keys, in any order. -/
theorem AcceptsOnce.of_keys {α β : Type} {firsts : List (String × α)} {seconds : List (String × β)}
    (keys : (firsts.map (·.1)).Perm (seconds.map (·.1))) {field : String × FieldMatching}
    (once : firsts.Pairwise fun entry other =>
      field.2.accepts field.1 entry.1 = true → field.2.accepts field.1 other.1 = false) :
    seconds.Pairwise fun entry other =>
      field.2.accepts field.1 entry.1 = true → field.2.accepts field.1 other.1 = false := by
  let Differ : String → String → Prop := fun key other =>
    field.2.accepts field.1 key = true → field.2.accepts field.1 other = false
  -- two keys may come in the other order, so what holds of a pair has to hold both ways
  have symmetric : ∀ {key other}, Differ key other → Differ other key := by
    intro key other differ isOther
    by_contra isKey
    simp [differ (by simpa using isKey)] at isOther
  have keysOnce : (firsts.map (·.1)).Pairwise Differ := List.pairwise_map.mpr once
  exact List.pairwise_map.mp ((keys.pairwise_iff symmetric).mp keysOnce)

theorem EntriesReorder.acceptsOnce (reorder : EntriesReorder entries others)
    {field : String × FieldMatching} (once : AcceptsOnce field entries) :
    AcceptsOnce field others :=
  AcceptsOnce.of_keys reorder.keys once

/-- A field that finds one entry at most finds the same in another order. -/
theorem findField_of_entriesReorder (reorder : EntriesReorder entries others)
    {field : String × FieldMatching} (once : AcceptsOnce field entries) (repeats : RepeatPolicy)
    (path : Path) :
    (findField entries field.1 field.2 repeats path = .ok none ∧
      findField others field.1 field.2 repeats path = .ok none) ∨
    ∃ entry ∈ entries, field.2.accepts field.1 entry.1 = true ∧
      findField entries field.1 field.2 repeats path = .ok (some entry.2) ∧
      ∃ another, entry.2.Reorders another ∧
        findField others field.1 field.2 repeats path = .ok (some another) := by
  by_cases isFound : ∃ entry ∈ entries, field.2.accepts field.1 entry.1 = true
  · rcases isFound with ⟨entry, entryMem, accepted⟩
    rcases reorder.entry entry entryMem with ⟨other, otherMem, sameKey, reorders⟩
    refine .inr ⟨entry, entryMem, accepted, findField_of_acceptsOnce once entryMem accepted _ _,
      other.2, reorders, ?_⟩
    exact findField_of_acceptsOnce (reorder.acceptsOnce once) otherMem (sameKey ▸ accepted) _ _
  · have notFound : ∀ entry ∈ entries, ¬field.2.accepts field.1 entry.1 = true := by
      simpa using isFound
    have notFoundOther : ∀ other ∈ others, ¬field.2.accepts field.1 other.1 = true :=
      (reorder.forall_key_iff fun key => ¬field.2.accepts field.1 key = true).mp notFound
    left
    simp only [findField, List.filter_eq_nil_iff.mpr notFound,
      List.filter_eq_nil_iff.mpr notFoundOther]
    exact ⟨trivial, trivial⟩

/-! ### Checks -/

/-- Whatever the faults are: the entry that a check stops at comes first in one order only. -/
def AnyFaults (_ _ : ValueError) : Prop :=
  True

theorem rel_of_eq_ok_iff {first other : Except ValueError Unit}
    (same : first = .ok () ↔ other = .ok ()) : Except.Rel AnyFaults Eq first other := by
  cases first with
  | ok _ =>
      rw [same.mp rfl]
      exact .ok rfl
  | error fault =>
      cases other with
      | ok _ => cases same.mpr rfl
      | error another => exact .error trivial

theorem checkKnown_eq_ok_iff {record : ObjectShape} {path : Path} :
    checkKnown record path entries = .ok () ↔
      record.rules.allowUnknown = true ∨ ∀ entry ∈ entries, record.knows entry.1 = true := by
  rcases record with ⟨fields, rules⟩
  rw [← find?_unknown_eq_none_iff]
  simp only [checkKnown, ObjectShape.rules]
  cases rules.allowUnknown with
  | true => simp
  | false =>
      cases entries.find? fun entry => !(ObjectShape.record fields rules).knows entry.1 with
      | none => simp
      | some entry => simp [misfit]

theorem checkKnown_reorder (reorder : EntriesReorder entries others) (record : ObjectShape)
    (path : Path) :
    Except.Rel AnyFaults Eq (checkKnown record path entries) (checkKnown record path others) := by
  apply rel_of_eq_ok_iff
  rw [checkKnown_eq_ok_iff, checkKnown_eq_ok_iff, reorder.forall_key_iff (record.knows · = true)]

theorem checkEntries_reorder (reorder : EntriesReorder entries others) (rules : VariantRules)
    (shared : List String) (selected : Option ObjectShape) (tag : String) (path : Path) :
    Except.Rel AnyFaults Eq (checkEntries rules shared selected tag entries path)
      (checkEntries rules shared selected tag others path) := by
  apply rel_of_eq_ok_iff
  cases selected with
  | none => rw [checkEntries_none_eq_ok_iff, checkEntries_none_eq_ok_iff]
  | some record =>
      rw [checkEntries_some_eq_ok_iff, checkEntries_some_eq_ok_iff,
        reorder.forall_key_iff fun key =>
          (key == rules.typeField || shared.contains key || record.knows key) = true]

theorem readTag_reorder (reorder : EntriesReorder entries others) {rules : VariantRules}
    (once : AcceptsOnce (rules.typeField, .exact) entries) (path : Path) :
    Except.Rel AnyFaults Eq (readTag rules entries path) (readTag rules others path) := by
  rcases findField_of_entriesReorder reorder once rules.repeats path with
    ⟨isNone, otherNone⟩ | ⟨entry, _, _, isFound, another, reorders, otherFound⟩
  · simp only [readTag, isNone, otherNone, Except.ok_bind]
    exact .refl (fun _ => trivial) _
  · simp only [readTag, isFound, otherFound, Except.ok_bind]
    rcases entry with ⟨key, value⟩
    dsimp only at reorders
    -- only lists and objects can differ here, and of those the kind alone is looked at
    cases reorders <;> exact .refl (fun _ => trivial) _

/-- A type that is read is the value of an entry under the field of the type. -/
theorem mem_of_readTag {rules : VariantRules} {path : Path} {tag : String}
    (isTag : readTag rules entries path = .ok (some tag)) :
    (rules.typeField, .string tag) ∈ entries := by
  simp only [readTag, Except.bind_eq_ok_iff] at isTag
  rcases isTag with ⟨found, isFound, isTag⟩
  split at isTag
  · cases isTag
    exact mem_of_lookup (lookup_of_findField isFound)
  · split at isTag <;> cases isTag
  · cases isTag
  · cases isTag

/-! ### Fields -/

theorem findAlike_of_onlyReorders {fields : List (String × Shape)}
    {matching : List (String × FieldMatching)} {repeats : RepeatPolicy}
    (reorder : EntriesReorder entries others)
    (once : ∀ field ∈ fields,
      AcceptsOnce (field.1, ObjectShape.matchingIn matching field.1) entries)
    (parts : ∀ field ∈ fields, ∀ entry ∈ entries,
      (ObjectShape.matchingIn matching field.1).accepts field.1 entry.1 = true →
        ∀ another, entry.2.Reorders another → OnlyReorders field.2 entry.2 another)
    (path : Path) :
    FindAlike AnyFaults OnlyReorders fields matching repeats path entries others := by
  intro field fieldMem
  rcases findField_of_entriesReorder reorder (once field fieldMem) repeats path with
    ⟨isNone, otherNone⟩ | ⟨entry, entryMem, accepted, isFound, another, reorders, otherFound⟩
  · rw [isNone, otherNone]
    exact .ok .none
  · rw [isFound, otherFound]
    exact .ok (.some (parts field fieldMem entry entryMem accepted another reorders))

/-- The fields of an object find the same in another order. -/
theorem ownFieldsFindAlike_of_onlyReorders {record : ObjectShape}
    (only : OnlyReorders (object record) (.object entries) (.object others))
    (reorder : EntriesReorder entries others) (path : Path) :
    OwnFieldsFindAlike AnyFaults OnlyReorders record path entries others := by
  have once : ∀ field ∈ record.matchings, AcceptsOnce field entries := only.once _ _ .self
  refine findAlike_of_onlyReorders reorder (List.forall_mem_map.mp once) ?_ path
  intro field fieldMem entry entryMem accepted another reorders
  exact only.part (.field fieldMem entryMem accepted) reorders

end

/-- Values that differ in the order of entries alone mirror each other. -/
theorem onlyReorders_mirrors : Mirrors AnyFaults OnlyReorders where
  fault _ := trivial
  kind only := only.reorders.kind_eq
  leaf := by
    rintro scalar value other only path
    have sameCell : scalar.read path (some value) = scalar.read path (some other) := by
      cases only.reorders with
      | array => exact scalar.read_array_eq path _ _
      | object => exact scalar.read_object_eq path _ _
      | _ => rfl
    rw [sameCell]
    exact .refl (fun _ => trivial) _
  any only := absurd rfl (only.plain any .self).2
  items := by
    rintro element acceptance items others only
    cases only.reorders with
    | array each =>
        refine List.forall₂_iff_get.mpr ⟨each.length_eq, ?_⟩
        intro position inItems inOthers
        exact only.part (.item (List.get_mem items ⟨position, inItems⟩))
          (each.get inItems inOthers)
  entries only := absurd trivial (only.plain _ .self).1
  slots := by
    rintro slots acceptance items others only
    cases only.reorders with
    | array each =>
        refine ⟨each.length_eq.symm, ?_⟩
        intro position slot item other isSlot isItem isOther
        have reorders : item.Reorders other := by
          rcases List.getElem?_eq_some_iff.mp isItem with ⟨inItems, rfl⟩
          rcases List.getElem?_eq_some_iff.mp isOther with ⟨inOthers, rfl⟩
          exact each.get inItems inOthers
        exact only.part (.slot isSlot isItem) reorders
  fields := by
    rintro record entries others only path
    rcases entriesReorder_of_reorders only.reorders with ⟨_, ⟨⟩, reorder⟩
    exact ⟨checkKnown_reorder reorder record path,
      ownFieldsFindAlike_of_onlyReorders only reorder path⟩
  tag := by
    rintro rules shared variants entries others only path
    rcases entriesReorder_of_reorders only.reorders with ⟨_, ⟨⟩, reorder⟩
    exact readTag_reorder reorder (only.once _ _ .self).1 path
  variant := by
    rintro rules shared variants entries others only path tag isTag
    rcases entriesReorder_of_reorders only.reorders with ⟨_, ⟨⟩, reorder⟩
    refine ⟨checkEntries_reorder reorder rules _ _ tag path, ?_, ?_⟩
    · refine findAlike_of_onlyReorders reorder (only.once _ _ .self).2 ?_ path
      intro field fieldMem entry entryMem accepted another reorders
      have entryMem : (field.1, entry.2) ∈ entries := by
        rw [accepts_exact_iff.mp accepted]
        exact entryMem
      exact only.part (.shared fieldMem entryMem) reorders
    · intro record recordMem
      have hands : Hands (typed rules shared variants) (.object entries) (object record)
          (.object entries) := .variant (mem_of_readTag isTag) recordMem
      have recordOnly := only.part hands only.reorders
      exact ownFieldsFindAlike_of_onlyReorders recordOnly reorder path

/-- The order of entries makes no difference to a shape without maps that keeps no value as it
is, where no field finds two entries: in every order the same rows are read, or none. -/
theorem order_of_entries_is_irrelevant {shape : Shape} (valid : shape.IsValid)
    (plain : ∀ node, IsNodeOf node shape → ¬node.IsMap ∧ node ≠ any) {value other : Json}
    (reorders : value.Reorders other)
    (once : ∀ node inner, StandsFor node inner shape value → FindsOnce node inner) :
    (∀ path row, (shape.fill path (some value) row).toOption =
      (shape.fill path (some other) row).toOption) ∧
    ∀ naming layout, Layout.ofShape shape naming = .ok layout →
      (layout.rows (some value)).toOption = (layout.rows (some other)).toOption := by
  have only : OnlyReorders shape value other := ⟨plain, once, reorders⟩
  constructor
  · intro path row
    exact (fill_alike onlyReorders_mirrors valid only path row).toOption_eq
  · intro naming layout made
    have rowsAlike := readRows_alike onlyReorders_mirrors valid only
    have errorsAlike : Except.Rel (fun _ _ => True) Eq (layout.rows (some value))
        (layout.rows (some other)) := by
      rw [Layout.eq_of_ofShape made]
      exact rowsAlike.mapError fun _ _ _ => trivial
    exact errorsAlike.toOption_eq

/-- A dot whose type comes behind the field that it selects, or before it. -/
theorem order_within_a_dot_is_irrelevant :
    let number : Shape := leaf { kind := .int, acceptance := ⟨true, .ofList [.int]⟩ }
    let acceptance : Acceptance := ⟨true, .ofList [.object]⟩
    let point : Shape := object (.record [("x", number), ("y", number)]
      { allowUnknown := false, acceptance })
    let dot : ObjectShape := .record [("r", number)] { allowUnknown := false, acceptance }
    let shape := typed ⟨"kind", false, acceptance, .error⟩ [("at", point)] [("dot", dot)]
    let value : Json := .object [("r", .number "3"), ("kind", .string "dot"),
      ("at", .object [("y", .number "2"), ("x", .number "1")])]
    let other : Json := .object [("kind", .string "dot"),
      ("at", .object [("x", .number "1"), ("y", .number "2")]), ("r", .number "3")]
    let filled : Array Cell := #[.string "dot", .int 1, .int 2, .int 3]
    shape.IsValid ∧ value.Reorders other ∧ shape.fill [] (some value) #[] = .ok filled ∧
      (shape.fill [] (some other) #[]).toOption = some filled := by
  intro number acceptance point dot shape value other filled
  have numberValid : number.IsValid := isValid_iff.mpr ⟨by cbv, List.forall_mem_nil _⟩
  have pointValid : point.IsValid := isValid_iff.mpr
    ⟨by cbv, List.forall_mem_cons.mpr ⟨numberValid, List.forall_mem_singleton.mpr numberValid⟩⟩
  have valid : shape.IsValid := isValid_typed (by cbv) (List.forall_mem_singleton.mpr pointValid)
    (List.forall_mem_singleton.mpr (List.forall_mem_singleton.mpr numberValid))
  let IsBare : Shape → Prop := fun node =>
    (¬node.IsMap ∧ node ≠ any) ∧ ∀ record, node = object record → record.rules.matching = []
  have numberBare : ∀ node, IsNodeOf node number → IsBare node :=
    forall_isNodeOf_iff.mpr
      ⟨⟨⟨id, by simp [number]⟩, by simp [number]⟩, List.forall_mem_nil _⟩
  have ownNames : ∀ {fields allowUnknown} record,
      object (.record fields { allowUnknown, acceptance }) = object record →
        record.rules.matching = [] := by
    rintro _ _ _ ⟨⟩
    rfl
  have pointBare : ∀ node, IsNodeOf node point → IsBare node :=
    forall_isNodeOf_iff.mpr ⟨⟨⟨id, by simp [point]⟩, ownNames⟩,
      List.forall_mem_cons.mpr ⟨numberBare, List.forall_mem_singleton.mpr numberBare⟩⟩
  have dotBare : ∀ node, IsNodeOf node (object dot) → IsBare node :=
    forall_isNodeOf_iff.mpr ⟨⟨⟨id, by simp⟩, ownNames⟩,
      List.forall_mem_singleton.mpr numberBare⟩
  have bare : ∀ node, IsNodeOf node shape → IsBare node :=
    forall_isNodeOf_iff.mpr ⟨⟨⟨id, by simp [shape]⟩, by simp [shape]⟩,
      List.forall_mem_cons.mpr ⟨pointBare, List.forall_mem_singleton.mpr dotBare⟩⟩
  have pointReorders : (Json.object [("y", .number "2"), ("x", .number "1")]).Reorders
      (.object [("x", .number "1"), ("y", .number "2")]) :=
    .object rfl (.cons (.number "2") (.cons (.number "1") .nil)) (.swap _ _ _)
  have reorders : value.Reorders other := by
    refine @Json.Reorders.object _ ([("r", .number "3")] ++ [("kind", .string "dot"),
      ("at", .object [("x", .number "1"), ("y", .number "2")])]) _ rfl ?_ List.perm_append_comm
    exact .cons (.number "3") (.cons (.string "dot") (.cons pointReorders .nil))
  have pointDistinct : (Json.object [("y", .number "2"), ("x", .number "1")]).HasNoRepeats :=
    .object (by decide)
      (List.forall_mem_cons.mpr ⟨.number "2", List.forall_mem_singleton.mpr (.number "1")⟩)
  have distinct : value.HasNoRepeats :=
    .object (by decide) (List.forall_mem_cons.mpr ⟨.number "3",
      List.forall_mem_cons.mpr ⟨.string "dot", List.forall_mem_singleton.mpr pointDistinct⟩⟩)
  have once : ∀ node inner, StandsFor node inner shape value → FindsOnce node inner :=
    fun _ _ => findsOnce_of_hasNoRepeats (fun node isNode => (bare node isNode).2) distinct
  have isFilled : shape.fill [] (some value) #[] = .ok filled := by cbv
  refine ⟨valid, reorders, isFilled, ?_⟩
  have sameRow := (order_of_entries_is_irrelevant valid (fun node isNode => (bare node isNode).1)
    reorders once).1 [] #[]
  rw [← sameRow, isFilled]
  rfl

end Shape

end JsonTables
