import JsonTables.Proofs.IntegerText
import JsonTables.Proofs.LooserShapes
import JsonTables.Proofs.RowTypes

/-!
# Loosening keeps rows

What a shape has read it goes on to read, to the same cells, when it is loosened.  Where
decimals are newly accepted this takes an argument about numbers.  Elsewhere a check that
has let a value pass lets it pass still; a type that is null is the one value that a
looser shape reads by a shorter way, and that value the stricter one has refused.
-/

namespace JsonTables

namespace Shape

/-! ### Checks -/

theorem checkKind_kept {shape other : Shape} {acceptance otherAcceptance : Acceptance}
    (isOf : shape.acceptance? = some acceptance)
    (otherIsOf : other.acceptance? = some otherAcceptance)
    (loosens : acceptance.LoosensTo otherAcceptance) {path : Path} {value? : Option Json}
    (passes : shape.checkKind path value? = .ok ()) : other.checkKind path value? = .ok () := by
  cases value? with
  | none =>
      simp only [checkKind, allowMissing, isOf, otherIsOf, Option.elim_some] at passes ⊢
      split at passes
      · rename_i missing
        rw [if_pos (loosens.missing missing)]
      · cases passes
  | some value =>
      simp only [checkKind, accepts, desired?, isOf, otherIsOf, Option.map_some, Option.elim_some]
        at passes ⊢
      split at passes
      · rename_i accepted
        rw [if_pos (loosens.desired _ accepted)]
      · cases passes

/-- A field that is found once, or repeated and allowed to be, is found as it was. -/
theorem findField_kept {matching other : FieldMatching} {repeats otherRepeats : RepeatPolicy}
    (loosens : matching.LoosensTo other repeats otherRepeats) {entries : List (String × Json)}
    {name : String} {path : Path} {found : Option Json}
    (isFound : findField entries name matching repeats path = .ok found) :
    findField entries name other otherRepeats path = .ok found := by
  simp only [findField, loosens.accepts] at isFound ⊢
  split at isFound
  · exact isFound
  · exact isFound
  · -- of a repeated field the first entry counts, or the stricter policy has failed already
    rcases loosens.repeats with same | useFirst
    · rw [same]
      exact isFound
    · rw [useFirst]
      split at isFound
      · exact isFound
      · cases isFound

theorem ObjectKeptBy.knows {record other : ObjectShape} (kept : ObjectKeptBy record other)
    (key : String) : other.knows key = record.knows key := by
  rcases record with ⟨fields, rules⟩
  rcases other with ⟨others, otherRules⟩
  rcases kept with ⟨fieldsKept, rulesLoosen⟩
  have matchingLoosens := rulesLoosen.matching
  simp only [ObjectShape.knows, ObjectShape.fields, ObjectShape.rules] at *
  clear rulesLoosen
  induction fieldsKept with
  | nil => rfl
  | cons first _ ih =>
      rw [List.map_cons, List.forall_mem_cons] at matchingLoosens
      rw [List.any_cons, List.any_cons, ih matchingLoosens.2, first.1,
        matchingLoosens.1.accepts]

theorem find?_unknown_eq_none_iff (isKnown : String → Bool) {entries : List (String × Json)} :
    entries.find? (fun entry => !isKnown entry.1) = none ↔
      ∀ entry ∈ entries, isKnown entry.1 = true := by
  simp [List.find?_eq_none]

/-- An object is read if all its entries are known, or need not be, and its fields
are read. -/
theorem readObject_eq_ok_iff {fields : List (String × Shape)} {rules : ObjectRules} {path : Path}
    {entries : List (String × Json)} {cells : List Cell} :
    readObject (.record fields rules) path (some (.object entries)) = .ok cells ↔
      (rules.allowUnknown = true ∨
        ∀ entry ∈ entries, (ObjectShape.record fields rules).knows entry.1 = true) ∧
      readFields fields rules.matching rules.repeats path entries = .ok cells := by
  rw [← find?_unknown_eq_none_iff]
  simp only [readObject]
  cases rules.allowUnknown with
  | true => simp
  | false =>
      cases entries.find? fun entry => !(ObjectShape.record fields rules).knows entry.1 with
      | none => simp
      | some entry => simp [misfit]

theorem checkEntries_some_eq_ok_iff {rules : VariantRules} {shared : List String}
    {record : ObjectShape} {tag : String} {entries : List (String × Json)} {path : Path} :
    checkEntries rules shared (some record) tag entries path = .ok () ↔
      record.rules.allowUnknown = true ∨ ∀ entry ∈ entries,
        (entry.1 == rules.typeField || shared.contains entry.1 || record.knows entry.1) = true := by
  rw [← find?_unknown_eq_none_iff fun key =>
    key == rules.typeField || shared.contains key || record.knows key]
  simp only [checkEntries, pure_bind, Option.any_some]
  cases record.rules.allowUnknown with
  | true => simp
  | false =>
      cases entries.find? fun entry =>
        !(entry.1 == rules.typeField || shared.contains entry.1 || record.knows entry.1) with
      | none => simp
      | some entry => simp [misfit]

theorem checkEntries_none_eq_ok_iff {rules : VariantRules} {shared : List String} {tag : String}
    {entries : List (String × Json)} {path : Path} :
    checkEntries rules shared none tag entries path = .ok () ↔ rules.allowUnknown = true := by
  simp only [checkEntries]
  cases rules.allowUnknown with
  | true => simp
  | false => simp [misfit]

/-! ### Readings -/

theorem readItems_kept {read other : Path → Option Json → Row} (kept : ReadKept read other)
    {path : Path} {position : Nat} {items : List Json} {rows : List (List Cell)}
    (itemsRead : readItems read path position items = .ok rows) :
    readItems other path position items = .ok rows := by
  induction items generalizing position rows with
  | nil => exact itemsRead
  | cons item rest ih =>
      simp only [readItems, Except.bind_eq_ok_iff] at itemsRead ⊢
      rcases itemsRead with ⟨row, rowRead, others, othersRead, isRows⟩
      exact ⟨row, kept rowRead, others, ih othersRead, isRows⟩

theorem readEntries_kept {readKey otherKey readValue otherValue : Path → Option Json → Row}
    (keyKept : ReadKept readKey otherKey) (valueKept : ReadKept readValue otherValue)
    {path : Path} {entries : List (String × Json)} {rows : List (List Cell) × List (List Cell)}
    (entriesRead : readEntries readKey readValue path entries = .ok rows) :
    readEntries otherKey otherValue path entries = .ok rows := by
  induction entries generalizing rows with
  | nil => exact entriesRead
  | cons entry rest ih =>
      simp only [readEntries, Except.bind_eq_ok_iff] at entriesRead ⊢
      rcases entriesRead with ⟨keyRow, keyRead, valueRow, valueRead, others, othersRead, isRows⟩
      exact ⟨keyRow, keyKept keyRead, valueRow, valueKept valueRead, others, ih othersRead, isRows⟩

theorem readFields_kept {fields others : List (String × Shape)} (kept : FieldsKeptBy fields others)
    {matching otherMatching : List (String × FieldMatching)} {repeats otherRepeats : RepeatPolicy}
    (loosen : ∀ name ∈ fields.map (·.1),
      (ObjectShape.matchingIn matching name).LoosensTo
        (ObjectShape.matchingIn otherMatching name) repeats otherRepeats)
    {path : Path} {entries : List (String × Json)} {cells : List Cell}
    (fieldsRead : readFields fields matching repeats path entries = .ok cells) :
    readFields others otherMatching otherRepeats path entries = .ok cells := by
  induction kept generalizing cells with
  | nil => exact fieldsRead
  | cons first _ ih =>
      rw [List.map_cons, List.forall_mem_cons] at loosen
      simp only [readFields, Except.bind_eq_ok_iff] at fieldsRead ⊢
      rcases fieldsRead with ⟨found, isFound, cells, cellsRead, others, othersRead, isCells⟩
      rw [first.1]
      exact ⟨found, findField_kept loosen.1 isFound, cells, first.2.read cellsRead, others,
        ih loosen.2 othersRead, isCells⟩

theorem readAlike_kept {fields others : List (String × Shape)} (kept : FieldsKeptBy fields others)
    {path : Path} {value? : Option Json} {cells : List Cell}
    (fieldsRead : readAlike fields path value? = .ok cells) :
    readAlike others path value? = .ok cells := by
  induction kept generalizing cells with
  | nil => exact fieldsRead
  | cons first _ ih =>
      simp only [readAlike, Except.bind_eq_ok_iff] at fieldsRead ⊢
      rcases fieldsRead with ⟨cells, cellsRead, others, othersRead, isCells⟩
      rw [first.1]
      exact ⟨cells, first.2.read cellsRead, others, ih othersRead, isCells⟩

theorem readSlots_kept {slots others : List Shape} (kept : List.Forall₂ KeptBy slots others)
    {path : Path} {position : Nat} {values : List (Option Json)} {cells : List Cell}
    (slotsRead : readSlots slots path position values = .ok cells) :
    readSlots others path position values = .ok cells := by
  induction kept generalizing position values cells with
  | nil => exact slotsRead
  | cons first _ ih =>
      cases values with
      | nil => exact slotsRead
      | cons value? values =>
          simp only [readSlots, Except.bind_eq_ok_iff] at slotsRead ⊢
          rcases slotsRead with ⟨cells, cellsRead, others, othersRead, isCells⟩
          exact ⟨cells, first.read cellsRead, others, ih othersRead, isCells⟩

theorem readVariants_kept {variants others : List (String × ObjectShape)}
    (kept : VariantsKeptBy variants others) {tag : String} {path : Path}
    {entries : List (String × Json)} {cells : List Cell}
    (variantsRead : readVariants variants tag path entries = .ok cells) :
    readVariants others tag path entries = .ok cells := by
  induction kept generalizing cells with
  | nil => exact variantsRead
  | @cons variant other _ _ first _ ih =>
      rcases variant with ⟨name, ⟨fields, rules⟩⟩
      rcases other with ⟨otherName, ⟨others, otherRules⟩⟩
      rcases first with ⟨sameName, objectKept⟩
      obtain rfl : otherName = name := sameName
      simp only [readVariants, readOwnFields, objectWidth, objectKept.columns] at variantsRead ⊢
      by_cases isTag : otherName = tag
      · simp only [if_pos isTag, Except.bind_eq_ok_iff] at variantsRead ⊢
        rcases variantsRead with ⟨cells, cellsRead, others, othersRead, isCells⟩
        have cellsKept := readFields_kept objectKept.fields objectKept.rules.matching cellsRead
        exact ⟨cells, cellsKept, others, ih othersRead, isCells⟩
      · simp only [if_neg isTag, Except.bind_eq_ok_iff] at variantsRead ⊢
        rcases variantsRead with ⟨cells, isNulls, others, othersRead, isCells⟩
        exact ⟨cells, isNulls, others, ih othersRead, isCells⟩

/-! ### Types of objects -/

theorem exact_loosensTo {repeats otherRepeats : RepeatPolicy}
    (loosens : repeats.LoosensTo otherRepeats) :
    FieldMatching.exact.LoosensTo .exact repeats otherRepeats :=
  ⟨rfl, rfl, loosens⟩

theorem readTag_kept {rules otherRules : VariantRules} (loosens : rules.LoosensTo otherRules)
    {entries : List (String × Json)} {path : Path} {tag? : Option String}
    (tagRead : readTag rules entries path = .ok tag?) :
    readTag otherRules entries path = .ok tag? := by
  simp only [readTag, Except.bind_eq_ok_iff, loosens.typeField] at tagRead ⊢
  rcases tagRead with ⟨found, isFound, isTag⟩
  refine ⟨found, findField_kept (exact_loosensTo loosens.repeats) isFound, ?_⟩
  split at isTag
  · exact isTag
  · -- a null type is accepted, so it is still accepted
    split at isTag
    · rename_i accepted
      simpa [loosens.acceptance.desired _ accepted] using isTag
    · cases isTag
  · cases isTag
  · cases isTag

theorem checkEntries_kept {rules otherRules : VariantRules}
    (loosens : rules.LoosensTo otherRules) {selected otherSelected : Option ObjectShape}
    (kept : Option.Rel ObjectKeptBy selected otherSelected) {shared : List String} {tag : String}
    {entries : List (String × Json)} {path : Path}
    (passes : checkEntries rules shared selected tag entries path = .ok ()) :
    checkEntries otherRules shared otherSelected tag entries path = .ok () := by
  cases kept with
  | none =>
      rw [checkEntries_none_eq_ok_iff] at passes ⊢
      exact loosens.unknown passes
  | some objectKept =>
      rw [checkEntries_some_eq_ok_iff] at passes ⊢
      simp only [loosens.typeField, objectKept.knows]
      exact passes.imp_left objectKept.rules.unknown

end Shape

theorem Leaf.readValue_kept {acceptance other : Acceptance} (loosens : acceptance.LoosensTo other)
    {kind : LeafKind} {json : Json} {value : kind.Value}
    (isRead : readValue (acceptance.desired.contains .decimal) json kind = .ok value) :
    readValue (other.desired.contains .decimal) json kind = .ok value := by
  cases decimal : acceptance.desired.contains .decimal with
  | true => rwa [loosens.desired .decimal decimal, ← decimal]
  | false =>
      rw [decimal] at isRead
      cases other.desired.contains .decimal with
      | true => exact readValue_keptByDecimals kind json value isRead
      | false => exact isRead

/-- A leaf that accepts more reads what it has read to the same cell. -/
theorem Leaf.LoosensTo.read {leaf other : Leaf} (loosens : leaf.LoosensTo other) {path : Path}
    {value? : Option Json} {cell : Cell} (isRead : leaf.read path value? = .ok cell) :
    other.read path value? = .ok cell := by
  rcases loosens with ⟨acceptance, loosens, rfl⟩
  unfold Leaf.read at isRead ⊢
  split at isRead
  · split at isRead
    · rename_i missing
      simpa [loosens.missing missing] using isRead
    · cases isRead
  · split at isRead
    · rename_i null
      simpa [loosens.desired _ null] using isRead
    · cases isRead
  · rename_i value _
    split at isRead
    · rename_i accepted
      rw [if_pos (loosens.desired _ accepted)]
      split at isRead
      · rename_i scalar scalarRead
        simpa [Leaf.readValue_kept loosens scalarRead] using isRead
      · cases isRead
    · cases isRead

namespace Shape

/-! ### Shapes -/

theorem leaf_keptBy {scalar other : Leaf} (loosens : scalar.LoosensTo other) :
    (leaf scalar).KeptBy (leaf other) := by
  constructor
  · rcases loosens with ⟨acceptance, _, rfl⟩
    rfl
  · intro path value? cells isRead
    simp only [read, Except.bind_eq_ok_iff] at isRead ⊢
    rcases isRead with ⟨cell, cellRead, isCells⟩
    exact ⟨cell, loosens.read cellRead, isCells⟩

theorem object_keptBy {fields others : List (String × Shape)} {rules otherRules : ObjectRules}
    (kept : ObjectKeptBy (.record fields rules) (.record others otherRules)) :
    (object (.record fields rules)).KeptBy (object (.record others otherRules)) := by
  constructor
  · simpa only [columns] using kept.columns
  · intro path value? cells isRead
    simp only [read, Except.bind_eq_ok_iff] at isRead ⊢
    rcases isRead with ⟨_, passes, objectRead⟩
    refine ⟨(), checkKind_kept rfl rfl kept.rules.acceptance passes, ?_⟩
    cases value? with
    | none => exact readAlike_kept kept.fields objectRead
    | some value =>
        cases value with
        | object entries =>
            rw [readObject_eq_ok_iff] at objectRead ⊢
            rcases objectRead with ⟨known, fieldsRead⟩
            simp only [kept.knows]
            exact ⟨known.imp_left kept.rules.unknown,
              readFields_kept kept.fields kept.rules.matching fieldsRead⟩
        | _ => exact readAlike_kept kept.fields objectRead

theorem array_keptBy {element other : Shape} {acceptance otherAcceptance : Acceptance}
    (kept : element.KeptBy other) (loosens : acceptance.LoosensTo otherAcceptance) :
    (array element acceptance).KeptBy (array other otherAcceptance) := by
  constructor
  · simp only [columns, kept.columns]
  · intro path value? cells isRead
    simp only [read, Except.bind_eq_ok_iff, width, kept.columns] at isRead ⊢
    rcases isRead with ⟨_, passes, isRead⟩
    refine ⟨(), checkKind_kept rfl rfl loosens passes, ?_⟩
    split at isRead
    · simp only [Except.bind_eq_ok_iff] at isRead ⊢
      rcases isRead with ⟨rows, itemsRead, isCells⟩
      exact ⟨rows, readItems_kept kept.read itemsRead, isCells⟩
    · exact isRead

theorem keyValue_keptBy {key otherKey value otherValue : Shape}
    {acceptance otherAcceptance : Acceptance} (keyKept : key.KeptBy otherKey)
    (valueKept : value.KeptBy otherValue) (loosens : acceptance.LoosensTo otherAcceptance) :
    (keyValue key value acceptance).KeptBy (keyValue otherKey otherValue otherAcceptance) := by
  constructor
  · simp only [columns, keyKept.columns, valueKept.columns]
  · intro path value? cells isRead
    simp only [read, Except.bind_eq_ok_iff, width, keyKept.columns, valueKept.columns]
      at isRead ⊢
    rcases isRead with ⟨_, passes, isRead⟩
    refine ⟨(), checkKind_kept rfl rfl loosens passes, ?_⟩
    split at isRead
    · simp only [Except.bind_eq_ok_iff] at isRead ⊢
      rcases isRead with ⟨rows, entriesRead, isCells⟩
      exact ⟨rows, readEntries_kept keyKept.read valueKept.read entriesRead, isCells⟩
    · exact isRead

theorem tuple_keptBy {slots others : List Shape} {acceptance otherAcceptance : Acceptance}
    (kept : List.Forall₂ KeptBy slots others) (loosens : acceptance.LoosensTo otherAcceptance) :
    (tuple slots acceptance).KeptBy (tuple others otherAcceptance) := by
  have sameLength := kept.length_eq
  constructor
  · exact tupleColumns_of_forall₂ KeptBy.columns kept acceptance otherAcceptance
  · intro path value? cells isRead
    simp only [read, Except.bind_eq_ok_iff] at isRead ⊢
    rcases isRead with ⟨_, passes, isRead⟩
    refine ⟨(), checkKind_kept rfl rfl loosens passes, ?_⟩
    split at isRead
    · rw [← sameLength]
      split at isRead
      · rename_i asMany
        rw [if_pos asMany]
        exact readSlots_kept kept isRead
      · cases isRead
    · rw [List.map_const'] at isRead ⊢
      rw [← sameLength]
      exact readSlots_kept kept isRead

theorem typed_keptBy {rules otherRules : VariantRules} {shared others : List (String × Shape)}
    {variants otherVariants : List (String × ObjectShape)} (loosens : rules.LoosensTo otherRules)
    (sharedKept : FieldsKeptBy shared others)
    (variantsKept : VariantsKeptBy variants otherVariants) :
    (typed rules shared variants).KeptBy (typed otherRules others otherVariants) := by
  have sameColumns : columns (typed otherRules others otherVariants) =
      columns (typed rules shared variants) := by
    simp only [columns, loosens.typeField, sharedKept.columns, variantsKept.columns]
  refine ⟨sameColumns, ?_⟩
  intro path value? cells isRead
  simp only [read, Except.bind_eq_ok_iff, sameColumns] at isRead ⊢
  rcases isRead with ⟨_, passes, isRead⟩
  refine ⟨(), checkKind_kept rfl rfl loosens.acceptance passes, ?_⟩
  split at isRead
  · simp only [Except.bind_eq_ok_iff] at isRead ⊢
    rcases isRead with ⟨tag?, tagRead, isRead⟩
    refine ⟨tag?, readTag_kept loosens tagRead, ?_⟩
    split at isRead
    · exact isRead
    · rename_i tag
      simp only [Except.bind_eq_ok_iff] at isRead ⊢
      rcases isRead with ⟨_, known, sharedCells, sharedRead, variantCells, variantsRead, isCells⟩
      refine ⟨(), ?_, sharedCells, ?_, variantCells, readVariants_kept variantsKept variantsRead,
        isCells⟩
      · rw [sharedKept.names]
        exact checkEntries_kept loosens (lookup_of_forall₂ variantsKept tag) known
      · apply readFields_kept sharedKept ?_ sharedRead
        intro name _
        exact exact_loosensTo loosens.repeats
  · exact isRead

theorem keptBy_of_loosensTo (shape : Shape) :
    ∀ other, shape.LoosensTo other → shape.KeptBy other := by
  induction shape with
  | leaf scalar =>
      intro other loosens
      cases other with
      | leaf other => exact leaf_keptBy loosens
      | _ => exact loosens.elim
  | object fields rules ih =>
      intro other loosens
      cases other with
      | object other =>
          rcases other with ⟨others, otherRules⟩
          exact object_keptBy (objectKeptBy_of_loosensTo ih loosens)
      | _ => exact loosens.elim
  | array element acceptance ih =>
      intro other loosens
      cases other with
      | array other otherAcceptance => exact array_keptBy (ih other loosens.1) loosens.2
      | _ => exact loosens.elim
  | keyValue key value acceptance keyIh valueIh =>
      intro other loosens
      cases other with
      | keyValue otherKey otherValue otherAcceptance =>
          rcases loosens with ⟨keyLoosens, valueLoosens, acceptanceLoosens⟩
          exact keyValue_keptBy (keyIh otherKey keyLoosens) (valueIh otherValue valueLoosens)
            acceptanceLoosens
      | _ => exact loosens.elim
  | tuple slots acceptance ih =>
      intro other loosens
      cases other with
      | tuple others otherAcceptance =>
          exact tuple_keptBy (slotsKeptBy_of_loosenTo ih loosens.1) loosens.2
      | _ => exact loosens.elim
  | typed rules shared variants sharedIh variantsIh =>
      intro other loosens
      cases other with
      | typed otherRules others otherVariants =>
          rcases loosens with ⟨rulesLoosen, sharedLoosen, variantsLoosen⟩
          exact typed_keptBy rulesLoosen (fieldsKeptBy_of_loosenTo sharedIh sharedLoosen)
            (variantsKeptBy_of_loosenTo variantsIh variantsLoosen)
      | _ => exact loosens.elim
  | any =>
      intro other loosens
      cases other with
      | any => exact ⟨rfl, fun _ _ _ => id⟩
      | _ => exact loosens.elim
  | skip acceptance =>
      intro other loosens
      cases other with
      | skip otherAcceptance =>
          refine ⟨rfl, ?_⟩
          intro path value? cells isRead
          simp only [read, Except.bind_eq_ok_iff] at isRead ⊢
          rcases isRead with ⟨_, passes, isCells⟩
          exact ⟨(), checkKind_kept rfl rfl loosens passes, isCells⟩
      | _ => exact loosens.elim

end Shape

namespace Layout

theorem rowShape_loosensTo {shape other : Shape} (loosens : shape.LoosensTo other) :
    (rowShape shape).LoosensTo (rowShape other) := by
  cases shape with
  | array element acceptance =>
      cases other with
      | array other otherAcceptance => exact loosens.1
      | _ => exact loosens.elim
  | _ =>
      cases other with
      | array other otherAcceptance => exact loosens.elim
      | _ => exact loosens

theorem readRows_kept {shape other : Shape} (loosens : shape.LoosensTo other)
    {value? : Option Json} {rows : List (List Cell)}
    (rowsRead : readRows shape value? = .ok rows) : readRows other value? = .ok rows := by
  have kept := (Shape.keptBy_of_loosensTo shape other loosens).read
  cases shape with
  | array element acceptance =>
      cases other with
      | array other otherAcceptance =>
          have elementKept := (Shape.keptBy_of_loosensTo element other loosens.1).read
          simp only [readRows, Shape.ownRow_eq (Shape.fill_eq element),
            Shape.ownRow_eq (Shape.fill_eq other), Except.bind_eq_ok_iff] at rowsRead ⊢
          rcases rowsRead with ⟨_, passes, rowsRead⟩
          refine ⟨(), Shape.checkKind_kept rfl rfl loosens.2 passes, ?_⟩
          split at rowsRead
          · exact Shape.readItems_kept elementKept rowsRead
          · exact rowsRead
      | _ => exact loosens.elim
  | _ =>
      cases other with
      | array other otherAcceptance => exact loosens.elim
      | _ =>
          simp only [readRows, Shape.ownRow_eq (Shape.fill_eq _), Except.bind_eq_ok_iff]
            at rowsRead ⊢
          rcases rowsRead with ⟨row, rowRead, isRows⟩
          exact ⟨row, kept rowRead, isRows⟩

/-- A shape that is loosened has a layout of the same names, and the same rows. -/
theorem rows_kept {shape other : Shape} (loosens : shape.LoosensTo other) {naming : Naming}
    {layout : Layout} (made : ofShape shape naming = .ok layout) :
    ∃ loosened, ofShape other naming = .ok loosened ∧ loosened.names = layout.names ∧
      ∀ {value? rows}, layout.rows value? = .ok rows → loosened.rows value? = .ok rows := by
  have rowLoosens := rowShape_loosensTo loosens
  have sameColumns := (Shape.keptBy_of_loosensTo _ _ rowLoosens).columns
  refine ⟨{ layout with shape := other }, ?_, rfl, ?_⟩
  · simp only [ofShape, sameColumns] at made ⊢
    split at made
    · cases made
    · cases made
      rfl
  · intro value? rows areRows
    rw [eq_of_ofShape made] at areRows
    have rowsRead := Except.mapError_eq_ok_iff.mp areRows
    exact Except.mapError_eq_ok_iff.mpr (readRows_kept loosens rowsRead)

end Layout

namespace Shape

/-- What a shape reads, a shape that is looser reads alike: it fills a row with the
same cells, and a document has the same rows under the same names. -/
theorem loosening_keeps_rows {shape other : Shape} (loosens : shape.LoosensTo other)
    (value? : Option Json) :
    (∀ (path : Path) (row filled : Array Cell), shape.fill path value? row = .ok filled →
      other.fill path value? row = .ok filled) ∧
    ∀ (naming : Naming) (layout : Layout), Layout.ofShape shape naming = .ok layout →
      ∃ loosened, Layout.ofShape other naming = .ok loosened ∧ loosened.names = layout.names ∧
        ∀ rows, layout.rows value? = .ok rows → loosened.rows value? = .ok rows := by
  constructor
  · intro path row filled isFilled
    have kept := (keptBy_of_loosensTo shape other loosens).read
    rw [fill_eq] at isFilled ⊢
    cases isRead : shape.read path value? with
    | error fault => simp [isRead, behind, Except.map] at isFilled
    | ok cells => rwa [kept isRead, ← isRead]
  · intro naming layout made
    rcases Layout.rows_kept loosens made with ⟨loosened, otherMade, sameNames, rowsKept⟩
    exact ⟨loosened, otherMade, sameNames, fun rows => rowsKept⟩

/-- A field that was to be a text that spells an integer, found once, may now be a decimal
too, or null, or absent, or repeated. -/
theorem loosened_field_reads_alike :
    let matching : FieldMatching := { aliases := ["key"], ignoresCase := true }
    let strict : Shape :=
      .object (.record [("id", .leaf ⟨.int, ⟨false, .ofList [.string]⟩, none, none⟩)]
        { allowUnknown := false, acceptance := ⟨false, .ofList [.object]⟩, repeats := .error
          matching := [("id", matching)] })
    let loose : Shape :=
      .object (.record
        [("id", .leaf ⟨.int, ⟨true, .ofList [.string, .decimal, .null]⟩, none, none⟩)]
        { allowUnknown := true, acceptance := ⟨true, .ofList [.object, .null]⟩, repeats := .error
          matching := [("id", { matching with repeats := some .useFirst })] })
    let value : Json := .object [("KEY", .string "+07")]
    strict.LoosensTo loose ∧
      strict.fill [] (some value) #[.null] = .ok #[.null, .int 7] ∧
      loose.fill [] (some value) #[.null] = .ok #[.null, .int 7] := by
  intro matching strict loose value
  have isFilled : strict.fill [] (some value) #[.null] = .ok #[.null, .int 7] := by cbv
  have loosens : strict.LoosensTo loose := by
    refine ⟨⟨rfl, ⟨_, ?_, rfl⟩, trivial⟩, ⟨by decide, ?_, ?_⟩⟩
    · exact ⟨fun _ => rfl, by intro kind; cases kind <;> decide⟩
    · exact ⟨fun _ => rfl, by intro kind; cases kind <;> decide⟩
    · simp only [List.map_cons, List.map_nil, List.forall_mem_singleton]
      exact ⟨rfl, rfl, Or.inr rfl⟩
  exact ⟨loosens, isFilled, (loosening_keeps_rows loosens (some value)).1 _ _ _ isFilled⟩

end Shape

end JsonTables
