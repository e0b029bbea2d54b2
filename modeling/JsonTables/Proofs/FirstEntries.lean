import JsonTables.Ingest
import JsonTables.Proofs.DroppedRepeats
import JsonTables.Proofs.MirroredValues
import JsonTables.Proofs.StrictObjects

/-!
# First entries

Where a field is found more than once and the first of its entries counts, repeated keys
make no difference: a value is read as what is left of it without them.  So a document
may be given as its text or as a value that has lost them.  A map is another matter, since
it has a row for every entry.
-/

namespace JsonTables

theorem Leaf.read_dropRepeats (leaf : Leaf) (path : Path) (value : Json) :
    leaf.read path (some value.dropRepeats) = leaf.read path (some value) := by
  cases value with
  | array items => rw [Json.dropRepeats_array, read_array_eq]
  | object entries => rw [Json.dropRepeats_object, read_object_eq]
  | _ => rfl

namespace Shape

/-- Whether the first of the entries that are found counts, for every field of a shape. -/
def FirstCounts : Shape → Prop
  | object record =>
      ∀ field ∈ record.matchings, field.2.repeats.getD record.rules.repeats = .useFirst
  | typed rules _ _ => rules.repeats = .useFirst
  | _ => True

/-- Whether there is no map in a shape, and the first entry of every field counts. -/
def ReadsFirsts (shape : Shape) : Prop :=
  ∀ node, IsNodeOf node shape → ¬node.IsMap ∧ node.FirstCounts

theorem ReadsFirsts.part {part shape : Shape} (readsFirsts : shape.ReadsFirsts)
    (partMem : part ∈ shape.parts) : part.ReadsFirsts :=
  fun node isNode => readsFirsts node (.inside partMem isNode)

/-- Whether a value is what is left of another, for a shape that reads the first entries. -/
def LosesRepeats (shape : Shape) (value left : Json) : Prop :=
  shape.ReadsFirsts ∧ left = value.dropRepeats

/-! ### Fields -/

theorem findField_of_useFirst {matching : FieldMatching} {repeats : RepeatPolicy}
    (firstCounts : matching.repeats.getD repeats = .useFirst) (entries : List (String × Json))
    (name : String) (path : Path) :
    findField entries name matching repeats path =
      .ok ((entries.find? (matching.accepts name ·.1)).map (·.2)) := by
  rw [← List.head?_filter]
  simp only [findField, firstCounts]
  split <;> simp [*]

/-- A field is found all the same, and what is left of its value. -/
theorem findField_keptEntries {matching : FieldMatching} {repeats : RepeatPolicy}
    (firstCounts : matching.repeats.getD repeats = .useFirst) (entries : List (String × Json))
    (name : String) (path : Path) :
    findField (Json.keptEntries entries) name matching repeats path =
      (findField entries name matching repeats path).map (Option.map Json.dropRepeats) := by
  rw [findField_of_useFirst firstCounts, findField_of_useFirst firstCounts,
    Json.find?_keptEntries (matching.accepts name ·)]
  cases entries.find? _ <;> rfl

theorem findAlike_keptEntries {fields : List (String × Shape)}
    {matching : List (String × FieldMatching)} {repeats : RepeatPolicy}
    (firstCounts : ∀ field ∈ fields,
      (ObjectShape.matchingIn matching field.1).repeats.getD repeats = .useFirst)
    (readsFirsts : ∀ field ∈ fields, field.2.ReadsFirsts) (path : Path)
    (entries : List (String × Json)) :
    FindAlike Eq LosesRepeats fields matching repeats path entries
      (Json.keptEntries entries) := by
  intro field fieldMem
  rw [findField_keptEntries (firstCounts field fieldMem)]
  cases findField entries field.1 (ObjectShape.matchingIn matching field.1) repeats path with
  | error fault => exact .error rfl
  | ok found =>
      cases found with
      | none => exact .ok .none
      | some value => exact .ok (.some ⟨readsFirsts field fieldMem, rfl⟩)

theorem checkKnown_keptEntries (record : ObjectShape) (path : Path)
    (entries : List (String × Json)) :
    checkKnown record path (Json.keptEntries entries) = checkKnown record path entries := by
  rcases record with ⟨fields, rules⟩
  simp only [checkKnown, Json.find?_keptEntries (!(ObjectShape.record fields rules).knows ·)]
  cases entries.find? _ <;> rfl

theorem checkEntries_keptEntries (rules : VariantRules) (shared : List String)
    (selected : Option ObjectShape) (tag : String) (entries : List (String × Json)) (path : Path) :
    checkEntries rules shared selected tag (Json.keptEntries entries) path =
      checkEntries rules shared selected tag entries path := by
  simp only [checkEntries, Json.find?_keptEntries fun key =>
    !(key == rules.typeField || shared.contains key || selected.any (·.knows key))]
  cases entries.find? _ <;> rfl

theorem readTag_keptEntries {rules : VariantRules} (firstCounts : rules.repeats = .useFirst)
    (entries : List (String × Json)) (path : Path) :
    readTag rules (Json.keptEntries entries) path = readTag rules entries path := by
  have exactFirst : FieldMatching.exact.repeats.getD rules.repeats = .useFirst := firstCounts
  simp only [readTag, findField_keptEntries exactFirst]
  cases findField entries rules.typeField .exact rules.repeats path with
  | error fault => rfl
  | ok found =>
      rcases found with _ | value
      · rfl
      · cases value <;> rfl

/-- What is left of a value mirrors it. -/
theorem losesRepeats_mirrors : Mirrors Eq LosesRepeats where
  fault _ := rfl
  kind := by
    rintro shape value _ ⟨_, rfl⟩
    exact value.kind_dropRepeats
  leaf := by
    rintro scalar value _ ⟨_, rfl⟩ path
    rw [Leaf.read_dropRepeats]
    exact .refl (fun _ => rfl) _
  any := by
    rintro value _ ⟨_, rfl⟩
    exact value.dropRepeats_dropRepeats
  items := by
    rintro element acceptance items others ⟨readsFirsts, isLeft⟩
    rw [Json.dropRepeats_array, Json.array.injEq] at isLeft
    have elementReads : element.ReadsFirsts := readsFirsts.part List.mem_cons_self
    subst isLeft
    rw [List.forall₂_map_right_iff, List.forall₂_same]
    exact fun item _ => ⟨elementReads, rfl⟩
  entries := by
    rintro key value acceptance entries others ⟨readsFirsts, _⟩
    exact absurd trivial (readsFirsts _ .self).1
  slots := by
    rintro slots acceptance items others ⟨readsFirsts, isLeft⟩
    rw [Json.dropRepeats_array, Json.array.injEq] at isLeft
    subst isLeft
    refine ⟨List.length_map _, ?_⟩
    intro position slot item other isSlot isItem isOther
    rw [List.getElem?_map, isItem, Option.map_some, Option.some.injEq] at isOther
    exact ⟨readsFirsts.part (List.mem_of_getElem? isSlot), isOther.symm⟩
  fields := by
    rintro record entries others ⟨readsFirsts, isLeft⟩ path
    rw [Json.dropRepeats_object, Json.object.injEq] at isLeft
    subst isLeft
    refine ⟨?_, findAlike_keptEntries ?_ ?_ path entries⟩
    · rw [checkKnown_keptEntries]
      exact .refl (fun _ => rfl) _
    · exact List.forall_mem_map.mp (readsFirsts _ .self).2
    · exact fun field fieldMem => readsFirsts.part (field_mem_parts fieldMem)
  tag := by
    rintro rules shared variants entries others ⟨readsFirsts, isLeft⟩ path
    rw [Json.dropRepeats_object, Json.object.injEq] at isLeft
    rw [isLeft, readTag_keptEntries (readsFirsts _ .self).2]
    exact .refl (fun _ => rfl) _
  variant := by
    rintro rules shared variants entries others ⟨readsFirsts, isLeft⟩ path tag _
    rw [Json.dropRepeats_object, Json.object.injEq] at isLeft
    subst isLeft
    refine ⟨?_, findAlike_keptEntries ?_ ?_ path entries, ?_⟩
    · rw [checkEntries_keptEntries]
      exact .refl (fun _ => rfl) _
    · exact fun _ _ => (readsFirsts _ .self).2
    · exact fun field fieldMem => readsFirsts.part (shared_mem_parts fieldMem)
    · intro record recordMem
      have recordReads := readsFirsts.part (variant_mem_parts recordMem)
      refine findAlike_keptEntries ?_ ?_ path entries
      · exact List.forall_mem_map.mp (recordReads _ .self).2
      · exact fun field fieldMem => recordReads.part (field_mem_parts fieldMem)

/-- Rows are filled from what is left of a value as from the value itself. -/
theorem fill_dropRepeats {shape : Shape} (valid : shape.IsValid)
    (readsFirsts : shape.ReadsFirsts) (value : Json) (path : Path) (row : Array Cell) :
    shape.fill path (some value.dropRepeats) row = shape.fill path (some value) row :=
  (fill_alike losesRepeats_mirrors valid ⟨readsFirsts, rfl⟩ path row).eq.symm

end Shape

theorem Layout.rows_dropRepeats {shape : Shape} (valid : shape.IsValid)
    (readsFirsts : shape.ReadsFirsts) {naming : Naming} {layout : Layout}
    (made : Layout.ofShape shape naming = .ok layout) (value : Json) :
    layout.rows (some value.dropRepeats) = layout.rows (some value) := by
  have sameRows : readRows shape (some value) = readRows shape (some value.dropRepeats) :=
    (Shape.readRows_alike Shape.losesRepeats_mirrors valid ⟨readsFirsts, rfl⟩).eq
  simp only [rows, Layout.eq_of_ofShape made, sameRows]

namespace Ingest

/-- Whether two cells hold one document: they are the same, or the first holds its text and
the second what is left of it without repeated keys. -/
inductive SameDocument : Cell → Cell → Prop
  | same (cell : Cell) : SameDocument cell cell
  | text {text : String} {value : Json} (isText : JsonText.ofText text = .ok value) :
      SameDocument (.string text) (.json value.dropRepeats)

/-- Whether two columns of one name hold the same documents. -/
structure SameDocuments (column other : Column) : Prop where
  name : other.definition.name = column.definition.name
  cells : List.Forall₂ SameDocument column.cells other.cells

section

variable {shape : Shape} (valid : shape.IsValid) (readsFirsts : shape.ReadsFirsts)
  {naming : Naming} {layout : Layout} (made : Layout.ofShape shape naming = .ok layout)

include valid readsFirsts made

theorem addCell_eq_of_sameDocument {cell other : Cell} (same : SameDocument cell other)
    (chunkSize : Nat) (column : String) (buffer : RowBuffer) (row : Nat) :
    addCell layout chunkSize column buffer cell row =
      addCell layout chunkSize column buffer other row := by
  cases same with
  | same => rfl
  | @text text value isText =>
      have sameRows := Layout.rows_dropRepeats valid readsFirsts made value
      simp only [addCell, addDocument, addValue, isText, sameRows]
      rfl

theorem foldlM_addCell_eq_of_sameDocuments {cells others : List Cell}
    (same : List.Forall₂ SameDocument cells others) (chunkSize : Nat) (column : String)
    (buffer : RowBuffer) (row : Nat) :
    (cells.zipIdx row).foldlM
        (fun buffer (cell, row) => addCell layout chunkSize column buffer cell row) buffer =
      (others.zipIdx row).foldlM
        (fun buffer (cell, row) => addCell layout chunkSize column buffer cell row) buffer := by
  induction same generalizing buffer row with
  | nil => rfl
  | cons first _ ih =>
      simp only [List.zipIdx_cons, List.foldlM_cons,
        addCell_eq_of_sameDocument valid readsFirsts made first, ih]

end

theorem fromColumn_eq_of_sameDocuments {shape : Shape} (valid : shape.IsValid)
    (readsFirsts : shape.ReadsFirsts) {sketch : Sketch} (isShape : sketch.resolve = .ok shape)
    {table other : Table} {name : Option String} {column otherColumn : Column}
    (isColumn : columnOf table name = .ok column)
    (isOtherColumn : columnOf other name = .ok otherColumn)
    (same : SameDocuments column otherColumn) (chunkSize : Nat) :
    fromColumn table name sketch chunkSize = fromColumn other name sketch chunkSize := by
  by_cases noChunks : chunkSize = 0
  · simp only [fromColumn, noChunks, if_true, Except.throw_eq_error, Except.error_bind]
  · simp only [fromColumn, if_neg noChunks, isColumn, isOtherColumn, Except.ok_bind, same.name]
    cases prepared : layoutOf sketch {} with
    | error fault => rfl
    | ok pair =>
        rcases pair with ⟨layout, definitions⟩
        simp only [layoutOf, isShape, Except.bind_eq_ok_iff, Except.pure_eq_ok_iff,
          Prod.mk.injEq, Except.mapError_eq_ok_iff, Except.ok.injEq] at prepared
        rcases prepared with ⟨_, rfl, layout, made, _, _, rfl, rfl⟩
        simp only [Except.ok_bind,
          foldlM_addCell_eq_of_sameDocuments valid readsFirsts made same.cells]

end Ingest

namespace Shape

/-- What a shape without maps reads of a value it reads of what is left of the value when
only the first entry of every key is kept, if it has the first entry of a field count
everywhere: the same cells and rows, or the same fault.  So a column of texts makes the
table that a column of the values makes which are left of them. -/
theorem repeats_make_no_difference {shape : Shape} (valid : shape.IsValid)
    (readsFirsts : shape.ReadsFirsts) :
    (∀ value path row,
      shape.fill path (some value.dropRepeats) row = shape.fill path (some value) row) ∧
    (∀ naming layout, Layout.ofShape shape naming = .ok layout → ∀ value,
      layout.rows (some value.dropRepeats) = layout.rows (some value) ∧
      ∀ text, JsonText.ofText text = .ok value → ∀ chunkSize column buffer row,
        Ingest.addCell layout chunkSize column buffer (.string text) row =
          Ingest.addCell layout chunkSize column buffer (.json value.dropRepeats) row) ∧
    (∀ sketch, sketch.resolve = .ok shape → ∀ table other name column otherColumn,
      Ingest.columnOf table name = .ok column → Ingest.columnOf other name = .ok otherColumn →
        Ingest.SameDocuments column otherColumn → ∀ chunkSize,
          Ingest.fromColumn table name sketch chunkSize =
            Ingest.fromColumn other name sketch chunkSize) ∧
    (∀ value left : Json, value.KeepsFirsts left ↔ left = value.dropRepeats) ∧
    ∀ value : Json, value.dropRepeats.HasNoRepeats ∧
      (value.HasNoRepeats → value.dropRepeats = value) := by
  refine ⟨fill_dropRepeats valid readsFirsts, ?_, ?_, ?_, ?_⟩
  · intro naming layout made value
    refine ⟨Layout.rows_dropRepeats valid readsFirsts made value, ?_⟩
    intro text isText
    exact Ingest.addCell_eq_of_sameDocument valid readsFirsts made (.text isText)
  · intro sketch isShape table other name column otherColumn isColumn isOtherColumn same
    exact Ingest.fromColumn_eq_of_sameDocuments valid readsFirsts isShape isColumn isOtherColumn
      same
  · exact fun value left => Json.keepsFirsts_iff
  · exact fun value => ⟨value.hasNoRepeats_dropRepeats, Json.HasNoRepeats.dropRepeats_eq⟩

/-- A field in either case of letters that comes twice, around one for any value. -/
theorem repeated_number_makes_no_difference :
    let number : Leaf := { kind := .long, acceptance := ⟨false, .ofList [.int]⟩ }
    let shape := object (.record [("n", leaf number), ("rest", any)]
      { allowUnknown := false, acceptance := ⟨true, .ofList [.object]⟩
        matching := [("n", { ignoresCase := true })] })
    let value : Json := .object [("N", .number "1"),
      ("rest", .object [("a", .number "2"), ("a", .number "3")]), ("N", .number "4")]
    let left : Json := .object [("N", .number "1"), ("rest", .object [("a", .number "2")])]
    let filled : Array Cell := #[.long 1, .json (.object [("a", .number "2")])]
    let table : Table :=
      { name := none
        columns := [⟨{ name := "raw", type := .string }, [.string "\x7b\"N\":1,\"N\":2\x7d"]⟩] }
    let other : Table :=
      { name := none
        columns := [⟨{ name := "raw", type := .object }, [.json (.object [("N", .number "1")])]⟩] }
    shape.IsValid ∧ shape.ReadsFirsts ∧ value.KeepsFirsts left ∧
      shape.fill [] (some left) #[] = .ok filled ∧ shape.fill [] (some value) #[] = .ok filled ∧
      Ingest.fromColumn table none (.shape shape) 1 =
        Ingest.fromColumn other none (.shape shape) 1 := by
  intro number shape value left filled table other
  have numberValid : (leaf number).IsValid := isValid_iff.mpr ⟨by cbv, List.forall_mem_nil _⟩
  have valid : shape.IsValid := isValid_iff.mpr
    ⟨by cbv, List.forall_mem_cons.mpr ⟨numberValid, List.forall_mem_singleton.mpr isValid_any⟩⟩
  have numberReads : (leaf number).ReadsFirsts :=
    forall_isNodeOf_iff.mpr ⟨⟨id, trivial⟩, List.forall_mem_nil _⟩
  have anyReads : any.ReadsFirsts :=
    forall_isNodeOf_iff.mpr ⟨⟨id, trivial⟩, List.forall_mem_nil _⟩
  have firstCounts : shape.FirstCounts :=
    List.forall_mem_cons.mpr ⟨by cbv, List.forall_mem_singleton.mpr (by cbv)⟩
  have readsFirsts : shape.ReadsFirsts := forall_isNodeOf_iff.mpr ⟨⟨id, firstCounts⟩,
    List.forall_mem_cons.mpr ⟨numberReads, List.forall_mem_singleton.mpr anyReads⟩⟩
  have isLeft : left = value.dropRepeats := by cbv
  have isFilled : shape.fill [] (some left) #[] = .ok filled := by cbv
  rcases repeats_make_no_difference valid readsFirsts with ⟨fills, _, columns, keeps, _⟩
  refine ⟨valid, readsFirsts, (keeps value left).mpr isLeft, isFilled, ?_, ?_⟩
  · rw [← fills, ← isLeft, isFilled]
  · have isText : JsonText.ofText "\x7b\"N\":1,\"N\":2\x7d" =
        .ok (.object [("N", .number "1"), ("N", .number "2")]) := by with_unfolding_all rfl
    have sameCell := Ingest.SameDocument.text isText
    exact columns (.shape shape) rfl table other none _ _ rfl rfl ⟨rfl, .cons sameCell .nil⟩ 1

end Shape

end JsonTables
