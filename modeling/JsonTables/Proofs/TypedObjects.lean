import JsonTables.Proofs.LookedUp
import JsonTables.Proofs.Loosening
import JsonTables.Proofs.ValidShapes

/-!
# Objects with types and their parts

An object with types reads three groups of fields from one document: that of the type,
those that all types share, and those of the type that the document has.  Each of the last
two is read as an object of these fields alone would read it, and has its own place in the
row, beside as many nulls as the fields of the other types have columns.
-/

namespace JsonTables

namespace ObjectShape

/-- A plain object of the fields that all types share. -/
def ofShared (rules : VariantRules) (shared : List (String × Shape)) : ObjectShape :=
  .record shared
    { allowUnknown := true, acceptance := ⟨true, .ofList [.object]⟩, repeats := rules.repeats }

/-- The object with unknown fields allowed. -/
def withUnknown : ObjectShape → ObjectShape
  | .record fields rules => .record fields { rules with allowUnknown := true }

/-- The object with unknown fields allowed, where any object is accepted. -/
def forEveryObject : ObjectShape → ObjectShape
  | .record fields rules =>
      let acceptance := { rules.acceptance with desired := rules.acceptance.desired.insert .object }
      .record fields { rules with allowUnknown := true, acceptance }

end ObjectShape

namespace Shape

/-- What a row has for the fields of every type: cells for those of one type, and nulls
for those of the others. -/
def blocks (variants : List (String × ObjectShape)) (tag : String) (own : List Cell) :
    List Cell :=
  variants.flatMap fun variant =>
    if variant.1 = tag then own else nulls (objectColumns variant.2).length

/-! ### Objects of fields -/

/-- An object that accepts objects and allows unknown fields is read as its fields are. -/
theorem read_object_of_accepts {fields : List (String × Shape)} {rules : ObjectRules}
    (accepted : rules.acceptance.desired.contains .object = true)
    (unknown : rules.allowUnknown = true) (path : Path) (entries : List (String × Json)) :
    (object (.record fields rules)).read path (some (.object entries)) =
      readFields fields rules.matching rules.repeats path entries := by
  have passes : checkKind (object (.record fields rules)) path (some (.object entries)) =
      .ok () := if_pos accepted
  simp only [read, passes, Except.ok_bind, readObject, unknown, if_true]

theorem read_ofShared (rules : VariantRules) (shared : List (String × Shape)) (path : Path)
    (entries : List (String × Json)) :
    (object (.ofShared rules shared)).read path (some (.object entries)) =
      readFields shared [] rules.repeats path entries :=
  read_object_of_accepts rfl rfl path entries

theorem read_forEveryObject (record : ObjectShape) (path : Path)
    (entries : List (String × Json)) :
    (object record.forEveryObject).read path (some (.object entries)) =
      readOwnFields record path entries := by
  rcases record with ⟨fields, rules⟩
  rw [readOwnFields]
  exact read_object_of_accepts (by simp) rfl path entries

/-! ### Blocks -/

theorem blocks_cons (variant : String × ObjectShape) (rest : List (String × ObjectShape))
    (tag : String) (own : List Cell) :
    blocks (variant :: rest) tag own =
      (if variant.1 = tag then own else nulls (objectColumns variant.2).length) ++
        blocks rest tag own :=
  List.flatMap_cons

theorem readVariants_of_not_mem {variants : List (String × ObjectShape)} {tag : String}
    (isOther : tag ∉ variants.map (·.1)) (path : Path) (entries : List (String × Json))
    (own : List Cell) : readVariants variants tag path entries = .ok (blocks variants tag own) := by
  induction variants with
  | nil => rfl
  | cons variant rest ih =>
      rcases variant with ⟨name, record⟩
      rw [List.map_cons, List.mem_cons, not_or] at isOther
      have notTag : name ≠ tag := Ne.symm isOther.1
      simp only [readVariants, if_neg notTag, pure_bind, ih isOther.2, Except.ok_bind,
        blocks_cons]
      rfl

/-- The fields of types are read just if those of the type that an object has are read, and
to its block beside those of the others.  Where the type is not known nothing is asked of
`own`, which no block has then. -/
theorem readVariants_eq_ok_iff {variants : List (String × ObjectShape)}
    (tagsDiffer : (variants.map (·.1)).Nodup) {tag : String} {path : Path}
    {entries : List (String × Json)} {cells : List Cell} :
    readVariants variants tag path entries = .ok cells ↔
      ∃ own, (∀ record, variants.lookup tag = some record →
        readOwnFields record path entries = .ok own) ∧ cells = blocks variants tag own := by
  induction variants generalizing cells with
  | nil => simp [readVariants, blocks, eq_comm]
  | cons variant rest ih =>
      rcases variant with ⟨name, record⟩
      rcases List.nodup_cons.mp tagsDiffer with ⟨isNew, restDiffer⟩
      by_cases isTag : name = tag
      · subst isTag
        -- no later type has the same name, so all later blocks are null whatever is read here
        have restRead := readVariants_of_not_mem isNew path entries
        simp only [readVariants, if_true, blocks_cons, List.lookup_cons, beq_self_eq_true,
          Option.some.injEq, forall_eq', Except.bind_eq_ok_iff, Except.pure_eq_ok_iff]
        constructor
        · rintro ⟨own, ownRead, others, othersRead, rfl⟩
          rw [restRead own, Except.ok.injEq] at othersRead
          exact ⟨own, ownRead, by rw [othersRead]⟩
        · rintro ⟨own, ownRead, rfl⟩
          exact ⟨own, ownRead, _, restRead own, rfl⟩
      · have notName : (tag == name) = false := beq_eq_false_iff_ne.mpr (Ne.symm isTag)
        simp only [readVariants, if_neg isTag, pure_bind, blocks_cons, List.lookup_cons, notName,
          Except.bind_eq_ok_iff, Except.pure_eq_ok_iff, ih restDiffer]
        constructor
        · rintro ⟨_, ⟨own, ownRead, rfl⟩, rfl⟩
          exact ⟨own, ownRead, rfl⟩
        · rintro ⟨own, ownRead, rfl⟩
          exact ⟨_, ⟨own, ownRead, rfl⟩, rfl⟩

/-! ### Objects with types -/

section

variable {rules : VariantRules} {shared : List (String × Shape)}
  {variants : List (String × ObjectShape)} {path : Path} {entries : List (String × Json)}
  {tag : String}

/-- Whether a type is known, or types that are not known are passed over. -/
def AdmitsType (rules : VariantRules) (variants : List (String × ObjectShape)) (tag : String) :
    Prop :=
  tag ∈ variants.map (·.1) ∨ rules.allowUnknown = true

/-- Whether every entry belongs to the type, to a shared field or to a field of the type that
the object has, if that type does not allow others. -/
def KnowsEntries (rules : VariantRules) (shared : List (String × Shape))
    (variants : List (String × ObjectShape)) (tag : String) (entries : List (String × Json)) :
    Prop :=
  ∀ record, variants.lookup tag = some record → record.rules.allowUnknown = true ∨
    ∀ entry ∈ entries, entry.1 = rules.typeField ∨ entry.1 ∈ shared.map (·.1) ∨
      record.knows entry.1 = true

theorem checkEntries_eq_ok_iff :
    checkEntries rules (shared.map (·.1)) (variants.lookup tag) tag entries path = .ok () ↔
      AdmitsType rules variants tag ∧ KnowsEntries rules shared variants tag entries := by
  cases isSelected : variants.lookup tag with
  | none =>
      have isOther := lookup_eq_none_iff.mp isSelected
      simp [checkEntries_none_eq_ok_iff, AdmitsType, KnowsEntries, isSelected, isOther]
  | some record =>
      have isKnown : tag ∈ variants.map (·.1) := List.mem_map_of_mem (mem_of_lookup isSelected)
      simp [checkEntries_some_eq_ok_iff, AdmitsType, KnowsEntries, isSelected, isKnown, or_assoc]

theorem readTag_eq_of_findField
    (isTag : findField entries rules.typeField .exact rules.repeats path =
      .ok (some (.string tag))) : readTag rules entries path = .ok (some tag) := by
  simp only [readTag, isTag, Except.ok_bind]
  rfl

theorem read_typed_eq_ok_iff (tagsDiffer : (variants.map (·.1)).Nodup)
    (isTag : findField entries rules.typeField .exact rules.repeats path =
      .ok (some (.string tag))) {cells : List Cell} :
    read (typed rules shared variants) path (some (.object entries)) = .ok cells ↔
      rules.acceptance.desired.contains .object = true ∧ AdmitsType rules variants tag ∧
      KnowsEntries rules shared variants tag entries ∧ ∃ sharedCells own,
        readFields shared [] rules.repeats path entries = .ok sharedCells ∧
        (∀ record, variants.lookup tag = some record →
          readOwnFields record path entries = .ok own) ∧
        cells = .string tag :: (sharedCells ++ blocks variants tag own) := by
  have checkKind_iff :
      checkKind (typed rules shared variants) path (some (.object entries)) = .ok () ↔
        rules.acceptance.desired.contains .object = true := by
    cases accepted : rules.acceptance.desired.contains .object <;>
      simp [checkKind, accepts, desired?, acceptance?, Json.kind, misfit, accepted]
  simp only [read, Except.check_bind_eq_ok_iff, checkKind_iff, readTag_eq_of_findField isTag,
    Except.ok_bind, checkEntries_eq_ok_iff]
  simp only [Except.bind_eq_ok_iff, Except.pure_eq_ok_iff, readVariants_eq_ok_iff tagsDiffer,
    and_assoc]
  constructor
  · rintro ⟨accepted, admits, known, sharedCells, sharedRead, _, ⟨own, ownRead, rfl⟩, rfl⟩
    exact ⟨accepted, admits, known, sharedCells, own, sharedRead, ownRead, rfl⟩
  · rintro ⟨accepted, admits, known, sharedCells, own, sharedRead, ownRead, rfl⟩
    exact ⟨accepted, admits, known, sharedCells, sharedRead, _, ⟨own, ownRead, rfl⟩, rfl⟩

/-- An object with types that has a type is read just if objects are accepted, the type and
the entries are admitted, and the document is read as a plain object of the shared fields
and, if the type is known, as the object of the type.  The row has the type, the cells of
the shared fields, and a block for every type in turn: for the type the cells of its fields,
and for every other as many nulls as its fields have columns. -/
theorem typed_object_is_its_parts (tagsDiffer : (variants.map (·.1)).Nodup)
    (isTag : findField entries rules.typeField .exact rules.repeats path =
      .ok (some (.string tag))) {row filled : Array Cell} :
    (typed rules shared variants).fill path (some (.object entries)) row = .ok filled ↔
      rules.acceptance.desired.contains .object = true ∧ AdmitsType rules variants tag ∧
      KnowsEntries rules shared variants tag entries ∧ ∃ sharedCells own : List Cell,
        (object (.ofShared rules shared)).fill path (some (.object entries)) #[] =
          .ok sharedCells.toArray ∧
        (∀ record, variants.lookup tag = some record →
          (object record.forEveryObject).fill path (some (.object entries)) #[] =
            .ok own.toArray) ∧
        filled = row ++ (Cell.string tag :: (sharedCells ++ blocks variants tag own)) := by
  rw [fill_eq_ok_iff]
  simp only [read_typed_eq_ok_iff tagsDiffer isTag, fill_empty_eq_ok_iff, read_ofShared,
    read_forEveryObject]
  constructor
  · rintro ⟨_, ⟨accepted, admits, known, sharedCells, own, sharedRead, ownRead, rfl⟩, rfl⟩
    exact ⟨accepted, admits, known, sharedCells, own, sharedRead, ownRead, rfl⟩
  · rintro ⟨accepted, admits, known, sharedCells, own, sharedRead, ownRead, rfl⟩
    exact ⟨_, ⟨accepted, admits, known, sharedCells, own, sharedRead, ownRead, rfl⟩, rfl⟩

end

/-- A box with a shared field and a block of two nulls for the other type. -/
theorem box_is_its_parts :
    let number : Shape := leaf { kind := .int, acceptance := ⟨true, .ofList [.int, .null]⟩ }
    let rules : VariantRules := ⟨"kind", false, ⟨true, .ofList [.object]⟩, .error⟩
    let shared : List (String × Shape) := [("id", number)]
    let acceptance : Acceptance := ⟨true, .ofList [.object]⟩
    let circle : ObjectShape :=
      .record [("x", number), ("y", number)] { allowUnknown := true, acceptance }
    let box : ObjectShape := .record [("size", any)]
      { allowUnknown := false, acceptance, matching := [("size", { aliases := ["s"] })] }
    let variants := [("circle", circle), ("box", box)]
    let entries : List (String × Json) :=
      [("s", .bool true), ("kind", .string "box"), ("id", .number "7")]
    (variants.map (·.1)).Nodup ∧
      findField entries rules.typeField .exact rules.repeats [] = .ok (some (.string "box")) ∧
      (typed rules shared variants).fill [] (some (.object entries)) #[] =
        .ok #[.string "box", .int 7, .null, .null, .json (.bool true)] := by
  intro number rules shared acceptance circle box variants entries
  have tagsDiffer : (variants.map (·.1)).Nodup := by decide
  have isTag : findField entries rules.typeField .exact rules.repeats [] =
      .ok (some (.string "box")) := by cbv
  have sharedFilled : (object (.ofShared rules shared)).fill [] (some (.object entries)) #[] =
      .ok [Cell.int 7].toArray := by cbv
  have boxFilled : (object box.forEveryObject).fill [] (some (.object entries)) #[] =
      .ok [Cell.json (.bool true)].toArray := by cbv
  have admits : AdmitsType rules variants "box" := .inl (by decide)
  have selects : variants.lookup "box" = some box := rfl
  have isBox : ∀ record, variants.lookup "box" = some record → box = record := by
    intro record isSelected
    rwa [selects, Option.some.injEq] at isSelected
  have known : KnowsEntries rules shared variants "box" entries := by
    intro record isSelected
    rw [← isBox record isSelected]
    right
    simp only [entries, List.forall_mem_cons]
    refine ⟨.inr (.inr (by cbv)), .inl rfl, .inr (.inl List.mem_cons_self), List.forall_mem_nil _⟩
  refine ⟨tagsDiffer, isTag, (typed_object_is_its_parts tagsDiffer isTag).mpr
    ⟨rfl, admits, known, [.int 7], [.json (.bool true)], sharedFilled, ?_, by cbv⟩⟩
  intro record isSelected
  rw [← isBox record isSelected]
  exact boxFilled

/-- What the parts accept does not tell what is accepted: an object with types may refuse
every object though its parts read one, and may read one that the object of the type refuses
when it stands alone. -/
theorem parts_do_not_tell_acceptance :
    let objects : Acceptance := ⟨true, .ofList [.object]⟩
    let nulls : Acceptance := ⟨true, .ofList [.null]⟩
    let record : Acceptance → ObjectShape := fun acceptance =>
      .record [] { allowUnknown := true, acceptance }
    let rules : Acceptance → VariantRules := fun acceptance =>
      ⟨"type", false, acceptance, .useFirst⟩
    let entries : List (String × Json) := [("type", .string "a")]
    let IsRead : Shape → Prop := fun shape =>
      ∃ filled, shape.fill [] (some (.object entries)) #[] = .ok filled
    let IsItsParts : Acceptance → Acceptance → Prop := fun own ofType =>
      IsRead (typed (rules own) [] [("a", record ofType)]) ↔
        AdmitsType (rules own) [("a", record ofType)] "a" ∧
        KnowsEntries (rules own) [] [("a", record ofType)] "a" entries ∧
        IsRead (object (.ofShared (rules own) [])) ∧ IsRead (object (record ofType).withUnknown)
    (typed (rules nulls) [] [("a", record objects)]).IsValid ∧
      (typed (rules objects) [] [("a", record nulls)]).IsValid ∧
      findField entries "type" .exact .useFirst [] = .ok (some (.string "a")) ∧
      ¬IsItsParts nulls objects ∧ ¬IsItsParts objects nulls := by
  intro objects nulls record rules entries IsRead IsItsParts
  have noFields : ∀ ofType, ∀ variant ∈ [("a", record ofType)], ∀ field ∈ variant.2.fields,
      field.2.IsValid := by
    intro ofType
    exact List.forall_mem_singleton.mpr nofun
  have sharedRead : ∀ own, IsRead (object (.ofShared (rules own) [])) := fun _ => ⟨#[], rfl⟩
  have admits : ∀ own ofType, AdmitsType (rules own) [("a", record ofType)] "a" :=
    fun _ _ => .inl List.mem_cons_self
  have known : ∀ own ofType, KnowsEntries (rules own) [] [("a", record ofType)] "a" entries := by
    intro own ofType other isSelected
    cases isSelected
    exact .inl rfl
  refine ⟨isValid_typed (by cbv) nofun (noFields objects), isValid_typed (by cbv) nofun
    (noFields nulls), by cbv, ?_, ?_⟩
  · intro isItsParts
    rcases isItsParts.mpr ⟨admits nulls objects, known nulls objects, sharedRead nulls, #[], rfl⟩
      with ⟨filled, isFilled⟩
    cases isFilled
  · intro isItsParts
    rcases isItsParts.mp ⟨#[.string "a"], by cbv⟩ with ⟨_, _, _, filled, isFilled⟩
    cases isFilled

end Shape

end JsonTables
