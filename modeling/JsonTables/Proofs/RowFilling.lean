import JsonTables.Layout
import JsonTables.Proofs.Outcome
import JsonTables.Proofs.ShapeInduction

/-!
# Rows that are filled in place

Filling a row puts the cells that a value is read as behind those of the row, and
fails where reading fails.  What holds of the cells that are read so holds of rows
that are filled, and what a row has already stays as it is.
-/

namespace JsonTables.Shape

/-- The cells that are read, behind those of a row. -/
def behind (row : Array Cell) (read : Row) : Except ValueError (Array Cell) :=
  read.map fun (cells : List Cell) => row ++ cells

/-- Whether a filling puts behind a row what a reading gives. -/
def FillsAs (fill : Path → Option Json → Array Cell → Except ValueError (Array Cell))
    (read : Path → Option Json → Row) : Prop :=
  ∀ path value? row, fill path value? row = behind row (read path value?)

@[simp]
theorem behind_ok (row : Array Cell) (cells : List Cell) :
    behind row (.ok cells) = .ok (row ++ cells) :=
  rfl

@[simp]
theorem behind_pure (row : Array Cell) (cells : List Cell) :
    behind row (pure cells) = pure (row ++ cells) :=
  rfl

@[simp]
theorem behind_misfit (row : Array Cell) (path : Path) (cause : Misfit) :
    behind row (misfit path cause) = misfit path cause :=
  rfl

@[simp]
theorem behind_bind {α : Type} (row : Array Cell) (first : Except ValueError α) (next : α → Row) :
    behind row (first >>= next) = first >>= fun value => behind row (next value) := by
  cases first <;> rfl

/-- Parts that are filled one after another have their cells side by side. -/
theorem behind_bind_eq {first rest : Row} {row : Array Cell}
    {fillRest : Array Cell → Except ValueError (Array Cell)}
    (fillsRest : ∀ row, fillRest row = behind row rest) :
    (behind row first >>= fillRest) =
      behind row (do
        let cells ← first
        return cells ++ (← rest)) := by
  cases first with
  | error fault => rfl
  | ok cells =>
      simp only [behind_ok, Except.ok_bind, fillsRest]
      cases rest with
      | error fault => rfl
      | ok others => exact congrArg Except.ok (Array.ext' (by simp))

/-- A row that is filled on its own has the cells that are read. -/
theorem ownRow_eq {fill : Path → Option Json → Array Cell → Except ValueError (Array Cell)}
    {read : Path → Option Json → Row} (fills : FillsAs fill read) : ownRow fill = read := by
  funext path value?
  simp only [ownRow, fills path value?]
  cases read path value? with
  | error fault => rfl
  | ok cells => simp [behind, Except.map, pure, Except.pure]

/-! ### Lists of shapes -/

theorem fillFields_eq {fields : List (String × Shape)}
    (fills : ∀ field ∈ fields, FillsAs field.2.fill field.2.read)
    (matching : List (String × FieldMatching)) (repeats : RepeatPolicy) (path : Path)
    (entries : List (String × Json)) (row : Array Cell) :
    fillFields fields matching repeats path entries row =
      behind row (readFields fields matching repeats path entries) := by
  induction fields generalizing row with
  | nil => simp [fillFields, readFields]
  | cons field rest ih =>
      rw [List.forall_mem_cons] at fills
      simp only [fillFields, readFields]
      cases findField entries field.1 (ObjectShape.matchingIn matching field.1) repeats path with
      | error fault => rfl
      | ok found =>
          simp only [Except.ok_bind]
          rw [fills.1, behind_bind_eq (ih fills.2)]

theorem fillAlike_eq {fields : List (String × Shape)}
    (fills : ∀ field ∈ fields, FillsAs field.2.fill field.2.read) (path : Path)
    (value? : Option Json) (row : Array Cell) :
    fillAlike fields path value? row = behind row (readAlike fields path value?) := by
  induction fields generalizing row with
  | nil => simp [fillAlike, readAlike]
  | cons field rest ih =>
      rw [List.forall_mem_cons] at fills
      simp only [fillAlike, readAlike]
      rw [fills.1, behind_bind_eq (ih fills.2)]

theorem fillSlots_eq {slots : List Shape} (fills : ∀ slot ∈ slots, FillsAs slot.fill slot.read)
    (path : Path) (position : Nat) (values : List (Option Json)) (row : Array Cell) :
    fillSlots slots path position values row =
      behind row (readSlots slots path position values) := by
  induction slots generalizing position values row with
  | nil => simp [fillSlots, readSlots]
  | cons slot rest ih =>
      rw [List.forall_mem_cons] at fills
      cases values with
      | nil => simp [fillSlots, readSlots]
      | cons value? values =>
          simp only [fillSlots, readSlots]
          rw [fills.1, behind_bind_eq (ih fills.2 (position + 1) values)]

theorem fillVariants_eq {variants : List (String × ObjectShape)}
    (fills : ∀ variant ∈ variants, ∀ field ∈ variant.2.fields, FillsAs field.2.fill field.2.read)
    (tag : String) (path : Path) (entries : List (String × Json)) (row : Array Cell) :
    fillVariants variants tag path entries row =
      behind row (readVariants variants tag path entries) := by
  induction variants generalizing row with
  | nil => simp [fillVariants, readVariants]
  | cons variant rest ih =>
      rcases variant with ⟨name, ⟨fields, rules⟩⟩
      rw [List.forall_mem_cons] at fills
      have ownFields : ∀ row, fillFields fields rules.matching rules.repeats path entries row =
          behind row (readFields fields rules.matching rules.repeats path entries) :=
        fillFields_eq fills.1 rules.matching rules.repeats path entries
      simp only [fillVariants, readVariants, fillOwnFields, readOwnFields]
      split
      · rw [ownFields, behind_bind_eq (ih fills.2)]
      · rw [← behind_pure, behind_bind_eq (ih fills.2)]

theorem fillObject_eq {fields : List (String × Shape)}
    (fills : ∀ field ∈ fields, FillsAs field.2.fill field.2.read) (rules : ObjectRules)
    (path : Path) (value? : Option Json) (row : Array Cell) :
    fillObject (.record fields rules) path value? row =
      behind row (readObject (.record fields rules) path value?) := by
  simp only [fillObject, readObject, fillFields_eq fills, fillAlike_eq fills]
  rcases value? with _ | value
  · rfl
  · cases value with
    | object entries =>
        dsimp only
        cases rules.allowUnknown with
        | true => rfl
        | false => cases entries.find? _ <;> rfl
    | _ => rfl

/-- An object whose type is known has its type, the shared fields and those of every type. -/
theorem fillTagged_eq {shared : List (String × Shape)} {variants : List (String × ObjectShape)}
    (sharedFills : ∀ field ∈ shared, FillsAs field.2.fill field.2.read)
    (variantFills : ∀ variant ∈ variants, ∀ field ∈ variant.2.fields,
      FillsAs field.2.fill field.2.read)
    (rules : VariantRules) (path : Path) (entries : List (String × Json)) (tag : String)
    (row : Array Cell) :
    (do
      checkEntries rules (shared.map (·.1)) (variants.lookup tag) tag entries path
      let row ← fillFields shared [] rules.repeats path entries (row.push (.string tag))
      fillVariants variants tag path entries row) =
    behind row (do
      checkEntries rules (shared.map (·.1)) (variants.lookup tag) tag entries path
      let sharedCells ← readFields shared [] rules.repeats path entries
      return .string tag :: (sharedCells ++ (← readVariants variants tag path entries))) := by
  simp only [behind_bind, fillFields_eq sharedFills, fillVariants_eq variantFills]
  congr 1
  funext _
  cases readFields shared [] rules.repeats path entries with
  | error fault => rfl
  | ok cells =>
      simp only [behind_ok, Except.ok_bind]
      cases readVariants variants tag path entries with
      | error fault => rfl
      | ok others => exact congrArg Except.ok (Array.ext' (by simp))

/-! ### Shapes -/

/-- Filling a row puts behind it what is read. -/
theorem fill_eq (shape : Shape) : FillsAs shape.fill shape.read := by
  induction shape with
  | leaf scalar =>
      intro path value? row
      simp only [fill, read]
      cases scalar.read path value? with
      | error fault => rfl
      | ok cell => exact congrArg Except.ok (Array.ext' (by simp))
  | object fields rules fills =>
      intro path value? row
      simp only [fill, read, behind_bind, fillObject_eq fills]
  | array element acceptance fills =>
      intro path value? row
      simp only [fill, read, behind_bind, ownRow_eq fills]
      congr 1
      funext _
      rcases value? with _ | value
      · rfl
      · cases value with
        | array items =>
            dsimp only
            cases readItems element.read path 0 items <;> rfl
        | _ => rfl
  | keyValue key value acceptance keyFills valueFills =>
      intro path value? row
      simp only [fill, read, behind_bind, ownRow_eq keyFills, ownRow_eq valueFills]
      congr 1
      funext _
      rcases value? with _ | json
      · rfl
      · cases json with
        | object entries =>
            dsimp only
            cases readEntries key.read value.read path entries with
            | error fault => rfl
            | ok rows => exact congrArg Except.ok (Array.ext' (by simp))
        | _ => rfl
  | tuple slots acceptance fills =>
      intro path value? row
      simp only [fill, read, behind_bind, fillSlots_eq fills]
      congr 1
      funext _
      rcases value? with _ | value
      · rfl
      · cases value with
        | array items =>
            dsimp only
            split <;> rfl
        | _ => rfl
  | typed rules shared variants sharedFills variantFills =>
      intro path value? row
      simp only [fill, read, behind_bind]
      congr 1
      funext _
      rcases value? with _ | value
      · rfl
      · cases value with
        | object entries =>
            simp only [behind_bind]
            congr 1
            funext tag?
            cases tag? with
            | none => rfl
            | some tag => exact fillTagged_eq sharedFills variantFills rules path entries tag row
        | _ => rfl
  | any =>
      intro path value? row
      cases value? <;> exact congrArg Except.ok (Array.ext' (by simp))
  | skip acceptance =>
      intro path value? row
      simp only [fill, read, behind_bind]
      congr 1

/-- A row is filled just if the value is read, to what is put behind the row. -/
theorem fill_eq_ok_iff {shape : Shape} {path : Path} {value? : Option Json}
    {row filled : Array Cell} : shape.fill path value? row = .ok filled ↔
      ∃ cells : List Cell, shape.read path value? = .ok cells ∧ filled = row ++ cells := by
  rw [fill_eq]
  cases shape.read path value? with
  | error fault => simp [behind, Except.map]
  | ok cells => simp [eq_comm]

theorem fill_empty_eq_ok_iff {shape : Shape} {path : Path} {value? : Option Json}
    {cells : List Cell} :
    shape.fill path value? #[] = .ok cells.toArray ↔ shape.read path value? = .ok cells := by
  rw [fill_eq_ok_iff]
  simp

/-- A row is filled with the cell that a leaf reads. -/
theorem fill_leaf_eq_ok_iff {scalar : Leaf} {path : Path} {value? : Option Json}
    {row filled : Array Cell} : (leaf scalar).fill path value? row = .ok filled ↔
      ∃ cell, scalar.read path value? = .ok cell ∧ filled = row.push cell := by
  simp only [fill, Except.bind_eq_ok_iff, Except.pure_eq_ok_iff]
  apply exists_congr
  intro cell
  exact and_congr_right fun _ => eq_comm

end JsonTables.Shape

namespace JsonTables.Leaf

/-- A leaf reads a value that is not null just if it accepts the kind of the value, and the value
is one of the leaf. -/
theorem read_some_eq_ok_iff {leaf : Leaf} {path : Path} {value : Json} {cell : Cell}
    (notNull : value ≠ .null) : leaf.read path (some value) = .ok cell ↔
      leaf.acceptance.desired.contains value.kind = true ∧
        ∃ scalar, readValue (leaf.acceptance.desired.contains .decimal) value leaf.kind =
          .ok scalar ∧ cell = leaf.kind.cell scalar := by
  unfold read
  split
  · contradiction
  · rename_i isNull
    cases isNull
    contradiction
  · rename_i isSome
    cases isSome
    split
    · rename_i accepts
      rw [and_iff_right accepts]
      split
      · rename_i scalar isScalar
        simp [isScalar, eq_comm]
      · rename_i isFault
        simp [isFault, misfit]
    · rename_i refuses
      simp [refuses, misfit]

end JsonTables.Leaf

namespace JsonTables.Shape

/-- A leaf fills a row just if it accepts the kind of a value, and the value is one of the leaf. -/
theorem fill_leaf_some_eq_ok_iff {scalar : Leaf} {path : Path} {value : Json}
    {row filled : Array Cell} (notNull : value ≠ .null) :
    (leaf scalar).fill path (some value) row = .ok filled ↔
      scalar.acceptance.desired.contains value.kind = true ∧
        ∃ own, Leaf.readValue (scalar.acceptance.desired.contains .decimal) value scalar.kind =
          .ok own ∧ filled = row.push (scalar.kind.cell own) := by
  rw [fill_leaf_eq_ok_iff]
  constructor
  · rintro ⟨cell, isRead, rfl⟩
    rcases (Leaf.read_some_eq_ok_iff notNull).mp isRead with ⟨accepts, own, isOwn, rfl⟩
    exact ⟨accepts, own, isOwn, rfl⟩
  · rintro ⟨accepts, own, isOwn, rfl⟩
    exact ⟨_, (Leaf.read_some_eq_ok_iff notNull).mpr ⟨accepts, own, isOwn, rfl⟩, rfl⟩

end JsonTables.Shape
