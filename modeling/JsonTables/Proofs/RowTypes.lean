import JsonTables.Proofs.RowFilling

/-!
# Rows and columns agree

The columns of a shape and the cells of a value are two recursions on the shape.
Whatever the value, they come to the same number, and every cell is null or of the
type of its column; so are the elements of array cells, at every depth.
-/

namespace JsonTables

namespace Cell

/-- Whether a cell is null or of a type.  The elements of an array cell are so of the
component of its type. -/
def Conforms : Cell → DataType → Prop
  | null, _ => True
  | array elementType elements, .array component =>
      elementType = component ∧ ∀ element ∈ elements, Conforms element component
  | cell, type => cell.type? = some type

@[simp]
theorem conforms_null (type : DataType) : null.Conforms type := by
  cases type <;> exact trivial

@[simp]
theorem conforms_array {elementType component : DataType} {elements : List Cell} :
    (array elementType elements).Conforms (.array component) ↔
      elementType = component ∧ ∀ element ∈ elements, element.Conforms component :=
  Iff.rfl

/-- The cell of a value of a leaf is of the type of its kind. -/
theorem conforms_cell (kind : LeafKind) (value : kind.Value) :
    (kind.cell value).Conforms kind.type := by
  cases kind <;> rfl

theorem conforms_cellOr (kind : LeafKind) (value? : Option kind.Value) :
    (Leaf.cellOr kind value?).Conforms kind.type := by
  cases value? with
  | none => exact conforms_null kind.type
  | some value => exact conforms_cell kind value

theorem conforms_ofJson (value : Json) : (ofJson value).Conforms .object := by
  cases value <;> simp [ofJson, Conforms, type?]

end Cell

namespace Leaf

theorem conforms_of_read {leaf : Leaf} {path : Path} {value? : Option Json} {cell : Cell}
    (isRead : leaf.read path value? = .ok cell) : cell.Conforms leaf.kind.type := by
  simp only [read] at isRead
  split at isRead
  · split at isRead
    · cases isRead
      exact Cell.conforms_cellOr leaf.kind leaf.onMissing
    · cases isRead
  · split at isRead
    · cases isRead
      exact Cell.conforms_cellOr leaf.kind leaf.onNull
    · cases isRead
  · split at isRead
    · split at isRead
      · cases isRead
        exact Cell.conforms_cell leaf.kind _
      · cases isRead
    · cases isRead

end Leaf

/-- Whether cells fill columns: there is one for each, null or of the column's type. -/
def Fills (columns : List ShapeColumn) (cells : List Cell) : Prop :=
  List.Forall₂ (fun column cell => cell.Conforms column.type) columns cells

namespace Fills

theorem length_eq {columns : List ShapeColumn} {cells : List Cell} (fills : Fills columns cells) :
    cells.length = columns.length :=
  (List.Forall₂.length_eq fills).symm

@[simp]
theorem nil : Fills [] [] :=
  List.Forall₂.nil

theorem append {columns otherColumns : List ShapeColumn} {cells otherCells : List Cell}
    (fills : Fills columns cells) (otherFills : Fills otherColumns otherCells) :
    Fills (columns ++ otherColumns) (cells ++ otherCells) :=
  List.rel_append fills otherFills

/-- The names of columns do not matter. -/
theorem map_under {columns : List ShapeColumn} {cells : List Cell} (name : String)
    (fills : Fills columns cells) : Fills (columns.map (.under name)) cells :=
  List.forall₂_map_left_iff.mpr fills

theorem nulls (columns : List ShapeColumn) : Fills columns (Shape.nulls columns.length) := by
  induction columns with
  | nil => exact nil
  | cons column rest ih => exact List.Forall₂.cons (Cell.conforms_null column.type) ih

/-- Array cells of rows that fill columns fill columns of arrays of their types. -/
theorem arrayCells {columns : List ShapeColumn} {rows : List (List Cell)}
    {many : ShapeColumn → ShapeColumn}
    (manyType : ∀ column, (many column).type = .array column.type)
    (fills : ∀ row ∈ rows, Fills columns row) :
    Fills (columns.map many) (Shape.arrayCells columns rows) := by
  induction columns generalizing rows with
  | nil => exact nil
  | cons column rest ih =>
      rw [List.map_cons, Shape.arrayCells]
      apply List.Forall₂.cons
      · rw [manyType, Cell.conforms_array]
        refine ⟨rfl, ?_⟩
        intro element elementMem
        rcases List.mem_filterMap.mp elementMem with ⟨row, rowMem, isHead⟩
        cases fills row rowMem with
        | cons conforms _ =>
            cases isHead
            exact conforms
      · apply ih
        intro tail tailMem
        rcases List.mem_map.mp tailMem with ⟨row, rowMem, rfl⟩
        cases fills row rowMem with
        | cons _ restFills => exact restFills

end Fills

namespace Shape

/-- Whether a reading gives cells that fill columns whenever it gives cells. -/
def ReadsInto (columns : List ShapeColumn) (read : Path → Option Json → Row) : Prop :=
  ∀ ⦃path value? cells⦄, read path value? = .ok cells → Fills columns cells

theorem fills_of_readItems {columns : List ShapeColumn} {read : Path → Option Json → Row}
    (reads : ReadsInto columns read) {path : Path} {position : Nat} {items : List Json}
    {rows : List (List Cell)} (itemsRead : readItems read path position items = .ok rows) :
    ∀ row ∈ rows, Fills columns row := by
  induction items generalizing position rows with
  | nil =>
      cases itemsRead
      simp
  | cons item rest ih =>
      simp only [readItems, Except.bind_eq_ok_iff, Except.pure_eq_ok_iff] at itemsRead
      rcases itemsRead with ⟨row, rowRead, others, othersRead, rfl⟩
      rw [List.forall_mem_cons]
      exact ⟨reads rowRead, ih othersRead⟩

theorem fills_of_readEntries {keyColumns valueColumns : List ShapeColumn}
    {readKey readValue : Path → Option Json → Row} (keyReads : ReadsInto keyColumns readKey)
    (valueReads : ReadsInto valueColumns readValue) {path : Path}
    {entries : List (String × Json)} {rows : List (List Cell) × List (List Cell)}
    (entriesRead : readEntries readKey readValue path entries = .ok rows) :
    (∀ row ∈ rows.1, Fills keyColumns row) ∧ ∀ row ∈ rows.2, Fills valueColumns row := by
  induction entries generalizing rows with
  | nil =>
      cases entriesRead
      simp
  | cons entry rest ih =>
      simp only [readEntries, Except.bind_eq_ok_iff, Except.pure_eq_ok_iff] at entriesRead
      rcases entriesRead with ⟨keyRow, keyRead, valueRow, valueRead, others, othersRead, rfl⟩
      rw [List.forall_mem_cons, List.forall_mem_cons]
      have othersFill := ih othersRead
      exact ⟨⟨keyReads keyRead, othersFill.1⟩, ⟨valueReads valueRead, othersFill.2⟩⟩

theorem fills_of_readFields {fields : List (String × Shape)}
    (reads : ∀ field ∈ fields, ReadsInto field.2.columns field.2.read)
    {matching : List (String × FieldMatching)} {repeats : RepeatPolicy} {path : Path}
    {entries : List (String × Json)} {cells : List Cell}
    (fieldsRead : readFields fields matching repeats path entries = .ok cells) :
    Fills (fieldColumns fields) cells := by
  induction fields generalizing cells with
  | nil =>
      cases fieldsRead
      exact Fills.nil
  | cons field rest ih =>
      rw [List.forall_mem_cons] at reads
      simp only [readFields, Except.bind_eq_ok_iff, Except.pure_eq_ok_iff] at fieldsRead
      rcases fieldsRead with ⟨found, _, cells, cellsRead, others, othersRead, rfl⟩
      exact ((reads.1 cellsRead).map_under field.1).append (ih reads.2 othersRead)

theorem fills_of_readAlike {fields : List (String × Shape)}
    (reads : ∀ field ∈ fields, ReadsInto field.2.columns field.2.read) {path : Path}
    {value? : Option Json} {cells : List Cell}
    (fieldsRead : readAlike fields path value? = .ok cells) :
    Fills (fieldColumns fields) cells := by
  induction fields generalizing cells with
  | nil =>
      cases fieldsRead
      exact Fills.nil
  | cons field rest ih =>
      rw [List.forall_mem_cons] at reads
      simp only [readAlike, Except.bind_eq_ok_iff, Except.pure_eq_ok_iff] at fieldsRead
      rcases fieldsRead with ⟨cells, cellsRead, others, othersRead, rfl⟩
      exact ((reads.1 cellsRead).map_under field.1).append (ih reads.2 othersRead)

/-- As many values as there are slots fill the columns of the slots. -/
theorem fills_of_readSlots {slots : List Shape}
    (reads : ∀ slot ∈ slots, ReadsInto slot.columns slot.read) {path : Path} {position : Nat}
    {values : List (Option Json)} (sameLength : values.length = slots.length)
    {cells : List Cell} (slotsRead : readSlots slots path position values = .ok cells) :
    Fills (slotColumns position slots) cells := by
  induction slots generalizing position values cells with
  | nil =>
      cases slotsRead
      exact Fills.nil
  | cons slot rest ih =>
      rw [List.forall_mem_cons] at reads
      cases values with
      | nil => simp at sameLength
      | cons value? values =>
          simp only [readSlots, Except.bind_eq_ok_iff, Except.pure_eq_ok_iff] at slotsRead
          rcases slotsRead with ⟨cells, cellsRead, others, othersRead, rfl⟩
          have restLength : values.length = rest.length := by simpa using sameLength
          exact ((reads.1 cellsRead).map_under _).append (ih reads.2 restLength othersRead)

theorem fills_of_readVariants {variants : List (String × ObjectShape)}
    (reads : ∀ variant ∈ variants, ∀ field ∈ variant.2.fields,
      ReadsInto field.2.columns field.2.read)
    {tag : String} {path : Path} {entries : List (String × Json)} {cells : List Cell}
    (variantsRead : readVariants variants tag path entries = .ok cells) :
    Fills (variantColumns variants) cells := by
  induction variants generalizing cells with
  | nil =>
      cases variantsRead
      exact Fills.nil
  | cons variant rest ih =>
      rcases variant with ⟨name, ⟨fields, rules⟩⟩
      rw [List.forall_mem_cons] at reads
      simp only [readVariants] at variantsRead
      split at variantsRead
      · simp only [readOwnFields, Except.bind_eq_ok_iff, Except.pure_eq_ok_iff] at variantsRead
        rcases variantsRead with ⟨cells, cellsRead, others, othersRead, rfl⟩
        exact ((fills_of_readFields reads.1 cellsRead).map_under name).append
          (ih reads.2 othersRead)
      · simp only [Except.bind_eq_ok_iff, Except.pure_eq_ok_iff] at variantsRead
        rcases variantsRead with ⟨cells, rfl, others, othersRead, rfl⟩
        exact ((Fills.nulls (fieldColumns fields)).map_under name).append
          (ih reads.2 othersRead)

/-- The column of a tuple's only slot has no number, but the same type. -/
theorem fills_tuple_iff {slots : List Shape} {acceptance : Acceptance} {cells : List Cell} :
    Fills (columns (.tuple slots acceptance)) cells ↔ Fills (slotColumns 0 slots) cells := by
  match slots with
  | [] => exact Iff.rfl
  | [slot] =>
      simp only [columns, slotColumns, List.append_nil, Fills, List.forall₂_map_left_iff]
      exact Iff.rfl
  | _ :: _ :: _ => exact Iff.rfl

/-- What is read of an object whose type is known. -/
theorem fills_of_readTagged {rules : VariantRules} {shared : List (String × Shape)}
    {variants : List (String × ObjectShape)}
    (sharedReads : ∀ field ∈ shared, ReadsInto field.2.columns field.2.read)
    (variantReads : ∀ variant ∈ variants, ∀ field ∈ variant.2.fields,
      ReadsInto field.2.columns field.2.read)
    {tag : String} {path : Path} {entries : List (String × Json)}
    {sharedCells variantCells : List Cell}
    (sharedRead : readFields shared [] rules.repeats path entries = .ok sharedCells)
    (variantsRead : readVariants variants tag path entries = .ok variantCells) :
    Fills (columns (.typed rules shared variants))
      (.string tag :: (sharedCells ++ variantCells)) := by
  rw [columns]
  apply List.Forall₂.cons
  · exact rfl
  · exact (fills_of_readFields sharedReads sharedRead).append
      (fills_of_readVariants variantReads variantsRead)

/-- The cells that are read of a value fill the columns of the shape. -/
theorem read_fills (shape : Shape) : ReadsInto shape.columns shape.read := by
  induction shape with
  | leaf scalar =>
      intro path value? cells isRead
      simp only [read, Except.bind_eq_ok_iff, Except.pure_eq_ok_iff] at isRead
      rcases isRead with ⟨cell, cellRead, rfl⟩
      exact List.Forall₂.cons (Leaf.conforms_of_read cellRead) Fills.nil
  | object fields rules reads =>
      intro path value? cells isRead
      simp only [read, Except.bind_eq_ok_iff, readObject] at isRead
      rcases isRead with ⟨_, _, objectRead⟩
      split at objectRead
      · split at objectRead
        · exact fills_of_readFields reads objectRead
        · split at objectRead
          · cases objectRead
          · exact fills_of_readFields reads objectRead
      · exact fills_of_readAlike reads objectRead
  | array element acceptance reads =>
      intro path value? cells isRead
      simp only [read, Except.bind_eq_ok_iff] at isRead
      rcases isRead with ⟨_, _, arrayRead⟩
      split at arrayRead
      · simp only [Except.bind_eq_ok_iff, Except.pure_eq_ok_iff] at arrayRead
        rcases arrayRead with ⟨rows, itemsRead, rfl⟩
        exact Fills.arrayCells (fun _ => rfl) (fills_of_readItems reads itemsRead)
      · simp only [Except.pure_eq_ok_iff] at arrayRead
        subst arrayRead
        simpa [columns, width] using Fills.nulls (element.columns.map .many)
  | keyValue key value acceptance keyReads valueReads =>
      intro path value? cells isRead
      simp only [read, Except.bind_eq_ok_iff] at isRead
      rcases isRead with ⟨_, _, mapRead⟩
      split at mapRead
      · simp only [Except.bind_eq_ok_iff, Except.pure_eq_ok_iff] at mapRead
        rcases mapRead with ⟨rows, entriesRead, rfl⟩
        have rowsFill := fills_of_readEntries keyReads valueReads entriesRead
        exact (Fills.arrayCells (fun _ => rfl) rowsFill.1).append
          (Fills.arrayCells (fun _ => rfl) rowsFill.2)
      · simp only [Except.pure_eq_ok_iff] at mapRead
        subst mapRead
        simpa [columns, width] using Fills.nulls (columns (.keyValue key value acceptance))
  | tuple slots acceptance reads =>
      intro path value? cells isRead
      simp only [read, Except.bind_eq_ok_iff] at isRead
      rcases isRead with ⟨_, _, tupleRead⟩
      rw [fills_tuple_iff]
      split at tupleRead
      · split at tupleRead
        · exact fills_of_readSlots reads (by simpa using ‹_›) tupleRead
        · cases tupleRead
      · exact fills_of_readSlots reads (by simp) tupleRead
  | typed rules shared variants sharedReads variantReads =>
      intro path value? cells isRead
      simp only [read, Except.bind_eq_ok_iff] at isRead
      rcases isRead with ⟨_, _, typedRead⟩
      have nullsFill := Fills.nulls (columns (.typed rules shared variants))
      split at typedRead
      · simp only [Except.bind_eq_ok_iff] at typedRead
        rcases typedRead with ⟨tag?, _, taggedRead⟩
        cases tag? with
        | none =>
            cases taggedRead
            exact nullsFill
        | some tag =>
            simp only [Except.bind_eq_ok_iff, Except.pure_eq_ok_iff] at taggedRead
            rcases taggedRead with ⟨_, _, sharedCells, sharedRead, variantCells, variantsRead, rfl⟩
            exact fills_of_readTagged sharedReads variantReads sharedRead variantsRead
      · cases typedRead
        exact nullsFill
  | any =>
      intro path value? cells isRead
      simp only [read] at isRead
      split at isRead
      · cases isRead
        exact List.Forall₂.cons (Cell.conforms_ofJson _) Fills.nil
      · cases isRead
        exact List.Forall₂.cons (Cell.conforms_null .object) Fills.nil
  | skip acceptance =>
      intro path value? cells isRead
      simp only [read, Except.bind_eq_ok_iff, Except.pure_eq_ok_iff] at isRead
      rcases isRead with ⟨_, _, rfl⟩
      exact Fills.nil

end Shape

namespace Layout

/-- A layout is of its shape, and has the columns of the shape of a row. -/
theorem eq_of_ofShape {shape : Shape} {naming : Naming} {layout : Layout}
    (made : ofShape shape naming = .ok layout) :
    layout = ⟨shape, (rowShape shape).columns,
      (rowShape shape).columns.map fun column => naming.columnName column.path⟩ := by
  simp only [ofShape] at made
  split at made
  · cases made
  · cases made
    rfl

theorem fills_of_readRows {shape : Shape} {value? : Option Json} {rows : List (List Cell)}
    (rowsRead : readRows shape value? = .ok rows) :
    ∀ row ∈ rows, Fills (rowShape shape).columns row := by
  cases shape with
  | array element acceptance =>
      simp only [readRows, Shape.ownRow_eq (Shape.fill_eq element), Except.bind_eq_ok_iff]
        at rowsRead
      rcases rowsRead with ⟨_, _, itemsRead⟩
      split at itemsRead
      · exact Shape.fills_of_readItems (Shape.read_fills element) itemsRead
      · cases itemsRead
        simp
  | _ =>
      simp only [readRows, Shape.ownRow_eq (Shape.fill_eq _), Except.bind_eq_ok_iff,
        Except.pure_eq_ok_iff] at rowsRead
      rcases rowsRead with ⟨row, rowRead, rfl⟩
      simpa [rowShape] using Shape.read_fills _ rowRead

/-- Every row of a document fills the columns of its layout. -/
theorem fills_of_rows {shape : Shape} {naming : Naming} {layout : Layout}
    (made : ofShape shape naming = .ok layout) {value? : Option Json} {rows : List (List Cell)}
    (rowsRead : layout.rows value? = .ok rows) : ∀ row ∈ rows, Fills layout.columns row := by
  rw [eq_of_ofShape made] at rowsRead ⊢
  exact fills_of_readRows (Except.mapError_eq_ok_iff.mp rowsRead)

end Layout

namespace Shape

/-- Filling a row keeps the cells that it has, and puts behind them one for every
column of the shape, null or of the type of the column.  So every row of a document has
one cell for every column of its layout, null or of the type of the column. -/
theorem fill_appends_and_rows_fill (shape : Shape) (value? : Option Json) :
    (∀ (path : Path) (row filled : Array Cell), shape.fill path value? row = .ok filled →
      ∃ cells : List Cell, filled = row ++ cells ∧
        List.Forall₂ (fun column cell => cell.Conforms column.type) shape.columns cells) ∧
    ∀ (naming : Naming) (layout : Layout) (rows : List (List Cell)),
      Layout.ofShape shape naming = .ok layout → layout.rows value? = .ok rows →
        ∀ row ∈ rows,
          List.Forall₂ (fun column cell => cell.Conforms column.type) layout.columns row := by
  constructor
  · intro path row filled isFilled
    rw [fill_eq] at isFilled
    cases isRead : shape.read path value? with
    | error fault => simp [isRead, behind, Except.map] at isFilled
    | ok cells =>
        rw [isRead, behind_ok] at isFilled
        cases isFilled
        exact ⟨cells, rfl, read_fills shape isRead⟩
  · intro naming layout rows made rowsRead
    exact Layout.fills_of_rows made rowsRead

/-- A list of pairs, of which the second may be anything, beside a number. -/
theorem fill_pairs :
    let pair : Shape :=
      .tuple [.leaf { kind := .string, acceptance := ⟨true, .ofList [.string, .null]⟩ }, .any]
        ⟨true, .ofList [.array, .null]⟩
    let shape : Shape :=
      .object (.record
        [("id", .leaf { kind := .int, acceptance := ⟨false, .ofList [.int, .null]⟩ }),
          ("pairs", .array pair ⟨true, .ofList [.array, .null]⟩)]
        { allowUnknown := true, acceptance := ⟨false, .ofList [.object]⟩ })
    let value : Json :=
      .object [("id", .number "7"),
        ("pairs", .array [.array [.string "a", .bool true], .null])]
    let filled : Array Cell :=
      #[.null, .int 7, .array .string [.string "a", .null],
        .array .object [.json (.bool true), .null]]
    shape.fill [] (some value) #[.null] = .ok filled ∧
      ∃ cells : List Cell, filled = #[Cell.null] ++ cells ∧
        List.Forall₂ (fun column cell => cell.Conforms column.type) shape.columns cells := by
  intro pair shape value filled
  have isFilled : shape.fill [] (some value) #[.null] = .ok filled := by rfl
  exact ⟨isFilled, (fill_appends_and_rows_fill shape (some value)).1 [] #[.null] filled isFilled⟩

end Shape

end JsonTables
