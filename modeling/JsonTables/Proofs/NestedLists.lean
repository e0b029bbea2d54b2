import JsonTables.Proofs.RowTypes

/-!
# Lists in cells and lists of rows

A list that is a document has a row for every item.  A list within a row has instead an
array cell for every column of its items, and its rows are the items of these cells: the
same items are read in the same order, so a list is read in both ways or in neither.
-/

namespace JsonTables.Shape

/-- Whether array cells hold the columns of rows: for each column there is a cell of its
type, whose elements are the cells of the rows in that place, one of every row. -/
def HoldColumns (columns : List ShapeColumn) (rows : List (List Cell)) (cells : List Cell) :
    Prop :=
  cells.length = columns.length ∧
    ∀ (position : Nat) (column : ShapeColumn), columns[position]? = some column → ∃ elements,
      cells[position]? = some (Cell.array column.type elements) ∧
        elements.map some = rows.map (·[position]?)

theorem length_arrayCells (columns : List ShapeColumn) (rows : List (List Cell)) :
    (arrayCells columns rows).length = columns.length := by
  induction columns generalizing rows with
  | nil => rfl
  | cons column rest ih => rw [arrayCells, List.length_cons, ih, List.length_cons]

/-- The cell in a place has what the rows have in that place. -/
theorem getElem?_arrayCells (columns : List ShapeColumn) (rows : List (List Cell))
    (position : Nat) :
    (arrayCells columns rows)[position]? = columns[position]?.map fun column =>
      .array column.type (rows.filterMap (·[position]?)) := by
  induction columns generalizing rows position with
  | nil => rfl
  | cons column rest ih =>
      cases position with
      | zero => simp only [arrayCells, List.getElem?_cons_zero, Option.map_some,
          List.head?_eq_getElem?]
      | succ position =>
          simp only [arrayCells, List.getElem?_cons_succ, ih, List.filterMap_map,
            Function.comp_def, List.getElem?_tail]

theorem map_some_filterMap {rows : List (List Cell)} {position : Nat}
    (inRows : ∀ row ∈ rows, position < row.length) :
    (rows.filterMap (·[position]?)).map some = rows.map (·[position]?) := by
  induction rows with
  | nil => rfl
  | cons row rest ih =>
      rw [List.forall_mem_cons] at inRows
      rw [List.filterMap_cons, List.getElem?_eq_getElem inRows.1, List.map_cons, ih inRows.2,
        ← List.getElem?_eq_getElem inRows.1, List.map_cons]

/-- The array cells of rows hold their columns, as many as every row has cells. -/
theorem holdColumns_arrayCells {columns : List ShapeColumn} {rows : List (List Cell)}
    (fill : ∀ row ∈ rows, Fills columns row) :
    HoldColumns columns rows (arrayCells columns rows) := by
  refine ⟨length_arrayCells columns rows, ?_⟩
  intro position column isColumn
  refine ⟨rows.filterMap (·[position]?), ?_, ?_⟩
  · rw [getElem?_arrayCells, isColumn, Option.map_some]
  · apply map_some_filterMap
    intro row rowMem
    rw [(fill row rowMem).length_eq]
    exact (List.getElem?_eq_some_iff.mp isColumn).1

/-- There is one row for each of the items that are read. -/
theorem length_of_readItems {read : Path → Option Json → Row} {path : Path} {position : Nat}
    {items : List Json} {rows : List (List Cell)}
    (areRead : readItems read path position items = .ok rows) : rows.length = items.length := by
  induction items generalizing position rows with
  | nil =>
      cases areRead
      rfl
  | cons item rest ih =>
      simp only [readItems, Except.bind_eq_ok_iff, Except.pure_eq_ok_iff] at areRead
      rcases areRead with ⟨row, _, others, othersRead, rfl⟩
      rw [List.length_cons, ih othersRead, List.length_cons]

/-- A list has rows as a document just if it fills array cells within a row.  There is a row
for every item, and the cells hold the columns of the rows.  If it has none of both, it has
one fault. -/
theorem list_cells_hold_rows {element : Shape} {acceptance : Acceptance} {naming : Naming}
    {layout : Layout} (made : Layout.ofShape (.array element acceptance) naming = .ok layout)
    (items : List Json) :
    (∃ rows, ∃ cells : List Cell, layout.rows (some (.array items)) = .ok rows ∧
      (∀ row, (array element acceptance).fill [] (some (.array items)) row =
        .ok (row ++ cells)) ∧
      rows.length = items.length ∧ HoldColumns element.columns rows cells) ∨
    ∃ fault, layout.rows (some (.array items)) = .error (.value fault) ∧
      ∀ row, (array element acceptance).fill [] (some (.array items)) row = .error fault := by
  have rows_eq : layout.rows (some (.array items)) =
      (Layout.readRows (.array element acceptance) (some (.array items))).mapError .value := by
    rw [Layout.eq_of_ofShape made]
    rfl
  have filled_eq : ∀ row, (array element acceptance).fill [] (some (.array items)) row =
      behind row ((array element acceptance).read [] (some (.array items))) :=
    fill_eq (array element acceptance) [] (some (.array items))
  simp only [rows_eq, filled_eq, Layout.readRows, read, ownRow_eq (fill_eq element)]
  cases checkKind (array element acceptance) [] (some (.array items)) with
  | error fault => exact .inr ⟨fault, rfl, fun _ => rfl⟩
  | ok _ =>
      simp only [Except.ok_bind]
      cases areRead : readItems element.read [] 0 items with
      | error fault => exact .inr ⟨fault, rfl, fun _ => rfl⟩
      | ok rows =>
          refine .inl ⟨rows, arrayCells element.columns rows, rfl, fun _ => rfl, ?_, ?_⟩
          · exact length_of_readItems areRead
          · exact holdColumns_arrayCells (fills_of_readItems (read_fills element) areRead)

/-- Pairs of a number and a list, the second of which is null. -/
theorem cells_hold_rows_of_pairs :
    let number : Shape := .leaf { kind := .int, acceptance := ⟨false, .ofList [.int, .null]⟩ }
    let pair : Shape :=
      .tuple [number, .array any ⟨true, .ofList [.array, .null]⟩] ⟨false, .ofList [.array, .null]⟩
    let shape : Shape := .array pair ⟨false, .ofList [.array]⟩
    let layout : Layout := ⟨shape, pair.columns, ["0", "1"]⟩
    let items : List Json := [.array [.number "1", .array [.bool true]], .null]
    let rows : List (List Cell) := [[.int 1, .array .object [.json (.bool true)]], [.null, .null]]
    Layout.ofShape shape {} = .ok layout ∧ layout.rows (some (.array items)) = .ok rows ∧
      ∃ cells : List Cell,
        shape.fill [] (some (.array items)) #[Cell.null] = .ok (#[Cell.null] ++ cells) ∧
          HoldColumns pair.columns rows cells := by
  intro number pair shape layout items rows
  have made : Layout.ofShape shape {} = .ok layout := by cbv
  have areRows : layout.rows (some (.array items)) = .ok rows := by cbv
  rcases list_cells_hold_rows made items with ⟨rows', cells, areRows', isFilled, _, hold⟩ |
    ⟨fault, fails, _⟩
  · obtain rfl : rows' = rows := by simpa [areRows] using areRows'.symm
    exact ⟨made, areRows, cells, isFilled #[Cell.null], hold⟩
  · simp [areRows] at fails

end JsonTables.Shape
