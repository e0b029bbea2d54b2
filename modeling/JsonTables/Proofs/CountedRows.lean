import JsonTables.Proofs.CellPositions

/-!
# Counted rows

Whether a table has a row at an index is a matter of all columns, each of which has to have a cell
there, and how many rows a table has is read off its first column alone.  In a table that can be
had the columns are of one height, so the rows that are there are those that are counted, and they
are the rows that a filter is asked about and that are shown.  Only where there are no columns do
the two part: nothing is missing from any row then, and there is nothing to count.
-/

namespace JsonTables.Table

/-- Whether cells are a row of a table: for each definition in turn, the cell at the index in the
column of its name. -/
def IsRow (table : Table) (index : Nat) (row : List Cell) : Prop :=
  List.Forall₂ (fun definition cell =>
    ∃ column, table.column definition.name = .ok column ∧ column.cells[index]? = some cell)
    table.definitions row

/-! ### Cells of a row -/

/-- Steps come to something just if each comes to its own result. -/
theorem mapM_eq_some_iff {α β : Type} {step : α → Option β} {items : List α} {results : List β} :
    items.mapM step = some results ↔
      List.Forall₂ (fun item result => step item = some result) items results := by
  induction items generalizing results with
  | nil => simp [eq_comm]
  | cons item rest ih =>
      simp only [List.mapM_cons, Option.bind_eq_bind, Option.bind_eq_some_iff, Option.pure_def,
        Option.some_inj, ih, List.forall₂_cons_left_iff]
      constructor
      · rintro ⟨result, isResult, others, areOthers, rfl⟩
        exact ⟨result, others, isResult, areOthers, rfl⟩
      · rintro ⟨result, others, isResult, areOthers, rfl⟩
        exact ⟨result, isResult, others, areOthers, rfl⟩

/-- Columns with different names are each found by its name. -/
theorem column_eq_of_mem {table : Table} (distinct : table.columnNames.Nodup) {column : Column}
    (columnMem : column ∈ table.columns) :
    table.column column.definition.name = .ok column := by
  simp only [columnNames, definitions, List.map_map] at distinct
  have there : column.definition.name ∈ table.columnNames := by
    rw [columnNames, definitions, List.map_map]
    exact List.mem_map_of_mem columnMem
  rcases exists_column there with ⟨found, isFound⟩
  have isFirst := find?_of_column isFound
  have sameName : found.definition.name = column.definition.name := by
    simpa using List.find?_some isFirst
  have isSame : found = column :=
    List.inj_on_of_nodup_map distinct (List.mem_of_find?_eq_some isFirst) columnMem sameName
  rw [isFound, isSame]

/-- A row that is had has the cells of all columns, in the order of the definitions. -/
theorem row?_eq_some_iff {table : Table} (distinct : table.columnNames.Nodup) {index : Nat}
    {row : List Cell} : table.row? index = some row ↔ table.IsRow index row := by
  rw [row?, mapM_eq_some_iff, IsRow, definitions, List.forall₂_map_left_iff]
  have areFound : ∀ column ∈ table.columns,
      table.column column.definition.name = .ok column :=
    fun column columnMem => column_eq_of_mem distinct columnMem
  constructor
  · intro areCells
    refine ((List.forall₂_and_left _ _).mpr ⟨areFound, areCells⟩).imp ?_
    rintro column cell ⟨isFound, isCell⟩
    exact ⟨column, isFound, isCell⟩
  · intro areCells
    refine ((List.forall₂_and_left _ _).mpr ⟨areFound, areCells⟩).imp ?_
    rintro column cell ⟨isFound, found, isFoundToo, isCell⟩
    rw [isFound, Except.ok.injEq] at isFoundToo
    rwa [isFoundToo]

/-! ### Rows that are there -/

/-- Beyond the end of the first column there is no row. -/
theorem row?_eq_none {table : Table} (hasColumns : table.definitions ≠ []) {index : Nat}
    (outside : table.rowCount ≤ index) : table.row? index = none := by
  rw [row?]
  cases areColumns : table.columns with
  | nil => simp [definitions, areColumns] at hasColumns
  | cons first rest =>
      rw [rowCount, areColumns, height] at outside
      have noCell : first.cells[index]? = none := List.getElem?_eq_none outside
      rw [List.mapM_cons, noCell]
      rfl

/-- Where there are columns, the row at an index is that among all rows. -/
theorem row?_eq_getElem?_rows {table : Table} (rectangular : table.IsRectangular)
    (hasColumns : table.definitions ≠ []) (index : Nat) :
    table.row? index = table.rows[index]? := by
  rcases Nat.lt_or_ge index table.rowCount with inside | outside
  · rw [row?_eq rectangular inside, rows_eq, getElem?_columnsOf inside]
  · have noRow : table.rows[index]? = none := by
      rw [List.getElem?_eq_none_iff, length_rows]
      exact outside
    rw [row?_eq_none hasColumns outside, noRow]

/-- Without columns there is a row at every index, and none is counted. -/
theorem row?_of_no_columns {table : Table} (noColumns : table.definitions = []) :
    table.rowCount = 0 ∧ ∀ index, table.row? index = some [] := by
  have areNone : table.columns = [] := by simpa [definitions] using noColumns
  rw [rowCount, areNone]
  refine ⟨rfl, ?_⟩
  intro index
  rw [row?, areNone]
  rfl

/-- Where a table has columns, and only there, the indices that have a row are those below the
number of rows.  A row lists the cells of all columns, in the order of the definitions, and where
there are columns it is the one that a filter is asked about and that is shown. -/
theorem rows_are_there_as_counted {table : Table} (reachable : table.Reachable) :
    ((∀ index, (table.row? index).isSome ↔ index < table.rowCount) ↔ table.definitions ≠ []) ∧
      (∀ index row, table.row? index = some row ↔ table.IsRow index row) ∧
      (table.definitions ≠ [] → ∀ index, table.row? index = table.rows[index]?) := by
  have rectangular := reachable.isRectangular
  refine ⟨?_, fun _ _ => row?_eq_some_iff rectangular.distinct,
    row?_eq_getElem?_rows rectangular⟩
  constructor
  · intro counted noColumns
    -- the first index has a row then, and must not have one
    rcases row?_of_no_columns noColumns with ⟨noRows, areThere⟩
    have isCounted := (counted 0).mp (by rw [areThere]; rfl)
    rw [noRows] at isCounted
    exact Nat.lt_irrefl 0 isCounted
  · intro hasColumns index
    rw [row?_eq_getElem?_rows rectangular hasColumns, isSome_getElem?, length_rows]

/-- Of the rows that pass a filter the first one, and no other. -/
theorem head_has_one_row :
    let ids : Column := ⟨⟨"id", .int, none, .normal⟩, [.int 1, .int 2, .int 3]⟩
    let names : Column := ⟨⟨"name", .string, none, .normal⟩, [.string "a", .null, .string "c"]⟩
    let source : Table := ⟨none, [ids, names], []⟩
    let asked : Filter := .condition ⟨"id", .greaterOrEqual, .int 2⟩
    let first := ((source.sieve asked).withAttributes [("by", "id")]).head 1
    first.Reachable ∧ first.rowCount = 1 ∧
      (∀ index, (first.row? index).isSome ↔ index < first.rowCount) ∧
      first.row? 0 = some [.int 2, .null] ∧ first.IsRow 0 [.int 2, .null] ∧
      first.row? 1 = none := by
  intro ids names source asked first
  have isTable : ofColumns none [ids, names] = .ok source := by rfl
  have idsMade : ids.IsMade := ⟨"id", .int, none, .normal, ids.cells, by rfl⟩
  have namesMade : names.IsMade := ⟨"name", .string, none, .normal, names.cells, by rfl⟩
  have isSource : source.Reachable :=
    .ofColumns (List.forall_mem_cons.mpr ⟨idsMade, List.forall_mem_singleton.mpr namesMade⟩) isTable
  have isKept : source.filter asked = .ok (source.sieve asked) := by rfl
  have reachable : first.Reachable := ((isSource.filter isKept).withAttributes _).head 1
  rcases rows_are_there_as_counted reachable with ⟨counted, areRows, _⟩
  have isRow : first.row? 0 = some [.int 2, .null] := by rfl
  refine ⟨reachable, by rfl, counted.mpr ?_, isRow, (areRows 0 _).mp isRow, by rfl⟩
  exact List.cons_ne_nil _ _

/-- A table without columns has no rows, but a row at every index, the first one too. -/
theorem row_without_cells_is_not_counted :
    let table : Table := ⟨none, [], []⟩
    ofColumns none [] = .ok table ∧ table.Reachable ∧ table.rowCount = 0 ∧
      table.row? 0 = some [] ∧ ¬((table.row? 0).isSome ↔ 0 < table.rowCount) := by
  intro table
  have isTable : ofColumns none [] = .ok table := by rfl
  refine ⟨isTable, .ofColumns (List.forall_mem_nil _) isTable, rfl, rfl, ?_⟩
  simp [table, row?, rowCount, height]

end JsonTables.Table
