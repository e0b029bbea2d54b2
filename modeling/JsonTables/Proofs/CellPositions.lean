import JsonTables.Proofs.FilteredRows
import JsonTables.Table.Render

/-!
# Cells by their positions

A table can be read by the positions of its columns and rows: a name is looked up among the
definitions, and the cells are taken from where the definition was found.  Nothing ties the two
but the shape of the table, so such a reading may leave the table.  Here it is none where it
does, and of a table that can be had it never is: it is what the table is read to be by names.
-/

namespace JsonTables.Table

/-! ### Reading by positions -/

/-- The position of the first column of a name. -/
def positionOf (table : Table) (name : String) : Except TableError Nat :=
  match table.definitions.findIdx? (·.name == name) with
  | some position => .ok position
  | none => .error (.invalid s!"column not found: {name}")

/-- The definition at the position of a name. -/
def definitionAt (table : Table) (name : String) : Option (Except TableError ColumnDefinition) :=
  match table.positionOf name with
  | .ok position => (table.definitions[position]?).map .ok
  | .error fault => some (.error fault)

/-- The cells at the position of a name. -/
def cellsAtName (table : Table) (name : String) : Option (Except TableError (List Cell)) :=
  match table.positionOf name with
  | .ok position => (table.cells[position]?).map .ok
  | .error fault => some (.error fault)

/-- The positions of names, in turn. -/
def positionsOf (table : Table) (names : List String) :
    Except TableError (List (String × Nat)) :=
  names.mapM fun name => do return (name, ← table.positionOf name)

/-- The places of the rows that pass a filter, which sees the cells of columns. -/
def placesThat (table : Table) (asked : Filter) (columns : List (String × List Cell)) : List Nat :=
  (List.range table.rowCount).filter fun row =>
    asked.test fun name => (columns.lookup name).bind fun cells => cells[row]?

/-- The table with the cells at some places. -/
def pick (table : Table) (places : List Nat) : Option Table := do
  let columns ← table.cells.mapM fun cells => places.mapM fun row => cells[row]?
  return { table with columns := List.zipWith Column.mk table.definitions columns }

/-- The table with the rows that pass a filter, by the places of the rows. -/
def filterByPosition (table : Table) (asked : Filter) : Option (Except TableError Table) :=
  match table.positionsOf asked.columns with
  | .ok positions => do
      let columns ← positions.mapM fun entry =>
        (table.cells[entry.2]?).map fun cells => (entry.1, cells)
      let kept ← table.pick (table.placesThat asked columns)
      return .ok kept
  | .error fault => some (.error fault)

/-- The columns of lines of texts. -/
def turned (width : Nat) (lines : List (List String)) : List (List String) :=
  (List.range width).map fun position => lines.filterMap fun texts => texts[position]?

/-- Shows so many rows of a table, each taken by its place. -/
def renderByPosition (table : Table) (limit truncation : Nat) : Option String := do
  let shown := min table.rowCount limit
  let rows ← (List.range shown).mapM table.row?
  let header := table.definitions.map fun definition => Text.escapeMeta definition.name
  let lines := rows.map fun row => row.map (cellText truncation)
  return draw (turned header.length (header :: lines)) shown (truncation != 0)
    ++ footer shown table.rowCount

/-! ### Columns -/

theorem findIdx?_definitions (table : Table) (name : String) :
    table.definitions.findIdx? (·.name == name) =
      table.columns.findIdx? (·.definition.name == name) := by
  rw [definitions, List.findIdx?_map]
  rfl

/-- The position of a name is that of the column that is found for it. -/
theorem positionOf_eq_ok_iff {table : Table} {name : String} {position : Nat} :
    table.positionOf name = .ok position ↔
      table.definitions.findIdx? (·.name == name) = some position := by
  rw [positionOf]
  cases table.definitions.findIdx? (·.name == name) <;> simp

theorem positionOf_eq_error_iff {table : Table} {name : String} {fault : TableError} :
    table.positionOf name = .error fault ↔ table.column name = .error fault := by
  rw [column_eq_error_iff, positionOf]
  cases found : table.definitions.findIdx? (·.name == name) with
  | none =>
      have notThere : name ∉ table.columnNames := by
        simpa [columnNames] using found
      simp [notThere, eq_comm]
  | some position =>
      have there : name ∈ table.columnNames := by
        rcases List.findIdx?_eq_some_iff_getElem.mp found with ⟨inside, isName, _⟩
        rw [columnNames, List.mem_map]
        exact ⟨table.definitions[position], List.getElem_mem inside, by simpa using isName⟩
      simp [there]

/-- The column that is found for a name is at the position of the name. -/
theorem getElem?_of_positionOf {table : Table} {name : String} {position : Nat}
    (isPosition : table.positionOf name = .ok position) :
    ∃ column, table.column name = .ok column ∧ table.columns[position]? = some column := by
  cases isColumn : table.column name with
  | error fault =>
      rw [positionOf_eq_error_iff.mpr isColumn] at isPosition
      cases isPosition
  | ok column =>
      refine ⟨column, rfl, ?_⟩
      have found := find?_of_column isColumn
      rw [positionOf_eq_ok_iff, findIdx?_definitions] at isPosition
      rwa [List.find?_eq_bind_findIdx?_getElem?, isPosition] at found

theorem definitionAt_eq (table : Table) (name : String) :
    table.definitionAt name = some ((table.column name).map (·.definition)) := by
  rw [definitionAt]
  cases isPosition : table.positionOf name with
  | error fault => rw [positionOf_eq_error_iff.mp isPosition]; rfl
  | ok position =>
      rcases getElem?_of_positionOf isPosition with ⟨column, isColumn, isAt⟩
      simp [isColumn, definitions, isAt, Except.map]

theorem cellsAtName_eq (table : Table) (name : String) :
    table.cellsAtName name = some ((table.column name).map (·.cells)) := by
  rw [cellsAtName]
  cases isPosition : table.positionOf name with
  | error fault => rw [positionOf_eq_error_iff.mp isPosition]; rfl
  | ok position =>
      rcases getElem?_of_positionOf isPosition with ⟨column, isColumn, isAt⟩
      simp [isColumn, cells, isAt, Except.map]

/-! ### Rows -/

/-- Steps that all come to something come to what they come to. -/
theorem mapM_eq_filterMap {α β : Type} {step : α → Option β} {items : List α}
    (areSome : ∀ item ∈ items, (step item).isSome) :
    items.mapM step = some (items.filterMap step) := by
  induction items with
  | nil => rfl
  | cons item items ih =>
      rw [List.forall_mem_cons] at areSome
      rcases Option.isSome_iff_exists.mp areSome.1 with ⟨result, isResult⟩
      simp [isResult, ih areSome.2]

theorem row?_eq {table : Table} (rectangular : table.IsRectangular) {index : Nat}
    (inside : index < table.rowCount) : table.row? index = some (cellsAt index table.cells) := by
  have areSome : ∀ column ∈ table.columns, (column.cells[index]?).isSome := by
    intro column columnMem
    have isHeight := rectangular.heights column.cells (List.mem_map_of_mem columnMem)
    simpa [isHeight] using inside
  rw [row?, mapM_eq_filterMap areSome, cells, cellsAt, List.filterMap_map]
  rfl

theorem rows_of_row? {table : Table} (rectangular : table.IsRectangular) {count : Nat}
    (inside : count ≤ table.rowCount) :
    (List.range count).mapM table.row? = some (table.rows.take count) := by
  have areRows : ∀ index ∈ List.range count,
      table.row? index = some (cellsAt index table.cells) := by
    intro index indexMem
    exact row?_eq rectangular ((List.mem_range.mp indexMem).trans_le inside)
  have areSome : ∀ index ∈ List.range count, (table.row? index).isSome := by
    intro index indexMem
    rw [areRows index indexMem]
    rfl
  rw [mapM_eq_filterMap areSome, List.filterMap_congr areRows, rows_eq, columnsOf, ← List.map_take,
    List.take_range, min_eq_left inside]
  exact congrArg some (congrFun List.filterMap_eq_map' _)

/-! ### Filtering -/

theorem positionOf_of_mem {table : Table} {name : String} (there : name ∈ table.columnNames) :
    table.positionOf name = .ok (table.definitions.findIdx (·.name == name)) := by
  rw [positionOf_eq_ok_iff, List.findIdx?_eq_some_iff_findIdx_eq]
  refine ⟨?_, rfl⟩
  rw [List.findIdx_lt_length]
  simpa [columnNames] using there

/-- Names have positions unless one is not there, and the first such is named. -/
theorem positionsOf_eq (table : Table) (names : List String) :
    table.positionsOf names =
      match names.find? fun name => !table.columnNames.contains name with
      | some name => .error (.invalid s!"column not found: {name}")
      | none => .ok (names.map fun name => (name, table.definitions.findIdx (·.name == name))) := by
  rw [positionsOf]
  induction names with
  | nil => rfl
  | cons name rest ih =>
      rw [List.mapM_cons, ih]
      by_cases there : name ∈ table.columnNames
      · rw [positionOf_of_mem there, List.find?_cons_of_neg (by simpa using there)]
        cases rest.find? fun name => !table.columnNames.contains name <;> rfl
      · have notThere := positionOf_eq_error_iff.mpr (column_eq_error_iff.mpr ⟨there, rfl⟩)
        rw [notThere, List.find?_cons_of_pos (by simpa using there)]
        rfl

/-- The items at the places that pass are those that are marked to pass. -/
theorem filterMap_places {α : Type} (passes : Nat → Bool) (items : List α) :
    ((List.range items.length).filter passes).filterMap (fun index => items[index]?) =
      keep ((List.range items.length).map passes) items := by
  induction items generalizing passes with
  | nil => rfl
  | cons item items ih =>
      have inRest := ih (passes ∘ Nat.succ)
      rw [List.length_cons, List.range_succ_eq_map, List.map_cons, List.map_map, keep, ← inRest,
        List.filter_cons, List.filter_map]
      cases passes 0 <;> simp [List.filterMap_map, Function.comp_def]

theorem pick_eq {table : Table} (rectangular : table.IsRectangular) (passes : Nat → Bool) :
    table.pick ((List.range table.rowCount).filter passes) =
      some (table.derive (keep ((List.range table.rowCount).map passes))) := by
  have areKept : ∀ cells ∈ table.cells,
      ((List.range table.rowCount).filter passes).mapM (fun row => cells[row]?) =
        some (keep ((List.range table.rowCount).map passes) cells) := by
    intro cells cellsMem
    have isHeight := rectangular.heights cells cellsMem
    rw [← isHeight, ← filterMap_places]
    apply mapM_eq_filterMap
    intro row rowMem
    have inside := List.mem_range.mp (List.mem_filter.mp rowMem).1
    simpa using inside
  have areSome : ∀ cells ∈ table.cells,
      (((List.range table.rowCount).filter passes).mapM fun row => cells[row]?).isSome := by
    intro cells cellsMem
    rw [areKept cells cellsMem]
    rfl
  rw [pick, mapM_eq_filterMap areSome, List.filterMap_congr areKept, List.filterMap_eq_map']
  simp [derive, definitions, cells, List.zipWith_map, List.zipWith_self]

/-- What is at the positions of names are the cells of their columns. -/
theorem exists_columns {table : Table} {names : List String}
    (areThere : ∀ name ∈ names, name ∈ table.columnNames) :
    ∃ columns : List (String × List Cell),
      (names.map fun name => (name, table.definitions.findIdx (·.name == name))).mapM
        (fun entry => (table.cells[entry.2]?).map fun cells => (entry.1, cells)) = some columns ∧
      ∀ name ∈ names, ∃ column,
        table.column name = .ok column ∧ columns.lookup name = some column.cells := by
  induction names with
  | nil => exact ⟨[], rfl, by simp⟩
  | cons name rest ih =>
      rw [List.forall_mem_cons] at areThere
      rcases getElem?_of_positionOf (positionOf_of_mem areThere.1) with ⟨column, isColumn, isAt⟩
      rcases ih areThere.2 with ⟨columns, areColumns, areFound⟩
      refine ⟨(name, column.cells) :: columns, ?_, ?_⟩
      · rw [List.map_cons, List.mapM_cons, areColumns, cells, List.getElem?_map, isAt]
        rfl
      · intro other otherMem
        by_cases isName : other = name
        · subst isName
          exact ⟨column, isColumn, by simp⟩
        · rcases areFound other (List.mem_of_ne_of_mem isName otherMem) with
            ⟨found, isFound, isLookedUp⟩
          refine ⟨found, isFound, ?_⟩
          rw [List.lookup_cons, beq_eq_false_iff_ne.mpr isName]
          exact isLookedUp

theorem filterByPosition_eq {table : Table} (rectangular : table.IsRectangular) (asked : Filter) :
    table.filterByPosition asked = some (table.filter asked) := by
  have positions := positionsOf_eq table asked.columns
  rw [← missing?] at positions
  rw [filterByPosition, positions, filter_eq]
  cases noneMissing : table.missing? asked with
  | some name => rfl
  | none =>
      have areThere : ∀ name ∈ asked.columns, name ∈ table.columnNames := by
        intro name nameMem
        exact missing?_eq_none_iff.mp noneMissing name (Filter.mem_columns_iff.mp nameMem)
      rcases exists_columns areThere with ⟨columns, areColumns, areFound⟩
      -- the cells that the filter asks for are those of the row, whichever way they are found
      have sameMarks :
          (List.range table.rowCount).map (fun row =>
            asked.test fun name => (columns.lookup name).bind fun cells => cells[row]?) =
          table.rows.map fun row => asked.test (cellOf table.columnNames row) := by
        rw [rows_eq, columnsOf, List.map_map]
        apply List.map_congr_left
        intro row rowMem
        apply Filter.test_congr
        intro name asks
        rcases areFound name (Filter.mem_columns_iff.mpr asks) with ⟨column, isColumn, isLookedUp⟩
        have isRow : table.rows[row]? = some (cellsAt row table.cells) := by
          rw [rows_eq, getElem?_columnsOf (List.mem_range.mp rowMem)]
        rcases cellOf_row rectangular isColumn isRow with ⟨cell, inColumn, inRow⟩
        rw [isLookedUp, Option.bind_some, inColumn, inRow]
      simp only [areColumns, placesThat, Option.bind_eq_bind, Option.bind_some,
        pick_eq rectangular, sameMarks, sieve]
      rfl

/-! ### Showing -/

theorem getElem?_turned {width position : Nat} (inside : position < width)
    (lines : List (List String)) :
    (turned width lines)[position]? = some (lines.filterMap fun texts => texts[position]?) := by
  simp [turned, inside]

/-- The lines of a table are made of the texts of its columns. -/
theorem turned_eq {table : Table} (rectangular : table.IsRectangular) (count : Nat)
    (text : Cell → String) :
    turned table.definitions.length
        (table.definitions.map (fun definition => Text.escapeMeta definition.name) ::
          (table.rows.take count).map fun row => row.map text) =
      table.columns.map fun column =>
        Text.escapeMeta column.definition.name :: (column.cells.take count).map text := by
  have headRectangular : (table.head count).IsRectangular :=
    rectangular.derive fun cells others sameLength => by
      rw [List.length_take, List.length_take, sameLength]
  have headCells := headRectangular.cells_eq
  rw [rows_head, head, cells_derive, definitions_derive] at headCells
  apply List.ext_getElem?
  intro position
  by_cases inside : position < table.columns.length
  · have isColumn : table.columns[position]? = some table.columns[position] :=
      List.getElem?_eq_getElem inside
    have isDefined : position < table.definitions.length := by simpa [definitions] using inside
    have cellsThere : table.columns[position].cells.take count =
        cellsAt position (table.rows.take count) := by
      have isThere := congrArg (·[position]?) headCells
      simpa [getElem?_columnsOf isDefined, cells, isColumn] using isThere
    have isName :
        (table.definitions.map fun definition => Text.escapeMeta definition.name)[position]? =
          some (Text.escapeMeta table.columns[position].definition.name) := by
      simp [definitions, isColumn]
    rw [getElem?_turned isDefined, List.getElem?_map, isColumn, Option.map_some, cellsThere,
      List.filterMap_cons, isName, List.filterMap_map, cellsAt, List.map_filterMap]
    simp only [Function.comp_def, List.getElem?_map]
  · simp [turned, definitions, inside]

theorem renderByPosition_eq {table : Table} (rectangular : table.IsRectangular)
    (limit truncation : Nat) :
    table.renderByPosition limit truncation = some (table.render limit truncation) := by
  have areRows := rows_of_row? rectangular (min_le_left table.rowCount limit)
  simp only [renderByPosition, areRows, Option.bind_eq_bind, Option.bind_some, List.length_map,
    turned_eq rectangular, render]
  rfl

/-- A table has as many columns as definitions, with different names that are not empty, and all
of one height, however it was had.  So what is read of it by positions never leaves it: not the
definition or the cells of a name, not the rows that pass a filter, not those that are shown.
The head of a table has its first rows, as many as are asked for or all. -/
theorem tables_stay_rectangular {table : Table} (reachable : table.Reachable) :
    table.IsRectangular ∧
      (∀ name, table.definitionAt name = some ((table.column name).map (·.definition))) ∧
      (∀ name, table.cellsAtName name = some ((table.column name).map (·.cells))) ∧
      (∀ asked, table.filterByPosition asked = some (table.filter asked)) ∧
      (∀ limit truncation,
        table.renderByPosition limit truncation = some (table.render limit truncation)) ∧
      ∀ count, (table.head count).rowCount = min count table.rowCount ∧
        (table.head count).rows = table.rows.take count := by
  have rectangular := reachable.isRectangular
  refine ⟨rectangular, definitionAt_eq table, cellsAtName_eq table,
    filterByPosition_eq rectangular, renderByPosition_eq rectangular, ?_⟩
  intro count
  exact ⟨rowCount_head table count, rows_head table count⟩

/-- The head of a table that was filtered and given an attribute. -/
theorem head_of_filtered_is_rectangular :
    let ids : Column := ⟨⟨"id", .int, none, .normal⟩, [.null, .int 2, .int 3]⟩
    let source : Table := ⟨none, [ids], []⟩
    let kept := (source.sieve (.condition ⟨"id", .notEqual, .int 2⟩)).withAttributes [("by", "id")]
    let first := kept.head 1
    first.Reachable ∧ first.IsRectangular ∧ first.rows = [[.int 3]] ∧
      first.definitionAt "id" = some (.ok ids.definition) ∧
      first.cellsAtName "ids" = some (.error (.invalid "column not found: ids")) ∧
      first.renderByPosition 5 0 = some (first.render 5 0) := by
  intro ids source kept first
  have isTable : ofColumns none [ids] = .ok source := by rfl
  have isSource : source.Reachable := by
    refine .ofColumns ?_ isTable
    intro column columnMem
    rw [List.mem_singleton.mp columnMem]
    exact ⟨"id", .int, none, .normal, ids.cells, by rfl⟩
  have isKept : source.filter (.condition ⟨"id", .notEqual, .int 2⟩) =
      .ok (source.sieve (.condition ⟨"id", .notEqual, .int 2⟩)) := by rfl
  have reachable : first.Reachable := ((isSource.filter isKept).withAttributes _).head 1
  rcases tables_stay_rectangular reachable with ⟨rectangular, definition, cells, _, shown, _⟩
  exact ⟨reachable, rectangular, by rfl, definition "id", cells "ids", shown 5 0⟩

end JsonTables.Table
