import JsonTables.Proofs.ConvertedCells
import JsonTables.Proofs.Ingestion

/-!
# Rectangular tables

A table is checked when it is made, and what is derived of it is not checked again.  It need
not be: every column loses the cells of the same rows, so columns with different names and of
one height stay so.
-/

namespace JsonTables

theorem Text.firstRepeated?_eq_none_iff {before texts : List String} :
    firstRepeated? before texts = none ↔ (∀ text ∈ texts, text ∉ before) ∧ texts.Nodup := by
  induction texts generalizing before with
  | nil => simp [firstRepeated?]
  | cons text rest ih =>
      by_cases repeated : text ∈ before
      · simp [firstRepeated?, repeated]
      · simp only [firstRepeated?, List.contains_iff_mem, repeated, if_false, ih, List.mem_cons,
          not_or, List.nodup_cons]
        grind

namespace ColumnDefinition

theorem name_of_eq_ok {name : String} {type : DataType} {component : Option DataType}
    {kind : ColumnKind} {definition : ColumnDefinition}
    (isDefined : of name type component kind = .ok definition) :
    definition.name = name ∧ name ≠ "" := by
  simp only [of] at isDefined
  split at isDefined
  · cases isDefined
  · rename_i nonempty
    simp only [Except.bind_eq_ok_iff, Except.pure_eq_ok_iff] at isDefined
    rcases isDefined with ⟨_, _, _, _, rfl⟩
    exact ⟨rfl, by simpa using nonempty⟩

end ColumnDefinition

/-- Whether a column was made of a name, a type and cells. -/
def Column.IsMade (column : Column) : Prop :=
  ∃ name type component kind cells, Column.of name type component kind cells = .ok column

theorem Column.IsMade.named {column : Column} (isMade : column.IsMade) :
    column.definition.name ≠ "" := by
  rcases isMade with ⟨name, type, component, kind, cells, isMade⟩
  simp only [Column.of, Except.mapError_eq_ok_iff, Except.bind_eq_ok_iff,
    Except.pure_eq_ok_iff] at isMade
  rcases isMade with ⟨definition, isDefined, results, _, rfl⟩
  rcases ColumnDefinition.name_of_eq_ok isDefined with ⟨rfl, nonempty⟩
  exact nonempty

theorem Ingest.named_of_definitionsOf {layout : Layout} {definitions : List ColumnDefinition}
    (defined : definitionsOf layout = .ok definitions) :
    ∀ definition ∈ definitions, definition.name ≠ "" := by
  have eachNamed : (∀ definition ∈ definitions, definition.name ≠ "") ↔
      ∀ pair ∈ layout.names.zip layout.columns, True := by
    apply forall_mem_iff_of_forall₂ (Except.mapM_eq_ok_iff.mp defined)
    intro pair definition isDefined
    rcases ColumnDefinition.name_of_eq_ok isDefined with ⟨isName, nonempty⟩
    exact iff_true_intro (isName ▸ nonempty)
  exact eachNamed.mpr fun _ _ => trivial

namespace Table

/-- Tables that can be had: made of columns or of documents, or derived of one that can. -/
inductive Reachable : Table → Prop
  | ofColumns {columns : List Column} {table : Table} (areMade : ∀ column ∈ columns, column.IsMade)
      (isTable : Table.ofColumns none columns = .ok table) : Reachable table
  | ingested {ingest : Ingest} {files : Files} {table : Table}
      (isTable : ingest.run files = .ok table) : Reachable table
  | fromColumn {source table : Table} {name : Option String} {sketch : Sketch} {chunkSize : Nat}
      (reachable : Reachable source)
      (isTable : Ingest.fromColumn source name sketch chunkSize = .ok table) : Reachable table
  | filter {source table : Table} {asked : Filter} (reachable : Reachable source)
      (isTable : source.filter asked = .ok table) : Reachable table
  | head {source : Table} (reachable : Reachable source) (count : Nat) :
      Reachable (source.head count)
  | withAttributes {source : Table} (reachable : Reachable source)
      (attributes : List (String × String)) : Reachable (source.withAttributes attributes)

/-- As many columns as definitions, with different names that are not empty, each with a cell
for every row. -/
structure IsRectangular (table : Table) : Prop where
  columns : table.cells.length = table.definitions.length
  named : ∀ name ∈ table.columnNames, name ≠ ""
  distinct : table.columnNames.Nodup
  heights : ∀ cells ∈ table.cells, cells.length = table.rowCount

/-! ### Making -/

theorem checkHeights_eq_ok_iff {columns : List Column} :
    checkHeights columns = .ok () ↔ ∀ column ∈ columns, column.cells.length = height columns := by
  cases columns with
  | nil => simp [checkHeights]
  | cons first rest =>
      simp only [checkHeights, height, List.forall_mem_cons, true_and]
      cases found : rest.find? fun column => column.cells.length != first.cells.length with
      | none => simpa using found
      | some column =>
          have differs := List.find?_some found
          have columnMem := List.mem_of_find?_eq_some found
          simp only [bne_iff_ne] at differs
          simp only [reduceCtorEq, false_iff]
          intro same
          exact differs (same column columnMem)

/-- Columns that have names make a rectangular table, if they make one. -/
theorem isRectangular_of_ofColumns {name : Option String} {columns : List Column} {table : Table}
    (named : ∀ column ∈ columns, column.definition.name ≠ "")
    (isTable : ofColumns name columns = .ok table) : table.IsRectangular := by
  simp only [ofColumns, Except.check_bind_eq_ok_iff, Except.pure_eq_ok_iff] at isTable
  rcases isTable with ⟨namesPass, heightsPass, rfl⟩
  have unrepeated : Text.firstRepeated? [] (columns.map (·.definition.name)) = none := by
    rw [checkNames] at namesPass
    split at namesPass
    · cases namesPass
    · assumption
  constructor
  · simp [cells, definitions]
  · simpa [columnNames, definitions] using named
  · simp only [columnNames, definitions, List.map_map]
    exact (Text.firstRepeated?_eq_none_iff.mp unrepeated).2
  · simpa [cells, rowCount] using checkHeights_eq_ok_iff.mp heightsPass

theorem isRectangular_of_tableOf {name : Option String} {definitions : List ColumnDefinition}
    {cells : List (List Cell)} {table : Table}
    (named : ∀ definition ∈ definitions, definition.name ≠ "")
    (isTable : Ingest.tableOf name definitions cells = .ok table) : table.IsRectangular := by
  rw [Ingest.tableOf] at isTable
  split at isTable
  · cases isTable
  · refine isRectangular_of_ofColumns ?_ isTable
    intro column columnMem
    rw [← List.map_uncurry_zip_eq_zipWith] at columnMem
    rcases List.mem_map.mp columnMem with ⟨⟨definition, columnCells⟩, pairMem, rfl⟩
    exact named definition (List.of_mem_zip pairMem).1

/-! ### Deriving -/

@[simp]
theorem definitions_derive (table : Table) (change : List Cell → List Cell) :
    (table.derive change).definitions = table.definitions := by
  simp [derive, definitions]

@[simp]
theorem columnNames_derive (table : Table) (change : List Cell → List Cell) :
    (table.derive change).columnNames = table.columnNames := by
  simp [columnNames]

@[simp]
theorem cells_derive (table : Table) (change : List Cell → List Cell) :
    (table.derive change).cells = table.cells.map change := by
  simp [derive, cells]

theorem rowCount_eq (table : Table) :
    table.rowCount = (table.cells.head?.map List.length).getD 0 := by
  unfold rowCount cells
  cases table.columns <;> rfl

/-- A change that makes columns of one height from columns of one height keeps a table
rectangular. -/
theorem IsRectangular.derive {table : Table} (rectangular : table.IsRectangular)
    {change : List Cell → List Cell}
    (evenly : ∀ cells others, cells.length = others.length →
      (change cells).length = (change others).length) :
    (table.derive change).IsRectangular := by
  constructor
  · simpa using rectangular.columns
  · simpa using rectangular.named
  · simpa using rectangular.distinct
  · have heights := rectangular.heights
    rw [rowCount_eq] at heights ⊢
    rw [cells_derive, List.forall_mem_map]
    intro cells cellsMem
    cases isCells : table.cells with
    | nil => simp [isCells] at cellsMem
    | cons first rest =>
        simp only [isCells, List.head?_cons, Option.map_some, Option.getD_some] at heights
        simpa using evenly cells first (heights cells (isCells ▸ cellsMem))

theorem length_keep {α β : Type} (marks : List Bool) {items : List α} {others : List β}
    (sameLength : items.length = others.length) :
    (keep marks items).length = (keep marks others).length := by
  induction marks generalizing items others with
  | nil => rfl
  | cons mark marks ih =>
      cases items with
      | nil =>
          cases List.length_eq_zero_iff.mp sameLength.symm
          rfl
      | cons item items =>
          cases others with
          | nil => simp at sameLength
          | cons other others =>
              have restLength := @ih items others (by simpa using sameLength)
              cases mark <;> simp [keep, restLength]

/-- A table that is filtered is derived by marks on its rows. -/
theorem eq_derive_of_filter {table kept : Table} {asked : Filter}
    (isKept : table.filter asked = .ok kept) :
    kept = table.derive
      (keep (table.rows.map fun row => asked.test (cellOf table.columnNames row))) := by
  simp only [filter, Except.bind_eq_ok_iff, Except.pure_eq_ok_iff] at isKept
  rcases isKept with ⟨_, _, rfl⟩
  rfl

/-! ### All tables -/

/-- Each way to a table leads to a rectangular one. -/
theorem Reachable.isRectangular {table : Table} (reachable : table.Reachable) :
    table.IsRectangular := by
  induction reachable with
  | ofColumns areMade isTable =>
      apply isRectangular_of_ofColumns _ isTable
      intro column columnMem
      exact (areMade column columnMem).named
  | ingested isTable =>
      simp only [Ingest.run, Except.bind_eq_ok_iff, Except.pure_eq_ok_iff, Prod.exists] at isTable
      rcases isTable with ⟨_, _, layout, definitions, made, parts, _, table, isTable, rfl⟩
      simp only [Ingest.layoutOf, Except.bind_eq_ok_iff, Except.pure_eq_ok_iff,
        Prod.mk.injEq] at made
      rcases made with ⟨_, _, _, _, _, isDefined, rfl, rfl⟩
      -- attributes are no part of what makes a table rectangular
      rcases isRectangular_of_tableOf (Ingest.named_of_definitionsOf isDefined) isTable with
        ⟨columns, named, distinct, heights⟩
      exact ⟨columns, named, distinct, heights⟩
  | fromColumn _ isTable _ =>
      rw [Ingest.fromColumn] at isTable
      split at isTable
      · cases isTable
      · simp only [Except.bind_eq_ok_iff, Prod.exists] at isTable
        rcases isTable with ⟨_, _, layout, definitions, made, buffer, _, isTable⟩
        simp only [Ingest.layoutOf, Except.bind_eq_ok_iff, Except.pure_eq_ok_iff,
          Prod.mk.injEq] at made
        rcases made with ⟨_, _, _, _, _, isDefined, rfl, rfl⟩
        exact isRectangular_of_tableOf (Ingest.named_of_definitionsOf isDefined) isTable
  | filter _ isTable rectangular =>
      rw [eq_derive_of_filter isTable]
      exact rectangular.derive fun _ _ sameLength => length_keep _ sameLength
  | head _ count rectangular =>
      apply rectangular.derive
      intro cells others sameLength
      rw [List.length_take, List.length_take, sameLength]
  | withAttributes _ attributes rectangular =>
      rcases rectangular with ⟨columns, named, distinct, heights⟩
      exact ⟨columns, named, distinct, heights⟩

/-! ### Rows -/

/-- The rows of columns are the columns the other way round. -/
theorem rowsOf_eq_columnsOf (count : Nat) (columns : List (List Cell)) :
    rowsOf count columns = columnsOf count columns := by
  induction count generalizing columns with
  | zero => rfl
  | succ count ih =>
      have heads : columns.filterMap List.head? = cellsAt 0 columns := by
        apply List.filterMap_congr
        intro cells _
        exact List.head?_eq_getElem?
      have tails : ∀ row, cellsAt row (columns.map List.tail) = cellsAt (row + 1) columns := by
        intro row
        rw [cellsAt, List.filterMap_map]
        apply List.filterMap_congr
        intro cells _
        simp
      simp only [rowsOf, ih, columnsOf, List.range_succ_eq_map, List.map_cons, List.map_map, heads,
        tails, Function.comp_def]

theorem rows_eq (table : Table) : table.rows = columnsOf table.rowCount table.cells :=
  rowsOf_eq_columnsOf table.rowCount table.cells

@[simp]
theorem length_rows (table : Table) : table.rows.length = table.rowCount := by
  simp [rows_eq]

theorem rowCount_head (table : Table) (count : Nat) :
    (table.head count).rowCount = min count table.rowCount := by
  rw [rowCount_eq, rowCount_eq, head, cells_derive]
  cases table.cells with
  | nil => simp
  | cons cells rest => simp

/-- The rows at the head of a table are its first rows, in order. -/
theorem rows_head (table : Table) (count : Nat) :
    (table.head count).rows = table.rows.take count := by
  rw [rows_eq, rows_eq, rowCount_head, head, cells_derive, columnsOf, columnsOf, ← List.map_take,
    List.take_range]
  apply List.map_congr_left
  intro row rowMem
  have inHead : row < count := by
    rw [List.mem_range] at rowMem
    omega
  rw [cellsAt, List.filterMap_map]
  apply List.filterMap_congr
  intro cells _
  simp [inHead]

end Table

end JsonTables
