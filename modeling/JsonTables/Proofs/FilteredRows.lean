import JsonTables.Proofs.RectangularTables

/-!
# Filtered rows

A filter sees of a row only the cells of the columns that it asks for, and a table that is
filtered has all of them.  What is left of the table are the rows that pass: every column loses
the cells of the same rows.
-/

namespace JsonTables

namespace Filter

section

variable {motive : Filter → Prop}
  (any : ∀ filters, (∀ filter ∈ filters, motive filter) → motive (.any filters))
  (all : ∀ filters, (∀ filter ∈ filters, motive filter) → motive (.all filters))
  (not : ∀ filter, motive filter → motive (.not filter))
  (pattern : ∀ column known mode, motive (.pattern column known mode))
  (text : ∀ column asked, motive (.text column asked))
  (condition : ∀ asked, motive (.condition asked))

include any all not pattern text condition

set_option linter.unusedSectionVars false in
mutual

/-- Induction on a filter; one may assume the statement for every filter in it. -/
@[elab_as_elim, induction_eliminator]
theorem induction : (filter : Filter) → motive filter
  | .any filters => any filters (inductionEach filters)
  | .all filters => all filters (inductionEach filters)
  | .not filter => not filter (induction filter)
  | .pattern column known mode => pattern column known mode
  | .text column asked => text column asked
  | .condition asked => condition asked
termination_by structural filter => filter

theorem inductionEach : (filters : List Filter) → ∀ filter ∈ filters, motive filter
  | [] => by simp
  | filter :: rest => by
      rw [List.forall_mem_cons]
      exact ⟨induction filter, inductionEach rest⟩
termination_by structural filters => filters

end

end

/-! ### Columns -/

/-- Whether a column is asked for somewhere in a filter. -/
inductive Asks (name : String) : Filter → Prop
  | any {filters : List Filter} {filter : Filter} (filterMem : filter ∈ filters)
      (asks : Asks name filter) : Asks name (.any filters)
  | all {filters : List Filter} {filter : Filter} (filterMem : filter ∈ filters)
      (asks : Asks name filter) : Asks name (.all filters)
  | not {filter : Filter} (asks : Asks name filter) : Asks name (.not filter)
  | pattern (known : Pattern) (mode : PatternMode) : Asks name (.pattern name known mode)
  | text (test : TextTest) : Asks name (.text name test)
  | condition (comparison : Comparison) (value : Cell) :
      Asks name (.condition ⟨name, comparison, value⟩)

theorem mentionsOf_eq_flatMap (filters : List Filter) :
    mentionsOf filters = filters.flatMap mentions := by
  induction filters with
  | nil => rfl
  | cons filter rest ih => rw [mentionsOf, ih, List.flatMap_cons]

theorem mem_mentions_iff {name : String} {filter : Filter} :
    name ∈ filter.mentions ↔ filter.Asks name := by
  constructor
  · intro mentioned
    induction filter with
    | any filters ih =>
        rw [mentions, mentionsOf_eq_flatMap, List.mem_flatMap] at mentioned
        rcases mentioned with ⟨filter, filterMem, mentioned⟩
        exact .any filterMem (ih filter filterMem mentioned)
    | all filters ih =>
        rw [mentions, mentionsOf_eq_flatMap, List.mem_flatMap] at mentioned
        rcases mentioned with ⟨filter, filterMem, mentioned⟩
        exact .all filterMem (ih filter filterMem mentioned)
    | not filter ih => exact .not (ih mentioned)
    | pattern column known mode =>
        cases List.mem_singleton.mp mentioned
        exact .pattern known mode
    | text column test =>
        cases List.mem_singleton.mp mentioned
        exact .text test
    | condition asked =>
        cases List.mem_singleton.mp mentioned
        exact .condition asked.comparison asked.value
  · intro asks
    induction asks with
    | any filterMem _ ih | all filterMem _ ih =>
        rw [mentions, mentionsOf_eq_flatMap]
        exact List.mem_flatMap_of_mem filterMem ih
    | not _ ih => exact ih
    | pattern _ _ | text _ | condition _ _ => exact List.mem_singleton_self name

/-- What is found first among known names and names that are added once is found first among
all of them. -/
theorem find?_foldl_once (wanted : String → Bool) (known names : List String) :
    (names.foldl (fun known name =>
        if known.contains name then known else known ++ [name]) known).find? wanted =
      (known ++ names).find? wanted := by
  induction names generalizing known with
  | nil => simp
  | cons name rest ih =>
      rw [List.foldl_cons, ih]
      by_cases isKnown : name ∈ known
      · rw [if_pos (by simpa using isKnown), List.find?_append, List.find?_append, List.find?_cons]
        cases isWanted : wanted name with
        | false => rfl
        | true =>
            have found : (known.find? wanted).isSome :=
              List.find?_isSome.mpr ⟨name, isKnown, isWanted⟩
            rw [Option.or_of_isSome found, Option.or_of_isSome found]
      · rw [if_neg (by simpa using isKnown), List.append_assoc, List.singleton_append]

theorem find?_columns (asked : Filter) (wanted : String → Bool) :
    asked.columns.find? wanted = asked.mentions.find? wanted :=
  find?_foldl_once wanted [] asked.mentions

/-- The columns that are collected are those that are asked for. -/
theorem mem_columns_iff {name : String} {asked : Filter} :
    name ∈ asked.columns ↔ asked.Asks name := by
  have isFound : ∀ names : List String,
      (names.find? (· == name)).isSome = true ↔ name ∈ names := by
    intro names
    simp [List.find?_isSome]
  rw [← isFound, find?_columns, isFound, mem_mentions_iff]

/-! ### Tests -/

theorem testAny_eq_any (cell? : String → Option Cell) (filters : List Filter) :
    testAny cell? filters = filters.any (test cell?) := by
  induction filters with
  | nil => rfl
  | cons filter rest ih => rw [testAny, ih, List.any_cons]

theorem testAll_eq_all (cell? : String → Option Cell) (filters : List Filter) :
    testAll cell? filters = filters.all (test cell?) := by
  induction filters with
  | nil => rfl
  | cons filter rest ih => rw [testAll, ih, List.all_cons]

/-- A filter sees only the cells that it asks for. -/
theorem test_congr {cell? other? : String → Option Cell} {asked : Filter}
    (agree : ∀ name, asked.Asks name → cell? name = other? name) :
    asked.test cell? = asked.test other? := by
  induction asked with
  | any filters ih =>
      rw [test, test, testAny_eq_any, testAny_eq_any]
      have agreeEach : ∀ filter ∈ filters, filter.test cell? = filter.test other? := by
        intro filter filterMem
        apply ih filter filterMem
        intro name asks
        exact agree name (.any filterMem asks)
      simpa only [List.any_map, Function.id_comp] using
        congrArg (List.any · id) (List.map_congr_left agreeEach)
  | all filters ih =>
      rw [test, test, testAll_eq_all, testAll_eq_all]
      have agreeEach : ∀ filter ∈ filters, filter.test cell? = filter.test other? := by
        intro filter filterMem
        apply ih filter filterMem
        intro name asks
        exact agree name (.all filterMem asks)
      simpa only [List.all_map, Function.id_comp] using
        congrArg (List.all · id) (List.map_congr_left agreeEach)
  | not filter ih =>
      rw [test, test, ih fun name asks => agree name (.not asks)]
  | pattern column known mode => rw [test, test, agree column (.pattern known mode)]
  | text column test' => rw [test, test, agree column (.text test')]
  | condition asked =>
      rw [test, test, agree asked.column (.condition asked.comparison asked.value)]

end Filter

namespace Table

/-! ### Rows that are kept -/

theorem head?_keep_true {α : Type} (marks : List Bool) (items : List α) :
    (keep (true :: marks) items).head? = items.head? := by
  cases items <;> rfl

theorem tail_keep_true {α : Type} (marks : List Bool) (items : List α) :
    (keep (true :: marks) items).tail = keep marks items.tail := by
  cases items with
  | nil => cases marks <;> rfl
  | cons item items => rfl

theorem keep_false {α : Type} (marks : List Bool) (items : List α) :
    keep (false :: marks) items = keep marks items.tail := by
  cases items with
  | nil => cases marks <;> rfl
  | cons item items => rfl

theorem keep_map {α : Type} (passes : α → Bool) (items : List α) :
    keep (items.map passes) items = items.filter passes := by
  induction items with
  | nil => rfl
  | cons item items ih => rw [List.map_cons, keep, ih, List.filter_cons]

/-- Columns that lose the cells at the same places lose the rows there. -/
theorem rowsOf_keep (marks : List Bool) (columns : List (List Cell)) :
    rowsOf (marks.count true) (columns.map (keep marks)) =
      keep marks (rowsOf marks.length columns) := by
  induction marks generalizing columns with
  | nil => rfl
  | cons mark marks ih =>
      have fromTails := ih (columns.map List.tail)
      rw [List.map_map] at fromTails
      cases mark with
      | true =>
          have heads : (columns.map (keep (true :: marks))).filterMap List.head? =
              columns.filterMap List.head? := by
            rw [List.filterMap_map]
            exact List.filterMap_congr fun column _ => head?_keep_true marks column
          have tails : (columns.map (keep (true :: marks))).map List.tail =
              columns.map (keep marks ∘ List.tail) := by
            rw [List.map_map]
            exact List.map_congr_left fun column _ => tail_keep_true marks column
          rw [List.count_cons_self, rowsOf, heads, tails, fromTails, List.length_cons, rowsOf, keep,
            if_pos rfl]
      | false =>
          have kept : columns.map (keep (false :: marks)) = columns.map (keep marks ∘ List.tail) :=
            List.map_congr_left fun column _ => keep_false marks column
          rw [List.count_cons_of_ne (by decide), kept, fromTails, List.length_cons, rowsOf, keep,
            if_neg (by decide)]

theorem length_keep_eq_count {α : Type} (marks : List Bool) (items : List α)
    (sameLength : marks.length = items.length) : (keep marks items).length = marks.count true := by
  induction marks generalizing items with
  | nil => rfl
  | cons mark marks ih =>
      cases items with
      | nil => simp at sameLength
      | cons item items =>
          have restLength := ih items (by simpa using sameLength)
          cases mark <;> simp [keep, restLength]

/-- The rows of a table that is derived by marks are the marked ones. -/
theorem rows_derive_keep (table : Table) (marks : List Bool)
    (areMarks : marks.length = table.rowCount) :
    (table.derive (keep marks)).rows = keep marks table.rows := by
  have kept : (table.derive (keep marks)).rowCount = marks.count true := by
    rw [rowCount_eq, cells_derive]
    rw [rowCount_eq] at areMarks
    cases isCells : table.cells with
    | nil =>
        rw [isCells] at areMarks
        simp [List.length_eq_zero_iff.mp areMarks]
    | cons cells rest =>
        rw [isCells] at areMarks
        simpa using length_keep_eq_count marks cells areMarks
  rw [rows, kept, cells_derive, rowsOf_keep, areMarks, rows]

theorem filterMap_getElem?_range {α : Type} (items : List α) :
    (List.range items.length).filterMap (fun index => items[index]?) = items := by
  induction items with
  | nil => rfl
  | cons item items ih => simpa [List.range_succ_eq_map, List.filterMap_map, Function.comp_def]

/-- Columns of one height are made of their rows again. -/
theorem columnsOf_columnsOf {height : Nat} {columns : List (List Cell)}
    (heights : ∀ cells ∈ columns, cells.length = height) :
    columnsOf columns.length (columnsOf height columns) = columns := by
  apply List.ext_getElem?
  intro position
  by_cases inside : position < columns.length
  · have column : columns[position]? = some columns[position] := List.getElem?_eq_getElem inside
    have isHeight := heights _ (List.getElem_mem inside)
    rw [getElem?_columnsOf inside, column, Option.some_inj, cellsAt, columnsOf, List.filterMap_map]
    have cellAt : ∀ row ∈ List.range height,
        ((fun cells : List Cell => cells[position]?) ∘ fun row => cellsAt row columns) row =
          columns[position][row]? := by
      intro row rowMem
      have areCells : (cellsAt row columns).map some = columns.map fun cells => cells[row]? := by
        apply map_some_cellsAt
        intro cells cellsMem
        rw [heights cells cellsMem]
        exact List.mem_range.mp rowMem
      have isCell := congrArg (·[position]?) areCells
      simp only [List.getElem?_map, column, Option.map_some] at isCell
      cases found : (cellsAt row columns)[position]? <;> simp_all
    rw [List.filterMap_congr cellAt, ← isHeight]
    exact filterMap_getElem?_range _
  · rw [List.getElem?_eq_none (by simpa using inside),
      List.getElem?_eq_none (by simpa using inside)]

theorem IsRectangular.cells_eq {table : Table} (rectangular : table.IsRectangular) :
    table.cells = columnsOf table.definitions.length table.rows := by
  rw [rows_eq, ← rectangular.columns, columnsOf_columnsOf rectangular.heights]

/-- Tables are told apart by their rows and by what they say of themselves. -/
theorem eq_of_rows {table other : Table} (rectangular : table.IsRectangular)
    (otherRectangular : other.IsRectangular) (name : table.name = other.name)
    (definitions : table.definitions = other.definitions)
    (attributes : table.attributes = other.attributes) (rows : table.rows = other.rows) :
    table = other := by
  have cells : table.cells = other.cells := by
    rw [rectangular.cells_eq, otherRectangular.cells_eq, definitions, rows]
  have columns : table.columns = other.columns := by
    have pairs : table.columns.map (fun column => (column.definition, column.cells)) =
        other.columns.map (fun column => (column.definition, column.cells)) := by
      rw [← List.zip_map', ← List.zip_map']
      exact congrArg₂ List.zip definitions cells
    apply List.map_injective_iff.mpr _ pairs
    rintro ⟨definition, cells⟩ ⟨otherDefinition, otherCells⟩ same
    simpa using same
  cases table
  cases other
  simp_all

/-! ### Columns of a name -/

theorem column_eq_error_iff {table : Table} {name : String} {fault : TableError} :
    table.column name = .error fault ↔
      name ∉ table.columnNames ∧ fault = .invalid s!"column not found: {name}" := by
  rw [column]
  cases found : table.columns.find? (·.definition.name == name) with
  | none =>
      have notThere : name ∉ table.columnNames := by
        simpa [columnNames, definitions] using found
      simp [notThere, eq_comm]
  | some column =>
      have there : name ∈ table.columnNames := by
        have isName := List.find?_some found
        have columnMem := List.mem_of_find?_eq_some found
        simp only [columnNames, definitions, List.map_map, List.mem_map]
        exact ⟨column, columnMem, by simpa using isName⟩
      simp [there]

theorem find?_of_column {table : Table} {name : String} {column : Column}
    (isColumn : table.column name = .ok column) :
    table.columns.find? (·.definition.name == name) = some column := by
  rw [Table.column] at isColumn
  split at isColumn
  · cases isColumn
    assumption
  · cases isColumn

theorem exists_column {table : Table} {name : String} (there : name ∈ table.columnNames) :
    ∃ column, table.column name = .ok column := by
  cases found : table.column name with
  | ok column => exact ⟨column, rfl⟩
  | error fault => exact absurd there (column_eq_error_iff.mp found).1

/-- The cell of a name in a row is that of the first column of the name. -/
theorem cellOf_cellsAt {columns : List Column} {row : Nat}
    (long : ∀ column ∈ columns, row < column.cells.length) (name : String) :
    cellOf (columns.map (·.definition.name)) (cellsAt row (columns.map (·.cells))) name =
      (columns.find? (·.definition.name == name)).bind (·.cells[row]?) := by
  induction columns with
  | nil => rfl
  | cons column rest ih =>
      rw [List.forall_mem_cons] at long
      have isCell : column.cells[row]? = some column.cells[row] := List.getElem?_eq_getElem long.1
      have inRest := ih long.2
      simp only [cellOf, cellsAt] at inRest
      simp only [cellOf, cellsAt, List.map_cons, List.filterMap_cons, isCell, List.zip_cons_cons,
        List.lookup_cons, List.find?_cons, BEq.comm (a := name)]
      cases isName : column.definition.name == name with
      | true => simp [isCell]
      | false => exact inRest

/-- In every row of a table, the cell of a name is that of the column of the name. -/
theorem cellOf_row {table : Table} (rectangular : table.IsRectangular) {name : String}
    {column : Column} (isColumn : table.column name = .ok column) {index : Nat} {row : List Cell}
    (isRow : table.rows[index]? = some row) :
    ∃ cell, column.cells[index]? = some cell ∧ cellOf table.columnNames row name = some cell := by
  rw [rows_eq] at isRow
  have inside : index < table.rowCount := by
    have inside := (List.getElem?_eq_some_iff.mp isRow).1
    simpa using inside
  rw [getElem?_columnsOf inside, Option.some_inj] at isRow
  have long : ∀ column ∈ table.columns, index < column.cells.length := by
    intro column columnMem
    rw [rectangular.heights column.cells (List.mem_map_of_mem columnMem)]
    exact inside
  have isCell := cellOf_cellsAt long name
  have found := find?_of_column isColumn
  rw [found, Option.bind_some] at isCell
  have inColumn := long column (List.mem_of_find?_eq_some found)
  have cellAt : column.cells[index]? = some column.cells[index] := List.getElem?_eq_getElem inColumn
  refine ⟨column.cells[index], cellAt, ?_⟩
  rw [← cellAt, ← isCell, ← isRow]
  simp [columnNames, definitions, cells, Function.comp_def]

/-! ### Filtering -/

/-- The first column that is asked for and that a table does not have. -/
def missing? (table : Table) (asked : Filter) : Option String :=
  asked.columns.find? fun name => !table.columnNames.contains name

theorem missing?_derive (table : Table) (change : List Cell → List Cell) (asked : Filter) :
    (table.derive change).missing? asked = table.missing? asked := by
  rw [missing?, missing?, columnNames_derive]

theorem missing?_all (table : Table) (asked other : Filter) :
    table.missing? (.all [asked, other]) = (table.missing? asked).or (table.missing? other) := by
  simp [missing?, Filter.find?_columns, Filter.mentions, Filter.mentionsOf, List.find?_append]

theorem missing?_not (table : Table) (asked : Filter) :
    table.missing? (.not asked) = table.missing? asked := by
  simp [missing?, Filter.find?_columns, Filter.mentions]

theorem missing?_eq_none_iff {table : Table} {asked : Filter} :
    table.missing? asked = none ↔ ∀ name, asked.Asks name → name ∈ table.columnNames := by
  simp [missing?, Filter.mem_columns_iff]

/-- The table with the rows that pass a filter, whether it has the columns or not. -/
def sieve (table : Table) (asked : Filter) : Table :=
  table.derive (keep (table.rows.map fun row => asked.test (cellOf table.columnNames row)))

theorem filter_eq (table : Table) (asked : Filter) :
    table.filter asked =
      match table.missing? asked with
      | some name => .error (.invalid s!"column not found: {name}")
      | none => .ok (table.sieve asked) := by
  rw [filter, missing?, sieve]
  generalize asked.columns = names
  induction names with
  | nil => rfl
  | cons name rest ih =>
      by_cases there : name ∈ table.columnNames
      · rcases exists_column there with ⟨column, isColumn⟩
        simpa [isColumn, there] using ih
      · have notFound := column_eq_error_iff.mpr ⟨there, rfl⟩
        simp [notFound, there]

theorem rows_sieve (table : Table) (asked : Filter) :
    (table.sieve asked).rows =
      table.rows.filter fun row => asked.test (cellOf table.columnNames row) := by
  rw [sieve, rows_derive_keep _ _ (by simp), keep_map]

/-- What a filter leaves of a table: the table itself, but for the rows that do not pass. -/
structure IsFiltered (table : Table) (asked : Filter) (kept : Table) : Prop where
  name : kept.name = table.name
  definitions : kept.definitions = table.definitions
  attributes : kept.attributes = table.attributes
  rows : kept.rows = table.rows.filter fun row => asked.test (cellOf table.columnNames row)

theorem isFiltered_sieve (table : Table) (asked : Filter) :
    table.IsFiltered asked (table.sieve asked) := by
  constructor
  · rfl
  · exact definitions_derive table _
  · rfl
  · exact rows_sieve table asked

theorem IsRectangular.sieve {table : Table} (rectangular : table.IsRectangular) (asked : Filter) :
    (table.sieve asked).IsRectangular :=
  rectangular.derive fun _ _ sameLength => length_keep _ sameLength

/-- A table that is filtered twice has the rows that pass both filters. -/
theorem sieve_sieve {table : Table} (rectangular : table.IsRectangular) (asked other : Filter) :
    (table.sieve asked).sieve other = table.sieve (.all [asked, other]) := by
  have first := isFiltered_sieve table asked
  have second := isFiltered_sieve (table.sieve asked) other
  have both := isFiltered_sieve table (.all [asked, other])
  apply eq_of_rows ((rectangular.sieve asked).sieve other) (rectangular.sieve (.all [asked, other]))
  · rw [second.name, first.name, both.name]
  · rw [second.definitions, first.definitions, both.definitions]
  · rw [second.attributes, first.attributes, both.attributes]
  · rw [second.rows, first.rows, both.rows, columnNames, first.definitions, ← columnNames,
      List.filter_filter]
    apply List.filter_congr
    intro row _
    simp [Filter.test, Filter.testAll, Bool.and_comm]

/-- A table that has been filtered passes the filter as it is. -/
theorem sieve_sieve_self {table : Table} (rectangular : table.IsRectangular) (asked : Filter) :
    (table.sieve asked).sieve asked = table.sieve asked := by
  have first := isFiltered_sieve table asked
  have second := isFiltered_sieve (table.sieve asked) asked
  apply eq_of_rows ((rectangular.sieve asked).sieve asked) (rectangular.sieve asked)
  · rw [second.name]
  · rw [second.definitions]
  · rw [second.attributes]
  · rw [second.rows, first.rows, columnNames, first.definitions, ← columnNames, List.filter_filter]
    simp only [Bool.and_self]

theorem filter_eq_ok_iff {table kept : Table} {asked : Filter} :
    table.filter asked = .ok kept ↔ table.missing? asked = none ∧ table.sieve asked = kept := by
  rw [filter_eq]
  cases table.missing? asked <;> simp

theorem filter_eq_error_iff {table : Table} {asked : Filter} {fault : TableError} :
    table.filter asked = .error fault ↔
      ∃ name, table.missing? asked = some name ∧ fault = .invalid s!"column not found: {name}" := by
  rw [filter_eq]
  cases table.missing? asked <;> simp [eq_comm]

/-- A filter fails on a table just if it asks for a column that the table does not have. -/
theorem filter_fails_iff {table : Table} {asked : Filter} :
    (∃ fault, table.filter asked = .error fault) ↔
      ∃ name, asked.Asks name ∧ name ∉ table.columnNames := by
  have anyMissing : (∃ fault, table.filter asked = .error fault) ↔
      table.missing? asked ≠ none := by
    rw [filter_eq]
    cases table.missing? asked <;> simp
  rw [anyMissing, ne_eq, missing?_eq_none_iff]
  push Not
  rfl

theorem filter_all {table : Table} (rectangular : table.IsRectangular) (asked other : Filter) :
    table.filter (.all [asked, other]) =
      (table.filter asked >>= fun kept => kept.filter other) := by
  rw [filter_eq, filter_eq table asked, missing?_all]
  cases table.missing? asked with
  | some name => rfl
  | none =>
      have stillMissing : (table.sieve asked).missing? other = table.missing? other :=
        missing?_derive table _ other
      simp only [Option.none_or, Except.ok_bind, filter_eq (table.sieve asked), stillMissing,
        sieve_sieve rectangular]

/-- Filtering fails just if a column is asked for that the table does not have, and the first
such is named.  Else the rows that pass are left, in their order, and nothing else of the table
changes: what is asked for is there in every row, and no cell matters but those of the columns
that the filter lists.  So to filter twice is to filter by both, a filter leaves what it has
left, and the rows that it does not leave are those that its opposite does. -/
theorem filtering_is_exact {table : Table} (reachable : table.Reachable) (asked other : Filter) :
    (∀ fault, table.filter asked = .error fault ↔
      ∃ name, table.missing? asked = some name ∧ fault = .invalid s!"column not found: {name}") ∧
    ((∃ fault, table.filter asked = .error fault) ↔
      ∃ name, asked.Asks name ∧ name ∉ table.columnNames) ∧
    (∀ kept, table.filter asked = .ok kept → table.IsFiltered asked kept ∧
      ∀ name, asked.Asks name → ∃ column, table.column name = .ok column ∧
        ∀ (index : Nat) (row : List Cell), table.rows[index]? = some row → ∃ cell,
          column.cells[index]? = some cell ∧ cellOf table.columnNames row name = some cell) ∧
    (∀ name, name ∈ asked.columns ↔ asked.Asks name) ∧
    (∀ cell? other? : String → Option Cell,
      (∀ name ∈ asked.columns, cell? name = other? name) →
        asked.test cell? = asked.test other?) ∧
    table.filter (.all [asked, other]) =
      (table.filter asked >>= fun kept => kept.filter other) ∧
    (∀ kept, table.filter asked = .ok kept → kept.filter asked = .ok kept) ∧
    (∀ fault, table.filter asked = .error fault ↔ table.filter (.not asked) = .error fault) ∧
    (∀ kept left, table.filter asked = .ok kept → table.filter (.not asked) = .ok left →
      (kept.rows, left.rows) =
        table.rows.partition fun row => asked.test (cellOf table.columnNames row)) := by
  have rectangular := reachable.isRectangular
  refine ⟨fun _ => filter_eq_error_iff, filter_fails_iff, ?_, fun _ => Filter.mem_columns_iff, ?_,
    filter_all rectangular asked other, ?_, ?_, ?_⟩
  · intro kept isKept
    rcases filter_eq_ok_iff.mp isKept with ⟨noneMissing, rfl⟩
    refine ⟨isFiltered_sieve table asked, ?_⟩
    intro name asks
    rcases exists_column (missing?_eq_none_iff.mp noneMissing name asks) with ⟨column, isColumn⟩
    refine ⟨column, isColumn, ?_⟩
    intro index row isRow
    exact cellOf_row rectangular isColumn isRow
  · intro cell? other? agree
    apply Filter.test_congr
    intro name asks
    exact agree name (Filter.mem_columns_iff.mpr asks)
  · intro kept isKept
    rcases filter_eq_ok_iff.mp isKept with ⟨noneMissing, rfl⟩
    have stillNone : (table.sieve asked).missing? asked = none :=
      (missing?_derive table _ asked).trans noneMissing
    exact filter_eq_ok_iff.mpr ⟨stillNone, sieve_sieve_self rectangular asked⟩
  · intro fault
    rw [filter_eq_error_iff, filter_eq_error_iff, missing?_not]
  · intro kept left isKept isLeft
    rcases filter_eq_ok_iff.mp isKept with ⟨_, rfl⟩
    rcases filter_eq_ok_iff.mp isLeft with ⟨_, rfl⟩
    rw [rows_sieve, rows_sieve, List.partition_eq_filter_filter]
    simp only [Filter.test, Function.comp_def]

/-- A row without a name passes no test of its name, and so what asks for the opposite. -/
theorem rows_without_names_are_left :
    let ids : Column := ⟨⟨"id", .int, none, .normal⟩, [.int 1, .int 2, .int 3]⟩
    let names : Column := ⟨⟨"name", .string, none, .normal⟩, [.string "a", .null, .string "c"]⟩
    let table : Table := ⟨none, [ids, names], []⟩
    let asked : Filter := .any [.text "name" ⟨.equal, "c", false⟩,
      .all [.condition ⟨"id", .greater, .int 1⟩, .text "name" ⟨.notEqual, "c", false⟩, .all []]]
    table.Reachable ∧
      ∃ kept left, table.filter asked = .ok kept ∧ table.filter (.not asked) = .ok left ∧
        kept.rows = [[.int 3, .string "c"]] ∧
        left.rows = [[.int 1, .string "a"], [.int 2, .null]] ∧
        (kept.rows, left.rows) =
          table.rows.partition fun row => asked.test (cellOf table.columnNames row) := by
  intro ids names table asked
  have reachable : table.Reachable := by
    have isTable : ofColumns none [ids, names] = .ok table := by rfl
    refine .ofColumns ?_ isTable
    intro column columnMem
    simp only [List.mem_cons, List.not_mem_nil, or_false] at columnMem
    rcases columnMem with rfl | rfl
    · exact ⟨"id", .int, none, .normal, ids.cells, by rfl⟩
    · exact ⟨"name", .string, none, .normal, names.cells, by rfl⟩
  have isKept : table.filter asked = .ok (table.sieve asked) := by rfl
  have isLeft : table.filter (.not asked) = .ok (table.sieve (.not asked)) := by rfl
  have parts := (filtering_is_exact reachable asked asked).2.2.2.2.2.2.2.2 _ _ isKept isLeft
  exact ⟨reachable, _, _, isKept, isLeft, by rfl, by rfl, parts⟩

end Table

end JsonTables
