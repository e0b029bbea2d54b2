import JsonTables.Proofs.IngestErrors
import JsonTables.Proofs.RowTypes
import JsonTables.Proofs.Workers

/-!
# Ingestion

Taking sources in with any number of workers, in chunks of any size, is taking them in
one after another: for whoever waits there is one worker, a buffer holds just the rows
that have been added to it, and every row of a layout has a cell for every column.  So
the columns are as long as each other and always make a table.
-/

namespace JsonTables

namespace Table

/-- Whether a table has columns of some definitions and in each of them, from row to
row, the cells at its position. -/
def IsOf (table : Table) (definitions : List ColumnDefinition) (rows : List (List Cell)) : Prop :=
  table.definitions = definitions ∧
    ∀ (position : Nat) (column : Column), table.columns[position]? = some column →
      column.cells.map some = rows.map fun row => row[position]?

end Table

namespace Ingest

/-! ### Layouts and their tables -/

/-- Whether a layout and definitions go together: as many names as definitions, all
of them different, and rows that are as wide. -/
structure Prepared (layout : Layout) (definitions : List ColumnDefinition) : Prop where
  names : definitions.map (·.name) = layout.names
  unrepeated : Text.firstRepeated? [] layout.names = none
  fits : Fits layout.names.length (valueRows layout)

theorem Prepared.length_eq {layout : Layout} {definitions : List ColumnDefinition}
    (prepared : Prepared layout definitions) : definitions.length = layout.names.length := by
  rw [← prepared.names, List.length_map]

theorem names_of_definitionsOf {pairs : List (String × ShapeColumn)}
    {definitions : List ColumnDefinition}
    (defined : pairs.mapM (fun (name, column) => ColumnDefinition.of name column.type) =
      .ok definitions) : definitions.map (·.name) = pairs.map (·.1) := by
  induction pairs generalizing definitions with
  | nil =>
      cases defined
      rfl
  | cons pair rest ih =>
      simp only [List.mapM_cons, Except.bind_eq_ok_iff, Except.pure_eq_ok_iff] at defined
      rcases defined with ⟨first, firstDefined, others, othersDefined, rfl⟩
      have firstName : first.name = pair.1 := by
        simp only [ColumnDefinition.of] at firstDefined
        split at firstDefined
        · cases firstDefined
        · simp only [ColumnDefinition.componentFor] at firstDefined
          cases firstDefined
          rfl
      rw [List.map_cons, List.map_cons, firstName, ih othersDefined]

theorem prepared_of_layoutOf {sketch : Sketch} {naming : Naming} {layout : Layout}
    {definitions : List ColumnDefinition}
    (made : layoutOf sketch naming = .ok (layout, definitions)) :
    Prepared layout definitions := by
  simp only [layoutOf, Except.bind_eq_ok_iff, Except.pure_eq_ok_iff, Prod.mk.injEq,
    Except.mapError_eq_ok_iff] at made
  rcases made with ⟨shape, _, layout, isLayout, definitions, isDefined, rfl, rfl⟩
  have layoutIs := Layout.eq_of_ofShape isLayout
  have sameLength : layout.names.length = layout.columns.length := by simp [layoutIs]
  constructor
  · rw [names_of_definitionsOf isDefined, List.map_fst_zip (Nat.le_of_eq sameLength)]
  · rw [layoutIs]
    simp only [Layout.ofShape] at isLayout
    split at isLayout
    · cases isLayout
    · assumption
  · intro value? rows areRead row rowMem
    rw [sameLength]
    exact (Layout.fills_of_rows isLayout (Except.mapError_eq_ok_iff.mp areRead) row
      rowMem).length_eq

theorem zipWith_columnsOf (definitions : List ColumnDefinition) (rows : List (List Cell)) :
    List.zipWith Column.mk definitions (columnsOf definitions.length rows) =
      definitions.mapIdx fun position definition => ⟨definition, cellsAt position rows⟩ := by
  apply List.ext_getElem?
  intro position
  rw [List.getElem?_zipWith, List.getElem?_mapIdx]
  rcases Nat.lt_or_ge position definitions.length with lt | ge
  · rw [getElem?_columnsOf lt, List.getElem?_eq_getElem lt]
    rfl
  · simp [List.getElem?_eq_none ge]

theorem isOf_tableOfRows {definitions : List ColumnDefinition} {rows : List (List Cell)}
    (fit : ∀ row ∈ rows, row.length = definitions.length) (name : Option String) :
    (tableOfRows name definitions rows).IsOf definitions rows := by
  constructor
  · apply List.ext_getElem?
    intro position
    cases definitionAt : definitions[position]? <;>
      simp [Table.definitions, tableOfRows, definitionAt]
  · intro position column columnAt
    simp only [tableOfRows, List.getElem?_mapIdx, Option.map_eq_some_iff] at columnAt
    rcases columnAt with ⟨definition, definitionAt, rfl⟩
    apply map_some_cellsAt
    intro row rowMem
    rw [fit row rowMem]
    exact (List.getElem?_eq_some_iff.mp definitionAt).1

/-- The columns of a table of rows have as many cells as there are rows. -/
theorem length_cells_of_isOf {table : Table} {definitions : List ColumnDefinition}
    {rows : List (List Cell)} (isOf : table.IsOf definitions rows) {column : Column}
    (columnMem : column ∈ table.columns) : column.cells.length = rows.length := by
  rcases List.getElem?_of_mem columnMem with ⟨position, columnAt⟩
  simpa using congrArg List.length (isOf.2 position column columnAt)

/-- The columns of rows make a table if the rows are as wide as there are definitions
and no two definitions have one name. -/
theorem tableOf_eq {definitions : List ColumnDefinition} {rows : List (List Cell)}
    (unrepeated : Text.firstRepeated? [] (definitions.map (·.name)) = none)
    (fit : ∀ row ∈ rows, row.length = definitions.length) (name : Option String) :
    tableOf name definitions (columnsOf definitions.length rows) =
      .ok (tableOfRows name definitions rows) := by
  have isOf := isOf_tableOfRows fit name
  have namesPass : Table.checkNames (tableOfRows name definitions rows).columns = .ok () := by
    have names : (tableOfRows name definitions rows).columns.map (·.definition.name) =
        definitions.map (·.name) := by
      have sameNames := congrArg (List.map (·.name)) isOf.1
      rw [Table.definitions, List.map_map] at sameNames
      exact sameNames
    rw [Table.checkNames, names, unrepeated]
  have heightsPass : Table.checkHeights (tableOfRows name definitions rows).columns = .ok () := by
    cases columns : (tableOfRows name definitions rows).columns with
    | nil => rfl
    | cons first rest =>
        have heights : ∀ column ∈ first :: rest, column.cells.length = rows.length := by
          intro column columnMem
          exact length_cells_of_isOf isOf (columns ▸ columnMem)
        have noneFound : (rest.find? fun column => column.cells.length != first.cells.length) =
            none := by
          rw [List.find?_eq_none]
          intro column columnMem
          simp [heights first List.mem_cons_self,
            heights column (List.mem_cons_of_mem first columnMem)]
        simp only [Table.checkHeights, noneFound]
  rw [tableOf, if_neg (by simp), zipWith_columnsOf, Table.ofColumns]
  change (Table.checkNames (tableOfRows name definitions rows).columns >>= _) = _
  rw [namesPass, Except.ok_bind]
  change (Table.checkHeights (tableOfRows name definitions rows).columns >>= _) = _
  rw [heightsPass]
  rfl

theorem Prepared.tableOf_eq {layout : Layout} {definitions : List ColumnDefinition}
    (prepared : Prepared layout definitions) {rows : List (List Cell)}
    (fit : ∀ row ∈ rows, row.length = layout.names.length) (name : Option String) :
    tableOf name definitions (columnsOf layout.names.length rows) =
      .ok (tableOfRows name definitions rows) := by
  rw [← prepared.length_eq]
  apply Ingest.tableOf_eq
  · rw [prepared.names]
    exact prepared.unrepeated
  · simpa [prepared.length_eq] using fit

/-! ### Taking in -/

theorem gathers_addValue {layout : Layout} {definitions : List ColumnDefinition}
    (prepared : Prepared layout definitions) (chunkSize : Nat) :
    Gathers layout.names.length (addValue layout chunkSize) (valueRows layout) := by
  constructor
  · intro buffer rows value? more holds areRead
    have fit := prepared.fits areRead
    simp only [addValue, valueRows] at areRead ⊢
    rw [areRead]
    exact holds.extend chunkSize fit
  · intro buffer rows value? fault holds fails
    simp only [addValue, valueRows] at fails ⊢
    rw [fails]
    rfl

theorem gathers_addDocument {layout : Layout} {definitions : List ColumnDefinition}
    (prepared : Prepared layout definitions) (chunkSize : Nat) :
    Gathers layout.names.length (addDocument layout chunkSize) (documentRows layout) := by
  have gathers := gathers_addValue prepared chunkSize
  constructor
  · intro buffer rows document more holds areRead
    cases document with
    | error error => cases areRead
    | ok value => exact gathers.ok holds areRead
  · intro buffer rows document fault holds fails
    cases document with
    | error error =>
        cases fails
        rfl
    | ok value => exact gathers.error holds fails

theorem gathers_addCell {layout : Layout} {definitions : List ColumnDefinition}
    (prepared : Prepared layout definitions) (chunkSize : Nat) (column : String) :
    Gathers layout.names.length
      (fun buffer entry => addCell layout chunkSize column buffer entry.1 entry.2)
      (cellRows layout column) := by
  have values := gathers_addValue prepared chunkSize
  have documents := gathers_addDocument prepared chunkSize
  constructor
  · rintro buffer rows ⟨cell, row⟩ more holds areRead
    cases cell with
    | null => exact values.ok holds areRead
    | string text => exact documents.ok holds areRead
    | json value => exact values.ok holds areRead
    | _ => cases areRead
  · rintro buffer rows ⟨cell, row⟩ fault holds fails
    cases cell with
    | null => exact values.error holds fails
    | string text => exact documents.error holds fails
    | json value => exact values.error holds fails
    | _ =>
        cases fails
        rfl

/-- The columns of a source are those of its rows. -/
theorem sourceColumns_eq {layout : Layout} {definitions : List ColumnDefinition}
    (prepared : Prepared layout definitions) (files : Files) (settings : IngestSettings)
    (source : Source) :
    sourceColumns files layout settings source =
      ((sourceRows files layout settings.multiValue source).mapError
        (.construction s!"failed to ingest JSON from {source}.")).map
          (columnsOf layout.names.length) := by
  have gathers := gathers_addDocument prepared settings.chunkSize
  cases bytesRead : source.read files with
  | error fault => simp [sourceColumns, sourceRows, bytesRead, Except.mapError, Except.map]
  | ok bytes =>
      have finished := gathers.finish_eq (documentsOf settings.multiValue bytes)
      simp only [sourceColumns, sourceRows, bytesRead, Except.ok_bind]
      rw [Except.bind_pure_eq_map, finished]
      cases rowsInTurn (documentRows layout) (documentsOf settings.multiValue bytes) <;> rfl

/-- The columns of the sources are joined to those of all their rows. -/
theorem join_mapM_eq {width : Nat} {columns rows : Source → Except TableError (List (List Cell))}
    (same : ∀ source, columns source = (rows source).map (columnsOf width))
    (sources : List Source) :
    ((sources.map columns).mapM id).map (RowBuffer.join width) =
      (rowsInTurn rows sources).map (columnsOf width) := by
  have parts : (sources.map columns).mapM id =
      (sources.mapM rows).map (List.map (columnsOf width)) := by
    induction sources with
    | nil => rfl
    | cons source rest ih =>
        rw [List.map_cons, List.mapM_cons, List.mapM_cons, ih, id, same]
        cases rows source with
        | error fault => rfl
        | ok first => cases rest.mapM rows <;> rfl
  rw [parts, rowsInTurn]
  cases sources.mapM rows with
  | error fault => rfl
  | ok all => exact congrArg Except.ok (RowBuffer.join_eq width all)

theorem fits_documentRows {layout : Layout} {definitions : List ColumnDefinition}
    (prepared : Prepared layout definitions) :
    Fits layout.names.length (documentRows layout) := by
  intro document rows areRead
  simp only [documentRows, Except.bind_eq_ok_iff] at areRead
  rcases areRead with ⟨value, _, valueRead⟩
  exact prepared.fits valueRead

theorem fits_sourceRows {layout : Layout} {definitions : List ColumnDefinition}
    (prepared : Prepared layout definitions) (files : Files) (multiValue : Bool) :
    Fits layout.names.length (sourceRows files layout multiValue) := by
  intro source rows areRead
  simp only [sourceRows, Except.bind_eq_ok_iff] at areRead
  rcases areRead with ⟨bytes, _, documentsRead⟩
  exact (fits_documentRows prepared).inTurn documentsRead

theorem fits_cellRows {layout : Layout} {definitions : List ColumnDefinition}
    (prepared : Prepared layout definitions) (column : String) :
    Fits layout.names.length (cellRows layout column) := by
  rintro ⟨cell, row⟩ rows areRead
  cases cell with
  | null => exact prepared.fits areRead
  | string text => exact fits_documentRows prepared areRead
  | json value => exact prepared.fits areRead
  | _ => cases areRead

theorem check_eq_ok {ingest : Ingest} (hasSource : ingest.sources ≠ [])
    (chunks : 0 < ingest.settings.chunkSize) (threads : 0 < ingest.settings.maxThreads) :
    ingest.check = .ok () := by
  simp [check, hasSource, Nat.ne_of_gt chunks, Nat.ne_of_gt threads]

theorem run_eq_inTurn {ingest : Ingest} (hasSource : ingest.sources ≠ [])
    (chunks : 0 < ingest.settings.chunkSize) (threads : 0 < ingest.settings.maxThreads)
    (files : Files) : ingest.run files = ingest.inTurn files := by
  have someone : 0 < min ingest.settings.maxThreads ingest.sources.length :=
    Nat.lt_min.mpr ⟨threads, List.length_pos_of_ne_nil hasSource⟩
  rw [run, inTurn, check_eq_ok hasSource chunks threads, Except.ok_bind]
  cases made : layoutOf ingest.sketch ingest.naming with
  | error fault => rfl
  | ok pair =>
      rcases pair with ⟨layout, definitions⟩
      have prepared := prepared_of_layoutOf made
      have joined := join_mapM_eq (sourceColumns_eq prepared files ingest.settings) ingest.sources
      simp only [Except.ok_bind, workOn_eq_map someone, prepared.length_eq]
      refine (Except.map_bind _ (RowBuffer.join layout.names.length) fun cells =>
        tableOf ingest.name definitions cells >>= fun table =>
          pure (table.withAttributes ingest.attributes)).symm.trans ?_
      rw [joined]
      cases areRead : rowsInTurn _ ingest.sources with
      | error fault => rfl
      | ok rows =>
          have fits := fits_sourceRows prepared files ingest.settings.multiValue
          have isTable := prepared.tableOf_eq ((fits.mapError _).inTurn areRead) ingest.name
          simp only [Except.map, Except.ok_bind, isTable]

theorem fromColumn_eq_inTurn {chunkSize : Nat} (chunks : 0 < chunkSize) (table : Table)
    (name : Option String) (sketch : Sketch) :
    fromColumn table name sketch chunkSize = fromColumnInTurn table name sketch := by
  rw [fromColumn, fromColumnInTurn, if_neg (Nat.ne_of_gt chunks)]
  change (columnOf table name >>= _) = _
  cases columnOf table name with
  | error fault => rfl
  | ok column =>
      rw [Except.ok_bind, Except.ok_bind]
      cases made : layoutOf sketch {} with
      | error fault => rfl
      | ok pair =>
          rcases pair with ⟨layout, definitions⟩
          have prepared := prepared_of_layoutOf made
          have finished := (gathers_addCell prepared chunkSize column.definition.name).finish_eq
            column.cells.zipIdx
          simp only [Except.ok_bind, prepared.length_eq]
          refine (Except.map_bind _ RowBuffer.finish (tableOf none definitions)).symm.trans ?_
          refine (congrArg (· >>= tableOf none definitions) finished).trans ?_
          cases areRead : rowsInTurn _ column.cells.zipIdx with
          | error fault => rfl
          | ok rows =>
              have fits := fits_cellRows prepared column.definition.name
              exact prepared.tableOf_eq (fits.inTurn areRead) none

/-! ### What taking in comes to -/

/-- Whether an outcome is what reading items in turn comes to: a table of all their
rows, or the error of the first of them that cannot be read. -/
def TakesIn {α : Type} (outcome : Except TableError Table) (definitions : List ColumnDefinition)
    (read : α → Except TableError (List (List Cell))) (items : List α) : Prop :=
  (∀ parts, List.Forall₂ (fun item rows => read item = .ok rows) items parts →
    ∃ table, outcome = .ok table ∧ table.IsOf definitions parts.flatten) ∧
  ∀ before item after fault, items = before ++ item :: after →
    (∀ earlier ∈ before, ∃ rows, read earlier = .ok rows) → read item = .error fault →
      outcome = .error fault

theorem takesIn_of_rowsInTurn {α : Type} {definitions : List ColumnDefinition}
    {read : α → Except TableError (List (List Cell))} {items : List α}
    (fits : Fits definitions.length read) {make : List (List Cell) → Table}
    (isOf : ∀ rows, (∀ row ∈ rows, row.length = definitions.length) →
      (make rows).IsOf definitions rows) :
    TakesIn (rowsInTurn read items >>= fun rows => .ok (make rows)) definitions read items := by
  constructor
  · intro parts areRead
    have rowsRead := rowsInTurn_eq_ok areRead
    exact ⟨make parts.flatten, by rw [rowsRead, Except.ok_bind],
      isOf parts.flatten (fits.inTurn rowsRead)⟩
  · rintro before item after fault rfl areRead fails
    rw [rowsInTurn_eq_error areRead fails, Except.error_bind]

/-- Taking sources in with any number of workers and in chunks of any size is taking
them in one after another, and so it is for the documents in the cells of a column: all
rows in order, or the error of the first source or cell that has one, and no error of
the program's own making. -/
theorem ingestion_in_turn :
    (∀ (ingest : Ingest) (files : Files),
      ingest.sources ≠ [] → 0 < ingest.settings.chunkSize → 0 < ingest.settings.maxThreads →
        ingest.run files = ingest.inTurn files ∧
        (∀ chunkSize maxThreads, 0 < chunkSize → 0 < maxThreads →
          ({ ingest with settings := { ingest.settings with chunkSize, maxThreads } }).run files =
            ingest.run files) ∧
        NotInternal (ingest.run files) ∧
        ∀ layout definitions,
          layoutOf ingest.sketch ingest.naming = .ok (layout, definitions) →
            TakesIn (ingest.run files) definitions
              (fun source => (sourceRows files layout ingest.settings.multiValue source).mapError
                (.construction s!"failed to ingest JSON from {source}."))
              ingest.sources) ∧
    ∀ (table : Table) (name : Option String) (sketch : Sketch) (chunkSize : Nat), 0 < chunkSize →
      fromColumn table name sketch chunkSize = fromColumnInTurn table name sketch ∧
      (∀ other, 0 < other →
        fromColumn table name sketch other = fromColumn table name sketch chunkSize) ∧
      NotInternal (fromColumn table name sketch chunkSize) ∧
      ∀ column layout definitions, columnOf table name = .ok column →
        layoutOf sketch {} = .ok (layout, definitions) →
          TakesIn (fromColumn table name sketch chunkSize) definitions
            (cellRows layout column.definition.name) column.cells.zipIdx := by
  constructor
  · intro ingest files hasSource chunks threads
    have inTurn := run_eq_inTurn hasSource chunks threads files
    refine ⟨inTurn, ?_, ?_, ?_⟩
    · intro chunkSize maxThreads otherChunks otherThreads
      rw [inTurn]
      apply run_eq_inTurn
      · exact hasSource
      · exact otherChunks
      · exact otherThreads
    · rw [inTurn]
      exact notInternal_inTurn ingest files
    · intro layout definitions made
      have prepared := prepared_of_layoutOf made
      have fits := fits_sourceRows prepared files ingest.settings.multiValue
      rw [inTurn, Ingest.inTurn, made, Except.ok_bind]
      rw [← prepared.length_eq] at fits
      apply takesIn_of_rowsInTurn (fits.mapError _)
      intro rows fit
      exact isOf_tableOfRows fit ingest.name
  · intro table name sketch chunkSize chunks
    have inTurn := fromColumn_eq_inTurn chunks table name sketch
    refine ⟨inTurn, ?_, ?_, ?_⟩
    · intro other otherChunks
      rw [inTurn]
      exact fromColumn_eq_inTurn otherChunks table name sketch
    · rw [inTurn]
      exact notInternal_fromColumnInTurn table name sketch
    · intro column layout definitions isColumn made
      have prepared := prepared_of_layoutOf made
      have fits := fits_cellRows prepared column.definition.name
      rw [inTurn, fromColumnInTurn, isColumn, Except.ok_bind, made, Except.ok_bind]
      rw [← prepared.length_eq] at fits
      apply takesIn_of_rowsInTurn fits
      intro rows fit
      exact isOf_tableOfRows fit none

/-- Three sources of four documents, taken in by two workers one row at a time. -/
theorem ingestion_of_three_sources :
    let ingest : Ingest :=
      { sketch := .type .long
        sources := [.text "1 2", .file "rows.json", .text "4"]
        settings := { chunkSize := 1, maxThreads := 2, multiValue := true } }
    let files : Files := fun path =>
      if path = "rows.json" then .ok (JsonText.bytesOf "null") else .error "no such file"
    ingest.sources ≠ [] ∧ 0 < ingest.settings.chunkSize ∧ 0 < ingest.settings.maxThreads ∧
      (ingest.run files).toOption.map Table.cells =
        some [[.long 1, .long 2, .null, .long 4]] := by
  intro ingest files
  have hasSource : ingest.sources ≠ [] := List.cons_ne_nil _ _
  have chunks : 0 < ingest.settings.chunkSize := by decide
  have threads : 0 < ingest.settings.maxThreads := by decide
  refine ⟨hasSource, chunks, threads, ?_⟩
  rw [(ingestion_in_turn.1 ingest files hasSource chunks threads).1]
  cbv

end Ingest

end JsonTables
