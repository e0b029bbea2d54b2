import JsonTables.Proofs.Ingestion
import JsonTables.Proofs.LongerValues

/-!
# Ways of delivering documents

Documents may come each in a source of its own, together in a source with blanks between
them, or in the cells of a column.  Each way has a loop of its own and wraps its errors in
its own way, and all come to reading the rows of one document after those of another.
-/

namespace JsonTables

open JsonText (Bytes JoinedByBlanks)

/-- The error at the bottom of those that it caused. -/
def TableError.root : TableError → TableError
  | construction _ cause => cause.root
  | other => other

namespace Ingest

/-- The definitions and the cells of a table, or the error at the bottom. -/
def delivered (outcome : Except TableError Table) :
    Except TableError (List ColumnDefinition × List (List Cell)) :=
  (outcome.map fun table => (table.definitions, table.cells)).mapError TableError.root

/-- Whether sources have one document each: those of some texts, in order. -/
structure DeliversEach (ingest : Ingest) (files : Files) (texts : List String) : Prop where
  sources : List.Forall₂ (fun source text => source.read files = .ok (JsonText.bytesOf text))
    ingest.sources texts
  multiValue : ingest.settings.multiValue = false
  naming : ingest.naming = {}
  chunks : 0 < ingest.settings.chunkSize
  threads : 0 < ingest.settings.maxThreads

/-- Whether one source has the documents of some texts, with blanks between them. -/
structure DeliversJoined (ingest : Ingest) (files : Files) (texts : List String) : Prop where
  source : ∃ source joined, ingest.sources = [source] ∧ source.read files = .ok joined ∧
    JoinedByBlanks (texts.map JsonText.bytesOf) joined
  multiValue : ingest.settings.multiValue = true
  naming : ingest.naming = {}
  chunks : 0 < ingest.settings.chunkSize
  threads : 0 < ingest.settings.maxThreads

/-- Whether the cells of a column are some texts. -/
def DeliversInColumn (table : Table) (name : Option String) (texts : List String) : Prop :=
  ∃ column, columnOf table name = .ok column ∧ column.cells = texts.map .string

/-- The rows of a document. -/
def rowsOfDocument (layout : Layout) (document : Json) : Except TableError (List (List Cell)) :=
  valueRows layout (some document)

/-- What documents come to: the definitions and the cells of a table of all their rows. -/
def documentsInTurn (sketch : Sketch) (documents : List Json) :
    Except TableError (List ColumnDefinition × List (List Cell)) :=
  delivered do
    let (layout, definitions) ← layoutOf sketch {}
    let rows ← rowsInTurn (rowsOfDocument layout) documents
    return tableOfRows none definitions rows

section RowsInTurn

variable {α β : Type} {read : α → Except TableError (List (List Cell))}
  {other : β → Except TableError (List (List Cell))}

theorem rowsInTurn_singleton (item : α) : rowsInTurn read [item] = read item := by
  rw [rowsInTurn_cons]
  cases read item <;> simp [rowsInTurn]

/-- Items with the same rows, or errors with the same error at the bottom, have the same
rows or error in turn. -/
theorem root_rowsInTurn_eq {items : List α} {others : List β}
    (same : List.Forall₂ (fun item another =>
      (read item).mapError TableError.root = (other another).mapError TableError.root) items
        others) :
    (rowsInTurn read items).mapError TableError.root =
      (rowsInTurn other others).mapError TableError.root := by
  induction same with
  | nil => rfl
  | @cons item another items others isSame _ ih =>
      rw [rowsInTurn_cons, rowsInTurn_cons]
      cases itemRead : read item <;> cases otherRead : other another <;>
        cases itemsRead : rowsInTurn read items <;> cases othersRead : rowsInTurn other others <;>
        simp_all [Except.mapError]

/-- Tables of rows that are the same up to the error at the bottom deliver the same. -/
theorem delivered_rows_eq {rows others : Except TableError (List (List Cell))}
    (same : rows.mapError TableError.root = others.mapError TableError.root)
    {make another : List (List Cell) → Table}
    (definitions : ∀ rows, (make rows).definitions = (another rows).definitions)
    (cells : ∀ rows, (make rows).cells = (another rows).cells) :
    delivered (rows >>= fun rows => .ok (make rows)) =
      delivered (others >>= fun rows => .ok (another rows)) := by
  cases rows <;> cases others <;>
    simp_all [Except.mapError, delivered, Except.map]

end RowsInTurn

/-- Whether documents are those that texts hold. -/
abbrev AreDocuments (texts : List String) (documents : List Json) : Prop :=
  List.Forall₂ (fun text document => JsonText.ofText text = .ok document) texts documents

section

variable {texts : List String} {documents : List Json}

theorem root_mapError_construction (what : String)
    (outcome : Except TableError (List (List Cell))) :
    (outcome.mapError (.construction what)).mapError TableError.root =
      outcome.mapError TableError.root := by
  cases outcome <;> rfl

/-- Sources of one document each have the rows of the documents. -/
theorem root_rows_of_each (areDocuments : AreDocuments texts documents) (layout : Layout)
    {files : Files} {sources : List Source}
    (areTexts : List.Forall₂
      (fun source text => source.read files = .ok (JsonText.bytesOf text)) sources texts) :
    (rowsInTurn (fun source => (sourceRows files layout false source).mapError
        (.construction s!"failed to ingest JSON from {source}.")) sources).mapError
          TableError.root =
      (rowsInTurn (rowsOfDocument layout) documents).mapError TableError.root := by
  apply root_rowsInTurn_eq
  induction areTexts generalizing documents with
  | nil =>
      cases areDocuments
      exact .nil
  | @cons source text sources texts isText _ ih =>
      rcases areDocuments with _ | ⟨isDocument, areDocuments⟩
      refine .cons ?_ (ih areDocuments)
      have isRead : JsonText.ofBytes (JsonText.bytesOf text) = .ok _ := isDocument
      rw [root_mapError_construction, sourceRows, isText, Except.ok_bind, documentsOf,
        if_neg (by decide), isRead, rowsInTurn_singleton]
      rfl

/-- One source of the documents, with blanks between them, has their rows. -/
theorem root_rows_of_joined (areDocuments : AreDocuments texts documents) (layout : Layout)
    {files : Files} {source : Source} {joined : Bytes} (isRead : source.read files = .ok joined)
    (isJoined : JoinedByBlanks (texts.map JsonText.bytesOf) joined) :
    (rowsInTurn (fun source => (sourceRows files layout true source).mapError
        (.construction s!"failed to ingest JSON from {source}.")) [source]).mapError
          TableError.root =
      (rowsInTurn (rowsOfDocument layout) documents).mapError TableError.root := by
  have streams := JsonText.stream_of_joinedByBlanks isJoined
    (List.forall₂_map_left_iff.mpr areDocuments)
  rw [rowsInTurn_singleton, root_mapError_construction, sourceRows, isRead, Except.ok_bind,
    documentsOf, if_pos rfl, streams]
  apply root_rowsInTurn_eq
  rw [List.forall₂_map_left_iff, List.forall₂_same]
  intro document _
  rfl

/-- Cells of the texts have the rows of the documents. -/
theorem root_rows_of_cells (areDocuments : AreDocuments texts documents) (layout : Layout)
    (column : String) :
    (rowsInTurn (cellRows layout column) (texts.map Cell.string).zipIdx).mapError
        TableError.root =
      (rowsInTurn (rowsOfDocument layout) documents).mapError TableError.root := by
  apply root_rowsInTurn_eq
  generalize 0 = row
  induction areDocuments generalizing row with
  | nil => exact .nil
  | cons isDocument _ ih =>
      rw [List.map_cons, List.zipIdx_cons]
      refine .cons ?_ (ih (row + 1))
      rw [cellRows, isDocument]
      rfl

/-! ### What the ways come to -/

theorem delivered_run_of_each {ingest : Ingest} {files : Files}
    (delivers : ingest.DeliversEach files texts) (areDocuments : AreDocuments texts documents)
    (someText : texts ≠ []) :
    delivered (ingest.run files) = documentsInTurn ingest.sketch documents := by
  have hasSource : ingest.sources ≠ [] := by
    intro noSource
    have areTexts := delivers.sources
    rw [noSource] at areTexts
    cases areTexts
    exact someText rfl
  rw [run_eq_inTurn hasSource delivers.chunks delivers.threads, inTurn, delivers.multiValue,
    delivers.naming, documentsInTurn]
  cases layoutOf ingest.sketch {} with
  | error fault => rfl
  | ok made =>
      have same := root_rows_of_each areDocuments made.1 delivers.sources
      exact delivered_rows_eq same (fun _ => rfl) (fun _ => rfl)

theorem delivered_run_of_joined {ingest : Ingest} {files : Files}
    (delivers : ingest.DeliversJoined files texts) (areDocuments : AreDocuments texts documents) :
    delivered (ingest.run files) = documentsInTurn ingest.sketch documents := by
  rcases delivers.source with ⟨source, joined, isSource, isRead, isJoined⟩
  have hasSource : ingest.sources ≠ [] := by
    rw [isSource]
    exact List.cons_ne_nil _ _
  rw [run_eq_inTurn hasSource delivers.chunks delivers.threads, inTurn, delivers.multiValue,
    delivers.naming, isSource, documentsInTurn]
  cases layoutOf ingest.sketch {} with
  | error fault => rfl
  | ok made =>
      have same := root_rows_of_joined areDocuments made.1 isRead isJoined
      exact delivered_rows_eq same (fun _ => rfl) (fun _ => rfl)

theorem delivered_fromColumn {table : Table} {name : Option String}
    (delivers : DeliversInColumn table name texts) (areDocuments : AreDocuments texts documents)
    (sketch : Sketch) {chunkSize : Nat} (chunks : 0 < chunkSize) :
    delivered (fromColumn table name sketch chunkSize) = documentsInTurn sketch documents := by
  rcases delivers with ⟨column, isColumn, areTexts⟩
  rw [fromColumn_eq_inTurn chunks, fromColumnInTurn, isColumn, Except.ok_bind, areTexts,
    documentsInTurn]
  cases layoutOf sketch {} with
  | error fault => rfl
  | ok made =>
      have same := root_rows_of_cells areDocuments made.1 column.definition.name
      exact delivered_rows_eq same (fun _ => rfl) (fun _ => rfl)

end

/-- Documents come to all their rows, if every one of them has rows. -/
theorem documentsInTurn_eq_ok {sketch : Sketch} {layout : Layout}
    {definitions : List ColumnDefinition} (made : layoutOf sketch {} = .ok (layout, definitions))
    {documents : List Json} {parts : List (List (List Cell))}
    (areRead : List.Forall₂ (fun document rows => layout.rows (some document) = .ok rows)
      documents parts) :
    ∃ table : Table, documentsInTurn sketch documents = .ok (definitions, table.cells) ∧
      table.IsOf definitions parts.flatten := by
  have prepared := prepared_of_layoutOf made
  have rowsRead : rowsInTurn (rowsOfDocument layout) documents = .ok parts.flatten := by
    apply rowsInTurn_eq_ok
    apply areRead.imp
    intro document rows isRead
    rw [rowsOfDocument, valueRows, isRead]
    rfl
  have fits : Fits definitions.length (rowsOfDocument layout) := by
    intro document rows isRead
    rw [prepared.length_eq]
    exact prepared.fits isRead
  have isOf := isOf_tableOfRows (fits.inTurn rowsRead) none
  refine ⟨tableOfRows none definitions parts.flatten, ?_, isOf⟩
  rw [documentsInTurn, made, Except.ok_bind]
  simp only [rowsRead, Except.ok_bind]
  exact congrArg (fun columns => Except.ok (columns, _)) isOf.1

/-- The first document that has no rows is the one whose error is told. -/
theorem documentsInTurn_eq_error {sketch : Sketch} {layout : Layout}
    {definitions : List ColumnDefinition} (made : layoutOf sketch {} = .ok (layout, definitions))
    {before after : List Json} {document : Json} {fault : DocumentError}
    (areRead : ∀ earlier ∈ before, ∃ rows, layout.rows (some earlier) = .ok rows)
    (fails : layout.rows (some document) = .error fault) :
    documentsInTurn sketch (before ++ document :: after) = .error (.document fault) := by
  have rowsFail : rowsInTurn (rowsOfDocument layout) (before ++ document :: after) =
      .error (.document fault) := by
    apply rowsInTurn_eq_error
    · intro earlier earlierMem
      rcases areRead earlier earlierMem with ⟨rows, isRead⟩
      refine ⟨rows, ?_⟩
      rw [rowsOfDocument, valueRows, isRead]
      rfl
    · rw [rowsOfDocument, valueRows, fails]
      rfl
  rw [documentsInTurn, made, Except.ok_bind]
  simp only [rowsFail]
  rfl

/-- Documents deliver the same whether they come each in a source of its own, together in
one source with blanks between them, or in the cells of a column: the error of the sketch if
it has one, all rows of the documents in order, or the error of the first that has none. -/
theorem deliveries_agree {sketch : Sketch} {texts : List String} {documents : List Json}
    (areDocuments : List.Forall₂ (fun text document => JsonText.ofText text = .ok document) texts
      documents)
    (someText : texts ≠ []) {each joined : Ingest} {files otherFiles : Files} {table : Table}
    {name : Option String} {chunkSize : Nat} (eachSketch : each.sketch = sketch)
    (eachDelivers : each.DeliversEach files texts) (joinedSketch : joined.sketch = sketch)
    (joinedDelivers : joined.DeliversJoined otherFiles texts)
    (columnDelivers : DeliversInColumn table name texts) (chunks : 0 < chunkSize) :
    delivered (each.run files) = delivered (fromColumn table name sketch chunkSize) ∧
      delivered (joined.run otherFiles) = delivered (fromColumn table name sketch chunkSize) ∧
      (∀ fault, layoutOf sketch {} = .error fault →
        delivered (fromColumn table name sketch chunkSize) = .error fault.root) ∧
      ∀ layout definitions, layoutOf sketch {} = .ok (layout, definitions) →
        (∀ parts,
          List.Forall₂ (fun document rows => layout.rows (some document) = .ok rows) documents
            parts →
          ∃ result : Table,
            delivered (fromColumn table name sketch chunkSize) = .ok (definitions, result.cells) ∧
              result.IsOf definitions parts.flatten) ∧
        ∀ before document after fault, documents = before ++ document :: after →
          (∀ earlier ∈ before, ∃ rows, layout.rows (some earlier) = .ok rows) →
            layout.rows (some document) = .error fault →
              delivered (fromColumn table name sketch chunkSize) = .error (.document fault) := by
  rw [delivered_run_of_each eachDelivers areDocuments someText,
    delivered_run_of_joined joinedDelivers areDocuments,
    delivered_fromColumn columnDelivers areDocuments sketch chunks, eachSketch, joinedSketch]
  refine ⟨rfl, rfl, ?_, ?_⟩
  · intro fault fails
    rw [documentsInTurn, fails]
    rfl
  · intro layout definitions made
    constructor
    · intro parts areRead
      exact documentsInTurn_eq_ok made areRead
    · rintro before document after fault rfl areRead fails
      exact documentsInTurn_eq_error made areRead fails

/-- Two numbers in two sources, in one source, and in a column. -/
theorem deliveries_of_two_numbers_agree :
    let settings : IngestSettings := { chunkSize := 1, maxThreads := 2, multiValue := false }
    let each : Ingest := { sketch := .type .long, sources := [.text "1", .text "-2"], settings }
    let joined : Ingest :=
      { sketch := .type .long, sources := [.file "rows"]
        settings := { settings with multiValue := true } }
    let files : Files := fun _ => .ok (JsonText.bytesOf "1\n-2")
    let table : Table :=
      { name := none
        columns := [⟨{ name := "texts", type := .string }, [.string "1", .string "-2"]⟩] }
    let result := ([{ name := "Value", type := DataType.long }], [[Cell.long 1, Cell.long (-2)]])
    delivered (each.run files) = .ok result ∧ delivered (joined.run files) = .ok result ∧
      delivered (fromColumn table none (.type .long) 3) = .ok result := by
  intro settings each joined files table result
  have areDocuments : List.Forall₂ (fun text document => JsonText.ofText text = .ok document)
      ["1", "-2"] [.number "1", .number "-2"] := by
    refine .cons ?_ (.cons ?_ .nil) <;> cbv
  have eachDelivers : each.DeliversEach files ["1", "-2"] :=
    ⟨.cons rfl (.cons rfl .nil), rfl, rfl, by decide, by decide⟩
  have isJoined : JoinedByBlanks (["1", "-2"].map JsonText.bytesOf) (JsonText.bytesOf "1\n-2") := by
    have joins : JoinedByBlanks [[0x31], [0x2D, 0x32]] ([0x31] ++ [0x0A] ++ [0x2D, 0x32]) :=
      .cons (List.cons_ne_nil _ _) (List.forall_mem_singleton.mpr rfl) (.one _)
    have texts : ["1", "-2"].map JsonText.bytesOf = [[0x31], [0x2D, 0x32]] := by cbv
    have whole : JsonText.bytesOf "1\n-2" = [0x31, 0x0A, 0x2D, 0x32] := by cbv
    rw [texts, whole]
    exact joins
  have joinedDelivers : joined.DeliversJoined files ["1", "-2"] :=
    ⟨⟨.file "rows", _, rfl, rfl, isJoined⟩, rfl, rfl, by decide, by decide⟩
  have columnDelivers : DeliversInColumn table none ["1", "-2"] := ⟨_, rfl, rfl⟩
  have eachSketch : each.sketch = .type .long := rfl
  have agree := deliveries_agree areDocuments (List.cons_ne_nil _ _) eachSketch eachDelivers rfl
    joinedDelivers columnDelivers (Nat.succ_pos 2)
  have inColumn : delivered (fromColumn table none (.type .long) 3) = .ok result := by cbv
  rw [inColumn] at agree
  exact ⟨agree.1, agree.2.1, inColumn⟩

end Ingest

end JsonTables
