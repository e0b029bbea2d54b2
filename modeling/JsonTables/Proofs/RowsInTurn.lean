import JsonTables.Proofs.Outcome
import JsonTables.Proofs.RowBuffer
import JsonTables.Ingest

/-!
# Rows in turn

The reference for taking documents in, without workers and without chunks: the rows of
one source after those of another, and each column made of the cells at its position.
A step that adds to a buffer just the rows of an item gathers, over a run, the rows of
all items in turn.
-/

namespace JsonTables

namespace Ingest

/-! ### The reference -/

/-- The rows of items, of one after those of another. -/
def rowsInTurn {α : Type} (read : α → Except TableError (List (List Cell))) (items : List α) :
    Except TableError (List (List Cell)) := do
  return (← items.mapM read).flatten

/-- The rows of a value. -/
def valueRows (layout : Layout) (value? : Option Json) : Except TableError (List (List Cell)) :=
  (layout.rows value?).mapError .document

/-- The rows of a document that has been read. -/
def documentRows (layout : Layout) (document : Except JsonText.TextError Json) :
    Except TableError (List (List Cell)) := do
  valueRows layout (some (← document.mapError fun error => .document (.text error)))

/-- The rows of the documents of a source. -/
def sourceRows (files : Files) (layout : Layout) (multiValue : Bool) (source : Source) :
    Except TableError (List (List Cell)) := do
  rowsInTurn (documentRows layout) (documentsOf multiValue (← source.read files))

/-- The rows of a cell and the number of its row; a null cell is an absent value. -/
def cellRows (layout : Layout) (column : String) (entry : Cell × Nat) :
    Except TableError (List (List Cell)) :=
  match entry with
  | (.null, _) => valueRows layout none
  | (.string text, _) => documentRows layout (JsonText.ofText text)
  | (.json value, _) => valueRows layout (some value)
  | (other, row) => .error (.invalid s!"row {row} of column {column} is not a JSON string: {other}")

/-- The table of rows. -/
def tableOfRows (name : Option String) (definitions : List ColumnDefinition)
    (rows : List (List Cell)) : Table :=
  { name
    columns := definitions.mapIdx fun position definition =>
      ⟨definition, cellsAt position rows⟩ }

/-- The table of the sources, taken in one after another. -/
def inTurn (ingest : Ingest) (files : Files) : Except TableError Table := do
  let (layout, definitions) ← layoutOf ingest.sketch ingest.naming
  let rows ← rowsInTurn
    (fun source => (sourceRows files layout ingest.settings.multiValue source).mapError
      (.construction s!"failed to ingest JSON from {source}."))
    ingest.sources
  return (tableOfRows ingest.name definitions rows).withAttributes ingest.attributes

/-- The table of the documents in the cells of a column, one after another. -/
def fromColumnInTurn (table : Table) (name : Option String) (sketch : Sketch) :
    Except TableError Table := do
  let column ← columnOf table name
  let (layout, definitions) ← layoutOf sketch {}
  let rows ← rowsInTurn (cellRows layout column.definition.name) column.cells.zipIdx
  return tableOfRows none definitions rows

section RowsInTurn

variable {α : Type} {read : α → Except TableError (List (List Cell))}

theorem rowsInTurn_cons (item : α) (items : List α) :
    rowsInTurn read (item :: items) =
      read item >>= fun rows => rowsInTurn read items >>= fun others => .ok (rows ++ others) := by
  simp only [rowsInTurn, List.mapM_cons, bind_assoc, pure_bind]
  rfl

/-- Items that can all be read have the rows of one after those of another. -/
theorem rowsInTurn_eq_ok {items : List α} {parts : List (List (List Cell))}
    (areRead : List.Forall₂ (fun item rows => read item = .ok rows) items parts) :
    rowsInTurn read items = .ok parts.flatten := by
  induction areRead with
  | nil => rfl
  | cons isRead _ ih => simp [rowsInTurn_cons, isRead, ih]

/-- The first item that cannot be read is the one whose error is told. -/
theorem rowsInTurn_eq_error {before after : List α} {item : α} {fault : TableError}
    (areRead : ∀ earlier ∈ before, ∃ rows, read earlier = .ok rows)
    (fails : read item = .error fault) :
    rowsInTurn read (before ++ item :: after) = .error fault := by
  induction before with
  | nil => simp [rowsInTurn_cons, fails]
  | cons first rest ih =>
      rw [List.forall_mem_cons] at areRead
      rcases areRead.1 with ⟨rows, isRead⟩
      simp [rowsInTurn_cons, isRead, ih areRead.2]

/-- Whether the rows of items have all so many cells. -/
def Fits (width : Nat) (read : α → Except TableError (List (List Cell))) : Prop :=
  ∀ ⦃item rows⦄, read item = .ok rows → ∀ row ∈ rows, row.length = width

theorem Fits.inTurn {width : Nat} (fits : Fits width read) : Fits width (rowsInTurn read) := by
  intro items rows areRead
  induction items generalizing rows with
  | nil =>
      cases areRead
      simp
  | cons item rest ih =>
      simp only [rowsInTurn_cons, Except.bind_eq_ok_iff, Except.ok.injEq] at areRead
      rcases areRead with ⟨first, firstRead, others, othersRead, rfl⟩
      intro row rowMem
      rcases List.mem_append.mp rowMem with inFirst | inOthers
      · exact fits firstRead row inFirst
      · exact ih othersRead row inOthers

theorem Fits.mapError {width : Nat} (fits : Fits width read)
    (wrap : α → TableError → TableError) :
    Fits width fun item => (read item).mapError (wrap item) := by
  intro item rows areRead
  exact fits (Except.mapError_eq_ok_iff.mp areRead)

/-- Whether adding an item to a buffer of so many columns is adding its rows. -/
structure Gathers (width : Nat) (add : RowBuffer → α → Except TableError RowBuffer)
    (read : α → Except TableError (List (List Cell))) : Prop where
  ok : ∀ {buffer rows item more}, buffer.Holds width rows → read item = .ok more →
    ∃ next, add buffer item = .ok next ∧ next.Holds width (rows ++ more)
  error : ∀ {buffer rows item fault}, buffer.Holds width rows → read item = .error fault →
    add buffer item = .error fault

/-- A step gathers one item's rows, so a run gathers the rows of all of them. -/
theorem Gathers.foldlM {width : Nat} {add : RowBuffer → α → Except TableError RowBuffer}
    (gathers : Gathers width add read) :
    Gathers width (fun buffer items => items.foldlM add buffer) (rowsInTurn read) := by
  constructor
  · intro buffer rows items
    induction items generalizing buffer rows with
    | nil =>
        intro more holds areRead
        cases areRead
        exact ⟨buffer, rfl, by simpa using holds⟩
    | cons item rest ih =>
        intro more holds areRead
        simp only [rowsInTurn_cons, Except.bind_eq_ok_iff, Except.ok.injEq] at areRead
        rcases areRead with ⟨first, firstRead, others, othersRead, rfl⟩
        -- the rest are added to a buffer that holds the rows of the first item too
        rcases gathers.ok holds firstRead with ⟨middle, added, middleHolds⟩
        rcases ih middleHolds othersRead with ⟨next, goesOn, nextHolds⟩
        exact ⟨next, by simp [added, goesOn], by simpa using nextHolds⟩
  · intro buffer rows items
    induction items generalizing buffer rows with
    | nil =>
        intro fault _ fails
        cases fails
    | cons item rest ih =>
        intro fault holds fails
        cases isRead : read item with
        | error first =>
            have firstFails : first = fault := by simpa [rowsInTurn_cons, isRead] using fails
            simp [gathers.error holds isRead, firstFails]
        | ok first =>
            rcases gathers.ok holds isRead with ⟨middle, added, middleHolds⟩
            have restFails : rowsInTurn read rest = .error fault := by
              rw [rowsInTurn_cons, isRead, Except.ok_bind] at fails
              rcases Except.bind_eq_error_iff.mp fails with restFails | ⟨_, _, impossible⟩
              · exact restFails
              · cases impossible
            simpa [added] using ih middleHolds restFails

/-- The columns of a buffer to which items have been added are those of their rows. -/
theorem Gathers.finish_eq {width : Nat} {add : RowBuffer → α → Except TableError RowBuffer}
    (gathers : Gathers width add read) (items : List α) :
    (items.foldlM add (.empty width)).map RowBuffer.finish =
      (rowsInTurn read items).map (columnsOf width) := by
  have holds := RowBuffer.holds_empty width
  cases areRead : rowsInTurn read items with
  | error fault => rw [gathers.foldlM.error holds areRead]; rfl
  | ok rows =>
      rcases gathers.foldlM.ok holds areRead with ⟨buffer, added, bufferHolds⟩
      rw [List.nil_append] at bufferHolds
      rw [added]
      exact congrArg Except.ok bufferHolds.finish

end RowsInTurn

end Ingest

end JsonTables
