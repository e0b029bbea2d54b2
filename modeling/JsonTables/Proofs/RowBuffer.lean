import JsonTables.Proofs.Outcome
import JsonTables.RowBuffer

/-!
# What a row buffer holds

A buffer holds the rows that have come to it, in order: those of full chunks in its
columns and the others waiting.  Taking a row and spreading a chunk keep that, so the
columns at the end do not tell where the chunks began.
-/

namespace JsonTables

/-- The cells at a position of rows. -/
def cellsAt (position : Nat) (rows : List (List Cell)) : List Cell :=
  rows.filterMap fun row => row[position]?

/-- The columns of rows, each of the cells at its position. -/
def columnsOf (width : Nat) (rows : List (List Cell)) : List (List Cell) :=
  (List.range width).map fun position => cellsAt position rows

@[simp]
theorem cellsAt_append (position : Nat) (rows others : List (List Cell)) :
    cellsAt position (rows ++ others) = cellsAt position rows ++ cellsAt position others :=
  List.filterMap_append

@[simp]
theorem length_columnsOf (width : Nat) (rows : List (List Cell)) :
    (columnsOf width rows).length = width := by
  simp [columnsOf]

theorem getElem?_columnsOf {width position : Nat} (lt : position < width)
    (rows : List (List Cell)) :
    (columnsOf width rows)[position]? = some (cellsAt position rows) := by
  simp [columnsOf, lt]

/-- Rows that are long enough have each a cell in the column of a position. -/
theorem map_some_cellsAt {position : Nat} {rows : List (List Cell)}
    (long : ∀ row ∈ rows, position < row.length) :
    (cellsAt position rows).map some = rows.map fun row => row[position]? := by
  induction rows with
  | nil => rfl
  | cons row rest ih =>
      rw [List.forall_mem_cons] at long
      have isCell : row[position]? = some row[position] := List.getElem?_eq_getElem long.1
      have restCells := ih long.2
      simp only [cellsAt] at restCells
      simp [cellsAt, isCell, restCells]

namespace RowBuffer

variable {α : Type} {add : Array Cell → α → Array Cell}

@[simp]
theorem length_addEach (columns : List (Array Cell)) (items : List α) :
    (addEach add columns items).length = columns.length := by
  induction columns generalizing items with
  | nil => cases items <;> rfl
  | cons column columns ih =>
      cases items with
      | nil => rfl
      | cons item items => simp [addEach, ih]

/-- A column gets the item at its place, if there is one. -/
theorem getElem?_addEach (columns : List (Array Cell)) (items : List α) (position : Nat) :
    (addEach add columns items)[position]? =
      columns[position]?.map fun column => items[position]?.elim column (add column) := by
  induction columns generalizing items position with
  | nil => cases items <;> simp [addEach]
  | cons column columns ih =>
      cases items with
      | nil =>
          rw [addEach]
          · cases columnAt : (column :: columns)[position]? <;> simp
          · simp
      | cons item items =>
          cases position with
          | zero => rfl
          | succ position => simpa [addEach] using ih items position

/-- Whether columns of a number have the cells of rows. -/
structure Spread (width : Nat) (columns : List (Array Cell)) (rows : List (List Cell)) :
    Prop where
  length : columns.length = width
  cells : ∀ ⦃position column⦄, columns[position]? = some column →
    column.toList = cellsAt position rows

namespace Spread

variable {width : Nat} {columns : List (Array Cell)} {rows : List (List Cell)}

theorem noCells (width : Nat) : Spread width (noCells width) [] := by
  constructor
  · simp [RowBuffer.noCells]
  · intro position column columnAt
    simp only [RowBuffer.noCells, List.getElem?_replicate, Option.ite_none_right_eq_some,
      Option.some.injEq] at columnAt
    rcases columnAt with ⟨-, rfl⟩
    rfl

theorem addRow (spread : Spread width columns rows) (row : List Cell) :
    Spread width (addEach Array.push columns row) (rows ++ [row]) := by
  constructor
  · simpa using spread.length
  · intro position column columnAt
    rw [getElem?_addEach, Option.map_eq_some_iff] at columnAt
    rcases columnAt with ⟨before, beforeAt, rfl⟩
    have beforeCells := spread.cells beforeAt
    cases cellAt : row[position]? <;> simp [cellsAt, cellAt] at beforeCells ⊢ <;>
      exact beforeCells

theorem addRows (spread : Spread width columns rows) (others : List (List Cell)) :
    Spread width (others.foldl (addEach Array.push) columns) (rows ++ others) := by
  induction others generalizing columns rows with
  | nil => simpa using spread
  | cons row rest ih => simpa using ih (spread.addRow row)

theorem addPart (spread : Spread width columns rows) (others : List (List Cell)) :
    Spread width
      (addEach (fun column (cells : List Cell) => column ++ cells) columns (columnsOf width others))
      (rows ++ others) := by
  constructor
  · simpa using spread.length
  · intro position column columnAt
    rw [getElem?_addEach, Option.map_eq_some_iff] at columnAt
    rcases columnAt with ⟨before, beforeAt, rfl⟩
    have lt : position < width := by
      rw [← spread.length]
      exact (List.getElem?_eq_some_iff.mp beforeAt).1
    simp [getElem?_columnsOf lt, spread.cells beforeAt]

/-- Columns that have the cells of rows are the columns of the rows. -/
theorem map_toList (spread : Spread width columns rows) :
    columns.map Array.toList = columnsOf width rows := by
  apply List.ext_getElem?
  intro position
  rcases Nat.lt_or_ge position width with lt | ge
  · have columnAt := List.getElem?_eq_getElem (spread.length.symm ▸ lt)
    rw [getElem?_columnsOf lt, List.getElem?_map, columnAt, Option.map_some,
      spread.cells columnAt]
  · rw [List.getElem?_eq_none (by simpa [spread.length] using ge),
      List.getElem?_eq_none (by simpa using ge)]

end Spread

/-- The columns of parts are the columns of all their rows. -/
theorem join_eq (width : Nat) (parts : List (List (List Cell))) :
    join width (parts.map (columnsOf width)) = columnsOf width parts.flatten := by
  have joined : ∀ {columns : List (Array Cell)} {rows : List (List Cell)},
      Spread width columns rows →
      Spread width ((parts.map (columnsOf width)).foldl
        (addEach fun column (cells : List Cell) => column ++ cells) columns)
        (rows ++ parts.flatten) := by
    induction parts with
    | nil => intro columns rows spread; simpa using spread
    | cons part rest ih =>
        intro columns rows spread
        simpa using ih (spread.addPart part)
  have allRows := (joined (Spread.noCells width)).map_toList
  rwa [List.nil_append] at allRows

/-- Whether a buffer of so many columns holds rows: its columns have the first of
them and the others wait. -/
def Holds (buffer : RowBuffer) (width : Nat) (rows : List (List Cell)) : Prop :=
  ∃ spread, Spread width buffer.columns spread ∧ rows = spread ++ buffer.waiting.toList

variable {buffer : RowBuffer} {width : Nat} {rows : List (List Cell)}

theorem holds_empty (width : Nat) : (empty width).Holds width [] :=
  ⟨[], Spread.noCells width, rfl⟩

theorem Holds.flush (holds : buffer.Holds width rows) : buffer.flush.Holds width rows := by
  rcases holds with ⟨spread, isSpread, rfl⟩
  refine ⟨spread ++ buffer.waiting.toList, ?_, by simp [RowBuffer.flush]⟩
  simpa [RowBuffer.flush] using isSpread.addRows buffer.waiting.toList

/-- A row that is taken comes after those that are held, whether it completes a chunk
or waits. -/
theorem Holds.push (holds : buffer.Holds width rows) (size : Nat) (row : List Cell) :
    (buffer.push size row).Holds width (rows ++ [row]) := by
  have waits : { buffer with waiting := buffer.waiting.push row }.Holds width (rows ++ [row]) := by
    rcases holds with ⟨spread, isSpread, rfl⟩
    exact ⟨spread, isSpread, by simp⟩
  change RowBuffer.Holds (if size ≤ (buffer.waiting.push row).size then _ else _) _ _
  split
  · exact waits.flush
  · exact waits

theorem Holds.take (holds : buffer.Holds width rows) (size : Nat) {row : List Cell}
    (fits : row.length = width) :
    ∃ next, buffer.take size row = .ok next ∧ next.Holds width (rows ++ [row]) := by
  rcases holds with ⟨spread, isSpread, isRows⟩
  refine ⟨buffer.push size row, ?_, Holds.push ⟨spread, isSpread, isRows⟩ size row⟩
  rw [RowBuffer.take, if_pos (by rw [fits, isSpread.length])]

/-- Rows of the right width are all taken, in their order, whatever the size of a chunk. -/
theorem Holds.extend (holds : buffer.Holds width rows) (size : Nat) {others : List (List Cell)}
    (fit : ∀ row ∈ others, row.length = width) :
    ∃ next, buffer.extend size others = .ok next ∧ next.Holds width (rows ++ others) := by
  induction others generalizing buffer rows with
  | nil => exact ⟨buffer, rfl, by simpa using holds⟩
  | cons row rest ih =>
      rw [List.forall_mem_cons] at fit
      rcases holds.take size fit.1 with ⟨middle, takes, middleHolds⟩
      rcases ih middleHolds fit.2 with ⟨next, goesOn, nextHolds⟩
      refine ⟨next, ?_, by simpa using nextHolds⟩
      simpa [RowBuffer.extend, takes] using goesOn

/-- The columns at the end are those of the rows, with no trace of chunks. -/
theorem Holds.finish (holds : buffer.Holds width rows) :
    buffer.finish = columnsOf width rows := by
  rcases holds with ⟨spread, isSpread, rfl⟩
  exact (isSpread.addRows buffer.waiting.toList).map_toList ▸ by
    simp [RowBuffer.finish, RowBuffer.flush]

end RowBuffer

end JsonTables
