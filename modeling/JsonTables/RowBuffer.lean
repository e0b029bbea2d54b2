import JsonTables.Cell
import JsonTables.TableError

/-!
# Row buffers

Rows are spread over columns in chunks: a row waits until as many rows as make a
chunk have come, and then the cells of all of them go to the columns.
-/

namespace JsonTables

/-- Columns of cells, and the rows that wait to be spread over them. -/
structure RowBuffer where
  columns : List (Array Cell)
  waiting : Array (List Cell) := #[]

namespace RowBuffer

/-- So many columns without cells. -/
def noCells (width : Nat) : List (Array Cell) :=
  List.replicate width #[]

/-- Adds to every column the item at its place; columns without one stay as they are. -/
def addEach {α : Type} (add : Array Cell → α → Array Cell) :
    List (Array Cell) → List α → List (Array Cell)
  | column :: columns, item :: items => add column item :: addEach add columns items
  | columns, _ => columns

/-- A buffer that no row has come to. -/
def empty (width : Nat) : RowBuffer :=
  { columns := noCells width }

/-- Spreads the waiting rows over the columns. -/
def flush (buffer : RowBuffer) : RowBuffer :=
  { columns := buffer.waiting.foldl (addEach Array.push) buffer.columns }

/-- Takes a row; it waits unless a chunk of the given size is full. -/
def push (size : Nat) (buffer : RowBuffer) (row : List Cell) : RowBuffer :=
  let waiting := buffer.waiting.push row
  if size ≤ waiting.size then flush { buffer with waiting } else { buffer with waiting }

/-- Takes a row that must have a cell for every column. -/
def take (size : Nat) (buffer : RowBuffer) (row : List Cell) : Except TableError RowBuffer :=
  if row.length = buffer.columns.length then .ok (buffer.push size row)
  else
    .error (.issue ⟨.internalError,
      s!"expected {buffer.columns.length} values in a row, found {row.length}"⟩)

/-- Adds rows to a buffer, one after the other. -/
def extend (size : Nat) (buffer : RowBuffer) (rows : List (List Cell)) :
    Except TableError RowBuffer :=
  rows.foldlM (take size) buffer

/-- The columns of all rows that have come. -/
def finish (buffer : RowBuffer) : List (List Cell) :=
  buffer.flush.columns.map Array.toList

/-- The columns of parts, one part under another. -/
def join (width : Nat) (parts : List (List (List Cell))) : List (List Cell) :=
  (parts.foldl (addEach fun column (cells : List Cell) => column ++ cells) (noCells width)).map
    Array.toList

end RowBuffer

end JsonTables
