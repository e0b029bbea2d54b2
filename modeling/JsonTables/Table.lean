import JsonTables.Column
import JsonTables.Filter
import JsonTables.Json
import JsonTables.Text.Repeats

/-!
# Tables

A table is a list of columns with different names and with as many cells as each
other.  What is derived from a table keeps its name, its columns' definitions and
its attributes.
-/

namespace JsonTables

/-- A table.  One that is made has columns of different names with equally many cells. -/
structure Table where
  /-- The name of a table, if it was given one. -/
  name : Option String
  columns : List Column
  attributes : List (String × String) := []

namespace Table

/-- The definitions of the columns. -/
def definitions (table : Table) : List ColumnDefinition :=
  table.columns.map (·.definition)

/-- The names of the columns. -/
def columnNames (table : Table) : List String :=
  table.definitions.map (·.name)

/-- The cells of every column. -/
def cells (table : Table) : List (List Cell) :=
  table.columns.map (·.cells)

/-- The number of rows of columns. -/
def height : List Column → Nat
  | [] => 0
  | column :: _ => column.cells.length

/-- The number of rows; without columns there are none. -/
def rowCount (table : Table) : Nat :=
  height table.columns

/-- The number of columns. -/
def columnCount (table : Table) : Nat :=
  table.columns.length

/-! ### Making -/

/-- Refuses columns of which two have one name. -/
def checkNames (columns : List Column) : Except TableError Unit :=
  match Text.firstRepeated? [] (columns.map (·.definition.name)) with
  | some name => .error (.invalid s!"duplicate column name: {name}")
  | none => .ok ()

/-- Refuses columns of which one has not as many cells as the first. -/
def checkHeights (columns : List Column) : Except TableError Unit :=
  match columns with
  | [] => .ok ()
  | first :: rest =>
      match rest.find? fun column => column.cells.length != first.cells.length with
      | some column =>
          .error (.invalid <| s!"column {column.definition.name} has {column.cells.length} rows "
            ++ s!"but column {first.definition.name} has {first.cells.length} rows")
      | none => .ok ()

/-- The table of columns, which must have different names and equally many cells. -/
def ofColumns (name : Option String) (columns : List Column) : Except TableError Table := do
  checkNames columns
  checkHeights columns
  return { name, columns }

/-- The table with more attributes; those of a name that it has are replaced. -/
def withAttributes (table : Table) (attributes : List (String × String)) : Table :=
  { table with
    attributes := attributes.foldl (fun known entry => Json.putEntry known entry.1 entry.2)
      table.attributes }

/-! ### Looking up -/

/-- The column that has a name. -/
def column (table : Table) (name : String) : Except TableError Column :=
  match table.columns.find? (·.definition.name == name) with
  | some found => .ok found
  | none => .error (.invalid s!"column not found: {name}")

/-- The cells of a row, of which every column must have one. -/
def row? (table : Table) (index : Nat) : Option (List Cell) :=
  table.columns.mapM (·.cells[index]?)

/-- So many rows from the start of columns. -/
def rowsOf : Nat → List (List Cell) → List (List Cell)
  | 0, _ => []
  | count + 1, columns =>
      columns.filterMap List.head? :: rowsOf count (columns.map List.tail)

/-- The rows of a table. -/
def rows (table : Table) : List (List Cell) :=
  rowsOf table.rowCount table.cells

/-! ### Deriving -/

/-- The table with cells made of the cells of each column. -/
def derive (table : Table) (change : List Cell → List Cell) : Table :=
  { table with
    columns := table.columns.map fun column =>
      { column with cells := change column.cells } }

/-- The cell of a name among the cells of a row. -/
def cellOf (names : List String) (row : List Cell) (name : String) : Option Cell :=
  (names.zip row).lookup name

/-- The items that are marked. -/
def keep {α : Type} : List Bool → List α → List α
  | mark :: marks, item :: items =>
      if mark then item :: keep marks items else keep marks items
  | _, _ => []

/-- The table with the rows that pass a filter.  The table must have every column
that the filter asks for. -/
def filter (table : Table) (asked : Filter) : Except TableError Table := do
  for name in asked.columns do
    let _ ← table.column name
  let marks := table.rows.map fun row => asked.test (cellOf table.columnNames row)
  return table.derive (keep marks)

/-- The table with so many rows from its start. -/
def head (table : Table) (count : Nat) : Table :=
  table.derive (List.take count)

end Table

end JsonTables
