import JsonTables.Cell.Coerce
import JsonTables.TableError

/-!
# Columns

A column has a name, a type and cells of that type.
-/

namespace JsonTables

/-- What a column is for. -/
inductive ColumnKind
  | normal
  | partitioning
deriving DecidableEq, Repr

namespace ColumnKind

/-- The name of a kind of columns. -/
def name : ColumnKind → String
  | normal => "normal"
  | partitioning => "partitioning"

end ColumnKind

/-- The name and the type of a column.  The component of an array type is named
beside it. -/
structure ColumnDefinition where
  name : String
  type : DataType
  component : Option DataType := none
  kind : ColumnKind := .normal
deriving DecidableEq, Repr

namespace ColumnDefinition

/-- The component of a column's type; one that is given must be the right one. -/
def componentFor (name : String) (type : DataType) :
    Option DataType → Except TableError (Option DataType)
  | none => .ok type.component?
  | some given =>
      match type.component? with
      | none =>
          .error (.invalid <| s!"component type {given} is not allowed for non-array column "
            ++ s!"{name} of type {type}")
      | some element =>
          if element = given then .ok (some given)
          else
            .error (.invalid <| s!"component type {given} does not match the element type "
              ++ s!"{element} of column {name}")

/-- A definition with a name and with the component of its type. -/
def of (name : String) (type : DataType) (component : Option DataType := none)
    (kind : ColumnKind := .normal) : Except TableError ColumnDefinition := do
  if name.isEmpty then throw (.invalid "column name must not be empty")
  return ⟨name, type, ← componentFor name type component, kind⟩

end ColumnDefinition

/-- A definition and the cells of a column. -/
structure Column where
  definition : ColumnDefinition
  cells : List Cell

namespace Column

/-- Converts cells to a type, from a row on. -/
def coerceFrom (type : DataType) (row : Nat) : List Cell → Except TableError (List Cell)
  | [] => .ok []
  | cell :: rest => do
      let cell ← (cell.coerce type).mapError fun fault =>
        .invalid s!"row {row}: {fault.message}"
      return cell :: (← coerceFrom type (row + 1) rest)

/-- A column of cells that are converted to its type. -/
def of (name : String) (type : DataType) (component : Option DataType) (kind : ColumnKind)
    (cells : List Cell) : Except TableError Column :=
  let outcome : Except TableError Column := do
    let definition ← ColumnDefinition.of name type component kind
    return ⟨definition, ← coerceFrom type 0 cells⟩
  outcome.mapError (.construction s!"failed to create an InputColumn ({name}).")

/-- A column of a plain type. -/
def ofType (name : String) (type : DataType) (cells : List Cell) : Except TableError Column :=
  of name type none .normal cells

/-- The column of strings with certain texts. -/
def ofTexts (name : String) (texts : List String) : Except TableError Column :=
  ofType name .string (texts.map .string)

end Column

end JsonTables
