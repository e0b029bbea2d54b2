import JsonTables.JsonText.Reader
import JsonTables.Settings
import JsonTables.Shape.Fill
import JsonTables.Text.Repeats

/-!
# Layouts

A layout says which columns documents of a shape fill, and under which names.  A
document is one row; if its shape is a list, every item of the list is a row.
-/

namespace JsonTables

/-- The named columns of a shape. -/
structure Layout where
  shape : Shape
  columns : List ShapeColumn
  names : List String

namespace Layout

/-- The shape of a row: the element of an array, or else the whole shape. -/
def rowShape : Shape → Shape
  | .array element _ => element
  | other => other

/-- The layout of a shape; no two columns may have one name. -/
def ofShape (shape : Shape) (naming : Naming) : Except DocumentError Layout :=
  let columns := (rowShape shape).columns
  let names := columns.map fun column => naming.columnName column.path
  match Text.firstRepeated? [] names with
  | some name => .error (.invalid s!"duplicate output column name: {name}")
  | none => .ok ⟨shape, columns, names⟩

/-- The rows of a value; an absent value is none. -/
def readRows (shape : Shape) (value? : Option Json) : Except ValueError (List (List Cell)) :=
  match shape with
  | .array element _ => do
      shape.checkKind [] value?
      match value? with
      | some (.array items) => Shape.readItems (Shape.ownRow element.fill) [] 0 items
      | _ => return []
  | other => do return [← Shape.ownRow other.fill [] value?]

/-- The rows of a document, or of a value that is absent. -/
def rows (layout : Layout) (value? : Option Json) : Except DocumentError (List (List Cell)) :=
  (readRows layout.shape value?).mapError .value

/-- The rows of a document that is given as text. -/
def rowsOfText (layout : Layout) (text : String) : Except DocumentError (List (List Cell)) := do
  let document ← (JsonText.ofText text).mapError .text
  layout.rows (some document)

end Layout

end JsonTables
