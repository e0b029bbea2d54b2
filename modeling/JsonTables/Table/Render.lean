import JsonTables.Table
import JsonTables.Text.Escape
import JsonTables.Text.Width

/-!
# Showing tables

A table is drawn with lines of characters around its header and its rows.  Every
column is as wide as the widest text in it, and no column is narrower than three.
-/

namespace JsonTables.Table

/-- The least width of a column. -/
def leastWidth : Nat := 3

/-- Cuts a text to a number of characters, the last three of which are dots if
there is room for them.  Zero stands for no limit. -/
def truncate (limit : Nat) (text : String) : String :=
  let chars := text.toList
  if limit = 0 || chars.length ≤ limit then text
  else if limit < 4 then String.ofList (chars.take limit)
  else String.ofList (chars.take (limit - 3) ++ ['.', '.', '.'])

/-- The text that shows a cell. -/
def cellText (limit : Nat) (cell : Cell) : String :=
  match cell with
  | .null => "NULL"
  | value => truncate limit (Text.escapeMeta (toString value))

/-- So many times a character. -/
def fill (char : Char) (count : Nat) : String :=
  String.ofList (List.replicate count char)

/-- A text with blanks before it or after it, up to a width. -/
def pad (toRight : Bool) (width : Nat) (text : String) : String :=
  let blanks := fill ' ' (width - Text.displayWidth text)
  if toRight then blanks ++ text else text ++ blanks

/-- The width of a column of texts. -/
def widthOf (texts : List String) : Nat :=
  texts.foldl (fun width text => max width (Text.displayWidth text)) leastWidth

/-- A line between or around the rows. -/
def ruleLine (widths : List Nat) : String :=
  "+" ++ "+".intercalate (widths.map (fill '-')) ++ "+"

/-- A line of texts that are as wide as their columns. -/
def textLine (texts : List String) : String :=
  "|" ++ "|".intercalate texts ++ "|"

/-- The lines of texts that are given by columns, for so many lines. -/
def textLines : Nat → List (List String) → List String
  | 0, _ => []
  | count + 1, columns =>
      textLine (columns.filterMap List.head?) :: textLines count (columns.map List.tail)

/-- What is said under a table of which only some rows are shown. -/
def footer (shown total : Nat) : String :=
  if total ≤ shown then ""
  else if shown = 1 then "only showing top 1 row\n"
  else s!"only showing top {shown} rows\n"

/-- Draws a header and so many rows, which are given by columns of texts. -/
def draw (texts : List (List String)) (shown : Nat) (toRight : Bool) : String :=
  let widths := texts.map widthOf
  let padded := texts.map fun column => column.map (pad toRight (widthOf column))
  let rule := ruleLine widths
  let header := if texts.isEmpty then [] else textLines 1 padded
  let body := textLines shown (padded.map List.tail)
  "\n".intercalate ([rule] ++ header ++ [rule] ++ body ++ [rule]) ++ "\n"

/-- Shows so many rows of a table.  Cells are cut to a number of characters and
then stand at the right; zero leaves them whole and at the left. -/
def render (table : Table) (limit truncation : Nat) : String :=
  let shown := min table.rowCount limit
  let texts := table.columns.map fun column =>
    Text.escapeMeta column.definition.name
      :: (column.cells.take shown).map (cellText truncation)
  draw texts shown (truncation != 0) ++ footer shown table.rowCount

/-- Every row of a table, with whole cells. -/
protected def toString (table : Table) : String :=
  table.render table.rowCount 0

instance : ToString Table := ⟨Table.toString⟩

end JsonTables.Table
