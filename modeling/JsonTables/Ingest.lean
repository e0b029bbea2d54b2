import JsonTables.Layout
import JsonTables.RowBuffer
import JsonTables.Sketch
import JsonTables.Table

/-!
# Taking in documents

A table is made of documents: the rows of one source after those of another, and
every row spread over the columns.  Sources are dealt out to workers in turn, and
rows go to the columns in chunks; neither shows in the table.
-/

namespace JsonTables

open JsonText (Bytes)

/-- What is in the files: the bytes of a file, or why they cannot be read. -/
abbrev Files := String → Except String Bytes

/-- Where documents are. -/
inductive Source
  | text (content : String)
  | bytes (content : Bytes)
  | file (path : String)
deriving Repr

namespace Source

/-- What is said of a source. -/
protected def toString : Source → String
  | text content => s!"text ({content.utf8ByteSize} bytes)"
  | bytes content => s!"bytes ({content.length} bytes)"
  | file path => s!"file {path}"

instance : ToString Source := ⟨Source.toString⟩

/-- The bytes of a source, which may be those of a file. -/
def read (files : Files) : Source → Except TableError Bytes
  | text content => .ok (JsonText.bytesOf content)
  | bytes content => .ok content
  | file path => (files path).mapError .io

end Source

namespace Ingest

/-- The definitions of the columns of a layout. -/
def definitionsOf (layout : Layout) : Except TableError (List ColumnDefinition) :=
  (layout.names.zip layout.columns).mapM fun (name, column) =>
    ColumnDefinition.of name column.type

/-- The shape of a sketch and the columns that it fills. -/
def layoutOf (sketch : Sketch) (naming : Naming) :
    Except TableError (Layout × List ColumnDefinition) := do
  let shape ← sketch.resolve.mapError .document
  let layout ← (Layout.ofShape shape naming).mapError .document
  return (layout, ← definitionsOf layout)

/-! ### Sources -/

/-- Adds the rows of a value, or of none, to a buffer. -/
def addValue (layout : Layout) (chunkSize : Nat) (buffer : RowBuffer) (value? : Option Json) :
    Except TableError RowBuffer := do
  buffer.extend chunkSize (← (layout.rows value?).mapError .document)

/-- Adds the rows of a document that has been read to a buffer. -/
def addDocument (layout : Layout) (chunkSize : Nat) (buffer : RowBuffer)
    (document : Except JsonText.TextError Json) : Except TableError RowBuffer := do
  let document ← document.mapError fun error => .document (.text error)
  addValue layout chunkSize buffer (some document)

/-- The documents that some bytes are: any number of them, or one. -/
def documentsOf (multiValue : Bool) (bytes : Bytes) : List (Except JsonText.TextError Json) :=
  if multiValue then JsonText.stream bytes else [JsonText.ofBytes bytes]

/-- The columns of the rows of a source, in which every document counts. -/
def sourceColumns (files : Files) (layout : Layout) (settings : IngestSettings)
    (source : Source) : Except TableError (List (List Cell)) :=
  let outcome : Except TableError (List (List Cell)) := do
    let documents := documentsOf settings.multiValue (← source.read files)
    let buffer ← documents.foldlM (addDocument layout settings.chunkSize)
      (.empty layout.names.length)
    return buffer.finish
  outcome.mapError (.construction s!"failed to ingest JSON from {source}.")

/-! ### Workers -/

/-- The items, with their places, that fall to a worker when they are dealt out in
turn. -/
def dealt {α : Type} (workers worker : Nat) (items : List α) : List (α × Nat) :=
  items.zipIdx.filter fun (_, place) => place % workers == worker

/-- What workers make of items, in the order of the items. -/
def workOn {α β : Type} (workers : Nat) (work : α → β) (items : List α) : List β :=
  let results := (List.range workers).flatMap fun worker =>
    (dealt workers worker items).map fun (item, place) => (work item, place)
  (results.mergeSort fun first second => first.2 ≤ second.2).map (·.1)

end Ingest

/-- What a table is made of. -/
structure Ingest where
  sketch : Sketch
  sources : List Source
  settings : IngestSettings := {}
  name : Option String := none
  attributes : List (String × String) := []
  naming : Naming := {}

namespace Ingest

/-- Refuses an ingestion without sources, or with settings of zero. -/
def check (ingest : Ingest) : Except TableError Unit := do
  if ingest.sources.isEmpty then throw (.invalid "at least one source is required")
  if ingest.settings.chunkSize = 0 then throw (.invalid "chunk_size must be positive")
  if ingest.settings.maxThreads = 0 then throw (.invalid "max_threads must be positive")

/-- The table of columns of cells, of which there must be one for each definition. -/
def tableOf (name : Option String) (definitions : List ColumnDefinition)
    (cells : List (List Cell)) : Except TableError Table := do
  if definitions.length ≠ cells.length then
    throw (.issue ⟨.internalError, s!"table has {definitions.length} column definitions "
      ++ s!"but {cells.length} columns"⟩)
  Table.ofColumns name (List.zipWith Column.mk definitions cells)

/-- Takes in every source. -/
def run (ingest : Ingest) (files : Files) : Except TableError Table := do
  ingest.check
  let (layout, definitions) ← layoutOf ingest.sketch ingest.naming
  let workers := min ingest.settings.maxThreads ingest.sources.length
  let results := workOn workers (sourceColumns files layout ingest.settings) ingest.sources
  let parts ← results.mapM id
  let table ← tableOf ingest.name definitions (RowBuffer.join definitions.length parts)
  return table.withAttributes ingest.attributes

/-! ### Documents in a table -/

/-- Adds the rows of a cell that holds a document: the text of one, or a value.  Null
stands for a value that is not there. -/
def addCell (layout : Layout) (chunkSize : Nat) (column : String) (buffer : RowBuffer)
    (cell : Cell) (row : Nat) : Except TableError RowBuffer :=
  match cell with
  | .null => addValue layout chunkSize buffer none
  | .string text => addDocument layout chunkSize buffer (JsonText.ofText text)
  | .json value => addValue layout chunkSize buffer (some value)
  | other => .error (.invalid s!"row {row} of column {column} is not a JSON string: {other}")

/-- The column of a name, or the first. -/
def columnOf (table : Table) (name : Option String) : Except TableError Column :=
  match name, table.columns with
  | some name, _ => table.column name
  | none, first :: _ => .ok first
  | none, [] => .error (.invalid "table has no columns")

/-- The table of the documents in the cells of a column. -/
def fromColumn (table : Table) (name : Option String) (sketch : Sketch) (chunkSize : Nat) :
    Except TableError Table := do
  if chunkSize = 0 then throw (.invalid "chunk_size must be positive")
  let column ← columnOf table name
  let (layout, definitions) ← layoutOf sketch {}
  let buffer ← column.cells.zipIdx.foldlM
    (fun buffer (cell, row) => addCell layout chunkSize column.definition.name buffer cell row)
    (.empty definitions.length)
  tableOf none definitions buffer.finish

end Ingest

end JsonTables
