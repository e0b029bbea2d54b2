import JsonTables.CommandLine.Help
import JsonTables.Condition.Reader
import JsonTables.Ingest
import JsonTables.Settings.Environment
import JsonTables.Table.Render

/-!
# The command line

One command shows the columns that documents of a type would fill, the other
takes documents in and shows their table.  Files, variables and arguments are
given as values, so what the program does is a function of them.
-/

namespace JsonTables

/-- Why a request fails. -/
inductive RequestError
  | io (cause : String)
  /-- A file that should be text is not. -/
  | encoding
  | text (error : JsonText.TextError)
  | issue (issue : Issue)
  | table (error : TableError)

/-- The text of an error, as it is printed. -/
def RequestError.message : RequestError → String
  | io cause => cause
  | encoding => "stream did not contain valid UTF-8"
  | text error => error.message
  | issue cause => cause.message
  | table error => error.message

namespace Request

/-- Reads the description of a type from a file. -/
def readSketch (files : Files) (path : String) : Except RequestError Sketch := do
  let bytes ← (files path).mapError .io
  match String.fromUTF8? ⟨bytes.toArray⟩ with
  | none => throw .encoding
  | some text =>
      let value ← (JsonText.ofTextMerged text).mapError .text
      (Sketch.ofJson value).mapError fun error => .table (.document error)

/-- The table of the columns that documents of a type would fill. -/
def schemaTable (sketch : Sketch) (naming : Naming) : Except TableError Table := do
  let shape ← sketch.resolve.mapError .document
  let layout ← (Layout.ofShape shape naming).mapError .document
  let names ← Column.ofTexts "column" layout.names
  let types ← Column.ofTexts "type" (layout.columns.map fun column => toString column.type)
  Table.ofColumns none [names, types]

/-- The settings of an ingestion under the arguments that are given for it. -/
def settingsOf (usual : IngestSettings) (arguments : Arguments) : IngestSettings where
  chunkSize := arguments.chunkSize.getD usual.chunkSize
  maxThreads := arguments.maxThreads.getD (usual.workers?.getD 1)
  multiValue := usual.multiValue || arguments.multiValue

/-- The rows of a table that meet all of some conditions. -/
def restrict (table : Table) (conditions : List String) : Except TableError Table := do
  if conditions.isEmpty then return table
  else
    let known ← Condition.readEach conditions
    table.filter (.all (known.map .condition))

/-- The table of documents that arguments ask for. -/
def ingestTable (files : Files) (settings : Settings) (sketch : Sketch)
    (arguments : Arguments) : Except TableError Table := do
  let ingest : Ingest :=
    { sketch
      sources := arguments.files.map .file
      settings := settingsOf settings.ingest arguments
      naming := settings.naming }
  restrict (← ingest.run files) arguments.conditions

/-- What is printed in answer to a request. -/
def answer (files : Files) (environment : List (String × String)) :
    Request → Except RequestError String
  | help topic => .ok topic.text
  | version => .ok versionText
  | schema options => do
      let settings ← (Settings.load environment).mapError .issue
      let sketch ← readSketch files options
      let table ← (schemaTable sketch settings.naming).mapError .table
      return toString table
  | ingest options arguments => do
      let settings ← (Settings.load environment).mapError .issue
      let sketch ← readSketch files options
      let table ← (ingestTable files settings sketch arguments).mapError .table
      return table.render (arguments.limit.getD table.rowCount) (arguments.truncation.getD 0)

end Request

/-- How the program ends: its exit code, what it prints, and what it complains of. -/
structure Ending where
  code : Nat
  output : String := ""
  complaint : String := ""
deriving DecidableEq, Repr

namespace Ending

/-- How the program ends on a request or on wrong usage. -/
def ofRequest (files : Files) (environment : List (String × String)) :
    Except UsageFault Request → Ending
  | .error fault => { code := 2, complaint := s!"error: {fault.message}\n" }
  | .ok request =>
      match request.answer files environment with
      | .ok output => { code := 0, output }
      | .error error => { code := 1, complaint := s!"Error: {error.message}\n" }

/-- How the program ends, given its arguments, the variables of its environment
and the files. -/
def ofArguments (arguments : List String) (environment : List (String × String))
    (files : Files) : Ending :=
  ofRequest files environment (Request.read arguments)

end Ending

end JsonTables
