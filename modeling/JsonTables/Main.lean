import JsonTables.CommandLine

/-!
# The program

Reads the files that the arguments name and the variables that are settings, and
prints what the command line answers.
-/

namespace JsonTables

/-- The variables that the program looks at. -/
def variableNames : List String :=
  let ingest := Settings.variableStart ++ "INGEST"
  let naming := Settings.variableStart ++ "NAMING"
  let keys := fun (start : String) (names : List String) =>
    start :: names.map fun name => start ++ "__" ++ name.toUpper
  keys ingest [Settings.chunkSizeKey, Settings.maxThreadsKey, Settings.multiValueKey]
    ++ keys naming [Settings.rootKey, Settings.separatorKey]

/-- The variables of the environment that are settings. -/
def readVariables : IO (List (String × String)) :=
  variableNames.filterMapM fun name => do
    return (← IO.getEnv name).map fun value => (name, value)

/-- The bytes of a file, or why it cannot be read. -/
def readFile (path : String) : IO (Except String JsonText.Bytes) := do
  try
    let bytes ← IO.FS.readBinFile path
    return .ok bytes.toList
  catch error => return .error (toString error)

/-- Reads files, each to its bytes or to the cause that it has none. -/
def readFiles (paths : List String) : IO Files := do
  let known ← paths.mapM fun path => do return (path, ← readFile path)
  return fun path => (known.lookup path).getD (.error "no such file")

end JsonTables

open JsonTables in
/-- Runs the program. -/
def main (arguments : List String) : IO UInt32 := do
  let request := Request.read arguments
  let paths := (request.map Request.paths).toOption.getD []
  let ending := Ending.ofRequest (← readFiles paths) (← readVariables) request
  IO.print ending.output
  IO.eprint ending.complaint
  return ending.code.toUInt32
