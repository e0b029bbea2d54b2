import JsonTables.Json

/-!
# Settings

How documents are taken in and how columns are named, unless something else is
said.
-/

namespace JsonTables

/-- How documents are taken in. -/
structure IngestSettings where
  /-- The number of rows that are added to the columns at a time. -/
  chunkSize : Nat := 1024
  /-- The greatest number of workers; zero stands for as many as there can be. -/
  maxThreads : Nat := 0
  /-- Whether a source may hold more than one document. -/
  multiValue : Bool := false
deriving DecidableEq, Repr

/-- The greatest number of workers, unless it is left open. -/
def IngestSettings.workers? (settings : IngestSettings) : Option Nat :=
  if settings.maxThreads = 0 then none else some settings.maxThreads

/-- How columns are named. -/
structure Naming where
  /-- The name of a column whose path is empty. -/
  root : String := "Value"
  /-- What stands between the parts of a path. -/
  separator : String := "_"
deriving DecidableEq, Repr

namespace Naming

/-- The name of the column at a path, which is that of the root where the path is empty. -/
def columnName (naming : Naming) (path : List String) : String :=
  if path.isEmpty then naming.root else naming.separator.intercalate path

end Naming

/-- The settings of the program. -/
structure Settings where
  ingest : IngestSettings := {}
  naming : Naming := {}
deriving DecidableEq, Repr

namespace Settings

/-- The names of the settings about documents. -/
def chunkSizeKey : String := "chunk_size"

/-- The greatest number of workers. -/
def maxThreadsKey : String := "max_threads"

/-- Whether a source may hold more than one document. -/
def multiValueKey : String := "multi_value_support"

/-- The name of a column whose path is empty. -/
def rootKey : String := "root_column_name"

/-- What stands between the parts of a path. -/
def separatorKey : String := "path_separator"

/-- The stored form of the settings. -/
def toJson (settings : Settings) : Json :=
  .object
    [ ("ingest", .object
        [ (chunkSizeKey, .number (toString settings.ingest.chunkSize)),
          (maxThreadsKey, .number (toString settings.ingest.maxThreads)),
          (multiValueKey, .bool settings.ingest.multiValue) ]),
      ("naming", .object
        [ (rootKey, .string settings.naming.root),
          (separatorKey, .string settings.naming.separator) ]) ]

end Settings

end JsonTables
