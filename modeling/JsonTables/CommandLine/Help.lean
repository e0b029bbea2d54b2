import JsonTables.CommandLine.Request

/-!
# Help

What the program says of itself.
-/

namespace JsonTables

namespace HelpTopic

/-- The lines about the commands. -/
def commandLines : List String :=
  [ "Commands:",
    "  schema  Print the output columns of a JSON value type description",
    "  ingest  Ingest JSON files and print the resulting table",
    "  help    Print this message or the help of the given subcommand(s)" ]

/-- The lines about a topic. -/
def lines : HelpTopic → List String
  | program =>
      [ "Ingest JSON documents into typed tables",
        "",
        "Usage: quarry <COMMAND>",
        "" ]
      ++ commandLines ++
      [ "",
        "Options:",
        "  -h, --help     Print help",
        "  -V, --version  Print version" ]
  | schema =>
      [ "Print the output columns of a JSON value type description",
        "",
        "Usage: quarry schema --options <OPTIONS>",
        "",
        "Options:",
        "      --options <OPTIONS>  Path to the JSON value type description",
        "  -h, --help               Print help" ]
  | ingest =>
      [ "Ingest JSON files and print the resulting table",
        "",
        "Usage: quarry ingest [OPTIONS] --options <OPTIONS> <FILES>...",
        "",
        "Arguments:",
        "  <FILES>...  JSON files to ingest",
        "",
        "Options:",
        "      --options <OPTIONS>          Path to the JSON value type description",
        "      --multi-value                Allow multiple whitespace-separated JSON values "
          ++ "in each file",
        "      --chunk-size <CHUNK_SIZE>    Number of rows appended at a time (default: from "
          ++ "configuration)",
        "      --max-threads <MAX_THREADS>  Maximum number of worker threads (default: from "
          ++ "configuration)",
        "      --where <CONDITIONS>         Row conditions such as `price > 10`, all of which "
          ++ "must hold",
        "      --limit <LIMIT>              Maximum number of rows to print",
        "      --truncate <TRUNCATE>        Truncate cell values to this many characters (0 = "
          ++ "no truncation) [default: 0]",
        "  -h, --help                       Print help" ]
  | help =>
      [ "Print this message or the help of the given subcommand(s)",
        "",
        "Usage: quarry help [COMMAND]",
        "" ]
      ++ commandLines

/-- The text about a topic. -/
def text (topic : HelpTopic) : String :=
  "\n".intercalate topic.lines ++ "\n"

end HelpTopic

/-- What the program says of its version. -/
def versionText : String := "quarry 0.1.0\n"

end JsonTables
