import JsonTables.Number.IntegerText

/-!
# Requests

What the arguments of the program ask for.  An option comes with its value as the
next argument or after an equals sign, and may stand anywhere among the files.
After two hyphens alone everything is a file.
-/

namespace JsonTables

/-- What help can be asked for. -/
inductive HelpTopic
  | program
  | schema
  | ingest
  | help
deriving DecidableEq, Repr

/-- The options that may be given, and the files. -/
structure Arguments where
  options : Option String := none
  multiValue : Bool := false
  chunkSize : Option Nat := none
  maxThreads : Option Nat := none
  conditions : List String := []
  limit : Option Nat := none
  truncation : Option Nat := none
  files : List String := []
deriving DecidableEq, Repr

/-- What the program is asked for. -/
inductive Request
  | help (topic : HelpTopic)
  | version
  /-- The columns that documents would fill. -/
  | schema (options : String)
  /-- The table of documents. -/
  | ingest (options : String) (arguments : Arguments)
deriving DecidableEq, Repr

/-- Why arguments ask for nothing. -/
inductive UsageFault
  | noCommand
  | unknownCommand (name : String)
  | unexpected (argument : String)
  | noValue (option : String)
  | needlessValue (option : String)
  | invalidValue (option value : String)
  | repeatedOption (option : String)
  | missing (argument : String)
deriving DecidableEq, Repr

/-- The text of a fault in the arguments. -/
def UsageFault.message : UsageFault → String
  | noCommand => "a subcommand is required"
  | unknownCommand name => s!"unrecognized subcommand '{name}'"
  | unexpected argument => s!"unexpected argument '{argument}' found"
  | noValue option => s!"a value is required for '{option}' but none was supplied"
  | needlessValue option => s!"unexpected value for '{option}' found"
  | invalidValue option value => s!"invalid value '{value}' for '{option}'"
  | repeatedOption option => s!"the argument '{option}' cannot be used multiple times"
  | missing argument => s!"the required argument '{argument}' was not provided"

namespace Arguments

/-- What becomes of the arguments where an option or a file is read: help may be
asked for instead. -/
inductive Step
  | done (arguments : Arguments)
  | help

/-- Whether an argument is an option, or the two hyphens before files. -/
def isOption (argument : String) : Bool :=
  match argument.toList with
  | '-' :: _ :: _ => true
  | _ => false

/-- The options of `schema`, all of which have a value. -/
def schemaOptions : List String := ["--options"]

/-- The options of `ingest` that have a value. -/
def ingestOptions : List String :=
  ["--options", "--chunk-size", "--max-threads", "--where", "--limit", "--truncate"]

/-- The option of `ingest` that has no value. -/
def multiValueOption : String := "--multi-value"

/-- The value of an option that is a count, of 64 bits. -/
def readCount (option value : String) : Except UsageFault Nat :=
  match (Number.Bounds.unsigned 64).read value with
  | .ok count => .ok count.toNat
  | .error _ => .error (.invalidValue option value)

/-- Gives an option its value, which it has only once. -/
def once {α : Type} (option : String) (known : Option α) (read : Except UsageFault α) :
    Except UsageFault (Option α) := do
  if known.isSome then throw (.repeatedOption option)
  return some (← read)

/-- Refuses an empty path. -/
def readPath (option value : String) : Except UsageFault String :=
  if value.isEmpty then .error (.invalidValue option value) else .ok value

/-- Takes in an option with its value. -/
def setOption (known : Arguments) (option value : String) : Except UsageFault Arguments := do
  if option = "--options" then
    return { known with options := ← once option known.options (readPath option value) }
  else if option = "--chunk-size" then
    return { known with chunkSize := ← once option known.chunkSize (readCount option value) }
  else if option = "--max-threads" then
    return { known with maxThreads := ← once option known.maxThreads (readCount option value) }
  else if option = "--where" then
    return { known with conditions := known.conditions ++ [value] }
  else if option = "--limit" then
    return { known with limit := ← once option known.limit (readCount option value) }
  else
    return { known with truncation := ← once option known.truncation (readCount option value) }

/-- The name of an option and the value after its equals sign, if there is one. -/
def splitValue (argument : String) : String × Option String :=
  let chars := argument.toList
  let name := String.ofList (chars.takeWhile (· != '='))
  match chars.dropWhile (· != '=') with
  | [] => (name, none)
  | _ :: value => (name, some (String.ofList value))

/-- The arguments that a command takes. -/
structure Grammar where
  /-- The options that have a value. -/
  valued : List String
  /-- Whether there is the option without a value. -/
  hasMultiValue : Bool
  hasFiles : Bool

/-- Takes in the path of a file, if the command has files. -/
def addFile (grammar : Grammar) (known : Arguments) (file : String) :
    Except UsageFault Arguments := do
  if !grammar.hasFiles then throw (.unexpected file)
  return { known with files := known.files ++ [← readPath "<FILES>..." file] }

/-- Takes in an option without a value. -/
def setFlag (grammar : Grammar) (known : Arguments) (argument : String) :
    Except UsageFault Step := do
  let (name, value?) := splitValue argument
  if argument.toList.take 2 = ['-', 'h'] || argument = "--help" then return .help
  else if name = multiValueOption && grammar.hasMultiValue then
    if value?.isSome then throw (.needlessValue name)
    if known.multiValue then throw (.repeatedOption name)
    return .done { known with multiValue := true }
  else throw (.unexpected argument)

/-- Reads the arguments of a command; nothing is what remains if help is asked
for. -/
def read (grammar : Grammar) (known : Arguments) :
    List String → Except UsageFault (Option Arguments)
  | [] => .ok (some known)
  | "--" :: files => do return some (← files.foldlM (addFile grammar) known)
  | [argument] => do
      let (name, value?) := splitValue argument
      if grammar.valued.contains name then
        match value? with
        | some value => return some (← known.setOption name value)
        | none => throw (.noValue name)
      else if isOption argument then
        match ← setFlag grammar known argument with
        | .done known => return some known
        | .help => return none
      else return some (← addFile grammar known argument)
  | argument :: next :: rest => do
      let (name, value?) := splitValue argument
      if grammar.valued.contains name then
        match value? with
        | some value => read grammar (← known.setOption name value) (next :: rest)
        | none =>
            if isOption next then throw (.noValue name)
            else read grammar (← known.setOption name next) rest
      else if isOption argument then
        match ← setFlag grammar known argument with
        | .done known => read grammar known (next :: rest)
        | .help => return none
      else read grammar (← addFile grammar known argument) (next :: rest)

/-- The value of an option that must be given. -/
def required (option : String) (value? : Option String) : Except UsageFault String :=
  match value? with
  | some value => .ok value
  | none => .error (.missing option)

end Arguments

namespace Request

/-- The request of the arguments behind `schema`. -/
def readSchema (arguments : List String) : Except UsageFault Request := do
  match ← Arguments.read ⟨Arguments.schemaOptions, false, false⟩ {} arguments with
  | none => return help .schema
  | some known => return schema (← Arguments.required "--options" known.options)

/-- The request of the arguments behind `ingest`, which needs files. -/
def readIngest (arguments : List String) : Except UsageFault Request := do
  match ← Arguments.read ⟨Arguments.ingestOptions, true, true⟩ {} arguments with
  | none => return help .ingest
  | some known =>
      let options ← Arguments.required "--options" known.options
      if known.files.isEmpty then throw (.missing "<FILES>...")
      return ingest options known

/-- Reads what help is asked for. -/
def readHelp : List String → Except UsageFault Request
  | [] => .ok (help .program)
  | ["schema"] => .ok (help .schema)
  | ["ingest"] => .ok (help .ingest)
  | ["help"] => .ok (help .help)
  | "schema" :: next :: _ => .error (.unknownCommand next)
  | "ingest" :: next :: _ => .error (.unknownCommand next)
  | "help" :: next :: _ => .error (.unknownCommand next)
  | name :: _ => .error (.unknownCommand name)

/-- Reads the arguments of the program. -/
def read : List String → Except UsageFault Request
  | [] => .error .noCommand
  | "schema" :: rest => readSchema rest
  | "ingest" :: rest => readIngest rest
  | "help" :: rest => readHelp rest
  | first :: _ =>
      let start := first.toList.take 2
      if first = "--help" || start = ['-', 'h'] then .ok (help .program)
      else if first = "--version" || start = ['-', 'V'] then .ok version
      else if Arguments.isOption first then .error (.unexpected first)
      else .error (.unknownCommand first)

/-- The files that a request needs. -/
def paths : Request → List String
  | help _ | version => []
  | schema options => [options]
  | ingest options arguments => options :: arguments.files

end Request

end JsonTables
