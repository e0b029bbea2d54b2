import JsonTables.Issue
import JsonTables.Settings
import JsonTables.Settings.Value

/-!
# Settings from the environment

A variable sets the setting whose place its name spells: the parts of the place
are joined by two underscores after the words that all the variables begin with.
Names are the same in either case of letters.  Variables that are no settings do
not matter.
-/

namespace JsonTables

/-- Why the value of a setting is refused. -/
inductive SettingFault
  | invalidType (found wanted : String)
  | invalidValue (found wanted : String)
  | invalidLength (length : Nat) (wanted : String)
deriving DecidableEq, Repr

/-- The text of a fault, without its place. -/
def SettingFault.message : SettingFault → String
  | invalidType found wanted => s!"invalid type: found {found}, expected {wanted}"
  | invalidValue found wanted => s!"invalid value {found}, expected {wanted}"
  | invalidLength length wanted => s!"invalid length {length}, expected {wanted}"

/-- A setting that is refused, and its place. -/
structure SettingError where
  place : List String
  fault : SettingFault
deriving DecidableEq, Repr

namespace Settings

/-- What the names of all the variables begin with. -/
def variableStart : String := "QUARRY__"

/-- The issue of a setting that is refused. -/
def toIssue (error : SettingError) : Issue :=
  let place := ".".intercalate (error.place.map String.toUpper)
  ⟨.invalidConfig, s!"{error.fault.message} for key \"{place}\" in `{variableStart}` "
    ++ "environment variable(s)"⟩

/-- The places in the parts of a name: two underscores separate one part from the
next, and so does a point. -/
def partsFrom (part : List Char) : List Char → List (List Char)
  | [] => [part.reverse]
  | '_' :: '_' :: rest => part.reverse :: partsFrom [] rest
  | '.' :: rest => part.reverse :: partsFrom [] rest
  | char :: rest => partsFrom (char :: part) rest

/-- The place of the setting that a variable sets, if it sets one. -/
def placeOf? (name : String) : Option (List String) :=
  let chars := Text.trim name.toList
  let start := variableStart.toList
  let lower := fun chars : List Char => chars.map Char.toLower
  if lower (chars.take start.length) = lower start then
    let parts := partsFrom [] (Text.trim (chars.drop start.length))
    if parts.any List.isEmpty then none
    else some (parts.map fun part => String.ofList (lower part))
  else none

/-- Sets the value at a place of a table. -/
def setAt (value : SettingValue) :
    List String → List (String × SettingValue) → List (String × SettingValue)
  | [], entries => entries
  | [key], entries => SettingValue.put key (merged (entries.lookup key)) entries
  | key :: rest, entries =>
      let inner :=
        match entries.lookup key with
        | some (.table inner) => inner
        | _ => []
      SettingValue.put key (.table (setAt value rest inner)) entries
where
  /-- The value in place of another; the entries of two tables come together. -/
  merged : Option SettingValue → SettingValue
    | some (.table known) =>
        match value with
        | .table entries =>
            .table (entries.foldl (fun known entry => SettingValue.put entry.1 entry.2 known) known)
        | other => other
    | _ => value

/-- The settings that variables set, as a table. -/
def tableOf (environment : List (String × String)) : List (String × SettingValue) :=
  environment.foldl (fun entries entry =>
    match placeOf? entry.1 with
    | some place => setAt (.read entry.2) place entries
    | none => entries) []

/-- A reader of the value at a place. -/
abbrev SettingReader (α : Type) := List String → SettingValue → Except SettingError α

/-- The error of a value that should be something else. -/
def wrongType {α : Type} (wanted : String) (place : List String) (value : SettingValue) :
    Except SettingError α :=
  .error ⟨place, .invalidType value.describe wanted⟩

/-- Reads a number of things. -/
def readCount : SettingReader Nat
  | _, .unsigned value => .ok value
  | place, .signed value => .error ⟨place, .invalidValue s!"signed int `{value}`" "usize"⟩
  | place, value => wrongType "usize" place value

/-- Reads a truth value. -/
def readBool : SettingReader Bool
  | _, .bool value => .ok value
  | place, value => wrongType "a boolean" place value

/-- A setting that must be a text. -/
def readText : SettingReader String
  | _, .text value => .ok value
  | _, .char value => .ok (String.ofList [value])
  | place, value => wrongType "a string" place value

/-- The value of an entry, or the usual one. -/
def entryOr {α : Type} (usual : α) (read : SettingReader α) (place : List String)
    (entries : List (String × SettingValue)) (key : String) : Except SettingError α :=
  match entries.lookup key with
  | some value => read (place ++ [key]) value
  | none => .ok usual

/-- The value of an item of a list that should be so long. -/
def itemOf {α : Type} (read : SettingReader α) (wanted : String) (place : List String)
    (items : List SettingValue) (position : Nat) : Except SettingError α :=
  match items[position]? with
  | some value => read (place ++ [toString position]) value
  | none => .error ⟨place, .invalidLength position wanted⟩

/-- Reads how documents are taken in. -/
def readIngest (usual : IngestSettings) : SettingReader IngestSettings
  | place, .table entries => do
      let chunkSize ← entryOr usual.chunkSize readCount place entries chunkSizeKey
      let maxThreads ← entryOr usual.maxThreads readCount place entries maxThreadsKey
      let multiValue ← entryOr usual.multiValue readBool place entries multiValueKey
      return ⟨chunkSize, maxThreads, multiValue⟩
  | place, .list items => do
      let wanted := "struct IngestConfig with 3 elements"
      let chunkSize ← itemOf readCount wanted place items 0
      let maxThreads ← itemOf readCount wanted place items 1
      return ⟨chunkSize, maxThreads, ← itemOf readBool wanted place items 2⟩
  | place, value => wrongType "struct IngestConfig" place value

/-- Reads how columns are named. -/
def readNaming (usual : Naming) : SettingReader Naming
  | place, .table entries => do
      let separator ← entryOr usual.separator readText place entries separatorKey
      return ⟨← entryOr usual.root readText place entries rootKey, separator⟩
  | place, .list items => do
      let wanted := "struct NamingConfig with 2 elements"
      let root ← itemOf readText wanted place items 0
      return ⟨root, ← itemOf readText wanted place items 1⟩
  | place, value => wrongType "struct NamingConfig" place value

/-- The settings under the variables of an environment. -/
def load (environment : List (String × String)) : Except Issue Settings :=
  let entries := tableOf environment
  let outcome : Except SettingError Settings := do
    let ingest ← entryOr {} (readIngest {}) [] entries "ingest"
    return ⟨ingest, ← entryOr {} (readNaming {}) [] entries "naming"⟩
  outcome.mapError toIssue

end Settings

end JsonTables
