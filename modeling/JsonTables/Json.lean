/-!
# JSON values

A JSON value as it was written: the entries of an object keep their order and a
key may be repeated, and a number is its text.  Two values are the same if they
differ only in the order of entries.
-/

namespace JsonTables

/-- A JSON value.  A number is kept as its text, an object as its entries in order. -/
inductive Json where
  | null
  | bool (value : Bool)
  | number (text : String)
  | string (text : String)
  | array (items : List Json)
  | object (entries : List (String × Json))
deriving Repr, BEq, Inhabited

/-- The kinds of JSON tokens. -/
inductive Kind
  | string
  | null
  | int
  | decimal
  | bool
  | object
  | array
deriving DecidableEq, Repr

namespace Kind

/-- Every kind, in the order in which sets of kinds are listed. -/
def all : List Kind :=
  [.string, .null, .int, .decimal, .bool, .object, .array]

/-- The name of a kind, as faults tell it. -/
def name : Kind → String
  | .string => "string"
  | .null => "null"
  | .int => "int"
  | .decimal => "decimal"
  | .bool => "bool"
  | .object => "object"
  | .array => "array"

end Kind

namespace Json

/-- Whether the text of a number has neither a point nor an exponent. -/
def isIntegerText (text : String) : Bool :=
  text.toList.all fun char => char != '.' && char != 'e' && char != 'E'

/-- The kind of a value; a number is an integer or a decimal by its text. -/
def kind : Json → Kind
  | .null => .null
  | .bool _ => .bool
  | .number text => if isIntegerText text then .int else .decimal
  | .string _ => .string
  | .array _ => .array
  | .object _ => .object

/-! ### Repeated keys -/

/-- The entries without those whose key has come before. -/
def firstOccurrences {α : Type} (seen : List String) : List (String × α) → List (String × α)
  | [] => []
  | (key, value) :: rest =>
      if seen.contains key then firstOccurrences seen rest
      else (key, value) :: firstOccurrences (key :: seen) rest

mutual

/-- The value with only the first entry of every key, at every depth. -/
def dropRepeats : Json → Json
  | .array items => .array (dropRepeatsIn items)
  | .object entries => .object (firstOccurrences [] (dropRepeatsOf entries))
  | value => value
termination_by structural value => value

/-- `dropRepeats` of every item. -/
def dropRepeatsIn : List Json → List Json
  | [] => []
  | item :: rest => dropRepeats item :: dropRepeatsIn rest
termination_by structural items => items

/-- `dropRepeats` of every entry's value. -/
def dropRepeatsOf : List (String × Json) → List (String × Json)
  | [] => []
  | (key, value) :: rest => (key, dropRepeats value) :: dropRepeatsOf rest
termination_by structural entries => entries

end

/-- Puts an entry where its key has come before, or else at the end. -/
def putEntry {α : Type} (entries : List (String × α)) (key : String) (value : α) :
    List (String × α) :=
  if entries.any (·.1 == key) then
    entries.map fun entry => if entry.1 == key then (key, value) else entry
  else entries ++ [(key, value)]

/-- The last value of every key, at the place of the first. -/
def lastOccurrences {α : Type} (entries : List (String × α)) : List (String × α) :=
  entries.foldl (fun known entry => putEntry known entry.1 entry.2) []

mutual

/-- The value in which the last entry of every key counts, at every depth. -/
def mergeRepeats : Json → Json
  | .array items => .array (mergeRepeatsIn items)
  | .object entries => .object (lastOccurrences (mergeRepeatsOf entries))
  | value => value
termination_by structural value => value

/-- `mergeRepeats` of every item. -/
def mergeRepeatsIn : List Json → List Json
  | [] => []
  | item :: rest => mergeRepeats item :: mergeRepeatsIn rest
termination_by structural items => items

/-- `mergeRepeats` of every entry's value. -/
def mergeRepeatsOf : List (String × Json) → List (String × Json)
  | [] => []
  | (key, value) :: rest => (key, mergeRepeats value) :: mergeRepeatsOf rest
termination_by structural entries => entries

end

/-! ### Sameness -/

mutual

/-- Whether two values without repeated keys differ at most in the order of entries. -/
def same : Json → Json → Bool
  | .null, .null => true
  | .bool first, .bool second => first == second
  | .number first, .number second => first == second
  | .string first, .string second => first == second
  | .array first, .array second => sameItems first second
  | .object first, .object second =>
      first.length == second.length && sameEntries first second
  | _, _ => false
termination_by structural first => first

/-- Whether items are the same one by one. -/
def sameItems : List Json → List Json → Bool
  | [], [] => true
  | first :: rest, second :: others => same first second && sameItems rest others
  | _, _ => false
termination_by structural first => first

/-- Whether every entry has the same value among other entries. -/
def sameEntries : List (String × Json) → List (String × Json) → Bool
  | [], _ => true
  | (key, value) :: rest, others =>
      (match others.lookup key with
        | some other => same value other
        | none => false) && sameEntries rest others
termination_by structural first => first

end

end Json

end JsonTables
