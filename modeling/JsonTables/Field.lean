import JsonTables.Issue
import JsonTables.Text.Case

/-!
# Fields

How the field of a record is found among the entries of an object: by its name
or one of its aliases, in either case of letters or exactly, and what happens
when more than one entry matches.
-/

namespace JsonTables

/-- What happens when more than one entry is a field's. -/
inductive RepeatPolicy
  /-- The object is refused. -/
  | error
  /-- The first entry counts. -/
  | useFirst
deriving DecidableEq, Repr, Inhabited

namespace RepeatPolicy

/-- Reads the name of a policy, in either case of letters. -/
def read (text : String) : Except Issue RepeatPolicy :=
  let word := Text.toLower text
  if word = "error" then .ok error
  else if word = "use_first" ∨ word = "usefirst" then .ok useFirst
  else .error (.invalid s!"invalid repeated field behavior: {text}")

end RepeatPolicy

/-- How the entries of a field are found.  A policy given here overrides that of
the object. -/
structure FieldMatching where
  aliases : List String := []
  ignoresCase : Bool := false
  repeats : Option RepeatPolicy := none
deriving DecidableEq, Repr, Inhabited

namespace FieldMatching

/-- A field that has its own name alone. -/
def exact : FieldMatching := {}

/-- Whether two names are one name, where `lower` takes a text to lower case. -/
def sameName (ignoresCase : Bool) (first second : String)
    (lower : String → String := Text.toLower) : Bool :=
  if ignoresCase then lower first == lower second else first == second

/-- The names of a field: its own and then its aliases. -/
def names (matching : FieldMatching) (name : String) : List String :=
  name :: matching.aliases

/-- Whether a key is read as a field: it is one of the field's names, in any case if case is
ignored. -/
def accepts (matching : FieldMatching) (name key : String)
    (lower : String → String := Text.toLower) : Bool :=
  (matching.names name).any fun known => sameName matching.ignoresCase known key lower

end FieldMatching

end JsonTables
