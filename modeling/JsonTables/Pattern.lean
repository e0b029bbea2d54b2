import JsonTables.Pattern.Reader

/-!
# Patterns

A regular expression and how it is asked for: somewhere in a text, or as the
whole of it.
-/

namespace JsonTables

open Pattern (Regex)

/-- A regular expression with its text. -/
structure Pattern where
  text : String
  /-- The expression as it is. -/
  regex : Regex
  /-- The expression between the start and the end of a text. -/
  anchored : Regex

/-- Where a pattern must match. -/
inductive PatternMode
  | whole
  | somewhere
deriving DecidableEq, Repr

namespace Pattern

/-- The text of a pattern that matches whole texts only. -/
def anchor (text : String) : String :=
  "^(?:" ++ text ++ ")$"

/-- Reads a pattern; its text must be an expression by itself. -/
def read? (text : String) : Option Pattern := do
  let regex ← Regex.read? text
  let anchored ← Regex.read? (anchor text)
  return ⟨text, regex, anchored⟩

/-- Whether a text matches as a whole, or some of it does. -/
def isMatch (pattern : Pattern) (mode : PatternMode) (text : String) : Bool :=
  match mode with
  | .whole => pattern.anchored.found text.toList
  | .somewhere => pattern.regex.found text.toList

end Pattern

end JsonTables
