/-!
# Paths

The way from a document to a value in it.
-/

namespace JsonTables

/-- A step into an object or a list. -/
inductive Step
  | field (name : String)
  | index (position : Nat)
deriving DecidableEq, Repr

/-- The steps to a value, the last one first. -/
abbrev Path := List Step

/-- The text of a step. -/
def Step.render : Step → String
  | .field name => "/" ++ name
  | .index position => s!"[{position}]"

/-- The text of a path, such as `<root>/trades[2]/price`. -/
def Path.render : Path → String
  | [] => "<root>"
  | step :: before => Path.render before ++ step.render

end JsonTables
