import JsonTables.Issue
import JsonTables.JsonText.Error
import JsonTables.Leaf.Fault
import JsonTables.Path

/-!
# Errors of documents

What can go wrong between the text of a document and the rows that are made of
it: the text is not JSON, an argument is not valid, or a value does not fit the
shape that it should have.
-/

namespace JsonTables

/-- Why a value does not fit a shape; `shape` is the name of its kind. -/
inductive Misfit
  | missing (shape : String)
  | null (shape : String)
  | unexpected (kind : Kind) (shape : String)
  | scalar (fault : ScalarFault)
  | repeatedField (name : String)
  | unknownField (name : String)
  | unknownFieldOfType (name tag : String)
  | tupleSize (expected found : Nat)
  | typeNotString (kind : Kind)
  | noTypeField (name : String)
  | unknownType (tag : String)
  | described (text : String)
deriving DecidableEq, Repr

/-- The text of what is wrong with a value, without its place. -/
def Misfit.message : Misfit → String
  | missing shape => s!"missing value is not allowed for {shape}"
  | null shape => s!"null value is not allowed for {shape}"
  | unexpected kind shape => s!"unexpected {kind.name} value for {shape}"
  | scalar fault => fault.message
  | repeatedField name => s!"field '{name}' is repeated"
  | unknownField name => s!"unexpected field '{name}'"
  | unknownFieldOfType name tag => s!"unexpected field '{name}' for type '{tag}'"
  | tupleSize expected found => s!"expected a tuple of {expected} elements, found {found}"
  | typeNotString kind => s!"expected a string type value, found {kind.name}"
  | noTypeField name => s!"missing type field '{name}'"
  | unknownType tag => s!"unknown type '{tag}'"
  | described text => text

/-- A misfit and the way to the value. -/
structure ValueError where
  path : Path
  misfit : Misfit
deriving DecidableEq, Repr

/-- The wording of a value's error. -/
def ValueError.message (error : ValueError) : String :=
  s!"failed to parse JSON at {Path.render error.path}: {error.misfit.message}"

/-- An error of a document or of the shape that it is read by. -/
inductive DocumentError
  | text (error : JsonText.TextError)
  | issue (issue : Issue)
  | value (error : ValueError)
deriving DecidableEq, Repr

/-- The wording of a document's error. -/
def DocumentError.message : DocumentError → String
  | text error => s!"error in JSON serde: {error.message}"
  | issue cause => cause.message
  | value error => error.message

/-- An issue among the errors of documents. -/
def DocumentError.ofIssue (issue : Issue) : DocumentError :=
  .issue issue.asArgument

/-- The error of an argument that is invalid. -/
def DocumentError.invalid (detail : String) : DocumentError :=
  .issue (.invalid detail)

end JsonTables
