/-!
# Issues

The plainest kind of error: what is wrong in general, and a text that says it in
particular.
-/

namespace JsonTables

/-- What is wrong in general. -/
inductive Complaint
  | missingArgument
  | invalidArgument
  | invalidConfig
  | notSupported
  | internalError
deriving DecidableEq, Repr

/-- The words in front of a complaint. -/
def Complaint.lead : Complaint → String
  | .missingArgument => "missing argument: "
  | .invalidArgument => "invalid argument: "
  | .invalidConfig => "invalid configuration: "
  | .notSupported => "not supported: "
  | .internalError => "internal error: "

/-- A complaint and its particulars. -/
structure Issue where
  complaint : Complaint
  detail : String
deriving DecidableEq, Repr

/-- The text of an issue. -/
def Issue.message (issue : Issue) : String :=
  issue.complaint.lead ++ issue.detail

/-- An issue where arguments are all there is to complain about: a configuration
becomes the argument that is invalid. -/
def Issue.asArgument (issue : Issue) : Issue :=
  match issue.complaint with
  | .invalidConfig => ⟨.invalidArgument, issue.message⟩
  | _ => issue

/-- The issue of an argument that is invalid. -/
def Issue.invalid (detail : String) : Issue :=
  ⟨.invalidArgument, detail⟩

end JsonTables
