import JsonTables.DocumentError

/-!
# Errors of tables

What can go wrong when a table is made or asked for something.  An error may be
the cause of another, which says what could not be made.
-/

namespace JsonTables

/-- Why no table can be made, or nothing of one. -/
inductive TableError where
  /-- Something could not be made, because of another error. -/
  | construction (what : String) (cause : TableError)
  /-- A pattern could not be read. -/
  | pattern
  | document (error : DocumentError)
  | io (cause : String)
  | issue (issue : Issue)

namespace TableError

/-- The text of an error, with its causes. -/
def message : TableError → String
  | construction what cause => s!"{what} Caused by: {cause.message}"
  | pattern => "failed to create a pattern filter."
  | document error => error.message
  | io cause => s!"IO error: {cause}"
  | issue cause => cause.message

/-- An issue among the errors of tables. -/
def ofIssue (issue : Issue) : TableError :=
  .issue issue.asArgument

/-- The error of an argument that is invalid. -/
def invalid (detail : String) : TableError :=
  issue (.invalid detail)

end TableError

end JsonTables
