/-!
# Repeated texts

The first text of a list that has come before.
-/

namespace JsonTables.Text

/-- The first of some texts that is among those before it, or among others. -/
def firstRepeated? (before : List String) : List String → Option String
  | [] => none
  | text :: rest =>
      if before.contains text then some text else firstRepeated? (text :: before) rest

end JsonTables.Text
