/-!
# The order of texts

Texts are ordered by their first different character, and characters by their
code points, which is the order of the bytes that encode them.
-/

namespace JsonTables.Text

/-- Orders texts by the first character in which they differ. -/
def compareChars : List Char → List Char → Ordering
  | [], [] => .eq
  | [], _ :: _ => .lt
  | _ :: _, [] => .gt
  | first :: rest, second :: others =>
      (compare first.toNat second.toNat).then (compareChars rest others)

/-- Orders texts by their characters. -/
def compareText (first second : String) : Ordering :=
  compareChars first.toList second.toList

end JsonTables.Text
