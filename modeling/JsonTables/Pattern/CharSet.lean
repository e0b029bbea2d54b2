import JsonTables.Text.Blank
import JsonTables.Text.Fold
import JsonTables.Text.Property

/-!
# Sets of characters in patterns

A set is written as ranges and named sets that are joined, met, taken from each
other and complemented.
-/

namespace JsonTables.Pattern

open Text (Ranges NamedSet)

/-- A set of characters. -/
inductive CharSet where
  | ranges (ranges : Ranges)
  | named (set : NamedSet)
  | blanks
  | wordChars
  | union (first second : CharSet)
  | inter (first second : CharSet)
  | diff (first second : CharSet)
  | symmDiff (first second : CharSet)
  | complement (set : CharSet)
  /-- The characters that differ only in case from those of a set. -/
  | folded (set : CharSet)
  /-- Likewise, where only the case of ASCII letters counts. -/
  | asciiFolded (set : CharSet)

namespace CharSet

/-- The ASCII letters that differ from a character only in case, and itself. -/
def asciiVariants (char : Char) : List Char :=
  [char, char.toLower, char.toUpper]

/-- Whether a character is in a set. -/
def has : CharSet → Char → Bool
  | ranges known, char => known.has char
  | named known, char => known.has char
  | blanks, char => Text.isBlank char
  | wordChars, char => Text.isWordChar char
  | union first second, char => first.has char || second.has char
  | inter first second, char => first.has char && second.has char
  | diff first second, char => first.has char && !second.has char
  | symmDiff first second, char => first.has char != second.has char
  | complement set, char => !set.has char
  | folded set, char => (Text.caseVariants char).any set.has
  | asciiFolded set, char => (asciiVariants char).any set.has

/-- The set without a character. -/
def empty : CharSet := ranges []

/-- The set of one character. -/
def single (char : Char) : CharSet := ranges [(char.toNat, char.toNat)]

/-- The set of the characters between two, both included. -/
def between (first last : Char) : CharSet := ranges [(first.toNat, last.toNat)]

/-- The digits of ASCII. -/
def asciiDigits : CharSet := between '0' '9'

/-- The blanks of ASCII. -/
def asciiBlanks : CharSet := ranges [(9, 13), (32, 32)]

/-- The letters, the digits and the underscore of ASCII. -/
def asciiWordChars : CharSet := ranges [(48, 57), (65, 90), (95, 95), (97, 122)]

/-- The ASCII sets that have a name between colons. -/
def asciiNamed : List (String × Ranges) :=
  [ ("alnum", [(48, 57), (65, 90), (97, 122)]), ("alpha", [(65, 90), (97, 122)]),
    ("ascii", [(0, 127)]), ("blank", [(9, 9), (32, 32)]), ("cntrl", [(0, 31), (127, 127)]),
    ("digit", [(48, 57)]), ("graph", [(33, 126)]), ("lower", [(97, 122)]),
    ("print", [(32, 126)]), ("punct", [(33, 47), (58, 64), (91, 96), (123, 126)]),
    ("space", [(9, 13), (32, 32)]), ("upper", [(65, 90)]),
    ("word", [(48, 57), (65, 90), (95, 95), (97, 122)]),
    ("xdigit", [(48, 57), (65, 70), (97, 102)]) ]

end CharSet

end JsonTables.Pattern
