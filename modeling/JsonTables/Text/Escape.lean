/-!
# Meta characters

A cell is shown on one line, so the characters that would move the cursor are
shown as a backslash and a letter.
-/

namespace JsonTables.Text

/-- The letter that stands for a control character behind a backslash. -/
def metaLetter : Char → Option Char
  | '\n' => some 'n'
  | '\r' => some 'r'
  | '\t' => some 't'
  | '\x07' => some 'a'
  | '\x08' => some 'b'
  | '\x0b' => some 'v'
  | '\x0c' => some 'f'
  | _ => none

/-- The characters that show a character. -/
def escapeChar (char : Char) : List Char :=
  match metaLetter char with
  | some letter => ['\\', letter]
  | none => [char]

/-- The text with every meta character shown as a backslash and a letter. -/
def escapeMeta (text : String) : String :=
  String.ofList (text.toList.flatMap escapeChar)

end JsonTables.Text
