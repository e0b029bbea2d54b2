import JsonTables.Text.QuotedTable

/-!
# Quoted text

Text between double quotes in one line.  The quote, the backslash, tabs and line
ends have a backslash form, and a character that would not be seen, or would
join its neighbour, is written by its number.
-/

namespace JsonTables.Text

/-- Digits of a number in lowercase hexadecimal. -/
def hexDigits (code : Nat) : List Char :=
  Nat.toDigits 16 code

/-- The characters that stand for a character between quotes. -/
def quoteChar (char : Char) : List Char :=
  match char with
  | '\x00' => ['\\', '0']
  | '\t' => ['\\', 't']
  | '\r' => ['\\', 'r']
  | '\n' => ['\\', 'n']
  | '\\' => ['\\', '\\']
  | '"' => ['\\', '"']
  | _ =>
      if hiddenRanges.has char then
        ['\\', 'u', '\x7b'] ++ hexDigits char.toNat ++ ['\x7d']
      else [char]

/-- The text between double quotes. -/
def quoted (text : String) : String :=
  String.ofList ('"' :: text.toList.flatMap quoteChar ++ ['"'])

end JsonTables.Text
