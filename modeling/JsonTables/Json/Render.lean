import JsonTables.Json

/-!
# JSON text

Writing a value on one line without blanks.  Text between quotes escapes the
quote, the backslash and the control characters, and nothing else.
-/

namespace JsonTables.Json

/-- A number of four lowercase hexadecimal digits. -/
def hexFour (code : Nat) : List Char :=
  let digits := Nat.toDigits 16 code
  List.replicate (4 - digits.length) '0' ++ digits

/-- The characters that stand for a character between quotes. -/
def escapeChar (char : Char) : List Char :=
  match char with
  | '"' => ['\\', '"']
  | '\\' => ['\\', '\\']
  | '\n' => ['\\', 'n']
  | '\r' => ['\\', 'r']
  | '\t' => ['\\', 't']
  | '\x08' => ['\\', 'b']
  | '\x0c' => ['\\', 'f']
  | _ => if char.toNat < 0x20 then '\\' :: 'u' :: hexFour char.toNat else [char]

/-- Text between quotes. -/
def quote (text : String) : String :=
  String.ofList ('"' :: text.toList.flatMap escapeChar ++ ['"'])

/-- Texts between brackets of a kind, with commas. -/
def bracketed (first : String) (parts : List String) (last : String) : String :=
  first ++ ",".intercalate parts ++ last

mutual

/-- The text of a value, on one line and without blanks. -/
def render : Json → String
  | .null => "null"
  | .bool value => if value then "true" else "false"
  | .number text => text
  | .string text => quote text
  | .array items => bracketed "[" (renderItems items) "]"
  | .object entries => bracketed "\x7b" (renderEntries entries) "\x7d"
termination_by structural value => value

/-- The text of every item. -/
def renderItems : List Json → List String
  | [] => []
  | item :: rest => render item :: renderItems rest
termination_by structural items => items

/-- The text of every entry. -/
def renderEntries : List (String × Json) → List String
  | [] => []
  | (key, value) :: rest => (quote key ++ ":" ++ render value) :: renderEntries rest
termination_by structural entries => entries

end

end JsonTables.Json
