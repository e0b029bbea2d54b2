import JsonTables.Number.BinaryText
import JsonTables.Text.Blank
import JsonTables.Text.Order
import JsonTables.Text.Quoted

/-!
# Values of settings

A setting is given as a text that is read as a number, a truth value, a list or a
table where it has such a form, and else taken as it is.  Text between quotes is
text whatever it looks like.
-/

namespace JsonTables

open Number (Bounds Double)

/-- The value of a setting, as its text is understood. -/
inductive SettingValue where
  | bool (value : Bool)
  | char (value : Char)
  | text (value : String)
  | unsigned (value : Nat)
  | signed (value : Int)
  | float (value : Double)
  | list (items : List SettingValue)
  | table (entries : List (String × SettingValue))
deriving Inhabited

namespace SettingValue

/-- What is found where a value is. -/
def describe : SettingValue → String
  | bool value => if value then "bool true" else "bool false"
  | char value =>
      let shown :=
        if value = '\'' then ['\\', '\''] else if value = '"' then ['"'] else Text.quoteChar value
      "char " ++ String.ofList ('\'' :: shown ++ ['\''])
  | text value => "string " ++ Text.quoted value
  | unsigned value => s!"unsigned int `{value}`"
  | signed value => s!"signed int `{value}`"
  | float value => s!"float `{value}`"
  | list _ => "sequence"
  | table _ => "map"

/-- Puts an entry where its key belongs in the order of keys, or in the place of
the one that has the key. -/
def put (key : String) (value : SettingValue) :
    List (String × SettingValue) → List (String × SettingValue)
  | [] => [(key, value)]
  | (other, known) :: rest =>
      match Text.compareText key other with
      | .lt => (key, value) :: (other, known) :: rest
      | .eq => (key, value) :: rest
      | .gt => (other, known) :: put key value rest

/-- What a reader has read, and what follows it. -/
abbrev Parsed (α : Type) := α × List Char

/-- The blanks around values. -/
def isSpace (char : Char) : Bool :=
  char == ' ' || char == '\t' || char == '\n' || char == '\x0c' || char == '\r'

/-- Whether a character may stand in a value without quotes. -/
def isPlain (char : Char) : Bool :=
  !(['[', ']', '\x7b', '\x7d', ','].contains char)

/-- Whether a character may stand in a key without quotes. -/
def isKeyChar (char : Char) : Bool :=
  char.isAlphanum || char == '_' || char == '-'

/-- The value of hexadecimal digits. -/
def hexValue? (digits : List Char) : Option Nat :=
  digits.foldlM (fun value digit => do
    let code := digit.toNat
    let own ←
      if digit.isDigit then some (code - 48)
      else if 'a' ≤ digit ∧ digit ≤ 'f' then some (code - 87)
      else if 'A' ≤ digit ∧ digit ≤ 'F' then some (code - 55)
      else none
    return 16 * value + own) 0

/-- The character of a code point in hexadecimal digits. -/
def codeChar? (digits : List Char) : Option Char := do
  let code ← hexValue? digits
  if code.isValidChar then some (Char.ofNat code) else none

/-- The character that a letter after a backslash stands for. -/
def escaped? : Char → Option Char
  | 'b' => some '\x08'
  | 't' => some '\t'
  | 'n' => some '\n'
  | 'f' => some '\x0c'
  | 'r' => some '\r'
  | '"' => some '"'
  | '\\' => some '\\'
  | _ => none

/-- Puts a character in front of a text that has been read. -/
def withFirst (first : Char) (read : Option (Parsed (List Char))) : Option (Parsed (List Char)) :=
  read.map fun parsed => (first :: parsed.1, parsed.2)

/-- Reads text up to the quote that ends it. -/
def quotedText : List Char → Option (Parsed (List Char))
  | [] => none
  | '"' :: rest => some ([], rest)
  | '\\' :: 'u' :: a :: b :: c :: d :: rest => do
      withFirst (← codeChar? [a, b, c, d]) (quotedText rest)
  | '\\' :: 'U' :: a :: b :: c :: d :: e :: f :: g :: h :: rest => do
      withFirst (← codeChar? [a, b, c, d, e, f, g, h]) (quotedText rest)
  | '\\' :: letter :: rest => do withFirst (← escaped? letter) (quotedText rest)
  | letter :: rest => withFirst letter (quotedText rest)

/-- The value of a text without quotes. -/
def ofPlain (text : String) : SettingValue :=
  let float? : Option Double :=
    if text.toList.contains '.' then (Number.Binary.read text).toOption else none
  match float?, (Bounds.unsigned 64).read text, (Bounds.signed 64).read text with
  | some value, _, _ => float value
  | none, .ok value, _ => unsigned value.toNat
  | none, _, .ok value => signed value
  | none, _, _ => SettingValue.text text

/-- Reads a key and the sign after it. -/
def readKey (chars : List Char) : Option (Parsed String) := do
  let chars := chars.dropWhile isSpace
  let (key, rest) ←
    match chars with
    | '"' :: rest => quotedText rest
    | _ =>
        let key := chars.takeWhile isKeyChar
        if key.isEmpty then none else some (key, chars.drop key.length)
  match rest.dropWhile isSpace with
  | '=' :: rest => return (String.ofList key, rest)
  | _ => none

/-- The table of entries; of two with one key the last counts. -/
def tableOf (entries : List (String × SettingValue)) : SettingValue :=
  table (entries.foldl (fun known entry => put entry.1 entry.2 known) [])

mutual

/-- Reads a value, in so many steps. -/
def readValue : Nat → List Char → Option (Parsed SettingValue)
  | 0, _ => none
  | fuel + 1, chars => do
      let chars := chars.dropWhile isSpace
      let (value, rest) ←
        match chars with
        | 't' :: 'r' :: 'u' :: 'e' :: rest => some (bool true, rest)
        | 'f' :: 'a' :: 'l' :: 's' :: 'e' :: rest => some (bool false, rest)
        | '[' :: rest => do
            let (items, rest) ← readItems fuel rest
            pure (list items, rest)
        | '\x7b' :: rest => do
            let (entries, rest) ← readEntries fuel rest
            pure (tableOf entries, rest)
        | '"' :: rest => do
            let (chars, rest) ← quotedText rest
            pure (text (String.ofList chars), rest)
        | '\'' :: letter :: '\'' :: rest => some (char letter, rest)
        | '\'' :: _ => none
        | _ =>
            let plain := chars.takeWhile isPlain
            some (ofPlain (String.ofList (Text.trim plain)), chars.drop plain.length)
      return (value, rest.dropWhile isSpace)

/-- Reads the items of a list up to its closing bracket, in so many steps. -/
def readItems : Nat → List Char → Option (Parsed (List SettingValue))
  | 0, _ => none
  | _ + 1, ']' :: rest => some ([], rest)
  | fuel + 1, chars => do
      let (item, rest) ← readValue fuel chars
      match rest with
      | ',' :: rest => do
          let (items, rest) ← readItems fuel rest
          return (item :: items, rest)
      | ']' :: rest => return ([item], rest)
      | _ => none

/-- Reads the entries of a table up to its closing bracket, in so many steps. -/
def readEntries : Nat → List Char → Option (Parsed (List (String × SettingValue)))
  | 0, _ => none
  | _ + 1, '\x7d' :: rest => some ([], rest)
  | fuel + 1, chars => do
      let (key, rest) ← readKey chars
      let (value, rest) ← readValue fuel rest
      match rest with
      | ',' :: rest => do
          let (entries, rest) ← readEntries fuel rest
          return ((key, value) :: entries, rest)
      | '\x7d' :: rest => return ([(key, value)], rest)
      | _ => none

end

/-- The value that a text is understood as, or else the text itself. -/
def read (text : String) : SettingValue :=
  let chars := text.toList
  match readValue (2 * chars.length + 2) chars with
  | some (value, []) => value
  | _ => .text text

end SettingValue

end JsonTables
