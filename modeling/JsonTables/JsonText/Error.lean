import JsonTables.Text.Quoted

/-!
# Errors of reading JSON text

A text is at fault where it is not JSON, and it mismatches where it is JSON of
another shape than the one wanted.  A fault has a place in the text.  A mismatch
has one too, unless it was found after its value had been read.
-/

namespace JsonTables.JsonText

/-- Ways in which a text is not JSON. -/
inductive Fault
  | endInValue
  | endInList
  | endInObject
  | endInString
  | expectedColon
  | expectedListCommaOrEnd
  | expectedObjectCommaOrEnd
  | expectedWord
  | expectedValue
  | invalidEscape
  | invalidNumber
  | numberOutOfRange
  | invalidCodePoint
  | controlCharacter
  | keyNotString
  | loneSurrogate
  | endOfHexEscape
  | trailingComma
  | trailingCharacters
  | tooDeep
deriving DecidableEq, Repr

/-- The text of a fault, without its position. -/
def Fault.message : Fault → String
  | .endInValue => "EOF while parsing a value"
  | .endInList => "EOF while parsing a list"
  | .endInObject => "EOF while parsing an object"
  | .endInString => "EOF while parsing a string"
  | .expectedColon => "expected `:`"
  | .expectedListCommaOrEnd => "expected `,` or `]`"
  | .expectedObjectCommaOrEnd => "expected `,` or `\x7d`"
  | .expectedWord => "expected ident"
  | .expectedValue => "expected value"
  | .invalidEscape => "invalid escape"
  | .invalidNumber => "invalid number"
  | .numberOutOfRange => "number out of range"
  | .invalidCodePoint => "invalid unicode code point"
  | .controlCharacter => "control character (\\u0000-\\u001F) found while parsing a string"
  | .keyNotString => "key must be a string"
  | .loneSurrogate => "lone leading surrogate in hex escape"
  | .endOfHexEscape => "unexpected end of hex escape"
  | .trailingComma => "trailing comma"
  | .trailingCharacters => "trailing characters"
  | .tooDeep => "recursion limit exceeded"

/-- What was found in place of what was wanted. -/
inductive Found
  | null
  | bool (value : Bool)
  | integer (value : Int)
  | float (text : String)
  | string (text : String)
  | list
  | object
  | unitVariant
  | other (description : String)
deriving DecidableEq, Repr

/-- The wording of what was found. -/
def Found.message : Found → String
  | .null => "null"
  | .bool value => s!"boolean `{value}`"
  | .integer value => s!"integer `{value}`"
  | .float text => s!"floating point `{text}`"
  | .string text => "string " ++ Text.quoted text
  | .list => "sequence"
  | .object => "map"
  | .unitVariant => "unit variant"
  | .other description => description

/-- Ways in which JSON has another shape than the one wanted. -/
inductive Mismatch
  | invalidType (found : Found) (wanted : String)
  | invalidValue (found : Found) (wanted : String)
  | invalidLength (length : Nat) (wanted : String)
  | unknownVariant (name : String) (known : List String)
  | missingField (name : String)
  | duplicateField (name : String)
  | refused (message : String)
deriving DecidableEq, Repr

/-- A name between backticks. -/
def ticked (name : String) : String :=
  s!"`{name}`"

/-- A list of the names that are known. -/
def oneOf : List String → String
  | [name] => ticked name
  | [first, second] => ticked first ++ " or " ++ ticked second
  | names => "one of " ++ ", ".intercalate (names.map ticked)

/-- The text of a mismatch, without its position. -/
def Mismatch.message : Mismatch → String
  | .invalidType found wanted => s!"invalid type: {found.message}, expected {wanted}"
  | .invalidValue found wanted => s!"invalid value: {found.message}, expected {wanted}"
  | .invalidLength length wanted => s!"invalid length {length}, expected {wanted}"
  | .unknownVariant name known =>
      s!"unknown variant `{name}`, expected " ++ oneOf known
  | .missingField name => s!"missing field `{name}`"
  | .duplicateField name => s!"duplicate field `{name}`"
  | .refused message => message

/-- A place in a text: a line from one on, and the bytes of it that have been read. -/
structure Position where
  line : Nat
  column : Nat
deriving DecidableEq, Repr

/-- Why a text could not be read. -/
inductive TextError
  | fault (fault : Fault) (position : Position)
  | mismatch (mismatch : Mismatch) (position : Option Position)
deriving DecidableEq, Repr

/-- The wording of a place. -/
def Position.message (position : Position) : String :=
  s!" at line {position.line} column {position.column}"

/-- The text of an error, with its position if that is known. -/
def TextError.message : TextError → String
  | .fault cause position => cause.message ++ position.message
  | .mismatch cause (some position) => cause.message ++ position.message
  | .mismatch cause none => cause.message

end JsonTables.JsonText
