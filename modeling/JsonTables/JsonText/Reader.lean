import JsonTables.Json
import JsonTables.JsonText.Scan

/-!
# Reading JSON values

A value is read from the bytes of its text.  Values nest at most 127 deep; the
depth that is left is the argument on which the reader recurs, and the items of a
list are counted off against the bytes that are left, of which each takes one.

An object whose first key is the number key stands for the number that its value
spells, where the reader is asked to read it so.
-/

namespace JsonTables.JsonText

/-- The levels of brackets that a text may have. -/
def maxDepth : Nat := 127

/-- The key of an object that stands for a number. -/
def numberKey : String := "$serde_json::private::Number"

/-- How an object is read whose first key is the number key. -/
inductive NumberObjects
  /-- As an object. -/
  | kept
  /-- As the number that its value spells; `wanted` says what the value should be. -/
  | spelled (wanted : String)

/-- Reads something from where some bytes begin, and leaves the bytes behind it. -/
abbrev Reader (α : Type) := Bytes → Except Halt (Scanned α)

/-- Gives a mismatch the place where the reader stands. -/
def placed {α : Type} : Except Halt α → Except Halt α
  | .ok value => .ok value
  | .error halt => .error halt.place

/-! ### Lists and objects -/

/-- The bytes where the next item of a list starts, or nothing at its end. -/
def nextItem (isFirst : Bool) (rest : Bytes) : Except Halt (Option Bytes) :=
  let rest := skipBlanks rest
  if rest.isEmpty then failNext .endInList rest
  else if startsWith rest ']' then .ok none
  else if isFirst then .ok (some rest)
  else if startsWith rest ',' then
    let after := skipBlanks (rest.drop 1)
    if after.isEmpty then failNext .endInValue after
    else if startsWith after ']' then failNext .trailingComma after
    else .ok (some after)
  else failNext .expectedListCommaOrEnd rest

/-- Reads the items of a list, up to its closing bracket. -/
def itemsFrom {α : Type} (read : Reader α) (isFirst : Bool) :
    Nat → Bytes → Except Halt (Scanned (List α))
  | 0, rest => .ok ([], rest)
  | fuel + 1, rest => do
      match ← nextItem isFirst rest with
      | none => return ([], skipBlanks rest)
      | some start =>
          let (item, rest) ← read start
          let (items, rest) ← itemsFrom read false fuel rest
          return (item :: items, rest)

/-- Reads the items of a list after its opening bracket. -/
def items {α : Type} (read : Reader α) (rest : Bytes) : Except Halt (Scanned (List α)) :=
  itemsFrom read true (rest.length + 1) rest

/-- Reads the closing bracket of a list. -/
def endList (rest : Bytes) : Except Halt Bytes :=
  let rest := skipBlanks rest
  if rest.isEmpty then failNext .endInList rest
  else if startsWith rest ']' then .ok (rest.drop 1)
  else if startsWith rest ',' then
    let after := skipBlanks (rest.drop 1)
    if startsWith after ']' then failNext .trailingComma after
    else failNext .trailingCharacters after
  else failNext .trailingCharacters rest

/-- The bytes where the next key of an object starts, or nothing at its end. -/
def nextKey (isFirst : Bool) (rest : Bytes) : Except Halt (Option Bytes) :=
  let rest := skipBlanks rest
  if rest.isEmpty then failNext .endInObject rest
  else if startsWith rest '\x7d' then .ok none
  else if isFirst then
    if startsWith rest '"' then .ok (some rest) else failNext .keyNotString rest
  else if startsWith rest ',' then
    let after := skipBlanks (rest.drop 1)
    if after.isEmpty then failNext .endInValue after
    else if startsWith after '"' then .ok (some after)
    else if startsWith after '\x7d' then failNext .trailingComma after
    else failNext .keyNotString after
  else failNext .expectedObjectCommaOrEnd rest

/-- Reads the colon after a key. -/
def colon (rest : Bytes) : Except Halt Bytes :=
  let rest := skipBlanks rest
  if rest.isEmpty then failNext .endInObject rest
  else if startsWith rest ':' then .ok (rest.drop 1)
  else failNext .expectedColon rest

/-- Reads the closing bracket of an object. -/
def endObject (rest : Bytes) : Except Halt Bytes :=
  let rest := skipBlanks rest
  if rest.isEmpty then failNext .endInObject rest
  else if startsWith rest '\x7d' then .ok (rest.drop 1)
  else if startsWith rest ',' then failNext .trailingComma rest
  else failNext .trailingCharacters rest

/-- Where the reader stands after it has looked for a closing bracket. -/
def afterClosing (close : Bytes → Except Halt Bytes) (rest : Bytes) : Bytes :=
  match close rest with
  | .ok rest => rest
  | .error _ => skipBlanks rest

/-- Reads what is between brackets and the closing one; a mismatch inside has its
place after the closing bracket. -/
def closed {α : Type} (close : Bytes → Except Halt Bytes) (content : Except Halt (Scanned α)) :
    Except Halt (Scanned α) :=
  match content with
  | .ok (value, rest) => do return (value, ← close rest)
  | .error halt => .error (halt.goOn (afterClosing close))

/-- Reads the entries of an object, up to its closing bracket. -/
def entriesFrom {α : Type} (read : String → Reader α) (isFirst : Bool) :
    Nat → Bytes → Except Halt (Scanned (List α))
  | 0, rest => .ok ([], rest)
  | fuel + 1, rest => do
      match ← nextKey isFirst rest with
      | none => return ([], skipBlanks rest)
      | some start =>
          let (key, rest) ← stringBody (start.drop 1)
          let (entry, rest) ← read key rest
          let (entries, rest) ← entriesFrom read false fuel rest
          return (entry :: entries, rest)

/-! ### Values -/

/-- Reads the whole of a text as a number.  Whatever is left makes it no number. -/
def spelledNumber (text : String) : Except TextError NumberToken :=
  let bytes := bytesOf text
  let outcome : Except Halt NumberToken :=
    if bytes.isEmpty then failNext .endInValue bytes
    else if !startsWith bytes '-' && (spanDigits bytes).1.isEmpty then
      failNext .invalidNumber bytes
    else
      match signedNumber bytes with
      | .ok (token, []) => .ok token
      | .ok (_, rest) => failNext .invalidNumber rest
      | .error ⟨cause, [], _⟩ => failHere cause []
      | .error ⟨_, rest, _⟩ => failNext .invalidNumber rest
  outcome.mapError (Halt.toError bytes)

/-- What is found where a number stands: an integer of 64 bits, or just a number. -/
def NumberToken.found (token : NumberToken) : Found :=
  let isInteger := token.fraction.isNone && token.exponent.isNone
  match isInteger, Number.digits? token.whole with
  | true, some value =>
      if token.negative then
        if value = 0 || 2 ^ 63 < value then .other "number" else .integer (-value)
      else if 2 ^ 64 ≤ value then .other "number"
      else .integer value
  | _, _ => .other "number"

/-- The mismatch of a value that is not of the type wanted, and where the reader
stands after it.  Brackets are not entered. -/
def wrongType {α : Type} (wanted : String) (rest : Bytes) : Except Halt α :=
  let fail := fun found rest => .error (.mismatch (.invalidType found wanted) (List.length rest))
  match rest with
  | [] => failNext .expectedValue []
  | byte :: after =>
      if is byte 'n' then do fail .null (← word ['u', 'l', 'l'] after)
      else if is byte 't' then do fail (.bool true) (← word ['r', 'u', 'e'] after)
      else if is byte 'f' then do fail (.bool false) (← word ['a', 'l', 's', 'e'] after)
      else if is byte '-' || isDigitByte byte then do
        let (token, rest) ← number rest
        fail token.found rest
      else if is byte '"' then do
        let (text, rest) ← stringBody after
        fail (.string text) rest
      else if is byte '[' then fail .list rest
      else if is byte '\x7b' then fail .object rest
      else failNext .expectedValue rest

/-- Reads a text between quotes. -/
def string (wanted : String) (rest : Bytes) : Except Halt (Scanned String) :=
  let rest := skipBlanks rest
  if rest.isEmpty then failNext .endInValue rest
  else if startsWith rest '"' then stringBody (rest.drop 1)
  else wrongType wanted rest

/-- Reads the number that the value after the number key spells. -/
def numberObject (wanted : String) (rest : Bytes) : Except Halt (Scanned Json) := do
  let (text, rest) ← string wanted (← colon rest)
  match spelledNumber text with
  | .ok token => return (.number token.text, rest)
  | .error error => .error (.inner error)

/-- Reads an entry from behind its key on. -/
def entry (read : Reader Json) (key : String) (rest : Bytes) :
    Except Halt (Scanned (String × Json)) := do
  let (value, rest) ← read (← colon rest)
  return ((key, value), rest)

/-- Reads an object after its opening bracket, up to the closing one. -/
def objectBody (objects : NumberObjects) (read : Reader Json) (rest : Bytes) :
    Except Halt (Scanned Json) := do
  match ← nextKey true rest with
  | none => return (.object [], skipBlanks rest)
  | some start =>
      let (key, rest) ← stringBody (start.drop 1)
      match objects, key == numberKey with
      | .spelled wanted, true => numberObject wanted rest
      | _, _ =>
          let (first, rest) ← entry read key rest
          let (others, rest) ← entriesFrom (entry read) false (rest.length + 1) rest
          return (.object (first :: others), rest)

/-- Reads a value that is no list and no object. -/
def atom (rest : Bytes) : Except Halt (Scanned Json) :=
  match rest with
  | [] => failNext .endInValue []
  | byte :: after =>
      if is byte 'n' then do return (.null, ← word ['u', 'l', 'l'] after)
      else if is byte 't' then do return (.bool true, ← word ['r', 'u', 'e'] after)
      else if is byte 'f' then do return (.bool false, ← word ['a', 'l', 's', 'e'] after)
      else if is byte '-' || isDigitByte byte then do
        let (token, rest) ← number rest
        return (.number token.text, rest)
      else if is byte '"' then do
        let (text, rest) ← stringBody after
        return (.string text, rest)
      else failNext .expectedValue rest

/-- Reads a value in which brackets nest at most so deep. -/
def value (objects : NumberObjects) : Nat → Bytes → Except Halt (Scanned Json)
  | 0, rest =>
      let rest := skipBlanks rest
      if startsWith rest '[' || startsWith rest '\x7b' then failNext .tooDeep rest
      else atom rest
  | depth + 1, rest =>
      let rest := skipBlanks rest
      if startsWith rest '[' then do
        let (items, rest) ← placed (closed endList (items (value objects depth) (rest.drop 1)))
        return (.array items, rest)
      else if startsWith rest '\x7b' then
        placed (closed endObject (objectBody objects (value objects depth) (rest.drop 1)))
      else atom rest

/-! ### Texts -/

/-- Reads a text that holds one value and blanks. -/
def readAll {α : Type} (read : Reader α) (bytes : Bytes) : Except TextError α :=
  let outcome : Except Halt α := do
    let (value, rest) ← read bytes
    let rest := skipBlanks rest
    if rest.isEmpty then return value else failNext .trailingCharacters rest
  outcome.mapError (Halt.toError bytes)

/-- How a document reads objects that stand for numbers. -/
def documentObjects : NumberObjects := .spelled "a string"

/-- Reads the value that bytes spell, with its repeated keys. -/
def ofBytes (bytes : Bytes) : Except TextError Json :=
  readAll (value documentObjects maxDepth) bytes

/-- Reads the value that a text spells, with its repeated keys. -/
def ofText (text : String) : Except TextError Json :=
  ofBytes (bytesOf text)

/-- Reads a value in which the last entry of a repeated key counts. -/
def ofTextMerged (text : String) : Except TextError Json := do
  let value ← readAll (value (.spelled "string containing a number") maxDepth) (bytesOf text)
  return value.mergeRepeats

/-- Whether another value may follow a value that does not end itself. -/
def endsValue (rest : Bytes) : Bool :=
  match rest with
  | [] => true
  | byte :: _ =>
      isBlankByte byte || is byte '"' || is byte '[' || is byte ']' || is byte '\x7b'
        || is byte '\x7d' || is byte ',' || is byte ':'

/-- Whether a value ends itself: text, a list or an object. -/
def endsItself (rest : Bytes) : Bool :=
  startsWith rest '"' || startsWith rest '[' || startsWith rest '\x7b'

/-- Reads the documents of a stream.  A document that is not JSON is the last one;
one that runs into the next is an error in the place of its value. -/
def streamFrom (bytes : Bytes) : Nat → Bytes → List (Except TextError Json)
  | 0, _ => []
  | fuel + 1, rest =>
      let start := skipBlanks rest
      if start.isEmpty then []
      else
        match value documentObjects maxDepth start with
        | .error halt => [.error (halt.toError bytes)]
        | .ok (document, rest) =>
            let result :=
              if endsItself start || endsValue rest then .ok document
              else .error (Halt.toError bytes (.fault .trailingCharacters (rest.length - 1)))
            result :: streamFrom bytes fuel rest

/-- Reads the documents of a stream, with or without blanks between them. -/
def stream (bytes : Bytes) : List (Except TextError Json) :=
  streamFrom bytes (bytes.length + 1) bytes

end JsonTables.JsonText
