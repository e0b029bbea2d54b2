import JsonTables.JsonText.Error
import JsonTables.Number.IntegerText

/-!
# Scanning JSON text

The text is a list of bytes, and a reader returns what it has read and the bytes
that are left.  Where reading stops, the number of bytes left tells the place.
The scanners here read blanks, words, numbers and text between quotes.
-/

namespace JsonTables.JsonText

/-- The bytes of a text, or what is left of them. -/
abbrev Bytes := List UInt8

/-- The bytes that encode a text. -/
def bytesOf (text : String) : Bytes :=
  text.toUTF8.toList

/-- Why a reader stopped. -/
inductive Halt
  /-- A fault, with so many bytes left. -/
  | fault (cause : Fault) (left : Nat)
  /-- A mismatch with a place, with so many bytes left. -/
  | mismatch (cause : Mismatch) (left : Nat)
  /-- A mismatch that gets its place from where the reader will stand. -/
  | unplaced (cause : Mismatch) (rest : Bytes)
  /-- An error with the place it has in a text inside the text. -/
  | inner (error : TextError)

/-- What has been read, and the bytes that are left. -/
abbrev Scanned (α : Type) := α × Bytes

namespace Halt

/-- The place after so many bytes of a text. -/
def position (bytes : Bytes) (left : Nat) : Position :=
  let done := bytes.take (bytes.length - left)
  ⟨1 + (done.filter (· == 0x0A)).length,
    ((done.reverse).takeWhile (· != 0x0A)).length⟩

/-- The error in a text at which a reader stopped. -/
def toError (bytes : Bytes) : Halt → TextError
  | .fault cause left => .fault cause (position bytes left)
  | .mismatch cause left => .mismatch cause (some (position bytes left))
  | .unplaced cause _ => .mismatch cause none
  | .inner error => error

/-- Gives a mismatch the place where the reader stands. -/
def place : Halt → Halt
  | .unplaced cause rest => .mismatch cause rest.length
  | halt => halt

/-- Lets a reader that met a mismatch go on, to where it gets its place. -/
def goOn (step : Bytes → Bytes) : Halt → Halt
  | .unplaced cause rest => .unplaced cause (step rest)
  | halt => halt

end Halt

/-- A fault where the reader stands. -/
def failHere {α : Type} (cause : Fault) (rest : Bytes) : Except Halt α :=
  .error (.fault cause rest.length)

/-- A fault at the next byte. -/
def failNext {α : Type} (cause : Fault) (rest : Bytes) : Except Halt α :=
  .error (.fault cause (rest.length - 1))

/-- Whether a byte encodes an ASCII character. -/
def is (byte : UInt8) (char : Char) : Bool :=
  byte.toNat == char.toNat

/-- Whether the next byte encodes an ASCII character. -/
def startsWith (rest : Bytes) (char : Char) : Bool :=
  match rest with
  | byte :: _ => is byte char
  | [] => false

/-- Whether a byte may stand between the parts of a value. -/
def isBlankByte (byte : UInt8) : Bool :=
  is byte ' ' || is byte '\n' || is byte '\t' || is byte '\r'

/-- The bytes behind the blanks that come first. -/
def skipBlanks (rest : Bytes) : Bytes :=
  rest.dropWhile isBlankByte

/-- Reads the letters that are left of a word. -/
def word : List Char → Bytes → Except Halt Bytes
  | [], rest => .ok rest
  | _ :: _, [] => failHere .endInValue []
  | char :: chars, byte :: rest =>
      if is byte char then word chars rest else failHere .expectedWord rest

/-! ### Numbers -/

/-- The ASCII character of a byte. -/
def charOf (byte : UInt8) : Char :=
  Char.ofNat byte.toNat

/-- Whether a byte is an ASCII digit. -/
def isDigitByte (byte : UInt8) : Bool :=
  (Number.digitValue? (charOf byte)).isSome

/-- The parts of a number: the digits before the point, those after it, and an
exponent with its sign. -/
structure NumberToken where
  negative : Bool
  whole : List Char
  fraction : Option (List Char)
  exponent : Option (Bool × List Char)
deriving DecidableEq, Repr

/-- The text of a number: as it was written, with a small `e` and the sign of the
exponent. -/
def NumberToken.text (token : NumberToken) : String :=
  let sign := if token.negative then ['-'] else []
  let fraction :=
    match token.fraction with
    | some digits => '.' :: digits
    | none => []
  let exponent :=
    match token.exponent with
    | some (negative, digits) => 'e' :: (if negative then '-' else '+') :: digits
    | none => []
  String.ofList (sign ++ token.whole ++ fraction ++ exponent)

/-- The digits at the front, and the bytes after them. -/
def spanDigits (rest : Bytes) : List Char × Bytes :=
  ((rest.takeWhile isDigitByte).map charOf, rest.dropWhile isDigitByte)

/-- Why a number stopped: what is wrong, the bytes that are left, and whether the
place is the next of them. -/
structure NumberHalt where
  cause : Fault
  rest : Bytes
  atNext : Bool

/-- The halt of a reader that stopped in a number. -/
def NumberHalt.toHalt (halt : NumberHalt) : Halt :=
  .fault halt.cause (if halt.atNext then halt.rest.length - 1 else halt.rest.length)

/-- Reads the digits before the point; a zero comes alone. -/
def wholeDigits : Bytes → Except NumberHalt (Scanned (List Char))
  | [] => .error ⟨.endInValue, [], false⟩
  | byte :: rest =>
      if is byte '0' then
        match rest with
        | next :: _ =>
            if isDigitByte next then .error ⟨.invalidNumber, rest, true⟩ else .ok (['0'], rest)
        | [] => .ok (['0'], rest)
      else if isDigitByte byte then .ok (spanDigits (byte :: rest))
      else .error ⟨.invalidNumber, rest, false⟩

/-- Reads a point and the digits after it, if there is one. -/
def fractionDigits : Bytes → Except NumberHalt (Scanned (Option (List Char)))
  | [] => .ok (none, [])
  | byte :: rest =>
      if is byte '.' then
        match spanDigits rest with
        | ([], []) => .error ⟨.endInValue, [], true⟩
        | ([], rest) => .error ⟨.invalidNumber, rest, true⟩
        | (digits, rest) => .ok (some digits, rest)
      else .ok (none, byte :: rest)

/-- Reads the sign of an exponent, positive by default. -/
def exponentSign : Bytes → Scanned Bool
  | [] => (false, [])
  | byte :: rest =>
      if is byte '+' then (false, rest)
      else if is byte '-' then (true, rest)
      else (false, byte :: rest)

/-- Reads the exponent of a number, if there is one: whether it is negative, and its digits. -/
def exponentDigits : Bytes → Except NumberHalt (Scanned (Option (Bool × List Char)))
  | [] => .ok (none, [])
  | byte :: rest =>
      if is byte 'e' || is byte 'E' then
        let (negative, rest) := exponentSign rest
        match rest with
        | [] => .error ⟨.endInValue, [], false⟩
        | first :: after =>
            if isDigitByte first then
              let (digits, rest) := spanDigits rest
              .ok (some (negative, digits), rest)
            else .error ⟨.invalidNumber, after, false⟩
      else .ok (none, byte :: rest)

/-- Reads a number after its sign. -/
def unsignedNumber (negative : Bool) (rest : Bytes) :
    Except NumberHalt (Scanned NumberToken) := do
  let (whole, rest) ← wholeDigits rest
  let (fraction, rest) ← fractionDigits rest
  let (exponent, rest) ← exponentDigits rest
  return (⟨negative, whole, fraction, exponent⟩, rest)

/-- Reads a number with a minus sign or none. -/
def signedNumber : Bytes → Except NumberHalt (Scanned NumberToken)
  | [] => .error ⟨.endInValue, [], false⟩
  | byte :: rest =>
      if is byte '-' then unsignedNumber true rest else unsignedNumber false (byte :: rest)

/-- Reads a number. -/
def number (rest : Bytes) : Except Halt (Scanned NumberToken) :=
  (signedNumber rest).mapError NumberHalt.toHalt

/-! ### Text between quotes -/

/-- The value of a byte as a hexadecimal digit. -/
def hexValue? (byte : UInt8) : Option Nat :=
  let code := byte.toNat
  if 48 ≤ code ∧ code ≤ 57 then some (code - 48)
  else if 65 ≤ code ∧ code ≤ 70 then some (code - 55)
  else if 97 ≤ code ∧ code ≤ 102 then some (code - 87)
  else none

/-- The value of four hexadecimal digits. -/
def hexUnit? (a b c d : UInt8) : Option Nat := do
  return (((← hexValue? a) * 16 + (← hexValue? b)) * 16 + (← hexValue? c)) * 16 + (← hexValue? d)

/-- The first half of a surrogate pair. -/
def isLeading (unit : Nat) : Bool :=
  0xD800 ≤ unit && unit ≤ 0xDBFF

/-- The second half of a surrogate pair. -/
def isTrailing (unit : Nat) : Bool :=
  0xDC00 ≤ unit && unit ≤ 0xDFFF

/-- The code point of a surrogate pair. -/
def pairCode (leading trailing : Nat) : Nat :=
  0x10000 + (leading - 0xD800) * 0x400 + (trailing - 0xDC00)

/-- The bytes that encode a code point. -/
def encodeCode (code : Nat) : Bytes :=
  bytesOf (String.ofList [Char.ofNat code])

/-- The byte for a letter after a backslash. -/
def escapedByte? (byte : UInt8) : Option UInt8 :=
  if is byte '"' || is byte '\\' || is byte '/' then some byte
  else if is byte 'b' then some 0x08
  else if is byte 'f' then some 0x0C
  else if is byte 'n' then some 0x0A
  else if is byte 'r' then some 0x0D
  else if is byte 't' then some 0x09
  else none

/-- Puts bytes in front of a text that has been read. -/
def prepend (bytes : Bytes) : Except Halt (Scanned Bytes) → Except Halt (Scanned Bytes)
  | .ok (text, rest) => .ok (bytes ++ text, rest)
  | .error halt => .error halt

/-- Why four hexadecimal digits cannot follow: there are fewer bytes, and then the
text has ended, or one is no digit. -/
def shortEscape {α : Type} (rest : Bytes) : Except Halt α :=
  if rest.length < 4 then failHere .endInString [] else failHere .invalidEscape (rest.drop 4)

/-- What is wrong where the second half of a surrogate pair should be. -/
def missingTrailing {α : Type} : Bytes → Except Halt α
  | [] => failHere .endInString []
  | byte :: rest =>
      if is byte '\\' then
        match rest with
        | [] => failHere .endInString []
        | next :: after =>
            if is next 'u' then shortEscape after else failHere .endOfHexEscape after
      else failHere .endOfHexEscape rest

/-- Reads the bytes of a text up to the quote that ends it. -/
def stringBytes : Bytes → Except Halt (Scanned Bytes)
  | [] => failHere .endInString []
  | 0x22 :: rest => .ok ([], rest)
  | [0x5C] => failHere .endInString []
  | 0x5C :: 0x75 :: a :: b :: c :: d :: 0x5C :: 0x75 :: e :: f :: g :: h :: rest =>
      match hexUnit? a b c d with
      | none => failHere .invalidEscape (0x5C :: 0x75 :: e :: f :: g :: h :: rest)
      | some unit =>
          if isTrailing unit then
            failHere .loneSurrogate (0x5C :: 0x75 :: e :: f :: g :: h :: rest)
          else if isLeading unit then
            match hexUnit? e f g h with
            | none => failHere .invalidEscape rest
            | some second =>
                if isTrailing second then
                  prepend (encodeCode (pairCode unit second)) (stringBytes rest)
                else failHere .loneSurrogate rest
          else
            prepend (encodeCode unit) (stringBytes (0x5C :: 0x75 :: e :: f :: g :: h :: rest))
  | 0x5C :: 0x75 :: a :: b :: c :: d :: rest =>
      match hexUnit? a b c d with
      | none => failHere .invalidEscape rest
      | some unit =>
          if isTrailing unit then failHere .loneSurrogate rest
          else if isLeading unit then missingTrailing rest
          else prepend (encodeCode unit) (stringBytes rest)
  | 0x5C :: 0x75 :: rest => shortEscape rest
  | 0x5C :: byte :: rest =>
      match escapedByte? byte with
      | some escaped => prepend [escaped] (stringBytes rest)
      | none => failHere .invalidEscape rest
  | byte :: rest =>
      if byte < 0x20 then failHere .controlCharacter rest
      else prepend [byte] (stringBytes rest)

/-- Reads text after its opening quote. -/
def stringBody (rest : Bytes) : Except Halt (Scanned String) := do
  let (bytes, rest) ← stringBytes rest
  match String.fromUTF8? ⟨bytes.toArray⟩ with
  | some text => return (text, rest)
  | none => .error (.fault .invalidCodePoint (rest.length + 1))

end JsonTables.JsonText
