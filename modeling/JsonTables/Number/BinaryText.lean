import JsonTables.Number.Binary

/-!
# Reading binary numbers

The text of a binary number is a decimal numeral, or a word for one of the
values that are not finite, after an optional sign.  A numeral is rounded once,
from its exact value.
-/

namespace JsonTables.Number

/-- Why a text is no binary number. -/
inductive BinaryFault
  | empty
  | invalid
deriving DecidableEq, Repr

/-- The text of a fault. -/
def BinaryFault.message : BinaryFault → String
  | .empty => "cannot parse float from empty string"
  | .invalid => "invalid float literal"

/-- A decimal numeral without its sign: `digits * 10 ^ exponent`. -/
structure Numeral where
  digits : Nat
  exponent : Int
deriving DecidableEq, Repr

namespace Numeral

/-- An exponent: an optional sign and digits. -/
def readExponent? : List Char → Option Int
  | '+' :: rest => (digits? rest).map Int.ofNat
  | '-' :: rest => (digits? rest).map fun value => -(value : Int)
  | chars => (digits? chars).map Int.ofNat

/-- Whether a character marks an exponent. -/
def isMark (char : Char) : Bool :=
  char == 'e' || char == 'E'

/-- Digits with an optional point among, before or after them. -/
def readDigits? (chars : List Char) : Option Numeral :=
  let whole := chars.takeWhile (· != '.')
  let fraction := (chars.dropWhile (· != '.')).drop 1
  (digits? (whole ++ fraction)).map fun value => ⟨value, -(fraction.length : Int)⟩

/-- A numeral: digits with an optional point, and an optional exponent. -/
def read? (chars : List Char) : Option Numeral := do
  let numeral ← readDigits? (chars.takeWhile (!isMark ·))
  match chars.dropWhile (!isMark ·) with
  | [] => some numeral
  | _ :: rest => return ⟨numeral.digits, numeral.exponent + (← readExponent? rest)⟩

/-- The nearest number of a format. -/
def toBinary {format : BinaryFormat} (negative : Bool) (numeral : Numeral) : Binary format :=
  .ofScientific negative numeral.digits numeral.exponent

end Numeral

namespace Binary

variable {format : BinaryFormat}

/-- A word for a value that is not finite, whatever its case. -/
def readWord? (negative : Bool) (chars : List Char) : Option (Binary format) :=
  let word := String.ofList (chars.map Char.toLower)
  if word = "inf" || word = "infinity" then some (.infinite negative)
  else if word = "nan" then some .nan
  else none

/-- A number without its sign. -/
def readUnsigned (negative : Bool) (chars : List Char) : Except BinaryFault (Binary format) :=
  match Numeral.read? chars with
  | some numeral => .ok (numeral.toBinary negative)
  | none =>
      match readWord? negative chars with
      | some value => .ok value
      | none => .error .invalid

/-- The number of a format that a text spells, rounded to the nearest. -/
def read (text : String) : Except BinaryFault (Binary format) :=
  match text.toList with
  | [] => .error .empty
  | '+' :: rest => readUnsigned false rest
  | '-' :: rest => readUnsigned true rest
  | chars => readUnsigned false chars

end Binary

end JsonTables.Number
