/-!
# Integers in decimal digits

Reading an integer from text, within bounds or without.  A bounded reader stops
at the first character at which the digits read so far leave the bounds, so a
text with two faults reports the one that comes first.
-/

-- A power of integers is the one of the core library, whatever else is imported beside this.
attribute [instance (high), default_instance 20000] instPowNat

namespace JsonTables.Number

/-- Why a text is not an integer of the wanted range. -/
inductive IntegerFault
  | empty
  | invalidDigit
  | tooLarge
  | tooSmall
deriving DecidableEq, Repr

/-- The text of a fault. -/
def IntegerFault.message : IntegerFault → String
  | .empty => "cannot parse integer from empty string"
  | .invalidDigit => "invalid digit found in string"
  | .tooLarge => "number too large to fit in target type"
  | .tooSmall => "number too small to fit in target type"

/-- The value of an ASCII digit. -/
def digitValue? (char : Char) : Option Nat :=
  if '0' ≤ char ∧ char ≤ '9' then some (char.toNat - '0'.toNat) else none

/-- The number written by digits after those already read. -/
def digitsFrom (value : Nat) : List Char → Option Nat
  | [] => some value
  | char :: rest => do digitsFrom (10 * value + (← digitValue? char)) rest

/-- The number written by one or more digits. -/
def digits? (chars : List Char) : Option Nat :=
  if chars.isEmpty then none else digitsFrom 0 chars

/-- An interval of integers. -/
structure Bounds where
  low : Int
  high : Int
deriving DecidableEq, Repr

namespace Bounds

/-- Signed integers of so many bits. -/
def signed (bits : Nat) : Bounds :=
  ⟨-(2 ^ (bits - 1)), 2 ^ (bits - 1) - 1⟩

/-- Unsigned integers of so many bits. -/
def unsigned (bits : Nat) : Bounds :=
  ⟨0, 2 ^ bits - 1⟩

/-- Whether an integer lies in the interval. -/
def contains (bounds : Bounds) (value : Int) : Bool :=
  bounds.low ≤ value && value ≤ bounds.high

/-- Reads digits upward from a value; leaving the interval is a fault. -/
def readUp (bounds : Bounds) (value : Int) : List Char → Except IntegerFault Int
  | [] => .ok value
  | char :: rest =>
      match digitValue? char with
      | none => .error .invalidDigit
      | some digit =>
          let next := 10 * value + digit
          if bounds.high < next then .error .tooLarge else readUp bounds next rest

/-- Reads digits downward from a value; leaving the interval is a fault. -/
def readDown (bounds : Bounds) (value : Int) : List Char → Except IntegerFault Int
  | [] => .ok value
  | char :: rest =>
      match digitValue? char with
      | none => .error .invalidDigit
      | some digit =>
          let next := 10 * value - digit
          if next < bounds.low then .error .tooSmall else readDown bounds next rest

/-- Reads an integer of the interval: an optional sign and digits.  Where the
interval has no negative numbers, a minus sign is no sign. -/
def read (bounds : Bounds) (text : String) : Except IntegerFault Int :=
  match text.toList with
  | [] => .error .empty
  | ['+'] => .error .invalidDigit
  | ['-'] => .error .invalidDigit
  | '+' :: rest => bounds.readUp 0 rest
  | '-' :: rest => if bounds.low < 0 then bounds.readDown 0 rest else .error .invalidDigit
  | chars => bounds.readUp 0 chars

end Bounds

/-- Integers of 64 bits. -/
def int64 : Bounds := .signed 64

/-- Digits that may have underscores between and after them. -/
def digitsWithUnderscores? (chars : List Char) : Except IntegerFault Nat :=
  match chars with
  | [] => .error .empty
  | '_' :: _ => .error .invalidDigit
  | _ =>
      match digitsFrom 0 (chars.filter (· != '_')) with
      | some value => .ok value
      | none => .error .invalidDigit

/-- Drops a plus sign, but not the first of two. -/
def dropPlus : List Char → List Char
  | '+' :: '+' :: rest => '+' :: '+' :: rest
  | '+' :: rest => rest
  | chars => chars

/-- Reads an integer of any size: an optional sign, then digits with optional
underscores after the first. -/
def readInteger (chars : List Char) : Except IntegerFault Int :=
  match chars with
  | '-' :: '+' :: rest => do return -((← digitsWithUnderscores? ('-' :: '+' :: rest)) : Int)
  | '-' :: rest => do return -((← digitsWithUnderscores? (dropPlus rest)) : Int)
  | _ => do return ((← digitsWithUnderscores? (dropPlus chars)) : Int)

end JsonTables.Number
