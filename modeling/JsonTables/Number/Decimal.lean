import JsonTables.Number.IntegerText

/-!
# Decimals

A decimal is an integer and a scale, the number of its digits after the point.
It keeps every digit it was written with, so `1.50` and `1.5` are two decimals
of one value.  Operations that need the value never expand a scale beyond the
digits that are there: comparison looks at the magnitudes first, and the integer
part is refused when it would have too many digits.
-/

namespace JsonTables.Number

/-- The decimal `unscaled / 10 ^ scale`. -/
structure Decimal where
  unscaled : Int
  scale : Int
deriving DecidableEq, Repr

/-- Why a text is not a decimal. -/
inductive DecimalFault
  | empty
  | integer (fault : IntegerFault)
  | scaleRange (text : String)
deriving DecidableEq, Repr

/-- The text of a fault. -/
def DecimalFault.message : DecimalFault → String
  | .empty => "Failed to parse empty string"
  | .integer fault => fault.message
  | .scaleRange text => s!"Exponent overflow when parsing '{text}'"

/-- How many decimal digits a number has; zero has one. -/
def digitCount (value : Nat) : Nat :=
  (Nat.toDigits 10 value).length

/-- The decimal digits of a number. -/
def decimalDigits (value : Nat) : List Char :=
  Nat.toDigits 10 value

namespace Decimal

/-- Splits digits at their point: all the digits, and how many stand after it.
A point that comes last adds nothing. -/
def splitPoint (chars : List Char) : List Char × Nat :=
  match chars.dropWhile (· != '.') with
  | '.' :: after =>
      (chars.takeWhile (· != '.') ++ after, (after.filter (· != '_')).length)
  | _ => (chars, 0)

/-- Reads the exponent that follows an `e`; a text without one has exponent zero. -/
def readExponent (chars : List Char) : Except IntegerFault Int :=
  match chars.dropWhile (fun char => char != 'e' && char != 'E') with
  | [] => .ok 0
  | _ :: exponent => (Bounds.signed 128).read (String.ofList exponent)

/-- Reads a decimal: digits with an optional point and exponent. -/
def read (text : String) : Except DecimalFault Decimal := do
  let chars := text.toList
  let base := chars.takeWhile (fun char => char != 'e' && char != 'E')
  let exponent ← (readExponent chars).mapError .integer
  if base.isEmpty then throw .empty
  let (digits, places) := splitPoint base
  let scale := (places : Int) - exponent
  unless int64.contains scale do throw (.scaleRange text)
  let unscaled ← (readInteger digits).mapError .integer
  return ⟨unscaled, scale⟩

/-- An integer as a decimal. -/
def ofInt (value : Int) : Decimal :=
  ⟨value, 0⟩

/-- A decimal multiplied by an integer. -/
def scaleBy (decimal : Decimal) (factor : Int) : Decimal :=
  ⟨decimal.unscaled * factor, decimal.scale⟩

/-- How many digits the integer part has, zero or less if it is zero. -/
def integerDigits (decimal : Decimal) : Int :=
  digitCount decimal.unscaled.natAbs - decimal.scale

/-- The order of two positive decimals, given by their integers and scales. -/
def compareMagnitude (first : Nat) (firstScale : Int) (second : Nat) (secondScale : Int) :
    Ordering :=
  let firstSize := (digitCount first : Int) - firstScale
  let secondSize := (digitCount second : Int) - secondScale
  if firstSize < secondSize then .lt
  else if secondSize < firstSize then .gt
  else
    Ord.compare (first * 10 ^ (secondScale - firstScale).toNat)
      (second * 10 ^ (firstScale - secondScale).toNat)

/-- The order of two decimals by value. -/
def compare (first second : Decimal) : Ordering :=
  match Ord.compare first.unscaled.sign second.unscaled.sign with
  | .lt => .lt
  | .gt => .gt
  | .eq =>
      if first.unscaled = 0 then .eq
      else if 0 < first.unscaled then
        compareMagnitude first.unscaled.natAbs first.scale second.unscaled.natAbs second.scale
      else
        compareMagnitude second.unscaled.natAbs second.scale first.unscaled.natAbs first.scale

/-- Whether two decimals have one value. -/
def same (first second : Decimal) : Bool :=
  first.compare second == .eq

/-- The most digits that an integer part may have. -/
def maxIntegerDigits : Int := 1000

/-- The integer toward zero, or nothing where it would have too many digits. -/
def integerPart? (decimal : Decimal) : Option Int :=
  let digits := decimal.integerDigits
  if digits ≤ 0 then some 0
  else if maxIntegerDigits < digits then none
  else if decimal.scale ≤ 0 then
    some (decimal.unscaled * 10 ^ (-decimal.scale).toNat)
  else
    some (decimal.unscaled.tdiv (10 ^ decimal.scale.toNat))

/-- How many zeros may follow the point before the first digit in plain notation. -/
def maxLeadingZeros : Int := 5

/-- How many zeros may be added to an integer in plain notation. -/
def maxAddedZeros : Int := 15

/-- Digits with a point before the last `places` of them. -/
def pointed (digits : List Char) (places : Nat) : List Char :=
  if places < digits.length then
    digits.take (digits.length - places) ++ '.' :: digits.drop (digits.length - places)
  else
    '0' :: '.' :: List.replicate (places - digits.length) '0' ++ digits

/-- Digits of a positive decimal: plain where few zeros are added, else with an
exponent, which is small after a point and follows the integer without one. -/
def showMagnitude (value : Nat) (scale : Int) : List Char :=
  let digits := decimalDigits value
  if maxLeadingZeros < scale - digits.length then
    let fraction := if digits.length = 1 then [] else '.' :: digits.drop 1
    digits.take 1 ++ fraction ++ 'E' :: (toString (digits.length - 1 - scale)).toList
  else if 0 < scale then pointed digits scale.toNat
  else if maxAddedZeros < -scale then digits ++ 'e' :: '+' :: (toString (-scale)).toList
  else digits ++ List.replicate (-scale).toNat '0'

/-- The text of a decimal.  Zero has one text whatever its scale. -/
protected def toString (decimal : Decimal) : String :=
  if decimal.unscaled = 0 then "0"
  else
    let magnitude := showMagnitude decimal.unscaled.natAbs decimal.scale
    String.ofList (if decimal.unscaled < 0 then '-' :: magnitude else magnitude)

instance : ToString Decimal := ⟨Decimal.toString⟩

end Decimal

end JsonTables.Number
