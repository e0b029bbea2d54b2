import JsonTables.Number.Decimal

/-!
# Binary floating-point numbers

The numbers of a binary format as exact values: a sign, a significand and an
exponent of two, with the infinities and one value that is not a number.  All
arithmetic is a rounding of an exact quotient of natural numbers, to the nearest
number of the format, and to the even one of two that are as near.

The text of a number has the fewest digits that read back as the number, and of
those the nearest.
-/

namespace JsonTables.Number

/-- A binary format: the bits of a significand, and the exponents of the least
and of the greatest unit. -/
structure BinaryFormat where
  precision : Nat
  minExponent : Int
  maxExponent : Int
deriving DecidableEq, Repr

/-- The format of 32 bits. -/
def BinaryFormat.single : BinaryFormat := ⟨24, -149, 104⟩

/-- The format of 64 bits. -/
def BinaryFormat.double : BinaryFormat := ⟨53, -1074, 971⟩

/-- A number of a format.  A finite one is `significand * 2 ^ exponent`. -/
inductive Binary (format : BinaryFormat)
  | nan
  | infinite (negative : Bool)
  | finite (negative : Bool) (significand : Nat) (exponent : Int)
deriving DecidableEq, Repr

/-- Numbers of 32 bits. -/
abbrev Single := Binary .single

/-- Numbers of 64 bits. -/
abbrev Double := Binary .double

namespace Binary

variable {format : BinaryFormat}

/-- Zero with a sign. -/
def zero (negative : Bool) : Binary format :=
  .finite negative 0 format.minExponent

/-- The quotient to the nearest integer, and to the even one of two. -/
def nearestQuotient (numerator denominator : Nat) : Nat :=
  let quotient := numerator / denominator
  let twice := 2 * (numerator % denominator)
  if twice < denominator then quotient
  else if denominator < twice then quotient + 1
  else if quotient % 2 = 0 then quotient
  else quotient + 1

/-- `numerator / (denominator * 2 ^ exponent)` as a pair of naturals. -/
def scaledPair (numerator denominator : Nat) (exponent : Int) : Nat × Nat :=
  (numerator * 2 ^ (-exponent).toNat, denominator * 2 ^ exponent.toNat)

/-- The exponent at which a positive quotient has the significand of the format,
or the least exponent if that is greater. -/
def unitExponent (format : BinaryFormat) (numerator denominator : Nat) : Int :=
  let guess := (numerator.log2 : Int) - denominator.log2 - format.precision
  let (above, below) := scaledPair numerator denominator (guess + 1)
  let exact := if above / below < 2 ^ (format.precision - 1) then guess else guess + 1
  max exact format.minExponent

/-- The nearest number of the format to a quotient with a positive denominator. -/
def ofQuotient (negative : Bool) (numerator denominator : Nat) : Binary format :=
  if numerator = 0 then zero negative
  else
    let exponent := unitExponent format numerator denominator
    let (above, below) := scaledPair numerator denominator exponent
    let significand := nearestQuotient above below
    if significand = 2 ^ format.precision then
      if format.maxExponent < exponent + 1 then .infinite negative
      else .finite negative (2 ^ (format.precision - 1)) (exponent + 1)
    else if format.maxExponent < exponent then .infinite negative
    else .finite negative significand exponent

/-- Magnitudes of more digits before the point than this round to infinity, and
of so many zeros after it to zero. -/
def decimalReach : Int := 400

/-- The nearest number of the format to `digits * 10 ^ exponent`. -/
def ofScientific (negative : Bool) (digits : Nat) (exponent : Int) : Binary format :=
  let size := (digitCount digits : Int) + exponent
  if digits = 0 then zero negative
  else if decimalReach < size then .infinite negative
  else if size < -decimalReach then zero negative
  else ofQuotient negative (digits * 10 ^ exponent.toNat) (10 ^ (-exponent).toNat)

/-- The nearest number of the format to an integer. -/
def ofInt (value : Int) : Binary format :=
  ofQuotient (value < 0) value.natAbs 1

/-- The nearest number of the format to a decimal. -/
def ofDecimal (decimal : Decimal) : Binary format :=
  ofScientific (decimal.unscaled < 0) decimal.unscaled.natAbs (-decimal.scale)

/-- A finite magnitude as a quotient. -/
def quotient (significand : Nat) (exponent : Int) : Nat × Nat :=
  (significand * 2 ^ exponent.toNat, 2 ^ (-exponent).toNat)

/-- The nearest number of another format. -/
def convert {target : BinaryFormat} : Binary format → Binary target
  | .nan => .nan
  | .infinite negative => .infinite negative
  | .finite negative significand exponent =>
      let (numerator, denominator) := quotient significand exponent
      ofQuotient negative numerator denominator

/-- Neither infinite nor the value that is not a number. -/
def isFinite : Binary format → Bool
  | .finite .. => true
  | _ => false

/-- Whether a number is infinite. -/
def isInfinite : Binary format → Bool
  | .infinite _ => true
  | _ => false

/-- The signed quotient of a finite number. -/
def signedQuotient (negative : Bool) (significand : Nat) (exponent : Int) : Int × Nat :=
  let (numerator, denominator) := quotient significand exponent
  (if negative then -numerator else numerator, denominator)

/-- The order of two numbers by value; one that is not a number has no place. -/
def compare : Binary format → Binary format → Option Ordering
  | .nan, _ => none
  | _, .nan => none
  | .infinite first, .infinite second =>
      some (if first = second then .eq else if first then .lt else .gt)
  | .infinite negative, .finite .. => some (if negative then .lt else .gt)
  | .finite .., .infinite negative => some (if negative then .gt else .lt)
  | .finite firstSign first firstExponent, .finite secondSign second secondExponent =>
      let (a, b) := signedQuotient firstSign first firstExponent
      let (c, d) := signedQuotient secondSign second secondExponent
      some (Ord.compare (a * d) (c * b))

/-- Whether two numbers are equal by value; zero has two signs but one value. -/
def same (first second : Binary format) : Bool :=
  first.compare second == some .eq

/-- The product, rounded. -/
def mul : Binary format → Binary format → Binary format
  | .finite firstSign first firstExponent, .finite secondSign second secondExponent =>
      let (a, b) := quotient first firstExponent
      let (c, d) := quotient second secondExponent
      ofQuotient (firstSign != secondSign) (a * c) (b * d)
  | .infinite first, .finite second _ _ => .infinite (first != second)
  | .finite first _ _, .infinite second => .infinite (first != second)
  | .infinite first, .infinite second => .infinite (first != second)
  | .nan, _ => .nan
  | _, .nan => .nan

/-- The quotient by a finite number other than zero, rounded. -/
def div : Binary format → Binary format → Binary format
  | .finite firstSign first firstExponent, .finite secondSign second secondExponent =>
      let (a, b) := quotient first firstExponent
      let (c, d) := quotient second secondExponent
      ofQuotient (firstSign != secondSign) (a * d) (b * c)
  | .infinite first, .finite second _ _ => .infinite (first != second)
  | _, _ => .nan

/-! ### Shortest digits -/

/-- The number of digits before the point of a positive quotient; minus the number
of zeros after it for one below a tenth. -/
def decimalSize (numerator denominator : Nat) : Int :=
  if denominator ≤ numerator then digitCount (numerator / denominator)
  else 1 - digitCount ((denominator - 1) / numerator)

/-- Of the two numbers of so many digits next to a positive quotient, the nearer
of those that read back as it. -/
def digitsThatReadBack? (value : Binary format) (numerator denominator : Nat)
    (size : Int) (count : Nat) : Option Nat :=
  let exponent := size - count
  let above := numerator * 10 ^ (-exponent).toNat
  let below := denominator * 10 ^ exponent.toNat
  let low := above / below
  let readsBack := fun digits => ofScientific false digits exponent == value
  match readsBack low, readsBack (low + 1) with
  | true, true => some (if 2 * (above % below) ≤ below then low else low + 1)
  | true, false => some low
  | false, true => some (low + 1)
  | false, false => none

/-- The most digits that any number of 64 bits needs. -/
def maxDigits : Nat := 17

/-- The fewest digits that read back as a positive number, from `count` of them on. -/
def fewestDigits (value : Binary format) (numerator denominator : Nat) (size : Int)
    (count : Nat) : Nat → Nat × Int
  | 0 => (0, 0)
  | fuel + 1 =>
      match digitsThatReadBack? value numerator denominator size count with
      | some digits => (digits, size - count)
      | none => fewestDigits value numerator denominator size (count + 1) fuel

/-- Digits without the zeros at their end, and the exponent of the last one left. -/
def dropZeros (exponent : Int) : List Char → List Char × Int
  | '0' :: rest => dropZeros (exponent + 1) rest
  | reversed => (reversed.reverse, exponent)

/-- The digits of a finite number other than zero, and the exponent of the last. -/
def shortest (significand : Nat) (exponent : Int) (format : BinaryFormat) : List Char × Int :=
  let (numerator, denominator) := quotient significand exponent
  let size := decimalSize numerator denominator
  let (digits, last) := fewestDigits (.finite false significand exponent : Binary format)
    numerator denominator size 1 maxDigits
  dropZeros last (decimalDigits digits).reverse

/-- Digits in plain notation: no exponent, and no point after an integer. -/
def plain (digits : List Char) (exponent : Int) : List Char :=
  if 0 ≤ exponent then digits ++ List.replicate exponent.toNat '0'
  else Decimal.pointed digits (-exponent).toNat

/-- The text of a number in plain notation. -/
protected def toString : Binary format → String
  | .nan => "NaN"
  | .infinite negative => if negative then "-inf" else "inf"
  | .finite negative significand exponent =>
      let magnitude :=
        if significand = 0 then ['0']
        else
          let (digits, last) := shortest significand exponent format
          plain digits last
      String.ofList (if negative then '-' :: magnitude else magnitude)

instance : ToString (Binary format) := ⟨Binary.toString⟩

/-- The exponents at which a format's numbers have no exponent in JSON text. -/
structure PlainExponents where
  least : Int
  greatest : Int

/-- A number of 64 bits has at most four zeros after the point and sixteen digits
before it without an exponent, and one of 32 bits five and thirteen. -/
def plainExponents (format : BinaryFormat) : PlainExponents :=
  if format.precision ≤ 24 then ⟨-5, 13⟩ else ⟨-4, 16⟩

/-- The JSON text of a finite number; it shows that the number is no integer. -/
def jsonMagnitude (format : BinaryFormat) (significand : Nat) (exponent : Int) : List Char :=
  if significand = 0 then ['0', '.', '0']
  else
    let (digits, last) := shortest significand exponent format
    let size := digits.length + last
    let limits := plainExponents format
    if limits.least ≤ size && size ≤ limits.greatest then
      if 0 ≤ last then plain digits last ++ ['.', '0'] else plain digits last
    else
      let fraction := if digits.length = 1 then [] else '.' :: digits.drop 1
      let sign := if 0 ≤ size - 1 then ['+'] else []
      digits.take 1 ++ fraction ++ 'e' :: sign ++ (toString (size - 1)).toList

/-- The JSON text of a number; there is none for the others. -/
def toJson? : Binary format → Option String
  | .finite negative significand exponent =>
      let magnitude := jsonMagnitude format significand exponent
      some (String.ofList (if negative then '-' :: magnitude else magnitude))
  | _ => none

end Binary

end JsonTables.Number
