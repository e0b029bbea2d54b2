/-!
# Sets of characters as ranges of code points

A set is a list of closed ranges in increasing order.  The larger sets of the
Unicode standard are written as text, one range after another in hexadecimal digits with
blanks between them, such as `41-5A 61-7A B5`; `Ranges.ofText` reads that form.
-/

namespace JsonTables.Text

/-- Closed ranges of code points in increasing order. -/
abbrev Ranges := List (Nat × Nat)

namespace Ranges

/-- Whether a code point lies in one of the ranges. -/
def contains : Ranges → Nat → Bool
  | [], _ => false
  | (low, high) :: rest, code =>
      if code < low then false
      else if code ≤ high then true
      else contains rest code

/-- Whether a character lies in one of the ranges. -/
def has (ranges : Ranges) (char : Char) : Bool :=
  ranges.contains char.toNat

/-- The value of a hexadecimal digit, zero for any other character. -/
def hexDigit (char : Char) : Nat :=
  let code := char.toNat
  if 48 ≤ code ∧ code ≤ 57 then code - 48
  else if 65 ≤ code ∧ code ≤ 70 then code - 55
  else if 97 ≤ code ∧ code ≤ 102 then code - 87
  else 0

/-- What has been read of the range that is being written. -/
structure Pending where
  low : Option Nat
  code : Nat

/-- The range that ends where the text of a range ends. -/
def Pending.close (pending : Pending) : Nat × Nat :=
  (pending.low.getD pending.code, pending.code)

/-- Reads the ranges that follow one that may have been begun. -/
def ofChars : Option Pending → List Char → Ranges
  | begun, [] => (begun.map Pending.close).toList
  | begun, char :: rest =>
      let pending := begun.getD ⟨none, 0⟩
      if char == ' ' || char == '\n' then (begun.map Pending.close).toList ++ ofChars none rest
      else if char == '-' then ofChars (some ⟨some pending.code, 0⟩) rest
      else ofChars (some ⟨pending.low, 16 * pending.code + hexDigit char⟩) rest

/-- The ranges that a text lists, in hexadecimal. -/
def ofText (text : String) : Ranges :=
  ofChars none text.toList

end Ranges

end JsonTables.Text
