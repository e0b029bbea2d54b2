/-!
# Blank characters

The characters with Unicode's `White_Space` property, and trimming by them.
Names of data types, conditions and the blanks of a pattern all use this one
set.  JSON text has a narrower set of its own.
-/

namespace JsonTables.Text

/-- A character with the `White_Space` property. -/
def isBlank (char : Char) : Bool :=
  let code := char.toNat
  (9 ≤ code && code ≤ 13) || code == 0x20 || code == 0x85 || code == 0xA0
    || code == 0x1680 || (0x2000 ≤ code && code ≤ 0x200A) || code == 0x2028
    || code == 0x2029 || code == 0x202F || code == 0x205F || code == 0x3000

/-- The text without its leading blanks. -/
def trimStart (chars : List Char) : List Char :=
  chars.dropWhile isBlank

/-- The text without its trailing blanks. -/
def trimEnd (chars : List Char) : List Char :=
  (chars.reverse.dropWhile isBlank).reverse

/-- The text without the blanks around it. -/
def trim (chars : List Char) : List Char :=
  trimEnd (trimStart chars)

/-- No visible character of ASCII is blank. -/
theorem isBlank_of_visible {char : Char} (low : 0x21 ≤ char.toNat) (high : char.toNat ≤ 0x7E) :
    isBlank char = false := by
  simp only [isBlank, Bool.or_eq_false_iff, Bool.and_eq_false_iff, beq_eq_false_iff_ne,
    decide_eq_false_iff_not]
  omega

end JsonTables.Text
