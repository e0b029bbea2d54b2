import JsonTables.JsonText.Reader
import JsonTables.Number.BinaryText

/-!
# Reading values of a known type

Readers of a text whose value should be a truth value, a number, a text, a list,
a record or a variant.  What is there instead is a mismatch, at the place where
it ends.

A number with a fraction or an exponent is read as its leading digits, as many as
64 bits hold, times a power of ten; each step rounds, so the result may miss the
nearest number by a unit.
-/

namespace JsonTables.JsonText

open Number (Bounds Binary Double Single BinaryFormat)

/-- Goes to where the next value starts. -/
def peeked {α : Type} (read : Reader α) (rest : Bytes) : Except Halt (Scanned α) :=
  let rest := skipBlanks rest
  if rest.isEmpty then failNext .endInValue rest else read rest

/-- Enters brackets where so many levels are left. -/
def enter (depth : Nat) (rest : Bytes) : Except Halt Nat :=
  match depth with
  | 0 => failNext .tooDeep rest
  | depth + 1 => .ok depth

/-- A mismatch at the place where the reader stands. -/
def mismatchHere {α : Type} (cause : Mismatch) (rest : Bytes) : Except Halt α :=
  .error (.mismatch cause rest.length)

/-- Reads a truth value. -/
def bool : Reader Bool :=
  peeked fun rest =>
    if startsWith rest 't' then do return (true, ← word ['r', 'u', 'e'] (rest.drop 1))
    else if startsWith rest 'f' then do return (false, ← word ['a', 'l', 's', 'e'] (rest.drop 1))
    else wrongType "a boolean" rest

/-- Reads null. -/
def unit : Reader Unit :=
  peeked fun rest =>
    if startsWith rest 'n' then do return ((), ← word ['u', 'l', 'l'] (rest.drop 1))
    else wrongType "unit" rest

/-- Reads a text and what it stands for. -/
def stringAs {α : Type} (wanted : String) (convert : String → Except Mismatch α) : Reader α :=
  fun rest => do
    let (text, rest) ← string wanted rest
    match convert text with
    | .ok value => return (value, rest)
    | .error cause => mismatchHere cause rest

/-- The character of a text that has only one. -/
def singleChar (text : String) : Except Mismatch Char :=
  match text.toList with
  | [char] => .ok char
  | _ => .error (.invalidValue (.string text) "a character")

/-- The name of a variant among those that are known. -/
def variantName {α : Type} (known : List (String × α)) (name : String) : Except Mismatch α :=
  match known.lookup name with
  | some variant => .ok variant
  | none => .error (.unknownVariant name (known.map (·.1)))

/-! ### Numbers -/

/-- A number as it is read where a number is wanted. -/
inductive Numeric
  | integer (value : Int)
  | float (value : Double)

/-- The digits that have been taken in, and the power of ten they are short of. -/
structure Significand where
  value : Nat
  exponent : Int

namespace Significand

/-- The greatest significand. -/
def greatest : Nat := 2 ^ 64 - 1

/-- Takes in digits before the point until one does not fit; the others count. -/
def whole (taken : Significand) : List Char → Significand × Bool
  | [] => (taken, false)
  | char :: rest =>
      let next := 10 * taken.value + (Number.digitValue? char).getD 0
      if greatest < next then
        (⟨taken.value, taken.exponent + (rest.length + 1)⟩, true)
      else whole ⟨next, taken.exponent⟩ rest

/-- Takes in digits after the point until one does not fit; the others are dropped. -/
def fraction (taken : Significand) : List Char → Significand
  | [] => taken
  | char :: rest =>
      let next := 10 * taken.value + (Number.digitValue? char).getD 0
      if greatest < next then taken
      else fraction ⟨next, taken.exponent - 1⟩ rest

/-- The power of ten nearest to the exact one. -/
def power (exponent : Nat) : Double :=
  .ofScientific false 1 exponent

/-- The greatest exponent of a power of ten that is finite. -/
def greatestPower : Nat := 308

/-- Divides by powers of ten, the greatest one first. -/
def divide (value : Double) (exponent : Nat) : Nat → Double
  | 0 => .zero false
  | fuel + 1 =>
      if exponent ≤ greatestPower then value.div (power exponent)
      else divide (value.div (power greatestPower)) (exponent - greatestPower) fuel

/-- The number of a significand, or nothing if it is too large. -/
def toDouble? (taken : Significand) : Option Double :=
  let value : Double := .ofInt taken.value
  if taken.value = 0 then some value
  else if taken.exponent < 0 then some (divide value taken.exponent.natAbs 4)
  else if greatestPower < taken.exponent.natAbs then none
  else
    let product := value.mul (power taken.exponent.natAbs)
    if product.isInfinite then none else some product

end Significand

/-- The greatest exponent that is taken in, and the least. -/
def exponentBounds : Bounds := .signed 32

/-- An exponent held to its bounds. -/
def clampExponent (exponent : Int) : Int :=
  max exponentBounds.low (min exponentBounds.high exponent)

/-- How many digits of an exponent are left when it leaves its bounds, if it does. -/
def digitsBeyond (value : Nat) : List Char → Option Nat
  | [] => none
  | char :: rest =>
      let next := 10 * value + (Number.digitValue? char).getD 0
      if exponentBounds.high < next then some rest.length else digitsBeyond next rest

/-- A number with a sign. -/
def withSign (negative : Bool) (value : Double) : Double :=
  match value with
  | .finite _ significand exponent => .finite negative significand exponent
  | other => other

/-- The number that a token is read as.  An error says how many digits of the
exponent have not been read when the number is found to be out of range. -/
def NumberToken.numeric (token : NumberToken) : Except Nat Numeric := do
  let (taken, long) := Significand.whole ⟨0, 0⟩ token.whole
  let taken := taken.fraction (token.fraction.getD [])
  if !long && token.fraction.isNone && token.exponent.isNone then
    if !token.negative then return .integer taken.value
    else if taken.value = 0 || 2 ^ 63 < taken.value then
      return .float (withSign true (.ofInt taken.value))
    else return .integer (-taken.value)
  else
    let (negative, digits) := token.exponent.getD (false, [])
    match digitsBeyond 0 digits with
    | some left =>
        if taken.value ≠ 0 ∧ !negative then throw left
        else return .float (.zero token.negative)
    | none =>
        let shift : Int := (Number.digitsFrom 0 digits).getD 0
        let exponent := clampExponent (taken.exponent + (if negative then -shift else shift))
        match Significand.toDouble? ⟨taken.value, exponent⟩ with
        | some value => return .float (withSign token.negative value)
        | none => throw 0

/-- Reads a number and what it stands for. -/
def numberAs {α : Type} (wanted : String) (convert : Numeric → Except Mismatch α) : Reader α :=
  peeked fun rest => do
    if startsWith rest '-' || !(spanDigits rest).1.isEmpty then
      let (token, rest) ← number rest
      match token.numeric with
      | .error left => .error (.fault .numberOutOfRange (rest.length + left))
      | .ok numeric =>
          match convert numeric with
          | .ok value => return (value, rest)
          | .error cause => mismatchHere cause rest
    else wrongType wanted rest

/-- What is found where a number of 64 bits is. -/
def foundFloat (value : Double) : Found :=
  .float (value.toJson?.getD (toString value))

/-- The integer of a number within bounds. -/
def integerIn (bounds : Bounds) (wanted : String) : Numeric → Except Mismatch Int
  | .integer value =>
      if bounds.contains value then .ok value
      else .error (.invalidValue (.integer value) wanted)
  | .float value => .error (.invalidType (foundFloat value) wanted)

/-- Reads an integer within bounds. -/
def integer (bounds : Bounds) (wanted : String) : Reader Int :=
  numberAs wanted (integerIn bounds wanted)

/-- A number rounded to a format. -/
def binaryOf {format : BinaryFormat} : Numeric → Binary format
  | .integer value => .ofInt value
  | .float value => value.convert

/-- Reads a number of a format. -/
def binary {format : BinaryFormat} (wanted : String) : Reader (Binary format) :=
  numberAs wanted fun numeric => .ok (binaryOf numeric)

/-! ### Lists, records and variants -/

/-- Reads a list of values, each with the levels of brackets that are left. -/
def list {α : Type} (wanted : String) (depth : Nat) (read : Nat → Reader α) : Reader (List α) :=
  peeked fun rest => do
    if startsWith rest '[' then
      let depth ← enter depth rest
      placed (closed endList (items (read depth) (rest.drop 1)))
    else wrongType wanted rest

/-- Reads brackets of either kind, each with a reader of its own. -/
def listOrObject {α : Type} (wanted : String) (depth : Nat) (fromList : Nat → Reader α)
    (fromObject : Nat → Reader α) : Reader α :=
  peeked fun rest => do
    if startsWith rest '[' then
      let depth ← enter depth rest
      placed (closed endList (fromList depth (rest.drop 1)))
    else if startsWith rest '\x7b' then
      let depth ← enter depth rest
      placed (closed endObject (fromObject depth (rest.drop 1)))
    else wrongType wanted rest

/-- Reads the item of a list at a position, if the list is that long. -/
def itemAt? {α : Type} (isFirst : Bool) (read : Reader α) (rest : Bytes) :
    Except Halt (Scanned (Option α)) := do
  match ← nextItem isFirst rest with
  | none => return (none, skipBlanks rest)
  | some start =>
      let (value, rest) ← read start
      return (some value, rest)

/-- Reads the item of a list at a position, which must be there. -/
def itemAt {α : Type} (position : Nat) (wanted : String) (read : Reader α) (rest : Bytes) :
    Except Halt (Scanned α) := do
  match ← itemAt? (position == 0) read rest with
  | (some value, rest) => return (value, rest)
  | (none, rest) => .error (.unplaced (.invalidLength position wanted) rest)

/-- Reads the entries of an object one after another into a record. -/
def fieldsFrom {σ : Type} (field : σ → String → Reader σ) (isFirst : Bool) (record : σ) :
    Nat → Bytes → Except Halt (Scanned σ)
  | 0, rest => .ok (record, rest)
  | fuel + 1, rest => do
      match ← nextKey isFirst rest with
      | none => return (record, skipBlanks rest)
      | some start =>
          let (key, rest) ← stringBody (start.drop 1)
          let (record, rest) ← field record key rest
          fieldsFrom field false record fuel rest

/-- Reads a record from the entries of an object. -/
def fields {σ : Type} (field : σ → String → Reader σ) (empty : σ) (rest : Bytes) :
    Except Halt (Scanned σ) :=
  fieldsFrom field true empty (rest.length + 1) rest

/-- Reads a value that is not wanted. -/
def ignored (depth : Nat) : Reader Unit :=
  fun rest => do
    let (_, rest) ← value .kept depth (← colon rest)
    return ((), rest)

/-- Reads the value of a field that may come only once. -/
def fieldValue {α : Type} (name : String) (known : Option α) (read : Reader α) :
    Reader (Option α) :=
  fun rest => do
    if known.isSome then .error (.unplaced (.duplicateField name) rest)
    else
      let (value, rest) ← read (← colon rest)
      return (some value, rest)

/-- The value of a field that must be there. -/
def required {α : Type} (name : String) (known : Option α) (rest : Bytes) : Except Halt α :=
  match known with
  | some value => .ok value
  | none => .error (.unplaced (.missingField name) rest)

/-- Reads a variant: its name alone, or an object with its name and content.
`content` gets nothing where the name stands alone. -/
def variant {α β : Type} (known : List (String × β)) (depth : Nat)
    (content : β → Option Nat → Reader α) : Reader α :=
  peeked fun rest => do
    let name := stringAs "variant identifier" (variantName known)
    if startsWith rest '\x7b' then
      let depth ← enter depth rest
      let start := skipBlanks (rest.drop 1)
      let (tag, rest) ←
        if startsWith start '"' then name start else peeked (wrongType "variant identifier") start
      let (value, rest) ← content tag (some depth) (← colon rest)
      let rest := skipBlanks rest
      if rest.isEmpty then failHere .endInObject rest
      else if startsWith rest '\x7d' then return (value, rest.drop 1)
      else failHere .expectedValue rest
    else if startsWith rest '"' then
      let (tag, rest) ← name rest
      content tag none rest
    else failNext .expectedValue rest

/-- A variant whose name stands alone, where content is wanted. -/
def loneVariant {α : Type} (wanted : String) : Reader α :=
  fun rest => .error (.unplaced (.invalidType .unitVariant wanted) rest)

end JsonTables.JsonText
