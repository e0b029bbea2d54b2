import JsonTables.Cell.Stored

/-!
# Contents

A stored value that has been read before it is known what it should be.  A number
is an integer of 64 bits, or a number of 64 bits where its text is the one that
such a number has; any other is kept as an object with its text.  What turns out
to be of the wrong type is a mismatch that has no place any more.
-/

namespace JsonTables

open JsonText (Mismatch Found)
open Number (Bounds Double Single Decimal)

/-- A value that has been read. -/
inductive Content where
  | null
  | bool (value : Bool)
  | integer (value : Int)
  | float (value : Double)
  | text (value : String)
  | list (items : List Content)
  | map (entries : List (String × Content))
deriving Inhabited

namespace Content

/-- What a content is found to be, where something else was expected. -/
def found : Content → Found
  | null => .null
  | bool value => .bool value
  | integer value => .integer value
  | float value => JsonText.foundFloat value
  | text value => .string value
  | list _ => .list
  | map _ => .object

/-- The mismatch of a content that should be something else. -/
def mismatch {α : Type} (content : Content) (wanted : String) : Except Mismatch α :=
  .error (.invalidType content.found wanted)

/-! ### From values -/

/-- A number that is kept by its text. -/
def spelled (text : String) : Content :=
  map [(JsonText.numberKey, .text text)]

/-- The content of a number in a text; minus zero is kept by its text. -/
def ofNumberToken (text : String) : Content :=
  match (Bounds.unsigned 64).read text, (Bounds.signed 64).read text with
  | .ok value, _ => integer value
  | _, .ok value => if value = 0 then spelled text else integer value
  | _, _ => spelled text

/-- What is found where an integer is that has more than 64 bits but not more than
128. -/
def foundWide? (text : String) : Option Found :=
  match (Bounds.unsigned 128).read text, (Bounds.signed 128).read text with
  | .ok _, _ => some (.other s!"integer `{text}` as u128")
  | _, .ok _ => some (.other s!"integer `{text}` as i128")
  | _, _ => none

/-- Whether a text is one of those that a number of 64 bits has. -/
def isTextOf (value : Double) (text : String) : Bool :=
  value.isFinite && (value.toJson? == some text || toString value == text)

/-- The content of a number in a value, an integer of 64 bits if it is one. -/
def ofNumberValue (wanted text : String) : Except Mismatch Content :=
  match (Bounds.unsigned 64).read text, (Bounds.signed 64).read text with
  | .ok value, _ => .ok (integer value)
  | _, .ok value => .ok (integer value)
  | _, _ =>
      match foundWide? text with
      | some wide => .error (.invalidType wide wanted)
      | none =>
          match Number.Binary.read text with
          | .ok value => .ok (if isTextOf value text then float value else spelled text)
          | .error _ => .ok (spelled text)

mutual

/-- The content of a JSON value, by the content of its numbers. -/
def ofJson (number : String → Except Mismatch Content) : Json → Except Mismatch Content
  | .null => .ok null
  | .bool value => .ok (bool value)
  | .number digits => number digits
  | .string value => .ok (text value)
  | .array items => do return list (← ofItems number items)
  | .object entries => do return map (← ofEntries number entries)
termination_by structural json => json

/-- The contents of the items of a list. -/
def ofItems (number : String → Except Mismatch Content) :
    List Json → Except Mismatch (List Content)
  | [] => .ok []
  | item :: rest => do
      let content ← ofJson number item
      return content :: (← ofItems number rest)
termination_by structural items => items

/-- The contents of entries, in order and with repeated keys. -/
def ofEntries (number : String → Except Mismatch Content) :
    List (String × Json) → Except Mismatch (List (String × Content))
  | [] => .ok []
  | (key, value) :: rest => do
      let content ← ofJson number value
      return (key, content) :: (← ofEntries number rest)
termination_by structural entries => entries

end

/-- The content of a value that has been read from a text. -/
def ofToken (json : Json) : Except Mismatch Content :=
  ofJson (fun text => .ok (ofNumberToken text)) json

/-- The content of a value in memory. -/
def ofValue (json : Json) : Except Mismatch Content :=
  ofJson (ofNumberValue "any value") json

/-! ### To values -/

/-- A content that must be a truth value. -/
def toBool : Content → Except Mismatch Bool
  | bool value => .ok value
  | other => other.mismatch "a boolean"

/-- A content that must be an integer within bounds. -/
def toInteger (bounds : Bounds) (wanted : String) : Content → Except Mismatch Int
  | integer value =>
      if bounds.contains value then .ok value
      else .error (.invalidValue (.integer value) wanted)
  | other => other.mismatch wanted

/-- A content that must be a number, rounded to a format. -/
def toBinary {format : Number.BinaryFormat} (wanted : String) :
    Content → Except Mismatch (Number.Binary format)
  | integer value => .ok (.ofInt value)
  | float value => .ok value.convert
  | other => other.mismatch wanted

/-- A content that must be a text, and what the text stands for. -/
def textAs {α : Type} (wanted : String) (convert : String → Except Mismatch α) :
    Content → Except Mismatch α
  | text value => convert value
  | other => other.mismatch wanted

/-- A content that must be a text. -/
def toText : Content → Except Mismatch String :=
  textAs "a string" .ok

/-- The items of a content that must be a list. -/
def toItems (wanted : String) : Content → Except Mismatch (List Content)
  | list items => .ok items
  | other => other.mismatch wanted

/-- The entries of a content that must be a map. -/
def toEntries : Content → Except Mismatch (List (String × Content))
  | map entries => .ok entries
  | other => other.mismatch "a map"

/-- The mismatch of a list that is longer than it should be. -/
def tooLong {α : Type} (length wanted : Nat) : Except Mismatch α :=
  let unit := if wanted = 1 then "element" else "elements"
  .error (.invalidLength length s!"{wanted} {unit} in sequence")

/-- A content that must be an integer of any size. -/
def toBigInteger (content : Content) : Except Mismatch Int := do
  let wanted := "a tuple of size 2"
  match ← content.toItems wanted with
  | [] => throw (.invalidLength 0 wanted)
  | first :: rest =>
      let sign ← Cell.signOf (← first.toInteger (.signed 8) "i8")
      match rest with
      | [] => throw (.invalidLength 1 wanted)
      | second :: others =>
          let limbs ← (← second.toItems Cell.limbsWanted).mapM
            (toInteger (.unsigned 32) "u32")
          unless others.isEmpty do tooLong (2 + others.length) 2
          return Cell.signedLimbs sign (limbs.map Int.toNat)

/-- The exact decimal of a finite binary number. -/
def exactDecimal (value : Double) : Decimal :=
  match value with
  | .finite negative significand exponent =>
      let sign : Int := if negative then -1 else 1
      let twos := (List.range exponent.natAbs).takeWhile fun power =>
        significand % 2 ^ (power + 1) = 0
      if significand = 0 then .ofInt 0
      else if 0 ≤ exponent then .ofInt (sign * (significand * 2 ^ exponent.toNat : Nat))
      else
        let scale := exponent.natAbs - twos.length
        ⟨sign * (significand / 2 ^ twos.length * 5 ^ scale : Nat), scale⟩
  | _ => .ofInt 0

/-- A content that must be a number or the text of a decimal. -/
def toDecimal : Content → Except Mismatch Decimal
  | integer value => .ok (.ofInt value)
  | float value => .ok (exactDecimal value)
  | text value => Cell.decimalOf value
  | other => other.mismatch Cell.decimalWanted

/-- A content that must be the name of a variant without parts. -/
def toVariant {α : Type} (known : List (String × α)) : Content → Except Mismatch α
  | text name => JsonText.variantName known name
  | map [(name, content)] => do
      let variant ← JsonText.variantName known name
      match content with
      | null => return variant
      | map [] => return variant
      | other => other.mismatch "unit"
  | map _ => .error (.invalidValue .object "map with a single key")
  | other => other.mismatch "string or map"

/-- A content that may be null. -/
def optional {α : Type} (read : Content → Except Mismatch α) :
    Content → Except Mismatch (Option α)
  | null => .ok none
  | content => do return some (← read content)

end Content

end JsonTables
