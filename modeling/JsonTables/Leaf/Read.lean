import JsonTables.Leaf
import JsonTables.Leaf.Fault

/-!
# Reading the value of a leaf

A number is read from its digits, so nothing is lost on the way to a decimal or
an integer of any size.  Where decimals are accepted, an integer is read from a
decimal by dropping what follows the point, and a text is read as a decimal.
-/

namespace JsonTables

open Number (Single Double Decimal Bounds int64)
open Time (Instant EpochUnit)

namespace Leaf

/-- The decimal that a text or a number spells. -/
def decimalOf (text : String) : Except ScalarFault Decimal :=
  (Decimal.read text).mapError (.notDecimal text)

/-- The integer part of a decimal, toward zero. -/
def integerPart (value : Decimal) : Except ScalarFault Int :=
  match value.integerPart? with
  | some part => .ok part
  | none => .error (.tooManyDigits value)

/-- The integer part of a decimal as an integer of 64 bits. -/
def int64OfDecimal (value : Decimal) : Except ScalarFault Int := do
  let part ← integerPart value
  if int64.contains part then return part else throw (.outOfInt64 (toString value))

/-- The integer of 64 bits that a number is. -/
def int64OfNumber (text : String) : Except ScalarFault Int :=
  match int64.read text with
  | .ok value => .ok value
  | .error _ =>
      if Json.isIntegerText text then .error (.outOfInt64 text)
      else do int64OfDecimal (← decimalOf text)

/-- The integer of 64 bits that a text spells. -/
def int64OfText (target text : String) : Except ScalarFault Int :=
  (int64.read text).mapError (.notInteger text target)

/-- Reads a truth value, which may be spelled by a text. -/
def readBool : Json → Except ScalarFault Bool
  | .bool value => .ok value
  | .string text =>
      if text = "true" then .ok true
      else if text = "false" then .ok false
      else .error (.notBool text)
  | value => .error (.wrongKind value.kind "bool")

/-- Reads a text of one character. -/
def readChar : Json → Except ScalarFault Char
  | .string text =>
      match text.toList with
      | [char] => .ok char
      | _ => .error (.notChar text)
  | value => .error (.wrongKind value.kind "char")

/-- Reads an integer within bounds; `target` is the name of its type. -/
def readIntegral (bounds : Bounds) (target : String) (allowDecimal : Bool) (json : Json) :
    Except ScalarFault Int := do
  let value ←
    match json with
    | .number text => int64OfNumber text
    | .string text =>
        if allowDecimal then int64OfDecimal (← decimalOf text) else int64OfText target text
    | other => throw (.wrongKind other.kind target)
  if bounds.contains value then return value else throw (.outOfRange (toString value) target)

/-- The text of a JSON number as a finite number of 64 bits. -/
def doubleOfNumber (text : String) : Except ScalarFault Double :=
  match (Number.Binary.read text : Except _ Double) with
  | .ok value => if value.isFinite then .ok value else .error (.outOfRange text "double")
  | .error _ => .error (.outOfRange text "double")

/-- Reads a number of 64 bits. -/
def readDouble : Json → Except ScalarFault Double
  | .number text => doubleOfNumber text
  | .string text => (Number.Binary.read text).mapError (.notBinary text "double")
  | value => .error (.wrongKind value.kind "double")

/-- Reads a number of 32 bits.  A finite number beyond its range is a fault. -/
def readSingle (json : Json) : Except ScalarFault Single := do
  let value ←
    match json with
    | .string text => (Number.Binary.read text).mapError (.notBinary text "float")
    | other => do pure (← readDouble other).convert
  if value.isInfinite then
    let wide ← readDouble json
    if wide.isFinite then throw (.outOfRange (toString wide) "float")
  return value

/-- Reads a text; a number or a truth value is read as its own text. -/
def readString : Json → Except ScalarFault String
  | .string text => .ok text
  | .number text => .ok text
  | .bool value => .ok (if value then "true" else "false")
  | value => .error (.wrongKind value.kind "string")

/-- Reads an instant from its text. -/
def readInstant : Json → Except ScalarFault Instant
  | .string text => (Time.InstantText.readStrict text).mapError (.notInstant text)
  | value => .error (.wrongKind value.kind "instant")

/-- An integer of units in nanoseconds of 64 bits. -/
def nanosOfInteger (unit : EpochUnit) (value : Int) : Except ScalarFault Int :=
  let nanos := value * unit.toNanos
  if int64.contains nanos then .ok nanos else .error (.epochOutOfRange unit)

/-- A decimal of units in nanoseconds of 64 bits. -/
def nanosOfDecimal (unit : EpochUnit) (text : String) : Except ScalarFault Int := do
  int64OfDecimal ((← decimalOf text).scaleBy unit.toNanos)

/-- Reads an instant from a number of units. -/
def readEpoch (unit : EpochUnit) (allowDecimal : Bool) (json : Json) :
    Except ScalarFault Instant := do
  let nanos ←
    match json with
    | .number text =>
        if Json.isIntegerText text then nanosOfInteger unit (← int64OfNumber text)
        else nanosOfDecimal unit text
    | .string text =>
        if allowDecimal then nanosOfDecimal unit text
        else nanosOfInteger unit (← int64OfText "epoch value" text)
    | other => throw (.wrongKind other.kind "instant")
  return .ofNanos nanos

/-- Reads an integer of any size. -/
def readBigInteger (allowDecimal : Bool) : Json → Except ScalarFault Int
  | .number text =>
      if Json.isIntegerText text then
        (Number.readInteger text.toList).mapError (.notInteger text "big integer")
      else do integerPart (← decimalOf text)
  | .string text =>
      match Number.readInteger text.toList with
      | .ok value => .ok value
      | .error fault =>
          if allowDecimal then do integerPart (← decimalOf text)
          else .error (.notInteger text "big integer" fault)
  | value => .error (.wrongKind value.kind "big integer")

/-- Reads a decimal with every digit that it has. -/
def readBigDecimal : Json → Except ScalarFault Decimal
  | .number text => decimalOf text
  | .string text => decimalOf text
  | value => .error (.wrongKind value.kind "big decimal")

/-- Reads a value of a kind of leaf. -/
def readValue (allowDecimal : Bool) (json : Json) :
    (kind : LeafKind) → Except ScalarFault kind.Value
  | .boolean => readBool json
  | .char => readChar json
  | .byte => readIntegral (.signed 8) "byte" allowDecimal json
  | .short => readIntegral (.signed 16) "short" allowDecimal json
  | .int => readIntegral (.signed 32) "int" allowDecimal json
  | .long => readIntegral (.signed 64) "long" allowDecimal json
  | .float => readSingle json
  | .double => readDouble json
  | .string => readString json
  | .instant => readInstant json
  | .epoch unit => readEpoch unit allowDecimal json
  | .bigInteger => readBigInteger allowDecimal json
  | .bigDecimal => readBigDecimal json

end Leaf

end JsonTables
