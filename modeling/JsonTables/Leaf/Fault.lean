import JsonTables.Json
import JsonTables.Number.BinaryText
import JsonTables.Number.Decimal
import JsonTables.Time.EpochUnit
import JsonTables.Time.InstantText

/-!
# Faults of scalar values

Why a JSON value of an accepted kind is not a value of a leaf.
-/

namespace JsonTables

/-- Why a JSON value is not a value of a leaf; `target` names what it should be. -/
inductive ScalarFault
  | wrongKind (kind : Kind) (target : String)
  | notBool (text : String)
  | notChar (text : String)
  | notInteger (text target : String) (fault : Number.IntegerFault)
  | notDecimal (text : String) (fault : Number.DecimalFault)
  | notBinary (text target : String) (fault : Number.BinaryFault)
  | notInstant (text : String) (fault : Time.InstantFault)
  | tooManyDigits (value : Number.Decimal)
  | outOfInt64 (text : String)
  | outOfRange (text target : String)
  | epochOutOfRange (unit : Time.EpochUnit)
deriving DecidableEq, Repr

/-- The text of a fault, with what could not be read. -/
def ScalarFault.message : ScalarFault → String
  | wrongKind kind target => s!"cannot parse {kind.name} value as {target}"
  | notBool text => s!"cannot parse '{text}' as bool"
  | notChar text => s!"expected a single character, found '{text}'"
  | notInteger text target fault => s!"cannot parse '{text}' as {target}: {fault.message}"
  | notDecimal text fault => s!"cannot parse '{text}' as decimal: {fault.message}"
  | notBinary text target fault => s!"cannot parse '{text}' as {target}: {fault.message}"
  | notInstant text fault => s!"cannot parse '{text}' as instant: {fault.message}"
  | tooManyDigits value => s!"{value} has too many integer digits"
  | outOfInt64 text => s!"{text} is out of range for a 64-bit integer"
  | outOfRange text target => s!"{text} is out of range for {target}"
  | epochOutOfRange unit => s!"epoch value is out of range for unit {unit.symbol}"

end JsonTables
