import JsonTables.Issue
import JsonTables.Time.Instant

/-!
# Units of epoch time

An instant as a number of units since the first of January 1970.
-/

namespace JsonTables.Time

/-- The units in which instants may be numbers. -/
inductive EpochUnit
  | seconds
  | millis
  | micros
  | nanos
deriving DecidableEq, Repr, Inhabited

namespace EpochUnit

/-- Every unit, the longest first. -/
def all : List EpochUnit :=
  [seconds, millis, micros, nanos]

/-- The symbol of a unit. -/
def symbol : EpochUnit → String
  | seconds => "s"
  | millis => "ms"
  | micros => "us"
  | nanos => "ns"

/-- The nanoseconds of a unit. -/
def toNanos : EpochUnit → Nat
  | seconds => 1000000000
  | millis => 1000000
  | micros => 1000
  | nanos => 1

/-- Reads the symbol of a unit. -/
def read (text : String) : Except Issue EpochUnit :=
  match all.find? fun unit => unit.symbol == text with
  | some unit => .ok unit
  | none => .error (.invalid s!"Invalid number format: {text}")

end EpochUnit

end JsonTables.Time
