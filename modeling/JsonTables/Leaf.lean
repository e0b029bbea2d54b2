import JsonTables.Cell
import JsonTables.KindSet
import JsonTables.Time.EpochUnit

/-!
# Leaves

A leaf describes a JSON value that becomes one cell: the type of the cell, the
kinds of tokens that are accepted, and what stands for null and for a value that
is not there.
-/

namespace JsonTables

open Number (Single Double Decimal)
open Time (Instant EpochUnit)

/-- What is accepted in place of a value. -/
structure Acceptance where
  /-- Whether the value may be absent. -/
  allowMissing : Bool
  /-- The kinds of tokens that the value may be; null is one of them. -/
  desired : KindSet
deriving DecidableEq, Repr

/-- The kinds of leaves. -/
inductive LeafKind
  | boolean
  | char
  | byte
  | short
  | int
  | long
  | float
  | double
  | string
  | instant
  | epoch (unit : EpochUnit)
  | bigInteger
  | bigDecimal
deriving DecidableEq, Repr

namespace LeafKind

/-- The values of a kind of leaves. -/
abbrev Value : LeafKind → Type
  | boolean => Bool
  | char => Char
  | byte | short | int | long | bigInteger => Int
  | float => Single
  | double => Double
  | string => String
  | instant | epoch _ => Instant
  | bigDecimal => Decimal

/-- The name of a kind of leaves, as faults tell it. -/
def name : LeafKind → String
  | boolean => "bool"
  | char => "char"
  | byte => "byte"
  | short => "short"
  | int => "int"
  | long => "long"
  | float => "float"
  | double => "double"
  | string => "string"
  | instant => "instant"
  | epoch _ => "instant_number"
  | bigInteger => "big_integer"
  | bigDecimal => "big_decimal"

/-- The type of the cells of a kind. -/
def type : LeafKind → DataType
  | boolean => .boolean
  | char => .char
  | byte => .byte
  | short => .short
  | int => .int
  | long => .long
  | float => .float
  | double => .double
  | string => .string
  | instant | epoch _ => .instant
  | bigInteger => .bigInteger
  | bigDecimal => .bigDecimal

/-- The cell of a value. -/
def cell : (kind : LeafKind) → kind.Value → Cell
  | boolean, value => .boolean value
  | char, value => .char value
  | byte, value => .byte value
  | short, value => .short value
  | int, value => .int value
  | long, value => .long value
  | float, value => .float value
  | double, value => .double value
  | string, value => .string value
  | instant, value => .instant value
  | epoch _, value => .instant value
  | bigInteger, value => .bigInteger value
  | bigDecimal, value => .bigDecimal value

/-- The kinds of tokens that a leaf can read. -/
def parseable : LeafKind → KindSet
  | boolean => .ofList [.bool, .string, .null]
  | char | instant => .ofList [.string, .null]
  | string => .ofList [.string, .int, .decimal, .bool, .null]
  | byte | short | int | long | float | double | epoch _ | bigInteger | bigDecimal =>
      .ofList [.int, .decimal, .string, .null]

end LeafKind

/-- A description of a JSON value that becomes one cell. -/
structure Leaf where
  kind : LeafKind
  acceptance : Acceptance
  /-- The value that null stands for. -/
  onNull : Option kind.Value := none
  /-- The value that an absent value stands for. -/
  onMissing : Option kind.Value := none

namespace Leaf

/-- The cell of a value, or a null cell where there is none. -/
def cellOr (kind : LeafKind) : Option kind.Value → Cell
  | some value => kind.cell value
  | none => .null

/-- Whether two optional values of a leaf give the same cell. -/
def sameValue {first second : LeafKind} (value : Option first.Value)
    (other : Option second.Value) : Bool :=
  (cellOr first value).same (cellOr second other)

/-- Whether two leaves are of one kind, accept the same and have the same values. -/
def same (first second : Leaf) : Bool :=
  first.kind == second.kind && first.acceptance == second.acceptance
    && sameValue first.onNull second.onNull && sameValue first.onMissing second.onMissing

end Leaf

end JsonTables
