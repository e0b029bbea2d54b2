import JsonTables.Json

/-!
# Sets of kinds

The kinds of JSON tokens that a value may be of.  A set has one form, so two
sets with the same kinds are equal.
-/

namespace JsonTables

/-- A set of kinds of values. -/
structure KindSet where
  string : Bool := false
  null : Bool := false
  int : Bool := false
  decimal : Bool := false
  bool : Bool := false
  object : Bool := false
  array : Bool := false
deriving DecidableEq, Repr

namespace KindSet

/-- Whether a kind is in the set. -/
def contains (set : KindSet) : Kind → Bool
  | .string => set.string
  | .null => set.null
  | .int => set.int
  | .decimal => set.decimal
  | .bool => set.bool
  | .object => set.object
  | .array => set.array

/-- The set with one more kind. -/
def insert (set : KindSet) : Kind → KindSet
  | .string => { set with string := true }
  | .null => { set with null := true }
  | .int => { set with int := true }
  | .decimal => { set with decimal := true }
  | .bool => { set with bool := true }
  | .object => { set with object := true }
  | .array => { set with array := true }

/-- The set without a kind. -/
def empty : KindSet := {}

/-- The set of listed kinds. -/
def ofList (kinds : List Kind) : KindSet :=
  kinds.foldl insert empty

/-- The set of all kinds. -/
def all : KindSet := ofList Kind.all

/-- The kinds of the set, in the order of `Kind.all`. -/
def toList (set : KindSet) : List Kind :=
  Kind.all.filter set.contains

/-- Whether the set has no kind. -/
def isEmpty (set : KindSet) : Bool :=
  set.toList.isEmpty

/-- Whether every kind of the set is in another. -/
def isSubset (set other : KindSet) : Bool :=
  set.toList.all other.contains

/-- The set with one more kind if a condition holds. -/
def insertIf (set : KindSet) (kind : Kind) (condition : Bool) : KindSet :=
  if condition then set.insert kind else set

@[simp] theorem contains_insert (set : KindSet) (kind other : Kind) :
    (set.insert kind).contains other = (kind == other || set.contains other) := by
  cases kind <;> cases other <;> rfl

@[simp] theorem contains_empty (kind : Kind) : empty.contains kind = false := by
  cases kind <;> rfl

/-- Sets with the same kinds are equal. -/
theorem ext {first second : KindSet}
    (same : ∀ kind, first.contains kind = second.contains kind) : first = second := by
  have string := same .string
  have null := same .null
  have int := same .int
  have decimal := same .decimal
  have bool := same .bool
  have object := same .object
  have array := same .array
  cases first
  cases second
  simp_all [contains]

end KindSet

end JsonTables
