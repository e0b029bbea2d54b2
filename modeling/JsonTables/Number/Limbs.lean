import JsonTables.Number.IntegerText

/-!
# Integers in limbs

An integer of any size as its sign and its digits to the base `2 ^ 32`, the least
significant first and without zeros at the end.
-/

namespace JsonTables.Number

/-- The number of values of a limb, which has 32 bits. -/
def limbBase : Nat := 2 ^ 32

/-- The limbs of a number, the least first. -/
def toLimbs (value : Nat) : List Nat :=
  if value = 0 then [] else value % limbBase :: toLimbs (value / limbBase)
decreasing_by exact Nat.div_lt_self (by omega) (by decide)

/-- The number that limbs make up, the least of them first. -/
def ofLimbs : List Nat → Nat
  | [] => 0
  | limb :: rest => limb + limbBase * ofLimbs rest

/-- Limbs stand for the number that they were made from. -/
theorem ofLimbs_toLimbs (value : Nat) : ofLimbs (toLimbs value) = value := by
  induction value using Nat.strongRecOn with
  | ind value ih =>
    rw [toLimbs]
    split
    · simp_all [ofLimbs]
    · rename_i nonzero
      have smaller : value / limbBase < value :=
        Nat.div_lt_self (Nat.pos_of_ne_zero nonzero) (by decide)
      rw [ofLimbs, ih _ smaller]
      exact Nat.mod_add_div value limbBase

end JsonTables.Number
