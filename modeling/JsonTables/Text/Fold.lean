import JsonTables.Text.CaseTable

/-!
# Case folding

Characters that differ only in case, one by one.  They have one fold: the
lowercase of each of them, but for some that have a fold without being capital
letters.
-/

namespace JsonTables.Text

/-- The folds of characters that are not the lowercase. -/
def extraFolds : List (Nat × Nat) :=
  [ (0xB5, 0x3BC), (0x17F, 0x73), (0x345, 0x3B9), (0x3C2, 0x3C3), (0x3D0, 0x3B2),
    (0x3D1, 0x3B8), (0x3D5, 0x3C6), (0x3D6, 0x3C0), (0x3F0, 0x3BA), (0x3F1, 0x3C1),
    (0x3F5, 0x3B5), (0x1C80, 0x432), (0x1C81, 0x434), (0x1C82, 0x43E), (0x1C83, 0x441),
    (0x1C84, 0x442), (0x1C85, 0x442), (0x1C86, 0x44A), (0x1C87, 0x463), (0x1C88, 0xA64B),
    (0x1E9B, 0x1E61), (0x1FBE, 0x3B9), (0x1FD3, 0x390), (0x1FE3, 0x3B0),
    (0xFB05, 0xFB06) ]

/-- The code points from the first to the last of a run, in its steps. -/
def CaseRun.has (run : CaseRun) (code : Nat) : Bool :=
  run.first ≤ code && code ≤ run.last && (code - run.first) % run.step == 0

/-- The fold of a code point. -/
def foldCode (code : Nat) : Nat :=
  match extraFolds.lookup code with
  | some target => target
  | none =>
      match lowercaseRuns.find? (·.has code) with
      | some run => run.target + (code - run.first)
      | none => code

/-- The code points whose fold is a given one, that one among them. -/
def unfoldCode (target : Nat) : List Nat :=
  let capitals := lowercaseRuns.filterMap fun run =>
    let code := run.first + (target - run.target)
    if run.target ≤ target && run.has code then some code else none
  let others := extraFolds.filterMap fun entry =>
    if entry.2 = target then some entry.1 else none
  target :: capitals ++ others

/-- The characters that differ from a character only in case, and itself. -/
def caseVariants (char : Char) : List Char :=
  (unfoldCode (foldCode char.toNat)).map Char.ofNat

end JsonTables.Text
