import JsonTables.JsonText.Typed
import JsonTables.Shape.Decode

/-!
# Reading how fields are found

A stored way of finding a field is an object, or a list of its parts in order.
Every part may be left out.
-/

namespace JsonTables.FieldMatching

open JsonText (Reader Scanned Bytes Halt)
open Content (MatchingDraft policies)

/-- Reads a value, or null in its place. -/
def optional {α : Type} (read : Reader α) : Reader (Option α) :=
  JsonText.peeked fun rest => do
    if JsonText.startsWith rest 'n' then
      return (none, ← JsonText.word ['u', 'l', 'l'] (rest.drop 1))
    else
      let (value, rest) ← read rest
      return (some value, rest)

/-- Reads a policy: its name alone, or an object of its name and null. -/
def policy (depth : Nat) : Reader RepeatPolicy :=
  JsonText.variant policies depth fun policy depth? =>
    match depth? with
    | none => fun rest => .ok (policy, rest)
    | some _ => fun rest => do
        let (_, rest) ← JsonText.unit rest
        return (policy, rest)

/-- Reads the other names of a field. -/
def aliasList (depth : Nat) : Reader (List String) :=
  JsonText.list "a sequence" depth fun _ => JsonText.string "a string"

/-- Reads the parts in order. -/
def fromList (depth : Nat) (rest : Bytes) : Except Halt (Scanned MatchingDraft) := do
  let (aliases, rest) ← JsonText.itemAt? true (aliasList depth) rest
  let (ignoresCase, rest) ← JsonText.itemAt? false JsonText.bool rest
  let (repeats, rest) ← JsonText.itemAt? false (optional (policy depth)) rest
  return ({ aliases, ignoresCase, repeats }, rest)

/-- Reads a part of how a field is found, which comes once; other keys are skipped. -/
def part (depth : Nat) (draft : MatchingDraft) (key : String) : Reader MatchingDraft :=
  fun rest => do
    if key = "aliases" then
      let (aliases, rest) ← JsonText.fieldValue key draft.aliases (aliasList depth) rest
      return ({ draft with aliases }, rest)
    else if key = "caseInsensitiveMatch" then
      let (ignoresCase, rest) ← JsonText.fieldValue key draft.ignoresCase JsonText.bool rest
      return ({ draft with ignoresCase }, rest)
    else if key = "repeatedBehavior" then
      let (repeats, rest) ←
        JsonText.fieldValue key draft.repeats (optional (policy depth)) rest
      return ({ draft with repeats }, rest)
    else
      let (_, rest) ← JsonText.ignored depth rest
      return (draft, rest)

/-- Reads a stored way of finding a field, within so many levels of brackets. -/
def stored (depth : Nat) : Reader FieldMatching := fun rest => do
  let (draft, rest) ← JsonText.listOrObject "struct FieldMatching" depth fromList
    (fun depth rest => JsonText.fields (part depth) {} rest) rest
  return (draft.finish, rest)

/-- Reads a way of finding a field from its text. -/
def ofStoredText (text : String) : Except JsonText.TextError FieldMatching :=
  JsonText.readAll (stored JsonText.maxDepth) (JsonText.bytesOf text)

end JsonTables.FieldMatching
