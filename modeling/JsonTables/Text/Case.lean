import JsonTables.Text.CaseTable

/-!
# Lower case

The full lowercase mapping of Unicode.  Every character has a lowercase of its
own except two: a capital I with a dot becomes two characters, and a capital
sigma becomes a final sigma at the end of a word.  So the lowercase of a text is
not the lowercase of its parts put together.
-/

namespace JsonTables.Text

/-- The lowercase of a character on its own. -/
def lowerChar (char : Char) : Char :=
  let code := char.toNat
  match lowercaseRuns.find? (fun run => run.first ≤ code && code ≤ run.last
      && (code - run.first) % run.step == 0) with
  | some run => Char.ofNat (run.target + (code - run.first))
  | none => char

/-- The first character that is not case-ignorable is a cased one. -/
def nextIsCased (chars : List Char) : Bool :=
  match chars.dropWhile caseIgnorableRanges.has with
  | char :: _ => casedRanges.has char
  | [] => false

/-- Lowercase of the characters that follow `before`, which is in reverse order.
A capital sigma is final when a cased character comes before it and none after,
case-ignorable characters aside. -/
def lowerAfter (before : List Char) : List Char → List Char
  | [] => []
  | char :: rest =>
      let lowered :=
        if char = 'Σ' then
          [if nextIsCased before && !nextIsCased rest then 'ς' else 'σ']
        else if char = 'İ' then ['i', '\u0307']
        else [lowerChar char]
      lowered ++ lowerAfter (char :: before) rest

/-- The lowercase of a text. -/
def toLower (text : String) : String :=
  String.ofList (lowerAfter [] text.toList)

end JsonTables.Text
