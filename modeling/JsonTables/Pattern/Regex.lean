import JsonTables.Pattern.CharSet

/-!
# Regular expressions

An expression is followed through a text at all places at once: given the places
where it may start, it yields the places where it may end.  A place lies before,
between or after characters, so a text has one more of them than characters, and
a set of places is a list of truth values.
-/

namespace JsonTables.Pattern

/-- What stands around a place in a text. -/
structure Place where
  before : Option Char
  after : Option Char

/-- Conditions on a place that take up no characters. -/
inductive Look
  | textStart
  | textEnd
  | lineStart
  | lineEnd
  /-- A line may also end with a return, and a return and a line feed end it once. -/
  | lineStartReturn
  | lineEndReturn
  | wordEdge (unicode : Bool)
  | notWordEdge (unicode : Bool)
  | wordStart (unicode : Bool)
  | wordEnd (unicode : Bool)
  /-- No character of a word comes before. -/
  | wordStartHalf (unicode : Bool)
  /-- No character of a word comes after. -/
  | wordEndHalf (unicode : Bool)
deriving DecidableEq, Repr

namespace Look

/-- Whether there is a character that is part of a word. -/
def isWord (unicode : Bool) (char? : Option Char) : Bool :=
  let set := if unicode then CharSet.wordChars else CharSet.asciiWordChars
  char?.any set.has

/-- Whether a condition holds at a place. -/
def holds (look : Look) (place : Place) : Bool :=
  let word := fun unicode => isWord unicode place.before
  let wordNext := fun unicode => isWord unicode place.after
  match look with
  | textStart => place.before.isNone
  | textEnd => place.after.isNone
  | lineStart => place.before.isNone || place.before == some '\n'
  | lineEnd => place.after.isNone || place.after == some '\n'
  | lineStartReturn =>
      place.before.isNone || place.before == some '\n'
        || (place.before == some '\r' && place.after != some '\n')
  | lineEndReturn =>
      place.after.isNone || place.after == some '\r'
        || (place.after == some '\n' && place.before != some '\r')
  | wordEdge unicode => word unicode != wordNext unicode
  | notWordEdge unicode => word unicode == wordNext unicode
  | wordStart unicode => !word unicode && wordNext unicode
  | wordEnd unicode => word unicode && !wordNext unicode
  | wordStartHalf unicode => !word unicode
  | wordEndHalf unicode => !wordNext unicode

end Look

/-- A regular expression. -/
inductive Regex where
  | empty
  | set (set : CharSet)
  | look (look : Look)
  | seq (first second : Regex)
  | alt (first second : Regex)
  /-- At least so many times, and at most so many if there is a limit. -/
  | repeat (body : Regex) (least : Nat) (most : Option Nat)

/-- A set of places in a text. -/
abbrev Places := List Bool

namespace Places

/-- The places of a text, after what stands before it. -/
def around : Option Char → List Char → List Place
  | before, [] => [⟨before, none⟩]
  | before, char :: rest => ⟨before, some char⟩ :: around (some char) rest

/-- The places in either of two sets. -/
def union (first second : Places) : Places :=
  List.zipWith (· || ·) first second

/-- Applies a function so many times, or until it changes nothing more. -/
def iterate (step : Places → Places) : Nat → Places → Places
  | 0, places => places
  | count + 1, places =>
      let next := step places
      if next == places then places else iterate step count next

/-- Every place of a text. -/
def all (text : List Char) : Places :=
  List.replicate (text.length + 1) true

end Places

namespace Regex

/-- The places where an expression may end that starts at given places. -/
def advance (text : List Char) : Regex → Places → Places
  | empty, places => places
  | set known, places =>
      false :: List.zipWith (fun live char => live && known.has char) places text
  | look condition, places =>
      List.zipWith (fun live place => live && condition.holds place) places
        (Places.around none text)
  | seq first second, places => second.advance text (first.advance text places)
  | alt first second, places =>
      Places.union (first.advance text places) (second.advance text places)
  | .repeat body least most, places =>
      let more := fun places => Places.union places (body.advance text places)
      let extra := most.elim (text.length + 1) (· - least)
      Places.iterate more extra (Places.iterate (body.advance text) least places)

/-- Whether an expression matches some part of a text. -/
def found (regex : Regex) (text : List Char) : Bool :=
  (regex.advance text (Places.all text)).any id

/-- How large an expression is when its repetitions are written out.  A set counts as one item,
however many ranges of characters it has. -/
def size : Regex → Nat
  | empty => 0
  | set _ => 1
  | look _ => 1
  | seq first second => first.size + second.size
  | alt first second => 1 + first.size + second.size
  | .repeat body least most => 1 + body.size * max 1 (most.getD least)

end Regex

end JsonTables.Pattern
