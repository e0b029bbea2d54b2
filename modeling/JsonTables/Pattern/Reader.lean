import JsonTables.Number.IntegerText
import JsonTables.Pattern.Regex

/-!
# Reading patterns

The text of a pattern is read from left to right into a regular expression.
Flags hold from where they are set to the end of their group.  There is nothing
to look around or to refer back with, and a letter that is escaped must stand for
something.  Groups may have names, but no two the same.  Groups, sets, repetitions,
sequences and alternatives may lie in one another only so deep.
-/

namespace JsonTables.Pattern

/-- The flags that are set at a place of a pattern. -/
structure Flags where
  /-- Letters match in either case. -/
  ignoresCase : Bool := false
  /-- The start and the end of a line are sought, not those of the text. -/
  multiLine : Bool := false
  /-- A point matches the end of a line too. -/
  dotAll : Bool := false
  /-- Blanks and comments in the pattern do not count. -/
  verbose : Bool := false
  /-- Sets go beyond ASCII. -/
  unicode : Bool := true
  /-- A return ends a line, alone or before a line feed. -/
  returns : Bool := false
deriving DecidableEq, Repr

/-- Drops a comment, up to the end of its line. -/
def skipComment (chars : List Char) : List Char :=
  (chars.dropWhile (· != '\n')).drop 1

/-- Drops blanks and comments, in at most so many steps. -/
def skipVerboseFrom : Nat → List Char → List Char
  | 0, chars => chars
  | _ + 1, [] => []
  | fuel + 1, char :: rest =>
      if Text.isBlank char then skipVerboseFrom fuel rest
      else if char = '#' then skipVerboseFrom fuel (skipComment rest)
      else char :: rest

/-- Drops what does not count at a place of a pattern. -/
def skip (flags : Flags) (chars : List Char) : List Char :=
  if flags.verbose then skipVerboseFrom (chars.length + 1) chars else chars

/-- Parts of a pattern that follow one another. -/
structure Row where
  count : Nat := 0
  /-- How deep the deepest of them is. -/
  deepest : Nat := 0
deriving DecidableEq, Repr

namespace Row

/-- Adds a part that is so deep. -/
def add (row : Row) (depth : Nat) : Row :=
  ⟨row.count + 1, max row.deepest depth⟩

/-- How deep a row is: a single part is no deeper for standing in one. -/
def depth (row : Row) : Nat :=
  if row.count ≤ 1 then row.deepest else row.deepest + 1

end Row

/-! ### Sets -/

/-- The complement of a set if it is negated.  Without Unicode, a set must not go
beyond ASCII. -/
def negateIf (flags : Flags) (negated : Bool) (set : CharSet) : Option CharSet :=
  let folded :=
    if !flags.ignoresCase then set
    else if flags.unicode then .folded set
    else .asciiFolded set
  let result := if negated then .complement folded else folded
  if !flags.unicode && result.has '\x80' then none else some result

/-- The set of digits, blanks or characters of words that a letter stands for. -/
def letterSet (flags : Flags) : Char → CharSet
  | 'd' =>
      if flags.unicode then .named (.categories ["nd"]) else .asciiDigits
  | 's' => if flags.unicode then .blanks else .asciiBlanks
  | _ => if flags.unicode then .wordChars else .asciiWordChars

/-- The set of a letter, or its complement for a capital letter. -/
def escapedSet (flags : Flags) (letter : Char) : Option CharSet :=
  let set := letterSet flags letter.toLower
  if !letter.isUpper then some set
  else if flags.unicode then some (.complement set)
  else none

/-- Reads the characters between braces; blanks do not count if the pattern is
verbose. -/
def braced (flags : Flags) : Nat → List Char → Option (List Char × List Char)
  | 0, _ => none
  | fuel + 1, chars =>
      match skip flags chars with
      | [] => none
      | '\x7d' :: rest => some ([], rest)
      | char :: rest => do
          let (inner, rest) ← braced flags fuel rest
          return (char :: inner, rest)

/-- The text before the first of some characters and the text after it. -/
def splitAt? (mark : List Char) : List Char → Option (List Char × List Char)
  | [] => none
  | char :: rest =>
      if mark.isPrefixOf (char :: rest) then some ([], (char :: rest).drop mark.length)
      else (splitAt? mark rest).map fun parts => (char :: parts.1, parts.2)

/-- The set that a name between braces stands for: a property, or a property and
its value.  The answer says whether the value is excluded. -/
def propertySet (name : List Char) : Option (Text.NamedSet × Bool) :=
  let value := fun excluded (parts : List Char × List Char) => do
    let set ← Text.NamedSet.ofValue? (String.ofList parts.1) (String.ofList parts.2)
    return (set, excluded)
  match splitAt? ['!', '='] name, splitAt? [':'] name, splitAt? ['='] name with
  | some parts, _, _ => value true parts
  | none, some parts, _ => value false parts
  | none, none, some parts => value false parts
  | none, none, none => (Text.NamedSet.ofName? (String.ofList name)).map (·, false)

/-- Reads the name of a property after its letter. -/
def readProperty (flags : Flags) (negated : Bool) (chars : List Char) :
    Option (CharSet × List Char) := do
  let (name, rest) ←
    match skip flags chars with
    | [] => none
    | '\x7b' :: rest => braced flags (rest.length + 1) rest
    | '\\' :: _ => none
    | letter :: rest => some ([letter], skip flags rest)
  if !flags.unicode then none
  let (set, excluded) ← propertySet name
  return (← negateIf flags (negated != excluded) (.named set), rest)

/-! ### Escapes -/

/-- What stands at a place of a pattern. -/
inductive Primitive where
  /-- A character; `isByte` if it is written as a byte. -/
  | char (value : Char) (isByte : Bool)
  | set (set : CharSet)
  | look (look : Look)

/-- The value of hexadecimal digits. -/
def hexValue? (digits : List Char) : Option Nat :=
  digits.foldlM (fun value digit => do
    let code := digit.toNat
    let own ←
      if digit.isDigit then some (code - 48)
      else if 'a' ≤ digit ∧ digit ≤ 'f' then some (code - 87)
      else if 'A' ≤ digit ∧ digit ≤ 'F' then some (code - 55)
      else none
    return 16 * value + own) 0

/-- The character of a code point in hexadecimal digits. -/
def hexChar? (digits : List Char) : Option Char := do
  if digits.isEmpty then none
  let code ← hexValue? digits
  if code.isValidChar then some (Char.ofNat code) else none

/-- Takes so many characters, between which nothing counts that does not count. -/
def takeChars (flags : Flags) : Nat → List Char → Option (List Char × List Char)
  | 0, chars => some ([], chars)
  | count + 1, chars =>
      match skip flags chars with
      | [] => none
      | char :: rest => do
          let (others, rest) ← takeChars flags count rest
          return (char :: others, rest)

/-- Reads a code point after its letter, which tells the number of digits. -/
def readHex (flags : Flags) (letter : Char) (chars : List Char) :
    Option (Primitive × List Char) := do
  match skip flags chars with
  | '\x7b' :: rest =>
      let (digits, rest) ← braced flags (rest.length + 1) rest
      return (.char (← hexChar? digits) false, rest)
  | chars =>
      let count := if letter = 'x' then 2 else if letter = 'u' then 4 else 8
      let (digits, rest) ← takeChars flags count chars
      return (.char (← hexChar? digits) (letter == 'x'), rest)

/-- Whether a character may be escaped to stand for itself. -/
def mayBeEscaped (char : Char) : Bool :=
  char.toNat < 128 && !char.isAlphanum && char != '<' && char != '>'

/-- Whether a character may be in the name of an edge of words. -/
def isEdgeChar (char : Char) : Bool :=
  char.isAlpha || char == '-'

/-- Reads the characters of a name of an edge of words. -/
def edgeName (flags : Flags) : Nat → List Char → List Char × List Char
  | 0, chars => ([], chars)
  | fuel + 1, chars =>
      match chars with
      | char :: rest =>
          if isEdgeChar char then
            let (others, rest) := edgeName flags fuel (skip flags rest)
            (char :: others, rest)
          else ([], chars)
      | [] => ([], [])

/-- Reads the name of an edge of words between braces.  What begins like no name
is left to be a repetition. -/
def readEdge (flags : Flags) (chars : List Char) : Option (Look × List Char) :=
  match chars with
  | '\x7b' :: rest =>
      match skip flags rest with
      | [] => none
      | char :: _ =>
          if !isEdgeChar char then some (.wordEdge flags.unicode, chars)
          else
            let rest := skip flags rest
            match edgeName flags (rest.length + 1) rest with
            | (name, '\x7d' :: rest) =>
                let name := String.ofList name
                if name = "start" then some (.wordStart flags.unicode, rest)
                else if name = "end" then some (.wordEnd flags.unicode, rest)
                else if name = "start-half" then some (.wordStartHalf flags.unicode, rest)
                else if name = "end-half" then some (.wordEndHalf flags.unicode, rest)
                else none
            | _ => none
  | _ => some (.wordEdge flags.unicode, chars)

/-- The control character of a letter. -/
def controlOf? : Char → Option Char
  | 'a' => some '\x07'
  | 'f' => some '\x0c'
  | 't' => some '\t'
  | 'n' => some '\n'
  | 'r' => some '\r'
  | 'v' => some '\x0b'
  | _ => none

/-- Reads an escape after its backslash. -/
def readEscape (flags : Flags) : List Char → Option (Primitive × List Char)
  | [] => none
  | letter :: rest =>
      if ['x', 'u', 'U'].contains letter then readHex flags letter rest
      else if ['p', 'P'].contains letter then do
        let (set, rest) ← readProperty flags (letter == 'P') rest
        return (.set set, rest)
      else if ['d', 's', 'w', 'D', 'S', 'W'].contains letter then do
        return (.set (← escapedSet flags letter), rest)
      else if mayBeEscaped letter then some (.char letter false, rest)
      else
        match controlOf? letter with
        | some control => some (.char control false, rest)
        | none =>
            match letter with
            | 'A' => some (.look .textStart, rest)
            | 'z' => some (.look .textEnd, rest)
            | 'b' => (readEdge flags rest).map fun edge => (.look edge.1, edge.2)
            | 'B' => some (.look (.notWordEdge flags.unicode), rest)
            | '<' => some (.look (.wordStart flags.unicode), rest)
            | '>' => some (.look (.wordEnd flags.unicode), rest)
            | _ => none

/-! ### Sets between brackets -/

/-- Ways to join what stands on the two sides of a sign. -/
inductive SetOperator
  | inter
  | diff
  | symmDiff

/-- What an operator makes of two sets. -/
def SetOperator.apply (operator : SetOperator) (first second : CharSet) : CharSet :=
  match operator with
  | inter => .inter first second
  | diff => .diff first second
  | symmDiff => .symmDiff first second

/-- What has been read of a set: what stands before an operator, and what has come
since. -/
structure PartialSet where
  left : Option (CharSet × SetOperator) := none
  leftDepth : Nat := 0
  current : CharSet := .empty
  row : Row := {}

namespace PartialSet

/-- Adds a set that is so deep to what has come. -/
def add (partialSet : PartialSet) (set : CharSet) (depth : Nat) : PartialSet :=
  { partialSet with
    current := .union partialSet.current set
    row := partialSet.row.add depth }

/-- How deep the set is that has been read. -/
def depth (partialSet : PartialSet) : Nat :=
  match partialSet.left with
  | some _ => max partialSet.leftDepth partialSet.row.depth + 1
  | none => partialSet.row.depth

/-- The set that has been read. -/
def whole (flags : Flags) (partialSet : PartialSet) : CharSet :=
  let fold := fun set : CharSet =>
    if !flags.ignoresCase then set
    else if flags.unicode then .folded set
    else .asciiFolded set
  match partialSet.left with
  | some (left, operator) => operator.apply (fold left) (fold partialSet.current)
  | none => partialSet.current

/-- Goes on after an operator. -/
def operate (flags : Flags) (partialSet : PartialSet) (operator : SetOperator) : PartialSet :=
  { left := some (partialSet.whole flags, operator), leftDepth := partialSet.depth }

end PartialSet

/-- The character that stands in a set for itself. -/
def setChar? (flags : Flags) : Primitive → Option Char
  | .char value _ => if !flags.unicode && 128 ≤ value.toNat then none else some value
  | _ => none

/-- The characters that an item of a set stands for.  Without Unicode, an item beyond ASCII
stands for none. -/
def itemSet? (flags : Flags) : Primitive → Option CharSet
  | .set set => some set
  | item => (setChar? flags item).map .single

/-- Reads an item of a set. -/
def readItem (flags : Flags) : List Char → Option (Primitive × List Char)
  | [] => none
  | '\\' :: rest => readEscape flags rest
  | char :: rest => some (.char char false, rest)

/-- Reads an item of a set, or a range of characters. -/
def readRange (flags : Flags) (chars : List Char) : Option (CharSet × List Char) := do
  let (first, rest) ← readItem flags chars
  let single := do return (← itemSet? flags first, skip flags rest)
  match skip flags rest with
  | [] => none
  | '-' :: after =>
      match skip flags after with
      | [] => none
      | ']' :: _ => single
      | '-' :: _ => single
      | start =>
          let (last, rest) ← readItem flags start
          let low ← setChar? flags first
          let high ← setChar? flags last
          if high < low then none else return (.between low high, rest)
  | _ => single

/-- Reads a set with a name between colons, after its opening bracket. -/
def readNamed (flags : Flags) : List Char → Option (Option CharSet × List Char)
  | ':' :: rest => do
      let (negated, rest) :=
        match rest with
        | '^' :: rest => (true, rest)
        | _ => (false, rest)
      let name := rest.takeWhile (· != ':')
      match rest.drop name.length with
      | ':' :: ']' :: rest =>
          let ranges ← CharSet.asciiNamed.lookup (String.ofList name)
          return (negateIf flags negated (.ranges ranges), rest)
      | _ => none
  | _ => none

/-- Reads the dashes at the start of a set, which stand for themselves. -/
def readDashes (flags : Flags) : Nat → PartialSet → List Char → PartialSet × List Char
  | fuel + 1, known, '-' :: rest =>
      readDashes flags fuel (known.add (.single '-') 0) (skip flags rest)
  | _, known, chars => (known, chars)

/-- Reads the start of a set after its bracket: whether it is negated, and the
dashes or the bracket that stand for themselves. -/
def openSet (flags : Flags) (chars : List Char) : Bool × PartialSet × List Char :=
  let chars := skip flags chars
  let (negated, chars) :=
    match chars with
    | '^' :: rest => (true, skip flags rest)
    | _ => (false, chars)
  let (known, chars) := readDashes flags chars.length {} chars
  if known.row.count ≠ 0 then (negated, known, chars)
  else
    match chars with
    | ']' :: rest => (negated, known.add (.single ']') 0, skip flags rest)
    | _ => (negated, known, chars)

/-- Reads the rest of a set up to its closing bracket, in so many steps.  The answer
says how deep the set is. -/
def readSet (flags : Flags) :
    Nat → Bool → PartialSet → List Char → Option (CharSet × Nat × List Char)
  | 0, _, _, _ => none
  | fuel + 1, negated, known, chars =>
      match skip flags chars with
      | [] => none
      | ']' :: rest => do
          return (← negateIf flags negated (known.whole flags), known.depth + 1, rest)
      | '[' :: rest => do
          match readNamed flags rest with
          | some (named, rest) => readSet flags fuel negated (known.add (← named) 0) rest
          | none =>
              let (innerNegated, inner, rest) := openSet flags rest
              let (set, depth, rest) ← readSet flags fuel innerNegated inner rest
              readSet flags fuel negated (known.add set depth) rest
      | '&' :: '&' :: rest => readSet flags fuel negated (known.operate flags .inter) rest
      | '-' :: '-' :: rest => readSet flags fuel negated (known.operate flags .diff) rest
      | '~' :: '~' :: rest => readSet flags fuel negated (known.operate flags .symmDiff) rest
      | chars => do
          let (set, rest) ← readRange flags chars
          readSet flags fuel negated (known.add set 0) rest

/-! ### Groups -/

/-- Reads flags up to a colon or a closing bracket, given those that have been
named and whether they are being turned off. -/
def readFlags (flags : Flags) (named : List Char) (isOff : Bool) :
    List Char → Option (Flags × List Char × Bool × List Char)
  | [] => none
  | ':' :: rest => if named.head? = some '-' then none else some (flags, named, false, rest)
  | ')' :: rest => if named.head? = some '-' then none else some (flags, named, true, rest)
  | char :: rest =>
      if named.contains char then none
      else
        let on := !isOff
        match char with
        | '-' => readFlags flags ('-' :: named) true rest
        | 'i' => readFlags { flags with ignoresCase := on } (char :: named) isOff rest
        | 'm' => readFlags { flags with multiLine := on } (char :: named) isOff rest
        | 's' => readFlags { flags with dotAll := on } (char :: named) isOff rest
        | 'x' => readFlags { flags with verbose := on } (char :: named) isOff rest
        | 'u' => readFlags { flags with unicode := on } (char :: named) isOff rest
        | 'R' => readFlags { flags with returns := on } (char :: named) isOff rest
        | 'U' => readFlags flags (char :: named) isOff rest
        | _ => none

/-- Whether a character may be in the name of a group, or be its first. -/
def isNameChar (isFirst : Bool) (char : Char) : Bool :=
  char == '_' || Text.isAlphabetic char
    || (!isFirst && (['.', '[', ']'].contains char || Text.hasCategory ["nd", "nl", "no"] char))

/-- Reads the name of a group up to its closing sign. -/
def readName (chars : List Char) : Option (String × List Char) :=
  let name := chars.takeWhile (· != '>')
  match name, chars.drop name.length with
  | first :: others, '>' :: rest =>
      if isNameChar true first && others.all (isNameChar false) then
        some (String.ofList name, rest)
      else none
  | _, _ => none

/-- Whether a group looks around. -/
def looksAround (chars : List Char) : Bool :=
  [['?', '='], ['?', '!'], ['?', '<', '='], ['?', '<', '!']].any (·.isPrefixOf chars)

/-- What has been read of a group. -/
structure Branch where
  flags : Flags
  /-- The names of groups that have been given. -/
  names : List String
  /-- The alternatives that have ended. -/
  done : Option Regex := none
  doneRow : Row := {}
  /-- What comes before the last item. -/
  before : Regex := .empty
  beforeRow : Row := {}
  /-- The last item, if it may be repeated, and how deep it is. -/
  last : Option (Regex × Nat) := none

namespace Branch

/-- The sequence that has been read. -/
def sequence (branch : Branch) : Regex :=
  match branch.last with
  | some (item, _) => .seq branch.before item
  | none => branch.before

/-- The items of the sequence that has been read. -/
def row (branch : Branch) : Row :=
  match branch.last with
  | some (_, depth) => branch.beforeRow.add depth
  | none => branch.beforeRow

/-- The expression that has been read. -/
def whole (branch : Branch) : Regex :=
  match branch.done with
  | some others => .alt others branch.sequence
  | none => branch.sequence

/-- How deep the expression is that has been read. -/
def depth (branch : Branch) : Nat :=
  (branch.doneRow.add branch.row.depth).depth

/-- Adds an item that is so deep. -/
def add (branch : Branch) (item : Regex) (depth : Nat) : Branch :=
  { branch with before := branch.sequence, beforeRow := branch.row, last := some (item, depth) }

/-- Starts another alternative. -/
def alternate (branch : Branch) : Branch :=
  { branch with
    done := some branch.whole
    doneRow := branch.doneRow.add branch.row.depth
    before := .empty
    beforeRow := {}
    last := none }

/-- Sets flags, an item that may not be repeated. -/
def setFlags (branch : Branch) (flags : Flags) : Branch :=
  { branch with
    flags
    before := branch.sequence
    beforeRow := branch.row.add 0
    last := none }

/-- How large an expression may be with its repetitions written out.  It approximates a limit on
compiled expressions, in which a set takes room by its ranges while `Regex.size` counts it once:
a pattern that repeats a large set, such as `\w{1000}`, is read although it would be too large
when compiled. -/
def maxSize : Nat := 327680

/-- How deep an expression may be. -/
def maxDepth : Nat := 250

/-- Repeats the last item. -/
def repeatLast (branch : Branch) (least : Nat) (most : Option Nat) : Option Branch := do
  let (last, depth) ← branch.last
  let item := Regex.repeat last least most
  if maxSize < item.size then none else some { branch with last := some (item, depth + 1) }

end Branch

/-- The expression of what stands at a place of a pattern. -/
def primitiveRegex (flags : Flags) : Primitive → Option Regex
  | .look look => some (.look look)
  | .set set => some (.set set)
  | .char value isByte =>
      let single := CharSet.single value
      if flags.unicode then
        some (.set (if flags.ignoresCase then .folded single else single))
      else if isByte && 128 ≤ value.toNat then none
      else
        some (.set (if flags.ignoresCase && value.toNat < 128 then .asciiFolded single else single))

/-- The set of a point. -/
def dotSet (flags : Flags) : Option CharSet :=
  if !flags.unicode then none
  else if flags.dotAll then some (.complement .empty)
  else if flags.returns then some (.complement (.ranges [(10, 10), (13, 13)]))
  else some (.complement (.ranges [(10, 10)]))

/-- The condition of a circumflex. -/
def startLook (flags : Flags) : Look :=
  if !flags.multiLine then .textStart
  else if flags.returns then .lineStartReturn
  else .lineStart

/-- The condition of a dollar sign. -/
def endLook (flags : Flags) : Look :=
  if !flags.multiLine then .textEnd
  else if flags.returns then .lineEndReturn
  else .lineEnd

/-- Drops the sign of a repetition that prefers few, which matches no less. -/
def dropLazy : List Char → List Char
  | '?' :: rest => rest
  | chars => chars

/-- The greatest count of a repetition. -/
def maxCount : Nat := 2 ^ 32 - 1

/-- Reads digits; nothing that does not count stands between them. -/
def countDigits (flags : Flags) : Nat → List Char → List Char × List Char
  | 0, chars => ([], chars)
  | fuel + 1, chars =>
      match chars with
      | char :: rest =>
          if char.isDigit then
            let (digits, rest) := countDigits flags fuel (skip flags rest)
            (char :: digits, rest)
          else ([], chars)
      | [] => ([], [])

/-- Reads the count of a repetition, with blanks around it. -/
def readCount (flags : Flags) (chars : List Char) : Option (Nat × List Char) := do
  let chars := chars.dropWhile Text.isBlank
  let (digits, rest) := countDigits flags (chars.length + 1) chars
  if digits.isEmpty then none
  let count := digits.foldl (fun value digit => 10 * value + (digit.toNat - 48)) 0
  if maxCount < count then none
  return (count, skip flags (rest.dropWhile Text.isBlank))

/-- Reads the counts of a repetition after its opening brace. -/
def readCounts (flags : Flags) (chars : List Char) :
    Option (Nat × Option Nat × List Char) := do
  let (least, rest) ← readCount flags (skip flags chars)
  match rest with
  | '\x7d' :: rest => return (least, some least, rest)
  | ',' :: rest =>
      match skip flags rest with
      | '\x7d' :: rest => return (least, none, rest)
      | chars =>
          let (most, rest) ← readCount flags chars
          match rest with
          | '\x7d' :: rest => if most < least then none else return (least, some most, rest)
          | _ => none
  | _ => none

/-- The start of a group: flags that are set from here on, or a group with flags of
its own and perhaps a name. -/
inductive GroupStart
  | set (flags : Flags) (rest : List Char)
  | group (flags : Flags) (names : List String) (rest : List Char)

/-- Reads the start of a group after its bracket. -/
def readStart (flags : Flags) (names : List String) (chars : List Char) : Option GroupStart := do
  let chars := skip flags chars
  if looksAround chars then none
  let named := fun rest => do
    let (name, rest) ← readName rest
    if names.contains name then none else some (GroupStart.group flags (name :: names) rest)
  match chars with
  | '?' :: 'P' :: '<' :: rest => named rest
  | '?' :: '<' :: rest => named rest
  | '?' :: rest =>
      let (inner, given, isSet, rest) ← readFlags flags [] false rest
      if isSet then
        if given.isEmpty then none else some (.set inner rest)
      else some (.group inner names rest)
  | _ => some (.group flags names chars)

/-- Reads what follows in a group, up to its closing bracket or to the end of the
pattern, in so many steps. -/
def readBranch : Nat → Bool → Branch → List Char → Option (Branch × List Char)
  | 0, _, _, _ => none
  | fuel + 1, inGroup, branch, chars =>
      let flags := branch.flags
      match skip flags chars with
      | [] => if inGroup then none else some (branch, [])
      | ')' :: rest => if inGroup then some (branch, rest) else none
      | '|' :: rest => readBranch fuel inGroup branch.alternate rest
      | '(' :: rest => do
          match ← readStart flags branch.names rest with
          | .set flags rest => readBranch fuel inGroup (branch.setFlags flags) rest
          | .group innerFlags names rest =>
              let (inner, rest) ← readBranch fuel true { flags := innerFlags, names } rest
              let branch := { branch with names := inner.names }
              readBranch fuel inGroup (branch.add inner.whole (inner.depth + 1)) rest
      | '[' :: rest => do
          let (negated, known, rest) := openSet flags rest
          let (set, depth, rest) ← readSet flags (rest.length + 1) negated known rest
          readBranch fuel inGroup (branch.add (.set set) depth) rest
      | '*' :: rest => do
          readBranch fuel inGroup (← branch.repeatLast 0 none) (dropLazy rest)
      | '+' :: rest => do
          readBranch fuel inGroup (← branch.repeatLast 1 none) (dropLazy rest)
      | '?' :: rest => do
          readBranch fuel inGroup (← branch.repeatLast 0 (some 1)) (dropLazy rest)
      | '\x7b' :: rest => do
          let (least, most, rest) ← readCounts flags rest
          readBranch fuel inGroup (← branch.repeatLast least most)
            (dropLazy (skip flags rest))
      | '\\' :: rest => do
          let (primitive, rest) ← readEscape flags rest
          readBranch fuel inGroup (branch.add (← primitiveRegex flags primitive) 0) rest
      | '.' :: rest => do
          readBranch fuel inGroup (branch.add (.set (← dotSet flags)) 0) rest
      | '^' :: rest => readBranch fuel inGroup (branch.add (.look (startLook flags)) 0) rest
      | '$' :: rest => readBranch fuel inGroup (branch.add (.look (endLook flags)) 0) rest
      | char :: rest => do
          let item ← primitiveRegex flags (.char char false)
          readBranch fuel inGroup (branch.add item 0) rest

/-- Reads a pattern that is neither too deep nor too large. -/
def Regex.read? (text : String) : Option Regex := do
  let chars := text.toList
  let (branch, _) ← readBranch (chars.length + 1) false { flags := {}, names := [] } chars
  if Branch.maxDepth < branch.depth then none
  let regex := branch.whole
  if Branch.maxSize < regex.size then none else return regex

end JsonTables.Pattern
