import JsonTables.Proofs.LongerPatterns

/-!
# Reading groups from a longer pattern

Flags, the names and starts of groups, and the counts of repetitions are read alike from a longer
pattern, as escapes and sets are.  What is read of a group up to its own closing bracket is
therefore read alike too.
-/

namespace JsonTables.Pattern

variable {flags : Flags} {chars rest more : List Char}

/-! ### Starts of groups -/

theorem readFlags_append {named given : List Char} {isOff isSet : Bool} {inner : Flags}
    (isRead : readFlags flags named isOff chars = some (inner, given, isSet, rest))
    (more : List Char) :
    readFlags flags named isOff (chars ++ more) = some (inner, given, isSet, rest ++ more) := by
  induction chars generalizing flags named isOff with
  | nil => cases isRead
  | cons char after ih =>
      rw [List.cons_append]
      by_cases isColon : char = ':'
      · subst isColon
        rw [readFlags] at isRead ⊢
        split_ifs at isRead ⊢
        cases isRead
        rfl
      by_cases isBracket : char = ')'
      · subst isBracket
        rw [readFlags] at isRead ⊢
        split_ifs at isRead ⊢
        cases isRead
        rfl
      · rw [readFlags.eq_4 _ _ _ _ _ isColon isBracket] at isRead ⊢
        split at isRead
        · cases isRead
        · rename_i isNew
          rw [if_neg isNew]
          split at isRead <;> first | exact ih isRead | cases isRead

/-- Whether characters may be the name of a group. -/
def isName : List Char → Bool
  | [] => false
  | first :: others => isNameChar true first && others.all (isNameChar false)

theorem readName_eq_some_iff {name : String} :
    readName chars = some (name, rest) ↔
      ∃ letters, chars = letters ++ '>' :: rest ∧ '>' ∉ letters ∧ isName letters = true ∧
        String.ofList letters = name := by
  simp only [readName, drop_length_takeWhile]
  constructor
  · intro isRead
    split at isRead
    · rename_i first others left isTaken isDropped
      split at isRead
      · rename_i isAllowed
        obtain ⟨isText, rfl⟩ := Prod.mk.inj (Option.some.inj isRead)
        refine ⟨first :: others, ?_, ?_, isAllowed, ?_⟩
        · rw [← isTaken, ← isDropped, List.takeWhile_append_dropWhile]
        · intro hasSign
          rw [← isTaken] at hasSign
          simpa using List.mem_takeWhile_imp hasSign
        · rw [← isTaken, isText]
      · cases isRead
    · cases isRead
  · rintro ⟨letters, rfl, noSign, isAllowed, rfl⟩
    rw [takeWhile_mark noSign, dropWhile_mark noSign]
    cases letters with
    | nil => cases isAllowed
    | cons first others => exact if_pos isAllowed

theorem readName_append {name : String} (isRead : readName chars = some (name, rest))
    (more : List Char) : readName (chars ++ more) = some (name, rest ++ more) := by
  rw [readName_eq_some_iff] at isRead ⊢
  obtain ⟨letters, rfl, noSign, isAllowed, isText⟩ := isRead
  exact ⟨letters, by simp, noSign, isAllowed, isText⟩

/-- What begins a text with no closing bracket begins it no less if one stands behind it. -/
theorem isPrefixOf_append (closes : Closes more) {mark : List Char} (noBracket : ')' ∉ mark)
    (chars : List Char) : mark.isPrefixOf (chars ++ more) = mark.isPrefixOf chars := by
  obtain ⟨line, rfl⟩ := closes.exists_cons
  induction mark generalizing chars with
  | nil => simp
  | cons first others ih =>
      rw [List.mem_cons, not_or] at noBracket
      cases chars with
      | nil => simp [List.isPrefixOf, Ne.symm noBracket.1]
      | cons char after => simp [List.isPrefixOf, ih noBracket.2]

theorem looksAround_append (closes : Closes more) (chars : List Char) :
    looksAround (chars ++ more) = looksAround chars := by
  have noBracket : ∀ mark ∈ [['?', '='], ['?', '!'], ['?', '<', '='], ['?', '<', '!']],
      ')' ∉ mark := by decide
  rw [looksAround, looksAround, Bool.eq_iff_iff, List.any_eq_true, List.any_eq_true]
  refine exists_congr fun mark => and_congr_right fun markMem => ?_
  rw [isPrefixOf_append closes (noBracket mark markMem)]

/-- The start of a group with more behind it. -/
def GroupStart.append (more : List Char) : GroupStart → GroupStart
  | .set flags rest => .set flags (rest ++ more)
  | .group flags names rest => .group flags names (rest ++ more)

/-- Reads the name of a group that must not be given already. -/
def namedStart (flags : Flags) (names : List String) (chars : List Char) : Option GroupStart :=
  (readName chars).bind fun read =>
    if names.contains read.1 then none else some (.group flags (read.1 :: names) read.2)

/-- Reads the flags at the start of a group. -/
def flagsStart (flags : Flags) (names : List String) (chars : List Char) : Option GroupStart :=
  (readFlags flags [] false chars).bind fun (inner, given, isSet, rest) =>
    if isSet then if given.isEmpty then none else some (.set inner rest)
    else some (.group inner names rest)

theorem namedStart_append {names : List String} {start : GroupStart}
    (isRead : namedStart flags names chars = some start) (more : List Char) :
    namedStart flags names (chars ++ more) = some (start.append more) := by
  simp only [namedStart, Option.bind_eq_some_iff, Prod.exists] at isRead ⊢
  obtain ⟨name, rest, isName, isStart⟩ := isRead
  refine ⟨name, rest ++ more, readName_append isName more, ?_⟩
  split at isStart
  · cases isStart
  · rename_i isNew
    cases isStart
    rw [if_neg isNew]
    rfl

theorem flagsStart_append {names : List String} {start : GroupStart}
    (isRead : flagsStart flags names chars = some start) (more : List Char) :
    flagsStart flags names (chars ++ more) = some (start.append more) := by
  simp only [flagsStart, Option.bind_eq_some_iff, Prod.exists] at isRead ⊢
  obtain ⟨inner, given, isSet, rest, isFlags, isStart⟩ := isRead
  refine ⟨inner, given, isSet, rest ++ more, readFlags_append isFlags more, ?_⟩
  split_ifs at isStart ⊢ <;> cases isStart <;> rfl

/-- The start of a group is read alike from a longer text, if anything counts behind its bracket. -/
theorem readStart_append {names : List String} {start : GroupStart}
    (isRead : readStart flags names chars = some start) (someLeft : skip flags chars ≠ [])
    (closes : Closes more) : readStart flags names (chars ++ more) = some (start.append more) := by
  unfold readStart at isRead ⊢
  dsimp only at isRead ⊢
  rw [skip_append_of_ne_nil someLeft, looksAround_append closes]
  split at isRead
  · cases isRead
  · rename_i noLook
    rw [if_neg noLook]
    obtain ⟨char, body, isSkipped⟩ := List.exists_cons_of_ne_nil someLeft
    rw [isSkipped] at isRead ⊢
    by_cases isMark : char = '?'
    · subst isMark
      rw [List.cons_append]
      cases body with
      | nil => cases isRead
      | cons first others =>
          by_cases isName : first = '<'
          · subst isName
            exact namedStart_append isRead more
          by_cases isLetter : first = 'P'
          · subst isLetter
            cases others with
            | nil => cases isRead
            | cons second others =>
                by_cases isSign : second = '<'
                · subst isSign
                  exact namedStart_append isRead more
                · simp [isSign, readFlags] at isRead
          · simp only [List.cons_append, List.cons.injEq, isName, isLetter, false_and,
              false_imp_iff, implies_true] at isRead ⊢
            exact flagsStart_append isRead more
    · simp only [List.cons_append, List.cons.injEq, isMark, false_and, false_imp_iff,
        implies_true] at isRead ⊢
      cases isRead
      rfl

/-! ### Counts -/

theorem countDigits_eq_takeKind (flags : Flags) (fuel : Nat) (chars : List Char) :
    countDigits flags fuel chars = takeKind flags Char.isDigit fuel chars := by
  induction fuel generalizing chars with
  | zero => rfl
  | succ fuel ih =>
      cases chars with
      | nil => rfl
      | cons char rest => rw [countDigits, takeKind, ih]

/-- The number that digits are, if it is not too great for a count. -/
def countOf? (digits : List Char) : Option Nat :=
  let count := digits.foldl (fun value digit => 10 * value + (digit.toNat - 48)) 0
  if digits.isEmpty then none else if maxCount < count then none else some count

theorem readCount_eq_some_iff {count : Nat} :
    readCount flags chars = some (count, rest) ↔
      ∃ digits left,
        takeKind flags Char.isDigit ((chars.dropWhile Text.isBlank).length + 1)
            (chars.dropWhile Text.isBlank) = (digits, left) ∧
          countOf? digits = some count ∧ skip flags (left.dropWhile Text.isBlank) = rest := by
  simp only [readCount, countOf?, countDigits_eq_takeKind]
  rcases takeKind flags Char.isDigit _ _ with ⟨digits, left⟩
  simp only [Prod.mk.injEq]
  split_ifs <;> simp_all

/-- No count is read where nothing is left. -/
theorem readCount_nil_eq_none (flags : Flags) : readCount flags [] = none := by
  rfl

theorem dropWhile_append_of_ne_nil {α : Type} {p : α → Bool} {items : List α}
    (nonempty : items.dropWhile p ≠ []) (more : List α) :
    (items ++ more).dropWhile p = items.dropWhile p ++ more := by
  obtain ⟨first, others, isDropped⟩ := List.exists_cons_of_ne_nil nonempty
  simp [List.dropWhile_append, isDropped]

/-- A count is read alike from a longer text, if something is left behind it. -/
theorem readCount_append {count : Nat} (isRead : readCount flags chars = some (count, rest))
    (nonempty : rest ≠ []) (more : List Char) :
    readCount flags (chars ++ more) = some (count, rest ++ more) := by
  rw [readCount_eq_some_iff] at isRead ⊢
  obtain ⟨digits, left, isTaken, isCount, rfl⟩ := isRead
  have someBehind : left.dropWhile Text.isBlank ≠ [] := by
    intro isEmpty
    simp [isEmpty] at nonempty
  have someLeft : left ≠ [] := by
    rintro rfl
    simp at someBehind
  have someDigits : chars.dropWhile Text.isBlank ≠ [] := by
    intro isEmpty
    rw [isEmpty, takeKind_nil] at isTaken
    cases isTaken
    exact someLeft rfl
  refine ⟨digits, left ++ more, ?_, isCount, ?_⟩
  · rw [dropWhile_append_of_ne_nil someDigits]
    exact takeKind_append (Nat.lt_succ_self _) isTaken someLeft (Nat.lt_succ_self _)
  · rw [dropWhile_append_of_ne_nil someBehind, skip_append_of_ne_nil nonempty]

/-- Reads the greatest count of a repetition after its comma, if there is one. -/
def readMost (flags : Flags) (least : Nat) (chars : List Char) :
    Option (Nat × Option Nat × List Char) :=
  match skip flags chars with
  | '\x7d' :: rest => some (least, none, rest)
  | chars =>
      (readCount flags chars).bind fun (most, rest) =>
        match rest with
        | '\x7d' :: rest => if most < least then none else some (least, some most, rest)
        | _ => none

theorem readMost_append {least least' : Nat} {most : Option Nat}
    (isRead : readMost flags least chars = some (least', most, rest)) (more : List Char) :
    readMost flags least (chars ++ more) = some (least', most, rest ++ more) := by
  unfold readMost at isRead ⊢
  cases isSkipped : skip flags chars with
  | nil => simp [isSkipped, readCount_nil_eq_none] at isRead
  | cons char after =>
      rw [isSkipped] at isRead
      rw [skip_append_of_cons isSkipped]
      by_cases isBrace : char = '\x7d'
      · subst isBrace
        cases isRead
        rfl
      · simp only [List.cons.injEq, isBrace, false_and, false_imp_iff, implies_true,
          Option.bind_eq_some_iff, Prod.exists] at isRead ⊢
        obtain ⟨count, left, isCount, isEnd⟩ := isRead
        split at isEnd
        · rename_i behind
          split_ifs at isEnd with tooFew
          cases isEnd
          refine ⟨count, '\x7d' :: rest ++ more, ?_, if_neg tooFew⟩
          exact readCount_append isCount (List.cons_ne_nil _ _) more
        · cases isEnd

/-- The counts of a repetition are read alike from a longer text. -/
theorem readCounts_append {least : Nat} {most : Option Nat}
    (isRead : readCounts flags chars = some (least, most, rest)) (more : List Char) :
    readCounts flags (chars ++ more) = some (least, most, rest ++ more) := by
  unfold readCounts at isRead ⊢
  simp only [Option.bind_eq_bind, Option.bind_eq_some_iff, Option.pure_def, Prod.exists]
    at isRead ⊢
  obtain ⟨count, left, isCount, isRead⟩ := isRead
  have someLeft : left ≠ [] := by
    rintro rfl
    cases isRead
  have counts : skip flags chars ≠ [] := by
    intro isEmpty
    rw [isEmpty, readCount_nil_eq_none] at isCount
    cases isCount
  refine ⟨count, left ++ more, ?_, ?_⟩
  · rw [skip_append_of_ne_nil counts]
    exact readCount_append isCount someLeft more
  · obtain ⟨char, after, rfl⟩ := List.exists_cons_of_ne_nil someLeft
    rw [List.cons_append]
    by_cases isBrace : char = '\x7d'
    · subst isBrace
      cases isRead
      rfl
    by_cases isComma : char = ','
    · subst isComma
      exact readMost_append isRead more
    · simp [isBrace, isComma] at isRead

theorem dropLazy_append (closes : Closes more) (chars : List Char) :
    dropLazy (chars ++ more) = dropLazy chars ++ more := by
  obtain ⟨line, rfl⟩ := closes.exists_cons
  cases chars with
  | nil => rfl
  | cons char after => by_cases isMark : char = '?' <;> simp [dropLazy, isMark]

/-! ### Parts -/

/-- Reads flags that are set, or a group up to its closing bracket, in so many steps. -/
def readGroup (fuel : Nat) (branch : Branch) (chars : List Char) : Option (Branch × List Char) :=
  (readStart branch.flags branch.names chars).bind fun start =>
    match start with
    | .set flags rest => some (branch.setFlags flags, rest)
    | .group flags names rest =>
        (readBranch fuel true { flags, names } rest).map fun (inner, rest) =>
          ({ branch with names := inner.names }.add inner.whole (inner.depth + 1), rest)

/-- Reads a set after its bracket. -/
def readWholeSet (branch : Branch) (chars : List Char) : Option (Branch × List Char) :=
  let (negated, known, rest) := openSet branch.flags chars
  (readSet branch.flags (rest.length + 1) negated known rest).map fun (set, depth, rest) =>
    (branch.add (.set set) depth, rest)

/-- Reads how often the last item is repeated, after the brace. -/
def readRepeat (branch : Branch) (chars : List Char) : Option (Branch × List Char) :=
  (readCounts branch.flags chars).bind fun (least, most, rest) =>
    (branch.repeatLast least most).map (·, dropLazy (skip branch.flags rest))

/-- Reads what is escaped, after the backslash. -/
def readEscaped (branch : Branch) (chars : List Char) : Option (Branch × List Char) :=
  (readEscape branch.flags chars).bind fun (primitive, rest) =>
    (primitiveRegex branch.flags primitive).map fun item => (branch.add item 0, rest)

/-- What has been read with a character more that stands alone. -/
def Branch.addChar (branch : Branch) : Char → Option Branch
  | '|' => some branch.alternate
  | '.' => (dotSet branch.flags).map fun set => branch.add (.set set) 0
  | '^' => some (branch.add (.look (startLook branch.flags)) 0)
  | '$' => some (branch.add (.look (endLook branch.flags)) 0)
  | char => (primitiveRegex branch.flags (.char char false)).map (branch.add · 0)

/-- Reads a part that is no group, after its first character. -/
def readPart (branch : Branch) (char : Char) (chars : List Char) : Option (Branch × List Char) :=
  match char with
  | '[' => readWholeSet branch chars
  | '*' => (branch.repeatLast 0 none).map (·, dropLazy chars)
  | '+' => (branch.repeatLast 1 none).map (·, dropLazy chars)
  | '?' => (branch.repeatLast 0 (some 1)).map (·, dropLazy chars)
  | '\x7b' => readRepeat branch chars
  | '\\' => readEscaped branch chars
  | char => (branch.addChar char).map (·, chars)

/-- Reads a part after its first character. -/
def readNext (fuel : Nat) (branch : Branch) (char : Char) (chars : List Char) :
    Option (Branch × List Char) :=
  if char = '(' then readGroup fuel branch chars else readPart branch char chars

section Branches

variable {fuel : Nat} {inGroup : Bool} {branch : Branch} {char : Char}

theorem readBranch_of_nil (isSkipped : skip branch.flags chars = []) :
    readBranch (fuel + 1) inGroup branch chars = if inGroup then none else some (branch, []) := by
  rw [readBranch, isSkipped]

theorem readBranch_of_bracket (isSkipped : skip branch.flags chars = ')' :: rest) :
    readBranch (fuel + 1) inGroup branch chars =
      if inGroup then some (branch, rest) else none := by
  rw [readBranch, isSkipped]
  rfl

/-- Where no group ends, a part is read, and then what follows it. -/
theorem readBranch_of_cons (isSkipped : skip branch.flags chars = char :: rest)
    (noBracket : char ≠ ')') :
    readBranch (fuel + 1) inGroup branch chars =
      (readNext fuel branch char rest).bind fun next =>
        readBranch fuel inGroup next.1 next.2 := by
  rw [readBranch, isSkipped]
  by_cases isGroup : char = '('
  · subst isGroup
    rw [readNext, if_pos rfl, readGroup, Option.bind_assoc]
    refine congrArg (Option.bind _) (funext fun start => ?_)
    cases start with
    | set flags rest => rfl
    | group flags names rest => simp [Option.bind_map]
  · rw [readNext, if_neg isGroup]
    split
    case h_1 same => cases same
    case h_2 same => exact absurd (List.cons.inj same).1 noBracket
    case h_4 same => exact absurd (List.cons.inj same).1 isGroup
    all_goals
      rename_i same
      cases same
      simp [readPart, readWholeSet, readRepeat, readEscaped, Branch.addChar, Option.bind_map,
        Option.bind_assoc, Function.comp_def, *]

/-- No group is read where nothing is left. -/
theorem readBranch_nil_eq_none (fuel : Nat) (branch : Branch) :
    readBranch fuel true branch [] = none := by
  cases fuel with
  | zero => rfl
  | succ fuel => rw [readBranch_of_nil (skip_nil _), if_pos rfl]

theorem readWholeSet_append {found : Branch}
    (isRead : readWholeSet branch chars = some (found, rest)) (closes : Closes more) :
    readWholeSet branch (chars ++ more) = some (found, rest ++ more) := by
  obtain ⟨negated, known, left, isStart⟩ :
    ∃ negated known left, openSet branch.flags chars = (negated, known, left) := ⟨_, _, _, rfl⟩
  have someLeft : left ≠ [] := by
    rintro rfl
    simp [readWholeSet, isStart, readSet_nil_eq_none] at isRead
  simp only [readWholeSet, isStart, openSet_append isStart someLeft, Option.map_eq_some_iff,
    Prod.exists, Prod.mk.injEq] at isRead ⊢
  obtain ⟨set, depth, behind, isSet, rfl, rfl⟩ := isRead
  exact ⟨set, depth, behind ++ more, readSet_append isSet (by simp) closes, rfl, rfl⟩

theorem readRepeat_readsOn {found : Branch}
    (isRead : readRepeat branch chars = some (found, rest)) :
    ReadsOn (readRepeat branch) chars found rest := by
  simp only [readRepeat, Option.bind_eq_some_iff, Option.map_eq_some_iff, Prod.exists,
    Prod.mk.injEq] at isRead
  obtain ⟨least, most, left, isCounts, repeated, isRepeated, rfl, rfl⟩ := isRead
  have reads : ∀ more, readRepeat branch (chars ++ more) =
      some (repeated, dropLazy (skip branch.flags (left ++ more))) := by
    intro more
    simp [readRepeat, readCounts_append isCounts more, isRepeated]
  rcases skip_append_cases branch.flags left with exact | ⟨isEmpty, isOpen⟩
  · left
    intro more closes
    rw [reads, exact more closes, dropLazy_append closes]
  · refine .inr ⟨by rw [isEmpty]; rfl, fun more closes oneLine => ?_⟩
    rw [reads, isOpen more oneLine]
    rfl

theorem readEscaped_readsOn {found : Branch}
    (isRead : readEscaped branch chars = some (found, rest)) :
    ReadsOn (readEscaped branch) chars found rest := by
  simp only [readEscaped, Option.bind_eq_some_iff, Option.map_eq_some_iff, Prod.exists,
    Prod.mk.injEq] at isRead
  obtain ⟨primitive, left, isEscape, item, isItem, rfl, rfl⟩ := isRead
  apply (readEscape_readsOn isEscape).map []
  intro text left isRead
  simp [readEscaped, isRead, isItem]

/-- The characters that begin a part that is longer than they are, apart from groups. -/
def partStarts : List Char :=
  ['[', '*', '+', '?', '\x7b', '\\']

theorem readPart_of_notMem (isAlone : char ∉ partStarts) (chars : List Char) :
    readPart branch char chars = (branch.addChar char).map (·, chars) := by
  unfold readPart
  split <;> first | rfl | exact absurd (by decide) isAlone

/-- A part that is no group is read alike from a longer text. -/
theorem readPart_readsOn {found : Branch}
    (isRead : readPart branch char chars = some (found, rest)) :
    ReadsOn (readPart branch char) chars found rest := by
  -- a repetition may be lazy
  have repeats : ∀ {repeated? : Option Branch}, repeated?.map (·, dropLazy chars) =
      some (found, rest) → ∀ more, Closes more →
        repeated?.map (·, dropLazy (chars ++ more)) = some (found, rest ++ more) := by
    intro repeated? isRead more closes
    simp only [Option.map_eq_some_iff, Prod.mk.injEq] at isRead ⊢
    obtain ⟨repeated, isRepeated, rfl, rfl⟩ := isRead
    exact ⟨repeated, isRepeated, rfl, dropLazy_append closes chars⟩
  by_cases isLonger : char ∈ partStarts
  · simp only [partStarts, List.mem_cons, List.not_mem_nil, or_false] at isLonger
    rcases isLonger with rfl | rfl | rfl | rfl | rfl | rfl
    · exact .inl fun more closes => readWholeSet_append isRead closes
    · exact .inl (repeats isRead)
    · exact .inl (repeats isRead)
    · exact .inl (repeats isRead)
    · exact readRepeat_readsOn isRead
    · exact readEscaped_readsOn isRead
  · left
    intro more _
    rw [readPart_of_notMem isLonger] at isRead ⊢
    simp only [Option.map_eq_some_iff, Prod.mk.injEq] at isRead ⊢
    obtain ⟨added, isAdded, rfl, rfl⟩ := isRead
    exact ⟨added, isAdded, rfl, rfl⟩

theorem readStart_of_nil (isEmpty : skip flags chars = []) (names : List String) :
    readStart flags names chars = some (.group flags names []) := by
  unfold readStart
  rw [isEmpty]
  rfl

/-- A group is read alike, with more steps, from a longer text, if its inner parts are. -/
theorem readGroup_append {steps : Nat} {found : Branch}
    (inside : ∀ {branch chars found rest}, readBranch fuel true branch chars = some (found, rest) →
      readBranch steps true branch (chars ++ more) = some (found, rest ++ more))
    (isRead : readGroup fuel branch chars = some (found, rest)) (closes : Closes more) :
    readGroup steps branch (chars ++ more) = some (found, rest ++ more) := by
  simp only [readGroup, Option.bind_eq_some_iff] at isRead ⊢
  obtain ⟨start, isStart, isRead⟩ := isRead
  have someLeft : skip branch.flags chars ≠ [] := by
    intro isEmpty
    rw [readStart_of_nil isEmpty] at isStart
    cases isStart
    simp [readBranch_nil_eq_none] at isRead
  refine ⟨start.append more, readStart_append isStart someLeft closes, ?_⟩
  cases start with
  | set flags left =>
      cases isRead
      rfl
  | group flags names left =>
      simp only [GroupStart.append, Option.map_eq_some_iff, Prod.exists, Prod.mk.injEq] at isRead ⊢
      obtain ⟨inner, behind, isInner, rfl, rfl⟩ := isRead
      exact ⟨inner, behind ++ more, inside isInner, rfl, rfl⟩

/-- A part is read alike from a longer text, whatever the number of steps, or a comment is open
behind it. -/
theorem readNext_append {next : Branch}
    (inside : ∀ {branch chars found rest more steps}, fuel ≤ steps → Closes more →
      readBranch fuel true branch chars = some (found, rest) →
        readBranch steps true branch (chars ++ more) = some (found, rest ++ more))
    (isRead : readNext fuel branch char chars = some (next, rest)) :
    (∀ steps more, fuel ≤ steps → Closes more →
      readNext steps branch char (chars ++ more) = some (next, rest ++ more)) ∨
        rest = [] ∧ ∀ steps more, Closes more → '\n' ∉ more →
          readNext steps branch char (chars ++ more) = some (next, []) := by
  unfold readNext at isRead ⊢
  split_ifs at isRead ⊢
  · exact .inl fun steps more enough closes =>
      readGroup_append (inside enough closes) isRead closes
  · rcases readPart_readsOn isRead with exact | ⟨isEmpty, isOpen⟩
    · exact .inl fun _ more _ closes => exact more closes
    · exact .inr ⟨isEmpty, fun _ more closes oneLine => isOpen more closes oneLine⟩

/-- What is read of a group up to its closing bracket is read alike, with more steps, from a longer
text. -/
theorem readBranch_append {steps : Nat} {found : Branch} (enough : fuel ≤ steps)
    (closes : Closes more) (isRead : readBranch fuel true branch chars = some (found, rest)) :
    readBranch steps true branch (chars ++ more) = some (found, rest ++ more) := by
  induction fuel generalizing branch chars found rest steps more with
  | zero => cases isRead
  | succ fuel ih =>
      obtain ⟨steps, rfl⟩ := Nat.exists_eq_add_one.mpr (show 0 < steps by omega)
      cases isSkipped : skip branch.flags chars with
      | nil => simp [readBranch_of_nil isSkipped] at isRead
      | cons char after =>
          have isLonger := skip_append_of_cons isSkipped more
          by_cases isBracket : char = ')'
          · subst isBracket
            rw [readBranch_of_bracket isSkipped, if_pos rfl] at isRead
            cases isRead
            rw [readBranch_of_bracket isLonger, if_pos rfl]
          · rw [readBranch_of_cons isSkipped isBracket, Option.bind_eq_some_iff] at isRead
            obtain ⟨⟨next, left⟩, isNext, isRead⟩ := isRead
            rw [readBranch_of_cons isLonger isBracket, Option.bind_eq_some_iff]
            rcases readNext_append ih isNext with exact | ⟨rfl, _⟩
            · exact ⟨(next, left ++ more), exact steps more (by omega) closes,
                ih (by omega) closes isRead⟩
            · simp [readBranch_nil_eq_none] at isRead

/-! ### Whole patterns -/

/-- Whether a bracket behind a text, with the rest of its line, leads to given answers for a group
and for a pattern, however many steps more there are. -/
def ReadsBehind (fuel : Nat) (branch : Branch) (chars : List Char) (isLine : List Char → Prop)
    (group pattern : List Char → Option (Branch × List Char)) : Prop :=
  ∀ steps line, fuel ≤ steps → isLine line →
    readBranch steps true branch (chars ++ ')' :: line) = group line ∧
      readBranch steps false branch (chars ++ ')' :: line) = pattern line

/-- Whether a bracket behind a text ends a group, of which is read what was read, and no pattern. -/
def ClosesBehind (fuel : Nat) (branch : Branch) (chars : List Char) (found : Branch) : Prop :=
  ReadsBehind fuel branch chars (fun _ => True) (fun line => some (found, line)) fun _ => none

/-- Whether a bracket behind a text and what stands behind it on its line belong to a comment, so
that a pattern is read as before, and no group. -/
def GoesOnBehind (fuel : Nat) (branch : Branch) (chars : List Char) (found : Branch) : Prop :=
  ReadsBehind fuel branch chars ('\n' ∉ ·) (fun _ => none) fun _ => some (found, [])

section Next

variable {next found : Branch} {after left : List Char}
  (isSkipped : skip branch.flags chars = char :: after) (noBracket : char ≠ ')')

include isSkipped noBracket

/-- What is read of a longer text is what is read behind its first part. -/
theorem readBranch_append_of_next
    (isNext : readNext fuel branch char (after ++ more) = some (next, left)) :
    readBranch (fuel + 1) inGroup branch (chars ++ more) = readBranch fuel inGroup next left := by
  rw [readBranch_of_cons (skip_append_of_cons isSkipped _) noBracket, isNext, Option.bind_some]

theorem ReadsBehind.of_next {isLine : List Char → Prop}
    {group pattern : List Char → Option (Branch × List Char)}
    (reads : ReadsBehind fuel next left isLine group pattern)
    (isNext : ∀ steps more, fuel ≤ steps → Closes more →
      readNext steps branch char (after ++ more) = some (next, left ++ more)) :
    ReadsBehind (fuel + 1) branch chars isLine group pattern := by
  intro steps line enough isOneLine
  obtain ⟨steps, rfl⟩ := Nat.exists_eq_add_one.mpr (show 0 < steps by omega)
  have isLonger := isNext steps (')' :: line) (by omega) rfl
  rw [readBranch_append_of_next isSkipped noBracket isLonger,
    readBranch_append_of_next isSkipped noBracket isLonger]
  exact reads steps line (by omega) isOneLine

/-- Where the last part leaves a comment open, the bracket belongs to it. -/
theorem GoesOnBehind.of_last
    (isLast : ∀ steps more, Closes more → '\n' ∉ more →
      readNext steps branch char (after ++ more) = some (next, []))
    (isRead : readBranch fuel false next [] = some (found, rest)) :
    GoesOnBehind (fuel + 1) branch chars found := by
  intro steps line enough oneLine
  obtain ⟨steps, rfl⟩ := Nat.exists_eq_add_one.mpr (show 0 < steps by omega)
  have isLonger := isLast steps (')' :: line) rfl (by simpa using oneLine)
  rw [readBranch_append_of_next isSkipped noBracket isLonger,
    readBranch_append_of_next isSkipped noBracket isLonger]
  cases fuel with
  | zero => cases isRead
  | succ fuel =>
      obtain ⟨steps, rfl⟩ := Nat.exists_eq_add_one.mpr (show 0 < steps by omega)
      rw [readBranch_of_nil (skip_nil _), if_neg Bool.false_ne_true] at isRead
      cases isRead
      simp [readBranch_of_nil (skip_nil _)]

end Next

/-- Where a pattern ends, a bracket behind it is read, or belongs to a comment. -/
theorem closesBehind_or_goesOnBehind_of_nil (isSkipped : skip branch.flags chars = []) :
    ClosesBehind (fuel + 1) branch chars branch ∨ GoesOnBehind (fuel + 1) branch chars branch := by
  rcases skip_append_of_nil isSkipped with exact | isOpen
  · left
    intro steps line enough _
    obtain ⟨steps, rfl⟩ := Nat.exists_eq_add_one.mpr (show 0 < steps by omega)
    have isLonger := exact (')' :: line) rfl
    simp [readBranch_of_bracket isLonger]
  · right
    intro steps line enough oneLine
    obtain ⟨steps, rfl⟩ := Nat.exists_eq_add_one.mpr (show 0 < steps by omega)
    have isLonger := isOpen (')' :: line) (by simpa using oneLine)
    simp [readBranch_of_nil isLonger]

/-- A bracket behind a pattern ends it, or belongs to a comment that is open. -/
theorem closesBehind_or_goesOnBehind {found : Branch}
    (isRead : readBranch fuel false branch chars = some (found, rest)) :
    ClosesBehind fuel branch chars found ∨ GoesOnBehind fuel branch chars found := by
  induction fuel generalizing branch chars with
  | zero => cases isRead
  | succ fuel ih =>
      cases isSkipped : skip branch.flags chars with
      | nil =>
          rw [readBranch_of_nil isSkipped, if_neg Bool.false_ne_true] at isRead
          cases isRead
          exact closesBehind_or_goesOnBehind_of_nil isSkipped
      | cons char after =>
          have noBracket : char ≠ ')' := by
            rintro rfl
            simp [readBranch_of_bracket isSkipped] at isRead
          rw [readBranch_of_cons isSkipped noBracket, Option.bind_eq_some_iff] at isRead
          obtain ⟨⟨next, left⟩, isNext, isRead⟩ := isRead
          rcases readNext_append readBranch_append isNext with exact | ⟨rfl, isLast⟩
          · exact (ih isRead).imp (ReadsBehind.of_next isSkipped noBracket · exact)
              (ReadsBehind.of_next isSkipped noBracket · exact)
          · exact .inr (.of_last isSkipped noBracket isLast isRead)

end Branches

end JsonTables.Pattern
