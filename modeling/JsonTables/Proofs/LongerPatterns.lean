import JsonTables.Pattern.Reader
import Mathlib

/-!
# Reading from a longer pattern

What is read of a pattern is read alike if a closing bracket stands behind the pattern, whatever
follows the bracket.  Only what does not count at the end of the pattern may go on: a comment that
no end of a line has ended takes the bracket, and the rest of its line, for more of itself.  This is
shown here of escapes and sets.
-/

namespace JsonTables.Pattern

/-- Whether a text begins with a closing bracket. -/
def Closes (more : List Char) : Prop :=
  more.head? = some ')'

/-- Whether a reader finds the same in a text with a closing bracket behind it, and leaves as much,
with the bracket; or it has come to an open comment, which leaves nothing of the line. -/
def ReadsOn {α : Type} (read : List Char → Option (α × List Char)) (chars : List Char) (found : α)
    (rest : List Char) : Prop :=
  (∀ more, Closes more → read (chars ++ more) = some (found, rest ++ more)) ∨
    rest = [] ∧ ∀ more, Closes more → '\n' ∉ more → read (chars ++ more) = some (found, [])

theorem ReadsOn.of_ne_nil {α : Type} {read : List Char → Option (α × List Char)}
    {chars rest : List Char} {found : α} (readsOn : ReadsOn read chars found rest)
    (nonempty : rest ≠ []) {more : List Char} (closes : Closes more) :
    read (chars ++ more) = some (found, rest ++ more) := by
  rcases readsOn with exact | ⟨isEmpty, _⟩
  · exact exact more closes
  · exact absurd isEmpty nonempty

theorem Closes.exists_cons {more : List Char} (closes : Closes more) :
    ∃ line, more = ')' :: line := by
  cases more with
  | nil => cases closes
  | cons char line =>
      obtain rfl : char = ')' := Option.some.inj closes
      exact ⟨line, rfl⟩

/-! ### Up to a mark -/

section Mark

variable {mark : Char} {chars : List Char}

theorem bne_of_notMem (absent : mark ∉ chars) : ∀ char ∈ chars, (char != mark) = true := by
  intro char charMem
  rw [bne_iff_ne]
  rintro rfl
  exact absent charMem

theorem takeWhile_mark (absent : mark ∉ chars) (rest : List Char) :
    (chars ++ mark :: rest).takeWhile (· != mark) = chars := by
  rw [List.takeWhile_append_of_pos (bne_of_notMem absent), List.takeWhile_cons_of_neg (by simp),
    List.append_nil]

theorem dropWhile_mark (absent : mark ∉ chars) (rest : List Char) :
    (chars ++ mark :: rest).dropWhile (· != mark) = mark :: rest := by
  rw [List.dropWhile_append_of_pos (bne_of_notMem absent), List.dropWhile_cons_of_neg (by simp)]

theorem dropWhile_of_notMem (absent : mark ∉ chars) : chars.dropWhile (· != mark) = [] :=
  List.dropWhile_eq_nil_iff.mpr (bne_of_notMem absent)

end Mark

theorem drop_length_takeWhile {α : Type} (p : α → Bool) (items : List α) :
    items.drop (items.takeWhile p).length = items.dropWhile p := by
  induction items with
  | nil => rfl
  | cons item rest ih => cases passes : p item <;> simp [passes, ih]

/-! ### What does not count -/

section Skip

variable {flags : Flags} {chars rest more : List Char} {char : Char}

theorem length_skipComment_le (chars : List Char) : (skipComment chars).length ≤ chars.length := by
  rw [skipComment, List.length_drop]
  have shorter := (List.dropWhile_suffix (· != '\n') (l := chars)).length_le
  omega

/-- A comment that ends within a text ends there in a longer text. -/
theorem skipComment_append (ends : '\n' ∈ chars) (more : List Char) :
    skipComment (chars ++ more) = skipComment chars ++ more := by
  obtain ⟨comment, rest, rfl, absent⟩ := List.eq_append_cons_of_mem ends
  rw [List.append_assoc, List.cons_append, skipComment, skipComment, dropWhile_mark absent,
    dropWhile_mark absent]
  rfl

theorem skipComment_of_open (isOpen : '\n' ∉ chars) : skipComment chars = [] := by
  rw [skipComment, dropWhile_of_notMem isOpen, List.drop_nil]

/-- With enough steps, it does not matter how many there are. -/
theorem skipVerboseFrom_eq {fuel : Nat} (enough : chars.length < fuel) (other : Nat)
    (otherEnough : chars.length < other) :
    skipVerboseFrom fuel chars = skipVerboseFrom other chars := by
  induction fuel generalizing chars other with
  | zero => omega
  | succ fuel ih =>
      cases other with
      | zero => omega
      | succ other =>
          cases chars with
          | nil => rfl
          | cons char rest =>
              rw [List.length_cons] at enough otherEnough
              have shorter := length_skipComment_le rest
              simp only [skipVerboseFrom]
              rw [ih (by omega) other (by omega), ih (by omega) other (by omega)]

@[simp]
theorem skip_nil (flags : Flags) : skip flags [] = [] := by
  cases isVerbose : flags.verbose <;> simp [skip, isVerbose, skipVerboseFrom]

theorem skip_of_not_verbose (notVerbose : flags.verbose = false) (chars : List Char) :
    skip flags chars = chars := by
  simp [skip, notVerbose]

/-- In a verbose pattern, blanks and comments are dropped one after another. -/
theorem skip_cons (isVerbose : flags.verbose = true) (char : Char) (rest : List Char) :
    skip flags (char :: rest) =
      if Text.isBlank char then skip flags rest
      else if char = '#' then skip flags (skipComment rest)
      else char :: rest := by
  have shorter := length_skipComment_le rest
  have enough : (skipComment rest).length < rest.length + 1 := by omega
  simp only [skip, isVerbose, if_true, List.length_cons, skipVerboseFrom]
  rw [skipVerboseFrom_eq enough ((skipComment rest).length + 1) (Nat.lt_succ_self _)]

/-- Induction that goes past blanks and comments, up to what counts. -/
@[elab_as_elim]
theorem skipped_induction {motive : List Char → Prop} (nil : motive [])
    (blank : ∀ char rest, Text.isBlank char = true → motive rest → motive (char :: rest))
    (comment : ∀ rest, motive (skipComment rest) → motive ('#' :: rest))
    (other : ∀ char rest, Text.isBlank char = false → char ≠ '#' → motive (char :: rest))
    (chars : List Char) : motive chars := by
  induction len : chars.length using Nat.strongRecOn generalizing chars with
  | _ size ih =>
      cases chars with
      | nil => exact nil
      | cons char rest =>
          rw [List.length_cons] at len
          have shorter := length_skipComment_le rest
          cases isBlank : Text.isBlank char with
          | true => exact blank char rest isBlank (ih _ (by omega) rest rfl)
          | false =>
              by_cases isMark : char = '#'
              · subst isMark
                exact comment rest (ih _ (by omega) _ rfl)
              · exact other char rest isBlank isMark

section Verbose

variable (isVerbose : flags.verbose = true)

include isVerbose

theorem skip_blank (isBlank : Text.isBlank char = true) (rest : List Char) :
    skip flags (char :: rest) = skip flags rest := by
  rw [skip_cons isVerbose, if_pos isBlank]

theorem skip_comment (rest : List Char) :
    skip flags ('#' :: rest) = skip flags (skipComment rest) := by
  have notBlank : Text.isBlank '#' = false := by decide
  rw [skip_cons isVerbose, notBlank]
  simp

end Verbose

theorem skip_other (notBlank : Text.isBlank char = false) (noMark : char ≠ '#')
    (rest : List Char) : skip flags (char :: rest) = char :: rest := by
  cases isVerbose : flags.verbose with
  | false => exact skip_of_not_verbose isVerbose _
  | true => simp [skip_cons isVerbose, notBlank, noMark]

theorem skip_of_closes (closes : Closes more) : skip flags more = more := by
  obtain ⟨line, rfl⟩ := closes.exists_cons
  exact skip_other (by decide) (by decide) line

theorem length_skip_le (flags : Flags) (chars : List Char) :
    (skip flags chars).length ≤ chars.length := by
  cases isVerbose : flags.verbose with
  | false => rw [skip_of_not_verbose isVerbose]
  | true =>
      induction chars using skipped_induction with
      | nil => simp
      | blank char rest isBlank ih =>
          rw [skip_blank isVerbose isBlank, List.length_cons]
          omega
      | comment rest ih =>
          have shorter := length_skipComment_le rest
          rw [skip_comment isVerbose, List.length_cons]
          omega
      | other char rest notBlank noMark => rw [skip_other notBlank noMark]

/-- What is left of a text, where something is, is left of a longer one with more behind it. -/
theorem skip_append_of_cons (isSkipped : skip flags chars = char :: rest) (more : List Char) :
    skip flags (chars ++ more) = char :: (rest ++ more) := by
  cases isVerbose : flags.verbose with
  | false =>
      rw [skip_of_not_verbose isVerbose] at isSkipped ⊢
      rw [isSkipped, List.cons_append]
  | true =>
      induction chars using skipped_induction with
      | nil => simp at isSkipped
      | blank first others isBlank ih =>
          rw [skip_blank isVerbose isBlank] at isSkipped
          rw [List.cons_append, skip_blank isVerbose isBlank, ih isSkipped]
      | comment others ih =>
          rw [skip_comment isVerbose] at isSkipped
          have ends : '\n' ∈ others := by
            by_contra isOpen
            simp [skipComment_of_open isOpen] at isSkipped
          rw [List.cons_append, skip_comment isVerbose, skipComment_append ends, ih isSkipped]
      | other first others notBlank noMark =>
          rw [skip_other notBlank noMark] at isSkipped
          cases isSkipped
          rw [List.cons_append, skip_other notBlank noMark]

theorem skip_append_of_ne_nil (nonempty : skip flags chars ≠ []) (more : List Char) :
    skip flags (chars ++ more) = skip flags chars ++ more := by
  obtain ⟨char, rest, isSkipped⟩ := List.exists_cons_of_ne_nil nonempty
  rw [skip_append_of_cons isSkipped, isSkipped, List.cons_append]

/-- Where nothing is left of a text, what stands behind it is, unless a comment is open. -/
theorem skip_append_of_nil (isSkipped : skip flags chars = []) :
    (∀ more, Closes more → skip flags (chars ++ more) = more) ∨
      ∀ more, '\n' ∉ more → skip flags (chars ++ more) = [] := by
  cases isVerbose : flags.verbose with
  | false =>
      rw [skip_of_not_verbose isVerbose] at isSkipped
      subst isSkipped
      exact .inl fun more closes => skip_of_closes closes
  | true =>
      induction chars using skipped_induction with
      | nil => exact .inl fun more closes => skip_of_closes closes
      | blank char rest isBlank ih =>
          rw [skip_blank isVerbose isBlank] at isSkipped
          simpa only [List.cons_append, skip_blank isVerbose isBlank] using ih isSkipped
      | comment rest ih =>
          rw [skip_comment isVerbose] at isSkipped
          by_cases ends : '\n' ∈ rest
          · simpa only [List.cons_append, skip_comment isVerbose, skipComment_append ends] using
              ih isSkipped
          · refine .inr fun more oneLine => ?_
            rw [List.cons_append, skip_comment isVerbose, skipComment_of_open (by simp_all),
              skip_nil]
      | other char rest notBlank noMark =>
          rw [skip_other notBlank noMark] at isSkipped
          cases isSkipped

/-- What is left of a text is left of it with a closing bracket behind it, or a comment is open. -/
theorem skip_append_cases (flags : Flags) (chars : List Char) :
    (∀ more, Closes more → skip flags (chars ++ more) = skip flags chars ++ more) ∨
      skip flags chars = [] ∧ ∀ more, '\n' ∉ more → skip flags (chars ++ more) = [] := by
  cases isSkipped : skip flags chars with
  | cons char rest => exact .inl fun more _ => skip_append_of_cons isSkipped more
  | nil =>
      rcases skip_append_of_nil isSkipped with exact | isOpen
      · exact .inl exact
      · exact .inr ⟨rfl, isOpen⟩

/-- A reader that drops what does not count at its end reads on. -/
theorem readsOn_of_skip {α : Type} {read : List Char → Option (α × List Char)} {found : α}
    {after : List Char}
    (reads : ∀ more, Closes more →
      read (chars ++ more) = some (found, skip flags (after ++ more))) :
    ReadsOn read chars found (skip flags after) := by
  rcases skip_append_cases flags after with exact | ⟨isEmpty, isOpen⟩
  · exact .inl fun more closes => by rw [reads more closes, exact more closes]
  · exact .inr ⟨isEmpty, fun more closes oneLine => by rw [reads more closes, isOpen more oneLine]⟩

end Skip

/-! ### Escapes -/

section Escapes

variable {flags : Flags} {chars rest more : List Char}

/-- Characters between braces are read alike with more steps, and from a longer text. -/
theorem braced_append {fuel : Nat} {inner : List Char}
    (isRead : braced flags fuel chars = some (inner, rest)) {steps : Nat} (enough : fuel ≤ steps)
    (more : List Char) : braced flags steps (chars ++ more) = some (inner, rest ++ more) := by
  induction fuel generalizing chars inner steps with
  | zero => cases isRead
  | succ fuel ih =>
      cases steps with
      | zero => omega
      | succ steps =>
          rw [braced] at isRead ⊢
          cases isSkipped : skip flags chars with
          | nil => simp [isSkipped] at isRead
          | cons char after =>
              rw [isSkipped] at isRead
              rw [skip_append_of_cons isSkipped]
              by_cases isBrace : char = '\x7d'
              · subst isBrace
                cases isRead
                rfl
              · simp only [Option.bind_eq_bind, Option.bind_eq_some_iff, Option.pure_def,
                  Option.some.injEq, Prod.mk.injEq, Prod.exists] at isRead ⊢
                obtain ⟨others, left, isInner, rfl, rfl⟩ := isRead
                exact ⟨others, left ++ more, ih isInner (by omega), rfl, rfl⟩

theorem takeChars_append {count : Nat} {taken : List Char}
    (isRead : takeChars flags count chars = some (taken, rest)) (more : List Char) :
    takeChars flags count (chars ++ more) = some (taken, rest ++ more) := by
  induction count generalizing chars taken with
  | zero =>
      cases isRead
      rfl
  | succ count ih =>
      rw [takeChars] at isRead ⊢
      cases isSkipped : skip flags chars with
      | nil => simp [isSkipped] at isRead
      | cons char after =>
          rw [isSkipped] at isRead
          rw [skip_append_of_cons isSkipped]
          simp only [Option.bind_eq_bind, Option.bind_eq_some_iff, Option.pure_def,
            Option.some.injEq, Prod.mk.injEq, Prod.exists] at isRead ⊢
          obtain ⟨others, left, isTaken, rfl, rfl⟩ := isRead
          exact ⟨others, left ++ more, ih isTaken, rfl, rfl⟩

theorem readHex_append {letter : Char} {found : Primitive}
    (isRead : readHex flags letter chars = some (found, rest)) (more : List Char) :
    readHex flags letter (chars ++ more) = some (found, rest ++ more) := by
  rw [readHex] at isRead ⊢
  cases isSkipped : skip flags chars with
  | nil =>
      have noChars : ∀ count, takeChars flags (count + 1) [] = none := by
        intro count
        rw [takeChars, skip_nil]
      simp only [isSkipped] at isRead
      split at isRead
      · simp [noChars] at isRead
      · split at isRead <;> simp [noChars] at isRead
  | cons char after =>
      rw [isSkipped] at isRead
      rw [skip_append_of_cons isSkipped]
      by_cases isBrace : char = '\x7b'
      · subst isBrace
        simp only [Option.bind_eq_bind, Option.bind_eq_some_iff, Option.pure_def,
          Option.some.injEq, Prod.mk.injEq, Prod.exists] at isRead ⊢
        obtain ⟨digits, left, isBraced, value, isValue, rfl, rfl⟩ := isRead
        have enough : after.length + 1 ≤ (after ++ more).length + 1 := by simp
        exact ⟨digits, left ++ more, braced_append isBraced enough more, value, isValue, rfl, rfl⟩
      · simp only [List.cons.injEq, isBrace, false_and, false_imp_iff, implies_true,
          Option.bind_eq_bind, Option.bind_eq_some_iff, Option.pure_def, Option.some.injEq,
          Prod.mk.injEq, Prod.exists] at isRead ⊢
        obtain ⟨digits, left, isTaken, value, isValue, rfl, rfl⟩ := isRead
        exact ⟨digits, left ++ more, takeChars_append isTaken more, value, isValue, rfl, rfl⟩

/-- Reads the name of a property, between braces or as a letter. -/
def readPropertyName (flags : Flags) (chars : List Char) : Option (List Char × List Char) :=
  match skip flags chars with
  | [] => none
  | '\x7b' :: rest => braced flags (rest.length + 1) rest
  | '\\' :: _ => none
  | letter :: rest => some ([letter], skip flags rest)

/-- The set of a property with a name. -/
def propertyOf? (flags : Flags) (negated : Bool) (name : List Char) : Option CharSet :=
  if !flags.unicode then none
  else do
    let (set, excluded) ← propertySet name
    negateIf flags (negated != excluded) (.named set)

theorem readProperty_eq (flags : Flags) (negated : Bool) (chars : List Char) :
    readProperty flags negated chars =
      (readPropertyName flags chars).bind fun read =>
        (propertyOf? flags negated read.1).map (·, read.2) := by
  unfold readProperty readPropertyName propertyOf?
  generalize skip flags chars = left
  cases flags.unicode with
  | true =>
      have mapped : ∀ (set? : Option CharSet) (rest : List Char),
          (set?.bind fun set => some (set, rest)) = set?.map (·, rest) := by
        intro set? rest
        cases set? <;> rfl
      simp only [Bool.not_true, Bool.false_eq_true, if_false]
      split <;> simp [Option.map_bind, mapped]
  | false =>
      simp only [Bool.not_false, if_true]
      split <;> simp

/-- The name of a property is read alike from a longer text.  Behind a letter may stand what does
not count. -/
theorem readPropertyName_readsOn {name : List Char}
    (isRead : readPropertyName flags chars = some (name, rest)) :
    ReadsOn (readPropertyName flags) chars name rest := by
  unfold readPropertyName at isRead
  cases isSkipped : skip flags chars with
  | nil => simp [isSkipped] at isRead
  | cons char after =>
      rw [isSkipped] at isRead
      by_cases isBrace : char = '\x7b'
      · subst isBrace
        left
        intro more _
        unfold readPropertyName
        rw [skip_append_of_cons isSkipped]
        exact braced_append isRead (by simp) more
      · by_cases isEscape : char = '\\'
        · subst isEscape
          cases isRead
        · simp only [Option.some.injEq, Prod.mk.injEq] at isRead
          obtain ⟨rfl, rfl⟩ := isRead
          apply readsOn_of_skip
          intro more _
          unfold readPropertyName
          simp only [skip_append_of_cons isSkipped]

/-- What is made of what a reader finds is read alike where that is. -/
theorem ReadsOn.map {α β : Type} {read : List Char → Option (α × List Char)}
    {other : List Char → Option (β × List Char)} {found : α} {made : β}
    (before : List Char) (readsOn : ReadsOn read chars found rest)
    (maps : ∀ text left, read text = some (found, left) →
      other (before ++ text) = some (made, left)) :
    ReadsOn other (before ++ chars) made rest := by
  rcases readsOn with exact | ⟨isEmpty, isOpen⟩
  · left
    intro more closes
    rw [List.append_assoc]
    exact maps _ _ (exact more closes)
  · refine .inr ⟨isEmpty, fun more closes oneLine => ?_⟩
    rw [List.append_assoc]
    exact maps _ _ (isOpen more closes oneLine)

theorem readProperty_readsOn {negated : Bool} {found : CharSet}
    (isRead : readProperty flags negated chars = some (found, rest)) :
    ReadsOn (readProperty flags negated) chars found rest := by
  have reads_iff : ∀ text left, readProperty flags negated text = some (found, left) ↔
      ∃ name, readPropertyName flags text = some (name, left) ∧
        propertyOf? flags negated name = some found := by
    intro text left
    simp [readProperty_eq, Option.bind_eq_some_iff]
  obtain ⟨name, isName, isSet⟩ := (reads_iff _ _).mp isRead
  exact (readPropertyName_readsOn isName).map []
    fun text left isRead => (reads_iff text left).mpr ⟨name, isRead, isSet⟩

/-- Takes characters of a kind, between which nothing counts that does not count. -/
def takeKind (flags : Flags) (isKind : Char → Bool) : Nat → List Char → List Char × List Char
  | 0, chars => ([], chars)
  | _ + 1, [] => ([], [])
  | fuel + 1, char :: rest =>
      if isKind char then
        let (others, rest) := takeKind flags isKind fuel (skip flags rest)
        (char :: others, rest)
      else ([], char :: rest)

theorem edgeName_eq_takeKind (flags : Flags) (fuel : Nat) (chars : List Char) :
    edgeName flags fuel chars = takeKind flags isEdgeChar fuel chars := by
  induction fuel generalizing chars with
  | zero => rfl
  | succ fuel ih =>
      cases chars with
      | nil => rfl
      | cons char rest => rw [edgeName, takeKind, ih]

@[simp]
theorem takeKind_nil (flags : Flags) (isKind : Char → Bool) (fuel : Nat) :
    takeKind flags isKind fuel [] = ([], []) := by
  cases fuel <;> rfl

/-- Characters of a kind are taken alike from a longer text, if something is left behind them. -/
theorem takeKind_append {isKind : Char → Bool} {fuel steps : Nat} {taken : List Char}
    (enough : chars.length < fuel) (isRead : takeKind flags isKind fuel chars = (taken, rest))
    (nonempty : rest ≠ []) (enoughMore : (chars ++ more).length < steps) :
    takeKind flags isKind steps (chars ++ more) = (taken, rest ++ more) := by
  induction fuel generalizing chars taken steps with
  | zero => omega
  | succ fuel ih =>
      cases chars with
      | nil =>
          cases isRead
          exact absurd rfl nonempty
      | cons char after =>
          simp only [List.cons_append, List.length_cons] at enough enoughMore
          obtain ⟨steps, rfl⟩ := Nat.exists_eq_add_one.mpr (show 0 < steps by omega)
          rw [List.cons_append, takeKind]
          rw [takeKind] at isRead
          by_cases ofKind : isKind char = true
          · rw [if_pos ofKind] at isRead ⊢
            obtain ⟨rfl, rfl⟩ := Prod.mk.inj isRead
            have someLeft : skip flags after ≠ [] := by
              intro isEmpty
              rw [isEmpty, takeKind_nil] at nonempty
              exact nonempty rfl
            have shorter := length_skip_le flags after
            rw [List.length_append] at enoughMore
            rw [skip_append_of_ne_nil someLeft, ih (by omega) rfl
              (by rw [List.length_append]; omega)]
          · rw [if_neg ofKind] at isRead ⊢
            cases isRead
            rfl

/-- The edge of words that has a name. -/
def edgeOf? (flags : Flags) (name : List Char) : Option Look :=
  if String.ofList name = "start" then some (.wordStart flags.unicode)
  else if String.ofList name = "end" then some (.wordEnd flags.unicode)
  else if String.ofList name = "start-half" then some (.wordStartHalf flags.unicode)
  else if String.ofList name = "end-half" then some (.wordEndHalf flags.unicode)
  else none

theorem readEdge_name_eq_some_iff {after others : List Char} {first : Char} {found : Look}
    (isSkipped : skip flags after = first :: others) (isEdge : isEdgeChar first = true) :
    readEdge flags ('\x7b' :: after) = some (found, rest) ↔
      ∃ name, edgeName flags ((first :: others).length + 1) (first :: others) =
        (name, '\x7d' :: rest) ∧ edgeOf? flags name = some found := by
  rw [readEdge, isSkipped]
  simp only [isEdge, Bool.not_true, Bool.false_eq_true, if_false]
  generalize edgeName flags ((first :: others).length + 1) (first :: others) = read
  split
  · rename_i name left
    unfold edgeOf?
    split_ifs <;> simp_all [and_comm]
  · rename_i noEnd
    simp only [reduceCtorEq, false_iff, not_exists, not_and]
    exact fun name isRead => absurd isRead (noEnd name rest)

theorem readEdge_append {found : Look} (isRead : readEdge flags chars = some (found, rest))
    (closes : Closes more) : readEdge flags (chars ++ more) = some (found, rest ++ more) := by
  cases chars with
  | nil =>
      cases isRead
      obtain ⟨line, rfl⟩ := closes.exists_cons
      rfl
  | cons char after =>
      by_cases isBrace : char = '\x7b'
      · subst isBrace
        rw [List.cons_append]
        cases isSkipped : skip flags after with
        | nil => simp [readEdge, isSkipped] at isRead
        | cons first others =>
            have isLonger := skip_append_of_cons isSkipped more
            cases isEdge : isEdgeChar first with
            | false =>
                simp only [readEdge, isSkipped, isLonger, isEdge, Bool.not_false, if_true,
                  Option.some.injEq, Prod.mk.injEq] at isRead ⊢
                exact ⟨isRead.1, by rw [← isRead.2, List.cons_append]⟩
            | true =>
                rw [readEdge_name_eq_some_iff isSkipped isEdge] at isRead
                rw [readEdge_name_eq_some_iff isLonger isEdge]
                obtain ⟨name, isName, isLook⟩ := isRead
                rw [edgeName_eq_takeKind] at isName
                refine ⟨name, ?_, isLook⟩
                rw [edgeName_eq_takeKind]
                exact takeKind_append (Nat.lt_succ_self _) isName (List.cons_ne_nil _ _)
                  (Nat.lt_succ_self _)
      · simp only [readEdge, List.cons_append, List.cons.injEq, isBrace, false_and,
          false_imp_iff, implies_true, Option.some.injEq, Prod.mk.injEq] at isRead ⊢
        exact ⟨isRead.1, by rw [← isRead.2, List.cons_append]⟩

/-- Reads an escaped letter that is a control character or a condition. -/
def readLetter (flags : Flags) (letter : Char) (rest : List Char) :
    Option (Primitive × List Char) :=
  match controlOf? letter with
  | some control => some (.char control false, rest)
  | none =>
      match letter with
      | 'A' => some (.look .textStart, rest)
      | 'z' => some (.look .textEnd, rest)
      | 'b' => (readEdge flags rest).map fun edge => (.look edge.1, edge.2)
      | 'B' => some (.look (.notWordEdge flags.unicode), rest)
      | '<' => some (.look (.wordStart flags.unicode), rest)
      | '>' => some (.look (.wordEnd flags.unicode), rest)
      | _ => none

theorem readLetter_append {letter : Char} {found : Primitive}
    (isRead : readLetter flags letter chars = some (found, rest)) (closes : Closes more) :
    readLetter flags letter (chars ++ more) = some (found, rest ++ more) := by
  unfold readLetter at isRead ⊢
  split at isRead
  · cases isRead
    rfl
  · split at isRead
    case h_3 =>
      simp only [Option.map_eq_some_iff, Prod.mk.injEq, Prod.exists] at isRead ⊢
      obtain ⟨look, left, isEdge, rfl, rfl⟩ := isRead
      exact ⟨look, left ++ more, readEdge_append isEdge closes, rfl, rfl⟩
    all_goals cases isRead <;> rfl

theorem readEscape_cons (flags : Flags) (letter : Char) (rest : List Char) :
    readEscape flags (letter :: rest) =
      if ['x', 'u', 'U'].contains letter then readHex flags letter rest
      else if ['p', 'P'].contains letter then
        (readProperty flags (letter == 'P') rest).map fun read => (.set read.1, read.2)
      else if ['d', 's', 'w', 'D', 'S', 'W'].contains letter then
        (escapedSet flags letter).map (.set ·, rest)
      else if mayBeEscaped letter then some (.char letter false, rest)
      else readLetter flags letter rest := by
  unfold readEscape
  dsimp only
  split_ifs
  · rfl
  · rw [Option.map_eq_bind]
    rfl
  · rw [Option.map_eq_bind]
    rfl
  · rfl
  · rfl

/-- An escape is read alike from a longer text. -/
theorem readEscape_readsOn {found : Primitive}
    (isRead : readEscape flags chars = some (found, rest)) :
    ReadsOn (readEscape flags) chars found rest := by
  cases chars with
  | nil => cases isRead
  | cons letter after =>
      rw [readEscape_cons] at isRead
      split_ifs at isRead with isHex isProperty isSet isSelf
      · left
        intro more _
        rw [List.cons_append, readEscape_cons, if_pos isHex]
        exact readHex_append isRead more
      · simp only [Option.map_eq_some_iff, Prod.mk.injEq, Prod.exists] at isRead
        obtain ⟨set, left, isRead, rfl, rfl⟩ := isRead
        apply (readProperty_readsOn isRead).map [letter]
        intro text left isRead
        rw [List.singleton_append, readEscape_cons, if_neg isHex, if_pos isProperty, isRead]
        rfl
      · left
        intro more _
        simp only [Option.map_eq_some_iff, Prod.mk.injEq] at isRead
        obtain ⟨set, isEscaped, rfl, rfl⟩ := isRead
        rw [List.cons_append, readEscape_cons, if_neg isHex, if_neg isProperty, if_pos isSet,
          isEscaped]
        rfl
      · left
        intro more _
        cases isRead
        rw [List.cons_append, readEscape_cons, if_neg isHex, if_neg isProperty, if_neg isSet,
          if_pos isSelf]
      · left
        intro more closes
        rw [List.cons_append, readEscape_cons, if_neg isHex, if_neg isProperty, if_neg isSet,
          if_neg isSelf]
        exact readLetter_append isRead closes

end Escapes

/-! ### Sets -/

section Sets

variable {flags : Flags} {chars rest more : List Char}

theorem readSet_of_nil {fuel : Nat} {negated : Bool} {known : PartialSet}
    (isSkipped : skip flags chars = []) :
    readSet flags (fuel + 1) negated known chars = none := by
  rw [readSet, isSkipped]

/-- No set is read where nothing is left. -/
theorem readSet_nil_eq_none (flags : Flags) (fuel : Nat) (negated : Bool) (known : PartialSet) :
    readSet flags fuel negated known [] = none := by
  cases fuel with
  | zero => rfl
  | succ fuel => exact readSet_of_nil (skip_nil flags)

theorem readItem_readsOn {found : Primitive} (isRead : readItem flags chars = some (found, rest)) :
    ReadsOn (readItem flags) chars found rest := by
  cases chars with
  | nil => cases isRead
  | cons char after =>
      by_cases isEscape : char = '\\'
      · subst isEscape
        exact (readEscape_readsOn isRead).map ['\\'] fun text left isRead => isRead
      · left
        intro more _
        simp only [readItem, List.cons_append, Option.some.injEq, Prod.mk.injEq] at isRead ⊢
        exact ⟨isRead.1, by rw [isRead.2]⟩

/-- The set of an item that stands alone, before what is left. -/
def aloneIn (flags : Flags) (item : Primitive) (rest : List Char) : Option (CharSet × List Char) :=
  (itemSet? flags item).bind fun set => some (set, rest)

theorem aloneIn_append {item : Primitive} {found : CharSet}
    (isAlone : aloneIn flags item chars = some (found, rest)) (more : List Char) :
    aloneIn flags item (chars ++ more) = some (found, rest ++ more) := by
  simp only [aloneIn, Option.bind_eq_some_iff] at isAlone ⊢
  obtain ⟨set, isSet, same⟩ := isAlone
  cases same
  exact ⟨_, isSet, rfl⟩

/-- Reads the last character of a range after the dash. -/
def readLast (flags : Flags) (first : Primitive) (chars : List Char) :
    Option (CharSet × List Char) := do
  let (last, rest) ← readItem flags chars
  let low ← setChar? flags first
  let high ← setChar? flags last
  if high < low then none else return (.between low high, rest)

theorem readLast_append {first : Primitive} {found : CharSet}
    (isRead : readLast flags first chars = some (found, rest)) (nonempty : rest ≠ [])
    (closes : Closes more) : readLast flags first (chars ++ more) = some (found, rest ++ more) := by
  simp only [readLast, Option.bind_eq_bind, Option.bind_eq_some_iff, Prod.exists] at isRead ⊢
  obtain ⟨last, left, isLast, low, isLow, high, isHigh, isRange⟩ := isRead
  split_ifs at isRange with ordered
  cases isRange
  refine ⟨last, rest ++ more, (readItem_readsOn isLast).of_ne_nil nonempty closes, low, isLow, high,
    isHigh, ?_⟩
  rw [if_neg ordered]
  rfl

/-- An item or a range is read alike from a longer text, if something is left behind it. -/
theorem readRange_append {found : CharSet} (isRead : readRange flags chars = some (found, rest))
    (nonempty : rest ≠ []) (closes : Closes more) :
    readRange flags (chars ++ more) = some (found, rest ++ more) := by
  rw [readRange, Option.bind_eq_bind, Option.bind_eq_some_iff] at isRead ⊢
  obtain ⟨⟨first, left⟩, isFirst, isRead⟩ := isRead
  dsimp only at isRead
  cases isSkipped : skip flags left with
  | nil => simp [isSkipped] at isRead
  | cons char after =>
      have someLeft : left ≠ [] := by
        rintro rfl
        simp at isSkipped
      refine ⟨(first, left ++ more), (readItem_readsOn isFirst).of_ne_nil someLeft closes, ?_⟩
      dsimp only
      rw [skip_append_of_cons isSkipped]
      rw [isSkipped] at isRead
      by_cases isDash : char = '-'
      · subst isDash
        cases isSecond : skip flags after with
        | nil => simp [isSecond] at isRead
        | cons next others =>
            simp only [isSecond] at isRead
            simp only [skip_append_of_cons isSecond]
            by_cases isEnd : next = ']' ∨ next = '-'
            · rcases isEnd with rfl | rfl
              · exact aloneIn_append isRead more
              · exact aloneIn_append isRead more
            · rw [not_or] at isEnd
              simp only [List.cons.injEq, isEnd.1, isEnd.2, false_and, false_imp_iff,
                implies_true] at isRead ⊢
              exact readLast_append isRead nonempty closes
      · simp only [List.cons.injEq, isDash, false_and, false_imp_iff, implies_true] at isRead ⊢
        exact aloneIn_append isRead more

/-- Reads the name of a set up to a colon and a bracket, after the sign that negates it. -/
def namedBody (flags : Flags) (negated : Bool) (body : List Char) :
    Option (Option CharSet × List Char) :=
  let name := body.takeWhile (· != ':')
  match body.drop name.length with
  | ':' :: ']' :: rest => do
      let ranges ← CharSet.asciiNamed.lookup (String.ofList name)
      return (negateIf flags negated (.ranges ranges), rest)
  | _ => none

theorem readNamed_negated (flags : Flags) (body : List Char) :
    readNamed flags (':' :: '^' :: body) = namedBody flags true body := by
  rfl

theorem readNamed_plain (flags : Flags) {body : List Char} (notNegated : body.head? ≠ some '^') :
    readNamed flags (':' :: body) = namedBody flags false body := by
  cases body with
  | nil => rfl
  | cons char after =>
      have noSign : char ≠ '^' := fun same => notNegated (congrArg some same)
      simp only [readNamed, List.cons.injEq, noSign, false_and, false_imp_iff, implies_true]
      rfl

/-- No set has a name with a closing bracket. -/
theorem lookup_eq_none {name : List Char} (hasBracket : ')' ∈ name) :
    CharSet.asciiNamed.lookup (String.ofList name) = none := by
  have noBracket : ∀ entry ∈ CharSet.asciiNamed, ')' ∉ entry.1.toList := by decide
  rw [List.lookup_eq_none_iff]
  intro entry entryMem
  rw [bne_iff_ne]
  intro same
  apply noBracket entry entryMem
  rwa [← same, String.toList_ofList]

theorem namedBody_of_colon (negated : Bool) {name : List Char} (noColon : ':' ∉ name)
    (after : List Char) :
    namedBody flags negated (name ++ ':' :: after) =
      match after with
      | ']' :: rest =>
          (CharSet.asciiNamed.lookup (String.ofList name)).map fun ranges =>
            (negateIf flags negated (.ranges ranges), rest)
      | _ => none := by
  rw [namedBody, drop_length_takeWhile, takeWhile_mark noColon, dropWhile_mark noColon]
  cases after with
  | nil => rfl
  | cons char rest =>
      by_cases isBracket : char = ']'
      · subst isBracket
        simp [Option.map_eq_bind]
      · simp [isBracket]

theorem namedBody_of_no_colon (negated : Bool) {body : List Char} (noColon : ':' ∉ body) :
    namedBody flags negated body = none := by
  rw [namedBody, drop_length_takeWhile, dropWhile_of_notMem noColon]

theorem namedBody_append (closes : Closes more) (negated : Bool) (body : List Char) :
    namedBody flags negated (body ++ more) =
      (namedBody flags negated body).map fun read => (read.1, read.2 ++ more) := by
  obtain ⟨line, rfl⟩ := closes.exists_cons
  by_cases hasColon : ':' ∈ body
  · obtain ⟨name, after, rfl, noColon⟩ := List.eq_append_cons_of_mem hasColon
    rw [List.append_assoc, List.cons_append, namedBody_of_colon negated noColon,
      namedBody_of_colon negated noColon]
    cases after with
    | nil => rfl
    | cons char rest =>
        by_cases isBracket : char = ']'
        · subst isBracket
          simp [Function.comp_def]
        · simp [isBracket]
  · rw [namedBody_of_no_colon negated hasColon, Option.map_none]
    -- a name that goes on has the closing bracket
    by_cases goesOn : ':' ∈ line
    · obtain ⟨others, after, rfl, noColon⟩ := List.eq_append_cons_of_mem goesOn
      have isSplit : body ++ ')' :: (others ++ ':' :: after) =
        (body ++ ')' :: others) ++ ':' :: after := by simp
      have stillNoColon : ':' ∉ body ++ ')' :: others := by simp [hasColon, noColon]
      rw [isSplit, namedBody_of_colon negated stillNoColon, lookup_eq_none (by simp)]
      split <;> rfl
    · apply namedBody_of_no_colon
      simp [hasColon, goesOn]

/-- A set with a name, and what is none, are read alike from a longer text. -/
theorem readNamed_append (closes : Closes more) (chars : List Char) :
    readNamed flags (chars ++ more) =
      (readNamed flags chars).map fun read => (read.1, read.2 ++ more) := by
  cases chars with
  | nil =>
      obtain ⟨line, rfl⟩ := closes.exists_cons
      rfl
  | cons char body =>
      by_cases isColon : char = ':'
      · subst isColon
        rw [List.cons_append]
        by_cases isNegated : body.head? = some '^'
        · obtain ⟨after, rfl⟩ := List.head?_eq_some_iff.mp isNegated
          rw [List.cons_append, readNamed_negated, readNamed_negated, namedBody_append closes]
        · have stillNot : (body ++ more).head? ≠ some '^' := by
            obtain ⟨line, rfl⟩ := closes.exists_cons
            cases body with
            | nil => simp
            | cons first others => simpa using isNegated
          rw [readNamed_plain flags isNegated, readNamed_plain flags stillNot,
            namedBody_append closes]
      · simp [readNamed, isColon]

theorem readDashes_append {fuel steps : Nat} {known found : PartialSet}
    (enough : chars.length ≤ fuel) (isRead : readDashes flags fuel known chars = (found, rest))
    (nonempty : rest ≠ []) (enoughMore : (chars ++ more).length ≤ steps) :
    readDashes flags steps known (chars ++ more) = (found, rest ++ more) := by
  induction fuel generalizing chars known steps with
  | zero =>
      obtain rfl : chars = [] := List.length_eq_zero_iff.mp (by omega)
      cases isRead
      exact absurd rfl nonempty
  | succ fuel ih =>
      cases chars with
      | nil =>
          cases isRead
          exact absurd rfl nonempty
      | cons char after =>
          simp only [List.cons_append, List.length_cons] at enough enoughMore
          obtain ⟨steps, rfl⟩ := Nat.exists_eq_add_one.mpr (show 0 < steps by omega)
          by_cases isDash : char = '-'
          · subst isDash
            rw [readDashes] at isRead
            have someLeft : skip flags after ≠ [] := by
              intro isEmpty
              rw [isEmpty] at isRead
              cases fuel <;> cases isRead <;> exact nonempty rfl
            have shorter := length_skip_le flags after
            have shorterMore := length_skip_le flags (after ++ more)
            rw [skip_append_of_ne_nil someLeft] at shorterMore
            rw [List.cons_append, readDashes, skip_append_of_ne_nil someLeft]
            exact ih (by omega) isRead (by omega)
          · simp only [readDashes, List.cons_append, List.cons.injEq, isDash, false_and,
              false_imp_iff, implies_true] at isRead ⊢
            cases isRead
            rfl

/-- Reads the dashes or the bracket at the start of a set that stand for themselves. -/
def openItems (flags : Flags) (chars : List Char) : PartialSet × List Char :=
  let (known, chars) := readDashes flags chars.length {} chars
  if known.row.count ≠ 0 then (known, chars)
  else
    match chars with
    | ']' :: rest => (known.add (.single ']') 0, skip flags rest)
    | _ => (known, chars)

@[simp]
theorem openItems_nil (flags : Flags) : openItems flags [] = ({}, []) :=
  rfl

theorem openItems_append {known : PartialSet} (isRead : openItems flags chars = (known, rest))
    (nonempty : rest ≠ []) : openItems flags (chars ++ more) = (known, rest ++ more) := by
  obtain ⟨found, left, isDashes⟩ :
      ∃ found left, readDashes flags chars.length {} chars = (found, left) := ⟨_, _, rfl⟩
  have someLeft : left ≠ [] := by
    rintro rfl
    simp only [openItems, isDashes] at isRead
    split at isRead <;> exact nonempty (Prod.mk.inj isRead).2.symm
  simp only [openItems, isDashes, readDashes_append le_rfl isDashes someLeft le_rfl] at isRead ⊢
  by_cases hasDashes : found.row.count ≠ 0
  · rw [if_pos hasDashes] at isRead ⊢
    cases isRead
    rfl
  · rw [if_neg hasDashes] at isRead ⊢
    obtain ⟨char, after, rfl⟩ := List.exists_cons_of_ne_nil someLeft
    by_cases isBracket : char = ']'
    · subst isBracket
      obtain ⟨rfl, rfl⟩ := Prod.mk.inj isRead
      simp only [List.cons_append, skip_append_of_ne_nil nonempty]
    · simp only [List.cons_append, List.cons.injEq, isBracket, false_and, false_imp_iff,
        implies_true] at isRead ⊢
      cases isRead
      rfl

theorem openItems_with (negated : Bool) (chars : List Char) :
    (let (known, chars) := readDashes flags chars.length {} chars
     if known.row.count ≠ 0 then (negated, known, chars)
     else
       match chars with
       | ']' :: rest => (negated, known.add (.single ']') 0, skip flags rest)
       | _ => (negated, known, chars)) = (negated, openItems flags chars) := by
  unfold openItems
  rcases readDashes flags chars.length {} chars with ⟨known, left⟩
  by_cases hasDashes : known.row.count ≠ 0
  · simp [hasDashes]
  · cases left with
    | nil => simp [hasDashes]
    | cons char after => by_cases isBracket : char = ']' <;> simp [hasDashes, isBracket]

theorem openSet_negated (isSkipped : skip flags chars = '^' :: rest) :
    openSet flags chars = (true, openItems flags (skip flags rest)) := by
  rw [openSet, isSkipped]
  exact openItems_with true _

theorem openSet_plain (notNegated : (skip flags chars).head? ≠ some '^') :
    openSet flags chars = (false, openItems flags (skip flags chars)) := by
  rw [openSet]
  generalize skip flags chars = left at notNegated
  cases left with
  | nil => rfl
  | cons char after =>
      have noSign : char ≠ '^' := fun same => notNegated (congrArg some same)
      simp only [List.cons.injEq, noSign, false_and, false_imp_iff, implies_true]
      exact openItems_with false _

/-- The start of a set is read alike from a longer text, if something is left behind it. -/
theorem openSet_append {negated : Bool} {known : PartialSet}
    (isRead : openSet flags chars = (negated, known, rest)) (nonempty : rest ≠ []) :
    openSet flags (chars ++ more) = (negated, known, rest ++ more) := by
  cases isSkipped : skip flags chars with
  | nil =>
      rw [openSet_plain (by simp [isSkipped]), isSkipped, openItems_nil] at isRead
      cases isRead
      exact absurd rfl nonempty
  | cons char after =>
      have isLonger := skip_append_of_cons isSkipped more
      by_cases isSign : char = '^'
      · subst isSign
        rw [openSet_negated isSkipped] at isRead
        obtain ⟨rfl, isItems⟩ := Prod.mk.inj isRead
        have someLeft : skip flags after ≠ [] := by
          intro isEmpty
          rw [isEmpty, openItems_nil] at isItems
          exact nonempty (Prod.mk.inj isItems).2.symm
        rw [openSet_negated isLonger, skip_append_of_ne_nil someLeft,
          openItems_append isItems nonempty]
      · have noSign : some char ≠ some '^' := fun same => isSign (Option.some.inj same)
        rw [openSet_plain (by rwa [isSkipped]), isSkipped] at isRead
        obtain ⟨rfl, isItems⟩ := Prod.mk.inj isRead
        rw [openSet_plain (by rwa [isLonger]), isLonger, ← List.cons_append,
          openItems_append isItems nonempty]

/-- The operator that a doubled character is. -/
def operatorOf? : Char → Option SetOperator
  | '&' => some .inter
  | '-' => some .diff
  | '~' => some .symmDiff
  | _ => none

section ReadSet

variable {fuel : Nat} {negated : Bool} {known : PartialSet} {char : Char} {after : List Char}

theorem readSet_close (isSkipped : skip flags chars = ']' :: after) :
    readSet flags (fuel + 1) negated known chars =
      (negateIf flags negated (known.whole flags)).map (·, known.depth + 1, after) := by
  rw [readSet, isSkipped, Option.map_eq_bind]
  rfl

theorem readSet_named {named : Option CharSet} (isSkipped : skip flags chars = '[' :: after)
    (isNamed : readNamed flags after = some (named, rest)) :
    readSet flags (fuel + 1) negated known chars =
      named.bind fun set => readSet flags fuel negated (known.add set 0) rest := by
  rw [readSet, isSkipped]
  simp only [isNamed]
  rfl

theorem readSet_inner {innerNegated : Bool} {start : PartialSet}
    (isSkipped : skip flags chars = '[' :: after) (notNamed : readNamed flags after = none)
    (isStart : openSet flags after = (innerNegated, start, rest)) :
    readSet flags (fuel + 1) negated known chars =
      (readSet flags fuel innerNegated start rest).bind fun inner =>
        readSet flags fuel negated (known.add inner.1 inner.2.1) inner.2.2 := by
  rw [readSet, isSkipped]
  simp only [notNamed, isStart]
  rfl

theorem readSet_operator {operator : SetOperator}
    (isSkipped : skip flags chars = char :: char :: after)
    (isOperator : operatorOf? char = some operator) :
    readSet flags (fuel + 1) negated known chars =
      readSet flags fuel negated (known.operate flags operator) after := by
  rw [readSet, isSkipped]
  unfold operatorOf? at isOperator
  split at isOperator <;> cases isOperator <;> rfl

theorem readSet_other (isSkipped : skip flags chars = char :: after) (noClose : char ≠ ']')
    (noOpen : char ≠ '[') (noOperator : operatorOf? char = none ∨ after.head? ≠ some char) :
    readSet flags (fuel + 1) negated known chars =
      (readRange flags (char :: after)).bind fun read =>
        readSet flags fuel negated (known.add read.1 0) read.2 := by
  rw [readSet, isSkipped]
  split <;> simp_all [operatorOf?]

/-- A sign that stands alone at the end of a text is not doubled by a bracket behind it. -/
theorem noOperator_append (closes : Closes more)
    (noOperator : operatorOf? char = none ∨ after.head? ≠ some char) :
    operatorOf? char = none ∨ (after ++ more).head? ≠ some char := by
  obtain ⟨line, rfl⟩ := closes.exists_cons
  cases after with
  | cons first others => simpa using noOperator
  | nil =>
      by_cases isBracket : char = ')'
      · subst isBracket
        exact .inl rfl
      · exact .inr fun same => isBracket (Option.some.inj same).symm

/-- A set is read alike with more steps, and from a longer text. -/
theorem readSet_append {steps : Nat} {set : CharSet} {depth : Nat}
    (isRead : readSet flags fuel negated known chars = some (set, depth, rest))
    (enough : fuel ≤ steps) (closes : Closes more) :
    readSet flags steps negated known (chars ++ more) = some (set, depth, rest ++ more) := by
  induction fuel generalizing negated known chars set depth rest steps with
  | zero => cases isRead
  | succ fuel ih =>
      obtain ⟨steps, rfl⟩ := Nat.exists_eq_add_one.mpr (show 0 < steps by omega)
      have enough' : fuel ≤ steps := by omega
      cases isSkipped : skip flags chars with
      | nil =>
          rw [readSet_of_nil isSkipped] at isRead
          cases isRead
      | cons char after =>
          have isLonger := skip_append_of_cons isSkipped more
          by_cases isClose : char = ']'
          · subst isClose
            rw [readSet_close isSkipped, Option.map_eq_some_iff] at isRead
            rw [readSet_close isLonger, Option.map_eq_some_iff]
            obtain ⟨whole, isWhole, same⟩ := isRead
            cases same
            exact ⟨_, isWhole, rfl⟩
          by_cases isOpen : char = '['
          · subst isOpen
            have stillNamed : readNamed flags (after ++ more) = _ := readNamed_append closes after
            cases isNamed : readNamed flags after with
            | some named =>
                rw [isNamed, Option.map_some] at stillNamed
                rw [readSet_named isSkipped isNamed, Option.bind_eq_some_iff] at isRead
                rw [readSet_named isLonger stillNamed, Option.bind_eq_some_iff]
                obtain ⟨set, isSet, isRead⟩ := isRead
                exact ⟨set, isSet, ih isRead enough'⟩
            | none =>
                rw [isNamed, Option.map_none] at stillNamed
                obtain ⟨innerNegated, start, behind, isStart⟩ :
                  ∃ innerNegated start behind, openSet flags after =
                    (innerNegated, start, behind) := ⟨_, _, _, rfl⟩
                rw [readSet_inner isSkipped isNamed isStart, Option.bind_eq_some_iff] at isRead
                obtain ⟨⟨inner, innerDepth, left⟩, isInner, isRead⟩ := isRead
                have someBehind : behind ≠ [] := by
                  rintro rfl
                  simp [readSet_nil_eq_none] at isInner
                rw [readSet_inner isLonger stillNamed (openSet_append isStart someBehind),
                  Option.bind_eq_some_iff]
                exact ⟨(inner, innerDepth, left ++ more), ih isInner enough', ih isRead enough'⟩
          by_cases isDoubled : (operatorOf? char).isSome ∧ after.head? = some char
          · obtain ⟨isOperator, isSame⟩ := isDoubled
            obtain ⟨operator, isOperator⟩ := Option.isSome_iff_exists.mp isOperator
            obtain ⟨behind, rfl⟩ := List.head?_eq_some_iff.mp isSame
            rw [readSet_operator isSkipped isOperator] at isRead
            rw [readSet_operator isLonger isOperator]
            exact ih isRead enough'
          · have noOperator : operatorOf? char = none ∨ after.head? ≠ some char := by
              cases isOperator : operatorOf? char <;> simp_all
            rw [readSet_other isSkipped isClose isOpen noOperator] at isRead
            rw [readSet_other isLonger isClose isOpen (noOperator_append closes noOperator)]
            simp only [Option.bind_eq_some_iff, Prod.exists] at isRead ⊢
            obtain ⟨range, left, isRange, isRead⟩ := isRead
            have someLeft : left ≠ [] := by
              rintro rfl
              simp [readSet_nil_eq_none] at isRead
            exact ⟨range, left ++ more, readRange_append isRange someLeft closes, ih isRead enough'⟩

end ReadSet

end Sets

end JsonTables.Pattern
