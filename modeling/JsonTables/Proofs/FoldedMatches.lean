import Mathlib
import JsonTables.Filter

/-!
# Matches in lower case

A test that ignores case holds two texts against each other in lower case, each put into
lower case on its own.  All characters but one have a single lowercase, so a value that is
found in a text is found in it in lower case as well.  The exception is the capital sigma,
which is final at the end of a word: a value may end inside a word of the text, or start
there, and then its sigma may be final in one of the two texts and not in the other.
-/

namespace JsonTables

namespace Text

/-- Whether a capital sigma is final between characters, of which those before it are in
reverse order. -/
def sigmaIsFinal (before after : List Char) : Bool :=
  nextIsCased before && !nextIsCased after

/-- The lowercase of a character between others. -/
def lowerBetween (before : List Char) (char : Char) (after : List Char) : List Char :=
  if char = 'Σ' then [if sigmaIsFinal before after then 'ς' else 'σ']
  else if char = 'İ' then ['i', '\u0307']
  else [lowerChar char]

/-- The lowercase of characters that follow some, which are in reverse order, and that others
follow. -/
def lowerWithin (after : List Char) (before : List Char) : List Char → List Char
  | [] => []
  | char :: rest =>
      lowerBetween before char (rest ++ after) ++ lowerWithin after (char :: before) rest

/-- Whether each capital sigma of some characters is final in one context just if it is so in
another. -/
def SigmasAgree (chars before after otherBefore otherAfter : List Char) : Prop :=
  ∀ front back, chars = front ++ 'Σ' :: back →
    sigmaIsFinal (front.reverse ++ before) (back ++ after) =
      sigmaIsFinal (front.reverse ++ otherBefore) (back ++ otherAfter)

section Lowercase

variable {before after otherBefore otherAfter : List Char}

theorem lowerAfter_append (before chars after : List Char) :
    lowerAfter before (chars ++ after) =
      lowerWithin after before chars ++ lowerAfter (chars.reverse ++ before) after := by
  induction chars generalizing before with
  | nil => rfl
  | cons char rest ih =>
      simp [lowerAfter, lowerWithin, lowerBetween, sigmaIsFinal, ih]

theorem lowerAfter_eq_lowerWithin (before chars : List Char) :
    lowerAfter before chars = lowerWithin [] before chars := by
  simpa [lowerAfter] using lowerAfter_append before chars []

theorem length_lowerBetween (char : Char) :
    (lowerBetween before char after).length =
      (lowerBetween otherBefore char otherAfter).length := by
  unfold lowerBetween
  split
  · rfl
  · rfl

/-- How many characters a text has in lower case does not depend on its context. -/
theorem length_lowerWithin (chars : List Char) :
    (lowerWithin after before chars).length =
      (lowerWithin otherAfter otherBefore chars).length := by
  induction chars generalizing before otherBefore with
  | nil => rfl
  | cons char rest ih =>
      rw [lowerWithin, lowerWithin, List.length_append, List.length_append,
        length_lowerBetween char, ih]

theorem lowerBetween_eq_iff (char : Char) :
    lowerBetween before char after = lowerBetween otherBefore char otherAfter ↔
      (char = 'Σ' → sigmaIsFinal before after = sigmaIsFinal otherBefore otherAfter) := by
  unfold lowerBetween
  split
  · cases sigmaIsFinal before after <;> cases sigmaIsFinal otherBefore otherAfter <;> simp_all
  · simp_all

theorem sigmasAgree_cons_iff {char : Char} {rest : List Char} :
    SigmasAgree (char :: rest) before after otherBefore otherAfter ↔
      (char = 'Σ' → sigmaIsFinal before (rest ++ after) =
        sigmaIsFinal otherBefore (rest ++ otherAfter)) ∧
      SigmasAgree rest (char :: before) after (char :: otherBefore) otherAfter := by
  constructor
  · intro agree
    refine ⟨?_, ?_⟩
    · rintro rfl
      exact agree [] rest rfl
    · rintro front back rfl
      simpa using agree (char :: front) back rfl
  · rintro ⟨first, agree⟩ front back isSplit
    cases front with
    | nil =>
        cases isSplit
        exact first rfl
    | cons other front =>
        cases isSplit
        simpa using agree front back rfl

/-- Characters have one lowercase in two contexts just if their capital sigmas are final alike. -/
theorem lowerWithin_eq_iff (chars : List Char) :
    lowerWithin after before chars = lowerWithin otherAfter otherBefore chars ↔
      SigmasAgree chars before after otherBefore otherAfter := by
  induction chars generalizing before otherBefore with
  | nil => simp [lowerWithin, SigmasAgree]
  | cons char rest ih =>
      rw [sigmasAgree_cons_iff, ← ih, ← lowerBetween_eq_iff, lowerWithin, lowerWithin]
      constructor
      · intro same
        exact List.append_inj same (length_lowerBetween char)
      · rintro ⟨sameFirst, sameRest⟩
        rw [sameFirst, sameRest]

theorem toList_toLower (text : String) :
    (toLower text).toList = lowerWithin [] [] text.toList := by
  rw [toLower, String.toList_ofList, lowerAfter_eq_lowerWithin]

/-- The lowercase of a text that is put together from three parts. -/
theorem toList_toLower_of_parts {text : String} {before value after : List Char}
    (isText : text.toList = before ++ value ++ after) :
    (toLower text).toList = lowerWithin (value ++ after) [] before ++
      lowerWithin after before.reverse value ++
        lowerWithin [] (value.reverse ++ before.reverse) after := by
  rw [toLower, String.toList_ofList, isText, List.append_assoc, lowerAfter_append,
    lowerAfter_append, lowerAfter_eq_lowerWithin, List.append_nil, List.append_assoc]

end Lowercase

end Text

namespace TextOperator

theorem occursIn_iff {part chars : List Char} : occursIn part chars = true ↔ part <:+: chars := by
  induction chars with
  | nil => simp [occursIn]
  | cons char rest ih => simp [occursIn, ih, List.infix_cons_iff]

/-- Whether an operator looks for a value in a text. -/
def Searches (operator : TextOperator) : Prop :=
  operator = startsWith ∨ operator = endsWith ∨ operator = contains ∨ operator = equal

/-- What an operator that searches may leave of a text, before a value and after it. -/
def Leaves : TextOperator → List Char → List Char → Prop
  | startsWith, before, _ => before = []
  | endsWith, _, after => after = []
  | contains, _, _ => True
  | _, before, after => before = [] ∧ after = []

/-- Whether an operator finds a value between two parts of a text. -/
def FindsBetween (operator : TextOperator) (text value : String) (before after : List Char) :
    Prop :=
  text.toList = before ++ value.toList ++ after ∧ operator.Leaves before after

variable {operator : TextOperator} {text value : String}

/-- An operator that searches holds just if it finds the value somewhere. -/
theorem holds_iff_of_searches (searches : operator.Searches) :
    operator.holds text value = true ↔
      ∃ before after, operator.FindsBetween text value before after := by
  rcases searches with rfl | rfl | rfl | rfl
  · simp only [holds, List.isPrefixOf_iff_prefix, FindsBetween, Leaves]
    constructor
    · rintro ⟨after, isText⟩
      exact ⟨[], after, isText.symm, rfl⟩
    · rintro ⟨before, after, isText, rfl⟩
      exact ⟨after, isText.symm⟩
  · simp only [holds, List.isSuffixOf_iff_suffix, FindsBetween, Leaves]
    constructor
    · rintro ⟨before, isText⟩
      exact ⟨before, [], by rw [isText, List.append_nil], rfl⟩
    · rintro ⟨before, after, isText, rfl⟩
      exact ⟨before, by rw [isText, List.append_nil]⟩
  · simp only [holds, occursIn_iff, FindsBetween, Leaves, and_true]
    constructor
    · rintro ⟨before, after, isText⟩
      exact ⟨before, after, isText.symm⟩
    · rintro ⟨before, after, isText⟩
      exact ⟨before, after, isText.symm⟩
  · simp [holds, FindsBetween, Leaves, String.toList_inj]

theorem Leaves.lowerWithin {before after : List Char} (leaves : operator.Leaves before after)
    (beforeFirst afterFirst beforeLast afterLast : List Char) :
    operator.Leaves (Text.lowerWithin afterFirst beforeFirst before)
      (Text.lowerWithin afterLast beforeLast after) := by
  cases operator <;> simp_all [Leaves, Text.lowerWithin]

/-- Whether an operator finds a value where its capital sigmas are final just if they are so in
the value alone. -/
def FindsInPlace (operator : TextOperator) (text value : String) : Prop :=
  ∃ before after, operator.FindsBetween text value before after ∧
    Text.SigmasAgree value.toList before.reverse after [] []

/-- A value that is found with its sigmas in place is found in lower case. -/
theorem FindsInPlace.holds_toLower (searches : operator.Searches)
    (inPlace : operator.FindsInPlace text value) :
    operator.holds (Text.toLower text) (Text.toLower value) = true := by
  rcases inPlace with ⟨before, after, ⟨isText, leaves⟩, agree⟩
  apply (holds_iff_of_searches searches).mpr
  refine ⟨_, _, ?_, leaves.lowerWithin [] (value.toList ++ after)
    (value.toList.reverse ++ before.reverse) []⟩
  rw [Text.toList_toLower_of_parts isText, Text.toList_toLower,
    (Text.lowerWithin_eq_iff value.toList).mpr agree]

/-- What is found at the start or at the end of a text, or is all of it, is found in lower case
only with its sigmas in place. -/
theorem sigmasAgree_of_holds (searches : operator.Searches) (bound : operator ≠ contains)
    {before after : List Char} (finds : operator.FindsBetween text value before after)
    (folded : operator.holds (Text.toLower text) (Text.toLower value) = true) :
    Text.SigmasAgree value.toList before.reverse after [] [] := by
  rcases finds with ⟨isText, leaves⟩
  rcases (holds_iff_of_searches searches).mp folded with ⟨_, _, isLower, lowerLeaves⟩
  rw [Text.toList_toLower_of_parts isText, Text.toList_toLower] at isLower
  apply (Text.lowerWithin_eq_iff value.toList).mp
  have sameLength : (Text.lowerWithin after before.reverse value.toList).length =
      (Text.lowerWithin [] [] value.toList).length := Text.length_lowerWithin _
  rcases searches with rfl | rfl | rfl | rfl
  · cases leaves
    cases lowerLeaves
    simp only [Text.lowerWithin, List.nil_append] at isLower
    exact (List.append_inj isLower sameLength).1
  · cases leaves
    cases lowerLeaves
    simp only [Text.lowerWithin, List.append_nil] at isLower
    exact (List.append_inj' isLower sameLength).2
  · contradiction
  · rcases leaves with ⟨rfl, rfl⟩
    rfl

/-- A text that is the value has its sigmas in place, and so has a value without any. -/
theorem findsInPlace_of_holds (searches : operator.Searches)
    (isMatch : operator.holds text value = true)
    (plain : operator = equal ∨ 'Σ' ∉ value.toList) : operator.FindsInPlace text value := by
  rcases (holds_iff_of_searches searches).mp isMatch with ⟨before, after, isText, leaves⟩
  refine ⟨before, after, ⟨isText, leaves⟩, ?_⟩
  rcases plain with rfl | noSigma
  · rcases leaves with ⟨rfl, rfl⟩
    intro front back _
    rfl
  · intro front back isSplit
    simp [isSplit] at noSigma

end TextOperator

namespace Filter

theorem test_text_eq_true_iff {cell? : String → Option Cell} {column : String} {cell : Cell}
    (isCell : cell? column = some cell) {asked : TextTest} :
    test cell? (text column asked) = true ↔
      cell.isNull = false ∧ asked.holds (toString cell) = true := by
  simp [test, testText, isCell]

/-- A test that finds a value in a cell also passes when case is ignored, if somewhere the value
is found with its capital sigmas in place.  They are always in place where the cell is the value
and where the value has none, and a test of the start or the end of a cell passes in no other
way. -/
theorem ignoring_case_keeps_matches {operator : TextOperator} (searches : operator.Searches)
    {cell? : String → Option Cell} {column value : String} {cell : Cell}
    (isCell : cell? column = some cell)
    (isMatch : test cell? (text column ⟨operator, value, false⟩) = true) :
    (operator.FindsInPlace (toString cell) value →
      test cell? (text column ⟨operator, value, true⟩) = true) ∧
    (operator = .equal ∨ 'Σ' ∉ value.toList →
      operator.FindsInPlace (toString cell) value) ∧
    (operator ≠ .contains → test cell? (text column ⟨operator, value, true⟩) = true →
      operator.FindsInPlace (toString cell) value) := by
  rcases (test_text_eq_true_iff isCell).mp isMatch with ⟨notNull, found⟩
  refine ⟨?_, ?_, ?_⟩
  · intro inPlace
    exact (test_text_eq_true_iff isCell).mpr ⟨notNull, inPlace.holds_toLower searches⟩
  · exact TextOperator.findsInPlace_of_holds searches found
  · intro bound isFolded
    rcases (TextOperator.holds_iff_of_searches searches).mp found with ⟨before, after, finds⟩
    have folded := ((test_text_eq_true_iff isCell).mp isFolded).2
    exact ⟨before, after, finds, TextOperator.sigmasAgree_of_holds searches bound finds folded⟩

/-- A sigma within a word is found in either case, at the start of the text and within it. -/
theorem sigma_within_a_word_is_found :
    let cell? := fun _ : String => some (Cell.string "ΣΑΣ")
    test cell? (text "c" ⟨.startsWith, "ΣΑ", false⟩) = true ∧
      test cell? (text "c" ⟨.startsWith, "ΣΑ", true⟩) = true := by
  intro cell?
  have isMatch : test cell? (text "c" ⟨.startsWith, "ΣΑ", false⟩) = true := by cbv
  have agree : Text.SigmasAgree ['Σ', 'Α'] [] ['Σ'] [] [] := by
    apply (Text.lowerWithin_eq_iff _).mp
    cbv
  have isCell : cell? "c" = some (.string "ΣΑΣ") := rfl
  have kept := ignoring_case_keeps_matches (.inl rfl) isCell isMatch
  exact ⟨isMatch, kept.1 ⟨[], ['Σ'], ⟨rfl, rfl⟩, agree⟩⟩

/-- A sigma that ends the value and does not end the word of the cell is lost. -/
theorem sigma_at_the_end_of_the_value_is_lost :
    let cell? := fun _ : String => some (Cell.string "ΑΣΑ")
    test cell? (text "c" ⟨.startsWith, "ΑΣ", false⟩) = true ∧
      test cell? (text "c" ⟨.startsWith, "ΑΣ", true⟩) = false := by
  intro cell?
  exact ⟨by cbv, by cbv⟩

end Filter

end JsonTables
