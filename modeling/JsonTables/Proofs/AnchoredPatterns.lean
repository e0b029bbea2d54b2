import JsonTables.Filter
import JsonTables.Proofs.LongerGroups

/-!
# Patterns between the ends of a text

To match whole texts, a pattern is put into a group between the start and the end of a text.  This
is read as the pattern is, unless the bracket that ends the group belongs to a comment that the
pattern leaves open, or the group lies too deep or grows too large.  Whatever it matches, the
pattern by itself matches too, since more places to start from lead to more places to end at.
-/

namespace JsonTables

namespace Pattern

namespace Places

/-- Whether every place of a set is in another set of places of the same text. -/
def Within (first second : Places) : Prop :=
  List.Forall₂ (fun here there => here = true → there = true) first second

namespace Within

variable {first second third fourth : Places}

theorem zipWith {α : Type} {others : List α} (test : α → Bool) (within : first.Within second) :
    Places.Within (List.zipWith (fun live item => live && test item) first others)
      (List.zipWith (fun live item => live && test item) second others) := by
  induction within generalizing others with
  | nil => exact .nil
  | cons head tail ih =>
      cases others with
      | nil => exact .nil
      | cons item rest =>
          refine .cons ?_ ih
          simp only [Bool.and_eq_true]
          exact And.imp_left head

theorem union (left : first.Within second) (right : third.Within fourth) :
    (Places.union first third).Within (Places.union second fourth) := by
  induction left generalizing third fourth with
  | nil => exact .nil
  | cons head tail ih =>
      cases right with
      | nil => exact .nil
      | cons headRight tailRight =>
          refine .cons ?_ (ih tailRight)
          simp only [Bool.or_eq_true]
          exact Or.imp head headRight

theorem any (within : first.Within second) (found : first.any id = true) :
    second.any id = true := by
  induction within with
  | nil => cases found
  | cons head tail ih =>
      simp only [List.any_cons, id_eq, Bool.or_eq_true] at found ⊢
      exact Or.imp head ih found

/-- The places of a set that pass a test are within it. -/
theorem of_zipWith {α : Type} (test : α → Bool) {places : Places} {others : List α}
    (enough : places.length ≤ others.length) :
    Places.Within (List.zipWith (fun live item => live && test item) places others) places := by
  induction places generalizing others with
  | nil => exact .nil
  | cons live rest ih =>
      cases others with
      | nil => simp at enough
      | cons item others =>
          refine .cons ?_ (ih (by simpa using enough))
          rw [Bool.and_eq_true]
          exact And.left

end Within

/-- Applying a function until nothing changes is applying it so many times. -/
theorem iterate_eq (step : Places → Places) (count : Nat) (places : Places) :
    iterate step count places = step^[count] places := by
  induction count generalizing places with
  | zero => rfl
  | succ count ih =>
      rw [iterate]
      split_ifs with isFixed
      · exact (Function.iterate_fixed (beq_iff_eq.mp isFixed) (count + 1)).symm
      · exact ih (step places)

theorem iterate_keeps {motive : Places → Prop} {step : Places → Places}
    (keeps : ∀ places, motive places → motive (step places)) (count : Nat) {places : Places}
    (holds : motive places) : motive (iterate step count places) := by
  rw [iterate_eq]
  exact Function.Iterate.rec motive holds keeps count

/-- A function that keeps what is within a set within its image does so however often. -/
theorem Within.iterate {step : Places → Places}
    (keeps : ∀ {first second : Places}, first.Within second → (step first).Within (step second))
    (count : Nat) {first second : Places} (within : first.Within second) :
    (Places.iterate step count first).Within (Places.iterate step count second) := by
  rw [iterate_eq, iterate_eq]
  induction count generalizing first second with
  | zero => exact within
  | succ count ih => exact ih (keeps within)

end Places

namespace Regex

/-- More places to start from lead to more places to end at. -/
theorem advance_within {text : List Char} (regex : Regex) {first second : Places}
    (within : first.Within second) :
    (regex.advance text first).Within (regex.advance text second) := by
  induction regex generalizing first second with
  | empty => exact within
  | set known => exact .cons id (within.zipWith known.has)
  | look condition => exact within.zipWith condition.holds
  | seq before after beforeIh afterIh => exact afterIh (beforeIh within)
  | alt one other oneIh otherIh => exact (oneIh within).union (otherIh within)
  | «repeat» body least most ih =>
      exact .iterate (fun within => within.union (ih within)) _ (.iterate ih _ within)

/-- The expression between the start and the end of a text. -/
def between (regex : Regex) : Regex :=
  .seq (.seq (.seq .empty (.look .textStart)) regex) (.look .textEnd)

theorem length_around (before : Option Char) (text : List Char) :
    (Places.around before text).length = text.length + 1 := by
  induction text generalizing before with
  | nil => rfl
  | cons char rest ih => simp [Places.around, ih]

theorem length_advance (regex : Regex) {text : List Char} {places : Places}
    (isLength : places.length = text.length + 1) :
    (regex.advance text places).length = text.length + 1 := by
  induction regex generalizing places with
  | empty => exact isLength
  | set known => simp [advance, isLength]
  | look condition => simp [advance, isLength, length_around]
  | seq before after beforeIh afterIh => exact afterIh (beforeIh isLength)
  | alt one other oneIh otherIh => simp [advance, Places.union, oneIh isLength, otherIh isLength]
  | «repeat» body least most ih =>
      have once : ∀ places : Places, places.length = text.length + 1 →
          (body.advance text places).length = text.length + 1 := fun _ => ih
      have more : ∀ places : Places, places.length = text.length + 1 →
          (places.union (body.advance text places)).length = text.length + 1 := by
        intro places isLength
        simp [Places.union, isLength, ih isLength]
      exact Places.iterate_keeps more _ (Places.iterate_keeps once _ isLength)

/-- What matches a whole text is found in it. -/
theorem found_of_between {regex : Regex} {text : List Char}
    (isFound : regex.between.found text = true) : regex.found text = true := by
  have isLength : (Places.all text).length = text.length + 1 := List.length_replicate
  have starts : ((Regex.look .textStart).advance text (Places.all text)).Within
      (Places.all text) := .of_zipWith _ (by rw [isLength, length_around])
  have ends := length_advance regex (length_advance (.look .textStart) isLength)
  refine (regex.advance_within starts).any (Places.Within.any (.of_zipWith _ ?_) isFound)
  rw [length_around]
  exact ends.le

end Regex

/-! ### Texts of patterns -/

/-- What has been read of a pattern at its start. -/
def Branch.start : Branch :=
  { flags := {}, names := [] }

theorem Regex.read?_eq_some_iff {text : String} {regex : Regex} :
    Regex.read? text = some regex ↔
      ∃ found rest, readBranch (text.toList.length + 1) false Branch.start text.toList =
          some (found, rest) ∧
        found.depth ≤ Branch.maxDepth ∧ found.whole.size ≤ Branch.maxSize ∧
          found.whole = regex := by
  simp only [Regex.read?, Branch.start, Option.bind_eq_bind, Option.bind_eq_some_iff, Prod.exists]
  refine exists_congr fun found => exists_congr fun rest => and_congr_right fun _ => ?_
  split_ifs <;> simp_all

/-- What has been read of a pattern, as a group behind the start of a text. -/
def Branch.grouped (found : Branch) : Branch :=
  { start.add (.look .textStart) 0 with names := found.names }.add found.whole (found.depth + 1)

/-- What has been read of a pattern, as a group between the start and the end of a text. -/
def Branch.between (found : Branch) : Branch :=
  found.grouped.add (.look .textEnd) 0

theorem Branch.whole_between (found : Branch) : found.between.whole = found.whole.between :=
  rfl

theorem Branch.depth_between (found : Branch) : found.between.depth = found.depth + 2 := by
  simp [between, grouped, add, start, depth, row, Row.add, Row.depth]

theorem toList_anchor (text : String) :
    (anchor text).toList = '^' :: '(' :: '?' :: ':' :: (text.toList ++ [')', '$']) := by
  simp [anchor]

/-- The text of a pattern that matches whole texts is read by reading the pattern as a group. -/
theorem readBranch_anchor (fuel : Nat) (text : String) :
    readBranch (fuel + 3) false Branch.start (anchor text).toList =
      (readBranch (fuel + 1) true Branch.start (text.toList ++ [')', '$'])).bind fun inner =>
        readBranch (fuel + 1) false inner.1.grouped inner.2 := by
  have isStart : ∀ rest, readNext (fuel + 2) Branch.start '^' rest =
      some (Branch.start.add (.look .textStart) 0, rest) := by
    intro rest
    rfl
  have isGroup : ∀ rest, readStart (Branch.start.add (.look .textStart) 0).flags
      (Branch.start.add (.look .textStart) 0).names ('?' :: ':' :: rest) =
        some (.group {} [] rest) := by
    intro rest
    rfl
  rw [toList_anchor, readBranch_of_cons (skip_of_not_verbose rfl _) (by decide), isStart,
    Option.bind_some, readBranch_of_cons (skip_of_not_verbose rfl _) (by decide), readNext,
    if_pos rfl, readGroup, isGroup, Option.bind_some, Option.bind_map]
  rfl

/-- How deep the parts of a pattern lie in one another. -/
def nesting (text : String) : Nat :=
  match readBranch (text.toList.length + 1) false Branch.start text.toList with
  | some (found, _) => found.depth
  | none => 0

/-- Whether a pattern leaves a comment open at its end: what stands behind it on its line, a closing
bracket even, is part of the comment. -/
def EndsInComment (text : String) : Prop :=
  ∀ line : String, '\n' ∉ line.toList → Regex.read? (text ++ ")" ++ line) = Regex.read? text

section Anchored

variable {text : String} {regex : Regex} {found : Branch} {rest : List Char}

theorem length_toList_anchor (text : String) :
    (anchor text).toList.length = text.toList.length + 6 := by
  simp [toList_anchor]

theorem readBranch_anchor_of_closesBehind
    (closes : ClosesBehind (text.toList.length + 1) Branch.start text.toList found) :
    readBranch ((anchor text).toList.length + 1) false Branch.start (anchor text).toList =
      some (found.between, []) := by
  have isEnd : ∀ fuel, readNext fuel found.grouped '$' [] = some (found.between, []) := by
    intro fuel
    rfl
  rw [length_toList_anchor, readBranch_anchor, (closes _ ['$'] (by omega) trivial).1,
    Option.bind_some, readBranch_of_cons (skip_of_not_verbose rfl _) (by decide), isEnd,
    Option.bind_some, readBranch_of_nil (skip_nil _)]
  rfl

theorem readBranch_anchor_of_goesOnBehind
    (goesOn : GoesOnBehind (text.toList.length + 1) Branch.start text.toList found) :
    readBranch ((anchor text).toList.length + 1) false Branch.start (anchor text).toList =
      none := by
  rw [length_toList_anchor, readBranch_anchor, (goesOn _ ['$'] (by omega) (by decide)).1,
    Option.bind_none]

theorem nesting_eq (isRead : readBranch (text.toList.length + 1) false Branch.start text.toList =
    some (found, rest)) : nesting text = found.depth := by
  rw [nesting, isRead]

theorem endsInComment_of_goesOnBehind (isRead : readBranch (text.toList.length + 1) false
      Branch.start text.toList = some (found, rest))
    (goesOn : GoesOnBehind (text.toList.length + 1) Branch.start text.toList found) :
    EndsInComment text := by
  intro line oneLine
  have isLonger : (text ++ ")" ++ line).toList = text.toList ++ ')' :: line.toList := by simp
  have stillRead := (goesOn ((text ++ ")" ++ line).toList.length + 1) line.toList
    (by rw [isLonger, List.length_append]; omega) oneLine).2
  rw [← isLonger] at stillRead
  ext regex
  rw [Regex.read?_eq_some_iff, Regex.read?_eq_some_iff, stillRead, isRead]
  simp

theorem not_endsInComment_of_closesBehind (isPattern : Regex.read? text = some regex)
    (closes : ClosesBehind (text.toList.length + 1) Branch.start text.toList found) :
    ¬EndsInComment text := by
  intro goesOn
  have stillRead := goesOn "" (by simp)
  have isLonger : (text ++ ")" ++ "").toList = text.toList ++ [')'] := by simp
  rw [isPattern, Regex.read?_eq_some_iff, isLonger,
    (closes _ [] (by rw [List.length_append]; omega) trivial).2] at stillRead
  obtain ⟨_, _, isNone, _⟩ := stillRead
  cases isNone

end Anchored

/-- A pattern can be put between the start and the end of a text unless it leaves a comment open,
lies so deep or is so large that there is no room for it in a group. -/
theorem read?_anchor_eq_some_iff {text : String} {regex anchored : Regex}
    (isPattern : Regex.read? text = some regex) :
    Regex.read? (anchor text) = some anchored ↔
      (¬EndsInComment text ∧ nesting text + 2 ≤ Branch.maxDepth ∧
        regex.size + 2 ≤ Branch.maxSize) ∧ regex.between = anchored := by
  obtain ⟨found, rest, isRead, _, _, rfl⟩ := Regex.read?_eq_some_iff.mp isPattern
  have isLarger : found.whole.between.size = found.whole.size + 2 := by
    simp only [Regex.between, Regex.size]
    omega
  rw [Regex.read?_eq_some_iff, nesting_eq isRead]
  rcases closesBehind_or_goesOnBehind isRead with closes | goesOn
  · have noComment := not_endsInComment_of_closesBehind isPattern closes
    rw [readBranch_anchor_of_closesBehind closes]
    simp [noComment, Branch.whole_between, Branch.depth_between, isLarger, and_assoc]
  · have inComment := endsInComment_of_goesOnBehind isRead goesOn
    rw [readBranch_anchor_of_goesOnBehind goesOn]
    simp [inComment]

theorem read?_eq_some_iff {text : String} {known : Pattern} :
    read? text = some known ↔
      ∃ regex anchored, Regex.read? text = some regex ∧ Regex.read? (anchor text) = some anchored ∧
        ⟨text, regex, anchored⟩ = known := by
  simp [read?, Option.bind_eq_some_iff]

end Pattern

namespace Filter

open Pattern (EndsInComment Regex nesting)

theorem ofPattern_eq_ok_iff {column text : String} {mode : PatternMode} {filter : Filter} :
    ofPattern column text mode = .ok filter ↔
      ∃ known, Pattern.read? text = some known ∧ pattern column known mode = filter := by
  unfold ofPattern
  cases Pattern.read? text <;> simp

theorem test_pattern_somewhere {column : String} {known : Pattern} {cell? : String → Option Cell}
    (isBetween : known.anchored = known.regex.between)
    (passes : (pattern column known .whole).test cell? = true) :
    (pattern column known .somewhere).test cell? = true := by
  simp only [test] at passes ⊢
  cases isCell : cell? column with
  | none => simp [isCell, testText] at passes
  | some cell =>
      simp only [isCell, testText, Bool.and_eq_true, Pattern.isMatch, isBetween] at passes ⊢
      exact ⟨passes.1, Regex.found_of_between passes.2⟩

/-- A filter is made of a pattern that can be read, unless the pattern leaves a comment open, or
leaves no room for the group that it is put into.  A row that the pattern matches as a whole has a
part that it matches. -/
theorem patterns_that_match_are_found {text : String} {regex : Regex}
    (isPattern : Regex.read? text = some regex) (column : String) :
    (∀ mode, (∃ filter, ofPattern column text mode = .ok filter) ↔
      ¬EndsInComment text ∧ nesting text + 2 ≤ Pattern.Branch.maxDepth ∧
        regex.size + 2 ≤ Pattern.Branch.maxSize) ∧
    ∀ matching finding, ofPattern column text .whole = .ok matching →
      ofPattern column text .somewhere = .ok finding →
        ∀ cell?, matching.test cell? = true → finding.test cell? = true := by
  constructor
  · intro mode
    constructor
    · rintro ⟨filter, isFilter⟩
      obtain ⟨known, isKnown, _⟩ := ofPattern_eq_ok_iff.mp isFilter
      obtain ⟨_, anchored, _, isAnchored, _⟩ := Pattern.read?_eq_some_iff.mp isKnown
      exact ((Pattern.read?_anchor_eq_some_iff isPattern).mp isAnchored).1
    · intro hasRoom
      have isAnchored := (Pattern.read?_anchor_eq_some_iff isPattern).mpr ⟨hasRoom, rfl⟩
      have isKnown := Pattern.read?_eq_some_iff.mpr ⟨_, _, isPattern, isAnchored, rfl⟩
      exact ⟨_, ofPattern_eq_ok_iff.mpr ⟨_, isKnown, rfl⟩⟩
  · intro matching finding isMatching isFinding cell? passes
    obtain ⟨known, isKnown, rfl⟩ := ofPattern_eq_ok_iff.mp isMatching
    obtain ⟨other, isOther, rfl⟩ := ofPattern_eq_ok_iff.mp isFinding
    obtain rfl : known = other := Option.some.inj (isKnown.symm.trans isOther)
    obtain ⟨read, anchored, isRead, isAnchored, rfl⟩ := Pattern.read?_eq_some_iff.mp isKnown
    obtain ⟨_, isBetween⟩ := (Pattern.read?_anchor_eq_some_iff isRead).mp isAnchored
    exact test_pattern_somewhere isBetween.symm passes

/-- A comment that its line ends is no hindrance. -/
theorem ended_comment_matches_and_is_found :
    ∃ matching finding, ofPattern "c" "(?x)a#c\n|b" .whole = .ok matching ∧
      ofPattern "c" "(?x)a#c\n|b" .somewhere = .ok finding ∧
        matching.test (fun _ => some (.string "b")) = true ∧
          finding.test (fun _ => some (.string "b")) = true := by
  let regex : Regex := .alt (.seq .empty (.set (.single 'a'))) (.seq .empty (.set (.single 'b')))
  have isPattern : Regex.read? "(?x)a#c\n|b" = some regex := by rfl
  have isNone : Regex.read? ("(?x)a#c\n|b" ++ ")" ++ "") = none := by rfl
  have noComment : ¬EndsInComment "(?x)a#c\n|b" := by
    intro goesOn
    have stillRead := goesOn "" (by simp)
    rw [isNone, isPattern] at stillRead
    cases stillRead
  have accepted := patterns_that_match_are_found isPattern "c"
  have hasRoom : nesting "(?x)a#c\n|b" + 2 ≤ Pattern.Branch.maxDepth ∧
      regex.size + 2 ≤ Pattern.Branch.maxSize := by decide
  obtain ⟨matching, isMatching⟩ := (accepted.1 .whole).mpr ⟨noComment, hasRoom⟩
  obtain ⟨finding, isFinding⟩ := (accepted.1 .somewhere).mpr ⟨noComment, hasRoom⟩
  have passes : matching.test (fun _ => some (.string "b")) = true := by
    have isKnown : ofPattern "c" "(?x)a#c\n|b" .whole =
        .ok (pattern "c" ⟨"(?x)a#c\n|b", regex, regex.between⟩ .whole) := by rfl
    rw [isKnown] at isMatching
    cases isMatching
    rfl
  exact ⟨matching, finding, isMatching, isFinding, passes,
    accepted.2 matching finding isMatching isFinding _ passes⟩

/-- A comment that is open takes the bracket and the end of the text, so the group does not end. -/
theorem open_comment_is_refused :
    Regex.read? "(?x)a#c" = some (.seq .empty (.set (.single 'a'))) ∧
      ofPattern "c" "(?x)a#c" .whole = .error .pattern ∧
        ofPattern "c" "(?x)a#c" .somewhere = .error .pattern :=
  ⟨by rfl, by rfl, by rfl⟩

end Filter

end JsonTables
