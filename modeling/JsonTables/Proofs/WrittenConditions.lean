import JsonTables.Proofs.WrittenLiterals

/-!
# Conditions as they are written

A condition is written as the name of a column, a comparison and a literal, with blanks before,
between and behind them.  Where a part ends is told by the character behind it: none that a
name, a comparison or a literal begins with could go on with the part before.  So a text is a
condition in one way at most, though the reader tries the longer comparisons first.
-/

namespace JsonTables.Condition

/-! ### The grammar -/

/-- Whether a character may begin the name of a column. -/
def BeginsName (char : Char) : Prop :=
  ('A' ≤ char ∧ char ≤ 'Z') ∨ ('a' ≤ char ∧ char ≤ 'z') ∨ char = '_'

/-- What spells the name of a column: a letter, and letters or digits. -/
inductive SpellsName : List Char → Prop
  | name {first : Char} {rest : List Char} (begins : BeginsName first)
      (goesOn : ∀ char ∈ rest, BeginsName char ∨ ('0' ≤ char ∧ char ≤ '9')) :
      SpellsName (first :: rest)

/-- The signs of comparisons; equality has two. -/
inductive SpellsComparison : List Char → Comparison → Prop
  | doubleEqual : SpellsComparison ['=', '='] .equal
  | singleEqual : SpellsComparison ['='] .equal
  | notEqual : SpellsComparison ['!', '='] .notEqual
  | lessOrEqual : SpellsComparison ['<', '='] .lessOrEqual
  | greaterOrEqual : SpellsComparison ['>', '='] .greaterOrEqual
  | less : SpellsComparison ['<'] .less
  | greater : SpellsComparison ['>'] .greater

/-- The parts that a condition is written in. -/
structure Parts where
  before : List Char
  name : List Char
  afterName : List Char
  comparison : List Char
  afterComparison : List Char
  literal : List Char
  after : List Char

namespace Parts

/-- The text of the parts, one behind the other. -/
def chars (parts : Parts) : List Char :=
  parts.before ++ (parts.name ++ (parts.afterName ++ (parts.comparison ++
    (parts.afterComparison ++ (parts.literal ++ parts.after)))))

/-- Whether parts are those of a condition. -/
structure Write (parts : Parts) (condition : Condition) : Prop where
  before : ∀ char ∈ parts.before, Text.isBlank char = true
  name : SpellsName parts.name
  column : condition.column = String.ofList parts.name
  afterName : ∀ char ∈ parts.afterName, Text.isBlank char = true
  comparison : SpellsComparison parts.comparison condition.comparison
  afterComparison : ∀ char ∈ parts.afterComparison, Text.isBlank char = true
  literal : SpellsLiteral parts.literal condition.value
  oneLine : '\n' ∉ parts.literal
  trimmed : ∀ char, parts.literal.head? = some char ∨ parts.literal.getLast? = some char →
    Text.isBlank char = false
  comparable : condition.comparison.needsOrder = true → parts.literal ≠ ['n', 'u', 'l', 'l']
  after : ∀ char ∈ parts.after, Text.isBlank char = true

end Parts

/-! ### Where parts end -/

/-- Whether characters do not go on with characters of a kind. -/
def Stops (kind : Char → Bool) (chars : List Char) : Prop :=
  ∀ char, chars.head? = some char → kind char = false

section Stops

variable {kind : Char → Bool} {front rest otherFront otherRest : List Char}

theorem Stops.cons {char : Char} (other : kind char = false) : Stops kind (char :: rest) := by
  simpa [Stops] using other

theorem Stops.append (others : ∀ char ∈ front, kind char = false) (stops : Stops kind rest) :
    Stops kind (front ++ rest) := by
  cases front with
  | nil => exact stops
  | cons char front => exact .cons (others char List.mem_cons_self)

theorem takeWhile_of_stops (areKind : ∀ char ∈ front, kind char = true)
    (stops : Stops kind rest) : (front ++ rest).takeWhile kind = front := by
  rw [List.takeWhile_append_of_pos areKind]
  cases rest with
  | nil => simp
  | cons char rest => simp [stops char rfl]

theorem dropWhile_of_stops (areKind : ∀ char ∈ front, kind char = true)
    (stops : Stops kind rest) : (front ++ rest).dropWhile kind = rest := by
  rw [List.dropWhile_append_of_pos areKind]
  cases rest with
  | nil => rfl
  | cons char rest => simp [stops char rfl]

/-- What is put together from characters of a kind and others is so in one way. -/
theorem eq_of_stops (same : front ++ rest = otherFront ++ otherRest)
    (areKind : ∀ char ∈ front, kind char = true) (stops : Stops kind rest)
    (otherAreKind : ∀ char ∈ otherFront, kind char = true) (otherStops : Stops kind otherRest) :
    front = otherFront ∧ rest = otherRest := by
  constructor
  · rw [← takeWhile_of_stops areKind stops, same, takeWhile_of_stops otherAreKind otherStops]
  · rw [← dropWhile_of_stops areKind stops, same, dropWhile_of_stops otherAreKind otherStops]

end Stops

/-! ### Characters -/

theorem isNameStart_iff {char : Char} : isNameStart char = true ↔ BeginsName char := by
  simp [isNameStart, BeginsName, Char.isAlpha, Char.isUpper, Char.isLower, Char.le_def, or_assoc]

theorem isNameChar_iff {char : Char} :
    isNameChar char = true ↔ BeginsName char ∨ ('0' ≤ char ∧ char ≤ '9') := by
  simp [isNameChar, isNameStart_iff, Char.isDigit, Char.le_def]

theorem isBlank_of_isNameChar {char : Char} (isName : isNameChar char = true) :
    Text.isBlank char = false := by
  have code : 48 ≤ char.toNat ∧ char.toNat ≤ 122 := by
    rcases isNameChar_iff.mp isName with (⟨low, high⟩ | ⟨low, high⟩ | rfl) | ⟨low, high⟩
    · exact ⟨Nat.le_trans (by decide) low, Nat.le_trans high (by decide)⟩
    · exact ⟨Nat.le_trans (by decide) low, high⟩
    · decide
    · exact ⟨low, Nat.le_trans high (by decide)⟩
  exact Text.isBlank_of_visible (by omega) (by omega)

theorem of_isComparisonChar {char : Char} (isComparison : isComparisonChar char = true) :
    Text.isBlank char = false ∧ isNameChar char = false := by
  simp only [isComparisonChar, Bool.or_eq_true, beq_iff_eq, or_assoc] at isComparison
  rcases isComparison with rfl | rfl | rfl | rfl <;> decide

theorem of_isBlank {char : Char} (isBlank : Text.isBlank char = true) :
    isNameChar char = false ∧ isComparisonChar char = false := by
  constructor
  · by_contra isName
    simp [isBlank_of_isNameChar (by simpa using isName)] at isBlank
  · by_contra isComparison
    simp [of_isComparisonChar (by simpa using isComparison)] at isBlank

theorem SpellsComparison.areComparisonChars {chars : List Char} {comparison : Comparison}
    (spells : SpellsComparison chars comparison) :
    chars ≠ [] ∧ ∀ char ∈ chars, isComparisonChar char = true := by
  cases spells <;> simp [isComparisonChar]

theorem SpellsComparison.unique {chars : List Char} {comparison other : Comparison}
    (spells : SpellsComparison chars comparison) (spellsOther : SpellsComparison chars other) :
    other = comparison := by
  cases spells <;> cases spellsOther <;> rfl

theorem SpellsName.areNameChars {chars : List Char} (spells : SpellsName chars) :
    chars ≠ [] ∧ ∀ char ∈ chars, isNameChar char = true := by
  cases spells with
  | name begins goesOn =>
      refine ⟨List.cons_ne_nil _ _, ?_⟩
      rw [List.forall_mem_cons]
      exact ⟨isNameChar_iff.mpr (.inl begins), fun char charMem =>
        isNameChar_iff.mpr (goesOn char charMem)⟩

/-- A comparison begins with no blank and with no character of a name. -/
theorem SpellsComparison.stops {chars : List Char} {comparison : Comparison}
    (spells : SpellsComparison chars comparison) (rest : List Char) :
    Stops Text.isBlank (chars ++ rest) ∧ Stops isNameChar (chars ++ rest) := by
  rcases spells.areComparisonChars with ⟨nonempty, areComparison⟩
  rcases List.exists_cons_of_ne_nil nonempty with ⟨first, others, rfl⟩
  have isOther := of_isComparisonChar (areComparison first List.mem_cons_self)
  exact ⟨.cons isOther.1, .cons isOther.2⟩

namespace Parts.Write

variable {parts other : Parts} {condition otherCondition : Condition}

theorem stops_name (write : parts.Write condition) (rest : List Char) :
    Stops Text.isBlank (parts.name ++ rest) := by
  rcases write.name.areNameChars with ⟨nonempty, areName⟩
  rcases List.exists_cons_of_ne_nil nonempty with ⟨first, others, isName⟩
  rw [isName] at areName ⊢
  exact .cons (isBlank_of_isNameChar (areName first List.mem_cons_self))

theorem stops_afterName (write : parts.Write condition) (rest : List Char) :
    Stops isNameChar (parts.afterName ++ (parts.comparison ++ rest)) :=
  .append (fun char charMem => (of_isBlank (write.afterName char charMem)).1)
    (write.comparison.stops rest).2

theorem stops_literal (write : parts.Write condition) (rest : List Char) :
    Stops Text.isBlank (parts.literal ++ rest) ∧
      Stops isComparisonChar (parts.literal ++ rest) := by
  rcases write.literal.ends.1 with ⟨first, others, isLiteral, notBlank, notComparison⟩
  rw [isLiteral]
  exact ⟨.cons notBlank, .cons notComparison⟩

theorem stops_afterComparison (write : parts.Write condition) :
    Stops isComparisonChar (parts.afterComparison ++ (parts.literal ++ parts.after)) :=
  .append (fun char charMem => (of_isBlank (write.afterComparison char charMem)).2)
    (write.stops_literal parts.after).2

theorem stops_literal_reverse (write : parts.Write condition) :
    Stops Text.isBlank parts.literal.reverse := by
  rcases write.literal.ends.2 with ⟨front, last, isLiteral, notBlank⟩
  rw [isLiteral, List.reverse_concat]
  exact .cons notBlank

theorem areBlank_after_reverse (write : parts.Write condition) :
    ∀ char ∈ parts.after.reverse, Text.isBlank char = true := by
  intro char charMem
  exact write.after char (List.mem_reverse.mp charMem)

/-- Characters are a condition in one way at most. -/
theorem unique (write : parts.Write condition) (otherWrite : other.Write otherCondition)
    (same : parts.chars = other.chars) : parts = other ∧ condition = otherCondition := by
  simp only [chars] at same
  rcases eq_of_stops same write.before (write.stops_name _) otherWrite.before
    (otherWrite.stops_name _) with ⟨sameBefore, same⟩
  rcases eq_of_stops same write.name.areNameChars.2 (write.stops_afterName _)
    otherWrite.name.areNameChars.2 (otherWrite.stops_afterName _) with ⟨sameName, same⟩
  rcases eq_of_stops same write.afterName (write.comparison.stops _).1 otherWrite.afterName
    (otherWrite.comparison.stops _).1 with ⟨sameAfterName, same⟩
  rcases eq_of_stops same write.comparison.areComparisonChars.2 write.stops_afterComparison
    otherWrite.comparison.areComparisonChars.2 otherWrite.stops_afterComparison with
    ⟨sameComparison, same⟩
  rcases eq_of_stops same write.afterComparison (write.stops_literal _).1
    otherWrite.afterComparison (otherWrite.stops_literal _).1 with ⟨sameAfterComparison, same⟩
  -- the blanks at the end are told from the literal in front of them, so from behind
  have reversed := congrArg List.reverse same
  rw [List.reverse_append, List.reverse_append] at reversed
  rcases eq_of_stops reversed write.areBlank_after_reverse write.stops_literal_reverse
    otherWrite.areBlank_after_reverse otherWrite.stops_literal_reverse with
    ⟨sameAfter, sameLiteral⟩
  rw [List.reverse_inj] at sameAfter sameLiteral
  obtain rfl : parts = other := by
    cases parts
    cases other
    simp_all
  refine ⟨rfl, ?_⟩
  have sameValue := write.literal.unique otherWrite.literal
  have sameSpelling := write.comparison.unique otherWrite.comparison
  have sameColumn := write.column.trans otherWrite.column.symm
  cases condition
  cases otherCondition
  simp_all

end Parts.Write

/-! ### Reading what is written -/

/-- What is between blanks is left when they are trimmed, if it has none at its ends. -/
theorem trim_of_stops {before body after : List Char}
    (beforeBlank : ∀ char ∈ before, Text.isBlank char = true)
    (begins : Stops Text.isBlank (body ++ after)) (ends : Stops Text.isBlank body.reverse)
    (afterBlank : ∀ char ∈ after.reverse, Text.isBlank char = true) :
    Text.trim (before ++ (body ++ after)) = body := by
  rw [Text.trim, Text.trimStart, dropWhile_of_stops beforeBlank begins, Text.trimEnd,
    List.reverse_append, dropWhile_of_stops afterBlank ends, List.reverse_reverse]

theorem comparisonOf?_of_spells {chars rest literal : List Char} {comparison : Comparison}
    (spells : SpellsComparison chars comparison) (stops : Stops isComparisonChar rest)
    (isLiteral : literalOf? rest = some literal) :
    comparisonOf? (chars ++ rest) = some (comparison, literal) := by
  have noEqual : ¬['='] <+: rest := by
    rintro ⟨others, rfl⟩
    exact absurd (stops '=' rfl) (by decide)
  have longer : "==".length = 2 ∧ "!=".length = 2 ∧ "<=".length = 2 ∧ ">=".length = 2 := by decide
  have shorter : "=".length = 1 ∧ "<".length = 1 ∧ ">".length = 1 := by decide
  cases spells <;> simp [comparisonOf?, spellings, noEqual, longer, shorter, isLiteral]

theorem parts?_of_name {before name rest : List Char}
    (beforeBlank : ∀ char ∈ before, Text.isBlank char = true) (spells : SpellsName name)
    (stops : Stops isNameChar rest) :
    parts? (before ++ (name ++ rest)) =
      (comparisonOf? (Text.trimStart rest)).map fun found => (name, found) := by
  have areName := spells.areNameChars.2
  cases spells with
  | @name first others begins _ =>
      rw [List.forall_mem_cons] at areName
      have isStart : Text.trimStart (before ++ (first :: others ++ rest)) =
          first :: (others ++ rest) :=
        dropWhile_of_stops beforeBlank (.cons (isBlank_of_isNameChar areName.1))
      simp only [parts?, isStart, isNameStart_iff.mpr begins, if_true,
        takeWhile_of_stops areName.2 stops, dropWhile_of_stops areName.2 stops]

namespace Parts.Write

variable {parts : Parts} {condition : Condition}

theorem literalOf?_eq (write : parts.Write condition) :
    literalOf? (parts.afterComparison ++ (parts.literal ++ parts.after)) =
      some parts.literal := by
  have isTrimmed := trim_of_stops write.afterComparison (write.stops_literal parts.after).1
    write.stops_literal_reverse write.areBlank_after_reverse
  have oneLine : parts.literal.contains '\n' = false := by
    simpa using write.oneLine
  rcases write.literal.ends.1 with ⟨first, rest, isLiteral, -⟩
  rw [isLiteral] at isTrimmed oneLine ⊢
  simp only [literalOf?, isTrimmed, oneLine, Bool.false_eq_true, if_false]

theorem parts?_eq (write : parts.Write condition) :
    parts? parts.chars = some (parts.name, condition.comparison, parts.literal) := by
  have isFound := comparisonOf?_of_spells write.comparison write.stops_afterComparison
    write.literalOf?_eq
  have isComparison := dropWhile_of_stops write.afterName (write.comparison.stops
    (parts.afterComparison ++ (parts.literal ++ parts.after))).1
  rw [Parts.chars, parts?_of_name write.before write.name (write.stops_afterName _),
    Text.trimStart, isComparison, isFound, Option.map_some]

theorem read_eq (write : parts.Write condition) {text : String}
    (isText : parts.chars = text.toList) : read text = .ok condition := by
  have allowed : (condition.comparison.needsOrder &&
      parts.literal == "null".toList) = false := by
    cases needsOrder : condition.comparison.needsOrder with
    | false => rfl
    | true => simpa using write.comparable needsOrder
  simp only [read, ← isText, write.parts?_eq, allowed, readLiteral_eq_ok_iff.mpr write.literal,
    ← write.column]
  rfl

end Parts.Write

/-! ### What is read -/

theorem exists_blanks_trim (chars : List Char) :
    ∃ before after, chars = before ++ (Text.trim chars ++ after) ∧
      (∀ char ∈ before, Text.isBlank char = true) ∧ ∀ char ∈ after, Text.isBlank char = true := by
  refine ⟨chars.takeWhile Text.isBlank,
    ((Text.trimStart chars).reverse.takeWhile Text.isBlank).reverse, ?_,
    fun _ => List.mem_takeWhile_imp, ?_⟩
  · rw [Text.trim, Text.trimEnd, ← List.reverse_append, List.takeWhile_append_dropWhile,
      List.reverse_reverse, Text.trimStart, List.takeWhile_append_dropWhile]
  · intro char charMem
    exact List.mem_takeWhile_imp (List.mem_reverse.mp charMem)

/-- A literal that is found is what is left between blanks. -/
theorem exists_blanks_of_literalOf? {chars literal : List Char} {value : Cell}
    (isFound : literalOf? chars = some literal) (spells : SpellsLiteral literal value) :
    ∃ before after, chars = before ++ (literal ++ after) ∧ '\n' ∉ literal ∧
      (∀ char ∈ before, Text.isBlank char = true) ∧ ∀ char ∈ after, Text.isBlank char = true := by
  rcases exists_blanks_trim chars with ⟨before, after, isSplit, beforeBlank, afterBlank⟩
  unfold literalOf? at isFound
  split at isFound
  · -- one of the blanks would be the literal
    rename_i isEmpty
    rw [isEmpty, List.nil_append] at isSplit
    rcases Option.map_eq_some_iff.mp isFound with ⟨char, isChar, rfl⟩
    have charMem : char ∈ before ++ after := by
      rw [← isSplit, ← List.mem_reverse]
      exact List.mem_of_find?_eq_some isChar
    rcases spells.ends.1 with ⟨first, rest, same, notBlank, -⟩
    cases same
    rcases List.mem_append.mp charMem with isBefore | isAfter
    · simp [beforeBlank char isBefore] at notBlank
    · simp [afterBlank char isAfter] at notBlank
  · rename_i notEmpty
    rw [Option.ite_none_left_eq_some] at isFound
    rcases isFound with ⟨oneLine, same⟩
    cases same
    exact ⟨before, after, isSplit, by simpa using oneLine, beforeBlank, afterBlank⟩

theorem exists_spelling_of_comparisonOf? {chars literal : List Char} {comparison : Comparison}
    (isFound : comparisonOf? chars = some (comparison, literal)) :
    ∃ spelling rest, chars = spelling ++ rest ∧ SpellsComparison spelling comparison ∧
      literalOf? rest = some literal := by
  have areSpellings : ∀ entry ∈ spellings, SpellsComparison entry.1.toList entry.2 := by
    simp only [spellings, List.forall_mem_cons, List.not_mem_nil, false_implies, implies_true,
      and_true]
    exact ⟨.doubleEqual, .notEqual, .lessOrEqual, .greaterOrEqual, .singleEqual, .less, .greater⟩
  rcases List.exists_of_findSome?_eq_some isFound with ⟨⟨spelling, known⟩, entryMem, isFound⟩
  rw [Option.ite_none_right_eq_some] at isFound
  rcases isFound with ⟨isPrefix, isFound⟩
  rcases List.isPrefixOf_iff_prefix.mp isPrefix with ⟨rest, rfl⟩
  rcases Option.map_eq_some_iff.mp isFound with ⟨other, isLiteral, same⟩
  cases same
  rw [← String.length_toList, List.drop_left] at isLiteral
  exact ⟨_, rest, rfl, areSpellings _ entryMem, isLiteral⟩

/-- Where a name, a comparison and a literal are found, all of the characters are theirs but for
blanks. -/
theorem exists_parts_of_parts? {chars name literal : List Char} {comparison : Comparison}
    {value : Cell} (areFound : parts? chars = some (name, comparison, literal))
    (spells : SpellsLiteral literal value)
    (comparable : comparison.needsOrder = true → literal ≠ ['n', 'u', 'l', 'l']) :
    ∃ parts : Parts, parts.chars = chars ∧ parts.Write ⟨String.ofList name, comparison, value⟩ := by
  have isSplit := List.takeWhile_append_dropWhile (p := Text.isBlank) (l := chars)
  unfold parts? at areFound
  split at areFound
  · cases areFound
  · rename_i first rest isStart
    rw [Text.trimStart] at isStart
    split at areFound
    · rename_i begins
      rcases Option.map_eq_some_iff.mp areFound with ⟨⟨found, other⟩, isFound, same⟩
      cases same
      rcases exists_spelling_of_comparisonOf? isFound with
        ⟨spelling, behind, isBehind, spelled, isLiteral⟩
      rcases exists_blanks_of_literalOf? isLiteral spells with
        ⟨afterComparison, after, rfl, oneLine, comparisonBlank, afterBlank⟩
      refine ⟨⟨chars.takeWhile Text.isBlank, first :: rest.takeWhile isNameChar,
        (rest.dropWhile isNameChar).takeWhile Text.isBlank, spelling, afterComparison, literal,
        after⟩, ?_, ?_⟩
      · rw [Parts.chars, ← isBehind, Text.trimStart, List.takeWhile_append_dropWhile,
          List.cons_append, List.takeWhile_append_dropWhile, ← isStart, isSplit]
      · refine ⟨fun _ => List.mem_takeWhile_imp, ?_, rfl, fun _ => List.mem_takeWhile_imp,
          spelled, comparisonBlank, spells, oneLine, ?_, comparable, afterBlank⟩
        · refine .name (isNameStart_iff.mp begins) ?_
          intro char charMem
          exact isNameChar_iff.mp (List.mem_takeWhile_imp charMem)
        · rcases spells.ends with ⟨⟨_, _, isFirst, notBlank, -⟩, _, _, isLast, lastNotBlank⟩
          rintro char (isHead | isEnd)
          · simp only [isFirst, List.head?_cons, Option.some.injEq] at isHead
            rwa [← isHead]
          · rw [isLast, List.getLast?_concat, Option.some.injEq] at isEnd
            rwa [← isEnd]
    · cases areFound

/-- A text is read as a condition just if it is written in parts of it. -/
theorem read_eq_ok_iff {text : String} {condition : Condition} :
    read text = .ok condition ↔
      ∃ parts : Parts, parts.chars = text.toList ∧ parts.Write condition := by
  constructor
  · intro isRead
    unfold read at isRead
    split at isRead
    · cases isRead
    · rename_i name comparison literal areFound
      split at isRead
      · cases isRead
      · rename_i allowed
        rcases Except.bind_eq_ok_iff.mp isRead with ⟨value, isValue, same⟩
        cases same
        apply exists_parts_of_parts? areFound (readLiteral_eq_ok_iff.mp isValue)
        rintro needsOrder rfl
        simp [needsOrder] at allowed
  · rintro ⟨parts, isText, write⟩
    exact write.read_eq isText

/-- A text is a condition just if it is written in the parts of one: a name, a comparison and a
literal, with blanks before, between and behind them.  It is so in one way at most, and then it
is read as the condition of those parts. -/
theorem conditions_are_read_as_written (text : String) :
    (∀ conditions, readEach [text] = .ok conditions ↔
      ∃ (parts : Parts) (condition : Condition),
        parts.chars = text.toList ∧ parts.Write condition ∧ conditions = [condition]) ∧
    ∀ (parts other : Parts) (condition otherCondition : Condition),
      parts.chars = text.toList → parts.Write condition →
      other.chars = text.toList → other.Write otherCondition →
        parts = other ∧ condition = otherCondition := by
  constructor
  · intro conditions
    simp only [readEach, Except.mapError_eq_ok_iff, List.mapM_cons, List.mapM_nil,
      Except.bind_eq_ok_iff, Except.pure_eq_ok_iff, read_eq_ok_iff]
    constructor
    · rintro ⟨condition, ⟨parts, isText, write⟩, _, rfl, rfl⟩
      exact ⟨parts, condition, isText, write, rfl⟩
    · rintro ⟨parts, condition, isText, write, rfl⟩
      exact ⟨condition, ⟨parts, isText, write⟩, [], rfl, rfl⟩
  · intro parts other condition otherCondition isText write otherIsText otherWrite
    exact write.unique otherWrite (isText.trans otherIsText.symm)

/-- An integer that no long holds, with a sign, behind a comparison of two characters. -/
theorem large_integer_is_read_as_written :
    let text := " n>= +9223372036854775808\t"
    let condition : Condition := ⟨"n", .greaterOrEqual, .bigInteger 9223372036854775808⟩
    let parts : Parts :=
      ⟨[' '], ['n'], [], ['>', '='], [' '], "+9223372036854775808".toList, ['\t']⟩
    parts.chars = text.toList ∧ parts.Write condition ∧ readEach [text] = .ok [condition] ∧
      ∀ (other : Parts) (otherCondition : Condition), other.chars = text.toList →
        other.Write otherCondition → parts = other ∧ condition = otherCondition := by
  intro text condition parts
  have isText : parts.chars = text.toList := by decide
  have spells : Number.Spells "+9223372036854775808".toList 9223372036854775808 :=
    .plus (by decide) rfl
  have write : parts.Write condition :=
    { before := List.forall_mem_singleton.mpr rfl
      name := .name (.inr (.inl (by decide))) (List.forall_mem_nil _)
      column := rfl
      afterName := List.forall_mem_nil _
      comparison := .greaterOrEqual
      afterComparison := List.forall_mem_singleton.mpr rfl
      literal := .bigInteger spells (by decide)
      oneLine := by decide
      trimmed := by
        rintro char (isFirst | isLast)
        · cases isFirst
          rfl
        · cases isLast
          rfl
      comparable := by decide
      after := List.forall_mem_singleton.mpr rfl }
  have asWritten := conditions_are_read_as_written text
  refine ⟨isText, write, (asWritten.1 [condition]).mpr ⟨parts, condition, isText, write, rfl⟩, ?_⟩
  intro other otherCondition otherIsText otherWrite
  exact asWritten.2 parts other condition otherCondition isText write otherIsText otherWrite

end JsonTables.Condition
