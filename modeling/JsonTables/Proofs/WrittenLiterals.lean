import JsonTables.Condition.Reader
import JsonTables.Proofs.SpelledValues
import JsonTables.Proofs.TruncatedNumbers

/-!
# Literals of conditions

A literal is a text between quotes, one of three words or a number.  Its grammar is said here
apart from its reader, which takes the quotes first and the words after them.  What begins
with a quote may still be no literal, and digits with a point or an exponent are a double even
where they stand for an integer.
-/

namespace JsonTables

namespace Number

theorem digits?_eq_some_iff {chars : List Char} {number : Nat} :
    digits? chars = some number ↔ chars ≠ [] ∧ digitsFrom 0 chars = some number := by
  unfold digits?
  cases chars <;> simp

/-- A number has a sign or none, and digits. -/
theorem Spells.exists_signs {chars : List Char} {value : Int} (spells : Spells chars value) :
    ∃ sign digits negative number, chars = sign ++ digits ∧ Numeral.Signs sign negative ∧
      digits ≠ [] ∧ digitsFrom 0 digits = some number ∧
        value = if negative then -(number : Int) else number := by
  cases spells with
  | plain nonempty isNumber => exact ⟨[], _, _, _, rfl, .nothing, nonempty, isNumber, rfl⟩
  | plus nonempty isNumber => exact ⟨['+'], _, _, _, rfl, .plus, nonempty, isNumber, rfl⟩
  | minus nonempty isNumber => exact ⟨['-'], _, _, _, rfl, .minus, nonempty, isNumber, rfl⟩

theorem Spells.ne_nil {chars : List Char} {value : Int} (spells : Spells chars value) :
    chars ≠ [] := by
  cases spells with
  | plain nonempty => exact nonempty
  | plus => simp
  | minus => simp

namespace Numeral

variable {chars : List Char} {negative : Bool} {numeral : Numeral}

/-! ### Numerals that are read -/

theorem spells_of_readExponent? {exponent : Int} (isRead : readExponent? chars = some exponent) :
    Spells chars exponent := by
  unfold readExponent? at isRead
  split at isRead
  · rcases Option.map_eq_some_iff.mp isRead with ⟨number, isNumber, rfl⟩
    rcases digits?_eq_some_iff.mp isNumber with ⟨nonempty, isNumber⟩
    exact .plus nonempty isNumber
  · rcases Option.map_eq_some_iff.mp isRead with ⟨value, isValue, rfl⟩
    rcases Option.bind_eq_some_iff.mp isValue with ⟨number, isNumber, isSame⟩
    cases isSame
    rcases digits?_eq_some_iff.mp isNumber with ⟨nonempty, isNumber⟩
    exact .minus nonempty isNumber
  · rcases Option.map_eq_some_iff.mp isRead with ⟨number, isNumber, rfl⟩
    rcases digits?_eq_some_iff.mp isNumber with ⟨nonempty, isNumber⟩
    exact .plain nonempty isNumber

theorem magnitude_of_readDigits? {base tail : List Char} {exponent : Int}
    (isRead : readDigits? base = some numeral) (raises : Raises tail exponent) :
    Magnitude (base ++ tail) ⟨numeral.digits, numeral.exponent + exponent⟩ := by
  have split := List.takeWhile_append_dropWhile (p := (· != '.')) (l := base)
  have isPoint := List.head?_dropWhile_not (· != '.') base
  simp only [readDigits?] at isRead
  generalize base.takeWhile (· != '.') = whole at isRead split
  generalize base.dropWhile (· != '.') = rest at isRead split isPoint
  rcases Option.map_eq_some_iff.mp isRead with ⟨value, isNumber, rfl⟩
  rcases digits?_eq_some_iff.mp isNumber with ⟨nonempty, isNumber⟩
  subst split
  cases rest with
  | nil =>
      simp only [List.drop_nil, List.append_nil] at nonempty isNumber
      simpa using Magnitude.whole nonempty isNumber raises
  | cons point fraction =>
      obtain rfl : point = '.' := by simpa using isPoint
      have pointed := Magnitude.pointed whole fraction nonempty isNumber raises
      have sameExponent : exponent - fraction.length = -(fraction.length : Int) + exponent := by
        omega
      rwa [sameExponent] at pointed

/-- A numeral is read from what stands for it and from nothing else. -/
theorem read?_eq_some_iff : read? chars = some numeral ↔ Magnitude chars numeral := by
  refine ⟨?_, read?_of_magnitude⟩
  intro isRead
  have split := List.takeWhile_append_dropWhile (p := (!isMark ·)) (l := chars)
  have isMarked := List.head?_dropWhile_not (!isMark ·) chars
  simp only [read?, Option.bind_eq_bind, Option.bind_eq_some_iff] at isRead
  rcases isRead with ⟨known, knownRead, isRead⟩
  generalize chars.takeWhile (!isMark ·) = base at knownRead split
  generalize chars.dropWhile (!isMark ·) = tail at isRead split isMarked
  subst split
  cases tail with
  | nil =>
      cases isRead
      simpa using magnitude_of_readDigits? knownRead .nothing
  | cons mark rest =>
      simp only [Option.bind_eq_some_iff] at isRead
      rcases isRead with ⟨exponent, exponentRead, same⟩
      cases same
      have marks : isMark mark = true := by simpa using isMarked
      exact magnitude_of_readDigits? knownRead
        (.mark marks (spells_of_readExponent? exponentRead))

/-- Whether a numeral has a point or an exponent. -/
def IsDecimal (chars : List Char) : Prop :=
  ∃ char ∈ chars, char = '.' ∨ isMark char = true

/-- What stands for a numeral is not digits alone just if it has a point or an exponent. -/
theorem Magnitude.digits?_eq_none_iff (magnitude : Magnitude chars numeral) :
    digits? chars = none ↔ IsDecimal chars := by
  constructor
  · intro notDigits
    cases magnitude with
    | whole nonempty isNumber raises =>
        cases raises with
        | nothing => simp [digits?_eq_some nonempty isNumber] at notDigits
        | mark marks spells => exact ⟨_, by simp, .inr marks⟩
    | pointed => exact ⟨'.', by simp, .inl rfl⟩
  · rintro ⟨char, charMem, isDecimal⟩
    by_contra areDigits
    rcases Option.ne_none_iff_exists'.mp areDigits with ⟨number, isNumber⟩
    have areDigits := areDigits_of_digitsFrom (digits?_eq_some_iff.mp isNumber).2
    rcases isDecimal with rfl | marks
    · exact absurd (areDigits '.' charMem) (by decide)
    · have noMark := noMark_of_areDigits areDigits char charMem
      simp [marks] at noMark

/-! ### The characters of numerals -/

/-- Whether a character may be in a numeral. -/
def IsNumeralChar (char : Char) : Prop :=
  ('0' ≤ char ∧ char ≤ '9') ∨ char ∈ ['+', '-', '.', 'e', 'E']

instance (char : Char) : Decidable (IsNumeralChar char) :=
  inferInstanceAs (Decidable (_ ∨ _))

theorem isNumeralChar_of_spells {value : Int} (spells : Spells chars value) :
    ∀ char ∈ chars, IsNumeralChar char := by
  rcases spells.exists_signs with ⟨sign, digits, negative, number, rfl, signs, -, isNumber, -⟩
  intro char charMem
  rcases List.mem_append.mp charMem with isSign | isDigit
  · right
    cases signs <;> simp_all
  · exact .inl (areDigits_of_digitsFrom isNumber char isDigit)

theorem Raises.isNumeralChar {tail : List Char} {exponent : Int} (raises : Raises tail exponent) :
    ∀ char ∈ tail, IsNumeralChar char := by
  cases raises with
  | nothing => simp
  | mark marks spells =>
      intro char charMem
      rcases List.mem_cons.mp charMem with rfl | inRest
      · right
        simp only [isMark, Bool.or_eq_true, beq_iff_eq] at marks
        rcases marks with rfl | rfl <;> simp
      · exact isNumeralChar_of_spells spells char inRest

theorem Magnitude.isNumeralChar (magnitude : Magnitude chars numeral) :
    ∀ char ∈ chars, IsNumeralChar char := by
  intro char charMem
  cases magnitude with
  | whole nonempty isNumber raises =>
      rcases List.mem_append.mp charMem with isDigit | inTail
      · exact .inl (areDigits_of_digitsFrom isNumber char isDigit)
      · exact raises.isNumeralChar char inTail
  | pointed before after nonempty isNumber raises =>
      have areDigits := areDigits_of_digitsFrom isNumber
      simp only [List.mem_append, List.mem_cons] at charMem
      rcases charMem with (isBefore | rfl | isAfter) | inTail
      · exact .inl (areDigits char (List.mem_append_left after isBefore))
      · exact .inr (by simp)
      · exact .inl (areDigits char (List.mem_append_right before isAfter))
      · exact raises.isNumeralChar char inTail

theorem Writes.isNumeralChar (writes : Writes chars negative numeral) :
    ∀ char ∈ chars, IsNumeralChar char := by
  rcases writes.exists_signs with ⟨sign, rest, rfl, signs, magnitude⟩
  intro char charMem
  rcases List.mem_append.mp charMem with isSign | inRest
  · right
    cases signs <;> simp_all
  · exact magnitude.isNumeralChar char inRest

theorem Writes.ne_nil (writes : Writes chars negative numeral) : chars ≠ [] := by
  rcases writes.exists_signs with ⟨sign, rest, rfl, signs, magnitude⟩
  rcases magnitude.noSign with ⟨char, others, rfl, -⟩
  simp

end Numeral

end Number

namespace JsonText

/-- A text between quotes is read whole just if what is behind the first quote spells it. -/
theorem readAll_string_eq_ok_iff {wanted text : String} (inner : List Char) :
    readAll (string wanted) (bytesOf (String.ofList ('"' :: (inner ++ ['"'])))) = .ok text ↔
      SpellsText text (bytesOf (String.ofList (inner ++ ['"']))) := by
  have isQuoted : bytesOf (String.ofList ('"' :: (inner ++ ['"']))) =
      0x22 :: bytesOf (String.ofList (inner ++ ['"'])) := by
    rw [bytesOf_ofList, bytesOf_ofList]
    rfl
  have isClosed : (bytesOf (String.ofList (inner ++ ['"']))).getLast? = some 0x22 := by
    rw [bytesOf_ofList, List.flatMap_append, List.flatMap_singleton]
    exact List.getLast?_concat
  rw [isQuoted]
  generalize bytesOf (String.ofList (inner ++ ['"'])) = bytes at isClosed
  have isBody : string wanted (0x22 :: bytes) = stringBody bytes := by
    rw [string, skipBlanks_cons (by decide)]
    rfl
  simp only [readAll_eq_ok_iff, isBody, stringBody_eq_ok_iff_spells]
  constructor
  · rintro ⟨rest, ⟨front, spells, rfl⟩, restBlank⟩
    -- the last byte is a quote, so no blanks are left behind the text
    rcases List.eq_nil_or_concat rest with rfl | ⟨before, last, rfl⟩
    · rwa [List.append_nil]
    · obtain rfl : last = 0x22 := by simpa using isClosed
      have isBlank := List.dropWhile_eq_nil_iff.mp restBlank 0x22 (by simp)
      exact absurd isBlank (by decide)
  · intro spells
    exact ⟨[], ⟨bytes, spells, by simp⟩, rfl⟩

end JsonText

namespace Condition

open Number (Numeral Spells int64)
open Number.Numeral (IsDecimal Signs Writes)

/-- What spells a literal. -/
inductive SpellsLiteral : List Char → Cell → Prop
  | quoted {inner : List Char} {text : String}
      (spells : JsonText.SpellsText text
        (JsonText.bytesOf (String.ofList (inner ++ ['"'])))) :
      SpellsLiteral ('"' :: (inner ++ ['"'])) (.string text)
  | plain (inner : List Char) :
      SpellsLiteral ('\'' :: (inner ++ ['\''])) (.string (String.ofList inner))
  | wordTrue : SpellsLiteral ['t', 'r', 'u', 'e'] (.boolean true)
  | wordFalse : SpellsLiteral ['f', 'a', 'l', 's', 'e'] (.boolean false)
  | wordNull : SpellsLiteral ['n', 'u', 'l', 'l'] .null
  | long {chars : List Char} {value : Int} (spells : Spells chars value)
      (fits : -2 ^ 63 ≤ value ∧ value < 2 ^ 63) : SpellsLiteral chars (.long value)
  | bigInteger {chars : List Char} {value : Int} (spells : Spells chars value)
      (exceeds : ¬(-2 ^ 63 ≤ value ∧ value < 2 ^ 63)) : SpellsLiteral chars (.bigInteger value)
  | double {chars : List Char} {negative : Bool} {numeral : Numeral}
      (writes : Writes chars negative numeral) (isDecimal : IsDecimal chars) :
      SpellsLiteral chars (.double (numeral.toBinary negative))

variable {chars : List Char} {cell : Cell}

/-! ### Numbers -/

theorem splitSign_append {sign body : List Char} {negative : Bool} (signs : Signs sign negative)
    (noSign : ∃ char rest, body = char :: rest ∧ char ≠ '+' ∧ char ≠ '-') :
    splitSign (sign ++ body) = (negative, body) := by
  cases signs with
  | plus => rfl
  | minus => rfl
  | nothing =>
      rcases noSign with ⟨char, rest, rfl, notPlus, notMinus⟩
      rw [List.nil_append]
      unfold splitSign
      split <;> simp_all

theorem exists_signs_of_splitSign (chars : List Char) :
    ∃ sign, chars = sign ++ (splitSign chars).2 ∧ Signs sign (splitSign chars).1 := by
  unfold splitSign
  split
  · exact ⟨['+'], rfl, .plus⟩
  · exact ⟨['-'], rfl, .minus⟩
  · exact ⟨[], rfl, .nothing⟩

theorem integerCell_eq (value : Int) :
    integerCell value =
      if -2 ^ 63 ≤ value ∧ value < 2 ^ 63 then .long value else .bigInteger value := by
  have inside : int64.contains value = true ↔ -2 ^ 63 ≤ value ∧ value < 2 ^ 63 :=
    Number.Bounds.contains_signed_iff
  simp only [integerCell, inside]

theorem spellsLiteral_integerCell {value : Int} (spells : Spells chars value) :
    SpellsLiteral chars (integerCell value) := by
  rw [integerCell_eq]
  by_cases fits : -2 ^ 63 ≤ value ∧ value < 2 ^ 63
  · rw [if_pos fits]
    exact .long spells fits
  · rw [if_neg fits]
    exact .bigInteger spells fits

/-- The cell of a number is one that its characters spell. -/
theorem spells_of_numberCell? (isNumber : numberCell? chars = some cell) :
    SpellsLiteral chars cell := by
  rcases exists_signs_of_splitSign chars with ⟨sign, isSplit, signs⟩
  simp only [numberCell?] at isNumber
  generalize (splitSign chars).1 = negative at isNumber signs
  generalize (splitSign chars).2 = body at isNumber isSplit
  subst isSplit
  cases isDigits : Number.digits? body with
  | some number =>
      rcases Number.digits?_eq_some_iff.mp isDigits with ⟨nonempty, isValue⟩
      simp only [isDigits, Option.some.injEq] at isNumber
      subst isNumber
      exact spellsLiteral_integerCell (signs.spells nonempty isValue)
  | none =>
      simp only [isDigits, Option.map_eq_some_iff] at isNumber
      rcases isNumber with ⟨numeral, isRead, rfl⟩
      have magnitude := Numeral.read?_eq_some_iff.mp isRead
      rcases magnitude.digits?_eq_none_iff.mp isDigits with ⟨char, charMem, isMark⟩
      refine .double ?_ ⟨char, List.mem_append_right sign charMem, isMark⟩
      cases signs with
      | nothing => exact .plain magnitude
      | plus => exact .plus magnitude
      | minus => exact .minus magnitude

theorem numberCell?_of_spells {value : Int} (spells : Spells chars value) :
    numberCell? chars = some (integerCell value) := by
  rcases spells.exists_signs with ⟨sign, digits, negative, number, rfl, signs, nonempty,
    isNumber, rfl⟩
  have magnitude : Numeral.Magnitude (digits ++ []) ⟨number, 0⟩ := .whole nonempty isNumber .nothing
  rw [List.append_nil] at magnitude
  simp only [numberCell?, splitSign_append signs magnitude.noSign,
    Numeral.digits?_eq_some nonempty isNumber]

theorem numberCell?_of_writes {negative : Bool} {numeral : Numeral}
    (writes : Writes chars negative numeral) (isDecimal : IsDecimal chars) :
    numberCell? chars = some (.double (numeral.toBinary negative)) := by
  rcases writes.exists_signs with ⟨sign, body, rfl, signs, magnitude⟩
  have noDigits : Number.digits? body = none := by
    apply magnitude.digits?_eq_none_iff.mpr
    rcases isDecimal with ⟨char, charMem, isMark⟩
    rcases List.mem_append.mp charMem with isSign | inBody
    · cases signs <;> simp_all [Numeral.isMark]
    · exact ⟨char, inBody, isMark⟩
  simp only [numberCell?, splitSign_append signs magnitude.noSign, noDigits,
    Numeral.read?_of_magnitude magnitude, Option.map_some]

/-! ### Literals -/

theorem unquote?_eq_some_iff {quote : Char} {inner : List Char} :
    unquote? quote chars = some inner ↔ chars = quote :: (inner ++ [quote]) := by
  unfold unquote?
  split
  · rename_i first second rest
    simp only [Option.ite_none_right_eq_some, Bool.and_eq_true, beq_iff_eq, Option.some.injEq,
      List.cons.injEq, and_assoc]
    apply and_congr_right
    intro _
    rw [List.getLast?_eq_some_iff]
    constructor
    · rintro ⟨⟨front, isFront⟩, isInner⟩
      rw [isFront, List.dropLast_concat] at isInner
      rw [isFront, isInner]
    · intro isInner
      rw [isInner]
      exact ⟨⟨inner, rfl⟩, List.dropLast_concat⟩
  · rename_i notTwo
    simp only [reduceCtorEq, false_iff]
    rintro rfl
    cases inner <;> exact notTwo _ _ _ rfl

/-- What has no quote and is no word is read as a number. -/
theorem readLiteral_of_numeral (areNumeral : ∀ char ∈ chars, Numeral.IsNumeralChar char)
    (isNumber : numberCell? chars = some cell) : readLiteral chars = .ok cell := by
  have noQuote : ∀ quote : Char, ¬Numeral.IsNumeralChar quote → unquote? quote chars = none := by
    intro quote isOther
    by_contra isQuoted
    rcases Option.ne_none_iff_exists'.mp isQuoted with ⟨inner, isInner⟩
    rw [unquote?_eq_some_iff] at isInner
    exact isOther (areNumeral quote (by simp [isInner]))
  have noWord : wordCell? (String.ofList chars) = none := by
    have isOther : ∀ word : String, (∃ char ∈ word.toList, ¬Numeral.IsNumeralChar char) →
        String.ofList chars ≠ word := by
      rintro word ⟨char, charMem, isOther⟩ rfl
      rw [String.toList_ofList] at charMem
      exact isOther (areNumeral char charMem)
    rw [wordCell?, if_neg (isOther "true" ⟨'t', by decide, by decide⟩),
      if_neg (isOther "false" ⟨'f', by decide, by decide⟩),
      if_neg (isOther "null" ⟨'n', by decide, by decide⟩)]
  simp only [readLiteral, noQuote '"' (by decide), noQuote '\'' (by decide), noWord, isNumber]
  rfl

theorem readLiteral_of_integer {value : Int} (spells : Spells chars value) :
    readLiteral chars = .ok (integerCell value) :=
  readLiteral_of_numeral (Numeral.isNumeralChar_of_spells spells) (numberCell?_of_spells spells)

theorem readLiteral_of_spells (spells : SpellsLiteral chars cell) :
    readLiteral chars = .ok cell := by
  cases spells with
  | @quoted inner text spells =>
      have isQuoted : unquote? '"' ('"' :: (inner ++ ['"'])) = some inner :=
        unquote?_eq_some_iff.mpr rfl
      simp only [readLiteral, isQuoted, Option.isSome_some, if_true,
        (JsonText.readAll_string_eq_ok_iff inner).mpr spells]
  | plain inner =>
      have isQuoted : unquote? '\'' ('\'' :: (inner ++ ['\''])) = some inner :=
        unquote?_eq_some_iff.mpr rfl
      have notDouble : unquote? '"' ('\'' :: (inner ++ ['\''])) = none := by
        by_contra isDouble
        rcases Option.ne_none_iff_exists'.mp isDouble with ⟨other, isOther⟩
        simp [unquote?_eq_some_iff] at isOther
      simp only [readLiteral, notDouble, isQuoted, Option.isSome_none, Bool.false_eq_true, if_false]
  | wordTrue => rfl
  | wordFalse => rfl
  | wordNull => rfl
  | long spells fits =>
      have isRead := readLiteral_of_integer spells
      rwa [integerCell_eq, if_pos fits] at isRead
  | bigInteger spells exceeds =>
      have isRead := readLiteral_of_integer spells
      rwa [integerCell_eq, if_neg exceeds] at isRead
  | double writes isDecimal =>
      exact readLiteral_of_numeral writes.isNumeralChar (numberCell?_of_writes writes isDecimal)

theorem spells_of_wordCell? (isWord : wordCell? (String.ofList chars) = some cell) :
    SpellsLiteral chars cell := by
  have isSpelled : ∀ {word : String}, String.ofList chars = word → chars = word.toList := by
    rintro word rfl
    rw [String.toList_ofList]
  simp only [wordCell?] at isWord
  split at isWord
  · rename_i isTrue
    cases isWord
    rw [isSpelled isTrue]
    exact .wordTrue
  · split at isWord
    · rename_i isFalse
      cases isWord
      rw [isSpelled isFalse]
      exact .wordFalse
    · split at isWord
      · rename_i isNull
        cases isWord
        rw [isSpelled isNull]
        exact .wordNull
      · cases isWord

theorem spells_of_readLiteral (isRead : readLiteral chars = .ok cell) :
    SpellsLiteral chars cell := by
  simp only [readLiteral] at isRead
  split at isRead
  · rename_i isQuoted
    rcases Option.isSome_iff_exists.mp isQuoted with ⟨inner, isInner⟩
    rw [unquote?_eq_some_iff] at isInner
    subst isInner
    split at isRead
    · rename_i text isText
      cases isRead
      exact .quoted ((JsonText.readAll_string_eq_ok_iff inner).mp isText)
    · cases isRead
  · split at isRead
    · rename_i inner isInner
      rw [unquote?_eq_some_iff] at isInner
      cases isRead
      subst isInner
      exact .plain inner
    · split at isRead
      · rename_i value isValue
        cases isRead
        rcases Option.or_eq_some_iff.mp isValue with isWord | ⟨-, isNumber⟩
        · exact spells_of_wordCell? isWord
        · exact spells_of_numberCell? isNumber
      · cases isRead

/-- What is read as a literal is what spells it. -/
theorem readLiteral_eq_ok_iff : readLiteral chars = .ok cell ↔ SpellsLiteral chars cell :=
  ⟨spells_of_readLiteral, readLiteral_of_spells⟩

theorem SpellsLiteral.unique {other : Cell} (spells : SpellsLiteral chars cell)
    (spellsOther : SpellsLiteral chars other) : other = cell := by
  have isRead := readLiteral_of_spells spells
  rw [readLiteral_of_spells spellsOther, Except.ok.injEq] at isRead
  exact isRead

/-! ### The ends of literals -/

/-- Whether a character is one that comparisons are spelled with. -/
def isComparisonChar (char : Char) : Bool :=
  char == '=' || char == '!' || char == '<' || char == '>'

theorem isBlank_of_isNumeralChar {char : Char} (isNumeral : Numeral.IsNumeralChar char) :
    Text.isBlank char = false := by
  rcases isNumeral with ⟨low, high⟩ | isOther
  · have notBelow : 48 ≤ char.toNat := low
    have notAbove : char.toNat ≤ 57 := high
    exact Text.isBlank_of_visible (by omega) (by omega)
  · simp only [List.mem_cons, List.not_mem_nil, or_false] at isOther
    rcases isOther with rfl | rfl | rfl | rfl | rfl <;> decide

theorem isComparisonChar_of_isNumeralChar {char : Char}
    (isNumeral : Numeral.IsNumeralChar char) : isComparisonChar char = false := by
  by_contra isComparison
  simp only [isComparisonChar, Bool.not_eq_false, Bool.or_eq_true, beq_iff_eq, or_assoc]
    at isComparison
  rcases isComparison with rfl | rfl | rfl | rfl <;> exact absurd isNumeral (by decide)

/-- A number is not empty, and has the characters of a numeral. -/
theorem ends_of_numeral (nonempty : chars ≠ [])
    (areNumeral : ∀ char ∈ chars, Numeral.IsNumeralChar char) :
    (∃ first rest, chars = first :: rest ∧ Text.isBlank first = false ∧
      isComparisonChar first = false) ∧
    ∃ front last, chars = front ++ [last] ∧ Text.isBlank last = false := by
  constructor
  · rcases List.exists_cons_of_ne_nil nonempty with ⟨first, rest, rfl⟩
    have isNumeral := areNumeral first List.mem_cons_self
    exact ⟨first, rest, rfl, isBlank_of_isNumeralChar isNumeral,
      isComparisonChar_of_isNumeralChar isNumeral⟩
  · rcases (List.eq_nil_or_concat chars).resolve_left nonempty with ⟨front, last, rfl⟩
    exact ⟨front, last, by simp, isBlank_of_isNumeralChar (areNumeral last (by simp))⟩

/-- A literal begins and ends with no blank, and does not begin like a comparison. -/
theorem SpellsLiteral.ends (spells : SpellsLiteral chars cell) :
    (∃ first rest, chars = first :: rest ∧ Text.isBlank first = false ∧
      isComparisonChar first = false) ∧
    ∃ front last, chars = front ++ [last] ∧ Text.isBlank last = false := by
  cases spells with
  | @quoted inner =>
      exact ⟨⟨_, _, rfl, by decide, by decide⟩, '"' :: inner, '"', rfl, by decide⟩
  | plain inner =>
      exact ⟨⟨_, _, rfl, by decide, by decide⟩, '\'' :: inner, '\'', rfl, by decide⟩
  | wordTrue => exact ⟨⟨_, _, rfl, by decide, by decide⟩, ['t', 'r', 'u'], 'e', rfl, by decide⟩
  | wordFalse =>
      exact ⟨⟨_, _, rfl, by decide, by decide⟩, ['f', 'a', 'l', 's'], 'e', rfl, by decide⟩
  | wordNull => exact ⟨⟨_, _, rfl, by decide, by decide⟩, ['n', 'u', 'l'], 'l', rfl, by decide⟩
  | long spells =>
      exact ends_of_numeral spells.ne_nil (Numeral.isNumeralChar_of_spells spells)
  | bigInteger spells =>
      exact ends_of_numeral spells.ne_nil (Numeral.isNumeralChar_of_spells spells)
  | double writes => exact ends_of_numeral writes.ne_nil writes.isNumeralChar

end Condition

end JsonTables
