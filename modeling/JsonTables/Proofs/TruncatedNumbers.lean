import JsonTables.Proofs.FiniteNumbers
import JsonTables.Proofs.IntegerCells
import JsonTables.Proofs.IntegerParts
import JsonTables.Proofs.SpelledParts

/-!
# Numbers that are truncated

A leaf of integers takes a numeral as the integer next to it on the side of zero, if that is in the
range of its type, and refuses it otherwise.  It does not matter how the numeral is written: as
digits alone, with a point or with an exponent.  Only the reach of exponents is limited.  A numeral
whose exponent leaves it without a scale of 64 bits is refused, and so is a zero with a thousand
zeros behind it.
-/

namespace JsonTables

open Number (Bounds Decimal Numeral Spells int64 towardZero)

namespace Number

/-! ### Numerals as decimals -/

namespace Numeral

variable {chars : List Char} {text : String} {negative : Bool} {numeral : Numeral}

/-- The decimal that a numeral with a sign is. -/
def toDecimal (negative : Bool) (numeral : Numeral) : Decimal :=
  ⟨if negative then -numeral.digits else numeral.digits, -numeral.exponent⟩

theorem value_toDecimal (negative : Bool) (numeral : Numeral) :
    (numeral.toDecimal negative).value = numeral.value negative := by
  cases negative <;> simp [toDecimal, Decimal.value, value, signed]

/-- What may stand before the digits of a number with a sign. -/
inductive Signs : List Char → Bool → Prop
  | nothing : Signs [] false
  | plus : Signs ['+'] false
  | minus : Signs ['-'] true

theorem Signs.spells {sign digits : List Char} {value : Nat} (signs : Signs sign negative)
    (nonempty : digits ≠ []) (isNumber : digitsFrom 0 digits = some value) :
    Spells (sign ++ digits) (if negative then -value else value) := by
  cases signs with
  | nothing => exact .plain nonempty isNumber
  | plus => exact .plus nonempty isNumber
  | minus => exact .minus nonempty isNumber

theorem Writes.exists_signs (writes : Writes chars negative numeral) :
    ∃ sign rest, chars = sign ++ rest ∧ Signs sign negative ∧ Magnitude rest numeral := by
  cases writes with
  | plain magnitude => exact ⟨[], _, rfl, .nothing, magnitude⟩
  | plus magnitude => exact ⟨['+'], _, rfl, .plus, magnitude⟩
  | minus magnitude => exact ⟨['-'], _, rfl, .minus, magnitude⟩

/-- The exponent of a decimal is read just if it is one of 128 bits. -/
theorem readExponent_eq_ok_iff {base tail : List Char} {exponent result : Int}
    (noMark : ∀ char ∈ base, (char != 'e' && char != 'E') = true) (raises : Raises tail exponent) :
    Decimal.readExponent (base ++ tail) = .ok result ↔
      (Bounds.signed 128).contains exponent = true ∧ result = exponent := by
  rw [Decimal.readExponent, List.dropWhile_append_of_pos noMark]
  cases raises with
  | nothing =>
      have inside : (Bounds.signed 128).contains 0 = true := by decide
      simp [inside, eq_comm]
  | @mark mark chars exponent marks spells =>
      have isDropped : (mark :: chars).dropWhile (fun char => char != 'e' && char != 'E') =
          mark :: chars := by
        rw [List.dropWhile_cons_of_neg]
        simpa [isMark, imp_iff_not_or] using marks
      rw [isDropped]
      apply Bounds.read_eq_ok_iff (by decide) (by decide)
      rwa [String.toList_ofList]

theorem takeWhile_base {base tail : List Char} {exponent : Int}
    (noMark : ∀ char ∈ base, (char != 'e' && char != 'E') = true) (raises : Raises tail exponent) :
    (base ++ tail).takeWhile (fun char => char != 'e' && char != 'E') = base := by
  rw [List.takeWhile_append_of_pos noMark]
  cases raises with
  | nothing => simp
  | mark marks spells =>
      rw [List.takeWhile_cons_of_neg, List.append_nil]
      simpa [isMark, imp_iff_not_or] using marks

/-- What has the parts of a decimal is read just if its exponent is one of 128 bits, and its scale
one of 64. -/
theorem decimal_read_eq_ok_iff_of_parts (base : List Char) {tail digits : List Char} {places : Nat}
    {exponent unscaled : Int} {decimal : Decimal} (isText : text.toList = base ++ tail)
    (nonempty : base ≠ []) (noMark : ∀ char ∈ base, char ≠ 'e' ∧ char ≠ 'E')
    (raises : Raises tail exponent) (isSplit : Decimal.splitPoint base = (digits, places))
    (isInteger : readInteger digits = .ok unscaled) :
    Decimal.read text = .ok decimal ↔
      (Bounds.signed 128).contains exponent = true ∧ int64.contains (places - exponent) = true ∧
        decimal = ⟨unscaled, places - exponent⟩ := by
  have passes : ∀ char ∈ base, (char != 'e' && char != 'E') = true := by
    intro char charMem
    simpa using noMark char charMem
  have notEmpty : base.isEmpty = false := by simpa using nonempty
  simp only [Decimal.read, isText, takeWhile_base passes raises, Except.bind_eq_ok_iff,
    Except.mapError_eq_ok_iff, readExponent_eq_ok_iff passes raises, and_assoc, exists_and_left,
    exists_eq_left, notEmpty, isSplit, isInteger]
  apply and_congr_right
  intro _
  cases inside : int64.contains (places - exponent) with
  | true => simp [Except.mapError, eq_comm]
  | false => simp

/-- So few places never take an exponent out of 128 bits where the scale has 64. -/
theorem exponent_inside_of_scale {places : Nat} (fewer : places < 2 ^ 64) (exponent : Int)
    (inside : int64.contains (places - exponent) = true) :
    (Bounds.signed 128).contains exponent = true := by
  rw [int64, Bounds.contains_signed_iff] at inside
  rw [Bounds.contains_signed_iff]
  omega

section Parts

variable {sign tail : List Char} {value : Nat} {exponent : Int} {decimal : Decimal}

theorem decimal_read_whole {digits : List Char} (isText : text.toList = sign ++ (digits ++ tail))
    (signs : Signs sign negative) (nonempty : digits ≠ [])
    (isNumber : digitsFrom 0 digits = some value) (raises : Raises tail exponent) :
    Decimal.read text = .ok decimal ↔
      int64.contains (-exponent) = true ∧ decimal = toDecimal negative ⟨value, exponent⟩ := by
  have spells := signs.spells nonempty isNumber
  have plain := plain_of_spells spells
  have noPoint := Decimal.splitPoint_plain fun char charMem => (plain.2 char charMem).2.2
  have isBase : text.toList = sign ++ digits ++ tail := by rw [isText, List.append_assoc]
  rw [decimal_read_eq_ok_iff_of_parts (sign ++ digits) isBase plain.1
    (fun char charMem => ⟨(plain.2 char charMem).1, (plain.2 char charMem).2.1⟩) raises noPoint
    (readInteger_of_spells spells)]
  have fewer : 0 < 2 ^ 64 := Nat.two_pow_pos 64
  have isScale : ((0 : Nat) : Int) - exponent = -exponent := by simp
  have isInside := exponent_inside_of_scale fewer exponent
  rw [isScale] at isInside ⊢
  exact and_iff_right_of_imp fun inside => isInside inside.1

theorem decimal_read_pointed {before after : List Char}
    (isText : text.toList = sign ++ (before ++ '.' :: after ++ tail))
    (bounded : text.length < 2 ^ 64) (signs : Signs sign negative)
    (nonempty : before ++ after ≠ []) (isNumber : digitsFrom 0 (before ++ after) = some value)
    (raises : Raises tail exponent) :
    Decimal.read text = .ok decimal ↔
      int64.contains (-(exponent - after.length)) = true ∧
        decimal = toDecimal negative ⟨value, exponent - after.length⟩ := by
  have spells := signs.spells nonempty isNumber
  have plain := plain_of_spells spells
  have noUnderscore := ne_of_areDigits (areDigits_of_digitsFrom isNumber) '_' (by decide)
  have isSplit := Decimal.splitPoint_point (sign ++ before) after
    (fun char charMem => (plain.2 char (by simp_all; tauto)).2.2)
    (fun char charMem => noUnderscore char (by simp [charMem]))
  have noMark : ∀ char ∈ sign ++ before ++ '.' :: after, char ≠ 'e' ∧ char ≠ 'E' := by
    intro char charMem
    by_cases isPoint : char = '.'
    · subst isPoint
      decide
    · have inDigits : char ∈ sign ++ (before ++ after) := by
        simp only [List.mem_append, List.mem_cons] at charMem ⊢
        tauto
      exact ⟨(plain.2 char inDigits).1, (plain.2 char inDigits).2.1⟩
  have fewer : after.length < 2 ^ 64 := by
    rw [← String.length_toList, isText] at bounded
    simp only [List.length_append, List.length_cons] at bounded
    omega
  have isScale : (after.length : Int) - exponent = -(exponent - after.length) := by omega
  rw [← List.append_assoc] at spells
  rw [decimal_read_eq_ok_iff_of_parts (sign ++ before ++ '.' :: after) (by simp [isText])
    (by simp) noMark raises isSplit (readInteger_of_spells spells)]
  have isInside := exponent_inside_of_scale fewer exponent
  rw [isScale] at isInside ⊢
  exact and_iff_right_of_imp fun inside => isInside inside.1

end Parts

/-- What writes a numeral is read as a decimal just if the scale is one of 64 bits, unless it is
longer than any text. -/
theorem Writes.decimal_read_eq_ok_iff (writes : Writes text.toList negative numeral)
    (bounded : text.length < 2 ^ 64) {decimal : Decimal} :
    Decimal.read text = .ok decimal ↔
      int64.contains (-numeral.exponent) = true ∧ decimal = numeral.toDecimal negative := by
  obtain ⟨sign, rest, isText, signs, magnitude⟩ := writes.exists_signs
  cases magnitude with
  | whole nonempty isNumber raises =>
      exact decimal_read_whole isText signs nonempty isNumber raises
  | pointed before after nonempty isNumber raises =>
      exact decimal_read_pointed isText bounded signs nonempty isNumber raises

/-- What writes a numeral without a point or an exponent spells an integer. -/
theorem Writes.exists_spells (writes : Writes text.toList negative numeral)
    (isInteger : Json.isIntegerText text = true) : ∃ value, Spells text.toList value := by
  simp only [Json.isIntegerText, List.all_eq_true] at isInteger
  obtain ⟨sign, rest, isText, signs, magnitude⟩ := writes.exists_signs
  rw [isText] at isInteger ⊢
  cases magnitude with
  | whole nonempty isNumber raises =>
      cases raises with
      | nothing =>
          rw [List.append_nil]
          exact ⟨_, signs.spells nonempty isNumber⟩
      | @mark mark chars exponent marks spells =>
          have noMark := isInteger mark (by simp)
          rcases Bool.or_eq_true_iff.mp marks with isSmall | isCapital <;> simp_all
  | pointed before after nonempty isNumber raises =>
      have noPoint := isInteger '.' (by simp)
      cases noPoint

theorem value_one (exponent : Int) : value false ⟨1, exponent⟩ = 10 ^ exponent := by
  simp [value, signed]

/-- A power of ten whose scale is the first beyond 64 bits. -/
theorem writes_beyond_scales :
    Writes "1e-9223372036854775808".toList false ⟨1, -9223372036854775808⟩ := by
  have magnitude : Magnitude (['1'] ++ 'e' :: '-' :: "9223372036854775808".toList)
      ⟨1, -(9223372036854775808 : Nat)⟩ :=
    .whole (by decide) rfl (.mark rfl (.minus (by decide) rfl))
  exact .plain magnitude

/-- The exponent of a number of a document stands for one number, as it is spelled and as it is
kept: with the mark in lower case, and a sign. -/
theorem exists_raises_of_spells {exponent : Option (Bool × List Char)} {chars : List Char}
    (spells : JsonText.SpellsExponent exponent chars) :
    ∃ value, Raises chars value ∧ Raises (match exponent with
      | some (negative, digits) => 'e' :: (if negative then '-' else '+') :: digits
      | none => []) value := by
  cases spells with
  | nothing => exact ⟨0, .nothing, .nothing⟩
  | @mark mark negative sign digits isMark spellsSign nonempty areDigits =>
      have isNumber := digitsFrom_eq_ofDigitChars areDigits 0
      have marks : Numeral.isMark mark = true := by rcases isMark with rfl | rfl <;> rfl
      cases spellsSign with
      | nothing =>
          exact ⟨_, .mark marks (.plain nonempty isNumber), .mark rfl (.plus nonempty isNumber)⟩
      | plus =>
          exact ⟨_, .mark marks (.plus nonempty isNumber), .mark rfl (.plus nonempty isNumber)⟩
      | minus =>
          exact ⟨_, .mark marks (.minus nonempty isNumber), .mark rfl (.minus nonempty isNumber)⟩

/-- A number of a document is a magnitude after the sign, as it is spelled and as it is kept. -/
theorem exists_magnitude_of_spellsUnsigned {token : JsonText.NumberToken} {bytes : JsonText.Bytes}
    (unsigned : JsonText.SpellsUnsigned negative token bytes) :
    ∃ chars kept numeral, bytes = chars.map JsonText.byteOf ∧ Magnitude chars numeral ∧
      token.text.toList = (if negative then ['-'] else []) ++ kept ∧ Magnitude kept numeral := by
  cases unsigned with
  | @parts whole fractionChars exponentChars fraction exponent isWhole isFraction isExponent =>
      have areDigits : AreDigits whole := by
        cases isWhole with
        | zero => simp [AreDigits]
        | digits notZero areDigits => exact areDigits
      have nonempty : whole ≠ [] := by cases isWhole <;> exact List.cons_ne_nil _ _
      obtain ⟨value, spelledRaises, raises⟩ := exists_raises_of_spells isExponent
      simp only [JsonText.NumberToken.text, String.toList_ofList]
      cases isFraction with
      | nothing =>
          have isNumber := digitsFrom_eq_ofDigitChars areDigits 0
          refine ⟨_, _, _, ?_, .whole nonempty isNumber spelledRaises, ?_,
            .whole nonempty isNumber raises⟩
          · simp
          · cases exponent <;> simp
      | @point digits someDigits areFraction =>
          have areAll : AreDigits (whole ++ digits) :=
            List.forall_mem_append.mpr ⟨areDigits, areFraction⟩
          have isNumber := digitsFrom_eq_ofDigitChars areAll 0
          have someWhole : whole ++ digits ≠ [] := by simp [nonempty]
          refine ⟨_, _, _, ?_, .pointed whole digits someWhole isNumber spelledRaises, ?_,
            .pointed whole digits someWhole isNumber raises⟩
          · simp
          · cases exponent <;> simp

theorem Magnitude.areAscii (magnitude : Magnitude chars numeral) :
    ∀ char ∈ chars, char.toNat < 0x80 := by
  have ofDigits : ∀ {digits : List Char} {value : Nat}, digitsFrom 0 digits = some value →
      ∀ char ∈ digits, char.toNat < 0x80 :=
    fun isNumber => JsonText.ascii_of_areDigits (areDigits_of_digitsFrom isNumber)
  have ofSpells : ∀ {spelled : List Char} {value : Int}, Spells spelled value →
      ∀ char ∈ spelled, char.toNat < 0x80 := by
    intro spelled value spells
    cases spells with
    | plain _ isNumber => exact ofDigits isNumber
    | plus _ isNumber => exact List.forall_mem_cons.mpr ⟨by decide, ofDigits isNumber⟩
    | minus _ isNumber => exact List.forall_mem_cons.mpr ⟨by decide, ofDigits isNumber⟩
  have ofRaises : ∀ {tail : List Char} {exponent : Int}, Raises tail exponent →
      ∀ char ∈ tail, char.toNat < 0x80 := by
    intro tail exponent raises
    cases raises with
    | nothing => exact List.forall_mem_nil _
    | @mark mark _ _ marks spells =>
        have isAscii : mark.toNat < 0x80 := by
          rcases Bool.or_eq_true_iff.mp marks with isSmall | isCapital
          · rw [beq_iff_eq.mp isSmall]
            decide
          · rw [beq_iff_eq.mp isCapital]
            decide
        exact List.forall_mem_cons.mpr ⟨isAscii, ofSpells spells⟩
  cases magnitude with
  | whole _ isNumber raises =>
      exact List.forall_mem_append.mpr ⟨ofDigits isNumber, ofRaises raises⟩
  | pointed before after _ isNumber raises =>
      have ofBoth := List.forall_mem_append.mp (ofDigits isNumber)
      exact List.forall_mem_append.mpr ⟨List.forall_mem_append.mpr
        ⟨ofBoth.1, List.forall_mem_cons.mpr ⟨by decide, ofBoth.2⟩⟩, ofRaises raises⟩

/-- A number of a document writes a numeral as it is spelled, and the same as it is kept. -/
theorem exists_both_write_of_spellsNumber {token : JsonText.NumberToken} {bytes : JsonText.Bytes}
    (spells : JsonText.SpellsNumber token bytes) :
    ∃ chars negative numeral, bytes = chars.map JsonText.byteOf ∧
      (∀ char ∈ chars, char.toNat < 0x80) ∧ Writes chars negative numeral ∧
        Writes token.text.toList negative numeral := by
  cases spells with
  | plain unsigned =>
      obtain ⟨chars, kept, numeral, areBytes, magnitude, isText, keptMagnitude⟩ :=
        exists_magnitude_of_spellsUnsigned unsigned
      exact ⟨chars, false, numeral, areBytes, magnitude.areAscii, .plain magnitude,
        isText ▸ .plain keptMagnitude⟩
  | minus unsigned =>
      obtain ⟨chars, kept, numeral, areBytes, magnitude, isText, keptMagnitude⟩ :=
        exists_magnitude_of_spellsUnsigned unsigned
      refine ⟨'-' :: chars, true, numeral, ?_, ?_, .minus magnitude, isText ▸ .minus keptMagnitude⟩
      · rw [List.map_cons, ← areBytes]
        rfl
      · exact List.forall_mem_cons.mpr ⟨by decide, magnitude.areAscii⟩

theorem exists_writes_of_spellsNumber {token : JsonText.NumberToken} {bytes : JsonText.Bytes}
    (spells : JsonText.SpellsNumber token bytes) :
    ∃ negative numeral, Writes token.text.toList negative numeral := by
  obtain ⟨_, negative, numeral, _, _, _, writes⟩ := exists_both_write_of_spellsNumber spells
  exact ⟨negative, numeral, writes⟩

/-- A number of a document without a point or an exponent spells an integer. -/
theorem exists_spells_of_spellsNumber {token : JsonText.NumberToken} {bytes : JsonText.Bytes}
    (spells : JsonText.SpellsNumber token bytes)
    (isInteger : Json.isIntegerText token.text = true) :
    ∃ value, Spells token.text.toList value := by
  obtain ⟨negative, numeral, writes⟩ := exists_writes_of_spellsNumber spells
  exact writes.exists_spells isInteger

end Numeral

namespace Decimal

/-- Whether the scale of a decimal is one of 64 bits, and does not put a thousand zeros behind a
zero. -/
structure IsInReach (decimal : Decimal) : Prop where
  scale : int64.contains decimal.scale = true
  zero : decimal.unscaled = 0 → -1000 < decimal.scale

variable {decimal : Decimal}

theorem isInReach_ofInt (value : Int) : (ofInt value).IsInReach := by
  refine ⟨?_, fun _ => ?_⟩
  · change int64.contains 0 = true
    decide
  · change (-1000 : Int) < 0
    decide

theorem scale_of_read {text : String} (isRead : read text = .ok decimal) :
    int64.contains decimal.scale = true := by
  simp only [read, Except.bind_eq_ok_iff, Except.mapError_eq_ok_iff] at isRead
  obtain ⟨exponent, _, isRead⟩ := isRead
  split at isRead
  · cases isRead
  · split at isRead
    · rename_i inside
      simp only [Except.bind_eq_ok_iff, Except.pure_eq_ok_iff] at isRead
      obtain ⟨_, _, _, _, rfl⟩ := isRead
      exact inside
    · cases isRead

/-- A decimal whose integer part has 64 bits has no more digits than are read, zero apart. -/
theorem integerDigits_le_of_int64 (inside : int64.contains (towardZero decimal.value) = true)
    (nonzero : decimal.unscaled ≠ 0) : decimal.integerDigits ≤ maxIntegerDigits := by
  have isBounded : |(towardZero decimal.value : ℚ)| ≤ 2 ^ 63 := by
    rw [int64, Bounds.contains_signed_iff] at inside
    have absLe : |towardZero decimal.value| ≤ 2 ^ 63 := by
      rw [abs_le]
      omega
    exact_mod_cast absLe
  have notGreat : |decimal.value| < 10 ^ (20 : Int) := by
    have further := abs_lt_abs_towardZero decimal.value
    norm_num at isBounded ⊢
    linarith
  have atMost := (integerDigits_le_iff nonzero 20).mpr notGreat
  rw [maxIntegerDigits]
  omega

/-- The scale of what has no more digits than are read is one of 64 bits, unless it is too great. -/
theorem int64_scale_iff (atMost : decimal.integerDigits ≤ maxIntegerDigits) :
    int64.contains decimal.scale = true ↔ decimal.scale < 2 ^ 63 := by
  have someDigits : 0 < digitCount decimal.unscaled.natAbs := Nat.length_toDigits_pos
  rw [integerDigits, maxIntegerDigits] at atMost
  rw [int64, Bounds.contains_signed_iff]
  omega

/-- A decimal with a scale of 64 bits, and an integer part of 64 bits, is in reach just if it has
no more digits than are read. -/
theorem isInReach_iff (scaled : int64.contains decimal.scale = true)
    (inside : int64.contains (towardZero decimal.value) = true) :
    decimal.IsInReach ↔ decimal.integerDigits ≤ maxIntegerDigits := by
  have sizeOfZero : decimal.unscaled = 0 → decimal.integerDigits = 1 - decimal.scale := by
    intro isZero
    simp [integerDigits, isZero, digitCount]
  have limit : maxIntegerDigits = 1000 := rfl
  constructor
  · intro reach
    by_cases isZero : decimal.unscaled = 0
    · have few := reach.zero isZero
      have size := sizeOfZero isZero
      omega
    · exact integerDigits_le_of_int64 inside isZero
  · intro atMost
    refine ⟨scaled, fun isZero => ?_⟩
    have size := sizeOfZero isZero
    omega

end Decimal

end Number

namespace Leaf

/-! ### Reading integers -/

variable {text : String} {negative : Bool} {numeral : Numeral} {decimal : Decimal}

theorem integerPart_eq_ok_iff {result : Int} :
    integerPart decimal = .ok result ↔
      decimal.integerDigits ≤ Decimal.maxIntegerDigits ∧ result = towardZero decimal.value := by
  rw [integerPart, Decimal.integerPart?_eq]
  by_cases atMost : decimal.integerDigits ≤ Decimal.maxIntegerDigits
  · rw [if_neg (not_lt.mpr atMost), and_iff_right atMost, Except.ok.injEq, eq_comm]
  · rw [if_pos (not_le.mp atMost)]
    simp [atMost]

theorem int64OfDecimal_eq_ok_iff (scaled : int64.contains decimal.scale = true) {result : Int} :
    int64OfDecimal decimal = .ok result ↔
      decimal.IsInReach ∧ int64.contains (towardZero decimal.value) = true ∧
        result = towardZero decimal.value := by
  simp only [int64OfDecimal, Except.bind_eq_ok_iff, integerPart_eq_ok_iff, and_assoc,
    exists_and_left, exists_eq_left]
  by_cases inside : int64.contains (towardZero decimal.value) = true
  · rw [if_pos inside, Decimal.isInReach_iff scaled inside, and_iff_right inside,
      Except.pure_eq_ok_iff, eq_comm]
  · rw [if_neg inside]
    simp [inside]

/-- A number is read as the integer part of the decimal that it is, whether or not its text has a
point or an exponent. -/
theorem int64OfNumber_eq_ok_iff_of_writes
    (writes : Numeral.Writes text.toList negative numeral) {result : Int} :
    int64OfNumber text = .ok result ↔
      ∃ decimal, Decimal.read text = .ok decimal ∧ int64OfDecimal decimal = .ok result := by
  by_cases spelled : ∃ value, Spells text.toList value
  · obtain ⟨value, spells⟩ := spelled
    have inReach := Decimal.isInReach_ofInt value
    have isValue : towardZero (Decimal.ofInt value).value = value := by
      rw [Decimal.value_ofInt, Number.towardZero_intCast]
    rw [int64OfNumber_eq_ok_iff spells, Number.decimal_read_of_spells spells]
    simp [int64OfDecimal_eq_ok_iff inReach.scale, isValue, inReach]
  · have notInteger : Json.isIntegerText text = false := by
      rw [← Bool.not_eq_true]
      exact mt writes.exists_spells spelled
    have notRead : ∀ value, int64.read text ≠ .ok value := by
      intro value isRead
      exact spelled ⟨value, (Number.spells_of_int64_read isRead).1⟩
    rw [int64OfNumber]
    split
    · rename_i isRead
      exact absurd isRead (notRead _)
    · rw [if_neg (by simp [notInteger])]
      simp [Except.bind_eq_ok_iff, decimalOf]

/-- What stands for a decimal where integers are read: a number whose numeral is the decimal and,
where decimals are accepted, a text that is read as it. -/
inductive StandsFor (allowDecimal : Bool) : Json → Decimal → Prop
  | number {text : String} {negative : Bool} {numeral : Numeral} (bounded : text.length < 2 ^ 64)
      (writes : Numeral.Writes text.toList negative numeral) :
      StandsFor allowDecimal (.number text) (numeral.toDecimal negative)
  | text {text : String} {decimal : Decimal} (decimals : allowDecimal = true)
      (isRead : Decimal.read text = .ok decimal) : StandsFor allowDecimal (.string text) decimal

variable {allowDecimal : Bool} {json : Json}

theorem StandsFor.notNull (stands : StandsFor allowDecimal json decimal) : json ≠ .null := by
  cases stands <;> exact nofun

/-- What is read as an integer part of 64 bits is read within fewer bits just if it is within
them. -/
theorem narrowed_eq_ok_iff {bits : Nat} (fewer : bits ≤ 64) {wide : Except ScalarFault Int}
    {reach : Prop} {part result : Int} (fault : Int → ScalarFault)
    (isWide : ∀ value, wide = .ok value ↔ reach ∧ int64.contains part = true ∧ value = part) :
    (do
      let value ← wide
      if (Bounds.signed bits).contains value then return value else throw (fault value)) =
        Except.ok result ↔
      reach ∧ (Bounds.signed bits).contains part = true ∧ result = part := by
  simp only [Except.bind_eq_ok_iff, isWide, and_assoc, exists_and_left, exists_eq_left]
  apply and_congr_right
  intro _
  by_cases inside : (Bounds.signed bits).contains part = true
  · have insideWide : int64.contains part = true := Bounds.contains_signed_mono fewer inside
    rw [if_pos inside, and_iff_right insideWide, and_iff_right inside, Except.pure_eq_ok_iff,
      eq_comm]
  · simp [inside]

/-- What stands for a decimal is read as the integer part of the decimal, if that is within
bounds of so many bits. -/
theorem StandsFor.readIntegral_eq_ok_iff (stands : StandsFor allowDecimal json decimal)
    {bits : Nat} (fewer : bits ≤ 64) (target : String) {result : Int} :
    readIntegral (.signed bits) target allowDecimal json = .ok result ↔
      decimal.IsInReach ∧ (Bounds.signed bits).contains (towardZero decimal.value) = true ∧
        result = towardZero decimal.value := by
  cases stands with
  | @number text negative numeral bounded writes =>
      apply narrowed_eq_ok_iff fewer
      intro value
      have isRead : ∀ decimal, Decimal.read text = .ok decimal ↔ _ :=
        fun decimal => writes.decimal_read_eq_ok_iff bounded
      simp only [int64OfNumber_eq_ok_iff_of_writes writes, isRead, and_assoc, exists_and_left,
        exists_eq_left]
      by_cases scaled : int64.contains (numeral.toDecimal negative).scale = true
      · exact (and_iff_right scaled).trans (int64OfDecimal_eq_ok_iff scaled)
      · have outOfReach : ¬(numeral.toDecimal negative).IsInReach := fun reach => scaled reach.scale
        exact iff_of_false (fun isPart => scaled isPart.1) (fun isPart => outOfReach isPart.1)
  | text decimals isRead =>
      have scaled := Decimal.scale_of_read isRead
      simp only [readIntegral, decimals, if_true, decimalOf, isRead]
      apply narrowed_eq_ok_iff fewer
      intro value
      exact int64OfDecimal_eq_ok_iff scaled

/-- What is read of it is put behind a row in the cell of a type with so many bits. -/
theorem StandsFor.pushes_iff (stands : StandsFor allowDecimal json decimal) {type : DataType}
    {bits : Nat} (hasBits : type.integerBits? = some bits) (fewer : bits ≤ 64) (target : String)
    (wrap : Int → Cell) {row filled : Array Cell} :
    (∃ own, readIntegral (.signed bits) target allowDecimal json = .ok own ∧
      filled = row.push (wrap own)) ↔
      decimal.IsInReach ∧ type.HoldsInteger (towardZero decimal.value) ∧
        filled = row.push (wrap (towardZero decimal.value)) := by
  simp only [stands.readIntegral_eq_ok_iff fewer, DataType.holdsInteger_iff_of_bits hasBits,
    and_assoc, exists_and_left, exists_eq_left]

end Leaf

/-- Whether the values of a kind are integers of so many bits. -/
def LeafKind.isIntegral : LeafKind → Bool
  | byte | short | int | long => true
  | _ => false

namespace Shape

variable {scalar : Leaf} {json other : Json} {decimal otherDecimal : Decimal}

/-- A leaf of integers takes what stands for a decimal as the integer part of the decimal, just if
the decimal is in reach and the integer part in the range of the type. -/
theorem fill_integral_eq_ok_iff (isIntegral : scalar.kind.isIntegral = true)
    (accepts : scalar.acceptance.desired.contains json.kind = true)
    (stands : Leaf.StandsFor (scalar.acceptance.desired.contains .decimal) json decimal)
    {path : Path} {row filled : Array Cell} :
    (leaf scalar).fill path (some json) row = .ok filled ↔
      decimal.IsInReach ∧ scalar.kind.type.HoldsInteger (towardZero decimal.value) ∧
        filled = row.push (scalar.kind.type.integerCell (towardZero decimal.value)) := by
  rw [fill_leaf_some_eq_ok_iff stands.notNull, and_iff_right accepts]
  rcases scalar with ⟨kind, acceptance, onNull, onMissing⟩
  cases kind with
  | byte => exact stands.pushes_iff rfl (by decide) "byte" .byte
  | short => exact stands.pushes_iff rfl (by decide) "short" .short
  | int => exact stands.pushes_iff rfl (by decide) "int" .int
  | long => exact stands.pushes_iff rfl (by decide) "long" .long
  | _ => cases isIntegral

/-- A leaf of integers takes a numeral as the integer next to it on the side of zero, just if that
is in the range of the type and the exponent in reach.  Every number of a document is such a
numeral.  Of two that are one number, both in reach, both are taken alike or both are refused. -/
theorem numerals_are_truncated (isIntegral : scalar.kind.isIntegral = true) :
    (∀ token bytes, JsonText.SpellsNumber token bytes → token.text.length < 2 ^ 64 →
      ∃ negative numeral decimal, Numeral.Writes token.text.toList negative numeral ∧
        Leaf.StandsFor (scalar.acceptance.desired.contains .decimal) (.number token.text)
          decimal ∧ decimal.value = numeral.value negative) ∧
    (∀ json decimal, scalar.acceptance.desired.contains json.kind = true →
      Leaf.StandsFor (scalar.acceptance.desired.contains .decimal) json decimal →
      ∀ path row filled, (leaf scalar).fill path (some json) row = .ok filled ↔
        decimal.IsInReach ∧ scalar.kind.type.HoldsInteger (towardZero decimal.value) ∧
          filled = row.push (scalar.kind.type.integerCell (towardZero decimal.value))) ∧
    (∀ json other decimal otherDecimal, scalar.acceptance.desired.contains json.kind = true →
      scalar.acceptance.desired.contains other.kind = true →
      Leaf.StandsFor (scalar.acceptance.desired.contains .decimal) json decimal →
      Leaf.StandsFor (scalar.acceptance.desired.contains .decimal) other otherDecimal →
      decimal.IsInReach → otherDecimal.IsInReach → decimal.value = otherDecimal.value →
      ∀ path row filled, (leaf scalar).fill path (some json) row = .ok filled ↔
        (leaf scalar).fill path (some other) row = .ok filled) := by
  refine ⟨?_, ?_, ?_⟩
  · intro token bytes spells bounded
    obtain ⟨negative, numeral, writes⟩ := Numeral.exists_writes_of_spellsNumber spells
    exact ⟨negative, numeral, _, writes, .number bounded writes,
      numeral.value_toDecimal negative⟩
  · intro json decimal accepts stands path row filled
    exact fill_integral_eq_ok_iff isIntegral accepts stands
  · intro json other decimal otherDecimal accepts acceptsOther stands standsOther reach reachOther
      sameValue path row filled
    rw [fill_integral_eq_ok_iff isIntegral accepts stands,
      fill_integral_eq_ok_iff isIntegral acceptsOther standsOther, sameValue,
      and_iff_right reach, and_iff_right reachOther]

/-- A negative number loses its fraction, and a text that writes it in another way does so too. -/
theorem fraction_of_a_negative_number_is_dropped :
    let scalar : Leaf :=
      ⟨.byte, LeafKind.byte.accepting { string := true, decimal := true }, none, none⟩
    (leaf scalar).fill [] (some (.number "-12.9")) #[] = .ok #[.byte (-12)] ∧
      (leaf scalar).fill [] (some (.string "-1_29e-1")) #[] = .ok #[.byte (-12)] := by
  intro scalar
  have magnitude : Numeral.Magnitude (['1', '2'] ++ '.' :: ['9'] ++ []) ⟨129, 0 - 1⟩ :=
    .pointed _ _ (by decide) rfl .nothing
  have writes : Numeral.Writes "-12.9".toList true ⟨129, 0 - 1⟩ := .minus magnitude
  have number : Leaf.StandsFor true (.number "-12.9") ⟨-129, 1⟩ :=
    Leaf.StandsFor.number (by decide) writes
  have text : Leaf.StandsFor true (.string "-1_29e-1") ⟨-129, 1⟩ := .text rfl (by rfl)
  have inReach : Decimal.IsInReach ⟨-129, 1⟩ := ⟨by decide, by decide⟩
  have isPart : towardZero (Decimal.value ⟨-129, 1⟩) = -12 := by
    have isQuotient : Decimal.value ⟨-129, 1⟩ = ((-129 : Int) / (10 : Nat) : ℚ) := by
      norm_num [Decimal.value]
    rw [isQuotient, Number.towardZero_div]
    rfl
  have inRange : DataType.byte.HoldsInteger (-12) := by
    rw [DataType.holdsInteger_iff_of_bits rfl]
    decide
  have isIntegral : scalar.kind.isIntegral = true := rfl
  have truncated := numerals_are_truncated isIntegral
  have isFilled := (truncated.2.1 _ _ rfl number [] #[] #[.byte (-12)]).mpr
    ⟨inReach, by rwa [isPart], by rw [isPart]; rfl⟩
  exact ⟨isFilled,
    (truncated.2.2 _ _ _ _ rfl rfl number text inReach inReach rfl [] #[] _).mp isFilled⟩

/-- A zero with a thousand zeros behind it is refused, though it is accepted and in the range of
the type. -/
theorem zero_of_a_thousand_zeros_is_refused :
    Numeral.Writes "0e+1000".toList false ⟨0, 1000⟩ ∧
      DataType.int.HoldsInteger (towardZero (Numeral.value false ⟨0, 1000⟩)) ∧
      (LeafKind.int.accepting { decimal := true }).desired.contains
        (Json.number "0e+1000").kind = true ∧
      ∀ filled, (plainLeaf .int { decimal := true } none none).fill []
        (some (.number "0e+1000")) #[] ≠ .ok filled := by
  have magnitude : Numeral.Magnitude (['0'] ++ ['e', '+', '1', '0', '0', '0']) ⟨0, 1000⟩ :=
    .whole (by decide) rfl (.mark rfl (.plus (by decide) rfl))
  have isZero : towardZero (Numeral.value false ⟨0, 1000⟩) = 0 := by
    simp [Numeral.value, Number.signed, towardZero]
  have isRefused : ∃ fault, (plainLeaf .int { decimal := true } none none).fill []
      (some (.number "0e+1000")) #[] = .error fault := ⟨_, rfl⟩
  refine ⟨.plain magnitude, ?_, rfl, ?_⟩
  · rw [isZero, DataType.holdsInteger_iff_of_bits rfl]
    decide
  · intro filled
    rcases isRefused with ⟨fault, isFault⟩
    simp [isFault]

end Shape

end JsonTables
