import JsonTables.Leaf.Read
import JsonTables.Proofs.Outcome

/-!
# Texts of integers, read as decimals

A text that spells an integer of 64 bits spells a decimal without a fraction, of the
same value.  So wherever decimals are accepted too, the text means what it meant.
-/

namespace JsonTables

namespace Number

/-- Whether characters are decimal digits. -/
def AreDigits (chars : List Char) : Prop :=
  ∀ char ∈ chars, '0' ≤ char ∧ char ≤ '9'

theorem isDigit_of_digitValue? {char : Char} {digit : Nat}
    (isValue : digitValue? char = some digit) : '0' ≤ char ∧ char ≤ '9' := by
  simp only [digitValue?, Option.ite_none_right_eq_some] at isValue
  exact isValue.1

theorem digitsFrom_cons {value digit : Nat} {char : Char}
    (isValue : digitValue? char = some digit) (rest : List Char) :
    digitsFrom value (char :: rest) = digitsFrom (10 * value + digit) rest := by
  simp [digitsFrom, isValue]

theorem digitsFrom_cons_eq_some_iff {value number : Nat} {char : Char} {rest : List Char} :
    digitsFrom value (char :: rest) = some number ↔
      ∃ digit, digitValue? char = some digit ∧ digitsFrom (10 * value + digit) rest = some number :=
  Option.bind_eq_some_iff

theorem areDigits_of_digitsFrom {chars : List Char} {value number : Nat}
    (isNumber : digitsFrom value chars = some number) : AreDigits chars := by
  induction chars generalizing value with
  | nil => simp [AreDigits]
  | cons char rest ih =>
      rcases digitsFrom_cons_eq_some_iff.mp isNumber with ⟨digit, isValue, isNumber⟩
      exact List.forall_mem_cons.mpr ⟨isDigit_of_digitValue? isValue, ih isNumber⟩

namespace Bounds

variable {bounds : Bounds} {chars : List Char} {result : Int}

theorem contains_iff {value : Int} :
    bounds.contains value = true ↔ bounds.low ≤ value ∧ value ≤ bounds.high := by
  simp [contains]

/-- Reading upward comes to the number that the digits write, within the bounds. -/
theorem readUp_eq_ok {value : Nat} (inside : (value : Int) ≤ bounds.high)
    (isRead : bounds.readUp value chars = .ok result) :
    ∃ number : Nat, digitsFrom value chars = some number ∧ result = number ∧
      (number : Int) ≤ bounds.high := by
  induction chars generalizing value with
  | nil =>
      cases isRead
      exact ⟨value, rfl, rfl, inside⟩
  | cons char rest ih =>
      cases isValue : digitValue? char with
      | none => simp [readUp, isValue] at isRead
      | some digit =>
          rw [digitsFrom_cons isValue]
          simp only [readUp, isValue] at isRead
          split at isRead
          · cases isRead
          · have next : ((10 * value + digit : Nat) : Int) ≤ bounds.high := by
              push_cast
              omega
            exact ih next (by simpa using isRead)

/-- Reading downward is reading upward with all signs turned around. -/
theorem readDown_neg_eq_ok_iff {value : Int} :
    bounds.readDown (-value) chars = .ok (-result) ↔
      (Bounds.mk (-bounds.high) (-bounds.low)).readUp value chars = .ok result := by
  induction chars generalizing value with
  | nil => simp only [readDown, readUp, Except.ok.injEq, neg_inj]
  | cons char rest ih =>
      cases isValue : digitValue? char with
      | none => simp [readDown, readUp, isValue]
      | some digit =>
          have sameNext : 10 * -value - (digit : Int) = -(10 * value + digit) := by omega
          simp only [readDown, readUp, isValue, sameNext]
          by_cases isBeyond : -(10 * value + (digit : Int)) < bounds.low
          · rw [if_pos isBeyond, if_pos (by omega)]
            simp
          · rw [if_neg isBeyond, if_neg (by omega), ih]

/-- Reading downward comes to the negative of the number that the digits write. -/
theorem readDown_eq_ok {value : Nat} (inside : bounds.low ≤ -(value : Int))
    (isRead : bounds.readDown (-value) chars = .ok result) :
    ∃ number : Nat, digitsFrom value chars = some number ∧ result = -number ∧
      bounds.low ≤ -(number : Int) := by
  rw [← neg_neg result, readDown_neg_eq_ok_iff] at isRead
  rcases readUp_eq_ok (Int.le_neg_of_le_neg inside) isRead with
    ⟨number, isNumber, isResult, isWithin⟩
  exact ⟨number, isNumber, by omega, Int.le_neg_of_le_neg isWithin⟩

end Bounds

/-- What spells an integer: digits, with a sign or without. -/
inductive Spells : List Char → Int → Prop
  | plain {chars : List Char} {number : Nat} (nonempty : chars ≠ [])
      (isNumber : digitsFrom 0 chars = some number) : Spells chars number
  | plus {chars : List Char} {number : Nat} (nonempty : chars ≠ [])
      (isNumber : digitsFrom 0 chars = some number) : Spells ('+' :: chars) number
  | minus {chars : List Char} {number : Nat} (nonempty : chars ≠ [])
      (isNumber : digitsFrom 0 chars = some number) : Spells ('-' :: chars) (-number)

/-- What is read as an integer within bounds spells it. -/
theorem Bounds.spells_of_read {bounds : Bounds} (low : bounds.low ≤ 0) (high : 0 ≤ bounds.high)
    {text : String} {value : Int} (isRead : bounds.read text = .ok value) :
    Spells text.toList value ∧ bounds.contains value := by
  rw [Bounds.contains_iff]
  simp only [Bounds.read] at isRead
  split at isRead
  · cases isRead
  · cases isRead
  · cases isRead
  · -- a plus sign, and more than that
    rename_i rest notAlone chars
    have nonempty : rest ≠ [] := by
      rintro rfl
      exact notAlone rfl
    rcases Bounds.readUp_eq_ok high isRead with ⟨number, isNumber, rfl, inside⟩
    rw [chars]
    exact ⟨.plus nonempty isNumber, by omega, inside⟩
  · -- a minus sign, and more than that
    rename_i rest notAlone chars
    have nonempty : rest ≠ [] := by
      rintro rfl
      exact notAlone rfl
    split at isRead
    · have fromZero : bounds.readDown (-((0 : Nat) : Int)) rest = .ok value := isRead
      rcases Bounds.readDown_eq_ok low fromZero with ⟨number, isNumber, rfl, inside⟩
      rw [chars]
      exact ⟨.minus nonempty isNumber, inside, by omega⟩
    · cases isRead
  · rename_i notEmpty _ _ _ _
    rcases Bounds.readUp_eq_ok high isRead with ⟨number, isNumber, rfl, inside⟩
    exact ⟨.plain notEmpty isNumber, by omega, inside⟩

theorem spells_of_int64_read {text : String} {value : Int} (isRead : int64.read text = .ok value) :
    Spells text.toList value ∧ int64.contains value :=
  Bounds.spells_of_read (by decide) (by decide) isRead

/-! ### Decimals -/

theorem ne_of_areDigits {chars : List Char} (areDigits : AreDigits chars) (other : Char)
    (noDigit : ¬('0' ≤ other ∧ other ≤ '9')) : ∀ char ∈ chars, char ≠ other := by
  rintro char charMem rfl
  exact noDigit (areDigits char charMem)

theorem digitsWithUnderscores?_eq {chars : List Char} {number : Nat} (nonempty : chars ≠ [])
    (isNumber : digitsFrom 0 chars = some number) :
    digitsWithUnderscores? chars = .ok number := by
  have noUnderscore := ne_of_areDigits (areDigits_of_digitsFrom isNumber) '_' (by decide)
  cases chars with
  | nil => exact absurd rfl nonempty
  | cons char rest =>
      have kept : (char :: rest).filter (· != '_') = char :: rest := by
        rw [List.filter_eq_self]
        intro other otherMem
        simpa using noUnderscore other otherMem
      have first := noUnderscore char List.mem_cons_self
      unfold digitsWithUnderscores?
      split
      · contradiction
      · simp_all
      · rw [kept, isNumber]

/-- A text of digits does not start with a sign. -/
theorem dropPlus_eq_self {chars : List Char} (areDigits : AreDigits chars) :
    dropPlus chars = chars := by
  have noPlus := ne_of_areDigits areDigits '+' (by decide)
  unfold dropPlus
  split
  · rfl
  · exact absurd rfl (noPlus '+' List.mem_cons_self)
  · rfl

theorem dropPlus_plus {chars : List Char} (areDigits : AreDigits chars) :
    dropPlus ('+' :: chars) = chars := by
  have noPlus := ne_of_areDigits areDigits '+' (by decide)
  cases chars with
  | nil => rfl
  | cons char rest =>
      have first := noPlus char List.mem_cons_self
      rw [dropPlus]
      rintro _ ⟨⟩
      exact first rfl

theorem readInteger_of_spells {chars : List Char} {value : Int} (spells : Spells chars value) :
    readInteger chars = .ok value := by
  cases spells with
  | plain nonempty isNumber =>
      have areDigits := areDigits_of_digitsFrom isNumber
      have noMinus := ne_of_areDigits areDigits '-' (by decide)
      unfold readInteger
      split
      · exact absurd rfl (noMinus '-' List.mem_cons_self)
      · exact absurd rfl (noMinus '-' List.mem_cons_self)
      · rw [dropPlus_eq_self areDigits, digitsWithUnderscores?_eq nonempty isNumber]
        rfl
  | plus nonempty isNumber =>
      have areDigits := areDigits_of_digitsFrom isNumber
      have isRead := digitsWithUnderscores?_eq nonempty isNumber
      change (digitsWithUnderscores? (dropPlus ('+' :: _)) >>= _) = _
      rw [dropPlus_plus areDigits, isRead]
      rfl
  | minus nonempty isNumber =>
      have areDigits := areDigits_of_digitsFrom isNumber
      have noPlus := ne_of_areDigits areDigits '+' (by decide)
      have isRead := digitsWithUnderscores?_eq nonempty isNumber
      unfold readInteger
      split
      · rename_i rest signs
        cases signs
        exact absurd rfl (noPlus '+' List.mem_cons_self)
      · rename_i rest _ signs
        cases signs
        rw [dropPlus_eq_self areDigits, isRead]
        rfl
      · rename_i noSign
        exact absurd rfl (noSign _)

theorem Spells.unique {chars : List Char} {value other : Int} (spells : Spells chars value)
    (spellsOther : Spells chars other) : value = other := by
  have sameRead := (readInteger_of_spells spells).symm.trans (readInteger_of_spells spellsOther)
  exact Except.ok.inj sameRead

/-- What spells an integer has no character that means something else in a decimal. -/
theorem plain_of_spells {chars : List Char} {value : Int} (spells : Spells chars value) :
    chars ≠ [] ∧ ∀ char ∈ chars, char ≠ 'e' ∧ char ≠ 'E' ∧ char ≠ '.' := by
  have digits : ∀ {chars : List Char} {number : Nat}, digitsFrom 0 chars = some number →
      ∀ char ∈ chars, char ≠ 'e' ∧ char ≠ 'E' ∧ char ≠ '.' := by
    intro chars number isNumber char charMem
    have areDigits := areDigits_of_digitsFrom isNumber
    exact ⟨ne_of_areDigits areDigits 'e' (by decide) char charMem,
      ne_of_areDigits areDigits 'E' (by decide) char charMem,
      ne_of_areDigits areDigits '.' (by decide) char charMem⟩
  cases spells with
  | plain nonempty isNumber => exact ⟨nonempty, digits isNumber⟩
  | plus _ isNumber =>
      exact ⟨List.cons_ne_nil _ _, List.forall_mem_cons.mpr ⟨by decide, digits isNumber⟩⟩
  | minus _ isNumber =>
      exact ⟨List.cons_ne_nil _ _, List.forall_mem_cons.mpr ⟨by decide, digits isNumber⟩⟩

/-- The text of an integer is the text of that integer as a decimal. -/
theorem decimal_read_of_spells {text : String} {value : Int} (spells : Spells text.toList value) :
    Decimal.read text = .ok (.ofInt value) := by
  have plain := plain_of_spells spells
  have base : text.toList.takeWhile (fun char => char != 'e' && char != 'E') = text.toList := by
    rw [List.takeWhile_eq_self_iff]
    intro char charMem
    simp [plain.2 char charMem]
  have noExponent : text.toList.dropWhile (fun char => char != 'e' && char != 'E') = [] := by
    rw [List.dropWhile_eq_nil_iff]
    intro char charMem
    simp [plain.2 char charMem]
  have noPoint : text.toList.dropWhile (· != '.') = [] := by
    rw [List.dropWhile_eq_nil_iff]
    intro char charMem
    simp [plain.2 char charMem]
  have exponent : Decimal.readExponent text.toList = .ok 0 := by
    rw [Decimal.readExponent, noExponent]
  have split : Decimal.splitPoint text.toList = (text.toList, 0) := by
    rw [Decimal.splitPoint, noPoint]
  have isInteger := readInteger_of_spells spells
  have noScale : int64.contains 0 = true := by decide
  simp only [Decimal.read, exponent, base, split, isInteger]
  simp [Except.mapError, plain.1, noScale, Decimal.ofInt]

theorem decimal_read_of_int64_read {text : String} {value : Int}
    (isRead : int64.read text = .ok value) : Decimal.read text = .ok (.ofInt value) :=
  decimal_read_of_spells (spells_of_int64_read isRead).1

theorem digitCount_le_of_int64 {value : Int} (inside : int64.contains value) :
    digitCount value.natAbs ≤ 19 := by
  rw [digitCount, Nat.length_toDigits_le_iff (by decide) (by decide)]
  have low : int64.low = -9223372036854775808 := by decide
  have high : int64.high = 9223372036854775807 := by decide
  rw [Bounds.contains_iff, low, high] at inside
  omega

/-- An integer of 64 bits is the integer part of itself. -/
theorem integerPart?_ofInt {value : Int} (inside : int64.contains value) :
    (Decimal.ofInt value).integerPart? = some value := by
  have scale : (Decimal.ofInt value).scale = 0 := rfl
  have digits : (Decimal.ofInt value).integerDigits = digitCount value.natAbs := Int.sub_zero _
  have atLeastOne : 0 < digitCount value.natAbs := Nat.length_toDigits_pos
  have few := digitCount_le_of_int64 inside
  rw [Decimal.integerPart?, digits, scale, Decimal.maxIntegerDigits]
  rw [if_neg (by omega), if_neg (by omega), if_pos (by omega)]
  simp [Decimal.ofInt]

end Number

namespace Leaf

open Number (int64 Decimal)
open Time (EpochUnit)

theorem int64OfDecimal_ofInt {value : Int} (inside : int64.contains value) :
    int64OfDecimal (.ofInt value) = .ok value := by
  simp [int64OfDecimal, integerPart, Number.integerPart?_ofInt inside, inside]

/-! ### Accepting decimals -/

/-- Whether what is read where decimals are refused is read alike where they are
accepted. -/
def KeptByDecimals {α : Type} (read : Bool → Except ScalarFault α) : Prop :=
  ∀ value, read false = .ok value → read true = .ok value

theorem int64OfText_eq_ok {target text : String} {value : Int}
    (isRead : int64OfText target text = .ok value) :
    int64.contains value ∧ decimalOf text = .ok (.ofInt value) := by
  have isInteger := Except.mapError_eq_ok_iff.mp isRead
  refine ⟨(Number.spells_of_int64_read isInteger).2, ?_⟩
  rw [decimalOf, Number.decimal_read_of_int64_read isInteger]
  rfl

theorem readIntegral_keptByDecimals (bounds : Number.Bounds) (target : String) (json : Json) :
    KeptByDecimals fun allowDecimal => readIntegral bounds target allowDecimal json := by
  intro value isRead
  -- only of a text does it matter whether decimals are accepted
  cases json with
  | string text =>
      simp only [readIntegral, Bool.false_eq_true, if_false, if_true,
        Except.bind_eq_ok_iff] at isRead ⊢
      rcases isRead with ⟨integer, integerRead, inside⟩
      rcases int64OfText_eq_ok integerRead with ⟨fits, decimalRead⟩
      exact ⟨.ofInt integer, decimalRead, integer, int64OfDecimal_ofInt fits, inside⟩
  | _ => exact isRead

/-- An integer of units is scaled alike as a decimal of units. -/
theorem nanosOfDecimal_of_nanosOfInteger {unit : EpochUnit} {text : String} {value nanos : Int}
    (decimalRead : decimalOf text = .ok (.ofInt value))
    (isNanos : nanosOfInteger unit value = .ok nanos) : nanosOfDecimal unit text = .ok nanos := by
  simp only [nanosOfInteger] at isNanos
  split at isNanos
  · rename_i inside
    cases isNanos
    rw [nanosOfDecimal, decimalRead]
    exact int64OfDecimal_ofInt inside
  · cases isNanos

theorem readEpoch_keptByDecimals (unit : EpochUnit) (json : Json) :
    KeptByDecimals fun allowDecimal => readEpoch unit allowDecimal json := by
  intro value isRead
  cases json with
  | string text =>
      simp only [readEpoch, Bool.false_eq_true, if_false, if_true,
        Except.bind_eq_ok_iff] at isRead ⊢
      rcases isRead with ⟨integer, integerRead, nanos, isNanos, isInstant⟩
      have decimalRead := (int64OfText_eq_ok integerRead).2
      exact ⟨nanos, nanosOfDecimal_of_nanosOfInteger decimalRead isNanos, isInstant⟩
  | _ => exact isRead

theorem readBigInteger_keptByDecimals (json : Json) :
    KeptByDecimals fun allowDecimal => readBigInteger allowDecimal json := by
  intro value isRead
  cases json with
  | string text =>
      simp only [readBigInteger] at isRead ⊢
      split at isRead
      · exact isRead
      · cases isRead
  | _ => exact isRead

/-- A value that is read where decimals are refused is read alike where they are
accepted. -/
theorem readValue_keptByDecimals (kind : LeafKind) (json : Json) :
    KeptByDecimals fun allowDecimal => readValue allowDecimal json kind := by
  cases kind with
  | byte => exact readIntegral_keptByDecimals _ _ json
  | short => exact readIntegral_keptByDecimals _ _ json
  | int => exact readIntegral_keptByDecimals _ _ json
  | long => exact readIntegral_keptByDecimals _ _ json
  | epoch unit => exact readEpoch_keptByDecimals unit json
  | bigInteger => exact readBigInteger_keptByDecimals json
  | _ => exact fun _ => id

end Leaf

end JsonTables
