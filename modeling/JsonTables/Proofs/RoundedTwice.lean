import JsonTables.Proofs.RenderedValues
import JsonTables.Proofs.TruncatedNumbers

/-!
# Numbers that are rounded twice

A number of a document is rounded to 64 bits before it is rounded to 32, and a text at once.  Both
give the nearest number of 32 bits unless the first rounding takes the number to the middle of two
numbers of 32 bits: then the even one of the two is chosen, on whichever side of the middle the
number was.  So a float does not depend on how it is spelled just where no such tie is made, and
where the number does not overflow 64 bits.
-/

namespace JsonTables

open Number (Binary BinaryFormat Double Numeral Single)

namespace Number

namespace Binary

variable {format : BinaryFormat} {negative : Bool}

/-! ### Nearest numbers to decimals and to numbers of another format -/

section

variable {significand : Nat} {exponent : Int} (canonical : format.Canonical significand exponent)
  {magnitude : ℚ}

include canonical

/-- What is beyond the reach of decimals is greater than every middle. -/
theorem not_roundsToAtMost_of_reach (inReach : format.InReach)
    (beyond : 10 ^ decimalReach ≤ magnitude) : ¬RoundsToAtMost significand exponent magnitude := by
  have middleLt : middle significand exponent < magnitude := by
    calc middle significand exponent < (significand + 1 : Nat) * 2 ^ exponent := middle_lt _ _
      _ ≤ 2 ^ format.precision * 2 ^ exponent := next_le_bits canonical
      _ ≤ 2 ^ format.precision * 2 ^ format.maxExponent := by
          gcongr
          · norm_num
          · exact canonical.leGreatest
      _ ≤ 10 ^ decimalReach := bits_le_reach inReach
      _ ≤ magnitude := beyond
  rintro (below | ⟨_, isMiddle⟩)
  · exact absurd below middleLt.not_gt
  · exact middleLt.ne' isMiddle

/-- What has so many zeros after the point is less than every middle. -/
theorem roundsToAtMost_of_reach (fine : -3 * decimalReach < format.minExponent)
    (below : magnitude < 10 ^ (-decimalReach - 1)) :
    RoundsToAtMost significand exponent magnitude := by
  left
  have isReach : (-decimalReach - 1 : Int) = -(401 : Nat) := rfl
  have half : (2 : ℚ) ^ (exponent - 1) = 1 / 2 * 2 ^ exponent := by
    rw [zpow_sub_one₀ (by norm_num)]
    ring
  calc magnitude < 10 ^ (-decimalReach - 1) := below
    _ = (10 ^ 401)⁻¹ := by rw [isReach, zpow_neg, zpow_natCast]
    _ ≤ (2 ^ 1200)⁻¹ := inv_anti₀ (by positivity) (two_pow_lt_ten_pow (by norm_num)).le
    _ = 2 ^ (-(1200 : Nat) : Int) := by rw [zpow_neg, zpow_natCast]
    _ ≤ 2 ^ (exponent - 1) := by
        apply zpow_le_zpow_right₀ (by norm_num)
        have leastLe := canonical.leastLe
        rw [decimalReach] at fine
        omega
    _ = 1 / 2 * 2 ^ exponent := half
    _ ≤ middle significand exponent := by
        unfold middle
        gcongr
        exact le_add_of_nonneg_left significand.cast_nonneg

end

/-- Digits with an exponent are rounded to the nearest number. -/
theorem isNearest_ofScientific (inReach : format.InReach)
    (fine : -3 * decimalReach < format.minExponent) (negative : Bool) (digits : Nat)
    (exponent : Int) :
    IsNearest negative (ofScientific negative digits exponent : Binary format)
      (digits * 10 ^ exponent) := by
  rcases Nat.eq_zero_or_pos digits with rfl | digitsPos
  · rw [Nat.cast_zero, zero_mul]
    exact isNearest_zero inReach.hasUnits negative fun _ _ _ => roundsToAtMost_zero _ _
  · have bounds := Decimal.size_bounds digitsPos (-exponent)
    rw [zpow_neg, div_inv_eq_mul, sub_neg_eq_add] at bounds
    simp only [ofScientific, if_neg digitsPos.ne']
    split
    · rename_i beyond
      apply isNearest_infinite
      intro significand unit canonical
      have reachLe : (10 : ℚ) ^ decimalReach ≤ 10 ^ ((digitCount digits : Int) + exponent - 1) :=
        zpow_le_zpow_right₀ (by norm_num) (by omega)
      exact not_roundsToAtMost_of_reach canonical inReach (reachLe.trans bounds.1)
    · split
      · rename_i below
        apply isNearest_zero inReach.hasUnits
        intro significand unit canonical
        have leReach : (10 : ℚ) ^ ((digitCount digits : Int) + exponent) ≤
            10 ^ (-decimalReach - 1) := zpow_le_zpow_right₀ (by norm_num) (by omega)
        exact roundsToAtMost_of_reach canonical fine (bounds.2.trans_le leReach)
      · rw [← scientificQuotient_eq]
        exact isNearest_ofQuotient inReach.precise inReach.hasUnits negative
          (Nat.pow_pos (by decide))

/-- The nearest number to a magnitude has its sign, if it is finite. -/
theorem IsNearest.eq_finite {number : Binary format} {magnitude rational : ℚ}
    (nearest : IsNearest negative number magnitude) (isRational : number.value? = some rational) :
    ∃ significand exponent, number = .finite negative significand exponent ∧
      |rational| = significand * 2 ^ exponent := by
  rcases nearest.inFormat with rfl | ⟨significand, exponent, _, rfl⟩
  · cases isRational
  · cases isRational
    have nonneg : (0 : ℚ) ≤ significand * 2 ^ exponent := by positivity
    exact ⟨significand, exponent, rfl, by rw [abs_signed, abs_of_nonneg nonneg]⟩

/-- What is rounded to a finite number of another format is rounded to the nearest number to
that. -/
theorem IsNearest.convert (inReach : format.InReach) {source : BinaryFormat}
    {number : Binary source} {magnitude rational : ℚ}
    (nearest : IsNearest negative number magnitude) (isRational : number.value? = some rational) :
    IsNearest negative (number.convert : Binary format) |rational| := by
  obtain ⟨significand, exponent, rfl, isAbs⟩ := nearest.eq_finite isRational
  rw [isAbs, ← quotient_eq]
  exact isNearest_ofQuotient inReach.precise inReach.hasUnits negative (Nat.pow_pos (by decide))

/-! ### Ties that are made by rounding -/

/-- Whether a magnitude and what it is rounded to are on the same side of the middles of a format:
where it is rounded to a middle, it is one itself, or it is on the side of the even number. -/
def TiesAlike (format : BinaryFormat) (magnitude rounded : ℚ) : Prop :=
  ∀ significand exponent, format.Canonical significand exponent →
    rounded = middle significand exponent →
      if significand % 2 = 0 then magnitude ≤ rounded else rounded ≤ magnitude

theorem tiesAlike_self (magnitude : ℚ) : TiesAlike format magnitude magnitude := by
  intro significand exponent _ _
  split <;> exact le_rfl

/-- The middle of two numbers of 32 bits is a number of 64 bits. -/
theorem holds_middle_single {significand : Nat} {exponent : Int}
    (canonical : BinaryFormat.single.Canonical significand exponent) :
    BinaryFormat.double.Holds (middle significand exponent) := by
  have small : significand < 2 ^ 24 := canonical.small
  have leastLe : -149 ≤ exponent := canonical.leastLe
  have leGreatest : exponent ≤ 104 := canonical.leGreatest
  refine ⟨2 * significand + 1, exponent - 1, ?_, ?_, ?_, ?_⟩
  · change 2 * significand + 1 < 2 ^ 53
    omega
  · change -1074 ≤ exponent - 1
    omega
  · change exponent - 1 ≤ 971
    omega
  · have nonneg : 0 ≤ middle significand exponent :=
      (lt_middle significand exponent).le.trans' (by positivity)
    rw [abs_of_nonneg nonneg, middle, zpow_sub_one₀ (by norm_num)]
    push_cast
    ring

/-- A rational number and the number of 64 bits that it is rounded to are rounded alike to 32 bits
just if they are on the same side of every middle. -/
theorem Rounds.roundsToAtMost_iff {wide : Double} {rational rounded : ℚ}
    (rounds : wide.Rounds rational) (isRounded : wide.value? = some rounded) :
    (∀ significand exponent, BinaryFormat.single.Canonical significand exponent →
      (RoundsToAtMost significand exponent |rounded| ↔
        RoundsToAtMost significand exponent |rational|)) ↔
      TiesAlike .single |rational| |rounded| := by
  apply forall₃_congr
  intro significand exponent canonical
  have held := holds_middle_single canonical
  have notAbove := rounds.abs_value_le isRounded held
  have notBelow := rounds.le_abs_value isRounded held
  unfold RoundsToAtMost
  generalize middle significand exponent = bound at notAbove notBelow
  rcases eq_or_ne |rounded| bound with isMiddle | notMiddle
  · simp only [isMiddle, lt_irrefl, false_or, and_true, forall_const]
    by_cases isEven : significand % 2 = 0
    · simp only [isEven, true_and, true_iff, if_true, le_iff_lt_or_eq]
    · simp only [isEven, false_and, or_false, false_iff, if_false, not_lt]
  · have offMiddle : |rational| ≠ bound := fun same =>
      notMiddle (le_antisymm (notAbove same.le) (notBelow same.ge))
    simp only [notMiddle, offMiddle, and_false, or_false, false_imp_iff, iff_true]
    constructor
    · exact fun below => lt_of_not_ge fun atLeast => absurd (notBelow atLeast) below.not_ge
    · exact fun below => lt_of_le_of_ne (notAbove below.le) notMiddle

/-- What is not finite, and is the nearest number to a magnitude, is infinite with its sign. -/
theorem IsNearest.eq_infinite {number : Binary format} {magnitude : ℚ}
    (nearest : IsNearest negative number magnitude) (notFinite : ¬number.isFinite = true) :
    number = .infinite negative := by
  rcases nearest.inFormat with isInfinite | ⟨_, _, _, rfl⟩
  · exact isInfinite
  · exact absurd rfl notFinite

/-- Two nearest numbers that are refused where they are not finite are taken alike just if they are
one number. -/
theorem IsNearest.taken_alike_iff {first second : Binary format} {magnitude other : ℚ}
    (nearest : IsNearest negative first magnitude) (otherNearest : IsNearest negative second other)
    {ε : Type} (fault otherFault : ε) :
    (∀ number, (if first.isFinite then .ok first else .error fault : Except ε _) = .ok number ↔
      (if second.isFinite then .ok second else .error otherFault : Except ε _) = .ok number) ↔
      first = second := by
  constructor
  · intro alike
    by_cases isFinite : first.isFinite = true
    · have taken := (alike first).mp (if_pos isFinite)
      split at taken
      · exact (Except.ok.inj taken).symm
      · cases taken
    · by_cases otherFinite : second.isFinite = true
      · have taken := (alike second).mpr (if_pos otherFinite)
        rw [if_neg isFinite] at taken
        cases taken
      · rw [nearest.eq_infinite isFinite, otherNearest.eq_infinite otherFinite]
  · rintro rfl number
    split
    · exact Iff.rfl
    · exact iff_of_false nofun nofun

end Binary

namespace Numeral

variable {negative otherNegative : Bool} {numeral other : Numeral} {chars : List Char}

theorem Magnitude.unique (magnitude : Magnitude chars numeral)
    (otherMagnitude : Magnitude chars other) : numeral = other :=
  Option.some.inj ((read?_of_magnitude magnitude).symm.trans (read?_of_magnitude otherMagnitude))

theorem Magnitude.not_sign {sign : Char} (magnitude : Magnitude (sign :: chars) numeral) :
    sign ≠ '+' ∧ sign ≠ '-' := by
  obtain ⟨char, rest, same, notPlus, notMinus⟩ := magnitude.noSign
  cases same
  exact ⟨notPlus, notMinus⟩

/-- What writes a numeral writes no other. -/
theorem Writes.unique (writes : Writes chars negative numeral)
    (otherWrites : Writes chars otherNegative other) :
    negative = otherNegative ∧ numeral = other := by
  cases writes with
  | plain magnitude =>
      cases otherWrites with
      | plain otherMagnitude => exact ⟨rfl, magnitude.unique otherMagnitude⟩
      | plus _ => exact absurd rfl magnitude.not_sign.1
      | minus _ => exact absurd rfl magnitude.not_sign.2
  | plus magnitude =>
      cases otherWrites with
      | plain otherMagnitude => exact absurd rfl otherMagnitude.not_sign.1
      | plus otherMagnitude => exact ⟨rfl, magnitude.unique otherMagnitude⟩
  | minus magnitude =>
      cases otherWrites with
      | plain otherMagnitude => exact absurd rfl otherMagnitude.not_sign.2
      | minus otherMagnitude => exact ⟨rfl, magnitude.unique otherMagnitude⟩

/-- A number of a document, and a text with the same characters, write one numeral. -/
theorem exists_writes_of_spellsText {token : JsonText.NumberToken} {text : String}
    (spells : JsonText.SpellsNumber token (JsonText.bytesOf text)) :
    ∃ negative numeral, Writes text.toList negative numeral ∧
      Writes token.text.toList negative numeral := by
  obtain ⟨chars, negative, numeral, areBytes, areAscii, writes, kept⟩ :=
    exists_both_write_of_spellsNumber spells
  have isText : text = String.ofList chars := by
    rw [← JsonText.bytesOf_ofList_ascii areAscii] at areBytes
    have isDecoded := JsonText.fromUTF8?_bytesOf text
    rw [areBytes, JsonText.fromUTF8?_bytesOf] at isDecoded
    exact (Option.some.inj isDecoded).symm
  rw [isText, String.toList_ofList]
  exact ⟨negative, numeral, writes, kept⟩

/-- Whether a numeral is rounded to one number of 32 bits, at once and by way of 64 bits. -/
structure RoundsAlike (negative : Bool) (numeral : Numeral) : Prop where
  fits : ¬BinaryFormat.double.Overflows (numeral.value negative)
  ties : ∀ rounded, (numeral.toBinary negative : Double).value? = some rounded →
    Binary.TiesAlike .single |numeral.value negative| |rounded|

/-- A numeral is rounded to the nearest number. -/
theorem isNearest_toBinary {format : BinaryFormat} (inReach : format.InReach)
    (fine : -3 * Binary.decimalReach < format.minExponent) (negative : Bool) (numeral : Numeral) :
    (numeral.toBinary negative : Binary format).IsNearest negative |numeral.value negative| := by
  have nonneg : (0 : ℚ) ≤ numeral.digits * 10 ^ numeral.exponent := by positivity
  rw [value, Binary.abs_signed, abs_of_nonneg nonneg]
  exact Binary.isNearest_ofScientific inReach fine negative numeral.digits numeral.exponent

/-- A numeral is rounded to one number of 32 bits, at once and by way of a number of 64 bits, just
if no tie is made on the way. -/
theorem convert_toBinary_eq_iff {rounded : ℚ}
    (isRounded : (numeral.toBinary negative : Double).value? = some rounded) :
    ((numeral.toBinary negative : Double).convert : Single) = numeral.toBinary negative ↔
      Binary.TiesAlike .single |numeral.value negative| |rounded| := by
  have wide := isNearest_toBinary BinaryFormat.inReach_double (by decide) negative numeral
  have twice := wide.convert BinaryFormat.inReach_single isRounded
  have once := isNearest_toBinary BinaryFormat.inReach_single (by decide) negative numeral
  have rounds : (numeral.toBinary negative : Double).Rounds (numeral.value negative) :=
    Binary.rounds_ofScientific negative numeral.digits numeral.exponent
  rw [twice.eq_iff BinaryFormat.inReach_single.precise once]
  exact rounds.roundsToAtMost_iff isRounded

end Numeral

end Number

namespace Leaf

variable {digits text : String} {negative : Bool} {numeral : Numeral}

/-- A number and a text that write one numeral are read as one number of 32 bits, or both are
refused, just if the numeral is rounded alike. -/
theorem readSingle_alike_iff (writesDigits : Numeral.Writes digits.toList negative numeral)
    (writes : Numeral.Writes text.toList negative numeral) :
    (∀ number, readSingle (.number digits) = .ok number ↔
      readSingle (.string text) = .ok number) ↔ numeral.RoundsAlike negative := by
  by_cases overflows : BinaryFormat.double.Overflows (numeral.value negative)
  · -- the text is read as an infinite number, and the number never is
    refine iff_of_false ?_ (fun alike => alike.fits overflows)
    intro alike
    have isNumber := (alike _).mpr (readSingle_text_of_overflows writes overflows)
    cases (readsFinite_readSingle_number writesDigits).finite _ isNumber
  · have isFinite :=
      (Numeral.isFinite_toBinary_iff BinaryFormat.inReach_double negative numeral).mpr overflows
    obtain ⟨rounded, isRounded⟩ := Binary.exists_value? isFinite
    have isWide : readDouble (.number digits) = .ok (numeral.toBinary negative) := by
      rw [readDouble_number_eq writesDigits, if_pos isFinite]
    have wide := Numeral.isNearest_toBinary BinaryFormat.inReach_double (by decide) negative numeral
    have twice := wide.convert BinaryFormat.inReach_single isRounded
    have once := Numeral.isNearest_toBinary BinaryFormat.inReach_single (by decide) negative numeral
    rw [readSingle_number_eq writesDigits isWide, readSingle_text_eq writes, isFinite,
      Bool.not_true, Bool.or_false, twice.taken_alike_iff once,
      Numeral.convert_toBinary_eq_iff isRounded]
    constructor
    · intro ties
      refine ⟨overflows, fun other isOther => ?_⟩
      cases isRounded.symm.trans isOther
      exact ties
    · exact fun alike => alike.ties rounded isRounded

end Leaf

namespace Shape

variable {scalar : Leaf}

/-- A leaf of numbers of 32 bits fills a row alike from two values that it accepts just if they
are read alike. -/
theorem fill_float_alike_iff (isFloat : scalar.kind = .float) {json other : Json}
    (notNull : json ≠ .null) (otherNotNull : other ≠ .null)
    (accepts : scalar.acceptance.desired.contains json.kind = true)
    (acceptsOther : scalar.acceptance.desired.contains other.kind = true) :
    (∀ path row filled, (leaf scalar).fill path (some json) row = .ok filled ↔
      (leaf scalar).fill path (some other) row = .ok filled) ↔
      ∀ number, Leaf.readSingle json = .ok number ↔ Leaf.readSingle other = .ok number := by
  rcases scalar with ⟨kind, acceptance, onNull, onMissing⟩
  obtain rfl : kind = .float := isFloat
  have fills_iff : ∀ {value : Json}, value ≠ .null →
      acceptance.desired.contains value.kind = true → ∀ (path : Path) (row : Array Cell) number,
        (leaf ⟨.float, acceptance, onNull, onMissing⟩).fill path (some value) row =
          .ok (row.push (.float number)) ↔ Leaf.readSingle value = .ok number := by
    intro value notNull accepts path row number
    rw [fill_leaf_some_eq_ok_iff notNull, and_iff_right accepts]
    constructor
    · rintro ⟨own, isRead, same⟩
      obtain rfl : number = own := Cell.float.inj (Array.push_eq_push.mp same).1
      exact isRead
    · exact fun isRead => ⟨number, isRead, rfl⟩
  constructor
  · intro alike number
    rw [← fills_iff notNull accepts [] #[] number, alike,
      fills_iff otherNotNull acceptsOther [] #[] number]
  · intro alike path row filled
    rw [fill_leaf_some_eq_ok_iff notNull, and_iff_right accepts,
      fill_leaf_some_eq_ok_iff otherNotNull, and_iff_right acceptsOther]
    exact exists_congr fun number => and_congr_left fun _ => alike number

/-- A leaf of numbers of 32 bits takes a number and the text with its characters as one number, or
refuses both, just if their numeral is rounded alike: where no tie is made by rounding it to 64
bits, and none of the two is beyond them. -/
theorem number_and_text_are_one_float (isFloat : scalar.kind = .float)
    (accepts : ∀ kind ∈ [Kind.int, .decimal, .string],
      scalar.acceptance.desired.contains kind = true)
    {token : JsonText.NumberToken} {text : String}
    (spells : JsonText.SpellsNumber token (JsonText.bytesOf text)) :
    (∃ negative numeral, Numeral.Writes text.toList negative numeral) ∧
      ∀ negative numeral, Numeral.Writes text.toList negative numeral →
        ((∀ path row filled,
          (leaf scalar).fill path (some (.number token.text)) row = .ok filled ↔
            (leaf scalar).fill path (some (.string text)) row = .ok filled) ↔
          numeral.RoundsAlike negative) := by
  obtain ⟨negative, numeral, writes, writesDigits⟩ := Numeral.exists_writes_of_spellsText spells
  refine ⟨⟨negative, numeral, writes⟩, fun otherNegative other otherWrites => ?_⟩
  obtain ⟨rfl, rfl⟩ := writes.unique otherWrites
  have acceptsNumber : scalar.acceptance.desired.contains (Json.number token.text).kind = true := by
    rw [Json.kind]
    split
    · exact accepts .int (by decide)
    · exact accepts .decimal (by decide)
  have notNull : Json.number token.text ≠ .null := by simp
  have textNotNull : Json.string text ≠ .null := by simp
  rw [fill_float_alike_iff isFloat notNull textNotNull acceptsNumber
    (accepts .string (by decide))]
  exact Leaf.readSingle_alike_iff writesDigits writes

/-- A number in the middle of two numbers of 32 bits is taken as the even one, however it is
spelled. -/
theorem middle_of_floats_is_one_float :
    let scalar : Leaf := ⟨.float, LeafKind.float.accepting { string := true }, none, none⟩
    (JsonText.integerToken 16777217).text = "16777217" ∧
      JsonText.SpellsNumber (JsonText.integerToken 16777217) (JsonText.bytesOf "16777217") ∧
      Numeral.RoundsAlike false ⟨16777217, 0⟩ ∧
      (leaf scalar).fill [] (some (.number "16777217")) #[] =
        .ok #[.float (.finite false 8388608 1)] ∧
      (leaf scalar).fill [] (some (.string "16777217")) #[] =
        .ok #[.float (.finite false 8388608 1)] := by
  intro scalar
  have isText : toString (16777217 : Int) = "16777217" := rfl
  have spells := JsonText.spellsNumber_integerToken 16777217
  have isKept := JsonText.text_integerToken 16777217
  rw [isText] at spells isKept
  have magnitude : Numeral.Magnitude ("16777217".toList ++ []) ⟨16777217, 0⟩ :=
    .whole (by decide) rfl .nothing
  have writes : Numeral.Writes "16777217".toList false ⟨16777217, 0⟩ := .plain magnitude
  have isValue : Numeral.value false ⟨16777217, 0⟩ = 16777217 := by
    norm_num [Numeral.value, Number.signed]
  have isRounded : (Numeral.toBinary false ⟨16777217, 0⟩ : Double).value? = some 16777217 := by
    have isDouble : (Numeral.toBinary false ⟨16777217, 0⟩ : Double) =
      .finite false (16777217 * 2 ^ 28) (-28) := rfl
    rw [isDouble]
    norm_num [Binary.value?, Number.signed]
  have alike : Numeral.RoundsAlike false ⟨16777217, 0⟩ := by
    constructor
    · rw [← Numeral.isFinite_toBinary_iff BinaryFormat.inReach_double]
      rfl
    · intro rounded isOther
      cases isRounded.symm.trans isOther
      rw [isValue]
      exact Binary.tiesAlike_self _
  have isFloat : scalar.kind = .float := rfl
  have same := ((number_and_text_are_one_float isFloat (by decide) spells).2 _ _ writes).mpr alike
  have isFilled : (leaf scalar).fill [] (some (.number "16777217")) #[] =
    .ok #[.float (.finite false 8388608 1)] := rfl
  rw [isKept] at same
  exact ⟨isKept, spells, alike, isFilled, (same [] #[] _).mp isFilled⟩

/-- A number that is less than a unit of 64 bits above the middle of two numbers of 32 bits is taken
as the less of the two, and its text as the greater. -/
theorem tie_of_rounding_depends_on_spelling :
    let scalar : Leaf := ⟨.float, LeafKind.float.accepting { string := true }, none, none⟩
    let token : JsonText.NumberToken :=
      ⟨false, ['1'], some "00000005960464477539063".toList, none⟩
    JsonText.SpellsNumber token (JsonText.bytesOf "1.00000005960464477539063") ∧
      (leaf scalar).fill [] (some (.number token.text)) #[] =
        .ok #[.float (.finite false 8388608 (-23))] ∧
      (leaf scalar).fill [] (some (.string "1.00000005960464477539063")) #[] =
        .ok #[.float (.finite false 8388609 (-23))] := by
  intro scalar token
  have areDigits : Number.AreDigits "00000005960464477539063".toList :=
    Number.areDigits_of_digitsFrom (rfl : Number.digitsFrom 0 _ = some 5960464477539063)
  have areWhole : Number.AreDigits ['1'] :=
    Number.areDigits_of_digitsFrom (rfl : Number.digitsFrom 0 _ = some 1)
  have unsigned : JsonText.SpellsUnsigned false token _ :=
    .parts (.digits (by decide) areWhole) (.point (by decide) areDigits) .nothing
  have areAscii : ∀ char ∈ '1' :: '.' :: "00000005960464477539063".toList, char.toNat < 0x80 :=
    List.forall_mem_cons.mpr ⟨by decide, List.forall_mem_cons.mpr
      ⟨by decide, JsonText.ascii_of_areDigits areDigits⟩⟩
  have isText : "1.00000005960464477539063" =
    String.ofList ('1' :: '.' :: "00000005960464477539063".toList) := rfl
  have isKept : token.text = "1.00000005960464477539063" := rfl
  refine ⟨?_, ?_, rfl⟩
  · rw [isText, JsonText.bytesOf_ofList_ascii areAscii]
    simpa using JsonText.SpellsNumber.plain unsigned
  · rw [isKept]
    rfl

end Shape

end JsonTables
