import JsonTables.Proofs.TruncatedNumbers

/-!
# Big integers

An integer of any length is read as it is.  What is not an integer is read as a decimal, of which
the integer part is taken where it has no more than a thousand digits; so a power of ten that is
written with an exponent of any size is never written out.  Only what is too small to have a scale
of 64 bits is refused without having too many digits.
-/

namespace JsonTables

open Number (Decimal Numeral Spells int64 towardZero)

namespace Number.Decimal

variable {decimal : Decimal}

/-- A decimal written out as an integer, without what stands after its point. -/
def expanded (decimal : Decimal) : Int :=
  if decimal.scale ≤ 0 then decimal.unscaled * 10 ^ (-decimal.scale).toNat
  else decimal.unscaled.tdiv (10 ^ decimal.scale.toNat)

/-- A decimal other than zero has no more digits than are read just if it is less than the power
of ten with so many zeros. -/
theorem integerDigits_le_max_iff (nonzero : decimal.value ≠ 0) :
    decimal.integerDigits ≤ maxIntegerDigits ↔ |decimal.value| < 10 ^ 1000 := by
  have isPower : (10 : ℚ) ^ (1000 : Int) = 10 ^ 1000 := zpow_natCast 10 1000
  rw [maxIntegerDigits, integerDigits_le_iff (mt value_eq_zero_iff.mpr nonzero), isPower]

end Number.Decimal

namespace Leaf

/-! ### Writing out -/

/-- The integer part of a decimal, where `expand` writes out what has digits before its point. -/
def integerPartBy (expand : Decimal → Except ScalarFault Int) (decimal : Decimal) :
    Except ScalarFault Int :=
  if decimal.integerDigits ≤ 0 then .ok 0
  else if Decimal.maxIntegerDigits < decimal.integerDigits then .error (.tooManyDigits decimal)
  else expand decimal

/-- Reads an integer of any size, where `part` takes the integer parts of decimals. -/
def readBigIntegerBy (part : Decimal → Except ScalarFault Int) (allowDecimal : Bool) :
    Json → Except ScalarFault Int
  | .number text =>
      if Json.isIntegerText text then
        (Number.readInteger text.toList).mapError (.notInteger text "big integer")
      else do part (← decimalOf text)
  | .string text =>
      match Number.readInteger text.toList with
      | .ok value => .ok value
      | .error fault =>
          if allowDecimal then do part (← decimalOf text)
          else .error (.notInteger text "big integer" fault)
  | value => .error (.wrongKind value.kind "big integer")

theorem readBigInteger_eq_by (allowDecimal : Bool) (json : Json) :
    readBigInteger allowDecimal json = readBigIntegerBy integerPart allowDecimal json := by
  cases json <;> rfl

theorem integerPart_eq_by : integerPart = integerPartBy fun decimal => .ok decimal.expanded := by
  funext decimal
  simp only [integerPart, Decimal.integerPart?, integerPartBy, Decimal.expanded]
  split_ifs <;> rfl

/-- Nothing is written out that has more digits than are read. -/
theorem integerPartBy_congr {expand other : Decimal → Except ScalarFault Int}
    (agree : ∀ decimal, 0 < decimal.integerDigits →
      decimal.integerDigits ≤ Decimal.maxIntegerDigits → expand decimal = other decimal) :
    integerPartBy expand = integerPartBy other := by
  funext decimal
  unfold integerPartBy
  split_ifs with noDigits tooMany
  · rfl
  · rfl
  · exact agree decimal (not_le.mp noDigits) (not_lt.mp tooMany)

/-! ### Reading big integers -/

/-- What spells an integer where big integers are read: the digits of a number, or a text, in
which there may be underscores. -/
inductive SpellsInteger : Json → Int → Prop
  | number {text : String} {value : Int} (spells : Spells text.toList value) :
      SpellsInteger (.number text) value
  | text {text : String} {value : Int} (isRead : Number.readInteger text.toList = .ok value) :
      SpellsInteger (.string text) value

variable {allowDecimal : Bool} {json : Json} {decimal : Decimal} {value : Int}

theorem SpellsInteger.notNull (spells : SpellsInteger json value) : json ≠ .null := by
  cases spells <;> exact nofun

theorem SpellsInteger.readBigInteger_eq (spells : SpellsInteger json value)
    (allowDecimal : Bool) : readBigInteger allowDecimal json = .ok value := by
  cases spells with
  | number spells => exact readBigInteger_of_spells spells allowDecimal
  | text isRead => rw [readBigInteger, isRead]

/-- What stands for a decimal and spells no integer is read as the integer part of the decimal. -/
theorem StandsFor.readBigInteger_eq_ok_iff (stands : StandsFor allowDecimal json decimal)
    (noInteger : ∀ value, ¬SpellsInteger json value) {result : Int} :
    readBigInteger allowDecimal json = .ok result ↔
      int64.contains decimal.scale = true ∧
        decimal.integerDigits ≤ Decimal.maxIntegerDigits ∧ result = towardZero decimal.value := by
  cases stands with
  | @number text negative numeral bounded writes =>
      have notInteger : ¬Json.isIntegerText text = true := by
        intro isInteger
        obtain ⟨value, spells⟩ := writes.exists_spells isInteger
        exact noInteger value (.number spells)
      have isRead : ∀ decimal, Decimal.read text = .ok decimal ↔ _ :=
        fun decimal => writes.decimal_read_eq_ok_iff bounded
      simp only [readBigInteger, if_neg notInteger, decimalOf, Except.bind_eq_ok_iff,
        Except.mapError_eq_ok_iff, isRead, integerPart_eq_ok_iff, and_assoc, exists_and_left,
        exists_eq_left]
      rfl
  | @text text decimal decimals isRead =>
      rw [readBigInteger, and_iff_right (Decimal.scale_of_read isRead), ← integerPart_eq_ok_iff]
      split
      · rename_i value isInteger
        exact absurd (.text isInteger) (noInteger value)
      · rw [if_pos decimals, decimalOf, isRead]
        rfl

end Leaf

namespace Shape

variable {scalar : Leaf} {json : Json} {decimal : Decimal} {value : Int}

theorem fill_bigInteger_eq_ok_iff (isBigInteger : scalar.kind = .bigInteger)
    (accepts : scalar.acceptance.desired.contains json.kind = true) (notNull : json ≠ .null)
    {path : Path} {row filled : Array Cell} :
    (leaf scalar).fill path (some json) row = .ok filled ↔
      ∃ own, Leaf.readBigInteger (scalar.acceptance.desired.contains .decimal) json = .ok own ∧
        filled = row.push (.bigInteger own) := by
  rw [fill_leaf_some_eq_ok_iff notNull, and_iff_right accepts]
  rcases scalar with ⟨kind, acceptance, onNull, onMissing⟩
  cases isBigInteger
  rfl

/-- A leaf of big integers takes what spells an integer as it is, whether or not decimals are
accepted.  It takes any other decimal than zero as the integer next to it on the side of zero, just
if that has no more than a thousand digits and the scale is not beyond 64 bits.  Every number of a
document is one or the other.  Nothing with more digits is ever written out: it makes no difference
what would come of that. -/
theorem big_integers_are_exact (isBigInteger : scalar.kind = .bigInteger) :
    (∀ token bytes, JsonText.SpellsNumber token bytes → Json.isIntegerText token.text = true →
      ∃ value, Leaf.SpellsInteger (.number token.text) value) ∧
    (∀ token bytes, JsonText.SpellsNumber token bytes → token.text.length < 2 ^ 64 →
      Json.isIntegerText token.text = false →
      ∃ negative numeral decimal, Numeral.Writes token.text.toList negative numeral ∧
        Leaf.StandsFor (scalar.acceptance.desired.contains .decimal) (.number token.text)
          decimal ∧ decimal.value = numeral.value negative ∧
        ∀ value, ¬Leaf.SpellsInteger (.number token.text) value) ∧
    (∀ json value, scalar.acceptance.desired.contains json.kind = true →
      Leaf.SpellsInteger json value → ∀ path row,
        (leaf scalar).fill path (some json) row = .ok (row.push (.bigInteger value))) ∧
    (∀ json decimal, scalar.acceptance.desired.contains json.kind = true →
      Leaf.StandsFor (scalar.acceptance.desired.contains .decimal) json decimal →
      (∀ value, ¬Leaf.SpellsInteger json value) → decimal.value ≠ 0 →
      ∀ path row filled, (leaf scalar).fill path (some json) row = .ok filled ↔
        decimal.scale < 2 ^ 63 ∧ |decimal.value| < 10 ^ 1000 ∧
          filled = row.push (.bigInteger (towardZero decimal.value))) ∧
    ∀ expand : Decimal → Except ScalarFault Int,
      (∀ decimal, 0 < decimal.integerDigits → decimal.integerDigits ≤ 1000 →
        expand decimal = .ok decimal.expanded) →
      ∀ allowDecimal json, Leaf.readBigIntegerBy (Leaf.integerPartBy expand) allowDecimal json =
        Leaf.readBigInteger allowDecimal json := by
  refine ⟨?_, ?_, ?_, ?_, ?_⟩
  · intro token bytes spells isInteger
    obtain ⟨value, spelled⟩ := Numeral.exists_spells_of_spellsNumber spells isInteger
    exact ⟨value, .number spelled⟩
  · intro token bytes spells bounded notInteger
    obtain ⟨negative, numeral, writes⟩ := Numeral.exists_writes_of_spellsNumber spells
    refine ⟨negative, numeral, _, writes, .number bounded writes,
      numeral.value_toDecimal negative, ?_⟩
    rintro value ⟨spelled⟩
    simp [Leaf.isIntegerText_of_spells spelled] at notInteger
  · intro json value accepts spells path row
    rw [fill_bigInteger_eq_ok_iff isBigInteger accepts spells.notNull]
    exact ⟨value, spells.readBigInteger_eq _, rfl⟩
  · intro json decimal accepts stands noInteger nonzero path row filled
    rw [fill_bigInteger_eq_ok_iff isBigInteger accepts stands.notNull]
    simp only [stands.readBigInteger_eq_ok_iff noInteger, and_assoc, exists_and_left,
      exists_eq_left]
    rw [← Decimal.integerDigits_le_max_iff nonzero, ← and_assoc, ← and_assoc]
    exact and_congr_left' (and_congr_left Decimal.int64_scale_iff)
  · intro expand agree allowDecimal json
    rw [Leaf.readBigInteger_eq_by, Leaf.integerPart_eq_by, Leaf.integerPartBy_congr agree]

/-- Integers are read as they are and a fraction is dropped, but a one with a thousand zeros is
refused. -/
theorem one_with_a_thousand_zeros_is_refused :
    let scalar : Leaf :=
      ⟨.bigInteger, LeafKind.bigInteger.accepting { string := true, decimal := true }, none, none⟩
    (leaf scalar).fill [] (some (.number "-123456789012345678901234567890")) #[] =
        .ok #[.bigInteger (-123456789012345678901234567890)] ∧
      (leaf scalar).fill [] (some (.string "1_000")) #[] = .ok #[.bigInteger 1000] ∧
      (leaf scalar).fill [] (some (.string "-1_2.9")) #[] = .ok #[.bigInteger (-12)] ∧
      ∀ filled, (leaf scalar).fill [] (some (.number "1e+1000")) #[] ≠ .ok filled := by
  intro scalar
  have isBigInteger : scalar.kind = .bigInteger := rfl
  obtain ⟨_, _, integers, decimals, _⟩ := big_integers_are_exact isBigInteger
  have long : Leaf.SpellsInteger (.number "-123456789012345678901234567890")
      (-(123456789012345678901234567890 : Nat)) := .number (.minus (by decide) rfl)
  have spaced : Leaf.SpellsInteger (.string "1_000") 1000 := .text rfl
  have fraction : Leaf.StandsFor true (.string "-1_2.9") ⟨-129, 1⟩ := .text rfl (by rfl)
  have noInteger : ∀ value, ¬Leaf.SpellsInteger (.string "-1_2.9") value := by
    rintro value (_ | isRead)
    cases isRead
  have nonzero : Decimal.value ⟨-129, 1⟩ ≠ 0 := mt Decimal.value_eq_zero_iff.mp (by decide)
  have isPart : towardZero (Decimal.value ⟨-129, 1⟩) = -12 := by
    have isQuotient : Decimal.value ⟨-129, 1⟩ = ((-129 : Int) / (10 : Nat) : ℚ) := by
      norm_num [Decimal.value]
    rw [isQuotient, Number.towardZero_div]
    rfl
  have magnitude : Numeral.Magnitude (['1'] ++ "e+1000".toList) ⟨1, 1000⟩ :=
    .whole (by decide) rfl (.mark rfl (.plus (by decide) rfl))
  have great : Leaf.StandsFor true (.number "1e+1000") (Numeral.toDecimal false ⟨1, 1000⟩) :=
    .number (by decide) (.plain magnitude)
  have notWhole : ∀ value, ¬Leaf.SpellsInteger (.number "1e+1000") value := by
    rintro value (spells | _)
    have isRead := Number.readInteger_of_spells spells
    cases isRead
  have isPower : (Numeral.toDecimal false ⟨1, 1000⟩).value = 10 ^ 1000 := by
    rw [Numeral.value_toDecimal, Numeral.value_one]
    exact zpow_natCast 10 1000
  have powerPos : (0 : ℚ) < 10 ^ 1000 := pow_pos (by norm_num) 1000
  refine ⟨integers _ _ rfl long [] #[], integers _ _ rfl spaced [] #[], ?_, ?_⟩
  · rw [decimals _ _ rfl fraction noInteger nonzero, isPart,
      ← Decimal.integerDigits_le_max_iff nonzero]
    exact ⟨by decide, by decide, rfl⟩
  · intro filled isFilled
    have below := ((decimals _ _ rfl great notWhole (isPower ▸ powerPos.ne') _ _ _).mp isFilled).2.1
    rw [isPower, abs_of_pos powerPos] at below
    exact lt_irrefl _ below

/-- A decimal that is almost nothing is accepted and has no digits before its point, but is refused
where its scale is the first beyond 64 bits. -/
theorem decimals_beyond_scales_are_refused :
    let numeral : Numeral := ⟨1, -9223372036854775808⟩
    let scalar : Leaf :=
      ⟨.bigInteger, LeafKind.bigInteger.accepting { decimal := true }, none, none⟩
    let json : Json := .number "1e-9223372036854775808"
    Numeral.Writes "1e-9223372036854775808".toList false numeral ∧ numeral.value false ≠ 0 ∧
      |numeral.value false| < 10 ^ 1000 ∧
      scalar.acceptance.desired.contains json.kind = true ∧
      ∀ filled, (leaf scalar).fill [] (some json) #[] ≠ .ok filled := by
  intro numeral scalar json
  have isRefused : ∃ fault, (leaf scalar).fill [] (some json) #[] = .error fault := ⟨_, rfl⟩
  have isValue : numeral.value false = 10 ^ (-9223372036854775808 : Int) := Numeral.value_one _
  have powerPos : (0 : ℚ) < 10 ^ (-9223372036854775808 : Int) := zpow_pos (by norm_num) _
  refine ⟨Numeral.writes_beyond_scales, ?_, ?_, rfl, ?_⟩
  · rw [isValue]
    exact powerPos.ne'
  · have isPower : (10 : ℚ) ^ (1000 : Int) = 10 ^ 1000 := zpow_natCast 10 1000
    rw [isValue, abs_of_pos powerPos, ← isPower]
    exact zpow_lt_zpow_right₀ (by norm_num) (by decide)
  · intro filled
    rcases isRefused with ⟨fault, isFault⟩
    simp [isFault]

end Shape

end JsonTables
