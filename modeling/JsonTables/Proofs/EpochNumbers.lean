import JsonTables.Proofs.TruncatedNumbers

/-!
# Epoch numbers

A number of units since the epoch is multiplied by the nanoseconds of a unit before its fraction
is dropped, so the instant is exact to the nanosecond.  Integers are multiplied as integers of
64 bits and all other numbers as decimals; both come to the same nanoseconds, and are refused
where these are not an integer of 64 bits.  Only what is too small to have a scale of 64 bits, and
a zero with a thousand zeros behind it, is refused without being out of range.
-/

namespace JsonTables

open Number (Decimal Numeral Spells int64 towardZero)
open Time (EpochUnit Instant)

/-! ### Scaled decimals -/

namespace Number.Decimal

variable {decimal : Decimal}

theorem value_scaleBy (decimal : Decimal) (factor : Int) :
    (decimal.scaleBy factor).value = decimal.value * factor := by
  simp only [value, scaleBy, Int.cast_mul]
  ring

theorem isInReach_scaleBy {factor : Int} (nonzero : factor ≠ 0) :
    (decimal.scaleBy factor).IsInReach ↔ decimal.IsInReach := by
  have sameZeros : decimal.unscaled * factor = 0 ↔ decimal.unscaled = 0 := by
    rw [mul_eq_zero, or_iff_left nonzero]
  constructor
  · intro reach
    exact ⟨reach.scale, fun isZero => reach.zero (sameZeros.mpr isZero)⟩
  · intro reach
    exact ⟨reach.scale, fun isZero => reach.zero (sameZeros.mp isZero)⟩

/-- What is not zero, and has an integer part of 64 bits, never has too small a scale. -/
theorem isInReach_iff_of_nonzero (nonzero : decimal.unscaled ≠ 0)
    (inside : int64.contains (towardZero decimal.value) = true) :
    decimal.IsInReach ↔ decimal.scale < 2 ^ 63 := by
  rw [← int64_scale_iff (integerDigits_le_of_int64 inside nonzero)]
  exact ⟨IsInReach.scale, fun scaled => ⟨scaled, fun isZero => absurd isZero nonzero⟩⟩

end Number.Decimal

/-! ### Instants from nanoseconds -/

namespace Time

/-- The nanoseconds from the epoch to an instant. -/
def Instant.sinceEpoch (instant : Instant) : Int :=
  instant.seconds * nanosPerSecond + instant.nanos

/-- An instant of nanoseconds is the one that is so many after the epoch and no leap second. -/
theorem Instant.eq_ofNanos_iff {instant : Instant} {nanos : Int} :
    instant = .ofNanos nanos ↔ instant.sinceEpoch = nanos ∧ instant.nanos < nanosPerSecond := by
  have perSecond : (nanosPerSecond : Int) = 1000000000 := rfl
  rcases instant with ⟨seconds, part⟩
  simp only [ofNanos, Instant.mk.injEq, sinceEpoch, perSecond,
    Int.fdiv_eq_ediv_of_nonneg nanos (by decide : (0 : Int) ≤ 1000000000),
    Int.fmod_eq_emod_of_nonneg nanos (by decide : (0 : Int) ≤ 1000000000)]
  rw [show nanosPerSecond = 1000000000 from rfl]
  omega

namespace EpochUnit

theorem toNanos_pos (unit : EpochUnit) : 0 < unit.toNanos := by
  cases unit <;> decide

theorem toNanos_ne_zero (unit : EpochUnit) : (unit.toNanos : Int) ≠ 0 :=
  Int.natCast_ne_zero.mpr unit.toNanos_pos.ne'

/-- The nanoseconds of a number of units, without the fraction that is left. -/
def nanosOf (unit : EpochUnit) (value : ℚ) : Int :=
  towardZero (value * unit.toNanos)

theorem nanosOf_intCast (unit : EpochUnit) (value : Int) :
    unit.nanosOf value = value * unit.toNanos := by
  rw [nanosOf, ← Int.cast_natCast, ← Int.cast_mul, Number.towardZero_intCast]

end EpochUnit

end Time

/-! ### Reading epoch numbers -/

namespace Leaf

variable {unit : EpochUnit} {allowDecimal : Bool} {json : Json} {text : String}
  {decimal : Decimal} {value nanos : Int} {instant : Instant}

theorem nanosOfInteger_eq_ok_iff :
    nanosOfInteger unit value = .ok nanos ↔
      int64.contains (unit.nanosOf value) = true ∧ nanos = unit.nanosOf value := by
  rw [nanosOfInteger, EpochUnit.nanosOf_intCast]
  by_cases inside : int64.contains (value * unit.toNanos) = true
  · simp [inside, eq_comm]
  · simp [inside]

/-- An integer has 64 bits if its nanoseconds have. -/
theorem int64_of_nanosOf (inside : int64.contains (unit.nanosOf value) = true) :
    int64.contains value = true := by
  have unitPos := unit.toNanos_pos
  rw [EpochUnit.nanosOf_intCast, int64, Number.Bounds.contains_signed_iff] at inside
  rw [int64, Number.Bounds.contains_signed_iff]
  rcases le_total 0 value with notNegative | notPositive
  · have grows : value ≤ value * unit.toNanos := le_mul_of_one_le_right notNegative (by omega)
    omega
  · have falls : value * unit.toNanos ≤ value := by nlinarith
    omega

/-- A decimal is scaled before its integer part is taken. -/
theorem nanosOfDecimal_eq_ok_iff
    (isRead : ∀ result, Decimal.read text = .ok result ↔
      int64.contains decimal.scale = true ∧ result = decimal) :
    nanosOfDecimal unit text = .ok nanos ↔
      decimal.IsInReach ∧ int64.contains (unit.nanosOf decimal.value) = true ∧
        nanos = unit.nanosOf decimal.value := by
  simp only [nanosOfDecimal, decimalOf, Except.bind_eq_ok_iff, Except.mapError_eq_ok_iff, isRead,
    and_assoc, exists_and_left, exists_eq_left]
  by_cases scaled : int64.contains decimal.scale = true
  · have scaledToo : int64.contains (decimal.scaleBy unit.toNanos).scale = true := scaled
    rw [and_iff_right scaled, int64OfDecimal_eq_ok_iff scaledToo,
      Decimal.isInReach_scaleBy unit.toNanos_ne_zero, Decimal.value_scaleBy, Int.cast_natCast]
    rfl
  · exact iff_of_false (fun isPart => scaled isPart.1) (fun isPart => scaled isPart.1.scale)

/-- A number of units other than zero, whose nanoseconds have 64 bits, is in reach just if its scale
is not too great. -/
theorem isInReach_iff_of_nanosOf (nonzero : decimal.value ≠ 0)
    (inside : int64.contains (unit.nanosOf decimal.value) = true) :
    decimal.IsInReach ↔ decimal.scale < 2 ^ 63 := by
  have unitNonzero := unit.toNanos_ne_zero
  have scaledNonzero : (decimal.scaleBy unit.toNanos).unscaled ≠ 0 :=
    mul_ne_zero (mt Decimal.value_eq_zero_iff.mpr nonzero) unitNonzero
  have scaledInside :
      int64.contains (towardZero (decimal.scaleBy unit.toNanos).value) = true := by
    rwa [Decimal.value_scaleBy, Int.cast_natCast]
  rw [← Decimal.isInReach_scaleBy unitNonzero]
  exact Decimal.isInReach_iff_of_nonzero scaledNonzero scaledInside

/-- An integer of any length is read as its nanoseconds, if these have 64 bits. -/
theorem readEpoch_integer_eq_ok_iff (spells : Spells text.toList value) :
    readEpoch unit allowDecimal (.number text) = .ok instant ↔
      int64.contains (unit.nanosOf value) = true ∧ instant = .ofNanos (unit.nanosOf value) := by
  simp only [readEpoch, isIntegerText_of_spells spells, if_true, Except.bind_eq_ok_iff,
    Except.pure_eq_ok_iff, int64OfNumber_eq_ok_iff spells, nanosOfInteger_eq_ok_iff, and_assoc,
    exists_and_left, exists_eq_left]
  rw [@eq_comm _ instant]
  exact and_iff_right_of_imp fun inside => int64_of_nanosOf inside.1

/-- A number of a document is read as the decimal that it is, whether or not it is an integer. -/
theorem readEpoch_number_eq_ok_iff {negative : Bool} {numeral : Numeral}
    (bounded : text.length < 2 ^ 64) (writes : Numeral.Writes text.toList negative numeral) :
    readEpoch unit allowDecimal (.number text) = .ok instant ↔
      (numeral.toDecimal negative).IsInReach ∧
        int64.contains (unit.nanosOf (numeral.toDecimal negative).value) = true ∧
          instant = .ofNanos (unit.nanosOf (numeral.toDecimal negative).value) := by
  have isRead : ∀ result, Decimal.read text = .ok result ↔
      int64.contains (numeral.toDecimal negative).scale = true ∧
        result = numeral.toDecimal negative :=
    fun result => writes.decimal_read_eq_ok_iff bounded
  by_cases isInteger : Json.isIntegerText text = true
  · obtain ⟨value, spells⟩ := writes.exists_spells isInteger
    obtain ⟨_, isDecimal⟩ := (isRead _).mp (Number.decimal_read_of_spells spells)
    rw [← isDecimal, Decimal.value_ofInt, and_iff_right (Decimal.isInReach_ofInt value)]
    exact readEpoch_integer_eq_ok_iff spells
  · simp only [readEpoch, if_neg isInteger, Except.bind_eq_ok_iff, Except.pure_eq_ok_iff,
      nanosOfDecimal_eq_ok_iff isRead, and_assoc, exists_and_left, exists_eq_left]
    rw [@eq_comm _ instant]

theorem readEpoch_text_eq_ok_iff
    (isRead : ∀ result, Decimal.read text = .ok result ↔
      int64.contains decimal.scale = true ∧ result = decimal) :
    readEpoch unit true (.string text) = .ok instant ↔
      decimal.IsInReach ∧ int64.contains (unit.nanosOf decimal.value) = true ∧
        instant = .ofNanos (unit.nanosOf decimal.value) := by
  simp only [readEpoch, if_true, Except.bind_eq_ok_iff, Except.pure_eq_ok_iff,
    nanosOfDecimal_eq_ok_iff isRead, and_assoc, exists_and_left, exists_eq_left]
  rw [@eq_comm _ instant]

/-- What denotes a decimal where epoch numbers are read: an integer of any length, what stands for
the decimal and, where decimals are accepted, a text that writes its numeral, be that in reach or
not. -/
inductive Denotes (allowDecimal : Bool) : Json → Decimal → Prop
  | integer {text : String} {value : Int} (spells : Spells text.toList value) :
      Denotes allowDecimal (.number text) (.ofInt value)
  | stands {json : Json} {decimal : Decimal} (stands : StandsFor allowDecimal json decimal) :
      Denotes allowDecimal json decimal
  | text {text : String} {negative : Bool} {numeral : Numeral} (decimals : allowDecimal = true)
      (bounded : text.length < 2 ^ 64) (writes : Numeral.Writes text.toList negative numeral) :
      Denotes allowDecimal (.string text) (numeral.toDecimal negative)

theorem Denotes.notNull (denotes : Denotes allowDecimal json decimal) : json ≠ .null := by
  cases denotes with
  | integer spells => exact nofun
  | stands stands => exact stands.notNull
  | text decimals bounded writes => exact nofun

/-- What denotes a decimal is read as its nanoseconds, if these have 64 bits. -/
theorem Denotes.readEpoch_eq_ok_iff (denotes : Denotes allowDecimal json decimal) :
    readEpoch unit allowDecimal json = .ok instant ↔
      decimal.IsInReach ∧ int64.contains (unit.nanosOf decimal.value) = true ∧
        instant = .ofNanos (unit.nanosOf decimal.value) := by
  cases denotes with
  | integer spells =>
      rw [Decimal.value_ofInt, and_iff_right (Decimal.isInReach_ofInt _)]
      exact readEpoch_integer_eq_ok_iff spells
  | stands stands =>
      cases stands with
      | number bounded writes => exact readEpoch_number_eq_ok_iff bounded writes
      | text decimals isRead =>
          rw [decimals]
          apply readEpoch_text_eq_ok_iff
          intro result
          rw [isRead, Except.ok.injEq, and_iff_right (Decimal.scale_of_read isRead), eq_comm]
  | text decimals bounded writes =>
      rw [decimals]
      exact readEpoch_text_eq_ok_iff fun result => writes.decimal_read_eq_ok_iff bounded

end Leaf

namespace Shape

variable {scalar : Leaf} {unit : EpochUnit} {json other : Json} {decimal otherDecimal : Decimal}

/-- A leaf of epoch numbers takes what denotes a decimal as its nanoseconds. -/
theorem fill_epoch_eq_ok_iff (isEpoch : scalar.kind = .epoch unit)
    (accepts : scalar.acceptance.desired.contains json.kind = true)
    (denotes : Leaf.Denotes (scalar.acceptance.desired.contains .decimal) json decimal)
    {path : Path} {row filled : Array Cell} :
    (leaf scalar).fill path (some json) row = .ok filled ↔
      decimal.IsInReach ∧ int64.contains (unit.nanosOf decimal.value) = true ∧
        filled = row.push (.instant (.ofNanos (unit.nanosOf decimal.value))) := by
  rw [fill_leaf_some_eq_ok_iff denotes.notNull, and_iff_right accepts]
  rcases scalar with ⟨kind, acceptance, onNull, onMissing⟩
  cases isEpoch
  simp only [Leaf.readValue, denotes.readEpoch_eq_ok_iff, and_assoc, exists_and_left,
    exists_eq_left, LeafKind.cell]

theorem fill_epoch_eq_ok_iff_of_nonzero (isEpoch : scalar.kind = .epoch unit)
    (accepts : scalar.acceptance.desired.contains json.kind = true)
    (denotes : Leaf.Denotes (scalar.acceptance.desired.contains .decimal) json decimal)
    (nonzero : decimal.value ≠ 0) {path : Path} {row filled : Array Cell} :
    (leaf scalar).fill path (some json) row = .ok filled ↔
      decimal.scale < 2 ^ 63 ∧ int64.contains (unit.nanosOf decimal.value) = true ∧
        filled = row.push (.instant (.ofNanos (unit.nanosOf decimal.value))) := by
  rw [fill_epoch_eq_ok_iff isEpoch accepts denotes]
  apply and_congr_left
  rintro ⟨inside, _⟩
  exact Leaf.isInReach_iff_of_nanosOf nonzero inside

/-- A leaf of epoch numbers takes a number other than zero as the instant so many units from the
epoch, to the nanosecond next to it on the side of zero, just if the nanoseconds are an integer of
64 bits and the scale is not beyond those.  Every number of a document is such a number, and an
integer of any length has no scale.  Of two that are one number, both are taken alike or both are
refused. -/
theorem epoch_numbers_are_exact (isEpoch : scalar.kind = .epoch unit) :
    (∀ token bytes, JsonText.SpellsNumber token bytes → Json.isIntegerText token.text = true →
      ∃ value, Spells token.text.toList value ∧
        Leaf.Denotes (scalar.acceptance.desired.contains .decimal) (.number token.text)
          (.ofInt value)) ∧
    (∀ token bytes, JsonText.SpellsNumber token bytes → token.text.length < 2 ^ 64 →
      ∃ negative numeral decimal, Numeral.Writes token.text.toList negative numeral ∧
        Leaf.Denotes (scalar.acceptance.desired.contains .decimal) (.number token.text) decimal ∧
        decimal.value = numeral.value negative) ∧
    (∀ json decimal, scalar.acceptance.desired.contains json.kind = true →
      Leaf.Denotes (scalar.acceptance.desired.contains .decimal) json decimal →
      decimal.value ≠ 0 →
      ∀ path row filled, (leaf scalar).fill path (some json) row = .ok filled ↔
        decimal.scale < 2 ^ 63 ∧ int64.contains (unit.nanosOf decimal.value) = true ∧
          filled = row.push (.instant (.ofNanos (unit.nanosOf decimal.value)))) ∧
    (∀ json other decimal otherDecimal, scalar.acceptance.desired.contains json.kind = true →
      scalar.acceptance.desired.contains other.kind = true →
      Leaf.Denotes (scalar.acceptance.desired.contains .decimal) json decimal →
      Leaf.Denotes (scalar.acceptance.desired.contains .decimal) other otherDecimal →
      decimal.value = otherDecimal.value → decimal.value ≠ 0 →
      decimal.scale < 2 ^ 63 → otherDecimal.scale < 2 ^ 63 →
      ∀ path row filled, (leaf scalar).fill path (some json) row = .ok filled ↔
        (leaf scalar).fill path (some other) row = .ok filled) ∧
    ∀ nanos instant, instant = Instant.ofNanos nanos ↔
      instant.sinceEpoch = nanos ∧ instant.nanos < Instant.nanosPerSecond := by
  refine ⟨?_, ?_, ?_, ?_, fun _ _ => Instant.eq_ofNanos_iff⟩
  · intro token bytes spells isInteger
    obtain ⟨value, spelled⟩ := Numeral.exists_spells_of_spellsNumber spells isInteger
    exact ⟨value, spelled, .integer spelled⟩
  · intro token bytes spells bounded
    obtain ⟨negative, numeral, writes⟩ := Numeral.exists_writes_of_spellsNumber spells
    exact ⟨negative, numeral, _, writes, .stands (.number bounded writes),
      numeral.value_toDecimal negative⟩
  · intro json decimal accepts denotes nonzero path row filled
    exact fill_epoch_eq_ok_iff_of_nonzero isEpoch accepts denotes nonzero
  · intro json other decimal otherDecimal accepts acceptsOther denotes denotesOther sameValue
      nonzero scaled scaledOther path row filled
    rw [fill_epoch_eq_ok_iff_of_nonzero isEpoch accepts denotes nonzero,
      fill_epoch_eq_ok_iff_of_nonzero isEpoch acceptsOther denotesOther (sameValue ▸ nonzero),
      sameValue, and_iff_right scaled, and_iff_right scaledOther]

/-- A negative number of seconds loses what is less than a nanosecond, and a text that writes it in
another way does so too. -/
theorem fraction_of_a_nanosecond_is_dropped :
    let scalar : Leaf :=
      { kind := .epoch .seconds, acceptance := ⟨true, .ofList [.string, .int, .decimal]⟩ }
    let filled : Array Cell := #[.instant ⟨-2, 500000000⟩]
    (leaf scalar).fill [] (some (.number "-1.5000000009")) #[] = .ok filled ∧
      (leaf scalar).fill [] (some (.string "-15_000000009e-10")) #[] = .ok filled := by
  intro scalar filled
  have magnitude : Numeral.Magnitude (['1'] ++ '.' :: "5000000009".toList ++ [])
      ⟨15000000009, 0 - 10⟩ := .pointed _ _ (by decide) rfl .nothing
  have writes : Numeral.Writes "-1.5000000009".toList true ⟨15000000009, 0 - 10⟩ :=
    .minus magnitude
  have number : Leaf.Denotes true (.number "-1.5000000009") ⟨-15000000009, 10⟩ :=
    .stands (Leaf.StandsFor.number (by decide) writes)
  have text : Leaf.Denotes true (.string "-15_000000009e-10") ⟨-15000000009, 10⟩ :=
    .stands (.text rfl (by rfl))
  have nonzero : Decimal.value ⟨-15000000009, 10⟩ ≠ 0 :=
    mt Decimal.value_eq_zero_iff.mp (by decide)
  have isPart : EpochUnit.seconds.nanosOf (Decimal.value ⟨-15000000009, 10⟩) = -1500000000 := by
    have isQuotient : Decimal.value ⟨-15000000009, 10⟩ * EpochUnit.seconds.toNanos =
        ((-15000000009 : Int) / (10 : Nat) : ℚ) := by
      norm_num [Decimal.value, EpochUnit.toNanos]
    rw [EpochUnit.nanosOf, isQuotient, Number.towardZero_div]
    rfl
  have isEpoch : scalar.kind = .epoch .seconds := rfl
  obtain ⟨_, _, takes, alike, _⟩ := epoch_numbers_are_exact isEpoch
  have isFilled := (takes _ _ rfl number nonzero [] #[] filled).mpr
    ⟨by decide, by rw [isPart]; decide, by rw [isPart]; rfl⟩
  exact ⟨isFilled, (alike _ _ _ _ rfl rfl number text rfl nonzero (by decide) (by decide)
    [] #[] filled).mp isFilled⟩

/-- A number of seconds that is almost nothing is accepted and no nanosecond from the epoch, but
refused where its scale is the first beyond 64 bits. -/
theorem seconds_beyond_scales_are_refused :
    let numeral : Numeral := ⟨1, -9223372036854775808⟩
    let scalar : Leaf :=
      ⟨.epoch .seconds, (LeafKind.epoch .seconds).accepting { decimal := true }, none, none⟩
    let json : Json := .number "1e-9223372036854775808"
    Numeral.Writes "1e-9223372036854775808".toList false numeral ∧ numeral.value false ≠ 0 ∧
      int64.contains (EpochUnit.seconds.nanosOf (numeral.value false)) = true ∧
      scalar.acceptance.desired.contains json.kind = true ∧
      ∀ filled, (leaf scalar).fill [] (some json) #[] ≠ .ok filled := by
  intro numeral scalar json
  have isRefused : ∃ fault, (leaf scalar).fill [] (some json) #[] = .error fault := ⟨_, rfl⟩
  have isValue : numeral.value false = 10 ^ (-9223372036854775808 : Int) := Numeral.value_one _
  refine ⟨Numeral.writes_beyond_scales, ?_, ?_, rfl, ?_⟩
  · rw [isValue]
    exact zpow_ne_zero _ (by norm_num)
  · have isZero : EpochUnit.seconds.nanosOf (numeral.value false) = 0 := by
      have isPower : (EpochUnit.seconds.toNanos : ℚ) = 10 ^ (9 : Int) := by
        norm_num [EpochUnit.toNanos]
      rw [EpochUnit.nanosOf, isValue, isPower, ← zpow_add₀ (by norm_num)]
      exact Number.towardZero_pow_of_neg (by decide)
    rw [isZero]
    decide
  · intro filled
    rcases isRefused with ⟨fault, isFault⟩
    simp [isFault]

end Shape

end JsonTables
