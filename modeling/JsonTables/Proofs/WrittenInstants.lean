import JsonTables.Proofs.CalendarDays
import JsonTables.Proofs.WrittenNumbers
import JsonTables.Time.InstantText

/-!
# Instants that are written and read back

An instant is written in parts of a known number of digits, so each part is read back up to
the mark behind it.  The parts make the same instant, but for a leap second in the middle
of a minute: its text has one second more and nothing in it that tells of a leap second.
-/

namespace JsonTables.Time

open Number (digitValue? digitsFrom AreDigits Bounds int64)
open Text (trimStart isBlank)

namespace Instant

/-- Whether the calendar has an instant.  A leap second may be behind any second. -/
structure IsInCalendar (instant : Instant) : Prop where
  year : InstantText.years.contains
    (Date.ofDays (instant.seconds.fdiv secondsPerDay)).year = true
  nanos : instant.nanos < 2 * nanosPerSecond

/-- Whether an instant is in no leap second but one at the end of a minute. -/
def LeapEndsMinute (instant : Instant) : Prop :=
  nanosPerSecond ≤ instant.nanos → instant.seconds % 60 = 59

instance (instant : Instant) : Decidable instant.LeapEndsMinute :=
  inferInstanceAs (Decidable (_ → _))

/-- The instant that the text of an instant tells.  A leap second in the middle of a minute
is told as the second behind it. -/
def settled (instant : Instant) : Instant :=
  if instant.LeapEndsMinute then instant
  else ⟨instant.seconds + 1, instant.nanos - nanosPerSecond⟩

theorem settled_eq_iff {instant : Instant} :
    instant.settled = instant ↔ instant.LeapEndsMinute := by
  unfold settled
  split
  · rename_i endsMinute
    simp [endsMinute]
  · rename_i inMinute
    refine iff_of_false ?_ inMinute
    intro isInstant
    have sameSeconds : instant.seconds + 1 = instant.seconds := congrArg Instant.seconds isInstant
    omega

theorem digitsFrom_padded (width value : Nat) : digitsFrom 0 (padded width value) = some value :=
  Number.digitsFrom_zeros_append _ (Number.digitsFrom_toDigits value)

theorem length_padded {width value : Nat} (someDigits : 0 < width) (fits : value < 10 ^ width) :
    (padded width value).length = width := by
  have notLonger := (Nat.length_toDigits_le_iff (by decide) someDigits).mpr fits
  simp only [padded, List.length_append, List.length_replicate]
  omega

theorem padded_ne_nil (width value : Nat) : padded width value ≠ [] := by
  simp [padded]

end Instant

namespace InstantText

open Instant (padded digitsFrom_padded length_padded padded_ne_nil)

/-! ### Numbers -/

theorem isBlank_of_digit {char : Char} (isDigit : '0' ≤ char ∧ char ≤ '9') :
    isBlank char = false := by
  have low : 48 ≤ char.toNat := isDigit.1
  have high : char.toNat ≤ 57 := isDigit.2
  exact Text.isBlank_of_visible (by omega) (by omega)

theorem trimStart_cons {char : Char} (notBlank : isBlank char = false) (rest : List Char) :
    trimStart (char :: rest) = char :: rest := by
  simp [trimStart, notBlank]

section Digits

variable {digits rest : List Char} {value : Nat}

theorem trimStart_digits (nonempty : digits ≠ []) (isNumber : digitsFrom 0 digits = some value) :
    trimStart (digits ++ rest) = digits ++ rest := by
  cases digits with
  | nil => exact absurd rfl nonempty
  | cons char others =>
      have isDigit := Number.areDigits_of_digitsFrom isNumber char List.mem_cons_self
      exact trimStart_cons (isBlank_of_digit isDigit) _

theorem isDigit_of_digits_eq_cons {char : Char} {others : List Char} (nonempty : digits ≠ [])
    (isNumber : digitsFrom 0 digits = some value) (isText : digits ++ rest = char :: others) :
    '0' ≤ char ∧ char ≤ '9' := by
  cases digits with
  | nil => exact absurd rfl nonempty
  | cons first more =>
      cases isText
      exact Number.areDigits_of_digitsFrom isNumber _ List.mem_cons_self

/-- Digits are read as their number if there are no more of them, or no more are wanted. -/
theorem number_digits (most : Nat) (nonempty : digits ≠ [])
    (isNumber : digitsFrom 0 digits = some value) (inside : (value : Int) ≤ int64.high)
    (stops : digits.length = most ∨ digits.length ≤ most ∧
      ∀ char, rest.head? = some char → digitValue? char = none) :
    number most (digits ++ rest) = .ok ((value : Int), rest) := by
  have areDigits : ∀ char ∈ digits, (digitValue? char).isSome = true := by
    intro char charMem
    rw [Number.digitValue?_eq_some (Number.areDigits_of_digitsFrom isNumber char charMem)]
    rfl
  have taken : ((digits ++ rest).take most).takeWhile (fun char => (digitValue? char).isSome) =
      digits := by
    rcases stops with rfl | ⟨fits, ends⟩
    · rw [List.take_left, List.takeWhile_eq_self_iff.mpr areDigits]
    · rw [List.take_append, List.take_of_length_le fits, List.takeWhile_append_of_pos areDigits]
      cases rest with
      | nil => simp
      | cons char others => cases most - digits.length <;> simp [ends char rfl]
  have fits : int64.contains value = true := by
    have low : int64.low ≤ 0 := by decide
    exact Bounds.contains_iff.mpr ⟨by omega, inside⟩
  have notEmpty : digits.isEmpty = false := by simpa using nonempty
  unfold number
  split
  · simp_all
  · simp only [taken, isNumber, notEmpty, fits, Bool.false_eq_true, if_false, if_true,
      List.drop_left]

/-- Two digits are read as a number between bounds. -/
theorem bounded_padded (bounds : Bounds) (fits : value < 100)
    (inside : bounds.contains value = true) (rest : List Char) :
    bounded bounds (padded 2 value ++ rest) = .ok (value, rest) := by
  have isNumber := digitsFrom_padded 2 value
  have high : (100 : Int) ≤ int64.high := by decide
  have isRead : number 2 (padded 2 value ++ rest) = .ok ((value : Int), rest) :=
    number_digits 2 (padded_ne_nil 2 value) isNumber (by omega)
      (.inl (length_padded (by decide) fits))
  simp only [bounded, trimStart_digits (padded_ne_nil 2 value) isNumber, isRead, Except.ok_bind,
    ensure, inside, if_true]
  rfl

theorem mark_append (expected : Char) (rest : List Char) :
    mark expected (expected :: rest) = .ok rest := by
  simp [mark]

end Digits

/-! ### Dates -/

/-- No digit follows where a part of the text ends with a mark. -/
theorem noDigit_cons {char : Char} (noDigit : digitValue? char = none) (rest : List Char) :
    ∀ next, (char :: rest).head? = some next → digitValue? next = none := by
  rintro _ ⟨⟩
  exact noDigit

theorem relaxedYear_showYear {year : Int} (inside : years.contains year = true) (rest : List Char) :
    relaxedYear (Instant.showYear year ++ '-' :: rest) = .ok (year, '-' :: rest) := by
  rcases Bounds.contains_iff.mp inside with ⟨low, high⟩
  have lowest : years.low = -262143 := rfl
  have highest : years.high = 262142 := rfl
  have large : (262143 : Int) ≤ int64.high := by decide
  have fits : (Bounds.signed 32).contains year = true := by
    have lowFits : (Bounds.signed 32).low ≤ years.low := by decide
    have highFits : years.high ≤ (Bounds.signed 32).high := by decide
    exact Bounds.contains_iff.mpr ⟨by omega, by omega⟩
  have ends := noDigit_cons (show digitValue? '-' = none by decide) rest
  have isNumber := digitsFrom_padded 4 year.natAbs
  have isNumeral : ∀ most, most = 4 ∧ year.natAbs ≤ 9999 ∨ (padded 4 year.natAbs).length ≤ most →
      number most (padded 4 year.natAbs ++ '-' :: rest) =
        .ok ((year.natAbs : Int), '-' :: rest) := by
    intro most fits
    apply number_digits most (padded_ne_nil _ _) isNumber (by omega)
    rcases fits with ⟨rfl, common⟩ | room
    · exact .inl (length_padded (by decide) (by omega))
    · exact .inr ⟨room, ends⟩
  by_cases common : 0 ≤ year ∧ year ≤ 9999
  · have isRead := isNumeral 4 (.inl ⟨rfl, by omega⟩)
    have isYear : (year.natAbs : Int) = year := by omega
    rw [isYear] at isRead
    rw [Instant.showYear, if_pos common, show year.toNat = year.natAbs by omega, relaxedYear,
      trimStart_digits (padded_ne_nil _ _) isNumber]
    split
    · rename_i isSign
      exact absurd (isDigit_of_digits_eq_cons (padded_ne_nil _ _) isNumber isSign) (by decide)
    · rename_i isSign
      exact absurd (isDigit_of_digits_eq_cons (padded_ne_nil _ _) isNumber isSign) (by decide)
    · simp [isRead, ensure, fits]
  · have room : (padded 4 year.natAbs).length ≤ (padded 4 year.natAbs ++ '-' :: rest).length := by
      simp
    have isRead := isNumeral _ (.inr room)
    rw [Instant.showYear, if_neg common]
    by_cases negative : year < 0
    · have isYear : -(year.natAbs : Int) = year := by omega
      rw [if_pos negative, List.cons_append, relaxedYear, trimStart_cons (by decide)]
      simp only [isRead, Except.ok_bind, pure_bind, isYear, ensure, fits, if_true]
      rfl
    · have isYear : (year.natAbs : Int) = year := by omega
      rw [isYear] at isRead
      rw [if_neg negative, List.cons_append, relaxedYear, trimStart_cons (by decide)]
      simp only [isRead, Except.ok_bind, ensure, fits, if_true]
      rfl

theorem month_bounds {date : Date} (isValid : date.isValid = true) :
    1 ≤ date.month ∧ date.month ≤ 12 ∧ 1 ≤ date.day ∧ date.day ≤ 31 := by
  have longest : Date.daysInMonth date.year date.month ≤ 31 := by
    unfold Date.daysInMonth
    split
    · split <;> decide
    all_goals decide
  simp only [Date.isValid, Bool.and_eq_true, decide_eq_true_eq] at isValid
  omega

theorem relaxedDate_show {date : Date} (isValid : date.isValid = true)
    (inside : years.contains date.year = true) (rest : List Char) :
    relaxedDate (Instant.showYear date.year ++ '-' :: padded 2 date.month
      ++ '-' :: padded 2 date.day ++ rest) = .ok (date, rest) := by
  rcases month_bounds isValid with ⟨someMonth, lastMonth, someDay, lastDay⟩
  have mark : ∀ rest, trimStart ('-' :: rest) = '-' :: rest := trimStart_cons (by decide)
  have month := fun rest => bounded_padded ⟨1, 12⟩ (by omega : date.month < 100)
    (Bounds.contains_iff.mpr ⟨by simpa using someMonth, by simpa using lastMonth⟩) rest
  have day := fun rest => bounded_padded ⟨1, 31⟩ (by omega : date.day < 100)
    (Bounds.contains_iff.mpr ⟨by simpa using someDay, by simpa using lastDay⟩) rest
  simp only [List.append_assoc, List.cons_append, relaxedDate, relaxedYear_showYear inside,
    Except.ok_bind, mark, mark_append, month, day]
  rfl

/-! ### Times -/

theorem fraction_padded (places value : Nat) (somePlaces : 0 < places) (fewPlaces : places ≤ 9)
    (fits : value < 10 ^ places) :
    fraction (padded places value ++ ['Z']) = .ok (value * 10 ^ (9 - places), ['Z']) := by
  have length := length_padded somePlaces fits
  have small : 10 ^ places ≤ 10 ^ 9 := Nat.pow_le_pow_right (by decide) fewPlaces
  have large : ((10 ^ 9 : Nat) : Int) ≤ int64.high := by decide
  have isRead : number 9 (padded places value ++ ['Z']) = .ok ((value : Int), ['Z']) :=
    number_digits 9 (padded_ne_nil _ _) (digitsFrom_padded _ _) (by omega)
      (.inr ⟨by omega, noDigit_cons (by decide) []⟩)
  have noDigit : (digitValue? 'Z').isSome = false := by decide
  simp [fraction, isRead, length, noDigit]

/-- A part of a second is read back from as few digits as it was written in. -/
theorem optionalFraction_showFraction {nanos : Nat} (fits : nanos < Instant.nanosPerSecond) :
    optionalFraction (Instant.showFraction nanos ++ ['Z']) = .ok (nanos, ['Z']) := by
  rw [Instant.nanosPerSecond] at fits
  unfold Instant.showFraction
  split
  · rename_i isZero
    rw [isZero]
    rfl
  · split
    · have isRead := fraction_padded 3 (nanos / 1000000) (by decide) (by decide)
        (by omega)
      rw [show nanos / 1000000 * 10 ^ (9 - 3) = nanos by omega] at isRead
      exact isRead
    · split
      · have isRead := fraction_padded 6 (nanos / 1000) (by decide) (by decide)
          (by omega)
        rw [show nanos / 1000 * 10 ^ (9 - 6) = nanos by omega] at isRead
        exact isRead
      · have isRead := fraction_padded 9 nanos (by decide) (by decide)
          (by omega)
        rw [show nanos * 10 ^ (9 - 9) = nanos by omega] at isRead
        exact isRead

theorem relaxedClock_show {clock : Clock} (isValid : clock.isValid = true)
    (fits : clock.nanos < Instant.nanosPerSecond) :
    relaxedClock (padded 2 clock.hour ++ ':' :: padded 2 clock.minute
      ++ ':' :: padded 2 clock.second ++ Instant.showFraction clock.nanos ++ ['Z']) =
        .ok (clock, ['Z']) := by
  simp only [Clock.isValid, Bool.and_eq_true, decide_eq_true_eq] at isValid
  have mark : ∀ rest, trimStart (':' :: rest) = ':' :: rest := trimStart_cons (by decide)
  have zone : trimStart ['Z'] = ['Z'] := by decide
  have hour := fun rest => bounded_padded ⟨0, 23⟩ (by omega : clock.hour < 100)
    (Bounds.contains_iff.mpr ⟨by simp, by simp; omega⟩) rest
  have minute := fun rest => bounded_padded ⟨0, 59⟩ (by omega : clock.minute < 100)
    (Bounds.contains_iff.mpr ⟨by simp, by simp; omega⟩) rest
  have second := fun rest => bounded_padded ⟨0, 60⟩ (by omega : clock.second < 100)
    (Bounds.contains_iff.mpr ⟨by simp, by simp; omega⟩) rest
  simp only [List.append_assoc, List.cons_append, relaxedClock, Except.ok_bind, mark, mark_append,
    hour, minute, second, optionalFraction_showFraction fits, zone]
  rfl

/-! ### Instants -/

/-- The date of an instant in universal time. -/
def dateOf (instant : Instant) : Date :=
  Date.ofDays (instant.seconds.fdiv Instant.secondsPerDay)

/-- The time of day of an instant as it is written. -/
def clockOf (instant : Instant) : Clock :=
  let ofDay := (instant.seconds.fmod Instant.secondsPerDay).toNat
  ⟨ofDay / 3600, ofDay / 60 % 60,
    ofDay % 60 + (if Instant.nanosPerSecond ≤ instant.nanos then 1 else 0),
    instant.nanos % Instant.nanosPerSecond⟩

theorem toList_toString (instant : Instant) :
    (toString instant).toList =
      Instant.showYear (dateOf instant).year ++ '-' :: padded 2 (dateOf instant).month
        ++ '-' :: padded 2 (dateOf instant).day
        ++ 'T' :: (padded 2 (clockOf instant).hour ++ ':' :: padded 2 (clockOf instant).minute
          ++ ':' :: padded 2 (clockOf instant).second
          ++ Instant.showFraction (clockOf instant).nanos ++ ['Z']) := by
  change (Instant.toString instant).toList = _
  simp only [Instant.toString, String.toList_ofList, dateOf, clockOf, List.append_assoc,
    List.cons_append]

theorem seconds_eq (instant : Instant) :
    ∃ ofDay : Nat, ofDay < 86400 ∧ (instant.seconds.fmod Instant.secondsPerDay).toNat = ofDay ∧
      instant.seconds = instant.seconds.fdiv Instant.secondsPerDay * 86400 + ofDay := by
  have perDay : (Instant.secondsPerDay : Int) = 86400 := rfl
  rw [perDay, Int.fmod_eq_emod_of_nonneg _ (by decide), Int.fdiv_eq_ediv_of_nonneg _ (by decide)]
  exact ⟨_, by omega, rfl, by omega⟩

theorem isValid_clockOf (instant : Instant) : (clockOf instant).isValid = true := by
  rcases seconds_eq instant with ⟨ofDay, inDay, isOfDay, _⟩
  simp only [clockOf, Clock.isValid, isOfDay, Bool.and_eq_true, decide_eq_true_eq]
  split <;> omega

/-- The date and the time of day of an instant make the instant that its text tells. -/
theorem clockOf_at {instant : Instant} (inCalendar : instant.IsInCalendar) :
    (clockOf instant).at (dateOf instant) 0 = instant.settled := by
  rcases seconds_eq instant with ⟨ofDay, inDay, isOfDay, isSum⟩
  rcases instant with ⟨seconds, nanos⟩
  have perDay : (Instant.secondsPerDay : Int) = 86400 := rfl
  have perSecond : Instant.nanosPerSecond = 1000000000 := rfl
  have twice : nanos < 2 * 1000000000 := inCalendar.nanos
  have written : ofDay / 3600 * 3600 + ofDay / 60 % 60 * 60 + ofDay % 60 = ofDay := by omega
  rw [perDay] at isOfDay isSum
  dsimp only at isOfDay isSum
  unfold Instant.settled Instant.LeapEndsMinute
  simp only [Clock.at, clockOf, dateOf, perDay, perSecond, isOfDay, Date.toDays_ofDays]
  by_cases isLeap : 1000000000 ≤ nanos
  · by_cases lastSecond : ofDay % 60 = 59
    · have endsMinute : seconds % 60 = 59 := by omega
      simp only [if_pos isLeap, lastSecond, endsMinute, if_true, imp_true_iff, Instant.mk.injEq]
      omega
    · have inMinute : ¬(1000000000 ≤ nanos → seconds % 60 = 59) := by omega
      have notSixty : ¬ofDay % 60 + 1 = 60 := by omega
      simp only [if_pos isLeap, if_neg notSixty, if_neg inMinute, Instant.mk.injEq]
      omega
  · have notSixty : ¬ofDay % 60 + 0 = 60 := by omega
    have noLeap : 1000000000 ≤ nanos → seconds % 60 = 59 := fun leap => absurd leap isLeap
    simp only [if_neg isLeap, if_neg notSixty, if_pos noLeap, Instant.mk.injEq]
    omega

theorem dateOf_settled (instant : Instant) : dateOf instant.settled = dateOf instant := by
  have perDay : (Instant.secondsPerDay : Int) = 86400 := rfl
  unfold Instant.settled
  split
  · rfl
  · rename_i inMinute
    -- A day is a number of minutes, so one second more is on the same day within a minute.
    have notLast : instant.seconds % 60 ≠ 59 := fun last => inMinute fun _ => last
    have sameDay : (instant.seconds + 1) / 86400 = instant.seconds / 86400 := by omega
    simp only [dateOf, perDay, Int.fdiv_eq_ediv_of_nonneg _ (show (0 : Int) ≤ 86400 by decide),
      sameDay]

/-- The text of an instant of the calendar is read as the instant that it tells. -/
theorem readRelaxed_toString {instant : Instant} (inCalendar : instant.IsInCalendar) :
    readRelaxed (toString instant) = .ok instant.settled := by
  have dateValid : (dateOf instant).isValid = true := Date.isValid_ofDays _
  have yearFits : years.contains (dateOf instant).year = true := inCalendar.year
  have fits : (clockOf instant).nanos < Instant.nanosPerSecond := Nat.mod_lt _ (by decide)
  have date := relaxedDate_show dateValid yearFits
  have clock := relaxedClock_show (isValid_clockOf instant) fits
  have zone : relaxedOffset ['Z'] = .ok (0, []) := rfl
  have yearOf :
      years.contains (Date.ofDays (instant.settled.seconds.fdiv Instant.secondsPerDay)).year =
        true := by
    rw [← dateOf_settled] at yearFits
    exact yearFits
  have between : ∀ rest, separator ('T' :: rest) = .ok rest := fun _ => rfl
  simp only [readRelaxed, toList_toString, date, Except.ok_bind, between, clock, zone,
    clockOf_at inCalendar]
  have noMore : (trimStart []).isEmpty = true := rfl
  have inDay : (decide (-(Instant.secondsPerDay : Int) < 0)
      && decide ((0 : Int) < Instant.secondsPerDay)) = true := by
    decide
  rw [if_pos noMore, inDay, dateValid, yearFits, yearOf]
  rfl

end InstantText

end JsonTables.Time
