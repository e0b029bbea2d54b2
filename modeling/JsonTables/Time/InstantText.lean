import JsonTables.Number.IntegerText
import JsonTables.Text.Blank
import JsonTables.Time.Instant

/-!
# Reading instants

Two readers for the form of RFC 3339: a date, a time and an offset from
universal time.  The strict reader wants that form to the letter.  The relaxed
one also takes years of any length with a sign, one digit where two are usual,
blanks between the parts, and `UTC` for the offset zero.  Both report the first
fault they meet; the strict one finds a text of fewer than nineteen bytes too
short before it looks at it.
-/

namespace JsonTables.Time

/-- Why a text is no instant. -/
inductive InstantFault
  | outOfRange
  | impossible
  | invalid
  | tooShort
  | tooLong
deriving DecidableEq, Repr

/-- The text of a fault. -/
def InstantFault.message : InstantFault → String
  | .outOfRange => "input is out of range"
  | .impossible => "no possible date and time matching input"
  | .invalid => "input contains invalid characters"
  | .tooShort => "premature end of input"
  | .tooLong => "trailing input"

namespace InstantText

open Number (digitValue? digitsFrom Bounds int64)
open Text (trimStart isBlank)

/-- What a reader has read, and what follows it. -/
abbrev Parsed (α : Type) := α × List Char

/-- Fails unless a condition holds. -/
def ensure (condition : Bool) : Except InstantFault Unit :=
  if condition then .ok () else .error .outOfRange

/-- Reads a digit. -/
def digit : List Char → Except InstantFault (Parsed Nat)
  | [] => .error .tooShort
  | char :: rest =>
      match digitValue? char with
      | some value => .ok (value, rest)
      | none => .error .invalid

/-- Reads a number of two digits. -/
def twoDigits (chars : List Char) : Except InstantFault (Parsed Nat) := do
  let (tens, rest) ← digit chars
  let (ones, rest) ← digit rest
  return (10 * tens + ones, rest)

/-- Reads a certain character. -/
def mark (expected : Char) : List Char → Except InstantFault (List Char)
  | [] => .error .tooShort
  | char :: rest => if char = expected then .ok rest else .error .invalid

/-- The character between a date and a time. -/
def separator : List Char → Except InstantFault (List Char)
  | [] => .error .tooShort
  | char :: rest =>
      if char = 'T' ∨ char = 't' ∨ char = ' ' then .ok rest else .error .invalid

/-- A number of one digit up to so many. -/
def number (most : Nat) : List Char → Except InstantFault (Parsed Int)
  | [] => .error .tooShort
  | chars =>
      let digits := (chars.take most).takeWhile fun char => (digitValue? char).isSome
      match digitsFrom 0 digits with
      | some value =>
          if digits.isEmpty then .error .invalid
          else if int64.contains value then .ok (value, chars.drop digits.length)
          else .error .outOfRange
      | none => .error .invalid

/-- Nanoseconds from the digits after a point; those after the ninth are dropped. -/
def fraction (chars : List Char) : Except InstantFault (Parsed Nat) := do
  let (value, rest) ← number 9 chars
  let places := chars.length - rest.length
  return (value.toNat * 10 ^ (9 - places),
    rest.dropWhile fun char => (digitValue? char).isSome)

/-- The part of a second, if one is written. -/
def optionalFraction : List Char → Except InstantFault (Parsed Nat)
  | '.' :: rest => fraction rest
  | chars => .ok (0, chars)

/-- Fails where fewer than two bytes are left. -/
def twoBytes : List Char → Except InstantFault Unit
  | [] => .error .tooShort
  | [char] => if char.utf8Size < 2 then .error .tooShort else .error .invalid
  | _ => .ok ()

/-- The minutes of an offset, below sixty. -/
def offsetMinutes (chars : List Char) : Except InstantFault (Parsed Nat) := do
  twoBytes chars
  let (minutes, rest) ← twoDigits chars
  ensure (minutes < 60)
  return (minutes, rest)

/-- An offset in seconds; `between` reads what separates hours and minutes. -/
def offset (between : List Char → Except InstantFault (List Char)) :
    List Char → Except InstantFault (Parsed Int)
  | [] => .error .tooShort
  | char :: rest =>
      if char = 'Z' ∨ char = 'z' then .ok (0, rest)
      else if char = '+' ∨ char = '-' ∨ char = '−' then do
        twoBytes rest
        let (hours, rest) ← twoDigits rest
        let (minutes, rest) ← offsetMinutes (← between rest)
        let seconds : Int := hours * 3600 + minutes * 60
        return (if char = '+' then seconds else -seconds, rest)
      else .error .invalid

/-- The first and the last year of the calendar. -/
def years : Bounds := ⟨-262143, 262142⟩

/-- A time of day; second sixty is a leap second. -/
structure Clock where
  hour : Nat
  minute : Nat
  second : Nat
  nanos : Nat

/-- Whether the hour, the minute and the second exist. -/
def Clock.isValid (clock : Clock) : Bool :=
  clock.hour < 24 && clock.minute < 60 && clock.second ≤ 60

/-- The instant of a time on a date, so many seconds ahead of universal time. -/
def Clock.at (clock : Clock) (date : Date) (offset : Int) : Instant :=
  let leap := clock.second = 60
  let second := if leap then 59 else clock.second
  let ofDay := clock.hour * 3600 + clock.minute * 60 + second
  ⟨date.toDays * Instant.secondsPerDay + ofDay - offset,
    clock.nanos + (if leap then Instant.nanosPerSecond else 0)⟩

/-! ### The strict reader -/

/-- The bytes of a date and a time to the second. -/
def leastBytes : Nat := 19

/-- A date of ten characters. -/
def strictDate (chars : List Char) : Except InstantFault (Parsed Date) := do
  let (century, rest) ← twoDigits chars
  let (year, rest) ← twoDigits rest
  let (month, rest) ← twoDigits (← mark '-' rest)
  let (day, rest) ← twoDigits (← mark '-' rest)
  let date : Date := ⟨100 * century + year, month, day⟩
  ensure date.isValid
  return (date, rest)

/-- A time of eight characters and an optional fraction. -/
def strictClock (chars : List Char) : Except InstantFault (Parsed Clock) := do
  let (hour, rest) ← twoDigits chars
  let (minute, rest) ← twoDigits (← mark ':' rest)
  let (second, rest) ← twoDigits (← mark ':' rest)
  let (nanos, rest) ← optionalFraction rest
  let clock : Clock := ⟨hour, minute, second, nanos⟩
  ensure clock.isValid
  return (clock, rest)

/-- The greatest offset, in seconds. -/
def greatestOffset : Int := (23 * 60 + 59) * 60

/-- Reads an instant of the exact form. -/
def readStrict (text : String) : Except InstantFault Instant := do
  if text.utf8ByteSize < leastBytes then throw .tooShort
  let (date, rest) ← strictDate text.toList
  let (clock, rest) ← strictClock (← separator rest)
  let (offset, rest) ← offset (mark ':') rest
  ensure (-greatestOffset ≤ offset && offset ≤ greatestOffset)
  unless rest.isEmpty do throw .tooLong
  return clock.at date offset

/-! ### The relaxed reader -/

/-- A number between bounds, after blanks. -/
def bounded (bounds : Bounds) (chars : List Char) : Except InstantFault (Parsed Nat) := do
  let (value, rest) ← number 2 (trimStart chars)
  ensure (bounds.contains value)
  return (value.toNat, rest)

/-- A year: up to four digits, or a sign and any number of them. -/
def relaxedYear (chars : List Char) : Except InstantFault (Parsed Int) := do
  let (year, rest) ←
    match trimStart chars with
    | '-' :: rest => do
        let (value, rest) ← number rest.length rest
        pure (-value, rest)
    | '+' :: rest => number rest.length rest
    | chars => number 4 chars
  ensure ((Bounds.signed 32).contains year)
  return (year, rest)

/-- A date with blanks around its parts. -/
def relaxedDate (chars : List Char) : Except InstantFault (Parsed Date) := do
  let (year, rest) ← relaxedYear chars
  let (month, rest) ← bounded ⟨1, 12⟩ (← mark '-' (trimStart rest))
  let (day, rest) ← bounded ⟨1, 31⟩ (← mark '-' (trimStart rest))
  return (⟨year, month, day⟩, rest)

/-- A time with blanks around its parts. -/
def relaxedClock (chars : List Char) : Except InstantFault (Parsed Clock) := do
  let (hour, rest) ← bounded ⟨0, 23⟩ chars
  let (minute, rest) ← bounded ⟨0, 59⟩ (← mark ':' (trimStart rest))
  let (second, rest) ← bounded ⟨0, 60⟩ (← mark ':' (trimStart rest))
  let (nanos, rest) ← optionalFraction rest
  return (⟨hour, minute, second, nanos⟩, trimStart rest)

/-- An offset, or the word for universal time. -/
def relaxedOffset (chars : List Char) : Except InstantFault (Parsed Int) :=
  if (chars.take 3).map Char.toUpper = ['U', 'T', 'C'] then .ok (0, chars.drop 3)
  else offset (fun rest => .ok (rest.dropWhile fun char => char == ':' || isBlank char)) chars

/-- Reads an instant of the relaxed form. -/
def readRelaxed (text : String) : Except InstantFault Instant := do
  let (date, rest) ← relaxedDate text.toList
  let (clock, rest) ← relaxedClock (← separator rest)
  let (offset, rest) ← relaxedOffset rest
  unless (trimStart rest).isEmpty do throw .tooLong
  ensure (date.isValid && years.contains date.year)
  ensure (-(Instant.secondsPerDay : Int) < offset && offset < Instant.secondsPerDay)
  let instant := clock.at date offset
  let year := (Date.ofDays (instant.seconds.fdiv Instant.secondsPerDay)).year
  unless years.contains year do throw .impossible
  return instant

end InstantText

end JsonTables.Time
