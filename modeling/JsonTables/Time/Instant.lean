import JsonTables.Time.Calendar

/-!
# Instants

A point of time to the nanosecond, as the seconds from the first of January 1970
in universal time and a part of a second.  A part of a second or more is a leap
second.

Instants are written in the form of RFC 3339, in universal time.
-/

namespace JsonTables.Time

/-- A point of time. -/
structure Instant where
  seconds : Int
  nanos : Nat
deriving DecidableEq, Repr

namespace Instant

/-- Nanoseconds of a second. -/
def nanosPerSecond : Nat := 1000000000

/-- Seconds of a day. -/
def secondsPerDay : Nat := 86400

/-- The instant so many nanoseconds after the first of January 1970. -/
def ofNanos (nanos : Int) : Instant :=
  ⟨nanos.fdiv nanosPerSecond, (nanos.fmod nanosPerSecond).toNat⟩

/-- Orders instants by their seconds, then by their parts of a second. -/
def compare (first second : Instant) : Ordering :=
  (Ord.compare first.seconds second.seconds).then (Ord.compare first.nanos second.nanos)

/-! ### Writing -/

/-- Digits of a number, with zeros in front up to a width. -/
def padded (width value : Nat) : List Char :=
  let digits := Nat.toDigits 10 value
  List.replicate (width - digits.length) '0' ++ digits

/-- A year has four digits, and a sign outside of the years 0 to 9999. -/
def showYear (year : Int) : List Char :=
  if 0 ≤ year ∧ year ≤ 9999 then padded 4 year.toNat
  else (if year < 0 then '-' else '+') :: padded 4 year.natAbs

/-- A part of a second, in as few groups of three digits as hold it. -/
def showFraction (nanos : Nat) : List Char :=
  if nanos = 0 then []
  else if nanos % 1000000 = 0 then '.' :: padded 3 (nanos / 1000000)
  else if nanos % 1000 = 0 then '.' :: padded 6 (nanos / 1000)
  else '.' :: padded 9 nanos

/-- The text of an instant, in universal time.  A leap second is second sixty. -/
protected def toString (instant : Instant) : String :=
  let date := Date.ofDays (instant.seconds.fdiv secondsPerDay)
  let ofDay := (instant.seconds.fmod secondsPerDay).toNat
  let second := ofDay % 60 + (if nanosPerSecond ≤ instant.nanos then 1 else 0)
  String.ofList (showYear date.year ++ '-' :: padded 2 date.month ++ '-' :: padded 2 date.day
    ++ 'T' :: padded 2 (ofDay / 3600) ++ ':' :: padded 2 (ofDay / 60 % 60)
    ++ ':' :: padded 2 second ++ showFraction (instant.nanos % nanosPerSecond) ++ ['Z'])

instance : ToString Instant := ⟨Instant.toString⟩

end Instant

end JsonTables.Time
