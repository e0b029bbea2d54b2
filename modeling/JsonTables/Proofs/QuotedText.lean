import JsonTables.JsonText.Scan
import JsonTables.Proofs.Outcome

/-!
# Text between quotes

The reader of text between quotes looks ahead: behind an escaped unit it wants another
one, if the first is half of a pair.  What it reads is said here piece by piece, so that
a unit that is no half is a piece whatever follows it.
-/

namespace JsonTables.JsonText

/-- What bytes are read as up to the quote that ends them, and the bytes behind it. -/
inductive QuotedAs : Bytes → Bytes → Bytes → Prop
  | quote (rest : Bytes) : QuotedAs (0x22 :: rest) [] rest
  | plain {byte : UInt8} {bytes text rest : Bytes} (notQuote : byte ≠ 0x22)
      (notEscape : byte ≠ 0x5C) (notControl : ¬byte < 0x20) (others : QuotedAs bytes text rest) :
      QuotedAs (byte :: bytes) (byte :: text) rest
  | escape {byte escaped : UInt8} {bytes text rest : Bytes}
      (isEscaped : escapedByte? byte = some escaped) (others : QuotedAs bytes text rest) :
      QuotedAs (0x5C :: byte :: bytes) (escaped :: text) rest
  | unit {a b c d : UInt8} {unit : Nat} {bytes text rest : Bytes}
      (isUnit : hexUnit? a b c d = some unit) (notLeading : isLeading unit = false)
      (notTrailing : isTrailing unit = false) (others : QuotedAs bytes text rest) :
      QuotedAs (0x5C :: 0x75 :: a :: b :: c :: d :: bytes) (encodeCode unit ++ text) rest
  | pair {a b c d e f g h : UInt8} {leading trailing : Nat} {bytes text rest : Bytes}
      (isLeadingUnit : hexUnit? a b c d = some leading) (leads : isLeading leading = true)
      (notTrailing : isTrailing leading = false)
      (isTrailingUnit : hexUnit? e f g h = some trailing) (trails : isTrailing trailing = true)
      (others : QuotedAs bytes text rest) :
      QuotedAs (0x5C :: 0x75 :: a :: b :: c :: d :: 0x5C :: 0x75 :: e :: f :: g :: h :: bytes)
        (encodeCode (pairCode leading trailing) ++ text) rest

theorem prepend_eq_ok_iff {bytes text rest : Bytes} {outcome : Except Halt (Scanned Bytes)} :
    prepend bytes outcome = .ok (text, rest) ↔
      ∃ others, outcome = .ok (others, rest) ∧ text = bytes ++ others := by
  cases outcome with
  | error halt => simp [prepend]
  | ok scanned =>
      rcases scanned with ⟨others, left⟩
      simp only [prepend, Except.ok.injEq, Prod.mk.injEq]
      constructor
      · rintro ⟨rfl, rfl⟩
        exact ⟨others, ⟨rfl, rfl⟩, rfl⟩
      · rintro ⟨_, ⟨rfl, rfl⟩, rfl⟩
        exact ⟨rfl, rfl⟩

/-- A unit that is no half of a pair is read alike whatever follows it. -/
theorem stringBytes_unit {a b c d : UInt8} {unit : Nat} (isUnit : hexUnit? a b c d = some unit)
    (notLeading : isLeading unit = false) (notTrailing : isTrailing unit = false)
    (bytes : Bytes) :
    stringBytes (0x5C :: 0x75 :: a :: b :: c :: d :: bytes) =
      prepend (encodeCode unit) (stringBytes bytes) := by
  rw [stringBytes.eq_def]
  split <;> grind

theorem stringBytes_of_quotedAs {bytes text rest : Bytes} (isQuoted : QuotedAs bytes text rest) :
    stringBytes bytes = .ok (text, rest) := by
  induction isQuoted with
  | quote rest => rw [stringBytes]
  | plain notQuote notEscape notControl _ ih =>
      rw [stringBytes.eq_def]
      split <;> grind [prepend]
  | @escape byte escaped bytes text rest isEscaped _ ih =>
      have notUnit : byte ≠ 0x75 := by
        rintro rfl
        have noEscape : escapedByte? 0x75 = none := by decide
        simp [noEscape] at isEscaped
      rw [stringBytes.eq_def]
      split <;> grind [prepend]
  | unit isUnit notLeading notTrailing _ ih =>
      rw [stringBytes_unit isUnit notLeading notTrailing, ih, prepend]
  | pair isLeadingUnit leads notTrailing isTrailingUnit trails _ ih =>
      rw [stringBytes]
      simp [isLeadingUnit, leads, notTrailing, isTrailingUnit, trails, ih, prepend]

theorem shortEscape_ne_ok {bytes : Bytes} {scanned : Scanned Bytes} :
    shortEscape bytes ≠ .ok scanned := by
  unfold shortEscape
  split <;> exact nofun

theorem missingTrailing_ne_ok {bytes : Bytes} {scanned : Scanned Bytes} :
    missingTrailing bytes ≠ .ok scanned := by
  unfold missingTrailing
  split
  · exact nofun
  · split
    · split
      · exact nofun
      · split
        · exact shortEscape_ne_ok
        · exact nofun
    · exact nofun

theorem quotedAs_of_stringBytes {bytes text rest : Bytes}
    (isRead : stringBytes bytes = .ok (text, rest)) : QuotedAs bytes text rest := by
  fun_induction stringBytes bytes generalizing text rest
  case case2 =>
    cases isRead
    exact .quote _
  case case7 leading notTrailing leads trailing isTrailingUnit trails ih =>
    rcases prepend_eq_ok_iff.mp isRead with ⟨others, othersRead, rfl⟩
    exact .pair (by assumption) leads (by simpa using notTrailing) isTrailingUnit trails
      (ih othersRead)
  case case9 | case13 =>
    rename_i notTrailing notLeading ih
    rcases prepend_eq_ok_iff.mp isRead with ⟨others, othersRead, rfl⟩
    exact .unit (by assumption) (by simpa using notLeading) (by simpa using notTrailing)
      (ih othersRead)
  case case12 => exact absurd isRead missingTrailing_ne_ok
  case case14 => exact absurd isRead shortEscape_ne_ok
  case case15 escaped isEscaped ih =>
    rcases prepend_eq_ok_iff.mp isRead with ⟨others, othersRead, rfl⟩
    exact .escape isEscaped (ih othersRead)
  case case18 byte bytes notQuote _ _ _ _ notEscape notControl ih =>
    rcases prepend_eq_ok_iff.mp isRead with ⟨others, othersRead, rfl⟩
    refine .plain notQuote ?_ notControl (ih othersRead)
    -- a backslash at the end and one before a byte have branches of their own
    rintro rfl
    cases bytes with
    | nil => simp_all
    | cons next rest => exact notEscape next rest rfl rfl
  all_goals cases isRead

theorem stringBytes_eq_ok_iff {bytes text rest : Bytes} :
    stringBytes bytes = .ok (text, rest) ↔ QuotedAs bytes text rest :=
  ⟨quotedAs_of_stringBytes, stringBytes_of_quotedAs⟩

/-- Bytes behind the quote are left as they are. -/
theorem QuotedAs.append {bytes text rest : Bytes} (isQuoted : QuotedAs bytes text rest)
    (more : Bytes) : QuotedAs (bytes ++ more) text (rest ++ more) := by
  induction isQuoted with
  | quote rest => exact .quote (rest ++ more)
  | plain notQuote notEscape notControl _ ih => exact .plain notQuote notEscape notControl ih
  | escape isEscaped _ ih => exact .escape isEscaped ih
  | unit isUnit notLeading notTrailing _ ih => exact .unit isUnit notLeading notTrailing ih
  | pair isLeadingUnit leads notTrailing isTrailingUnit trails _ ih =>
      exact .pair isLeadingUnit leads notTrailing isTrailingUnit trails ih

theorem QuotedAs.length_lt {bytes text rest : Bytes} (isQuoted : QuotedAs bytes text rest) :
    rest.length < bytes.length := by
  induction isQuoted with
  | quote rest => simp
  | _ =>
      simp only [List.length_cons]
      omega

end JsonTables.JsonText
