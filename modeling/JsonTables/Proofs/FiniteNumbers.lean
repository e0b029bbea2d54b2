import JsonTables.Proofs.Overflow
import JsonTables.Proofs.RowFilling
import JsonTables.Proofs.WrittenNumbers
import JsonTables.Shape.Build

/-!
# Numerals that are read as finite numbers

A decimal numeral has digits, with a point among them or without, and may have a sign and an
exponent.  It is read as the number nearest to what it stands for, which is infinite where that
overflows.  A leaf of binary numbers never takes a number of a document as an infinite one, and
a text only where the numeral overflows 64 bits.
-/

namespace JsonTables

open Number (Binary BinaryFormat Double Numeral Single)

namespace Number

namespace Numeral

/-- What may follow the digits of a numeral: nothing, or a mark and an exponent. -/
inductive Raises : List Char → Int → Prop
  | nothing : Raises [] 0
  | mark {mark : Char} {chars : List Char} {exponent : Int} (marks : isMark mark = true)
      (spells : Spells chars exponent) : Raises (mark :: chars) exponent

/-- What stands for a numeral without its sign: digits, with a point among, before or after them
or without, and an exponent. -/
inductive Magnitude : List Char → Numeral → Prop
  | whole {digits tail : List Char} {value : Nat} {exponent : Int} (nonempty : digits ≠ [])
      (isNumber : digitsFrom 0 digits = some value) (raises : Raises tail exponent) :
      Magnitude (digits ++ tail) ⟨value, exponent⟩
  | pointed (before after : List Char) {tail : List Char} {value : Nat} {exponent : Int}
      (nonempty : before ++ after ≠ []) (isNumber : digitsFrom 0 (before ++ after) = some value)
      (raises : Raises tail exponent) :
      Magnitude (before ++ '.' :: after ++ tail) ⟨value, exponent - after.length⟩

/-- What writes a numeral: a magnitude, with a sign or without. -/
inductive Writes : List Char → Bool → Numeral → Prop
  | plain {chars : List Char} {numeral : Numeral} (magnitude : Magnitude chars numeral) :
      Writes chars false numeral
  | plus {chars : List Char} {numeral : Numeral} (magnitude : Magnitude chars numeral) :
      Writes ('+' :: chars) false numeral
  | minus {chars : List Char} {numeral : Numeral} (magnitude : Magnitude chars numeral) :
      Writes ('-' :: chars) true numeral

/-- The rational number that a numeral with a sign stands for. -/
def value (negative : Bool) (numeral : Numeral) : ℚ :=
  signed negative (numeral.digits * 10 ^ numeral.exponent)

/-! ### Reading numerals -/

theorem digits?_eq_some {chars : List Char} {number : Nat} (nonempty : chars ≠ [])
    (isNumber : digitsFrom 0 chars = some number) : digits? chars = some number := by
  rw [digits?, if_neg (by simpa using nonempty), isNumber]

theorem readExponent?_of_spells {chars : List Char} {exponent : Int}
    (spells : Spells chars exponent) : readExponent? chars = some exponent := by
  cases spells with
  | plain nonempty isNumber =>
      have areDigits := areDigits_of_digitsFrom isNumber
      have noPlus := ne_of_areDigits areDigits '+' (by decide)
      have noMinus := ne_of_areDigits areDigits '-' (by decide)
      unfold readExponent?
      split
      · exact absurd rfl (noPlus '+' List.mem_cons_self)
      · exact absurd rfl (noMinus '-' List.mem_cons_self)
      · rw [digits?_eq_some nonempty isNumber]
        rfl
  | plus nonempty isNumber =>
      rw [readExponent?, digits?_eq_some nonempty isNumber]
      rfl
  | minus nonempty isNumber =>
      rw [readExponent?, digits?_eq_some nonempty isNumber]
      rfl

theorem noMark_of_areDigits {chars : List Char} (areDigits : AreDigits chars) :
    ∀ char ∈ chars, (!isMark char) = true := by
  intro char charMem
  have notLower := ne_of_areDigits areDigits 'e' (by decide) char charMem
  have notUpper := ne_of_areDigits areDigits 'E' (by decide) char charMem
  simp [isMark, notLower, notUpper]

/-- The digits of a numeral are read apart from its exponent. -/
theorem read?_of_digits {base tail : List Char} {numeral : Numeral} {exponent : Int}
    (noMark : ∀ char ∈ base, (!isMark char) = true) (isRead : readDigits? base = some numeral)
    (raises : Raises tail exponent) :
    read? (base ++ tail) = some ⟨numeral.digits, numeral.exponent + exponent⟩ := by
  rw [read?, List.takeWhile_append_of_pos noMark, List.dropWhile_append_of_pos noMark]
  cases raises with
  | nothing => simp [isRead]
  | mark marks spells => simp [isRead, marks, readExponent?_of_spells spells]

theorem noPoint_of_areDigits {chars : List Char} (areDigits : AreDigits chars) :
    ∀ char ∈ chars, (char != '.') = true := by
  intro char charMem
  simpa using ne_of_areDigits areDigits '.' (by decide) char charMem

theorem readDigits?_whole {digits : List Char} {value : Nat} (nonempty : digits ≠ [])
    (isNumber : digitsFrom 0 digits = some value) : readDigits? digits = some ⟨value, 0⟩ := by
  have noPoint := noPoint_of_areDigits (areDigits_of_digitsFrom isNumber)
  rw [readDigits?, List.takeWhile_eq_self_iff.mpr noPoint, List.dropWhile_eq_nil_iff.mpr noPoint]
  simp [digits?_eq_some nonempty isNumber]

theorem readDigits?_pointed {before after : List Char} {value : Nat}
    (nonempty : before ++ after ≠ []) (isNumber : digitsFrom 0 (before ++ after) = some value) :
    readDigits? (before ++ '.' :: after) = some ⟨value, -after.length⟩ := by
  have noPoint := noPoint_of_areDigits (areDigits_of_digitsFrom isNumber)
  have passes : ∀ char ∈ before, (char != '.') = true := by
    intro char charMem
    exact noPoint char (List.mem_append_left after charMem)
  rw [readDigits?, List.takeWhile_append_of_pos passes, List.dropWhile_append_of_pos passes]
  simp [digits?_eq_some nonempty isNumber]

theorem read?_of_magnitude {chars : List Char} {numeral : Numeral}
    (magnitude : Magnitude chars numeral) : read? chars = some numeral := by
  cases magnitude with
  | whole nonempty isNumber raises =>
      have noMark := noMark_of_areDigits (areDigits_of_digitsFrom isNumber)
      simpa using read?_of_digits noMark (readDigits?_whole nonempty isNumber) raises
  | @pointed before after tail value exponent nonempty isNumber raises =>
      have noMark := noMark_of_areDigits (areDigits_of_digitsFrom isNumber)
      have passes : ∀ char ∈ before ++ '.' :: after, (!isMark char) = true := by
        intro char charMem
        rcases List.mem_append.mp charMem with isBefore | isAfter
        · exact noMark char (List.mem_append_left after isBefore)
        · rcases List.mem_cons.mp isAfter with rfl | isAfter
          · rfl
          · exact noMark char (List.mem_append_right before isAfter)
      rw [read?_of_digits passes (readDigits?_pointed nonempty isNumber) raises]
      simp only [Option.some.injEq, mk.injEq, true_and]
      omega

/-- A magnitude starts with a digit or a point. -/
theorem Magnitude.noSign {chars : List Char} {numeral : Numeral}
    (magnitude : Magnitude chars numeral) :
    ∃ char rest, chars = char :: rest ∧ char ≠ '+' ∧ char ≠ '-' := by
  have noSign : ∀ {digits : List Char} {value : Nat}, digitsFrom 0 digits = some value →
      ∀ char ∈ digits, char ≠ '+' ∧ char ≠ '-' := by
    intro digits value isNumber char charMem
    have areDigits := areDigits_of_digitsFrom isNumber
    exact ⟨ne_of_areDigits areDigits '+' (by decide) char charMem,
      ne_of_areDigits areDigits '-' (by decide) char charMem⟩
  cases magnitude with
  | @whole digits tail _ _ nonempty isNumber raises =>
      obtain ⟨char, rest, rfl⟩ := List.exists_cons_of_ne_nil nonempty
      exact ⟨char, rest ++ tail, rfl, noSign isNumber char List.mem_cons_self⟩
  | @pointed before after tail _ _ nonempty isNumber raises =>
      cases before with
      | nil => exact ⟨'.', after ++ tail, rfl, by decide, by decide⟩
      | cons char rest =>
          exact ⟨char, rest ++ '.' :: after ++ tail, rfl, noSign isNumber char List.mem_cons_self⟩

variable {format : BinaryFormat} {text : String} {negative : Bool} {numeral : Numeral}

theorem readUnsigned_of_magnitude (negative : Bool) {chars : List Char}
    (magnitude : Magnitude chars numeral) :
    (Binary.readUnsigned negative chars : Except _ (Binary format)) =
      .ok (numeral.toBinary negative) := by
  rw [Binary.readUnsigned, read?_of_magnitude magnitude]

/-- A numeral is read as the number nearest to it. -/
theorem read_of_writes (writes : Writes text.toList negative numeral) :
    (Binary.read text : Except _ (Binary format)) = .ok (numeral.toBinary negative) := by
  unfold Binary.read
  generalize text.toList = chars at writes
  cases writes with
  | plain magnitude =>
      obtain ⟨char, rest, rfl, notPlus, notMinus⟩ := magnitude.noSign
      split
      · contradiction
      · rename_i same
        exact absurd (List.cons.inj same).1 notPlus
      · rename_i same
        exact absurd (List.cons.inj same).1 notMinus
      · exact readUnsigned_of_magnitude false magnitude
  | plus magnitude => exact readUnsigned_of_magnitude false magnitude
  | minus magnitude => exact readUnsigned_of_magnitude true magnitude

theorem isFinite_toBinary_iff (inReach : format.InReach) (negative : Bool) (numeral : Numeral) :
    (numeral.toBinary negative : Binary format).isFinite = true ↔
      ¬format.Overflows (numeral.value negative) :=
  Binary.isFinite_ofScientific_iff inReach negative numeral.digits numeral.exponent

theorem toBinary_of_overflows (inReach : format.InReach)
    (overflows : format.Overflows (numeral.value negative)) :
    (numeral.toBinary negative : Binary format) = .infinite negative := by
  apply Binary.ofScientific_eq_infinite
  rw [← Bool.not_eq_true]
  exact mt (isFinite_toBinary_iff inReach negative numeral).mp (not_not.mpr overflows)

end Numeral

end Number

namespace Leaf

/-! ### Reading leaves -/

variable {format : BinaryFormat} {text : String} {negative : Bool} {numeral : Numeral}

/-- Whether what comes of reading a rational number as one of a format is finite or a fault: a
fault where the number overflows the format, and a number where the format has one as great. -/
structure ReadsFinite (outcome : Except ScalarFault (Binary format)) (value : ℚ) : Prop where
  finite : ∀ number, outcome = .ok number → number.isFinite = true
  refuses : format.Overflows value → ∀ number, outcome ≠ .ok number
  reads : ∀ bound, format.Holds bound → |value| ≤ bound → ∃ number, outcome = .ok number

/-- A number that overflows a format is greater than every number of the format. -/
theorem lt_abs_of_overflows {value : ℚ} (overflows : format.Overflows value) :
    ∀ bound, format.Holds bound → bound < |value| := by
  intro bound held
  calc bound ≤ |bound| := le_abs_self bound
    _ < format.overflowBound := BinaryFormat.lt_overflowBound_of_holds held
    _ ≤ |value| := overflows

theorem readsFinite_error {fault : ScalarFault} {value : ℚ}
    (beyond : ∀ bound, format.Holds bound → bound < |value|) :
    ReadsFinite (.error fault : Except _ (Binary format)) value where
  finite := nofun
  refuses _ := nofun
  reads bound held atMost := absurd atMost (not_le.mpr (beyond bound held))

theorem readsFinite_ok {number : Binary format} {value : ℚ} (isFinite : number.isFinite = true)
    (fits : ¬format.Overflows value) : ReadsFinite (.ok number) value where
  finite := by
    rintro _ ⟨⟩
    exact isFinite
  refuses overflows := absurd overflows fits
  reads _ _ _ := ⟨number, rfl⟩

/-- A numeral that is refused where it is not finite is read as a finite number or refused. -/
theorem readsFinite_toBinary (inReach : format.InReach) (negative : Bool) (numeral : Numeral)
    (fault : ScalarFault) :
    ReadsFinite (if (numeral.toBinary negative : Binary format).isFinite then
        .ok (numeral.toBinary negative)
      else .error fault : Except _ (Binary format)) (numeral.value negative) := by
  have isFinite_iff := Numeral.isFinite_toBinary_iff inReach negative numeral
  split
  · rename_i isFinite
    exact readsFinite_ok isFinite (isFinite_iff.mp isFinite)
  · rename_i notFinite
    apply readsFinite_error
    exact lt_abs_of_overflows (not_not.mp (mt isFinite_iff.mpr notFinite))

section

variable (writes : Numeral.Writes text.toList negative numeral)

include writes

theorem readDouble_number_eq :
    readDouble (.number text) =
      if (numeral.toBinary negative : Double).isFinite then .ok (numeral.toBinary negative)
      else .error (.outOfRange text "double") := by
  rw [readDouble, doubleOfNumber, Numeral.read_of_writes writes]

theorem rounds_readDouble_number {wide : Double} (isRead : readDouble (.number text) = .ok wide) :
    wide.Rounds (numeral.value negative) := by
  rw [readDouble_number_eq writes] at isRead
  split at isRead
  · cases isRead
    exact Binary.rounds_ofScientific negative numeral.digits numeral.exponent
  · cases isRead

theorem readDouble_text_eq : readDouble (.string text) = .ok (numeral.toBinary negative) := by
  rw [readDouble, Numeral.read_of_writes writes]
  rfl

theorem readsFinite_readDouble_number :
    ReadsFinite (readDouble (.number text)) (numeral.value negative) := by
  rw [readDouble_number_eq writes]
  exact readsFinite_toBinary BinaryFormat.inReach_double negative numeral _

theorem readsFinite_readDouble_text
    (fits : ¬BinaryFormat.double.Overflows (numeral.value negative)) :
    ReadsFinite (readDouble (.string text)) (numeral.value negative) := by
  have isFinite_iff := Numeral.isFinite_toBinary_iff BinaryFormat.inReach_double negative numeral
  rw [readDouble_text_eq writes]
  exact readsFinite_ok (isFinite_iff.mpr fits) fits

/-- A number is read with 64 bits first, and refused if it is infinite with 32. -/
theorem readSingle_number_eq {wide : Double} (isRead : readDouble (.number text) = .ok wide) :
    readSingle (.number text) =
      if (wide.convert : Single).isFinite then .ok wide.convert
      else .error (.outOfRange (toString wide) "float") := by
  have isFinite := (readsFinite_readDouble_number writes).finite wide isRead
  have isInfinite : (wide.convert : Single).isInfinite = !(wide.convert : Single).isFinite :=
    Binary.isInfinite_eq_not_isFinite fun notFinite =>
      Binary.convert_eq_infinite isFinite notFinite
  cases converted : (wide.convert : Single).isFinite <;>
    simp [readSingle, isRead, isFinite, isInfinite, converted, pure, Except.pure]

/-- A text is refused if it is infinite with 32 bits and finite with 64. -/
theorem readSingle_text_eq :
    readSingle (.string text) =
      if (numeral.toBinary negative : Single).isFinite ||
          !(numeral.toBinary negative : Double).isFinite then .ok (numeral.toBinary negative)
      else .error (.outOfRange (toString (numeral.toBinary negative : Double)) "float") := by
  have isValue : (Number.Binary.read text : Except _ Single) = .ok (numeral.toBinary negative) :=
    Numeral.read_of_writes writes
  have isInfinite : (numeral.toBinary negative : Single).isInfinite =
      !(numeral.toBinary negative : Single).isFinite :=
    Binary.isInfinite_eq_not_isFinite fun notFinite =>
      ⟨negative, Binary.ofScientific_eq_infinite notFinite⟩
  cases narrow : (numeral.toBinary negative : Single).isFinite <;>
    cases isWide : (numeral.toBinary negative : Double).isFinite <;>
      simp [readSingle, readDouble_text_eq writes, isValue, isInfinite, narrow, isWide,
        Except.mapError, pure, Except.pure]

/-- Rounding a number to 64 bits first keeps it beyond the bound of 32 bits, or within a number
of them. -/
theorem readsFinite_readSingle_number :
    ReadsFinite (readSingle (.number text)) (numeral.value negative) := by
  have wideReads := readsFinite_readDouble_number writes
  cases isWide : readDouble (.number text) with
  | error fault =>
      have isFault : readSingle (.number text) = .error fault := by
        simp [readSingle, isWide]
      rw [isFault]
      apply readsFinite_error
      intro bound held
      by_contra atMost
      have wideHeld := Binary.holds_double_of_single held
      obtain ⟨wide, isRead⟩ := wideReads.reads bound wideHeld (not_lt.mp atMost)
      cases isWide.symm.trans isRead
  | ok wide =>
      have isFinite := wideReads.finite wide isWide
      obtain ⟨rational, isRational⟩ := Binary.exists_value? isFinite
      have rounds := rounds_readDouble_number writes isWide
      have fits := Binary.isFinite_convert_iff BinaryFormat.inReach_single isRational
      rw [readSingle_number_eq writes isWide]
      split
      · rename_i converts
        apply readsFinite_ok converts
        intro overflows
        exact fits.mp converts
          (rounds.le_abs_value isRational Binary.holds_overflowBound_single overflows)
      · rename_i notConverts
        apply readsFinite_error
        intro bound held
        by_contra atMost
        have wideLe := rounds.abs_value_le isRational (Binary.holds_double_of_single held)
          (not_lt.mp atMost)
        have beyond := lt_abs_of_overflows (not_not.mp (mt fits.mpr notConverts)) bound held
        exact absurd wideLe (not_le.mpr beyond)

theorem readsFinite_readSingle_text
    (fits : ¬BinaryFormat.double.Overflows (numeral.value negative)) :
    ReadsFinite (readSingle (.string text)) (numeral.value negative) := by
  have isFinite_iff := Numeral.isFinite_toBinary_iff BinaryFormat.inReach_double negative numeral
  rw [readSingle_text_eq writes, isFinite_iff.mpr fits, Bool.not_true, Bool.or_false]
  exact readsFinite_toBinary BinaryFormat.inReach_single negative numeral _

/-- A text whose numeral overflows 64 bits is no fault, but is read as an infinite number. -/
theorem readDouble_text_of_overflows
    (overflows : BinaryFormat.double.Overflows (numeral.value negative)) :
    readDouble (.string text) = .ok (.infinite negative) := by
  rw [readDouble_text_eq writes,
    Numeral.toBinary_of_overflows BinaryFormat.inReach_double overflows]

theorem readSingle_text_of_overflows
    (overflows : BinaryFormat.double.Overflows (numeral.value negative)) :
    readSingle (.string text) = .ok (.infinite negative) := by
  have narrowOverflows : BinaryFormat.single.Overflows (numeral.value negative) :=
    (lt_abs_of_overflows overflows _ Binary.holds_overflowBound_single).le
  rw [readSingle_text_eq writes,
    Numeral.toBinary_of_overflows BinaryFormat.inReach_double overflows,
    Numeral.toBinary_of_overflows BinaryFormat.inReach_single narrowOverflows]
  rfl

end

end Leaf

/-- The format of a kind of binary numbers. -/
def LeafKind.binaryFormat? : LeafKind → Option BinaryFormat
  | float => some .single
  | double => some .double
  | _ => none

namespace Shape

variable {scalar : Leaf} {format : BinaryFormat} {text : String} {negative : Bool}
  {numeral : Numeral} {json : Json}

/-- Whether a leaf takes a value, which stands for a rational number, as a finite number of its
type or refuses it: always where it overflows a format, and never where the format has a number as
great and the leaf accepts the kind of the value. -/
structure TakesFinite (scalar : Leaf) (format : BinaryFormat) (json : Json) (value : ℚ) :
    Prop where
  finite : ∀ path row filled, (leaf scalar).fill path (some json) row = .ok filled →
    ∃ cell rational, filled = row.push cell ∧ cell.type? = some scalar.kind.type ∧
      cell.rational? = some rational
  refuses : format.Overflows value →
    ∀ path row filled, (leaf scalar).fill path (some json) row ≠ .ok filled
  fills : scalar.acceptance.desired.contains json.kind = true →
    ∀ bound, format.Holds bound → |value| ≤ bound →
      ∀ path row, ∃ filled, (leaf scalar).fill path (some json) row = .ok filled

theorem takesFinite_of_readsFinite {value : ℚ} {outcome : Except ScalarFault (Binary format)}
    {wrap : Binary format → Cell} (isWrapped : ∀ number, (wrap number).rational? = number.value?)
    (isType : ∀ number, (wrap number).type? = some scalar.kind.type)
    (fill_iff : ∀ path row filled, (leaf scalar).fill path (some json) row = .ok filled ↔
      scalar.acceptance.desired.contains json.kind = true ∧
        ∃ number, outcome = .ok number ∧ filled = row.push (wrap number))
    (reads : Leaf.ReadsFinite outcome value) : TakesFinite scalar format json value := by
  constructor
  · intro path row filled isFilled
    obtain ⟨_, number, isRead, rfl⟩ := (fill_iff path row filled).mp isFilled
    obtain ⟨rational, isRational⟩ := Binary.exists_value? (reads.finite number isRead)
    exact ⟨wrap number, rational, rfl, isType number, (isWrapped number).trans isRational⟩
  · intro overflows path row filled isFilled
    obtain ⟨_, number, isRead, _⟩ := (fill_iff path row filled).mp isFilled
    exact reads.refuses overflows number isRead
  · intro accepts bound held atMost path row
    obtain ⟨number, isRead⟩ := reads.reads bound held atMost
    exact ⟨_, (fill_iff path row _).mpr ⟨accepts, number, isRead, rfl⟩⟩

/-- A leaf of binary numbers takes the numeral of a number, and that of a text that 64 bits have
room for, as a finite number or refuses it. -/
theorem numerals_are_taken_as_finite_numbers
    (isBinary : scalar.kind.binaryFormat? = some format)
    (writes : Numeral.Writes text.toList negative numeral)
    (isJson : json = .number text ∨
      json = .string text ∧ ¬BinaryFormat.double.Overflows (numeral.value negative)) :
    TakesFinite scalar format json (numeral.value negative) := by
  have notNull : json ≠ .null := by
    rcases isJson with rfl | ⟨rfl, _⟩ <;> exact nofun
  rcases scalar with ⟨kind, acceptance, onNull, onMissing⟩
  cases kind with
  | float =>
      cases isBinary
      have reads : Leaf.ReadsFinite (Leaf.readSingle json) (numeral.value negative) := by
        rcases isJson with rfl | ⟨rfl, fits⟩
        · exact Leaf.readsFinite_readSingle_number writes
        · exact Leaf.readsFinite_readSingle_text writes fits
      exact takesFinite_of_readsFinite (fun _ => rfl) (fun _ => rfl)
        (fun _ _ _ => fill_leaf_some_eq_ok_iff notNull) reads
  | double =>
      cases isBinary
      have reads : Leaf.ReadsFinite (Leaf.readDouble json) (numeral.value negative) := by
        rcases isJson with rfl | ⟨rfl, fits⟩
        · exact Leaf.readsFinite_readDouble_number writes
        · exact Leaf.readsFinite_readDouble_text writes fits
      exact takesFinite_of_readsFinite (fun _ => rfl) (fun _ => rfl)
        (fun _ _ _ => fill_leaf_some_eq_ok_iff notNull) reads
  | _ => cases isBinary

/-- A text that 32 bits have no room for is refused where it is to be a number of them. -/
theorem text_beyond_32_bits_is_refused :
    Numeral.Writes "1e39".toList false ⟨1, 39⟩ ∧
      ¬BinaryFormat.double.Overflows (Numeral.value false ⟨1, 39⟩) ∧
      BinaryFormat.single.Overflows (Numeral.value false ⟨1, 39⟩) ∧
      ∀ filled, (plainLeaf .float { string := true } none none).fill []
        (some (.string "1e39")) #[] ≠ .ok filled := by
  have magnitude : Numeral.Magnitude (['1'] ++ ['e', '3', '9']) ⟨1, 39⟩ :=
    .whole (by decide) rfl (.mark rfl (.plain (by decide) rfl))
  have writes : Numeral.Writes "1e39".toList false ⟨1, 39⟩ := .plain magnitude
  have fits : ¬BinaryFormat.double.Overflows (Numeral.value false ⟨1, 39⟩) := by
    intro overflows
    have held : BinaryFormat.double.Holds (2 ^ 200) :=
      ⟨1, 200, by decide, by decide, by decide, by norm_num⟩
    have isGreater := Leaf.lt_abs_of_overflows overflows _ held
    norm_num [Numeral.value, Number.signed] at isGreater
  have overflows : BinaryFormat.single.Overflows (Numeral.value false ⟨1, 39⟩) := by
    norm_num [BinaryFormat.Overflows, BinaryFormat.overflowBound, BinaryFormat.single,
      Numeral.value, Number.signed]
  have takes : TakesFinite ⟨.float, LeafKind.float.accepting { string := true }, none, none⟩
      .single (.string "1e39") (Numeral.value false ⟨1, 39⟩) :=
    numerals_are_taken_as_finite_numbers rfl writes (.inr ⟨rfl, fits⟩)
  exact ⟨writes, fits, overflows, takes.refuses overflows [] #[]⟩

/-- A text whose numeral overflows 64 bits fills a row with an infinite number. -/
theorem fill_text_of_overflows (isBinary : scalar.kind.binaryFormat? = some format)
    (writes : Numeral.Writes text.toList negative numeral)
    (overflows : BinaryFormat.double.Overflows (numeral.value negative))
    (accepts : scalar.acceptance.desired.contains .string = true) (path : Path)
    (row : Array Cell) : ∃ cell, (leaf scalar).fill path (some (.string text)) row =
      .ok (row.push cell) ∧ cell.type? = some scalar.kind.type ∧ cell.rational? = none := by
  have notNull : Json.string text ≠ .null := nofun
  rcases scalar with ⟨kind, acceptance, onNull, onMissing⟩
  cases kind with
  | float =>
      refine ⟨.float (.infinite negative), ?_, rfl, rfl⟩
      exact (fill_leaf_some_eq_ok_iff notNull).mpr
        ⟨accepts, _, Leaf.readSingle_text_of_overflows writes overflows, rfl⟩
  | double =>
      refine ⟨.double (.infinite negative), ?_, rfl, rfl⟩
      exact (fill_leaf_some_eq_ok_iff notNull).mpr
        ⟨accepts, _, Leaf.readDouble_text_of_overflows writes overflows, rfl⟩
  | _ => cases isBinary

/-- A finite number that a text writes with 400 zeros is infinite as a number of 64 bits. -/
theorem text_beyond_64_bits_is_infinite :
    Numeral.Writes "1e400".toList false ⟨1, 400⟩ ∧
      (plainLeaf .double { string := true } none none).fill [] (some (.string "1e400")) #[] =
        .ok #[.double (.infinite false)] ∧
      (Cell.double (.infinite false)).rational? = none := by
  have magnitude : Numeral.Magnitude (['1'] ++ ['e', '4', '0', '0']) ⟨1, 400⟩ :=
    .whole (by decide) rfl (.mark rfl (.plain (by decide) rfl))
  exact ⟨.plain magnitude, rfl, rfl⟩

end Shape

end JsonTables
