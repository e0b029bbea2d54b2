import JsonTables.Proofs.LongerValues
import JsonTables.Proofs.RenderedText
import JsonTables.Proofs.WrittenNumbers

/-!
# Numbers and text as they are spelled

What spells a number or a text is said here by grammar, apart from the readers.  A reader
reads just what is spelled at the front of its bytes, and of a number all that is there.
-/

namespace JsonTables.JsonText

open Number (AreDigits)

/-- Whether bytes do not go on with a number. -/
def EndsNumber (bytes : Bytes) : Prop :=
  ∀ byte, bytes.head? = some byte → isDigitByte byte = false ∧ is byte '.' = false ∧
    is byte 'e' = false ∧ is byte 'E' = false

/-- Whether a text is read as a value, whatever stands behind it. -/
def ReadsAs {ε α : Type} (read : Bytes → Except ε (α × Bytes)) (text : Bytes) (found : α) : Prop :=
  ∀ more, EndsNumber more → read (text ++ more) = .ok (found, more)

theorem endsNumber_cons {byte : UInt8} (noDigit : isDigitByte byte = false)
    (noPoint : is byte '.' = false) (noMark : is byte 'e' = false ∧ is byte 'E' = false)
    (rest : Bytes) : EndsNumber (byte :: rest) := by
  rintro _ ⟨⟩
  exact ⟨noDigit, noPoint, noMark⟩

theorem endsNumber_nil : EndsNumber [] := by
  rintro _ ⟨⟩

/-! ### Bytes of characters -/

/-- The byte of an ASCII character. -/
def byteOf (char : Char) : UInt8 :=
  .ofNat char.toNat

theorem bytesOf_ofList_ascii {chars : List Char} (areAscii : ∀ char ∈ chars, char.toNat < 0x80) :
    bytesOf (String.ofList chars) = chars.map byteOf := by
  rw [bytesOf_ofList]
  induction chars with
  | nil => rfl
  | cons char rest ih =>
      rw [List.forall_mem_cons] at areAscii
      have single : String.utf8EncodeChar char = [byteOf char] := by
        have isAscii : char.val.toNat ≤ 0x7F := Nat.le_of_lt_succ areAscii.1
        simp only [String.utf8EncodeChar, if_pos isAscii]
        rfl
      rw [List.flatMap_cons, ih areAscii.2, single]
      rfl

theorem charOf_byteOf {char : Char} (isAscii : char.toNat < 0x80) :
    charOf (byteOf char) = char := by
  rw [charOf, byteOf, UInt8.toNat_ofNat_of_lt' (Nat.lt_trans isAscii (by decide)), Char.ofNat_toNat]

theorem toNat_charOf (byte : UInt8) : (charOf byte).toNat = byte.toNat := by
  have valid : byte.toNat.isValidChar := .inl (Nat.lt_trans byte.toNat_lt (by decide))
  rw [charOf, Char.ofNat, dif_pos valid]
  rfl

theorem is_byteOf {char : Char} (isAscii : char.toNat < 0x80) (other : Char) :
    is (byteOf char) other = (char == other) := by
  rw [is, byteOf, UInt8.toNat_ofNat_of_lt' (Nat.lt_trans isAscii (by decide)), Bool.eq_iff_iff,
    beq_iff_eq, beq_iff_eq, Char.toNat_inj]

theorem eq_byteOf_of_is {byte : UInt8} {char : Char} (isChar : is byte char = true) :
    byte = byteOf char := by
  rw [is, beq_iff_eq] at isChar
  rw [byteOf, ← isChar, UInt8.ofNat_toNat]

theorem is_iff {byte : UInt8} {char : Char} (isAscii : char.toNat < 0x80) :
    is byte char = true ↔ byte = byteOf char := by
  constructor
  · exact eq_byteOf_of_is
  · rintro rfl
    rw [is_byteOf isAscii, beq_self_eq_true]

theorem byteOf_charOf (byte : UInt8) : byteOf (charOf byte) = byte := by
  rw [byteOf, toNat_charOf, UInt8.ofNat_toNat]

/-! ### Grammar -/

/-- What stands before the point of a number: a zero alone, or digits that begin with
another. -/
inductive IsWhole : List Char → Prop
  | zero : IsWhole ['0']
  | digits {first : Char} {rest : List Char} (notZero : first ≠ '0')
      (areDigits : AreDigits (first :: rest)) : IsWhole (first :: rest)

/-- What spells the fraction of a number: nothing, or a point and digits. -/
inductive SpellsFraction : Option (List Char) → List Char → Prop
  | nothing : SpellsFraction none []
  | point {digits : List Char} (nonempty : digits ≠ []) (areDigits : AreDigits digits) :
      SpellsFraction (some digits) ('.' :: digits)

/-- What spells whether an exponent is negative; a plus sign may be left out. -/
inductive SpellsSign : Bool → List Char → Prop
  | nothing : SpellsSign false []
  | plus : SpellsSign false ['+']
  | minus : SpellsSign true ['-']

/-- What spells the exponent of a number: nothing, or a mark, a sign and digits. -/
inductive SpellsExponent : Option (Bool × List Char) → List Char → Prop
  | nothing : SpellsExponent none []
  | mark {mark : Char} {negative : Bool} {sign digits : List Char}
      (isMark : mark = 'e' ∨ mark = 'E') (spellsSign : SpellsSign negative sign)
      (nonempty : digits ≠ []) (areDigits : AreDigits digits) :
      SpellsExponent (some (negative, digits)) (mark :: (sign ++ digits))

/-- What spells a number without its sign. -/
inductive SpellsUnsigned (negative : Bool) : NumberToken → Bytes → Prop
  | parts {whole fractionChars exponentChars : List Char} {fraction : Option (List Char)}
      {exponent : Option (Bool × List Char)} (isWhole : IsWhole whole)
      (spellsFraction : SpellsFraction fraction fractionChars)
      (spellsExponent : SpellsExponent exponent exponentChars) :
      SpellsUnsigned negative ⟨negative, whole, fraction, exponent⟩
        (whole.map byteOf ++ fractionChars.map byteOf ++ exponentChars.map byteOf)

/-- What spells a number. -/
inductive SpellsNumber : NumberToken → Bytes → Prop
  | plain {token : NumberToken} {bytes : Bytes} (unsigned : SpellsUnsigned false token bytes) :
      SpellsNumber token bytes
  | minus {token : NumberToken} {bytes : Bytes} (unsigned : SpellsUnsigned true token bytes) :
      SpellsNumber token (0x2D :: bytes)

/-- What spells a text behind an opening quote, with the quote that closes it. -/
def SpellsText (text : String) (bytes : Bytes) : Prop :=
  ∃ content, QuotedAs bytes content [] ∧ String.fromUTF8? ⟨content.toArray⟩ = some text

/-! ### Digits -/

section Digits

variable {digits : List Char} {more : Bytes}

theorem ascii_of_areDigits (areDigits : Number.AreDigits digits) :
    ∀ char ∈ digits, char.toNat < 0x80 := by
  intro char charMem
  have notAfter : char.toNat ≤ 57 := (areDigits char charMem).2
  omega

theorem isDigitByte_byteOf {char : Char} (isDigit : '0' ≤ char ∧ char ≤ '9') :
    isDigitByte (byteOf char) = true := by
  have notAfter : char.toNat ≤ 57 := isDigit.2
  rw [isDigitByte, charOf_byteOf (by omega), Number.digitValue?_eq_some isDigit]
  rfl

/-- Whether bytes do not go on with digits. -/
def EndsDigits (bytes : Bytes) : Prop :=
  ∀ byte, bytes.head? = some byte → isDigitByte byte = false

theorem EndsNumber.endsDigits (ends : EndsNumber more) : EndsDigits more :=
  fun byte isNext => (ends byte isNext).1

theorem spanDigits_map (areDigits : Number.AreDigits digits) (ends : EndsDigits more) :
    spanDigits (digits.map byteOf ++ more) = (digits, more) := by
  have areDigitBytes : ∀ byte ∈ digits.map byteOf, isDigitByte byte = true := by
    simp only [List.forall_mem_map]
    exact fun char charMem => isDigitByte_byteOf (areDigits char charMem)
  have noMore : more.takeWhile isDigitByte = [] ∧ more.dropWhile isDigitByte = more := by
    cases more with
    | nil => exact ⟨rfl, rfl⟩
    | cons byte rest => simp [ends byte rfl]
  have read : digits.map (charOf ∘ byteOf) = digits := by
    refine (List.map_congr_left ?_).trans (List.map_id digits)
    intro char charMem
    exact charOf_byteOf (ascii_of_areDigits areDigits char charMem)
  rw [spanDigits, List.takeWhile_append_of_pos areDigitBytes, noMore.1,
    List.dropWhile_append_of_pos areDigitBytes, noMore.2, List.append_nil, List.map_map, read]

end Digits

theorem isDigit_charOf {byte : UInt8} (isDigit : isDigitByte byte = true) :
    '0' ≤ charOf byte ∧ charOf byte ≤ '9' := by
  rw [isDigitByte, Option.isSome_iff_exists] at isDigit
  rcases isDigit with ⟨digit, isDigit⟩
  exact Number.isDigit_of_digitValue? isDigit

/-- The digits at the front are all that are there. -/
theorem spanDigits_eq_iff {bytes rest : Bytes} {digits : List Char} :
    spanDigits bytes = (digits, rest) ↔
      bytes = digits.map byteOf ++ rest ∧ AreDigits digits ∧ EndsDigits rest := by
  constructor
  · intro spans
    rw [spanDigits, Prod.mk.injEq] at spans
    rcases spans with ⟨rfl, rfl⟩
    refine ⟨?_, ?_, ?_⟩
    · have same : byteOf ∘ charOf = id := funext byteOf_charOf
      rw [List.map_map, same, List.map_id, List.takeWhile_append_dropWhile]
    · intro char charMem
      rcases List.mem_map.mp charMem with ⟨byte, byteMem, rfl⟩
      exact isDigit_charOf (List.mem_takeWhile_imp byteMem)
    · intro byte isNext
      have notDigit := List.head?_dropWhile_not isDigitByte bytes
      rw [isNext] at notDigit
      simpa using notDigit
  · rintro ⟨rfl, areDigits, ends⟩
    exact spanDigits_map areDigits ends

/-! ### Parts of numbers -/

section Numbers

variable {bytes rest more : Bytes} {chars : List Char}

theorem endsDigits_cons {byte : UInt8} (notDigit : isDigitByte byte = false) (rest : Bytes) :
    EndsDigits (byte :: rest) := by
  rintro _ ⟨⟩
  exact notDigit

/-- The digits before the point are read just where they are spelled. -/
theorem wholeDigits_eq_ok_iff_isWhole {whole : List Char} :
    wholeDigits bytes = .ok (whole, rest) ↔
      IsWhole whole ∧ bytes = whole.map byteOf ++ rest ∧ EndsDigits rest := by
  rw [wholeDigits_eq_ok_iff]
  constructor
  · rintro (⟨byte, rfl, isZero, rfl, ends⟩ | ⟨byte, others, rfl, notZero, isDigit, spans⟩)
    · rw [eq_byteOf_of_is isZero]
      exact ⟨.zero, rfl, ends⟩
    · rcases spanDigits_eq_iff.mp spans with ⟨areBytes, areDigits, ends⟩
      refine ⟨?_, areBytes, ends⟩
      cases whole with
      | nil =>
          rw [List.map_nil, List.nil_append] at areBytes
          have notDigit := ends byte (by rw [← areBytes]; rfl)
          rw [isDigit] at notDigit
          cases notDigit
      | cons first rest =>
          refine .digits ?_ areDigits
          rintro rfl
          rw [List.map_cons, List.cons_append, List.cons.injEq] at areBytes
          rw [areBytes.1] at notZero
          exact absurd notZero (by decide)
  · rintro ⟨isWhole, rfl, ends⟩
    cases isWhole with
    | zero => exact .inl ⟨byteOf '0', rfl, by decide, rfl, ends⟩
    | @digits first others notZero areDigits =>
        have isDigit := areDigits first List.mem_cons_self
        have isAscii := ascii_of_areDigits areDigits first List.mem_cons_self
        refine .inr ⟨byteOf first, others.map byteOf ++ rest, rfl, ?_, isDigitByte_byteOf isDigit,
          spanDigits_eq_iff.mpr ⟨rfl, areDigits, ends⟩⟩
        rw [is_byteOf isAscii, beq_eq_false_iff_ne]
        exact notZero

/-- Whether bytes go on neither with digits nor with a point and digits. -/
def EndsFraction (bytes : Bytes) : Prop :=
  ∀ byte, bytes.head? = some byte → isDigitByte byte = false ∧ is byte '.' = false

theorem spells_of_fractionDigits {fraction : Option (List Char)}
    (isRead : fractionDigits bytes = .ok (fraction, rest)) :
    ∃ chars, SpellsFraction fraction chars ∧ bytes = chars.map byteOf ++ rest := by
  cases bytes with
  | nil =>
      cases isRead
      exact ⟨[], .nothing, rfl⟩
  | cons byte others =>
      cases isPoint : is byte '.' with
      | false =>
          simp only [fractionDigits, isPoint, Bool.false_eq_true, if_false] at isRead
          cases isRead
          exact ⟨[], .nothing, rfl⟩
      | true =>
          simp only [fractionDigits, isPoint, if_true] at isRead
          split at isRead
          · cases isRead
          · cases isRead
          · rename_i digits left _ nonempty spans
            cases isRead
            rcases spanDigits_eq_iff.mp spans with ⟨rfl, areDigits, _⟩
            rw [eq_byteOf_of_is isPoint]
            exact ⟨'.' :: digits, .point nonempty areDigits, rfl⟩

theorem fractionDigits_of_spells {fraction : Option (List Char)}
    (spells : SpellsFraction fraction chars) (ends : EndsFraction more) :
    fractionDigits (chars.map byteOf ++ more) = .ok (fraction, more) := by
  cases spells with
  | nothing =>
      cases more with
      | nil => rfl
      | cons byte rest => simp [fractionDigits, ends byte rfl]
  | @point digits nonempty areDigits =>
      have spans := spanDigits_map areDigits fun byte isNext => (ends byte isNext).1
      have isPoint : is (byteOf '.') '.' = true := by decide
      simp only [List.map_cons, List.cons_append, fractionDigits, isPoint, if_true, spans]
      grind

theorem spells_of_exponentSign (bytes : Bytes) :
    ∃ sign, SpellsSign (exponentSign bytes).1 sign ∧
      bytes = sign.map byteOf ++ (exponentSign bytes).2 := by
  cases bytes with
  | nil => exact ⟨[], .nothing, rfl⟩
  | cons byte rest =>
      cases isPlus : is byte '+' with
      | true =>
          rw [eq_byteOf_of_is isPlus]
          exact ⟨['+'], .plus, rfl⟩
      | false =>
          cases isMinus : is byte '-' with
          | true =>
              rw [eq_byteOf_of_is isMinus]
              exact ⟨['-'], .minus, rfl⟩
          | false =>
              simp only [exponentSign, isPlus, isMinus, Bool.false_eq_true, if_false]
              exact ⟨[], .nothing, rfl⟩

theorem exponentSign_of_spells {negative : Bool} {sign digits : List Char}
    (spells : SpellsSign negative sign) (nonempty : digits ≠ []) (areDigits : AreDigits digits)
    (more : Bytes) :
    exponentSign ((sign ++ digits).map byteOf ++ more) =
      (negative, digits.map byteOf ++ more) := by
  cases spells with
  | plus => rfl
  | minus => rfl
  | nothing =>
      -- no digit is a sign
      cases digits with
      | nil => exact absurd rfl nonempty
      | cons first rest =>
          have isDigit := areDigits first List.mem_cons_self
          have isAscii := ascii_of_areDigits areDigits first List.mem_cons_self
          have notSign : first ≠ '+' ∧ first ≠ '-' := by
            constructor <;> rintro rfl <;> exact absurd isDigit (by decide)
          simp [exponentSign, is_byteOf isAscii, notSign]

theorem spells_of_exponentDigits {exponent : Option (Bool × List Char)}
    (isRead : exponentDigits bytes = .ok (exponent, rest)) :
    ∃ chars, SpellsExponent exponent chars ∧ bytes = chars.map byteOf ++ rest := by
  cases bytes with
  | nil =>
      cases isRead
      exact ⟨[], .nothing, rfl⟩
  | cons byte others =>
      cases isMark : is byte 'e' || is byte 'E' with
      | false =>
          simp only [exponentDigits, isMark, Bool.false_eq_true, if_false] at isRead
          cases isRead
          exact ⟨[], .nothing, rfl⟩
      | true =>
          rcases spells_of_exponentSign others with ⟨sign, spellsSign, areBytes⟩
          obtain ⟨mark, isLetter, rfl⟩ :
              ∃ mark, (mark = 'e' ∨ mark = 'E') ∧ byte = byteOf mark := by
            rcases Bool.or_eq_true_iff.mp isMark with isSmall | isCapital
            · exact ⟨'e', .inl rfl, eq_byteOf_of_is isSmall⟩
            · exact ⟨'E', .inr rfl, eq_byteOf_of_is isCapital⟩
          simp only [exponentDigits, isMark, if_true] at isRead
          split at isRead
          · cases isRead
          · rename_i first after isSigned
            split at isRead
            · rename_i isDigit
              rw [isSigned] at areBytes isRead
              cases spans : spanDigits (first :: after) with
              | mk digits left =>
                  rw [spans] at isRead
                  cases isRead
                  have nonempty : digits ≠ [] := by
                    rintro rfl
                    simp [spanDigits, isDigit] at spans
                  rcases spanDigits_eq_iff.mp spans with ⟨areDigitBytes, areDigits, _⟩
                  refine ⟨mark :: (sign ++ digits),
                    .mark isLetter spellsSign nonempty areDigits, ?_⟩
                  rw [areBytes, areDigitBytes]
                  simp
            · cases isRead

theorem exponentDigits_of_endsNumber (ends : EndsNumber more) :
    exponentDigits more = .ok (none, more) := by
  cases more with
  | nil => rfl
  | cons byte rest => simp [exponentDigits, ends byte rfl]

theorem exponentDigits_of_spells {exponent : Option (Bool × List Char)}
    (spells : SpellsExponent exponent chars) (ends : EndsNumber more) :
    exponentDigits (chars.map byteOf ++ more) = .ok (exponent, more) := by
  cases spells with
  | nothing => exact exponentDigits_of_endsNumber ends
  | @mark mark negative sign digits isMark spellsSign nonempty areDigits =>
      have signed := exponentSign_of_spells spellsSign nonempty areDigits more
      have spans := spanDigits_map areDigits ends.endsDigits
      have marks : (is (byteOf mark) 'e' || is (byteOf mark) 'E') = true := by
        rcases isMark with rfl | rfl <;> decide
      simp only [List.map_cons, List.cons_append, exponentDigits, marks, if_true, signed]
      cases digits with
      | nil => exact absurd rfl nonempty
      | cons first others =>
          have isDigit := isDigitByte_byteOf (areDigits first List.mem_cons_self)
          rw [List.map_cons, List.cons_append] at spans ⊢
          simp [isDigit, spans]

/-- What spells an exponent, and what is behind it, does not go on with a fraction. -/
theorem SpellsExponent.endsFraction {exponent : Option (Bool × List Char)}
    (spells : SpellsExponent exponent chars) (ends : EndsNumber more) :
    EndsFraction (chars.map byteOf ++ more) := by
  cases spells with
  | nothing => exact fun byte isNext => ⟨(ends byte isNext).1, (ends byte isNext).2.1⟩
  | mark isMark _ _ _ =>
      rintro _ ⟨⟩
      rcases isMark with rfl | rfl <;> decide

theorem SpellsFraction.endsDigits {fraction : Option (List Char)}
    (spells : SpellsFraction fraction chars) (ends : EndsFraction more) :
    EndsDigits (chars.map byteOf ++ more) := by
  cases spells with
  | nothing => exact fun byte isNext => (ends byte isNext).1
  | point _ _ => exact endsDigits_cons (by decide) _

/-! ### Numbers -/

variable {negative : Bool} {token : NumberToken} {text : Bytes}

theorem spells_of_unsignedNumber (isRead : unsignedNumber negative bytes = .ok (token, rest)) :
    ∃ text, SpellsUnsigned negative token text ∧ bytes = text ++ rest := by
  simp only [unsignedNumber, Except.bind_eq_ok_iff, Except.pure_eq_ok_iff, Prod.mk.injEq,
    Prod.exists] at isRead
  rcases isRead with
    ⟨whole, _, wholeRead, fraction, _, fractionRead, exponent, _, exponentRead, rfl, rfl⟩
  rcases wholeDigits_eq_ok_iff_isWhole.mp wholeRead with ⟨isWhole, rfl, _⟩
  rcases spells_of_fractionDigits fractionRead with ⟨fractionChars, spellsFraction, rfl⟩
  rcases spells_of_exponentDigits exponentRead with ⟨exponentChars, spellsExponent, rfl⟩
  exact ⟨_, .parts isWhole spellsFraction spellsExponent, by simp only [List.append_assoc]⟩

theorem unsignedNumber_of_spells (spells : SpellsUnsigned negative token text)
    (ends : EndsNumber more) : unsignedNumber negative (text ++ more) = .ok (token, more) := by
  rcases spells with ⟨isWhole, spellsFraction, spellsExponent⟩
  have endsFraction := spellsExponent.endsFraction ends
  have wholeRead := wholeDigits_eq_ok_iff_isWhole.mpr
    ⟨isWhole, rfl, spellsFraction.endsDigits endsFraction⟩
  simp only [unsignedNumber, List.append_assoc, wholeRead, Except.ok_bind,
    fractionDigits_of_spells spellsFraction endsFraction,
    exponentDigits_of_spells spellsExponent ends]
  rfl

/-- Whether a text has a first byte, of some sort. -/
def Begins (begins : UInt8 → Bool) (text : Bytes) : Prop :=
  ∃ byte rest, text = byte :: rest ∧ begins byte = true

/-- Whether a number begins with a byte: it is a digit or a minus sign. -/
def beginsNumber (byte : UInt8) : Bool :=
  is byte '-' || isDigitByte byte

theorem code_of_beginsNumber {byte : UInt8} (begins : beginsNumber byte = true) :
    byte.toNat = 45 ∨ 48 ≤ byte.toNat ∧ byte.toNat ≤ 57 := by
  rcases Bool.or_eq_true_iff.mp begins with isSign | isDigit
  · exact .inl (by simpa [is] using isSign)
  · have code := toNat_charOf byte
    rw [isDigitByte, Option.isSome_iff_exists] at isDigit
    rcases isDigit with ⟨digit, isDigit⟩
    rcases Number.isDigit_of_digitValue? isDigit with ⟨low, high⟩
    have low : 48 ≤ (charOf byte).toNat := low
    have high : (charOf byte).toNat ≤ 57 := high
    omega

/-- A number without a sign begins with a digit. -/
theorem SpellsUnsigned.begins (spells : SpellsUnsigned negative token text) :
    Begins isDigitByte text := by
  rcases spells with ⟨isWhole, _, _⟩
  cases isWhole with
  | zero => exact ⟨_, _, rfl, by decide⟩
  | digits _ areDigits =>
      exact ⟨_, _, rfl, isDigitByte_byteOf (areDigits _ List.mem_cons_self)⟩

theorem SpellsNumber.begins (spells : SpellsNumber token text) : Begins beginsNumber text := by
  cases spells with
  | plain unsigned =>
      rcases unsigned.begins with ⟨byte, rest, rfl, isDigit⟩
      exact ⟨byte, rest, rfl, by rw [beginsNumber, isDigit, Bool.or_true]⟩
  | minus _ => exact ⟨_, _, rfl, by decide⟩

theorem spells_of_signedNumber (isRead : signedNumber bytes = .ok (token, rest)) :
    ∃ text, SpellsNumber token text ∧ bytes = text ++ rest := by
  cases bytes with
  | nil => cases isRead
  | cons byte others =>
      cases isMinus : is byte '-' with
      | true =>
          simp only [signedNumber, isMinus, if_true] at isRead
          rcases spells_of_unsignedNumber isRead with ⟨text, spells, rfl⟩
          rw [eq_byteOf_of_is isMinus]
          exact ⟨0x2D :: text, .minus spells, rfl⟩
      | false =>
          simp only [signedNumber, isMinus, Bool.false_eq_true, if_false] at isRead
          rcases spells_of_unsignedNumber isRead with ⟨text, spells, areBytes⟩
          exact ⟨text, .plain spells, areBytes⟩

/-- A number is read where it is spelled. -/
theorem spells_of_number (isRead : number bytes = .ok (token, rest)) :
    ∃ text, SpellsNumber token text ∧ bytes = text ++ rest :=
  spells_of_signedNumber (Except.mapError_eq_ok_iff.mp isRead)

theorem number_of_spells (spells : SpellsNumber token text) : ReadsAs number text token := by
  intro more ends
  rw [number, Except.mapError_eq_ok_iff]
  cases spells with
  | plain unsigned =>
      have isRead := unsignedNumber_of_spells unsigned ends
      rcases unsigned.begins with ⟨byte, rest, rfl, isDigit⟩
      have notMinus : is byte '-' = false := by
        rw [Bool.eq_false_iff]
        intro isMinus
        rw [eq_byteOf_of_is isMinus] at isDigit
        exact absurd isDigit (by decide)
      rw [List.cons_append] at isRead ⊢
      rw [signedNumber, notMinus]
      exact isRead
  | minus unsigned => exact unsignedNumber_of_spells unsigned ends

/-- A text is read as a number just if all of it spells the number. -/
theorem spelledNumber_eq_ok_iff {written : String} :
    spelledNumber written = .ok token ↔ SpellsNumber token (bytesOf written) := by
  simp only [spelledNumber, Except.mapError_eq_ok_iff]
  constructor
  · intro isNumber
    split at isNumber
    · cases isNumber
    · split at isNumber
      · cases isNumber
      · split at isNumber
        · rename_i isRead
          cases isNumber
          rcases spells_of_signedNumber isRead with ⟨text, spells, areBytes⟩
          rwa [areBytes, List.append_nil]
        all_goals cases isNumber
  · intro spells
    have isRead := Except.mapError_eq_ok_iff.mp (number_of_spells spells [] endsNumber_nil)
    rw [List.append_nil] at isRead
    rcases spells.begins with ⟨byte, rest, areBytes, isBegin⟩
    rw [areBytes] at isRead ⊢
    have notEmpty : (!is byte '-' && (spanDigits (byte :: rest)).1.isEmpty) = false := by
      rw [beginsNumber] at isBegin
      cases isMinus : is byte '-' with
      | true => rfl
      | false =>
          rw [isMinus, Bool.false_or] at isBegin
          simp [spanDigits, isBegin]
    simp only [List.isEmpty_cons, Bool.false_eq_true, if_false, startsWith_cons, notEmpty, isRead]

end Numbers

/-! ### Text -/

theorem QuotedAs.exists_front {bytes content rest : Bytes}
    (isQuoted : QuotedAs bytes content rest) :
    ∃ front, QuotedAs front content [] ∧ bytes = front ++ rest := by
  induction isQuoted with
  | quote rest => exact ⟨[0x22], .quote [], rfl⟩
  | plain notQuote notEscape notControl _ ih =>
      rcases ih with ⟨front, isQuoted, rfl⟩
      exact ⟨_, .plain notQuote notEscape notControl isQuoted, rfl⟩
  | escape isEscaped _ ih =>
      rcases ih with ⟨front, isQuoted, rfl⟩
      exact ⟨_, .escape isEscaped isQuoted, rfl⟩
  | unit isUnit notLeading notTrailing _ ih =>
      rcases ih with ⟨front, isQuoted, rfl⟩
      exact ⟨_, .unit isUnit notLeading notTrailing isQuoted, rfl⟩
  | pair isLeadingUnit leads notTrailing isTrailingUnit trails _ ih =>
      rcases ih with ⟨front, isQuoted, rfl⟩
      exact ⟨_, .pair isLeadingUnit leads notTrailing isTrailingUnit trails isQuoted, rfl⟩

/-- A text is read just where it is spelled, up to the quote that closes it. -/
theorem stringBody_eq_ok_iff_spells {bytes rest : Bytes} {text : String} :
    stringBody bytes = .ok (text, rest) ↔
      ∃ front, SpellsText text front ∧ bytes = front ++ rest := by
  rw [stringBody_eq_ok_iff]
  constructor
  · rintro ⟨content, isQuoted, isText⟩
    rcases isQuoted.exists_front with ⟨front, frontQuoted, rfl⟩
    exact ⟨front, ⟨content, frontQuoted, isText⟩, rfl⟩
  · rintro ⟨front, ⟨content, isQuoted, isText⟩, rfl⟩
    exact ⟨content, isQuoted.append rest, isText⟩

end JsonTables.JsonText
