import JsonTables.Proofs.IntegerText

/-!
# Numbers that are written and read back

An integer is written in its digits without zeros in front and is read back by every reader
that has room for it.
-/

namespace JsonTables.Number

/-! ### Digits -/

theorem digitValue?_eq_some {char : Char} (isDigit : '0' ≤ char ∧ char ≤ '9') :
    digitValue? char = some (char.toNat - '0'.toNat) :=
  if_pos isDigit

theorem digitsFrom_eq_ofDigitChars {chars : List Char} (areDigits : AreDigits chars) (value : Nat) :
    digitsFrom value chars = some (Nat.ofDigitChars 10 chars value) := by
  induction chars generalizing value with
  | nil => rfl
  | cons char rest ih =>
      rw [AreDigits, List.forall_mem_cons] at areDigits
      rw [digitsFrom_cons (digitValue?_eq_some areDigits.1), ih areDigits.2]
      rfl

theorem areDigits_toDigits (number : Nat) : AreDigits (Nat.toDigits 10 number) := by
  intro char charMem
  have isDigit := Nat.isDigit_of_mem_toDigits (by decide) (by decide) charMem
  simpa [Char.isDigit, Char.le_def] using isDigit

/-- The digits of a number write it. -/
theorem digitsFrom_toDigits (number : Nat) :
    digitsFrom 0 (Nat.toDigits 10 number) = some number := by
  rw [digitsFrom_eq_ofDigitChars (areDigits_toDigits number),
    Nat.ofDigitChars_toDigits (by decide) (by decide)]

theorem toDigits_ne_nil (number : Nat) : Nat.toDigits 10 number ≠ [] :=
  List.ne_nil_of_length_pos Nat.length_toDigits_pos

/-- A number other than zero is written without zeros in front. -/
theorem head?_toDigits_ne_zero {number : Nat} (positive : 0 < number) :
    (Nat.toDigits 10 number).head? ≠ some '0' := by
  induction number using Nat.strongRecOn with
  | ind number ih =>
      by_cases isDigit : number < 10
      · have digits : ∀ digit < 10, 0 < digit → (Nat.toDigits 10 digit).head? ≠ some '0' := by
          decide
        exact digits number isDigit positive
      · have split := Nat.toDigits_append_toDigits (b := 10) (n := number / 10) (d := number % 10)
          (by decide) (by omega) (by omega)
        rw [Nat.div_add_mod] at split
        rw [← split, List.head?_append, Option.or_of_isSome (by simp)]
        exact ih (number / 10) (by omega) (by omega)

/-- An integer is written as its digits, after a sign if it is negative. -/
theorem toList_toString (value : Int) :
    (toString value).toList =
      if value < 0 then '-' :: Nat.toDigits 10 value.natAbs else Nat.toDigits 10 value.natAbs := by
  cases value with
  | ofNat number =>
      rw [if_neg (by simp)]
      exact Nat.toList_repr
  | negSucc number =>
      rw [if_pos (Int.negSucc_lt_zero number)]
      change ("-" ++ Nat.repr (number + 1)).toList = _
      rw [String.toList_append, Nat.toList_repr]
      rfl

/-! ### Integers between bounds -/

theorem le_of_digitsFrom {chars : List Char} {value number : Nat}
    (isNumber : digitsFrom value chars = some number) : value ≤ number := by
  induction chars generalizing value with
  | nil =>
      cases isNumber
      exact Nat.le_refl _
  | cons char rest ih =>
      rcases digitsFrom_cons_eq_some_iff.mp isNumber with ⟨digit, _, isNumber⟩
      have further := ih isNumber
      omega

namespace Bounds

variable {bounds : Bounds} {chars : List Char} {number : Nat}

theorem readUp_of_digitsFrom {value : Nat} (isNumber : digitsFrom value chars = some number)
    (inside : (number : Int) ≤ bounds.high) : bounds.readUp value chars = .ok (number : Int) := by
  induction chars generalizing value with
  | nil =>
      cases isNumber
      rfl
  | cons char rest ih =>
      rcases digitsFrom_cons_eq_some_iff.mp isNumber with ⟨digit, isValue, isNumber⟩
      have further := le_of_digitsFrom isNumber
      have goesOn := ih isNumber
      push_cast at goesOn
      simp only [readUp, isValue]
      rw [if_neg (by omega), goesOn]

theorem readDown_of_digitsFrom {value : Nat} (isNumber : digitsFrom value chars = some number)
    (inside : bounds.low ≤ -(number : Int)) :
    bounds.readDown (-(value : Int)) chars = .ok (-(number : Int)) :=
  readDown_neg_eq_ok_iff.mpr (readUp_of_digitsFrom isNumber (Int.le_neg_of_le_neg inside))

/-- Digits alone are read whether or not there is room for negative numbers. -/
theorem read_of_digits {text : String} (nonempty : text.toList ≠ [])
    (isNumber : digitsFrom 0 text.toList = some number) (inside : (number : Int) ≤ bounds.high) :
    bounds.read text = .ok (number : Int) := by
  have areDigits := areDigits_of_digitsFrom isNumber
  have noPlus := ne_of_areDigits areDigits '+' (by decide)
  have noMinus := ne_of_areDigits areDigits '-' (by decide)
  have isRead : bounds.readUp 0 text.toList = .ok (number : Int) :=
    readUp_of_digitsFrom isNumber inside
  unfold Bounds.read
  split <;> simp_all

theorem read_minus {text : String} (nonempty : chars ≠ []) (isText : text.toList = '-' :: chars) :
    bounds.read text =
      if bounds.low < 0 then bounds.readDown 0 chars else .error .invalidDigit := by
  unfold Bounds.read
  split <;> simp_all

/-- What spells an integer within bounds is read as it, if there is room for a sign. -/
theorem read_of_spells {text : String} {value : Int} (spells : Spells text.toList value)
    (signs : bounds.low < 0) (inside : bounds.contains value = true) :
    bounds.read text = .ok value := by
  rw [contains_iff] at inside
  generalize isText : text.toList = written at spells
  cases spells with
  | plain nonempty isNumber =>
      subst isText
      exact read_of_digits nonempty isNumber inside.2
  | @plus chars number nonempty isNumber =>
      have isRead : bounds.readUp 0 chars = .ok (number : Int) :=
        readUp_of_digitsFrom isNumber inside.2
      unfold Bounds.read
      split <;> simp_all
  | @minus chars number nonempty isNumber =>
      rw [read_minus nonempty isText, if_pos signs]
      exact readDown_of_digitsFrom isNumber inside.1

end Bounds

/-- What spells an integer is read just if the integer is within bounds. -/
theorem Bounds.read_eq_ok_iff {bounds : Bounds} (signs : bounds.low < 0)
    (high : 0 ≤ bounds.high) {text : String} {value result : Int}
    (spells : Spells text.toList value) :
    bounds.read text = .ok result ↔ bounds.contains value = true ∧ result = value := by
  constructor
  · intro isRead
    rcases Bounds.spells_of_read signs.le high isRead with ⟨spellsResult, inside⟩
    cases spellsResult.unique spells
    exact ⟨inside, rfl⟩
  · rintro ⟨inside, rfl⟩
    exact Bounds.read_of_spells spells signs inside

/-- What spells an integer is read as an integer of 64 bits just if it is one. -/
theorem int64_read_eq_ok_iff {text : String} {value result : Int}
    (spells : Spells text.toList value) :
    int64.read text = .ok result ↔ int64.contains value = true ∧ result = value :=
  Bounds.read_eq_ok_iff (by decide) (by decide) spells

theorem spells_toString (value : Int) : Spells (toString value).toList value := by
  have spelled := digitsFrom_toDigits value.natAbs
  rw [toList_toString]
  split
  · have isMinus := Spells.minus (toDigits_ne_nil _) spelled
    rwa [show -(value.natAbs : Int) = value by omega] at isMinus
  · have isPlain := Spells.plain (toDigits_ne_nil _) spelled
    rwa [show (value.natAbs : Int) = value by omega] at isPlain

/-! ### Decimals -/

theorem digitsFrom_append (value : Nat) (first second : List Char) :
    digitsFrom value (first ++ second) = (digitsFrom value first).bind (digitsFrom · second) := by
  induction first generalizing value with
  | nil => rfl
  | cons char rest ih =>
      cases isValue : digitValue? char with
      | none => simp [digitsFrom, isValue]
      | some digit => rw [List.cons_append, digitsFrom_cons isValue, digitsFrom_cons isValue, ih]

theorem digitsFrom_zeros (value count : Nat) :
    digitsFrom value (List.replicate count '0') = some (value * 10 ^ count) := by
  induction count generalizing value with
  | zero => simp [digitsFrom]
  | succ count ih =>
      have isZero : digitValue? '0' = some 0 := by decide
      rw [List.replicate_succ, digitsFrom_cons isZero, ih, Nat.pow_succ]
      congr 1
      ring

theorem digitsFrom_zeros_append (count : Nat) {digits : List Char} {value : Nat}
    (isNumber : digitsFrom 0 digits = some value) :
    digitsFrom 0 (List.replicate count '0' ++ digits) = some value := by
  rw [digitsFrom_append, digitsFrom_zeros]
  simpa using isNumber

namespace Decimal

/-- The decimal that the text of a decimal is read as: of one value with it, and the same
where it has a point or an exponent. -/
def settled (decimal : Decimal) : Decimal :=
  if decimal.unscaled = 0 then ⟨0, 0⟩
  else if decimal.scale ≤ 0 ∧ -decimal.scale ≤ maxAddedZeros then
    ⟨decimal.unscaled * 10 ^ (-decimal.scale).toNat, 0⟩
  else decimal

/-- What may follow the digits of a decimal: nothing, or a mark and an exponent. -/
inductive Raises : List Char → Int → Prop
  | nothing : Raises [] 0
  | mark {mark : Char} {text : String} {exponent : Int} (isMark : mark = 'e' ∨ mark = 'E')
      (isRead : (Bounds.signed 128).read text = .ok exponent) :
      Raises (mark :: text.toList) exponent

/-- What is read as a positive decimal: its digits, with a point among them or without, and
an exponent. -/
inductive Magnitude : List Char → Nat → Int → Prop
  | whole {digits tail : List Char} {value : Nat} {exponent : Int} (nonempty : digits ≠ [])
      (isNumber : digitsFrom 0 digits = some value) (raises : Raises tail exponent) :
      Magnitude (digits ++ tail) value (-exponent)
  | pointed (before after : List Char) {tail : List Char} {value : Nat} {exponent : Int}
      (nonempty : before ≠ []) (isNumber : digitsFrom 0 (before ++ after) = some value)
      (raises : Raises tail exponent) :
      Magnitude (before ++ '.' :: after ++ tail) value (after.length - exponent)

/-! #### Reading -/

theorem splitPoint_plain {chars : List Char} (noPoint : ∀ char ∈ chars, char ≠ '.') :
    splitPoint chars = (chars, 0) := by
  have none : chars.dropWhile (· != '.') = [] := by
    rw [List.dropWhile_eq_nil_iff]
    intro char charMem
    simpa using noPoint char charMem
  rw [splitPoint, none]

theorem splitPoint_point (before after : List Char) (noPoint : ∀ char ∈ before, char ≠ '.')
    (noUnderscore : ∀ char ∈ after, char ≠ '_') :
    splitPoint (before ++ '.' :: after) = (before ++ after, after.length) := by
  have passes : ∀ char ∈ before, (char != '.') = true := by
    intro char charMem
    simpa using noPoint char charMem
  have allKept : after.filter (· != '_') = after := by
    rw [List.filter_eq_self]
    intro char charMem
    simpa using noUnderscore char charMem
  rw [splitPoint, List.dropWhile_append_of_pos passes, List.takeWhile_append_of_pos passes]
  simp [allKept]

/-- The parts of a text are found and read: the integer that its digits spell, the places
after the point, and the exponent. -/
theorem read_of_parts {text : String} (base : List Char) {tail digits : List Char} {places : Nat}
    {exponent unscaled : Int} (isText : text.toList = base ++ tail) (nonempty : base ≠ [])
    (noMark : ∀ char ∈ base, char ≠ 'e' ∧ char ≠ 'E') (raises : Raises tail exponent)
    (isSplit : splitPoint base = (digits, places))
    (inside : int64.contains (places - exponent) = true)
    (isInteger : readInteger digits = .ok unscaled) :
    read text = .ok ⟨unscaled, places - exponent⟩ := by
  have passes : ∀ char ∈ base, (char != 'e' && char != 'E') = true := by
    intro char charMem
    simpa using noMark char charMem
  have isBase : text.toList.takeWhile (fun char => char != 'e' && char != 'E') = base := by
    rw [isText, List.takeWhile_append_of_pos passes]
    cases raises with
    | nothing => simp
    | mark isMark isRead => rcases isMark with rfl | rfl <;> simp
  have isExponent : readExponent text.toList = .ok exponent := by
    rw [readExponent, isText, List.dropWhile_append_of_pos passes]
    cases raises with
    | nothing => rfl
    | mark isMark isRead =>
        rcases isMark with rfl | rfl <;> simpa [String.ofList_toList] using isRead
  have notEmpty : base.isEmpty = false := by simpa using nonempty
  simp only [read, isExponent, isBase, isSplit, isInteger, notEmpty]
  simp [Except.mapError, inside]

theorem read_of_magnitude {text : String} (negative : Bool) {chars : List Char} {value : Nat}
    {scale : Int} (isText : text.toList = (if negative then ['-'] else []) ++ chars)
    (magnitude : Magnitude chars value scale) (inside : int64.contains scale = true) :
    read text = .ok ⟨if negative then -value else value, scale⟩ := by
  generalize isSign : (if negative then ['-'] else []) = sign at isText
  have signs : ∀ char ∈ sign, char = '-' := by
    cases negative <;> simp [← isSign]
  -- digits spell an integer with the sign in front as they do without
  have spells : ∀ {digits : List Char}, digits ≠ [] → digitsFrom 0 digits = some value →
      Spells (sign ++ digits) (if negative then -value else value) := by
    intro digits nonempty isNumber
    cases negative with
    | false =>
        rw [← isSign]
        exact .plain nonempty isNumber
    | true =>
        rw [← isSign]
        exact .minus nonempty isNumber
  cases magnitude with
  | @whole digits tail _ exponent nonempty isNumber raises =>
      have spelled := spells nonempty isNumber
      have plain := (plain_of_spells spelled).2
      have parts := read_of_parts (sign ++ digits) (by rw [isText, List.append_assoc])
        (by simp [nonempty])
        (fun char charMem => ⟨(plain char charMem).1, (plain char charMem).2.1⟩) raises
        (splitPoint_plain fun char charMem => (plain char charMem).2.2)
        (by simpa using inside) (readInteger_of_spells spelled)
      simpa using parts
  | @pointed before after tail _ exponent nonempty isNumber raises =>
      have spelled := spells (by simp [nonempty]) isNumber
      have plain := (plain_of_spells spelled).2
      have noUnderscore := ne_of_areDigits (areDigits_of_digitsFrom isNumber) '_' (by decide)
      have isSplit := splitPoint_point (sign ++ before) after
        (fun char charMem => (plain char (by simp_all; tauto)).2.2)
        (fun char charMem => noUnderscore char (by simp [charMem]))
      rw [← List.append_assoc] at spelled
      refine read_of_parts ((sign ++ before) ++ '.' :: after) (by simp [isText])
        (by simp) ?_ raises isSplit inside (readInteger_of_spells spelled)
      intro char charMem
      simp only [List.mem_append, List.mem_cons] at charMem
      by_cases isPoint : char = '.'
      · subst isPoint
        decide
      · have inDigits : char ∈ sign ++ (before ++ after) := by
          simp only [List.mem_append]
          tauto
        exact ⟨(plain char inDigits).1, (plain char inDigits).2.1⟩

/-! #### Writing -/

theorem raises_toString {mark : Char} (isMark : mark = 'e' ∨ mark = 'E') {exponent : Int}
    (inside : (Bounds.signed 128).contains exponent = true) :
    Raises (mark :: (toString exponent).toList) exponent :=
  .mark isMark (Bounds.read_of_spells (spells_toString exponent) (by decide) inside)

theorem raises_plus {exponent : Nat} (inside : (Bounds.signed 128).contains exponent = true) :
    Raises ('e' :: '+' :: (toString (exponent : Int)).toList) exponent := by
  have written : (toString (exponent : Int)).toList = Nat.toDigits 10 exponent := by
    rw [toList_toString, if_neg (by omega)]
    rfl
  have spells :
      Spells (String.ofList ('+' :: (toString (exponent : Int)).toList)).toList exponent := by
    rw [String.toList_ofList, written]
    exact .plus (toDigits_ne_nil _) (digitsFrom_toDigits exponent)
  have raises := Raises.mark (.inl rfl) (Bounds.read_of_spells spells (by decide) inside)
  rwa [String.toList_ofList] at raises

theorem magnitude_pointed {digits : List Char} {value : Nat} (places : Nat) (positive : 0 < places)
    (isNumber : digitsFrom 0 digits = some value) :
    Magnitude (pointed digits places) value places := by
  unfold pointed
  split
  · rename_i fewer
    have isPointed := Magnitude.pointed (digits.take (digits.length - places))
      (digits.drop (digits.length - places))
      (List.ne_nil_of_length_pos (by rw [List.length_take]; omega))
      (by rwa [List.take_append_drop]) .nothing
    have count : (digits.drop (digits.length - places)).length = places := by
      rw [List.length_drop]
      omega
    simpa [count] using isPointed
  · rename_i more
    have isPointed := Magnitude.pointed ['0']
      (List.replicate (places - digits.length) '0' ++ digits) (List.cons_ne_nil _ _)
      (digitsFrom_zeros_append (places - digits.length + 1) isNumber) .nothing
    have count : (List.replicate (places - digits.length) '0' ++ digits).length = places := by
      rw [List.length_append, List.length_replicate]
      omega
    simpa [count] using isPointed

theorem magnitude_exponent {digits : List Char} {value : Nat} {scale : Int}
    (nonempty : digits ≠ []) (isNumber : digitsFrom 0 digits = some value)
    (inside : (Bounds.signed 128).contains (digits.length - 1 - scale) = true) :
    Magnitude (digits.take 1 ++ (if digits.length = 1 then [] else '.' :: digits.drop 1)
      ++ 'E' :: (toString (digits.length - 1 - scale)).toList) value scale := by
  have raises := raises_toString (Or.inr rfl : 'E' = 'e' ∨ 'E' = 'E') inside
  have someDigits := List.length_pos_iff.mpr nonempty
  split
  · rename_i single
    have isWhole := Magnitude.whole nonempty isNumber raises
    rw [show -((digits.length : Int) - 1 - scale) = scale by omega] at isWhole
    rwa [List.take_of_length_le (by omega), List.append_nil]
  · have isPointed := Magnitude.pointed (digits.take 1) (digits.drop 1)
      (by simp [nonempty]) (by rwa [List.take_append_drop]) raises
    rwa [List.length_drop, show ((digits.length - 1 : Nat) : Int) -
      ((digits.length : Int) - 1 - scale) = scale by omega] at isPointed

theorem magnitude_zeros {digits : List Char} {value : Nat} (nonempty : digits ≠ [])
    (isNumber : digitsFrom 0 digits = some value) (count : Nat) :
    Magnitude (digits ++ List.replicate count '0') (value * 10 ^ count) 0 := by
  have zeros : digitsFrom 0 (digits ++ List.replicate count '0') = some (value * 10 ^ count) := by
    rw [digitsFrom_append, isNumber]
    exact digitsFrom_zeros value count
  simpa using Magnitude.whole (by simp [nonempty]) zeros .nothing

theorem magnitude_raised {digits : List Char} {value : Nat} (nonempty : digits ≠ [])
    (isNumber : digitsFrom 0 digits = some value) (exponent : Nat)
    (inside : (Bounds.signed 128).contains exponent = true) :
    Magnitude (digits ++ 'e' :: '+' :: (toString (exponent : Int)).toList) value (-exponent) :=
  .whole nonempty isNumber (raises_plus inside)

/-- What is written of a positive decimal is read as what the decimal settles to. -/
theorem magnitude_showMagnitude (value : Nat) {scale : Int} (inside : int64.contains scale = true) :
    if scale ≤ 0 ∧ -scale ≤ maxAddedZeros then
      Magnitude (showMagnitude value scale) (value * 10 ^ (-scale).toNat) 0
    else Magnitude (showMagnitude value scale) value scale := by
  have isNumber : digitsFrom 0 (decimalDigits value) = some value := digitsFrom_toDigits value
  have nonempty : decimalDigits value ≠ [] := toDigits_ne_nil value
  have someDigits := List.length_pos_iff.mpr nonempty
  have room : ∀ exponent : Int, int64.low ≤ exponent → exponent ≤ -int64.low →
      (Bounds.signed 128).contains exponent = true := by
    have low : (Bounds.signed 128).low ≤ int64.low := by decide
    have high : -int64.low ≤ (Bounds.signed 128).high := by decide
    intro exponent notSmaller notLarger
    exact Bounds.contains_iff.mpr ⟨by omega, by omega⟩
  have symmetric : int64.high < -int64.low := by decide
  rcases Bounds.contains_iff.mp inside with ⟨notSmaller, notLarger⟩
  have leading : maxLeadingZeros = 5 := rfl
  have added : maxAddedZeros = 15 := rfl
  by_cases few : scale ≤ 0 ∧ -scale ≤ maxAddedZeros
  · rw [if_pos few]
    simp only [showMagnitude]
    rw [if_neg (by omega), if_neg (by omega), if_neg (by omega)]
    exact magnitude_zeros nonempty isNumber _
  · rw [if_neg few]
    simp only [showMagnitude]
    split
    · exact magnitude_exponent nonempty isNumber (room _ (by omega) (by omega))
    · split
      · have isPointed := magnitude_pointed scale.toNat (by omega) isNumber
        rwa [show (scale.toNat : Int) = scale by omega] at isPointed
      · have isRaised := magnitude_raised nonempty isNumber scale.natAbs
          (room _ (by omega) (by omega))
        rw [if_pos (by omega), show -scale = (scale.natAbs : Int) by omega]
        rwa [show -(scale.natAbs : Int) = scale by omega] at isRaised

theorem signed_natAbs_mul (value : Int) (factor : Nat) :
    (if value < 0 then -((value.natAbs * factor : Nat) : Int) else (value.natAbs * factor : Nat)) =
      value * factor := by
  rw [Int.natCast_mul]
  split
  · rw [Int.ofNat_natAbs_of_nonpos (by omega), Int.neg_mul, Int.neg_neg]
  · rw [Int.natAbs_of_nonneg (by omega)]

/-- The text of a decimal is read as what the decimal settles to. -/
theorem read_toString {decimal : Decimal} (inside : int64.contains decimal.scale = true) :
    read (toString decimal) = .ok decimal.settled := by
  change read decimal.toString = _
  by_cases isZero : decimal.unscaled = 0
  · have zero : Magnitude ['0'] 0 0 := by
      simpa using Magnitude.whole (List.cons_ne_nil '0' []) rfl .nothing
    rw [Decimal.toString, if_pos isZero, settled, if_pos isZero]
    exact read_of_magnitude false rfl zero (by decide)
  · have magnitude := magnitude_showMagnitude decimal.unscaled.natAbs inside
    have isText : decimal.toString.toList = (if decimal.unscaled < 0 then ['-'] else []) ++
        showMagnitude decimal.unscaled.natAbs decimal.scale := by
      rw [Decimal.toString, if_neg isZero, String.toList_ofList]
      split <;> rfl
    rw [settled, if_neg isZero]
    split at magnitude
    · rename_i few
      have isRead := read_of_magnitude (decimal.unscaled < 0) (by simpa using isText)
        magnitude (by decide)
      simp only [decide_eq_true_eq, signed_natAbs_mul] at isRead
      rw [if_pos few, isRead]
      push_cast
      rfl
    · rename_i notFew
      have isRead := read_of_magnitude (decimal.unscaled < 0) (by simpa using isText)
        magnitude inside
      have noFactor := signed_natAbs_mul decimal.unscaled 1
      rw [Nat.mul_one, Nat.cast_one, Int.mul_one] at noFactor
      simp only [decide_eq_true_eq, noFactor] at isRead
      rw [if_neg notFew, isRead]

/-! #### Sameness -/

theorem digitCount_mul_pow {value : Nat} (positive : 0 < value) (count : Nat) :
    digitCount (value * 10 ^ count) = digitCount value + count := by
  induction count with
  | zero => simp
  | succ count ih =>
      have grown := Nat.toDigits_append_toDigits (b := 10) (n := value * 10 ^ count) (d := 0)
        (by decide) (Nat.mul_pos positive (Nat.pow_pos (by decide))) (by decide)
      rw [digitCount, Nat.pow_succ, ← Nat.mul_assoc, Nat.mul_comm, ← Nat.add_zero (10 * _), ← grown,
        List.length_append]
      rw [digitCount] at ih
      rw [ih]
      rfl

theorem compareMagnitude_self (value : Nat) (scale : Int) :
    compareMagnitude value scale value scale = .eq := by
  simp [compareMagnitude]

theorem compareMagnitude_mul_pow {value : Nat} (positive : 0 < value) (count : Nat) :
    compareMagnitude value (-count) (value * 10 ^ count) 0 = .eq ∧
      compareMagnitude (value * 10 ^ count) 0 value (-count) = .eq := by
  simp [compareMagnitude, digitCount_mul_pow positive]

/-- A decimal settles to one of the same value. -/
theorem same_settled (decimal : Decimal) : decimal.same decimal.settled = true := by
  rw [same, beq_iff_eq]
  by_cases isZero : decimal.unscaled = 0
  · simp [settled, compare, isZero]
  · have nonzero : 0 < decimal.unscaled.natAbs := by omega
    rw [settled, if_neg isZero]
    split
    · rename_i few
      rcases decimal with ⟨unscaled, scale⟩
      dsimp only at few
      obtain ⟨count, rfl⟩ : ∃ count : Nat, scale = -count := ⟨scale.natAbs, by omega⟩
      have sameSign : (unscaled * 10 ^ count).sign = unscaled.sign := by
        rw [Int.sign_mul, Int.sign_eq_one_of_pos (Int.pow_pos (by decide)), Int.mul_one]
      have abs : (unscaled * 10 ^ count).natAbs = unscaled.natAbs * 10 ^ count := by
        rw [Int.natAbs_mul, Int.natAbs_pow]
        rfl
      rcases compareMagnitude_mul_pow nonzero count with ⟨upward, downward⟩
      simp only [compare, Int.neg_neg, Int.toNat_natCast, sameSign, abs, upward, downward]
      simp [isZero]
    · simp [compare, isZero, compareMagnitude_self]

end Decimal

end JsonTables.Number
