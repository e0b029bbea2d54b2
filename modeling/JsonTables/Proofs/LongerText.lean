import JsonTables.JsonText.Reader
import JsonTables.Proofs.QuotedText

/-!
# Reading from a longer text

What a reader has read from a text it reads alike if more stands behind the text, as long
as a number at its end is not made longer.  This is shown here of the parts of values, and
of items that are read one after another.  A reader that is made of others reads on if
they do.
-/

namespace JsonTables.JsonText

/-- Whether there are no bytes or the first is blank. -/
def BeginsBlank (bytes : Bytes) : Prop :=
  ∀ byte, bytes.head? = some byte → isBlankByte byte = true

/-- Whether a reader uses at least so many bytes, and reads alike from a longer text, to
the same place. -/
def ReadsOn {ε α : Type} (used : Nat) (read : Bytes → Except ε (α × Bytes)) : Prop :=
  ∀ ⦃bytes found rest⦄, read bytes = .ok (found, rest) →
    rest.length + used ≤ bytes.length ∧
      ∀ more, BeginsBlank more → read (bytes ++ more) = .ok (found, rest ++ more)

namespace ReadsOn

variable {ε ε' α β : Type} {used usedNext : Nat} {read : Bytes → Except ε (α × Bytes)}

theorem bind {next : α → Bytes → Except ε (β × Bytes)} (readsOn : ReadsOn used read)
    (nextReadsOn : ∀ found, ReadsOn usedNext (next found)) :
    ReadsOn (used + usedNext) fun bytes =>
      read bytes >>= fun scanned => next scanned.1 scanned.2 := by
  intro bytes result rest isRead
  rcases Except.bind_eq_ok_iff.mp isRead with ⟨⟨found, left⟩, firstRead, nextRead⟩
  rcases readsOn firstRead with ⟨shorter, append⟩
  rcases nextReadsOn found nextRead with ⟨nextShorter, nextAppend⟩
  dsimp only at nextShorter
  constructor
  · omega
  · intro more begins
    exact Except.bind_eq_ok_iff.mpr ⟨_, append more begins, nextAppend more begins⟩

theorem pure (found : α) :
    ReadsOn 0 fun bytes => (Pure.pure (found, bytes) : Except ε (α × Bytes)) := by
  intro bytes result rest isRead
  cases isRead
  exact ⟨Nat.le_refl _, fun more _ => rfl⟩

theorem map (readsOn : ReadsOn used read) (f : α → β) :
    ReadsOn used fun bytes => read bytes >>= fun scanned => Pure.pure (f scanned.1, scanned.2) :=
  readsOn.bind fun found => pure (f found)

theorem mapError (readsOn : ReadsOn used read) (wrap : ε → ε') :
    ReadsOn used fun bytes => (read bytes).mapError wrap := by
  intro bytes found rest isRead
  rcases readsOn (Except.mapError_eq_ok_iff.mp isRead) with ⟨shorter, append⟩
  exact ⟨shorter, fun more begins => Except.mapError_eq_ok_iff.mpr (append more begins)⟩

theorem of_le {less : Nat} (readsOn : ReadsOn used read) (le : less ≤ used) :
    ReadsOn less read := by
  intro bytes found rest isRead
  rcases readsOn isRead with ⟨shorter, append⟩
  exact ⟨by omega, append⟩

end ReadsOn

/-! ### Blanks -/

theorem length_skipBlanks_le (bytes : Bytes) : (skipBlanks bytes).length ≤ bytes.length :=
  (List.dropWhile_suffix _).length_le

theorem skipBlanks_idem (bytes : Bytes) : skipBlanks (skipBlanks bytes) = skipBlanks bytes := by
  induction bytes with
  | nil => rfl
  | cons byte rest ih =>
      by_cases blank : isBlankByte byte = true
      · simpa [skipBlanks, blank] using ih
      · simp [skipBlanks, blank]

theorem skipBlanks_append {bytes rest : Bytes} {byte : UInt8}
    (skips : skipBlanks bytes = byte :: rest) (more : Bytes) :
    skipBlanks (bytes ++ more) = byte :: (rest ++ more) := by
  have drops : bytes.dropWhile isBlankByte = byte :: rest := skips
  rw [skipBlanks, List.dropWhile_append, drops]
  rfl

theorem skipBlanks_append_of_blank {bytes : Bytes} (blank : skipBlanks bytes = []) (more : Bytes) :
    skipBlanks (bytes ++ more) = skipBlanks more := by
  have drops : bytes.dropWhile isBlankByte = [] := blank
  rw [skipBlanks, List.dropWhile_append, drops]
  rfl

theorem notBlank_of_skipBlanks {bytes rest : Bytes} {byte : UInt8}
    (skips : skipBlanks bytes = byte :: rest) : isBlankByte byte = false := by
  have notBlank := List.head?_dropWhile_not isBlankByte bytes
  rw [show bytes.dropWhile isBlankByte = byte :: rest from skips] at notBlank
  simpa using notBlank

/-! ### Numbers -/

/-- No blank goes on with a number. -/
theorem ends_number_of_blank {byte : UInt8} (blank : isBlankByte byte = true) :
    isDigitByte byte = false ∧ is byte '.' = false ∧ is byte 'e' = false ∧
      is byte 'E' = false := by
  have isOne : byte = 0x20 ∨ byte = 0x0A ∨ byte = 0x09 ∨ byte = 0x0D := by
    simpa [isBlankByte, is, ← UInt8.toNat_inj, or_assoc] using blank
  rcases isOne with rfl | rfl | rfl | rfl <;> decide

section Numbers

variable {bytes rest more : Bytes}

theorem BeginsBlank.of_cons {byte : UInt8} (begins : BeginsBlank (byte :: more)) :
    isBlankByte byte = true :=
  begins byte rfl

theorem takeWhile_digits_of_beginsBlank (begins : BeginsBlank more) :
    more.takeWhile isDigitByte = [] ∧ more.dropWhile isDigitByte = more := by
  cases more with
  | nil => exact ⟨rfl, rfl⟩
  | cons byte others => simp [ends_number_of_blank begins.of_cons]

theorem spanDigits_append (begins : BeginsBlank more) (bytes : Bytes) :
    spanDigits (bytes ++ more) = ((spanDigits bytes).1, (spanDigits bytes).2 ++ more) := by
  have noDigits := takeWhile_digits_of_beginsBlank begins
  induction bytes with
  | nil => simp [spanDigits, noDigits]
  | cons byte rest ih =>
      cases isDigit : isDigitByte byte with
      | false => simp [spanDigits, isDigit]
      | true => simpa [spanDigits, isDigit] using ih

theorem length_spanDigits_le (bytes : Bytes) : (spanDigits bytes).2.length ≤ bytes.length :=
  (List.dropWhile_suffix _).length_le

/-- The digits before the point are a zero alone or begin with another digit. -/
theorem wholeDigits_eq_ok_iff {digits : List Char} :
    wholeDigits bytes = .ok (digits, rest) ↔
      (∃ byte, bytes = byte :: rest ∧ is byte '0' = true ∧ digits = ['0'] ∧
        ∀ next, rest.head? = some next → isDigitByte next = false) ∨
      ∃ byte others, bytes = byte :: others ∧ is byte '0' = false ∧ isDigitByte byte = true ∧
        spanDigits bytes = (digits, rest) := by
  cases bytes with
  | nil => simp [wholeDigits]
  | cons byte others =>
      cases isZero : is byte '0' with
      | false => cases isDigit : isDigitByte byte <;> simp [wholeDigits, isZero, isDigit]
      | true =>
          cases others with
          | nil => simp only [wholeDigits, isZero, if_true]; grind
          | cons next after =>
              cases isDigit : isDigitByte next <;> simp [wholeDigits, isZero, isDigit] <;> grind

theorem wholeDigits_readsOn : ReadsOn 1 wholeDigits := by
  intro bytes digits rest isRead
  rcases wholeDigits_eq_ok_iff.mp isRead with ⟨byte, rfl, isZero, rfl, ends⟩ |
    ⟨byte, others, rfl, notZero, isDigit, spans⟩
  · refine ⟨by simp, ?_⟩
    intro more begins
    refine wholeDigits_eq_ok_iff.mpr (.inl ⟨byte, rfl, isZero, rfl, ?_⟩)
    intro next isNext
    cases rest with
    | nil => exact (ends_number_of_blank (begins next isNext)).1
    | cons first after => exact ends next isNext
  · constructor
    · have shorter := length_spanDigits_le others
      simp only [spanDigits, isDigit, List.dropWhile_cons, if_true, Prod.mk.injEq] at spans shorter
      rw [← spans.2, List.length_cons]
      omega
    · intro more begins
      refine wholeDigits_eq_ok_iff.mpr (.inr ⟨byte, others ++ more, rfl, notZero, isDigit, ?_⟩)
      rw [spanDigits_append begins, spans]

theorem fractionDigits_readsOn : ReadsOn 0 fractionDigits := by
  intro bytes fraction rest isRead
  cases bytes with
  | nil =>
      cases isRead
      refine ⟨Nat.le_refl _, ?_⟩
      intro more begins
      cases more with
      | nil => rfl
      | cons byte others => simp [fractionDigits, ends_number_of_blank begins.of_cons]
  | cons byte others =>
      cases isPoint : is byte '.' with
      | false =>
          simp only [fractionDigits, isPoint, Bool.false_eq_true, if_false] at isRead
          cases isRead
          simp [fractionDigits, isPoint]
      | true =>
          have shorter := length_spanDigits_le others
          simp only [fractionDigits, isPoint, if_true] at isRead
          split at isRead
          · cases isRead
          · cases isRead
          · rename_i someDigits spans
            cases isRead
            rw [spans] at shorter
            dsimp only at shorter
            refine ⟨by rw [List.length_cons]; omega, ?_⟩
            intro more begins
            simp only [List.cons_append, fractionDigits, isPoint, if_true,
              spanDigits_append begins, spans]
            grind

theorem exponentSign_spec (bytes : Bytes) :
    (exponentSign bytes).2.length ≤ bytes.length ∧
      ∀ more, bytes ≠ [] → exponentSign (bytes ++ more) =
        ((exponentSign bytes).1, (exponentSign bytes).2 ++ more) := by
  cases bytes with
  | nil => simp [exponentSign]
  | cons sign digits =>
      simp only [List.cons_append, exponentSign]
      constructor
      · split
        · simp
        · split <;> simp
      · intro more _
        split
        · rfl
        · split <;> rfl

theorem exponentDigits_readsOn : ReadsOn 0 exponentDigits := by
  intro bytes exponent rest isRead
  cases bytes with
  | nil =>
      cases isRead
      refine ⟨Nat.le_refl _, ?_⟩
      intro more begins
      cases more with
      | nil => rfl
      | cons byte others => simp [exponentDigits, ends_number_of_blank begins.of_cons]
  | cons byte others =>
      cases isMark : is byte 'e' || is byte 'E' with
      | false =>
          simp only [exponentDigits, isMark, Bool.false_eq_true, if_false] at isRead
          cases isRead
          simp [exponentDigits, isMark]
      | true =>
          rcases exponentSign_spec others with ⟨signShorter, signAppend⟩
          simp only [exponentDigits, isMark, if_true] at isRead
          split at isRead
          · cases isRead
          · rename_i first after isSigned
            have notEmpty : others ≠ [] := by
              rintro rfl
              cases isSigned
            split at isRead
            · rename_i isDigit
              cases isRead
              have shorter := length_spanDigits_le (exponentSign others).2
              refine ⟨by rw [List.length_cons]; omega, ?_⟩
              intro more begins
              simp only [List.cons_append, exponentDigits, isMark, if_true,
                signAppend more notEmpty, isSigned, isDigit]
              rw [← List.cons_append, spanDigits_append begins]
            · cases isRead

theorem unsignedNumber_readsOn (negative : Bool) : ReadsOn 1 (unsignedNumber negative) :=
  wholeDigits_readsOn.bind fun _ => fractionDigits_readsOn.bind fun _ =>
    exponentDigits_readsOn.map _

theorem number_readsOn : ReadsOn 1 number := by
  have signedReadsOn : ReadsOn 1 signedNumber := by
    intro bytes token rest isRead
    cases bytes with
    | nil => cases isRead
    | cons byte others =>
        cases isMinus : is byte '-' with
        | true =>
            simp only [signedNumber, isMinus, if_true, List.cons_append] at isRead ⊢
            rcases unsignedNumber_readsOn true isRead with ⟨shorter, append⟩
            exact ⟨by rw [List.length_cons]; omega, append⟩
        | false =>
            simp only [signedNumber, isMinus, Bool.false_eq_true, if_false, List.cons_append]
              at isRead ⊢
            exact unsignedNumber_readsOn false isRead
  exact signedReadsOn.mapError NumberHalt.toHalt

end Numbers

/-! ### Words and text -/

/-- A word is read just where its letters stand. -/
theorem word_eq_ok_iff {chars : List Char} {bytes rest : Bytes} :
    word chars bytes = .ok rest ↔
      ∃ letters, List.Forall₂ (fun byte char => is byte char = true) letters chars ∧
        bytes = letters ++ rest := by
  induction chars generalizing bytes with
  | nil => simp [word]
  | cons char chars ih =>
      simp only [List.forall₂_cons_right_iff]
      cases bytes with
      | nil => simp [word, failHere]
      | cons byte others =>
          cases isChar : is byte char with
          | false => simp_all [word, failHere]
          | true => simp_all [word]

theorem word_readsOn {chars : List Char} {bytes rest : Bytes}
    (isRead : word chars bytes = .ok rest) :
    rest.length ≤ bytes.length ∧ ∀ more, word chars (bytes ++ more) = .ok (rest ++ more) := by
  rcases word_eq_ok_iff.mp isRead with ⟨letters, areChars, rfl⟩
  constructor
  · rw [List.length_append]
    omega
  · intro more
    exact word_eq_ok_iff.mpr ⟨letters, areChars, List.append_assoc letters rest more⟩

theorem stringBody_eq_ok_iff {bytes rest : Bytes} {text : String} :
    stringBody bytes = .ok (text, rest) ↔
      ∃ read, QuotedAs bytes read rest ∧ String.fromUTF8? ⟨read.toArray⟩ = some text := by
  simp only [stringBody, Except.bind_eq_ok_iff, Prod.exists, stringBytes_eq_ok_iff]
  constructor
  · rintro ⟨read, left, isQuoted, isText⟩
    split at isText
    · rename_i found isFound
      cases isText
      exact ⟨read, isQuoted, isFound⟩
    · cases isText
  · rintro ⟨read, isQuoted, isText⟩
    exact ⟨read, rest, isQuoted, by rw [isText]; rfl⟩

theorem stringBody_readsOn : ReadsOn 1 stringBody := by
  intro bytes text rest isRead
  rcases stringBody_eq_ok_iff.mp isRead with ⟨read, isQuoted, isText⟩
  refine ⟨isQuoted.length_lt, ?_⟩
  intro more _
  exact stringBody_eq_ok_iff.mpr ⟨read, isQuoted.append more, isText⟩

/-! ### Lists and objects -/

theorem startsWith_cons (byte : UInt8) (rest : Bytes) (char : Char) :
    startsWith (byte :: rest) char = is byte char :=
  rfl

/-- Reads items one after another, where `next` finds the next of them or the end. -/
def separated {α : Type} (next : Bool → Bytes → Except Halt (Option Bytes)) (read : Reader α)
    (isFirst : Bool) : Nat → Bytes → Except Halt (Scanned (List α))
  | 0, rest => .ok ([], rest)
  | fuel + 1, rest => do
      match ← next isFirst rest with
      | none => return ([], skipBlanks rest)
      | some start =>
          let (item, rest) ← read start
          let (items, rest) ← separated next read false fuel rest
          return (item :: items, rest)

/-- Reads an entry from the quote of its key on. -/
def keyed {α : Type} (read : String → Reader α) : Reader α := fun start => do
  let (key, rest) ← stringBody (start.drop 1)
  read key rest

theorem itemsFrom_eq {α : Type} (read : Reader α) (isFirst : Bool) (fuel : Nat) (bytes : Bytes) :
    itemsFrom read isFirst fuel bytes = separated nextItem read isFirst fuel bytes := by
  induction fuel generalizing isFirst bytes with
  | zero => rfl
  | succ fuel ih =>
      unfold itemsFrom separated
      congr 1
      funext start?
      cases start? with
      | none => rfl
      | some start => simp only [ih]

theorem entriesFrom_eq {α : Type} (read : String → Reader α) (isFirst : Bool) (fuel : Nat)
    (bytes : Bytes) :
    entriesFrom read isFirst fuel bytes = separated nextKey (keyed read) isFirst fuel bytes := by
  induction fuel generalizing isFirst bytes with
  | zero => rfl
  | succ fuel ih =>
      unfold entriesFrom separated
      congr 1
      funext start?
      cases start? with
      | none => rfl
      | some start => simp only [keyed, ih, bind_assoc]

/-- Whether the next of several parts is found where it begins, behind blanks and, but for
the first, behind a comma; there is none where a bracket closes. -/
def FindsBetweenCommas (next : Bool → Bytes → Except Halt (Option Bytes)) (begins : UInt8 → Bool)
    (close : Char) : Prop :=
  ∀ {isFirst bytes start?}, next isFirst bytes = .ok start? ↔
    ∃ byte rest, skipBlanks bytes = byte :: rest ∧
      if is byte close then start? = none
      else if isFirst then begins byte = true ∧ start? = some (byte :: rest)
      else is byte ',' = true ∧ ∃ first more, skipBlanks rest = first :: more ∧
        begins first = true ∧ start? = some (first :: more)

/-- What finding an item and finding a key share.  They differ in what they pick, and in the
faults of a text that goes on with nothing to pick. -/
def nextPart (close : Char) (noEnd noComma : Fault)
    (pickFirst pickLater : Bytes → Except Halt (Option Bytes)) (isFirst : Bool) (rest : Bytes) :
    Except Halt (Option Bytes) :=
  let rest := skipBlanks rest
  if rest.isEmpty then failNext noEnd rest
  else if startsWith rest close then .ok none
  else if isFirst then pickFirst rest
  else if startsWith rest ',' then
    let after := skipBlanks (rest.drop 1)
    if after.isEmpty then failNext .endInValue after
    else pickLater after
  else failNext noComma rest

theorem nextPart_findsBetweenCommas {close : Char} {noEnd noComma : Fault} {begins : UInt8 → Bool}
    {pickFirst pickLater : Bytes → Except Halt (Option Bytes)}
    (first : ∀ {byte rest start?}, isBlankByte byte = false → is byte close = false →
      (pickFirst (byte :: rest) = .ok start? ↔ begins byte = true ∧ start? = some (byte :: rest)))
    (later : ∀ {byte rest start?}, isBlankByte byte = false →
      (pickLater (byte :: rest) = .ok start? ↔ begins byte = true ∧ start? = some (byte :: rest))) :
    FindsBetweenCommas (nextPart close noEnd noComma pickFirst pickLater) begins close := by
  intro isFirst bytes start?
  cases skips : skipBlanks bytes with
  | nil => simp [nextPart, skips, failNext]
  | cons byte rest =>
      have notBlank := notBlank_of_skipBlanks skips
      simp only [nextPart, skips, startsWith_cons, List.isEmpty_cons, Bool.false_eq_true, if_false,
        List.drop_one, List.tail_cons, List.cons.injEq, exists_eq_left', ↓existsAndEq, and_true]
      cases isClose : is byte close with
      | true => simp [eq_comm]
      | false =>
          cases isFirst with
          | true => simp [first notBlank isClose]
          | false =>
              cases isComma : is byte ',' with
              | false => simp [failNext]
              | true =>
                  cases after : skipBlanks rest with
                  | nil => simp [failNext]
                  | cons next more => simp [later (notBlank_of_skipBlanks after)]

/-- Whether an item of a list may begin with a byte. -/
def beginsItem (byte : UInt8) : Bool :=
  !isBlankByte byte && !is byte ']'

theorem nextItem_eq : nextItem = nextPart ']' .endInList .expectedListCommaOrEnd
    (fun rest => .ok (some rest))
    (fun after =>
      if startsWith after ']' then failNext .trailingComma after else .ok (some after)) :=
  rfl

theorem nextItem_findsBetweenCommas : FindsBetweenCommas nextItem beginsItem ']' := by
  rw [nextItem_eq]
  apply nextPart_findsBetweenCommas
  · intro byte rest start? notBlank notClose
    simp [beginsItem, notBlank, notClose, eq_comm]
  · intro byte rest start? notBlank
    cases isClose : is byte ']' <;>
      simp [startsWith_cons, isClose, beginsItem, notBlank, failNext, eq_comm]

theorem nextKey_eq : nextKey = nextPart '\x7d' .endInObject .expectedObjectCommaOrEnd
    (fun rest => if startsWith rest '"' then .ok (some rest) else failNext .keyNotString rest)
    (fun after =>
      if startsWith after '"' then .ok (some after)
      else if startsWith after '\x7d' then failNext .trailingComma after
      else failNext .keyNotString after) :=
  rfl

theorem nextKey_findsBetweenCommas : FindsBetweenCommas nextKey (is · '"') '\x7d' := by
  rw [nextKey_eq]
  apply nextPart_findsBetweenCommas
  · intro byte rest start? _ _
    cases isQuote : is byte '"' <;> simp [startsWith_cons, isQuote, failNext, eq_comm]
  · intro byte rest start? _
    cases isQuote : is byte '"' <;> cases isClose : is byte '\x7d' <;>
      simp [startsWith_cons, isQuote, isClose, failNext, eq_comm]

/-- Whether the next item is found alike in a longer text, and the end is at a byte. -/
structure FindsOn (next : Bool → Bytes → Except Halt (Option Bytes)) : Prop where
  append : ∀ {isFirst bytes start?}, next isFirst bytes = .ok start? → ∀ more,
    next isFirst (bytes ++ more) = .ok (start?.map (· ++ more))
  notLonger : ∀ {isFirst bytes start}, next isFirst bytes = .ok (some start) →
    start.length ≤ bytes.length
  ends : ∀ {isFirst bytes}, next isFirst bytes = .ok none → ∃ byte rest,
    skipBlanks bytes = byte :: rest

theorem FindsBetweenCommas.findsOn {next : Bool → Bytes → Except Halt (Option Bytes)}
    {begins : UInt8 → Bool} {close : Char} (finds : FindsBetweenCommas next begins close) :
    FindsOn next := by
  constructor
  · intro isFirst bytes start? isNext more
    rw [finds] at isNext ⊢
    rcases isNext with ⟨byte, rest, skips, isPicked⟩
    refine ⟨byte, rest ++ more, skipBlanks_append skips more, ?_⟩
    split_ifs at isPicked ⊢
    · rw [isPicked, Option.map_none]
    · rw [isPicked.2]
      exact ⟨isPicked.1, rfl⟩
    · rcases isPicked with ⟨isComma, first, others, skipsMore, isBegin, rfl⟩
      exact ⟨isComma, first, others ++ more, skipBlanks_append skipsMore more, isBegin, rfl⟩
  · intro isFirst bytes start isNext
    rcases finds.mp isNext with ⟨byte, rest, skips, isPicked⟩
    have shorter := length_skipBlanks_le bytes
    rw [skips] at shorter
    split_ifs at isPicked
    · cases isPicked.2
      exact shorter
    · rcases isPicked with ⟨_, first, others, skipsMore, _, ⟨⟩⟩
      have stillShorter := length_skipBlanks_le rest
      rw [skipsMore] at stillShorter
      rw [List.length_cons] at shorter
      omega
  · intro isFirst bytes isEnd
    rcases finds.mp isEnd with ⟨byte, rest, skips, _⟩
    exact ⟨byte, rest, skips⟩

theorem nextItem_findsOn : FindsOn nextItem :=
  nextItem_findsBetweenCommas.findsOn

theorem nextKey_findsOn : FindsOn nextKey :=
  nextKey_findsBetweenCommas.findsOn

section Separated

variable {α : Type} {next : Bool → Bytes → Except Halt (Option Bytes)} {read : Reader α}
  {bytes rest : Bytes} {found : List α} {isFirst : Bool} {fuel : Nat}

/-- Items are read alike from a longer text, however far they may be counted in each, if
it is far enough. -/
theorem separated_append (findsOn : FindsOn next) (readsOn : ReadsOn 1 read)
    (enough : bytes.length < fuel)
    (areRead : separated next read isFirst fuel bytes = .ok (found, rest)) :
    rest.length ≤ bytes.length ∧ ∀ more, BeginsBlank more →
      ∀ otherFuel, bytes.length + more.length < otherFuel →
        separated next read isFirst otherFuel (bytes ++ more) = .ok (found, rest ++ more) := by
  induction fuel generalizing bytes isFirst found with
  | zero => omega
  | succ fuel ih =>
      simp only [separated, Except.bind_eq_ok_iff] at areRead
      rcases areRead with ⟨start?, isNext, areRead⟩
      cases start? with
      | none =>
          rcases findsOn.ends isNext with ⟨byte, others, skips⟩
          cases areRead
          refine ⟨length_skipBlanks_le bytes, ?_⟩
          rintro more - (_ | otherFuel) otherEnough
          · omega
          · simp [separated, findsOn.append isNext more, skips, skipBlanks_append skips]
      | some start =>
          have notLonger := findsOn.notLonger isNext
          simp only [Except.bind_eq_ok_iff, Except.pure_eq_ok_iff, Prod.mk.injEq, Prod.exists]
            at areRead
          rcases areRead with ⟨item, afterItem, itemRead, items, afterItems, itemsRead, rfl, rfl⟩
          rcases readsOn itemRead with ⟨shorter, append⟩
          rcases ih (by omega) itemsRead with ⟨itemsShorter, itemsAppend⟩
          refine ⟨by omega, ?_⟩
          rintro more begins (_ | otherFuel) otherEnough
          · omega
          · have goesOn := itemsAppend more begins otherFuel (by omega)
            simp only [separated, findsOn.append isNext more, Option.map_some, Except.ok_bind,
              append more begins, goesOn]
            rfl

theorem separated_readsOn (findsOn : FindsOn next) (readsOn : ReadsOn 1 read) (isFirst : Bool) :
    ReadsOn 0 fun bytes => separated next read isFirst (bytes.length + 1) bytes := by
  intro bytes found rest areRead
  rcases separated_append findsOn readsOn (Nat.lt_succ_self _) areRead with ⟨shorter, append⟩
  refine ⟨shorter, ?_⟩
  intro more begins
  apply append more begins
  rw [List.length_append]
  omega

end Separated

theorem keyed_readsOn {α : Type} {read : String → Reader α}
    (readsOn : ∀ key, ReadsOn 1 (read key)) : ReadsOn 1 (keyed read) := by
  have keyReadsOn : ReadsOn 2 fun bytes => stringBody bytes >>= fun scanned =>
      read scanned.1 scanned.2 := stringBody_readsOn.bind readsOn
  intro bytes found rest isRead
  cases bytes with
  | nil =>
      have noRead : (stringBody [] >>= fun scanned => read scanned.1 scanned.2) =
          .ok (found, rest) := isRead
      have shorter := (keyReadsOn noRead).1
      simp at shorter
  | cons byte others =>
      have othersRead : (stringBody others >>= fun scanned => read scanned.1 scanned.2) =
          .ok (found, rest) := isRead
      rcases keyReadsOn othersRead with ⟨shorter, append⟩
      exact ⟨by rw [List.length_cons]; omega, append⟩

/-- Whether a step is over blanks and one character. -/
def StepsOver (char : Char) (step : Bytes → Except Halt Bytes) : Prop :=
  ∀ bytes rest, step bytes = .ok rest ↔
    ∃ byte, skipBlanks bytes = byte :: rest ∧ is byte char = true

section StepsOver

variable {char : Char} {step : Bytes → Except Halt Bytes} {bytes rest : Bytes}

theorem StepsOver.shorter (stepsOver : StepsOver char step) (isStep : step bytes = .ok rest) :
    rest.length < bytes.length := by
  rcases (stepsOver bytes rest).mp isStep with ⟨byte, skips, _⟩
  have skipped := length_skipBlanks_le bytes
  rw [skips, List.length_cons] at skipped
  omega

theorem StepsOver.append (stepsOver : StepsOver char step) (isStep : step bytes = .ok rest)
    (more : Bytes) : step (bytes ++ more) = .ok (rest ++ more) := by
  rcases (stepsOver bytes rest).mp isStep with ⟨byte, skips, isChar⟩
  exact (stepsOver _ _).mpr ⟨byte, skipBlanks_append skips more, isChar⟩

theorem StepsOver.readsOn {α : Type} {read : Reader α} {used : Nat}
    (stepsOver : StepsOver char step) (readsOn : ReadsOn used read) :
    ReadsOn (used + 1) fun bytes => step bytes >>= read := by
  intro bytes found rest isRead
  rcases Except.bind_eq_ok_iff.mp isRead with ⟨left, isStep, isRead⟩
  have stepShorter := stepsOver.shorter isStep
  rcases readsOn isRead with ⟨shorter, append⟩
  refine ⟨by omega, ?_⟩
  intro more begins
  exact Except.bind_eq_ok_iff.mpr ⟨_, stepsOver.append isStep more, append more begins⟩

end StepsOver

theorem colon_stepsOver : StepsOver ':' colon := by
  intro bytes rest
  cases skips : skipBlanks bytes with
  | nil => simp [colon, skips, failNext]
  | cons byte others =>
      simp only [colon, skips, startsWith_cons]
      grind [failNext]

theorem endList_stepsOver : StepsOver ']' endList := by
  intro bytes rest
  cases skips : skipBlanks bytes with
  | nil => simp [endList, skips, failNext]
  | cons byte others =>
      simp only [endList, skips, startsWith_cons]
      grind [failNext]

theorem endObject_stepsOver : StepsOver '\x7d' endObject := by
  intro bytes rest
  cases skips : skipBlanks bytes with
  | nil => simp [endObject, skips, failNext]
  | cons byte others =>
      simp only [endObject, skips, startsWith_cons]
      grind [failNext]

theorem placed_eq_ok_iff {α : Type} {outcome : Except Halt α} {found : α} :
    placed outcome = .ok found ↔ outcome = .ok found := by
  cases outcome <;> simp [placed]

theorem closed_eq_ok_iff {α : Type} {close : Bytes → Except Halt Bytes}
    {content : Except Halt (Scanned α)} {found : α} {rest : Bytes} :
    closed close content = .ok (found, rest) ↔
      ∃ left, content = .ok (found, left) ∧ close left = .ok rest := by
  cases content with
  | error halt => simp [closed]
  | ok scanned =>
      rcases scanned with ⟨value, left⟩
      simp only [closed, Except.ok.injEq, Prod.mk.injEq]
      cases isClosed : close left with
      | error halt =>
          constructor
          · exact nofun
          · rintro ⟨_, ⟨_, rfl⟩, isRest⟩
            simp [isClosed] at isRest
      | ok after =>
          constructor
          · intro isFound
            cases isFound
            exact ⟨left, ⟨rfl, rfl⟩, isClosed⟩
          · rintro ⟨_, ⟨rfl, rfl⟩, isRest⟩
            cases isClosed.symm.trans isRest
            rfl

end JsonTables.JsonText
