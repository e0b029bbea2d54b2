import JsonTables.Proofs.LongerText

/-!
# Reading values from a longer text

A value is read alike from a longer text, by induction on the depth to which brackets may
nest: what is in brackets is made of values of less depth.  So a text of several values,
with blanks between them, is read one value after another.
-/

namespace JsonTables.JsonText

/-! ### Parts of objects -/

theorem wrongType_ne_ok {α : Type} {wanted : String} {bytes : Bytes} {found : α} :
    wrongType wanted bytes ≠ .ok found := by
  unfold wrongType
  cases bytes with
  | nil => exact nofun
  | cons byte rest =>
      dsimp only
      intro isRead
      repeat' split at isRead
      all_goals simp [Except.bind_eq_ok_iff, failNext] at isRead

theorem string_eq_ok_iff {wanted : String} {bytes rest : Bytes} {text : String} :
    string wanted bytes = .ok (text, rest) ↔
      ∃ byte others, skipBlanks bytes = byte :: others ∧ is byte '"' = true ∧
        stringBody others = .ok (text, rest) := by
  cases skips : skipBlanks bytes with
  | nil => simp [string, skips, failNext]
  | cons byte others =>
      simp only [string, skips, startsWith_cons]
      cases isQuote : is byte '"' with
      | false => simp [isQuote, wrongType_ne_ok]
      | true =>
          simp only [List.isEmpty_cons, Bool.false_eq_true, if_false, if_true, List.drop_one]
          grind

theorem string_readsOn (wanted : String) : ReadsOn 1 (string wanted) := by
  intro bytes text rest isRead
  rcases string_eq_ok_iff.mp isRead with ⟨byte, others, skips, isQuote, textRead⟩
  have skipped := length_skipBlanks_le bytes
  rcases stringBody_readsOn textRead with ⟨shorter, append⟩
  rw [skips, List.length_cons] at skipped
  refine ⟨by omega, ?_⟩
  intro more begins
  exact string_eq_ok_iff.mpr ⟨byte, others ++ more, skipBlanks_append skips more, isQuote,
    append more begins⟩

theorem numberObject_readsOn (wanted : String) : ReadsOn 1 (numberObject wanted) := by
  intro bytes found rest isRead
  simp only [numberObject, Except.bind_eq_ok_iff, Prod.exists] at isRead
  rcases isRead with ⟨left, isColon, text, afterText, textRead, isNumber⟩
  have colonShorter := colon_stepsOver.shorter isColon
  rcases string_readsOn wanted textRead with ⟨shorter, append⟩
  cases isSpelled : spelledNumber text with
  | error error => simp [isSpelled] at isNumber
  | ok token =>
      simp only [isSpelled] at isNumber
      cases isNumber
      refine ⟨by omega, ?_⟩
      intro more begins
      simp only [numberObject, colon_stepsOver.append isColon more, Except.ok_bind,
        append more begins, isSpelled]
      rfl

theorem entry_readsOn {read : Reader Json} (readsOn : ReadsOn 1 read) (key : String) :
    ReadsOn 2 (entry read key) :=
  colon_stepsOver.readsOn (readsOn.map fun value => (key, value))

/-- Reads the rest of an object whose first key has been read. -/
def afterFirstKey (objects : NumberObjects) (read : Reader Json) (key : String) : Reader Json :=
  match objects, key == numberKey with
  | .spelled wanted, true => numberObject wanted
  | _, _ => fun rest => do
      let (first, rest) ← entry read key rest
      let (others, rest) ← entriesFrom (entry read) false (rest.length + 1) rest
      return (.object (first :: others), rest)

theorem objectBody_eq (objects : NumberObjects) (read : Reader Json) (bytes : Bytes) :
    objectBody objects read bytes = (do
      match ← nextKey true bytes with
      | none => return (.object [], skipBlanks bytes)
      | some start => keyed (afterFirstKey objects read) start) := by
  simp only [objectBody, keyed, afterFirstKey]
  congr 1
  funext start?
  cases start? with
  | none => rfl
  | some start =>
      dsimp only
      congr 1
      funext scanned
      cases objects with
      | kept => rfl
      | spelled wanted => cases scanned.1 == numberKey <;> rfl

theorem afterFirstKey_readsOn (objects : NumberObjects) {read : Reader Json}
    (readsOn : ReadsOn 1 read) (key : String) : ReadsOn 1 (afterFirstKey objects read key) := by
  unfold afterFirstKey
  split
  · exact numberObject_readsOn _
  · have entriesReadOn : ReadsOn 1 (keyed (entry read)) :=
      keyed_readsOn fun key => (entry_readsOn readsOn key).of_le (by omega)
    simp only [entriesFrom_eq]
    refine ReadsOn.of_le ?_ (Nat.le_succ 1)
    exact (entry_readsOn readsOn key).bind fun first =>
      (separated_readsOn nextKey_findsOn entriesReadOn false).map fun others =>
        Json.object (first :: others)

theorem objectBody_readsOn (objects : NumberObjects) {read : Reader Json}
    (readsOn : ReadsOn 1 read) : ReadsOn 0 (objectBody objects read) := by
  have firstReadsOn := keyed_readsOn (afterFirstKey_readsOn objects readsOn)
  intro bytes found rest isRead
  simp only [objectBody_eq, Except.bind_eq_ok_iff] at isRead
  rcases isRead with ⟨start?, isNext, isRead⟩
  cases start? with
  | none =>
      rcases nextKey_findsOn.ends isNext with ⟨byte, others, skips⟩
      cases isRead
      refine ⟨length_skipBlanks_le bytes, ?_⟩
      intro more _
      rw [objectBody_eq, nextKey_findsOn.append isNext more, skips]
      simp [skipBlanks_append skips]
  | some start =>
      have notLonger := nextKey_findsOn.notLonger isNext
      rcases firstReadsOn isRead with ⟨shorter, append⟩
      refine ⟨by omega, ?_⟩
      intro more begins
      rw [objectBody_eq, nextKey_findsOn.append isNext more]
      exact append more begins

/-! ### Values -/

theorem wordValue_eq_ok_iff {chars : List Char} {bytes rest : Bytes} {value found : Json} :
    (do return (value, ← word chars bytes) : Except Halt (Scanned Json)) = .ok (found, rest) ↔
      word chars bytes = .ok rest ∧ found = value := by
  simp only [Except.bind_eq_ok_iff, Except.pure_eq_ok_iff, Prod.mk.injEq]
  constructor
  · rintro ⟨_, isWord, rfl, rfl⟩
    exact ⟨isWord, rfl⟩
  · rintro ⟨isWord, rfl⟩
    exact ⟨rest, isWord, rfl, rfl⟩

theorem atom_readsOn : ReadsOn 1 atom := by
  intro bytes found rest isRead
  cases bytes with
  | nil => cases isRead
  | cons byte after =>
      have wordReadsOn : ∀ {chars} {value : Json},
          (do return (value, ← word chars after) : Except Halt (Scanned Json)) =
            .ok (found, rest) →
          rest.length + 1 ≤ (byte :: after).length ∧ ∀ more,
            (do return (value, ← word chars (after ++ more)) : Except Halt (Scanned Json)) =
              .ok (found, rest ++ more) := by
        intro chars value isRead
        rcases wordValue_eq_ok_iff.mp isRead with ⟨isWord, isFound⟩
        rcases word_readsOn isWord with ⟨shorter, append⟩
        refine ⟨by rw [List.length_cons]; omega, ?_⟩
        intro more
        exact wordValue_eq_ok_iff.mpr ⟨append more, isFound⟩
      simp only [atom, List.cons_append] at isRead ⊢
      split at isRead
      · rename_i begins
        simp only [if_pos begins]
        exact ⟨(wordReadsOn isRead).1, fun more _ => (wordReadsOn isRead).2 more⟩
      rename_i notNull
      simp only [if_neg notNull]
      split at isRead
      · rename_i begins
        simp only [if_pos begins]
        exact ⟨(wordReadsOn isRead).1, fun more _ => (wordReadsOn isRead).2 more⟩
      rename_i notTrue
      simp only [if_neg notTrue]
      split at isRead
      · rename_i begins
        simp only [if_pos begins]
        exact ⟨(wordReadsOn isRead).1, fun more _ => (wordReadsOn isRead).2 more⟩
      rename_i notFalse
      simp only [if_neg notFalse]
      split at isRead
      · rename_i begins
        simp only [if_pos begins]
        exact number_readsOn.map (fun token => Json.number token.text) isRead
      rename_i notNumber
      simp only [if_neg notNumber]
      split at isRead
      · rename_i begins
        simp only [if_pos begins]
        rcases stringBody_readsOn.map Json.string isRead with ⟨shorter, append⟩
        exact ⟨by rw [List.length_cons]; omega, append⟩
      · cases isRead

section Value

variable {objects : NumberObjects} {depth : Nat} {bytes others rest : Bytes} {byte : UInt8}
  {found : Json}

theorem value_list_eq_ok_iff (skips : skipBlanks bytes = byte :: others)
    (isList : is byte '[' = true) :
    value objects (depth + 1) bytes = .ok (found, rest) ↔
      ∃ items left,
        separated nextItem (value objects depth) true (others.length + 1) others =
          .ok (items, left) ∧
        endList left = .ok rest ∧ found = .array items := by
  simp only [value, skips, startsWith_cons, isList, if_true, List.drop_one, List.tail_cons, items,
    itemsFrom_eq, Except.bind_eq_ok_iff, Except.pure_eq_ok_iff, Prod.mk.injEq, placed_eq_ok_iff,
    Prod.exists, closed_eq_ok_iff]
  constructor
  · rintro ⟨items, _, ⟨left, itemsRead, isEnd⟩, rfl, rfl⟩
    exact ⟨items, left, itemsRead, isEnd, rfl⟩
  · rintro ⟨items, left, itemsRead, isEnd, rfl⟩
    exact ⟨items, rest, ⟨left, itemsRead, isEnd⟩, rfl, rfl⟩

theorem value_object_eq_ok_iff (skips : skipBlanks bytes = byte :: others)
    (isObject : is byte '\x7b' = true) :
    value objects (depth + 1) bytes = .ok (found, rest) ↔
      ∃ left, objectBody objects (value objects depth) others = .ok (found, left) ∧
        endObject left = .ok rest := by
  have notList : is byte '[' = false := by
    simp only [is, beq_iff_eq, beq_eq_false_iff_ne] at isObject ⊢
    rw [isObject]
    decide
  simp only [value, skips, startsWith_cons, notList, isObject, Bool.false_eq_true, if_false,
    if_true, List.drop_one, List.tail_cons, placed_eq_ok_iff, closed_eq_ok_iff]

theorem value_atom_eq (skips : skipBlanks bytes = byte :: others) (notList : is byte '[' = false)
    (notObject : is byte '\x7b' = false) : value objects depth bytes = atom (byte :: others) := by
  cases depth <;> simp [value, skips, startsWith_cons, notList, notObject]

theorem value_nil_ne_ok (skips : skipBlanks bytes = []) {scanned : Scanned Json} :
    value objects depth bytes ≠ .ok scanned := by
  cases depth <;> simp [value, skips, startsWith, atom, failNext]

end Value

/-- A value is read alike from a longer text, if what follows does not go on with it. -/
theorem value_readsOn (objects : NumberObjects) (depth : Nat) :
    ReadsOn 1 (value objects depth) := by
  -- what is neither a list nor an object is read alike whatever the depth
  have isAtom : ∀ {depth bytes others found rest} {byte : UInt8},
      skipBlanks bytes = byte :: others → is byte '[' = false → is byte '\x7b' = false →
      value objects depth bytes = .ok (found, rest) →
      rest.length + 1 ≤ bytes.length ∧ ∀ more, BeginsBlank more →
        value objects depth (bytes ++ more) = .ok (found, rest ++ more) := by
    intro depth bytes others found rest byte skips notList notObject isRead
    have skipped := length_skipBlanks_le bytes
    rw [value_atom_eq skips notList notObject] at isRead
    rcases atom_readsOn isRead with ⟨shorter, append⟩
    rw [skips] at skipped
    refine ⟨by omega, ?_⟩
    intro more begins
    rw [value_atom_eq (skipBlanks_append skips more) notList notObject]
    exact append more begins
  induction depth with
  | zero =>
      intro bytes found rest isRead
      cases skips : skipBlanks bytes with
      | nil => exact absurd isRead (value_nil_ne_ok skips)
      | cons byte others =>
          cases isBracket : is byte '[' || is byte '\x7b' with
          | true => simp [value, skips, startsWith_cons, isBracket, failNext] at isRead
          | false =>
              rcases Bool.or_eq_false_iff.mp isBracket with ⟨notList, notObject⟩
              exact isAtom skips notList notObject isRead
  | succ depth ih =>
      intro bytes found rest isRead
      cases skips : skipBlanks bytes with
      | nil => exact absurd isRead (value_nil_ne_ok skips)
      | cons byte others =>
          have skipped := length_skipBlanks_le bytes
          rw [skips, List.length_cons] at skipped
          cases isList : is byte '[' with
          | true =>
              rcases (value_list_eq_ok_iff skips isList).mp isRead with
                ⟨items, left, itemsRead, isEnd, isFound⟩
              rcases separated_readsOn nextItem_findsOn ih true itemsRead with ⟨shorter, append⟩
              have endShorter := endList_stepsOver.shorter isEnd
              refine ⟨by omega, ?_⟩
              intro more begins
              exact (value_list_eq_ok_iff (skipBlanks_append skips more) isList).mpr
                ⟨items, left ++ more, append more begins, endList_stepsOver.append isEnd more,
                  isFound⟩
          | false =>
              cases isObject : is byte '\x7b' with
              | true =>
                  rcases (value_object_eq_ok_iff skips isObject).mp isRead with
                    ⟨left, bodyRead, isEnd⟩
                  rcases objectBody_readsOn objects ih bodyRead with ⟨shorter, append⟩
                  have endShorter := endObject_stepsOver.shorter isEnd
                  refine ⟨by omega, ?_⟩
                  intro more begins
                  exact (value_object_eq_ok_iff (skipBlanks_append skips more) isObject).mpr
                    ⟨left ++ more, append more begins, endObject_stepsOver.append isEnd more⟩
              | false => exact isAtom skips isList isObject isRead

/-! ### Streams -/

/-- Texts with blanks between each and the next. -/
inductive JoinedByBlanks : List Bytes → Bytes → Prop
  | one (text : Bytes) : JoinedByBlanks [text] text
  | cons {text blanks joined : Bytes} {texts : List Bytes} (someBlanks : blanks ≠ [])
      (areBlank : ∀ byte ∈ blanks, isBlankByte byte = true)
      (others : JoinedByBlanks texts joined) :
      JoinedByBlanks (text :: texts) (text ++ blanks ++ joined)

/-- All of the bytes are read just if a reader leaves blanks. -/
theorem readAll_eq_ok_iff {α : Type} {read : Reader α} {bytes : Bytes} {value : α} :
    readAll read bytes = .ok value ↔
      ∃ rest, read bytes = .ok (value, rest) ∧ skipBlanks rest = [] := by
  simp only [readAll, Except.mapError_eq_ok_iff, Except.bind_eq_ok_iff, Prod.exists]
  constructor
  · rintro ⟨found, rest, isRead, isValue⟩
    split at isValue
    · rename_i isEnd
      cases isValue
      exact ⟨rest, isRead, List.isEmpty_iff.mp isEnd⟩
    · cases isValue
  · rintro ⟨rest, isRead, isEnd⟩
    refine ⟨value, rest, isRead, ?_⟩
    rw [isEnd]
    rfl

theorem ofBytes_eq_ok_iff {bytes : Bytes} {document : Json} :
    ofBytes bytes = .ok document ↔
      ∃ rest, value documentObjects maxDepth bytes = .ok (document, rest) ∧
        skipBlanks rest = [] :=
  readAll_eq_ok_iff

theorem value_skipBlanks (objects : NumberObjects) (depth : Nat) (bytes : Bytes) :
    value objects depth (skipBlanks bytes) = value objects depth bytes := by
  cases depth <;> simp only [value, skipBlanks_idem]

theorem streamFrom_skipBlanks (whole bytes : Bytes) (fuel : Nat) :
    streamFrom whole fuel (skipBlanks bytes) = streamFrom whole fuel bytes := by
  cases fuel <;> simp only [streamFrom, skipBlanks_idem]

/-- Where blanks or nothing is left of a text, another document may follow. -/
theorem endsValue_of_blank {rest more : Bytes} (blank : skipBlanks rest = [])
    (begins : BeginsBlank more) : endsValue (rest ++ more) = true := by
  cases rest with
  | nil =>
      cases more with
      | nil => rfl
      | cons byte others => simp [endsValue, begins.of_cons]
  | cons byte others =>
      cases isBlank : isBlankByte byte with
      | false => simp [skipBlanks, isBlank] at blank
      | true => simp [endsValue, isBlank]

/-- A stream that goes on with blanks behind a document has it first. -/
theorem streamFrom_document {text more : Bytes} {document : Json}
    (isDocument : ofBytes text = .ok document) (begins : BeginsBlank more) (whole : Bytes)
    (fuel : Nat) :
    streamFrom whole (fuel + 1) (text ++ more) = .ok document :: streamFrom whole fuel more := by
  rcases ofBytes_eq_ok_iff.mp isDocument with ⟨rest, isRead, isEnd⟩
  rcases value_readsOn documentObjects maxDepth isRead with ⟨_, append⟩
  have appended := append more begins
  rw [← value_skipBlanks] at appended
  cases skips : skipBlanks (text ++ more) with
  | nil =>
      rw [skips] at appended
      exact absurd appended (value_nil_ne_ok rfl)
  | cons byte others =>
      rw [skips] at appended
      rw [← streamFrom_skipBlanks whole more, ← skipBlanks_append_of_blank isEnd more,
        streamFrom_skipBlanks]
      simp [streamFrom, skips, appended, endsValue_of_blank isEnd begins]

theorem skipBlanks_of_blank {blanks : Bytes} (areBlank : ∀ byte ∈ blanks, isBlankByte byte = true) :
    skipBlanks blanks = [] :=
  List.dropWhile_eq_nil_iff.mpr areBlank

theorem streamFrom_of_joinedByBlanks {texts : List Bytes} {joined : Bytes}
    (isJoined : JoinedByBlanks texts joined) {documents : List Json}
    (areDocuments : List.Forall₂ (fun text document => ofBytes text = .ok document) texts
      documents) (whole : Bytes) {fuel : Nat} (enough : joined.length < fuel) :
    streamFrom whole fuel joined = documents.map .ok := by
  induction isJoined generalizing documents fuel with
  | one text =>
      rcases areDocuments with _ | ⟨isDocument, _ | _⟩
      obtain ⟨fuel, rfl⟩ : ∃ less, fuel = less + 1 := ⟨fuel - 1, by omega⟩
      have nothing : BeginsBlank [] := nofun
      have streams := streamFrom_document isDocument nothing whole fuel
      rw [List.append_nil] at streams
      rw [streams]
      cases fuel <;> rfl
  | @cons text blanks joined texts someBlanks areBlank _ ih =>
      rcases areDocuments with _ | ⟨isDocument, areDocuments⟩
      obtain ⟨fuel, rfl⟩ : ∃ less, fuel = less + 1 := ⟨fuel - 1, by omega⟩
      have begins : BeginsBlank (blanks ++ joined) := by
        intro byte isFirst
        apply areBlank
        cases blanks with
        | nil => exact absurd rfl someBlanks
        | cons first others =>
            cases isFirst
            exact List.mem_cons_self
      have blanksLength := List.length_pos_of_ne_nil someBlanks
      rw [List.length_append, List.length_append] at enough
      rw [List.append_assoc, streamFrom_document isDocument begins, ← streamFrom_skipBlanks,
        skipBlanks_append_of_blank (skipBlanks_of_blank areBlank), streamFrom_skipBlanks,
        ih areDocuments (by omega)]
      rfl

/-- The stream of texts with blanks between them has the documents of the texts. -/
theorem stream_of_joinedByBlanks {texts : List Bytes} {joined : Bytes} {documents : List Json}
    (isJoined : JoinedByBlanks texts joined)
    (areDocuments : List.Forall₂ (fun text document => ofBytes text = .ok document) texts
      documents) : stream joined = documents.map .ok :=
  streamFrom_of_joinedByBlanks isJoined areDocuments joined (Nat.lt_succ_self _)

end JsonTables.JsonText
