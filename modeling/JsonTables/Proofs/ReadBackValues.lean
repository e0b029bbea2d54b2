import JsonTables.Proofs.SpelledValues

/-!
# Values that are read back from where they are spelled

Whatever is spelled is read as what it becomes, with blanks wherever they stand, by induction
on the value: each part is read up to the comma or the bracket behind it.
-/

namespace JsonTables.JsonText

/-! ### Blanks -/

section Blanks

variable {blanks more : Bytes}

theorem AreBlank.endsNumber (areBlank : AreBlank blanks) (ends : EndsNumber more) :
    EndsNumber (blanks ++ more) := by
  cases blanks with
  | nil => exact ends
  | cons byte rest =>
      rintro _ ⟨⟩
      exact ends_number_of_blank (areBlank byte List.mem_cons_self)

theorem AreBlank.value_append (areBlank : AreBlank blanks) (objects : NumberObjects) (depth : Nat)
    (bytes : Bytes) : value objects depth (blanks ++ bytes) = value objects depth bytes := by
  rw [← value_skipBlanks, areBlank.skipBlanks_append, value_skipBlanks]

theorem AreBlank.skipBlanks_cons (areBlank : AreBlank blanks) {byte : UInt8}
    (notBlank : isBlankByte byte = false) (rest : Bytes) :
    skipBlanks (blanks ++ byte :: rest) = byte :: rest :=
  skipBlanks_eq_cons_iff.mpr ⟨notBlank, blanks, areBlank, rfl⟩

end Blanks

/-! ### Parts between commas -/

section Separated

variable {α β : Type} {next : Bool → Bytes → Except Halt (Option Bytes)} {begins : UInt8 → Bool}
  {close : UInt8} {read : Reader α} {spells : α → Bytes → Prop} {parts : List α} {bytes : Bytes}

/-- Whether a part is read back from where it is spelled. -/
def ReadsBack (begins : UInt8 → Bool) (read : Reader α) (part : α) (text : Bytes) : Prop :=
  Begins begins text ∧ ReadsAs read text part

theorem Behind.imp {relation : α → β → Prop} {other : β → Bytes → Prop} {founds : List β}
    (each : List.Forall₂ relation parts founds)
    (imp : ∀ part ∈ parts, ∀ found text, relation part found → spells part text → other found text)
    (behind : Behind spells close parts bytes) : Behind other close founds bytes := by
  induction behind generalizing founds with
  | closed areBlank =>
      cases each
      exact .closed areBlank
  | comma beforeBlank afterBlank isPart _ ih =>
      rcases each with _ | ⟨related, each⟩
      rw [List.forall_mem_cons] at imp
      exact .comma beforeBlank afterBlank (imp.1 _ _ related isPart) (ih each imp.2)

theorem Inside.imp {relation : α → β → Prop} {other : β → Bytes → Prop} {founds : List β}
    (each : List.Forall₂ relation parts founds)
    (imp : ∀ part ∈ parts, ∀ found text, relation part found → spells part text → other found text)
    (inside : Inside spells close parts bytes) : Inside other close founds bytes := by
  cases inside with
  | nothing areBlank =>
      cases each
      exact .nothing areBlank
  | parts areBlank isPart others =>
      rcases each with _ | ⟨related, each⟩
      rw [List.forall_mem_cons] at imp
      exact .parts areBlank (imp.1 _ _ related isPart) (others.imp each imp.2)

theorem Behind.endsNumber (findsParts : FindsParts next begins close)
    (behind : Behind spells close parts bytes) (more : Bytes) : EndsNumber (bytes ++ more) := by
  cases behind with
  | closed areBlank =>
      rw [List.append_assoc]
      exact areBlank.endsNumber (findsParts.endsNumber more)
  | comma beforeBlank _ _ _ =>
      rw [List.append_assoc]
      exact beforeBlank.endsNumber (endsNumber_cons (by decide) (by decide) (by decide) _)

theorem Behind.length_lt (behind : Behind spells close parts bytes) :
    parts.length < bytes.length := by
  induction behind with
  | closed areBlank => simp
  | comma _ _ _ _ ih =>
      simp only [List.length_append, List.length_cons]
      omega

theorem FindsParts.skipBlanks_append (findsParts : FindsParts next begins close) {blanks : Bytes}
    (areBlank : AreBlank blanks) {start : Bytes} (isBegin : Begins begins start) :
    skipBlanks (blanks ++ start) = start := by
  rcases isBegin with ⟨byte, rest, rfl, isBegin⟩
  exact areBlank.skipBlanks_cons (findsParts.beginsNotBlank isBegin) rest

theorem FindsParts.first (findsParts : FindsParts next begins close) {blanks : Bytes}
    (areBlank : AreBlank blanks) {start : Bytes} (isBegin : Begins begins start) :
    next true (blanks ++ start) = .ok (some start) :=
  findsParts.first_iff.mpr ⟨findsParts.skipBlanks_append areBlank isBegin, isBegin⟩

theorem FindsParts.later (findsParts : FindsParts next begins close) {before after : Bytes}
    (beforeBlank : AreBlank before) (afterBlank : AreBlank after) {start : Bytes}
    (isBegin : Begins begins start) :
    next false (before ++ 0x2C :: (after ++ start)) = .ok (some start) :=
  findsParts.later_iff.mpr ⟨after ++ start, beforeBlank.skipBlanks_cons (by decide) _,
    findsParts.skipBlanks_append afterBlank isBegin, isBegin⟩

theorem FindsParts.ends (findsParts : FindsParts next begins close) (isFirst : Bool)
    {blanks : Bytes} (areBlank : AreBlank blanks) (more : Bytes) :
    next isFirst (blanks ++ close :: more) = .ok none :=
  findsParts.ends_iff.mpr ⟨more, areBlank.skipBlanks_cons findsParts.notBlank more⟩

theorem Begins.append {text : Bytes} (isBegin : Begins begins text) (more : Bytes) :
    Begins begins (text ++ more) := by
  rcases isBegin with ⟨byte, rest, rfl, isBegin⟩
  exact ⟨byte, rest ++ more, rfl, isBegin⟩

/-- There is nothing to read where a bracket closes. -/
theorem separated_of_close (findsParts : FindsParts next begins close) (isFirst : Bool) (fuel : Nat)
    {blanks : Bytes} (areBlank : AreBlank blanks) (more : Bytes) :
    separated next read isFirst (fuel + 1) (blanks ++ [close] ++ more) =
      .ok ([], close :: more) := by
  simp only [List.append_assoc, List.cons_append, List.nil_append, separated,
    findsParts.ends isFirst areBlank, Except.ok_bind,
    areBlank.skipBlanks_cons findsParts.notBlank]
  rfl

/-- Parts behind commas are read back, if they are counted far enough. -/
theorem separated_of_behind (findsParts : FindsParts next begins close)
    (behind : Behind (ReadsBack begins read) close parts bytes) (more : Bytes) {fuel : Nat}
    (enough : parts.length < fuel) :
    separated next read false fuel (bytes ++ more) = .ok (parts, close :: more) := by
  induction behind generalizing fuel with
  | closed areBlank =>
      obtain ⟨fuel, rfl⟩ : ∃ less, fuel = less + 1 := ⟨fuel - 1, by omega⟩
      exact separated_of_close findsParts false fuel areBlank more
  | @comma part parts before after text rest beforeBlank afterBlank isPart others ih =>
      obtain ⟨fuel, rfl⟩ : ∃ less, fuel = less + 1 := ⟨fuel - 1, by omega⟩
      rcases isPart with ⟨isBegin, readsAs⟩
      have fewer : parts.length < fuel := by
        rw [List.length_cons] at enough
        omega
      simp only [List.append_assoc, List.cons_append, separated,
        findsParts.later beforeBlank afterBlank (isBegin.append (rest ++ more)), Except.ok_bind,
        readsAs _ (others.endsNumber findsParts more), ih fewer]
      rfl

/-- Parts behind an opening bracket are read back. -/
theorem separated_of_inside (findsParts : FindsParts next begins close)
    (inside : Inside (ReadsBack begins read) close parts bytes) (more : Bytes) :
    separated next read true ((bytes ++ more).length + 1) (bytes ++ more) =
      .ok (parts, close :: more) := by
  cases inside with
  | nothing areBlank => exact separated_of_close findsParts true _ areBlank more
  | @parts part parts blanks text rest areBlank isPart others =>
      rcases isPart with ⟨isBegin, readsAs⟩
      have enough : parts.length < (blanks ++ text ++ rest ++ more).length := by
        have fewer := others.length_lt
        simp only [List.length_append]
        omega
      have othersRead := separated_of_behind findsParts others more enough
      simp only [List.append_assoc] at othersRead ⊢
      simp only [separated, findsParts.first areBlank (isBegin.append (rest ++ more)),
        Except.ok_bind, readsAs _ (others.endsNumber findsParts more), othersRead]
      rfl

end Separated

/-! ### Atoms -/

theorem value_readsAs_of_atom {text : Bytes} {json : Json} (begins : Begins beginsItem text)
    (noBracket : text.head? ≠ some 0x5B ∧ text.head? ≠ some 0x7B) (isAtom : ReadsAs atom text json)
    (objects : NumberObjects) (depth : Nat) : ReadsAs (value objects depth) text json := by
  rcases begins with ⟨byte, rest, rfl, isBegin⟩
  simp only [beginsItem, Bool.and_eq_true, Bool.not_eq_true'] at isBegin
  intro more ends
  have notBracket : is byte '[' = false ∧ is byte '\x7b' = false := by
    simp only [List.head?_cons, ne_eq, Option.some.injEq, ← UInt8.toNat_inj] at noBracket
    simpa [is] using noBracket
  rw [List.cons_append, value_atom_eq (skipBlanks_cons isBegin.1 _) notBracket.1 notBracket.2]
  exact isAtom more ends

theorem atom_readsAs_word : ReadsAs atom (bytesOf "null") .null ∧
    ReadsAs atom (bytesOf "true") (.bool true) ∧ ReadsAs atom (bytesOf "false") (.bool false) := by
  simp only [bytesOf_eq]
  refine ⟨fun more _ => rfl, fun more _ => rfl, fun more _ => rfl⟩

theorem atom_readsAs_number {token : NumberToken} {text : Bytes} (begins : Begins beginsNumber text)
    (isRead : ReadsAs number text token) : ReadsAs atom text (.number token.text) := by
  intro more ends
  have numberRead := isRead more ends
  rcases begins with ⟨byte, rest, rfl, isBegin⟩
  have code := code_of_beginsNumber isBegin
  have noWord : is byte 'n' = false ∧ is byte 't' = false ∧ is byte 'f' = false := by
    have letters : 'n'.toNat = 110 ∧ 't'.toNat = 116 ∧ 'f'.toNat = 102 := by decide
    simp only [is, beq_eq_false_iff_ne]
    omega
  have isNumber : (is byte '-' || isDigitByte byte) = true := isBegin
  rw [List.cons_append] at numberRead ⊢
  simp only [atom, noWord, isNumber, Bool.false_eq_true, if_false, if_true, numberRead,
    Except.ok_bind]
  rfl

theorem atom_readsAs_string {text : String} {bytes : Bytes}
    (isRead : ∀ more, stringBody (bytes ++ more) = .ok (text, more)) :
    ReadsAs atom (0x22 :: bytes) (.string text) := by
  intro more _
  have isQuote : is 0x22 'n' = false ∧ is 0x22 't' = false ∧ is 0x22 'f' = false ∧
      (is 0x22 '-' || isDigitByte 0x22) = false ∧ is 0x22 '"' = true := by decide
  simp only [List.cons_append, atom, isQuote, Bool.false_eq_true, if_false, if_true, isRead more,
    Except.ok_bind]
  rfl

/-- A number begins no other item, and no bracket does it. -/
theorem beginsItem_of_beginsNumber {byte : UInt8} (begins : beginsNumber byte = true) :
    beginsItem byte = true ∧ byte ≠ 0x5B ∧ byte ≠ 0x7B := by
  have code := code_of_beginsNumber begins
  have marks : ' '.toNat = 32 ∧ '\n'.toNat = 10 ∧ '\t'.toNat = 9 ∧ '\r'.toNat = 13 ∧
    ']'.toNat = 93 := by decide
  constructor
  · simp only [beginsItem, isBlankByte, is, Bool.and_eq_true, Bool.not_eq_true',
      Bool.or_eq_false_iff, beq_eq_false_iff_ne]
    omega
  · simp only [ne_eq, ← UInt8.toNat_inj]
    change byte.toNat ≠ 0x5B ∧ byte.toNat ≠ 0x7B
    omega

/-! ### Values -/

theorem Spells.begins {tree : Json} {text : Bytes} (spells : Spells tree text) :
    Begins beginsItem text := by
  cases spells with
  | null =>
      rw [bytesOf_eq]
      exact ⟨_, _, rfl, by decide⟩
  | bool value => cases value <;> rw [bytesOf_eq] <;> exact ⟨_, _, rfl, by decide⟩
  | number isNumber =>
      rcases isNumber.begins with ⟨byte, rest, rfl, isBegin⟩
      exact ⟨byte, rest, rfl, (beginsItem_of_beginsNumber isBegin).1⟩
  | string isText => exact ⟨_, _, rfl, by decide⟩
  | array inside => exact ⟨_, _, rfl, by decide⟩
  | object inside => exact ⟨_, _, rfl, by decide⟩

section Values

variable {objects : NumberObjects} {depth : Nat} {bytes : Bytes}

theorem colon_append {before : Bytes} (areBlank : AreBlank before) (rest : Bytes) :
    colon (before ++ 0x3A :: rest) = .ok rest :=
  (colon_stepsOver _ _).mpr ⟨0x3A, areBlank.skipBlanks_cons (by decide) rest, by decide⟩

theorem notTaken_of_onValue {relation : Json → Json → Prop} {entries founds : List (String × Json)}
    (each : List.Forall₂ (OnValue relation) entries founds) (notTaken : ¬objects.Takes entries) :
    ¬objects.Takes founds := by
  rintro ⟨notKept, isNumberKey⟩
  rcases each with _ | ⟨⟨key, _⟩, _⟩
  · cases isNumberKey
  · exact notTaken ⟨notKept, isNumberKey⟩

/-- An entry is read back of its key and a value that is read back. -/
theorem keyed_readsBack {key : String} {json : Json} {keyBytes before after text : Bytes}
    (isKey : SpellsText key keyBytes) (beforeBlank : AreBlank before) (afterBlank : AreBlank after)
    (isValue : ReadsAs (value objects depth) text json) :
    ReadsBack (is · '"') (keyed (entry (value objects depth))) (key, json)
      (0x22 :: (keyBytes ++ before ++ 0x3A :: (after ++ text))) := by
  refine ⟨⟨_, _, rfl, by decide⟩, ?_⟩
  intro more ends
  have keyRead : stringBody (keyBytes ++ (before ++ 0x3A :: (after ++ (text ++ more)))) =
      .ok (key, before ++ 0x3A :: (after ++ (text ++ more))) :=
    stringBody_eq_ok_iff_spells.mpr ⟨keyBytes, isKey, rfl⟩
  simp only [List.append_assoc, List.cons_append, keyed, List.drop_one, List.tail_cons, keyRead,
    Except.ok_bind, entry, colon_append beforeBlank, afterBlank.value_append, isValue more ends]
  rfl

/-- An object that is not taken for a number is read entry by entry. -/
theorem keyed_afterFirstKey {read : Reader Json} {first : String × Json} {rest : Bytes}
    (notTaken : ¬(objects ≠ .kept ∧ first.1 = numberKey))
    (firstRead : keyed (entry read) bytes = .ok (first, rest)) :
    keyed (afterFirstKey objects read) bytes = (do
      let (others, rest) ← separated nextKey (keyed (entry read)) false (rest.length + 1) rest
      return (.object (first :: others), rest)) := by
  simp only [keyed, Except.bind_eq_ok_iff, Prod.exists] at firstRead
  rcases firstRead with ⟨key, afterKey, keyRead, entryRead⟩
  rw [key_of_entry entryRead] at notTaken
  simp only [keyed, keyRead, Except.ok_bind, afterFirstKey_of_notTaken notTaken, entryRead]

theorem value_readsAs_of_items {items : List Json}
    (inside : Inside (ReadsBack beginsItem (value objects depth)) 0x5D items bytes) :
    ReadsAs (value objects (depth + 1)) (0x5B :: bytes) (.array items) := by
  intro more _
  have skips := skipBlanks_cons (show isBlankByte 0x5B = false by decide) (bytes ++ more)
  rw [List.cons_append, value_list_eq_ok_iff skips (by decide)]
  exact ⟨items, 0x5D :: more, separated_of_inside nextItem_findsParts inside more,
    (endList_stepsOver _ _).mpr ⟨0x5D, skipBlanks_cons (by decide) more, by decide⟩, rfl⟩

theorem value_readsAs_of_entries {entries : List (String × Json)}
    (notTaken : ¬objects.Takes entries)
    (inside : Inside (ReadsBack (is · '"') (keyed (entry (value objects depth)))) 0x7D entries
      bytes) :
    ReadsAs (value objects (depth + 1)) (0x7B :: bytes) (.object entries) := by
  intro more _
  have skips := skipBlanks_cons (show isBlankByte 0x7B = false by decide) (bytes ++ more)
  rw [List.cons_append, value_object_eq_ok_iff skips (by decide)]
  refine ⟨0x7D :: more, ?_,
    (endObject_stepsOver _ _).mpr ⟨0x7D, skipBlanks_cons (by decide) more, by decide⟩⟩
  rw [objectBody_eq]
  cases inside with
  | nothing areBlank =>
      simp only [List.append_assoc, List.cons_append, List.nil_append,
        nextKey_findsParts.ends true areBlank, Except.ok_bind,
        areBlank.skipBlanks_cons nextKey_findsParts.notBlank]
      rfl
  | @parts part parts blanks text rest areBlank isPart others =>
      rcases isPart with ⟨isBegin, readsAs⟩
      have enough : parts.length < (rest ++ more).length + 1 := by
        have fewer := others.length_lt
        rw [List.length_append]
        omega
      have firstNotTaken : ¬(objects ≠ .kept ∧ part.1 = numberKey) := by
        rintro ⟨notKept, isNumberKey⟩
        exact notTaken ⟨notKept, congrArg some isNumberKey⟩
      simp only [List.append_assoc,
        nextKey_findsParts.first areBlank (isBegin.append (rest ++ more)), Except.ok_bind,
        keyed_afterFirstKey firstNotTaken (readsAs _ (others.endsNumber nextKey_findsParts more)),
        separated_of_behind nextKey_findsParts others more enough]
      rfl

theorem numberObject_of_spells (wanted : String) {text : String} {token : NumberToken}
    {before after textBytes : Bytes} (beforeBlank : AreBlank before) (afterBlank : AreBlank after)
    (isText : SpellsText text textBytes) (isNumber : SpellsNumber token (bytesOf text))
    (rest : Bytes) :
    numberObject wanted (before ++ 0x3A :: (after ++ 0x22 :: (textBytes ++ rest))) =
      .ok (.number token.text, rest) := by
  have textRead : string wanted (after ++ 0x22 :: (textBytes ++ rest)) = .ok (text, rest) :=
    string_eq_ok_iff.mpr ⟨0x22, textBytes ++ rest, afterBlank.skipBlanks_cons (by decide) _,
      by decide, stringBody_eq_ok_iff_spells.mpr ⟨textBytes, isText, rfl⟩⟩
  simp only [numberObject, colon_append beforeBlank, Except.ok_bind, textRead,
    spelledNumber_eq_ok_iff.mpr isNumber]
  rfl

/-- An object that is taken for a number is read as the number that its value spells. -/
theorem value_readsAs_of_taken {text : String} {token : NumberToken} (notKept : objects ≠ .kept)
    (isNumber : SpellsNumber token (bytesOf text))
    (inside : Inside (SpellsEntry Spells) 0x7D [(numberKey, .string text)] bytes) :
    ReadsAs (value objects (depth + 1)) (0x7B :: bytes) (.number token.text) := by
  intro more _
  have skips := skipBlanks_cons (show isBlankByte 0x7B = false by decide) (bytes ++ more)
  rw [List.cons_append, value_object_eq_ok_iff skips (by decide)]
  rcases inside with _ | ⟨areBlank, isEntry, others⟩
  cases isEntry with
  | @keyed _ _ keyBytes before after _ isKey beforeBlank afterBlank spells =>
      cases spells with
      | @string _ textBytes isText =>
          cases others with
          | @closed endBlanks endBlank =>
              refine ⟨endBlanks ++ 0x7D :: more, ?_, (endObject_stepsOver _ _).mpr
                ⟨0x7D, endBlank.skipBlanks_cons (by decide) more, by decide⟩⟩
              rcases afterFirstKey_of_taken notKept (value objects depth) with ⟨wanted, asNumber⟩
              have numberRead := numberObject_of_spells wanted beforeBlank afterBlank isText
                isNumber (endBlanks ++ 0x7D :: more)
              have keyRead := fun rest =>
                stringBody_eq_ok_iff_spells.mpr ⟨keyBytes, isKey, Eq.refl (keyBytes ++ rest)⟩
              have isQuote : Begins (is · '"') (0x22 :: (keyBytes ++ (before ++ 0x3A ::
                  (after ++ 0x22 :: (textBytes ++ (endBlanks ++ 0x7D :: more)))))) :=
                ⟨_, _, rfl, by decide⟩
              simp only [List.append_assoc, List.cons_append, List.nil_append, objectBody_eq,
                nextKey_findsParts.first areBlank isQuote, Except.ok_bind, keyed, List.drop_one,
                List.tail_cons, keyRead, asNumber, numberRead]

end Values

/-- What spells a value that nests no deeper than the reader goes is read as what the value
becomes. -/
theorem Spells.readsAs {objects : NumberObjects} {tree found : Json} {text : Bytes}
    (spells : Spells tree text) (becomes : Becomes objects tree found) {depth : Nat}
    (fits : tree.depth ≤ depth) : ReadsAs (value objects depth) text found := by
  have begins := spells.begins
  induction tree using Json.induction generalizing found text depth with
  | null =>
      cases becomes
      cases spells
      exact value_readsAs_of_atom begins (by rw [bytesOf_eq]; decide) atom_readsAs_word.1 objects
        depth
  | bool value =>
      cases becomes
      cases spells
      have noBracket : (bytesOf (toString value)).head? ≠ some 0x5B ∧
          (bytesOf (toString value)).head? ≠ some 0x7B := by
        cases value <;> rw [bytesOf_eq] <;> decide
      refine value_readsAs_of_atom begins noBracket ?_ objects depth
      cases value with
      | true => exact atom_readsAs_word.2.1
      | false => exact atom_readsAs_word.2.2
  | number text =>
      cases becomes
      cases spells with
      | number isNumber =>
          have isAtom := atom_readsAs_number isNumber.begins (number_of_spells isNumber)
          refine value_readsAs_of_atom begins ?_ isAtom objects depth
          rcases isNumber.begins with ⟨byte, rest, rfl, isBegin⟩
          simpa using (beginsItem_of_beginsNumber isBegin).2
  | string text =>
      cases becomes
      cases spells with
      | string isText =>
          have isRead : ∀ more, stringBody (_ ++ more) = .ok (text, more) :=
            fun more => stringBody_eq_ok_iff_spells.mpr ⟨_, isText, rfl⟩
          exact value_readsAs_of_atom begins (by constructor <;> rintro ⟨⟩)
            (atom_readsAs_string isRead) objects depth
  | array items ih =>
      cases spells with
      | array inside =>
          cases becomes with
          | array each =>
              cases depth with
              | zero => simp [Json.depth] at fits
              | succ depth =>
                  have itemsFit := Json.depthOfItems_le_iff.mp (Nat.le_of_succ_le_succ fits)
                  apply value_readsAs_of_items
                  refine inside.imp each ?_
                  intro item itemMem found text becomes spells
                  exact ⟨spells.begins, ih item itemMem spells becomes (itemsFit item itemMem)
                    spells.begins⟩
  | object entries ih =>
      cases spells with
      | object inside =>
          cases depth with
          | zero => simp [Json.depth] at fits
          | succ depth =>
              cases becomes with
              | taken notKept isNumber => exact value_readsAs_of_taken notKept isNumber inside
              | object notTaken each =>
                  have entriesFit := Json.depthOfEntries_le_iff.mp (Nat.le_of_succ_le_succ fits)
                  apply value_readsAs_of_entries (notTaken_of_onValue each notTaken)
                  refine inside.imp each ?_
                  rintro _ entryMem _ _ ⟨key, becomes⟩ ⟨isKey, beforeBlank, afterBlank, spells⟩
                  exact keyed_readsBack isKey beforeBlank afterBlank
                    (ih _ entryMem spells becomes (entriesFit _ entryMem) spells.begins)

end JsonTables.JsonText
