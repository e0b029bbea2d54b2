import JsonTables.Proofs.DroppedRepeats
import JsonTables.Proofs.SpelledParts

/-!
# Values as they are spelled

What spells a value is said here by grammar, with blanks wherever they may stand.  Whatever
the reader reads is spelled in its bytes, but where it takes an object for a number: there a
number is read, and the object is what is spelled.
-/

namespace JsonTables

namespace Json

mutual

/-- How deep the brackets of a value nest. -/
def depth : Json → Nat
  | .array items => depthOfItems items + 1
  | .object entries => depthOfEntries entries + 1
  | _ => 0
termination_by structural value => value

/-- The greatest depth of an item. -/
def depthOfItems : List Json → Nat
  | [] => 0
  | item :: rest => max (depth item) (depthOfItems rest)
termination_by structural items => items

/-- The greatest depth of the value of an entry. -/
def depthOfEntries : List (String × Json) → Nat
  | [] => 0
  | (_, value) :: rest => max (depth value) (depthOfEntries rest)
termination_by structural entries => entries

end

theorem depthOfItems_le_iff {items : List Json} {depth : Nat} :
    depthOfItems items ≤ depth ↔ ∀ item ∈ items, item.depth ≤ depth := by
  induction items with
  | nil => simp [depthOfItems]
  | cons item rest ih => rw [depthOfItems, Nat.max_le, ih, List.forall_mem_cons]

theorem depthOfEntries_le_iff {entries : List (String × Json)} {depth : Nat} :
    depthOfEntries entries ≤ depth ↔ ∀ entry ∈ entries, entry.2.depth ≤ depth := by
  induction entries with
  | nil => simp [depthOfEntries]
  | cons entry rest ih => rw [depthOfEntries, Nat.max_le, ih, List.forall_mem_cons]

end Json

namespace JsonText

/-! ### Grammar -/

/-- Whether all bytes are blanks. -/
def AreBlank (bytes : Bytes) : Prop :=
  ∀ byte ∈ bytes, isBlankByte byte = true

section Lists

variable {α β : Type}

/-- What stands in brackets behind a part: more parts with commas before them, and the
closing bracket. -/
inductive Behind (spells : α → Bytes → Prop) (close : UInt8) : List α → Bytes → Prop
  | closed {blanks : Bytes} (areBlank : AreBlank blanks) :
      Behind spells close [] (blanks ++ [close])
  | comma {part : α} {parts : List α} {before after text rest : Bytes}
      (beforeBlank : AreBlank before) (afterBlank : AreBlank after) (isPart : spells part text)
      (others : Behind spells close parts rest) :
      Behind spells close (part :: parts) (before ++ 0x2C :: (after ++ text ++ rest))

/-- What stands behind an opening bracket: parts with commas between them, and the closing
bracket. -/
inductive Inside (spells : α → Bytes → Prop) (close : UInt8) : List α → Bytes → Prop
  | nothing {blanks : Bytes} (areBlank : AreBlank blanks) :
      Inside spells close [] (blanks ++ [close])
  | parts {part : α} {parts : List α} {blanks text rest : Bytes} (areBlank : AreBlank blanks)
      (isPart : spells part text) (others : Behind spells close parts rest) :
      Inside spells close (part :: parts) (blanks ++ text ++ rest)

/-- What spells an entry of an object: its key, a colon and its value. -/
inductive SpellsEntry (spells : α → Bytes → Prop) : String × α → Bytes → Prop
  | keyed {key : String} {value : α} {keyBytes before after text : Bytes}
      (isKey : SpellsText key keyBytes) (beforeBlank : AreBlank before)
      (afterBlank : AreBlank after) (isValue : spells value text) :
      SpellsEntry spells (key, value) (0x22 :: (keyBytes ++ before ++ 0x3A :: (after ++ text)))

/-- Whether entries have the same key and related values. -/
inductive OnValue (relation : α → β → Prop) : String × α → String × β → Prop
  | keyed (key : String) {value : α} {other : β} (related : relation value other) :
      OnValue relation (key, value) (key, other)

end Lists

/-- What spells a value.  The mark and the sign of an exponent may be written in several ways;
the text of a number has one of them. -/
inductive Spells : Json → Bytes → Prop
  | null : Spells .null (bytesOf "null")
  | bool (value : Bool) : Spells (.bool value) (bytesOf (toString value))
  | number {token : NumberToken} {bytes : Bytes} (isNumber : SpellsNumber token bytes) :
      Spells (.number token.text) bytes
  | string {text : String} {bytes : Bytes} (isText : SpellsText text bytes) :
      Spells (.string text) (0x22 :: bytes)
  | array {items : List Json} {bytes : Bytes} (inside : Inside Spells 0x5D items bytes) :
      Spells (.array items) (0x5B :: bytes)
  | object {entries : List (String × Json)} {bytes : Bytes}
      (inside : Inside (SpellsEntry Spells) 0x7D entries bytes) :
      Spells (.object entries) (0x7B :: bytes)

/-- What spells a document: a value, with blanks around it. -/
inductive SpellsDocument : Json → Bytes → Prop
  | between {tree : Json} {before text after : Bytes} (beforeBlank : AreBlank before)
      (spells : Spells tree text) (afterBlank : AreBlank after) :
      SpellsDocument tree (before ++ text ++ after)

/-! ### Objects that are taken for numbers -/

/-- Whether an object is taken for a number: its first key is that of numbers, where the
reader is asked to read such objects so. -/
def NumberObjects.Takes (objects : NumberObjects) (entries : List (String × Json)) : Prop :=
  objects ≠ .kept ∧ entries.head?.map (·.1) = some numberKey

/-- What a value that is spelled is read as: the same, but for the numbers that objects are
taken for. -/
inductive Becomes (objects : NumberObjects) : Json → Json → Prop
  | null : Becomes objects .null .null
  | bool (value : Bool) : Becomes objects (.bool value) (.bool value)
  | number (text : String) : Becomes objects (.number text) (.number text)
  | string (text : String) : Becomes objects (.string text) (.string text)
  | array {items founds : List Json} (each : List.Forall₂ (Becomes objects) items founds) :
      Becomes objects (.array items) (.array founds)
  | object {entries founds : List (String × Json)} (notTaken : ¬objects.Takes entries)
      (each : List.Forall₂ (OnValue (Becomes objects)) entries founds) :
      Becomes objects (.object entries) (.object founds)
  | taken {text : String} {token : NumberToken} (notKept : objects ≠ .kept)
      (isNumber : SpellsNumber token (bytesOf text)) :
      Becomes objects (.object [(numberKey, .string text)]) (.number token.text)

/-- Whether a value that nests no deeper is read as another. -/
def BecomesWithin (objects : NumberObjects) (depth : Nat) (tree found : Json) : Prop :=
  tree.depth ≤ depth ∧ Becomes objects tree found

/-- Whether no object in a value is taken for a number. -/
inductive KeepsObjects (objects : NumberObjects) : Json → Prop
  | null : KeepsObjects objects .null
  | bool (value : Bool) : KeepsObjects objects (.bool value)
  | number (text : String) : KeepsObjects objects (.number text)
  | string (text : String) : KeepsObjects objects (.string text)
  | array {items : List Json} (each : ∀ item ∈ items, KeepsObjects objects item) :
      KeepsObjects objects (.array items)
  | object {entries : List (String × Json)} (notTaken : ¬objects.Takes entries)
      (each : ∀ entry ∈ entries, KeepsObjects objects entry.2) :
      KeepsObjects objects (.object entries)

theorem forall₂_eq_iff {α : Type} {relation : α → α → Prop} {keeps : α → Prop}
    {items founds : List α} (each : List.Forall₂ relation items founds)
    (eq_iff : ∀ item ∈ items, ∀ found, relation item found → (found = item ↔ keeps item)) :
    founds = items ↔ ∀ item ∈ items, keeps item := by
  induction each with
  | nil => simp
  | cons related _ ih =>
      rw [List.forall_mem_cons] at eq_iff ⊢
      rw [List.cons.injEq, eq_iff.1 _ related, ih eq_iff.2]

/-- A value is read as it is spelled just if none of its objects is taken for a number. -/
theorem Becomes.eq_iff {objects : NumberObjects} {tree found : Json}
    (becomes : Becomes objects tree found) : found = tree ↔ KeepsObjects objects tree := by
  induction tree using Json.induction generalizing found with
  | null =>
      cases becomes
      exact iff_of_true rfl .null
  | bool value =>
      cases becomes
      exact iff_of_true rfl (.bool value)
  | number text =>
      cases becomes
      exact iff_of_true rfl (.number text)
  | string text =>
      cases becomes
      exact iff_of_true rfl (.string text)
  | array items ih =>
      cases becomes with
      | array each =>
          rw [Json.array.injEq, forall₂_eq_iff each fun item itemMem _ => ih item itemMem]
          constructor
          · exact .array
          · rintro ⟨⟩
            assumption
  | object entries ih =>
      cases becomes with
      | taken notKept isNumber =>
          refine iff_of_false nofun ?_
          rintro ⟨⟩
          rename_i notTaken _
          exact notTaken ⟨notKept, rfl⟩
      | object notTaken each =>
          have eq_iff : ∀ entry ∈ entries, ∀ found, OnValue (Becomes objects) entry found →
              (found = entry ↔ KeepsObjects objects entry.2) := by
            rintro _ entryMem _ ⟨key, related⟩
            rw [Prod.mk.injEq, eq_self, true_and, ih _ entryMem related]
          rw [Json.object.injEq, forall₂_eq_iff each eq_iff]
          constructor
          · exact .object notTaken
          · rintro ⟨⟩
            assumption

/-- Every object is kept as such where the reader is asked for it. -/
theorem becomes_kept (tree : Json) : Becomes .kept tree tree := by
  induction tree using Json.induction with
  | null => exact .null
  | bool value => exact .bool value
  | number text => exact .number text
  | string text => exact .string text
  | array items ih => exact .array (List.forall₂_same.mpr ih)
  | object entries ih =>
      refine .object (fun taken => taken.1 rfl) (List.forall₂_same.mpr ?_)
      intro entry entryMem
      exact .keyed entry.1 (ih entry entryMem)

/-! ### Blanks -/

theorem AreBlank.nil : AreBlank [] :=
  nofun

theorem AreBlank.append {bytes more : Bytes} (areBlank : AreBlank bytes)
    (moreBlank : AreBlank more) : AreBlank (bytes ++ more) :=
  List.forall_mem_append.mpr ⟨areBlank, moreBlank⟩

theorem AreBlank.skipBlanks_append {blanks : Bytes} (areBlank : AreBlank blanks) (more : Bytes) :
    skipBlanks (blanks ++ more) = skipBlanks more :=
  skipBlanks_append_of_blank (skipBlanks_of_blank areBlank) more

theorem skipBlanks_cons {byte : UInt8} (notBlank : isBlankByte byte = false) (rest : Bytes) :
    skipBlanks (byte :: rest) = byte :: rest := by
  simp [skipBlanks, notBlank]

theorem exists_blanks (bytes : Bytes) :
    ∃ blanks, AreBlank blanks ∧ bytes = blanks ++ skipBlanks bytes :=
  ⟨bytes.takeWhile isBlankByte, fun _ => List.mem_takeWhile_imp,
    List.takeWhile_append_dropWhile.symm⟩

/-- A byte that is found behind blanks is none. -/
theorem skipBlanks_eq_cons_iff {bytes rest : Bytes} {byte : UInt8} :
    skipBlanks bytes = byte :: rest ↔
      isBlankByte byte = false ∧ ∃ blanks, AreBlank blanks ∧ bytes = blanks ++ byte :: rest := by
  constructor
  · intro skips
    rw [← skips]
    exact ⟨notBlank_of_skipBlanks skips, exists_blanks bytes⟩
  · rintro ⟨notBlank, blanks, areBlank, rfl⟩
    rw [areBlank.skipBlanks_append, skipBlanks_cons notBlank]

/-! ### Parts between commas -/

section Separated

variable {α : Type} {next : Bool → Bytes → Except Halt (Option Bytes)} {begins : UInt8 → Bool}
  {close : UInt8} {read : Reader α} {spells : α → Bytes → Prop}

/-- Whether the next of several parts is found just where it begins, behind blanks and, but
for the first, behind a comma, and there is none just where a bracket closes. -/
structure FindsParts (next : Bool → Bytes → Except Halt (Option Bytes)) (begins : UInt8 → Bool)
    (close : UInt8) : Prop where
  first_iff : ∀ {bytes start}, next true bytes = .ok (some start) ↔
    skipBlanks bytes = start ∧ Begins begins start
  later_iff : ∀ {bytes start}, next false bytes = .ok (some start) ↔
    ∃ rest, skipBlanks bytes = 0x2C :: rest ∧ skipBlanks rest = start ∧ Begins begins start
  ends_iff : ∀ {isFirst bytes}, next isFirst bytes = .ok none ↔
    ∃ rest, skipBlanks bytes = close :: rest
  notBlank : isBlankByte close = false
  beginsNotBlank : ∀ {byte}, begins byte = true → isBlankByte byte = false
  endsNumber : ∀ rest, EndsNumber (close :: rest)

/-- Whether what is read, from where some bytes begin, is spelled there, maybe behind
blanks. -/
def ReadsOnly (starts : Bytes → Prop) (read : Reader α) (spells : α → Bytes → Prop) : Prop :=
  ∀ ⦃bytes found rest⦄, starts bytes → read bytes = .ok (found, rest) →
    ∃ blanks text, AreBlank blanks ∧ spells found text ∧ bytes = blanks ++ text ++ rest

theorem findsParts_of_betweenCommas {bracket : Char}
    (finds : FindsBetweenCommas next begins bracket)
    (isBracket : ∀ {byte}, is byte bracket = true ↔ byte = close) (notComma : close ≠ 0x2C)
    (noBegin : begins close = false) (notBlank : isBlankByte close = false)
    (beginsNotBlank : ∀ {byte}, begins byte = true → isBlankByte byte = false)
    (endsNumber : ∀ rest, EndsNumber (close :: rest)) : FindsParts next begins close := by
  have isComma : ∀ {byte}, is byte ',' = true ↔ byte = 0x2C := is_iff (by decide)
  have notBracket : ∀ {byte}, byte ≠ close → is byte bracket ≠ true :=
    fun notClose isClose => notClose (isBracket.mp isClose)
  have notClose : ∀ {byte}, begins byte = true → byte ≠ close := by
    rintro _ isBegin rfl
    exact absurd isBegin (by simp [noBegin])
  refine ⟨?_, ?_, ?_, notBlank, beginsNotBlank, endsNumber⟩
  · intro bytes start
    rw [finds]
    constructor
    · rintro ⟨byte, rest, skips, isPicked⟩
      simp only [if_true] at isPicked
      split_ifs at isPicked
      cases isPicked.2
      exact ⟨skips, byte, rest, rfl, isPicked.1⟩
    · rintro ⟨skips, byte, rest, rfl, isBegin⟩
      refine ⟨byte, rest, skips, ?_⟩
      rw [if_neg (notBracket (notClose isBegin)), if_pos rfl]
      exact ⟨isBegin, rfl⟩
  · intro bytes start
    rw [finds]
    constructor
    · rintro ⟨byte, rest, skips, isPicked⟩
      simp only [Bool.false_eq_true, if_false] at isPicked
      split_ifs at isPicked
      rcases isPicked with ⟨isComma', first, others, skipsMore, isBegin, ⟨⟩⟩
      rw [isComma.mp isComma'] at skips
      exact ⟨rest, skips, skipsMore, first, others, rfl, isBegin⟩
    · rintro ⟨rest, skips, skipsMore, first, others, rfl, isBegin⟩
      refine ⟨0x2C, rest, skips, ?_⟩
      rw [if_neg (notBracket notComma.symm), if_neg Bool.false_ne_true]
      exact ⟨isComma.mpr rfl, first, others, skipsMore, isBegin, rfl⟩
  · intro isFirst bytes
    rw [finds]
    constructor
    · rintro ⟨byte, rest, skips, isEnd⟩
      split_ifs at isEnd with isClose
      · rw [isBracket.mp isClose] at skips
        exact ⟨rest, skips⟩
      · exact absurd isEnd.2 (by simp)
      · rcases isEnd with ⟨_, _, _, _, _, ⟨⟩⟩
    · rintro ⟨rest, skips⟩
      exact ⟨close, rest, skips, if_pos (isBracket.mpr rfl) ▸ rfl⟩

theorem nextItem_findsParts : FindsParts nextItem beginsItem 0x5D := by
  refine findsParts_of_betweenCommas nextItem_findsBetweenCommas (is_iff (by decide))
    (by decide) (by decide) (by decide) ?_ (endsNumber_cons (by decide) (by decide) (by decide))
  intro byte begins
  rw [beginsItem, Bool.and_eq_true, Bool.not_eq_true'] at begins
  exact begins.1

theorem nextKey_findsParts : FindsParts nextKey (is · '"') 0x7D := by
  refine findsParts_of_betweenCommas nextKey_findsBetweenCommas (is_iff (by decide))
    (by decide) (by decide) (by decide) ?_ (endsNumber_cons (by decide) (by decide) (by decide))
  intro byte isQuote
  rw [(is_iff (by decide)).mp isQuote]
  decide

/-- What is read behind a part is spelled there, up to the closing bracket. -/
theorem behind_of_separated (findsParts : FindsParts next begins close)
    (reads : ReadsOnly (Begins begins) read spells) {fuel : Nat} {bytes rest : Bytes}
    {founds : List α} (enough : bytes.length < fuel)
    (areRead : separated next read false fuel bytes = .ok (founds, rest)) :
    ∃ text left, Behind spells close founds text ∧ bytes = text ++ left ∧
      rest = close :: left := by
  induction fuel generalizing bytes founds with
  | zero => omega
  | succ fuel ih =>
      simp only [separated, Except.bind_eq_ok_iff] at areRead
      rcases areRead with ⟨start?, isNext, areRead⟩
      cases start? with
      | none =>
          rcases findsParts.ends_iff.mp isNext with ⟨left, skips⟩
          cases areRead
          rcases (skipBlanks_eq_cons_iff.mp skips).2 with ⟨blanks, areBlank, rfl⟩
          exact ⟨blanks ++ [close], left, .closed areBlank, by simp, skips⟩
      | some start =>
          simp only [Except.bind_eq_ok_iff, Except.pure_eq_ok_iff, Prod.mk.injEq, Prod.exists]
            at areRead
          rcases areRead with ⟨part, afterPart, partRead, parts, _, partsRead, rfl, rfl⟩
          rcases findsParts.later_iff.mp isNext with ⟨behindComma, skips, rfl, isBegin⟩
          rcases (skipBlanks_eq_cons_iff.mp skips).2 with ⟨before, beforeBlank, rfl⟩
          rcases exists_blanks behindComma with ⟨after, afterBlank, areBehind⟩
          rcases reads isBegin partRead with ⟨blanks, text, areBlank, isPart, areStart⟩
          rw [areStart] at areBehind
          rw [areBehind] at enough ⊢
          have shorter : afterPart.length < fuel := by
            simp only [List.length_append, List.length_cons] at enough
            omega
          rcases ih shorter partsRead with ⟨others, left, areOthers, rfl, rfl⟩
          exact ⟨_, left, .comma beforeBlank (afterBlank.append areBlank) isPart areOthers,
            by simp only [List.append_assoc, List.cons_append], rfl⟩

theorem inside_of_separated (findsParts : FindsParts next begins close)
    (reads : ReadsOnly (Begins begins) read spells) (readsOn : ReadsOn 1 read) {fuel : Nat}
    {bytes rest : Bytes} {founds : List α} (enough : bytes.length < fuel)
    (areRead : separated next read true fuel bytes = .ok (founds, rest)) :
    ∃ text left, Inside spells close founds text ∧ bytes = text ++ left ∧
      rest = close :: left := by
  cases fuel with
  | zero => omega
  | succ fuel =>
      simp only [separated, Except.bind_eq_ok_iff] at areRead
      rcases areRead with ⟨start?, isNext, areRead⟩
      cases start? with
      | none =>
          rcases findsParts.ends_iff.mp isNext with ⟨left, skips⟩
          cases areRead
          rcases (skipBlanks_eq_cons_iff.mp skips).2 with ⟨blanks, areBlank, rfl⟩
          exact ⟨blanks ++ [close], left, .nothing areBlank, by simp, skips⟩
      | some start =>
          simp only [Except.bind_eq_ok_iff, Except.pure_eq_ok_iff, Prod.mk.injEq, Prod.exists]
            at areRead
          rcases areRead with ⟨part, afterPart, partRead, parts, _, partsRead, rfl, rfl⟩
          rcases findsParts.first_iff.mp isNext with ⟨rfl, isBegin⟩
          have shorter : afterPart.length < fuel := by
            have used := (readsOn partRead).1
            have skipped := length_skipBlanks_le bytes
            omega
          rcases exists_blanks bytes with ⟨blanks, areBlank, areBytes⟩
          rcases reads isBegin partRead with ⟨moreBlanks, text, moreBlank, isPart, areStart⟩
          rcases behind_of_separated findsParts reads shorter partsRead with
            ⟨others, left, areOthers, rfl, rfl⟩
          rw [areBytes, areStart]
          exact ⟨_, left, .parts (areBlank.append moreBlank) isPart areOthers,
            by simp only [List.append_assoc], rfl⟩

end Separated

/-! ### What is read -/

section ReadFrom

variable {α β : Type} {spells : α → Bytes → Prop} {relation : α → β → Prop} {close : UInt8}
  {founds : List β} {bytes : Bytes}

/-- Whether a text spells something that is read as a value. -/
def ReadFrom (spells : α → Bytes → Prop) (relation : α → β → Prop) (found : β) (text : Bytes) :
    Prop :=
  ∃ tree, spells tree text ∧ relation tree found

theorem Behind.exists_trees (behind : Behind (ReadFrom spells relation) close founds bytes) :
    ∃ trees, Behind spells close trees bytes ∧ List.Forall₂ relation trees founds := by
  induction behind with
  | closed areBlank => exact ⟨[], .closed areBlank, .nil⟩
  | comma beforeBlank afterBlank isPart _ ih =>
      rcases isPart with ⟨tree, isTree, related⟩
      rcases ih with ⟨trees, behind, each⟩
      exact ⟨tree :: trees, .comma beforeBlank afterBlank isTree behind, .cons related each⟩

theorem Inside.exists_trees (inside : Inside (ReadFrom spells relation) close founds bytes) :
    ∃ trees, Inside spells close trees bytes ∧ List.Forall₂ relation trees founds := by
  cases inside with
  | nothing areBlank => exact ⟨[], .nothing areBlank, .nil⟩
  | parts areBlank isPart others =>
      rcases isPart with ⟨tree, isTree, related⟩
      rcases others.exists_trees with ⟨trees, behind, each⟩
      exact ⟨tree :: trees, .parts areBlank isTree behind, .cons related each⟩

end ReadFrom

section Entries

variable {objects : NumberObjects} {read : Reader Json} {bytes rest : Bytes} {key : String}

/-- An entry is spelled where its key and its value are. -/
theorem keyed_readsOnly {relation : Json → Json → Prop}
    (reads : ReadsOnly (fun _ => True) read (ReadFrom Spells relation)) :
    ReadsOnly (Begins (is · '"')) (keyed (entry read))
      (ReadFrom (SpellsEntry Spells) (OnValue relation)) := by
  rintro _ found rest ⟨byte, others, rfl, isQuote⟩ isRead
  simp only [keyed, entry, List.drop_one, List.tail_cons, Except.bind_eq_ok_iff,
    Except.pure_eq_ok_iff, Prod.mk.injEq, Prod.exists] at isRead
  rcases isRead with ⟨key, afterKey, keyRead, left, isColon, value, _, valueRead, rfl, rfl⟩
  rcases stringBody_eq_ok_iff_spells.mp keyRead with ⟨keyBytes, isKey, rfl⟩
  rcases (colon_stepsOver _ _).mp isColon with ⟨mark, skips, isMark⟩
  rcases (skipBlanks_eq_cons_iff.mp skips).2 with ⟨before, beforeBlank, rfl⟩
  rcases reads trivial valueRead with ⟨after, text, afterBlank, ⟨tree, spells, related⟩, rfl⟩
  rw [eq_byteOf_of_is isQuote, eq_byteOf_of_is isMark]
  refine ⟨[], _, .nil, ⟨(key, tree), .keyed isKey beforeBlank afterBlank spells,
    .keyed key related⟩, ?_⟩
  simp only [List.nil_append, List.cons_append, List.append_assoc]
  rfl

/-- The number that an object is taken for is the text under the key of numbers. -/
theorem spells_of_numberObject {wanted : String} {found : Json}
    (isRead : numberObject wanted bytes = .ok (found, rest)) :
    ∃ before after text textBytes token, AreBlank before ∧ AreBlank after ∧
      SpellsText text textBytes ∧ SpellsNumber token (bytesOf text) ∧ found = .number token.text ∧
      bytes = before ++ 0x3A :: (after ++ 0x22 :: textBytes ++ rest) := by
  simp only [numberObject, Except.bind_eq_ok_iff, Prod.exists] at isRead
  rcases isRead with ⟨left, isColon, text, afterText, textRead, isNumber⟩
  rcases (colon_stepsOver _ _).mp isColon with ⟨mark, skips, isMark⟩
  rcases (skipBlanks_eq_cons_iff.mp skips).2 with ⟨before, beforeBlank, rfl⟩
  rcases string_eq_ok_iff.mp textRead with ⟨quote, others, quoteSkips, isQuote, bodyRead⟩
  rcases (skipBlanks_eq_cons_iff.mp quoteSkips).2 with ⟨after, afterBlank, rfl⟩
  rcases stringBody_eq_ok_iff_spells.mp bodyRead with ⟨textBytes, isText, rfl⟩
  cases isSpelled : spelledNumber text with
  | error error => simp [isSpelled] at isNumber
  | ok token =>
      simp only [isSpelled] at isNumber
      cases isNumber
      rw [eq_byteOf_of_is isMark, eq_byteOf_of_is isQuote]
      refine ⟨before, after, text, textBytes, token, beforeBlank, afterBlank, isText,
        spelledNumber_eq_ok_iff.mp isSpelled, rfl, ?_⟩
      simp only [List.append_assoc, List.cons_append]
      rfl

theorem key_of_entry {found : String × Json}
    (isRead : entry read key bytes = .ok (found, rest)) : found.1 = key := by
  simp only [entry, Except.bind_eq_ok_iff, Except.pure_eq_ok_iff, Prod.mk.injEq] at isRead
  rcases isRead with ⟨_, _, _, _, rfl, _⟩
  rfl

theorem afterFirstKey_of_taken (notKept : objects ≠ .kept) (read : Reader Json) :
    ∃ wanted, afterFirstKey objects read numberKey = numberObject wanted := by
  cases objects with
  | kept => exact absurd rfl notKept
  | spelled wanted => exact ⟨wanted, by simp only [afterFirstKey, beq_self_eq_true]⟩

theorem afterFirstKey_of_notTaken (notTaken : ¬(objects ≠ .kept ∧ key = numberKey))
    (bytes : Bytes) :
    afterFirstKey objects read key bytes = (do
      let (first, rest) ← entry read key bytes
      let (others, rest) ← separated nextKey (keyed (entry read)) false (rest.length + 1) rest
      return (.object (first :: others), rest)) := by
  simp only [← entriesFrom_eq]
  cases objects with
  | kept => rfl
  | spelled wanted =>
      cases isNumberKey : key == numberKey with
      | true => exact absurd ⟨nofun, beq_iff_eq.mp isNumberKey⟩ notTaken
      | false => simp only [afterFirstKey, isNumberKey]

theorem forall₂_within_iff {depth : Nat} {entries founds : List (String × Json)} :
    List.Forall₂ (OnValue (BecomesWithin objects depth)) entries founds ↔
      (∀ entry ∈ entries, entry.2.depth ≤ depth) ∧
        List.Forall₂ (OnValue (Becomes objects)) entries founds := by
  rw [← List.forall₂_and_left]
  constructor
  · apply List.Forall₂.imp
    rintro _ _ ⟨key, fits, becomes⟩
    exact ⟨fits, .keyed key becomes⟩
  · apply List.Forall₂.imp
    rintro _ _ ⟨fits, key, becomes⟩
    exact .keyed key ⟨fits, becomes⟩

/-- What is read of an object behind its opening bracket is spelled there. -/
theorem spells_of_objectBody {found : Json} {left : Bytes} {depth : Nat}
    (reads : ReadsOnly (fun _ => True) read (ReadFrom Spells (BecomesWithin objects depth)))
    (isRead : objectBody objects read bytes = .ok (found, rest))
    (isEnd : skipBlanks rest = 0x7D :: left) :
    ∃ entries text, Inside (SpellsEntry Spells) 0x7D entries text ∧
      BecomesWithin objects (depth + 1) (.object entries) found ∧ bytes = text ++ left := by
  simp only [objectBody_eq, Except.bind_eq_ok_iff] at isRead
  rcases isRead with ⟨start?, isNext, isRead⟩
  cases start? with
  | none =>
      cases isRead
      rw [skipBlanks_idem] at isEnd
      rcases (skipBlanks_eq_cons_iff.mp isEnd).2 with ⟨blanks, areBlank, rfl⟩
      have becomes : Becomes objects (.object []) (.object []) :=
        .object (fun taken => nomatch taken.2) .nil
      exact ⟨[], blanks ++ [0x7D], .nothing areBlank, ⟨Nat.le_add_left 1 depth, becomes⟩, by simp⟩
  | some start =>
      rcases nextKey_findsParts.first_iff.mp isNext with ⟨skips, quote, content, rfl, isQuote⟩
      rcases (skipBlanks_eq_cons_iff.mp skips).2 with ⟨blanks, areBlank, rfl⟩
      simp only [keyed, List.drop_one, List.tail_cons, Except.bind_eq_ok_iff, Prod.exists] at isRead
      rcases isRead with ⟨key, afterKey, keyRead, isRead⟩
      by_cases taken : objects ≠ .kept ∧ key = numberKey
      · rcases taken with ⟨notKept, rfl⟩
        rcases afterFirstKey_of_taken notKept read with ⟨wanted, asNumber⟩
        rw [asNumber] at isRead
        rcases stringBody_eq_ok_iff_spells.mp keyRead with ⟨keyBytes, isKey, rfl⟩
        rcases spells_of_numberObject isRead with ⟨before, after, text, textBytes, token,
          beforeBlank, afterBlank, isText, isNumber, rfl, rfl⟩
        rcases (skipBlanks_eq_cons_iff.mp isEnd).2 with ⟨endBlanks, endBlank, rfl⟩
        rw [eq_byteOf_of_is isQuote]
        refine ⟨[(numberKey, .string text)], _, .parts areBlank
          (.keyed isKey beforeBlank afterBlank (.string isText)) (.closed endBlank),
          ⟨Nat.le_add_left 1 depth, .taken notKept isNumber⟩, ?_⟩
        simp only [List.append_assoc, List.cons_append, List.nil_append]
        rfl
      · simp only [afterFirstKey_of_notTaken taken, Except.bind_eq_ok_iff, Except.pure_eq_ok_iff,
          Prod.mk.injEq] at isRead
        rcases isRead with ⟨⟨first, afterFirst⟩, firstRead, ⟨others, _⟩, othersRead, rfl, rfl⟩
        have firstKeyed : keyed (entry read) (quote :: content) = .ok (first, afterFirst) := by
          simp only [keyed, List.drop_one, List.tail_cons, keyRead, Except.ok_bind, firstRead]
        rcases keyed_readsOnly reads ⟨quote, content, rfl, isQuote⟩ firstKeyed with
          ⟨moreBlanks, text, moreBlank, ⟨tree, isEntry, onValue⟩, areBytes⟩
        rcases behind_of_separated nextKey_findsParts (keyed_readsOnly reads)
          (Nat.lt_succ_self _) othersRead with ⟨othersText, othersLeft, behind, rfl, rfl⟩
        rcases behind.exists_trees with ⟨trees, treesBehind, each⟩
        rw [skipBlanks_cons (by decide), List.cons.injEq] at isEnd
        rcases isEnd with ⟨_, rfl⟩
        have sameKey : tree.1 = key := by
          have firstKey := key_of_entry firstRead
          rcases onValue with ⟨_, _⟩
          exact firstKey
        rcases forall₂_within_iff.mp (.cons onValue each) with ⟨fits, becomes⟩
        refine ⟨tree :: trees, _, .parts (areBlank.append moreBlank) isEntry treesBehind,
          ⟨Nat.succ_le_succ (Json.depthOfEntries_le_iff.mpr fits), .object ?_ becomes⟩,
          by simp only [areBytes, List.append_assoc]⟩
        rintro ⟨notKept, isNumberKey⟩
        rw [List.head?_cons, Option.map_some, sameKey, Option.some.injEq] at isNumberKey
        exact taken ⟨notKept, isNumberKey⟩

end Entries

/-! ### Values -/

theorem eq_append_of_word {chars : List Char} {bytes rest : Bytes}
    (isRead : word chars bytes = .ok rest) : bytes = chars.map byteOf ++ rest := by
  rcases word_eq_ok_iff.mp isRead with ⟨letters, areChars, rfl⟩
  have areBytes : List.Forall₂ (· = ·) letters (chars.map byteOf) :=
    List.forall₂_map_right_iff.mpr (areChars.imp fun _ _ => eq_byteOf_of_is)
  rw [List.forall₂_eq_eq_eq] at areBytes
  rw [areBytes]

theorem spells_of_atom {objects : NumberObjects} {depth : Nat} {bytes rest : Bytes} {found : Json}
    (isRead : atom bytes = .ok (found, rest)) :
    ∃ text, ReadFrom Spells (BecomesWithin objects depth) found text ∧ bytes = text ++ rest := by
  cases bytes with
  | nil => cases isRead
  | cons byte after =>
      simp only [atom] at isRead
      split at isRead
      · rename_i begins
        rcases wordValue_eq_ok_iff.mp isRead with ⟨isWord, rfl⟩
        refine ⟨_, ⟨_, .null, Nat.zero_le _, .null⟩, ?_⟩
        rw [eq_byteOf_of_is begins, eq_append_of_word isWord, bytesOf_eq]
        rfl
      split at isRead
      · rename_i begins
        rcases wordValue_eq_ok_iff.mp isRead with ⟨isWord, rfl⟩
        refine ⟨_, ⟨_, .bool true, Nat.zero_le _, .bool true⟩, ?_⟩
        rw [eq_byteOf_of_is begins, eq_append_of_word isWord, bytesOf_eq]
        rfl
      split at isRead
      · rename_i begins
        rcases wordValue_eq_ok_iff.mp isRead with ⟨isWord, rfl⟩
        refine ⟨_, ⟨_, .bool false, Nat.zero_le _, .bool false⟩, ?_⟩
        rw [eq_byteOf_of_is begins, eq_append_of_word isWord, bytesOf_eq]
        rfl
      split at isRead
      · simp only [Except.bind_eq_ok_iff, Except.pure_eq_ok_iff, Prod.mk.injEq, Prod.exists]
          at isRead
        rcases isRead with ⟨token, _, numberRead, rfl, rfl⟩
        rcases spells_of_number numberRead with ⟨text, isNumber, areBytes⟩
        exact ⟨text, ⟨_, .number isNumber, Nat.zero_le _, .number token.text⟩, areBytes⟩
      split at isRead
      · rename_i isQuote
        simp only [Except.bind_eq_ok_iff, Except.pure_eq_ok_iff, Prod.mk.injEq, Prod.exists]
          at isRead
        rcases isRead with ⟨text, _, textRead, rfl, rfl⟩
        rcases stringBody_eq_ok_iff_spells.mp textRead with ⟨textBytes, isText, rfl⟩
        rw [eq_byteOf_of_is isQuote]
        exact ⟨_, ⟨_, .string isText, Nat.zero_le _, .string text⟩, rfl⟩
      · cases isRead

/-- What is read as a value is spelled, by induction on the depth to which brackets nest. -/
theorem value_readsOnly (objects : NumberObjects) (depth : Nat) :
    ReadsOnly (fun _ => True) (value objects depth)
      (ReadFrom Spells (BecomesWithin objects depth)) := by
  have isAtom : ∀ {depth bytes others found rest} {byte : UInt8},
      skipBlanks bytes = byte :: others → is byte '[' = false → is byte '\x7b' = false →
      value objects depth bytes = .ok (found, rest) → ∃ blanks text, AreBlank blanks ∧
        ReadFrom Spells (BecomesWithin objects depth) found text ∧
        bytes = blanks ++ text ++ rest := by
    intro depth bytes others found rest byte skips notList notObject isRead
    rw [value_atom_eq skips notList notObject] at isRead
    rcases (skipBlanks_eq_cons_iff.mp skips).2 with ⟨blanks, areBlank, rfl⟩
    rcases spells_of_atom isRead with ⟨text, readFrom, areBytes⟩
    exact ⟨blanks, text, areBlank, readFrom, by rw [areBytes, List.append_assoc]⟩
  induction depth with
  | zero =>
      intro bytes found rest _ isRead
      cases skips : skipBlanks bytes with
      | nil => exact absurd isRead (value_nil_ne_ok skips)
      | cons byte others =>
          cases isBracket : is byte '[' || is byte '\x7b' with
          | true => simp [value, skips, startsWith_cons, isBracket, failNext] at isRead
          | false =>
              rcases Bool.or_eq_false_iff.mp isBracket with ⟨notList, notObject⟩
              exact isAtom skips notList notObject isRead
  | succ depth ih =>
      intro bytes found rest _ isRead
      cases skips : skipBlanks bytes with
      | nil => exact absurd isRead (value_nil_ne_ok skips)
      | cons byte others =>
          rcases (skipBlanks_eq_cons_iff.mp skips).2 with ⟨blanks, areBlank, areBytes⟩
          cases isList : is byte '[' with
          | true =>
              rcases (value_list_eq_ok_iff skips isList).mp isRead with
                ⟨items, left, itemsRead, isEnd, rfl⟩
              rcases inside_of_separated nextItem_findsParts (fun _ _ _ _ => ih trivial)
                (value_readsOn objects depth) (Nat.lt_succ_self _) itemsRead with
                ⟨text, after, inside, rfl, rfl⟩
              rcases inside.exists_trees with ⟨trees, treesInside, each⟩
              rcases (endList_stepsOver _ _).mp isEnd with ⟨bracket, endSkips, _⟩
              rw [skipBlanks_cons (by decide), List.cons.injEq] at endSkips
              rcases endSkips with ⟨_, rfl⟩
              rcases (List.forall₂_and_left _ _).mp each with ⟨fits, becomes⟩
              refine ⟨blanks, 0x5B :: text, areBlank, ⟨_, .array treesInside,
                Nat.succ_le_succ (Json.depthOfItems_le_iff.mpr fits), .array becomes⟩, ?_⟩
              rw [areBytes, eq_byteOf_of_is isList]
              simp only [List.append_assoc, List.cons_append]
              rfl
          | false =>
              cases isObject : is byte '\x7b' with
              | true =>
                  rcases (value_object_eq_ok_iff skips isObject).mp isRead with
                    ⟨left, bodyRead, isEnd⟩
                  rcases (endObject_stepsOver _ _).mp isEnd with ⟨bracket, endSkips, isBracket⟩
                  rw [eq_byteOf_of_is isBracket] at endSkips
                  rcases spells_of_objectBody ih bodyRead endSkips with
                    ⟨entries, text, inside, becomes, rfl⟩
                  refine ⟨blanks, 0x7B :: text, areBlank, ⟨_, .object inside, becomes⟩, ?_⟩
                  rw [areBytes, eq_byteOf_of_is isObject]
                  simp only [List.append_assoc, List.cons_append]
                  rfl
              | false => exact isAtom skips isList isObject isRead

end JsonText

end JsonTables
