import JsonTables.Proofs.ReadBackValues

/-!
# Values that are written and read back

A value is written on one line, with commas and no blanks between the parts of what is in
brackets.  What is written spells the value, and so it is read back whatever stands behind
it, as long as that does not go on with a number.
-/

namespace JsonTables

namespace Json

mutual

/-- Whether every number in a value is the text of an integer. -/
def HasIntegers : Json → Prop
  | .number text => ∃ value : Int, text = toString value
  | .array items => HaveIntegers items
  | .object entries => EntriesHaveIntegers entries
  | _ => True
termination_by structural value => value

/-- Whether every number in an item is the text of an integer. -/
def HaveIntegers : List Json → Prop
  | [] => True
  | item :: rest => HasIntegers item ∧ HaveIntegers rest
termination_by structural items => items

/-- Whether every number in the value of an entry is the text of an integer. -/
def EntriesHaveIntegers : List (String × Json) → Prop
  | [] => True
  | (_, value) :: rest => HasIntegers value ∧ EntriesHaveIntegers rest
termination_by structural entries => entries

end

theorem haveIntegers_iff {items : List Json} :
    HaveIntegers items ↔ ∀ item ∈ items, item.HasIntegers := by
  induction items with
  | nil => simp [HaveIntegers]
  | cons item rest ih => rw [HaveIntegers, ih, List.forall_mem_cons]

theorem entriesHaveIntegers_iff {entries : List (String × Json)} :
    EntriesHaveIntegers entries ↔ ∀ entry ∈ entries, entry.2.HasIntegers := by
  induction entries with
  | nil => simp [EntriesHaveIntegers]
  | cons entry rest ih => rw [EntriesHaveIntegers, ih, List.forall_mem_cons]

theorem length_renderEntries (entries : List (String × Json)) :
    (renderEntries entries).length = entries.length := by
  induction entries with
  | nil => rfl
  | cons entry rest ih => rw [renderEntries, List.length_cons, ih, List.length_cons]

end Json

namespace JsonText

/-! ### Integers -/

section Integers

/-- What an integer is read as. -/
def integerToken (value : Int) : NumberToken :=
  ⟨value < 0, Nat.toDigits 10 value.natAbs, none, none⟩

theorem text_integerToken (value : Int) : (integerToken value).text = toString value := by
  rw [← String.toList_inj, Number.toList_toString, NumberToken.text, String.toList_ofList]
  simp only [integerToken, List.append_nil, decide_eq_true_eq]
  split <;> rfl

theorem bytesOf_toString (value : Int) :
    bytesOf (toString value) =
      (if value < 0 then [byteOf '-'] else []) ++ (Nat.toDigits 10 value.natAbs).map byteOf := by
  have areDigits := ascii_of_areDigits (Number.areDigits_toDigits value.natAbs)
  have written : toString value = String.ofList (toString value).toList := by simp
  rw [written, Number.toList_toString]
  split
  · exact bytesOf_ofList_ascii (List.forall_mem_cons.mpr ⟨by decide, areDigits⟩)
  · exact bytesOf_ofList_ascii areDigits

theorem isWhole_toDigits (number : Nat) : IsWhole (Nat.toDigits 10 number) := by
  rcases Nat.eq_zero_or_pos number with rfl | positive
  · exact .zero
  · have notZero := Number.head?_toDigits_ne_zero positive
    have areDigits := Number.areDigits_toDigits number
    cases isText : Nat.toDigits 10 number with
    | nil => exact absurd isText (Number.toDigits_ne_nil number)
    | cons char rest =>
        rw [isText] at notZero areDigits
        refine .digits ?_ areDigits
        rintro rfl
        exact notZero rfl

/-- An integer is spelled by its digits. -/
theorem spellsNumber_integerToken (value : Int) :
    SpellsNumber (integerToken value) (bytesOf (toString value)) := by
  have unsigned : ∀ negative, SpellsUnsigned negative
      ⟨negative, Nat.toDigits 10 value.natAbs, none, none⟩
      ((Nat.toDigits 10 value.natAbs).map byteOf) := by
    intro negative
    have parts : SpellsUnsigned negative _ _ :=
      .parts (isWhole_toDigits value.natAbs) .nothing .nothing
    simpa using parts
  rw [bytesOf_toString, integerToken]
  by_cases negative : value < 0
  · rw [if_pos negative, decide_eq_true negative]
    exact .minus (unsigned true)
  · rw [if_neg negative, decide_eq_false negative]
    exact .plain (unsigned false)

end Integers

/-! ### Commas -/

/-- Texts with commas between each and the next. -/
def joined : List Bytes → Bytes
  | [] => []
  | first :: rest => first ++ rest.flatMap (0x2C :: ·)

theorem bytesOf_comma : bytesOf "," = [0x2C] := by
  rw [bytesOf_eq]
  rfl

theorem bytesOf_intercalate (parts : List String) :
    bytesOf (",".intercalate parts) = joined (parts.map bytesOf) := by
  cases parts with
  | nil =>
      rw [bytesOf_eq]
      rfl
  | cons first rest =>
      induction rest generalizing first with
      | nil => simp [joined, String.intercalate_singleton]
      | cons second rest ih =>
          simp only [String.intercalate_cons_cons, bytesOf_append, ih second, bytesOf_comma, joined,
            List.map_cons, List.flatMap_cons]
          simp

section Commas

variable {α : Type} {spells : α → Bytes → Prop} {close : UInt8} {parts : List α}
  {texts : List Bytes}

theorem behind_flatMap (areSpelled : List.Forall₂ spells parts texts) :
    Behind spells close parts (texts.flatMap (0x2C :: ·) ++ [close]) := by
  induction areSpelled with
  | nil => exact .closed .nil
  | @cons part text parts texts isPart _ ih =>
      have behind := Behind.comma .nil .nil isPart ih
      simpa using behind

/-- Texts with commas between them spell what is in brackets. -/
theorem inside_joined (areSpelled : List.Forall₂ spells parts texts) :
    Inside spells close parts (joined texts ++ [close]) := by
  cases areSpelled with
  | nil => exact .nothing .nil
  | cons isPart areSpelled =>
      have inside : Inside spells close _ _ := .parts .nil isPart (behind_flatMap areSpelled)
      simpa [joined] using inside

end Commas

section Separated

variable {next : Bool → Bytes → Except Halt (Option Bytes)} {begins : UInt8 → Bool}
  {close : UInt8}

/-- What stands behind a part does not go on with a number. -/
theorem endsNumber_flatMap (findsParts : FindsParts next begins close) (texts : List Bytes)
    (more : Bytes) : EndsNumber (texts.flatMap (0x2C :: ·) ++ close :: more) := by
  cases texts with
  | nil => exact findsParts.endsNumber more
  | cons text rest => exact endsNumber_cons (by decide) (by decide) (by decide) _

theorem length_le_flatMap (close : UInt8) (texts : List Bytes) (more : Bytes) :
    texts.length ≤ (texts.flatMap (0x2C :: ·) ++ close :: more).length := by
  induction texts with
  | nil => exact Nat.zero_le _
  | cons text rest ih =>
      simp only [List.flatMap_cons, List.length_append, List.length_cons] at ih ⊢
      omega

end Separated

/-! ### Values -/

theorem bytesOf_brackets : bytesOf "[" = [0x5B] ∧ bytesOf "]" = [0x5D] ∧
    bytesOf "\x7b" = [0x7B] ∧ bytesOf "\x7d" = [0x7D] := by
  simp only [bytesOf_eq]
  exact ⟨rfl, rfl, rfl, rfl⟩

theorem bytesOf_array (items : List Json) : bytesOf (Json.array items).render =
    0x5B :: (joined ((Json.renderItems items).map bytesOf) ++ [0x5D]) := by
  simp [Json.render, Json.bracketed, bytesOf_intercalate, bytesOf_brackets]

theorem bytesOf_object (entries : List (String × Json)) : bytesOf (Json.object entries).render =
    0x7B :: (joined ((Json.renderEntries entries).map bytesOf) ++ [0x7D]) := by
  simp [Json.render, Json.bracketed, bytesOf_intercalate, bytesOf_brackets]

theorem colon_cons (rest : Bytes) : colon (0x3A :: rest) = .ok rest :=
  (colon_stepsOver _ _).mpr ⟨0x3A, skipBlanks_cons (by decide) rest, by decide⟩

theorem bytesOf_keyed (key text : String) : bytesOf (Json.quote key ++ ":" ++ text) =
    0x22 :: (afterQuote key ++ 0x3A :: bytesOf text) := by
  have colonBytes : bytesOf ":" = [0x3A] := by
    rw [bytesOf_eq]
    rfl
  simp [bytesOf_quote, colonBytes]

theorem spellsText_afterQuote (text : String) : SpellsText text (afterQuote text) := by
  have isRead := stringBody_afterQuote text []
  rw [List.append_nil] at isRead
  rcases stringBody_eq_ok_iff_spells.mp isRead with ⟨front, isText, areBytes⟩
  rwa [areBytes, List.append_nil]

theorem forall₂_renderItems {items : List Json}
    (areSpelled : ∀ item ∈ items, Spells item (bytesOf item.render)) :
    List.Forall₂ Spells items ((Json.renderItems items).map bytesOf) := by
  induction items with
  | nil => exact .nil
  | cons item rest ih =>
      rw [List.forall_mem_cons] at areSpelled
      exact .cons areSpelled.1 (ih areSpelled.2)

theorem forall₂_renderEntries {entries : List (String × Json)}
    (areSpelled : ∀ entry ∈ entries, Spells entry.2 (bytesOf entry.2.render)) :
    List.Forall₂ (SpellsEntry Spells) entries ((Json.renderEntries entries).map bytesOf) := by
  induction entries with
  | nil => exact .nil
  | cons entry rest ih =>
      rw [List.forall_mem_cons] at areSpelled
      refine .cons ?_ (ih areSpelled.2)
      have isEntry : SpellsEntry Spells (entry.1, entry.2) _ :=
        .keyed (spellsText_afterQuote entry.1) .nil .nil areSpelled.1
      rw [bytesOf_keyed]
      simpa using isEntry

/-- What is written on one line spells the value. -/
theorem spells_render {json : Json} (integers : json.HasIntegers) :
    Spells json (bytesOf json.render) := by
  induction json using Json.induction with
  | null => exact .null
  | bool value => cases value <;> exact .bool _
  | number text =>
      rcases integers with ⟨value, rfl⟩
      have isNumber : Spells (.number (integerToken value).text) (bytesOf (toString value)) :=
        .number (spellsNumber_integerToken value)
      rwa [text_integerToken] at isNumber
  | string text =>
      rw [Json.render, bytesOf_quote]
      exact .string (spellsText_afterQuote text)
  | array items ih =>
      rw [bytesOf_array]
      rw [Json.HasIntegers, Json.haveIntegers_iff] at integers
      have areSpelled := forall₂_renderItems fun item itemMem =>
        ih item itemMem (integers item itemMem)
      exact .array (inside_joined areSpelled)
  | object entries ih =>
      rw [bytesOf_object]
      rw [Json.HasIntegers, Json.entriesHaveIntegers_iff] at integers
      have areSpelled := forall₂_renderEntries fun entry entryMem =>
        ih entry entryMem (integers entry entryMem)
      exact .object (inside_joined areSpelled)

/-- A value of integers that nests no deeper than the reader goes is read back. -/
theorem value_readsAs (json : Json) (integers : json.HasIntegers) (depth : Nat)
    (fits : json.depth ≤ depth) : ReadsAs (value .kept depth) (bytesOf json.render) json :=
  (spells_render integers).readsAs (becomes_kept json) fits

end JsonText

end JsonTables
