import JsonTables.Proofs.MirroredValues

/-!
# Kinds that leaves can read

Each reader of scalar values has a branch for a value of a kind that it cannot read, and each
kind of leaf lists the kinds of tokens that its reader can.  The lists and the readers agree:
for a value of a kind on the list, other than null, the branch is not taken.  What may still
be wrong with such a value is its text or its range.
-/

namespace JsonTables

namespace Leaf

/-- Whether a reading does not end in the branch for values of a kind that cannot be read. -/
def KnowsKind {α : Type} (outcome : Except ScalarFault α) : Prop :=
  ∀ kind target, outcome ≠ .error (.wrongKind kind target)

namespace KnowsKind

variable {α β : Type}

theorem ok (value : α) : KnowsKind (.ok value) :=
  nofun

theorem error {fault : ScalarFault} (differs : ∀ kind target, fault ≠ .wrongKind kind target) :
    KnowsKind (.error fault : Except ScalarFault α) := by
  intro kind target isError
  exact differs kind target (Except.error.inj isError)

theorem bind {first : Except ScalarFault α} {next : α → Except ScalarFault β}
    (firstKnows : KnowsKind first) (nextKnows : ∀ value, KnowsKind (next value)) :
    KnowsKind (first >>= next) := by
  intro kind target isError
  rcases Except.bind_eq_error_iff.mp isError with firstFails | ⟨value, _, nextFails⟩
  · exact firstKnows kind target firstFails
  · exact nextKnows value kind target nextFails

theorem mapError {ε : Type} (outcome : Except ε α) {wrap : ε → ScalarFault}
    (differs : ∀ fault kind target, wrap fault ≠ .wrongKind kind target) :
    KnowsKind (outcome.mapError wrap) := by
  cases outcome with
  | ok value => exact ok value
  | error fault => exact error (differs fault)

end KnowsKind

/-! ### Texts -/

theorem knowsKind_decimalOf (text : String) : KnowsKind (decimalOf text) :=
  .mapError _ nofun

theorem knowsKind_integerPart (value : Number.Decimal) : KnowsKind (integerPart value) := by
  simp only [integerPart]
  split
  · exact .ok _
  · exact .error nofun

theorem knowsKind_int64OfDecimal (value : Number.Decimal) : KnowsKind (int64OfDecimal value) := by
  refine (knowsKind_integerPart value).bind ?_
  intro part
  split
  · exact .ok part
  · exact .error nofun

theorem knowsKind_int64OfNumber (text : String) : KnowsKind (int64OfNumber text) := by
  simp only [int64OfNumber]
  split
  · exact .ok _
  · split
    · exact .error nofun
    · exact (knowsKind_decimalOf text).bind knowsKind_int64OfDecimal

theorem knowsKind_int64OfText (target text : String) : KnowsKind (int64OfText target text) :=
  .mapError _ nofun

theorem knowsKind_doubleOfNumber (text : String) : KnowsKind (doubleOfNumber text) := by
  simp only [doubleOfNumber]
  split
  · split
    · exact .ok _
    · exact .error nofun
  · exact .error nofun

theorem knowsKind_nanosOfInteger (unit : Time.EpochUnit) (value : Int) :
    KnowsKind (nanosOfInteger unit value) := by
  simp only [nanosOfInteger]
  split
  · exact .ok _
  · exact .error nofun

theorem knowsKind_nanosOfDecimal (unit : Time.EpochUnit) (text : String) :
    KnowsKind (nanosOfDecimal unit text) :=
  (knowsKind_decimalOf text).bind fun _ => knowsKind_int64OfDecimal _

/-! ### Readers -/

/-- Whether a value is a number or a text. -/
inductive IsNumeral : Json → Prop
  | number (text : String) : IsNumeral (.number text)
  | text (text : String) : IsNumeral (.string text)

theorem knowsKind_readIntegral {json : Json} (isNumeral : IsNumeral json)
    (bounds : Number.Bounds) (target : String) (allowDecimal : Bool) :
    KnowsKind (readIntegral bounds target allowDecimal json) := by
  have knowsValue : ∀ value : Int,
      KnowsKind (if bounds.contains value then pure value
        else throw (.outOfRange (toString value) target)) := by
    intro value
    split
    · exact .ok value
    · exact .error nofun
  cases isNumeral with
  | number text => exact (knowsKind_int64OfNumber text).bind knowsValue
  | text text =>
      cases allowDecimal with
      | true =>
          refine (knowsKind_decimalOf text).bind ?_
          exact fun value => (knowsKind_int64OfDecimal value).bind knowsValue
      | false => exact (knowsKind_int64OfText target text).bind knowsValue

theorem knowsKind_readDouble {json : Json} (isNumeral : IsNumeral json) :
    KnowsKind (readDouble json) := by
  cases isNumeral with
  | number text => exact knowsKind_doubleOfNumber text
  | text text => exact .mapError _ nofun

theorem knowsKind_readSingle {json : Json} (isNumeral : IsNumeral json) :
    KnowsKind (readSingle json) := by
  have knowsDouble := knowsKind_readDouble isNumeral
  have knowsValue : ∀ value : Number.Single,
      KnowsKind (do
        if value.isInfinite then
          let wide ← readDouble json
          if wide.isFinite then throw (.outOfRange (toString wide) "float")
        return value) := by
    intro value
    split
    · refine knowsDouble.bind ?_
      intro wide
      split
      · exact .error nofun
      · exact .ok value
    · exact .ok value
  cases isNumeral with
  | number text => exact knowsDouble.bind fun value => knowsValue value.convert
  | text text => exact KnowsKind.bind (.mapError _ nofun) knowsValue

theorem knowsKind_readEpoch {json : Json} (isNumeral : IsNumeral json) (unit : Time.EpochUnit)
    (allowDecimal : Bool) : KnowsKind (readEpoch unit allowDecimal json) := by
  have knowsInstant : ∀ nanos : Int, KnowsKind (pure (Time.Instant.ofNanos nanos)) :=
    fun _ => .ok _
  cases isNumeral with
  | number text =>
      simp only [readEpoch]
      split
      · refine (knowsKind_int64OfNumber text).bind ?_
        exact fun value => (knowsKind_nanosOfInteger unit value).bind knowsInstant
      · exact (knowsKind_nanosOfDecimal unit text).bind knowsInstant
  | text text =>
      simp only [readEpoch]
      split
      · exact (knowsKind_nanosOfDecimal unit text).bind knowsInstant
      · refine (knowsKind_int64OfText _ text).bind ?_
        exact fun value => (knowsKind_nanosOfInteger unit value).bind knowsInstant

theorem knowsKind_readBigInteger {json : Json} (isNumeral : IsNumeral json)
    (allowDecimal : Bool) : KnowsKind (readBigInteger allowDecimal json) := by
  cases isNumeral with
  | number text =>
      simp only [readBigInteger]
      split
      · exact .mapError _ nofun
      · exact (knowsKind_decimalOf text).bind knowsKind_integerPart
  | text text =>
      simp only [readBigInteger]
      split
      · exact .ok _
      · split
        · exact (knowsKind_decimalOf text).bind knowsKind_integerPart
        · exact .error nofun

theorem knowsKind_readBigDecimal {json : Json} (isNumeral : IsNumeral json) :
    KnowsKind (readBigDecimal json) := by
  cases isNumeral with
  | number text => exact knowsKind_decimalOf text
  | text text => exact knowsKind_decimalOf text

theorem knowsKind_readBool_text (text : String) : KnowsKind (readBool (.string text)) := by
  simp only [readBool]
  split
  · exact .ok true
  · split
    · exact .ok false
    · exact .error nofun

theorem knowsKind_readChar_text (text : String) : KnowsKind (readChar (.string text)) := by
  simp only [readChar]
  split
  · exact .ok _
  · exact .error nofun

/-! ### Kinds -/

theorem isNumeral_of_contains {json : Json} (notNull : json ≠ .null)
    (isOf : (KindSet.ofList [.int, .decimal, .string, .null]).contains json.kind = true) :
    IsNumeral json := by
  cases json with
  | number text => exact .number text
  | string text => exact .text text
  | null => exact absurd rfl notNull
  | bool value => cases isOf
  | array items => cases isOf
  | object entries => cases isOf

/-- A number is no value for a leaf that reads neither integers nor decimals. -/
theorem not_contains_kind_number {kinds : KindSet} (noInt : kinds.contains .int = false)
    (noDecimal : kinds.contains .decimal = false) (text : String) :
    ¬kinds.contains (Json.number text).kind = true := by
  simp only [Json.kind]
  split
  · simp [noInt]
  · simp [noDecimal]

/-- The reader of a kind of leaf knows what to do with a value of a kind on its list. -/
theorem knowsKind_readValue {kind : LeafKind} {json : Json}
    (readable : kind.parseable.contains json.kind = true) (notNull : json ≠ .null)
    (allowDecimal : Bool) : KnowsKind (readValue allowDecimal json kind) := by
  cases kind with
  | boolean =>
      cases json with
      | bool value => exact .ok value
      | string text => exact knowsKind_readBool_text text
      | null => exact absurd rfl notNull
      | number text => exact absurd readable (not_contains_kind_number rfl rfl text)
      | array items => cases readable
      | object entries => cases readable
  | char =>
      cases json with
      | string text => exact knowsKind_readChar_text text
      | null => exact absurd rfl notNull
      | number text => exact absurd readable (not_contains_kind_number rfl rfl text)
      | bool value => cases readable
      | array items => cases readable
      | object entries => cases readable
  | byte => exact knowsKind_readIntegral (isNumeral_of_contains notNull readable) _ _ _
  | short => exact knowsKind_readIntegral (isNumeral_of_contains notNull readable) _ _ _
  | int => exact knowsKind_readIntegral (isNumeral_of_contains notNull readable) _ _ _
  | long => exact knowsKind_readIntegral (isNumeral_of_contains notNull readable) _ _ _
  | float => exact knowsKind_readSingle (isNumeral_of_contains notNull readable)
  | double => exact knowsKind_readDouble (isNumeral_of_contains notNull readable)
  | string =>
      cases json with
      | string text => exact .ok text
      | number text => exact .ok text
      | bool value => exact .ok _
      | null => exact absurd rfl notNull
      | array items => cases readable
      | object entries => cases readable
  | instant =>
      cases json with
      | string text => exact .mapError _ nofun
      | null => exact absurd rfl notNull
      | number text => exact absurd readable (not_contains_kind_number rfl rfl text)
      | bool value => cases readable
      | array items => cases readable
      | object entries => cases readable
  | epoch unit => exact knowsKind_readEpoch (isNumeral_of_contains notNull readable) unit _
  | bigInteger => exact knowsKind_readBigInteger (isNumeral_of_contains notNull readable) _
  | bigDecimal => exact knowsKind_readBigDecimal (isNumeral_of_contains notNull readable)

end Leaf

end JsonTables
