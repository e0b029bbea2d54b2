import JsonTables.Proofs.SettledShapes
import JsonTables.Shape.Decode

/-!
# Contents of stored values

A value that a text is read as has a content whatever its numbers are.  The content of a
stored default, a set of kinds or a way to find a field is read as what has been stored.
-/

namespace JsonTables

/-- A set of kinds is made of the kinds in it. -/
theorem KindSet.ofList_toList (set : KindSet) : ofList set.toList = set := by
  have contains : ∀ (kinds : List Kind) (known : KindSet) (kind : Kind),
      (kinds.foldl insert known).contains kind = (kinds.contains kind || known.contains kind) := by
    intro kinds
    induction kinds with
    | nil => simp
    | cons first rest ih =>
        intro known kind
        simp only [List.foldl_cons, ih, contains_insert, List.contains_cons]
        rw [Bool.or_left_comm, Bool.beq_comm, Bool.or_assoc]
  apply ext
  intro kind
  have inAll : kind ∈ Kind.all := by cases kind <;> decide
  rw [ofList, contains, contains_empty, Bool.or_false, toList, Bool.eq_iff_iff,
    List.contains_iff_mem, List.mem_filter]
  simp [inAll]

/-- Entries of which no two have one key are all kept, in order. -/
theorem Json.lastOccurrences_eq_self {α : Type} {entries : List (String × α)}
    (differ : (entries.map (·.1)).Nodup) : lastOccurrences entries = entries := by
  have appended : ∀ known : List (String × α), ((known ++ entries).map (·.1)).Nodup →
      entries.foldl (fun known entry => putEntry known entry.1 entry.2) known =
        known ++ entries := by
    clear differ
    induction entries with
    | nil => simp
    | cons entry rest ih =>
        intro known differ
        have isNew : known.any (·.1 == entry.1) = false := by
          rw [List.any_eq_false]
          intro other otherMem isSame
          rw [List.map_append, List.nodup_append] at differ
          exact differ.2.2 other.1 (List.mem_map_of_mem otherMem) entry.1 (by simp)
            (beq_iff_eq.mp isSame)
        rw [List.foldl_cons, putEntry, isNew, if_neg Bool.false_ne_true,
          ih _ (by simpa using differ), List.append_assoc]
        rfl
  exact appended [] differ

open JsonText (Mismatch)
open Number (Bounds Decimal int64)
open Time (EpochUnit)

namespace Content

mutual

/-- The content of a value that has been read from a text. -/
def ofRead : Json → Content
  | .null => null
  | .bool value => bool value
  | .number digits => ofNumberToken digits
  | .string value => text value
  | .array items => list (ofReadItems items)
  | .object entries => map (ofReadEntries entries)
termination_by structural json => json

/-- The contents of the items of a list that has been read from a text. -/
def ofReadItems : List Json → List Content
  | [] => []
  | item :: rest => ofRead item :: ofReadItems rest
termination_by structural items => items

/-- The contents that the texts of entries are read as. -/
def ofReadEntries : List (String × Json) → List (String × Content)
  | [] => []
  | (key, value) :: rest => (key, ofRead value) :: ofReadEntries rest
termination_by structural entries => entries

end

mutual

/-- A value that is read from a text always has a content. -/
theorem ofToken_eq : (json : Json) → ofToken json = .ok (ofRead json)
  | .null | .bool _ | .number _ | .string _ => rfl
  | .array items => by
      have areRead := ofTokenItems_eq items
      simp only [ofToken, ofJson, areRead, ofRead, Except.ok_bind]
      rfl
  | .object entries => by
      have areRead := ofTokenEntries_eq entries
      simp only [ofToken, ofJson, areRead, ofRead, Except.ok_bind]
      rfl
termination_by structural json => json

theorem ofTokenItems_eq : (items : List Json) →
    ofItems (fun text => .ok (ofNumberToken text)) items = .ok (ofReadItems items)
  | [] => rfl
  | item :: rest => by
      have isRead := ofToken_eq item
      have areRead := ofTokenItems_eq rest
      rw [ofToken] at isRead
      simp only [ofItems, isRead, areRead, ofReadItems, Except.ok_bind]
      rfl
termination_by structural items => items

theorem ofTokenEntries_eq : (entries : List (String × Json)) →
    ofEntries (fun text => .ok (ofNumberToken text)) entries = .ok (ofReadEntries entries)
  | [] => rfl
  | (key, value) :: rest => by
      have isRead := ofToken_eq value
      have areRead := ofTokenEntries_eq rest
      rw [ofToken] at isRead
      simp only [ofEntries, isRead, areRead, ofReadEntries, Except.ok_bind]
      rfl
termination_by structural entries => entries

end

theorem ofReadItems_eq_map (items : List Json) : ofReadItems items = items.map ofRead := by
  induction items with
  | nil => rfl
  | cons item rest ih => rw [ofReadItems, ih, List.map_cons]

theorem ofReadEntries_eq_map (entries : List (String × Json)) :
    ofReadEntries entries = entries.map fun entry => (entry.1, ofRead entry.2) := by
  induction entries with
  | nil => rfl
  | cons entry rest ih => rw [ofReadEntries, ih, List.map_cons]

theorem mapM_map_eq_ok {α β γ ε : Type} {stored : α → β} {read : β → Except ε γ} {found : α → γ}
    {items : List α} (isRead : ∀ item ∈ items, read (stored item) = .ok (found item)) :
    (items.map stored).mapM read = .ok (items.map found) := by
  induction items with
  | nil => rfl
  | cons item rest ih =>
      rw [List.forall_mem_cons] at isRead
      rw [List.map_cons, List.mapM_cons, isRead.1, Except.ok_bind, ih isRead.2]
      rfl

/-! ### Integers -/

/-- The text of an integer of 64 bits is read as that integer. -/
theorem ofNumberToken_toString {value : Int} (inside : int64.contains value = true) :
    ofNumberToken (toString value) = integer value := by
  have isSigned : (Bounds.signed 64).read (toString value) = .ok value :=
    Bounds.read_of_spells (Number.spells_toString value) (by decide) inside
  have written := Number.toList_toString value
  by_cases negative : value < 0
  · rw [if_pos negative] at written
    have notUnsigned : (Bounds.unsigned 64).read (toString value) = .error .invalidDigit := by
      rw [Bounds.read_minus (Number.toDigits_ne_nil _) written, if_neg (by decide)]
    simp only [ofNumberToken, notUnsigned, isSigned]
    rw [if_neg (by omega)]
  · rw [if_neg negative] at written
    have isUnsigned : (Bounds.unsigned 64).read (toString value) = .ok (value.natAbs : Int) := by
      have high : int64.high ≤ (Bounds.unsigned 64).high := by decide
      have fits := (Bounds.contains_iff.mp inside).2
      apply Bounds.read_of_digits
      · rw [written]
        exact Number.toDigits_ne_nil _
      · rw [written]
        exact Number.digitsFrom_toDigits _
      · omega
    simp only [ofNumberToken, isUnsigned]
    rw [Int.natAbs_of_nonneg (by omega)]

theorem toInteger_ofRead {bounds : Bounds} {wanted : String} {value : Int}
    (low : int64.low ≤ bounds.low) (high : bounds.high ≤ int64.high)
    (inside : bounds.contains value = true) :
    (ofRead (Cell.integerToJson value)).toInteger bounds wanted = .ok value := by
  have fits := Bounds.contains_iff.mp inside
  have inside64 : int64.contains value = true := Bounds.contains_iff.mpr ⟨by omega, by omega⟩
  rw [Cell.integerToJson, ofRead, ofNumberToken_toString inside64, toInteger, if_pos inside]

theorem toLimbs_lt (value : Nat) : ∀ limb ∈ Number.toLimbs value, limb < Number.limbBase := by
  induction value using Nat.strongRecOn with
  | ind value ih =>
      rw [Number.toLimbs]
      split
      · simp
      · rename_i nonzero
        rw [List.forall_mem_cons]
        exact ⟨Nat.mod_lt _ (by decide),
          ih _ (Nat.div_lt_self (Nat.pos_of_ne_zero nonzero) (by decide))⟩

/-- An integer of any size is read of its sign and its limbs. -/
theorem toBigInteger_ofRead (value : Int) :
    (ofRead (Cell.bigIntegerToJson value)).toBigInteger = .ok value := by
  have signs : value.sign = -1 ∨ value.sign = 0 ∨ value.sign = 1 := by
    rcases Int.lt_trichotomy value 0 with negative | isZero | positive
    · exact .inl (Int.sign_eq_neg_one_of_neg negative)
    · exact .inr (.inl (by rw [isZero]; rfl))
    · exact .inr (.inr (Int.sign_eq_one_of_pos positive))
  have isSign : (ofRead (Cell.integerToJson value.sign)).toInteger (.signed 8) "i8" =
      .ok value.sign := by
    apply toInteger_ofRead (by decide) (by decide)
    rcases signs with sign | sign | sign <;> rw [sign] <;> decide
  have isLimb : ∀ limb ∈ Number.toLimbs value.natAbs,
      (ofRead (Cell.integerToJson (limb : Nat))).toInteger (.unsigned 32) "u32" =
        .ok (limb : Int) := by
    intro limb limbMem
    have fits := toLimbs_lt value.natAbs limb limbMem
    have base : (Number.limbBase : Int) = (Bounds.unsigned 32).high + 1 := by decide
    have low : (Bounds.unsigned 32).low = 0 := by decide
    exact toInteger_ofRead (by decide) (by decide) (Bounds.contains_iff.mpr ⟨by omega, by omega⟩)
  have areLimbs : ((Number.toLimbs value.natAbs).map
      (ofRead ∘ fun limb : Nat => Cell.integerToJson limb)).mapM (toInteger (.unsigned 32) "u32") =
        .ok ((Number.toLimbs value.natAbs).map Int.ofNat) := mapM_map_eq_ok isLimb
  have naturals : Int.toNat ∘ Int.ofNat = id := funext Int.toNat_natCast
  have isSigned : Cell.signOf value.sign = .ok value.sign := if_pos signs
  have isValue : Cell.signedLimbs value.sign (Number.toLimbs value.natAbs) = value := by
    rw [Cell.signedLimbs, Number.ofLimbs_toLimbs, Int.sign_mul_natAbs]
  simp only [Cell.bigIntegerToJson, ofRead, ofReadItems, ofReadItems_eq_map, toBigInteger, toItems,
    List.map_map, Except.ok_bind, isSign, isSigned, areLimbs, naturals, List.map_id, isValue]
  rfl

/-! ### Rules -/

theorem toKindSet_ofRead (set : KindSet) : (ofRead set.toJson).toKindSet = .ok set := by
  have isKind : ∀ kind ∈ set.toList, toVariant kinds (ofRead (.string kind.name)) = .ok kind := by
    intro kind _
    cases kind <;> rfl
  have areKinds : (set.toList.map (ofRead ∘ fun kind => .string kind.name)).mapM (toVariant kinds) =
      .ok (set.toList.map id) := mapM_map_eq_ok isKind
  simp only [KindSet.toJson, ofRead, ofReadItems_eq_map, List.map_map, toKindSet, toItems,
    Except.ok_bind, areKinds, List.map_id, KindSet.ofList_toList]
  rfl

theorem toVariant_policy (policy : RepeatPolicy) :
    toVariant policies (text policy.storedName) = .ok policy := by
  cases policy <;> rfl

theorem toVariant_unit (unit : EpochUnit) : toVariant units (text unit.storedName) = .ok unit := by
  cases unit <;> rfl

theorem toTexts_ofRead (texts : List String) :
    (ofReadItems (texts.map .string)).mapM toText = .ok texts := by
  have isText : ∀ value ∈ texts, toText (ofRead (.string value)) = .ok (id value) := fun _ _ => rfl
  have areTexts : (texts.map (ofRead ∘ .string)).mapM toText = .ok (texts.map id) :=
    mapM_map_eq_ok isText
  rw [ofReadItems_eq_map, List.map_map, areTexts, List.map_id]

theorem toMatching_ofRead (matching : FieldMatching) :
    (ofRead matching.toJson).toMatching = .ok matching := by
  rcases matching with ⟨aliases, ignoresCase, repeats⟩
  cases aliases with
  | nil =>
      cases repeats with
      | none => rfl
      | some policy => cases policy <;> rfl
  | cons first rest =>
      have areAliases := toTexts_ofRead (first :: rest)
      rw [List.map_cons] at areAliases
      cases repeats with
      | none =>
          simp [FieldMatching.toJson, ofRead, ofReadEntries, toMatching, MatchingDraft.fromEntries,
            MatchingDraft.parts, MatchingDraft.has, MatchingDraft.set, toItems, areAliases, toBool,
            MatchingDraft.finish]
      | some policy =>
          simp [FieldMatching.toJson, ofRead, ofReadEntries, toMatching, MatchingDraft.fromEntries,
            MatchingDraft.parts, MatchingDraft.has, MatchingDraft.set, toItems, areAliases, toBool,
            optional, toVariant_policy, MatchingDraft.finish]

/-- Ways to find fields are read back in order, if they are for different fields. -/
theorem toMatchings_ofRead {matching : List (String × FieldMatching)}
    (differ : (matching.map (·.1)).Nodup) :
    (ofRead (.object (matching.map fun entry => (entry.1, entry.2.toJson)))).toMatchings =
      .ok matching := by
  have isRead : ∀ entry ∈ matching, (do
      return (entry.1, ← (ofRead entry.2.toJson).toMatching) :
        Except Mismatch (String × FieldMatching)) = .ok (id entry) := by
    intro entry _
    rw [toMatching_ofRead]
    rfl
  have areRead : (matching.map fun entry => (entry.1, ofRead entry.2.toJson)).mapM (fun entry => do
      return (entry.1, ← entry.2.toMatching) :
        String × Content → Except Mismatch (String × FieldMatching)) = .ok (matching.map id) :=
    mapM_map_eq_ok isRead
  simp only [ofRead, ofReadEntries_eq_map, List.map_map, Function.comp_def, toMatchings, toEntries,
    Except.ok_bind, areRead, List.map_id, Json.lastOccurrences_eq_self differ]
  rfl

/-! ### Defaults -/

theorem toValue_ofRead {kind : LeafKind} {value : kind.Value} (storable : kind.IsStorable value) :
    (ofRead (kind.valueToJson value)).toValue kind = .ok (kind.settledValue value) := by
  cases kind with
  | boolean => rfl
  | char =>
      simp only [LeafKind.valueToJson, ofRead, toValue, textAs, JsonText.singleChar,
        String.toList_ofList, LeafKind.settledValue]
  | byte => exact toInteger_ofRead (by decide) (by decide) storable
  | short => exact toInteger_ofRead (by decide) (by decide) storable
  | int => exact toInteger_ofRead (by decide) (by decide) storable
  | long => exact toInteger_ofRead (by decide) (by decide) storable
  | float | double => exact storable.elim
  | string => rfl
  | instant | epoch _ =>
      have isRead := Time.InstantText.readRelaxed_toString storable
      simp only [LeafKind.valueToJson, ofRead, toValue, textAs, Cell.instantOf, isRead,
        LeafKind.settledValue]
      rfl
  | bigInteger => exact toBigInteger_ofRead value
  | bigDecimal =>
      have isRead := Decimal.read_toString storable
      simp only [LeafKind.valueToJson, ofRead, toValue, toDecimal, Cell.decimalOf, isRead,
        LeafKind.settledValue]
      rfl

end Content

end JsonTables
