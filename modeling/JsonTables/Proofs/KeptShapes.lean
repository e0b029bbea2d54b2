import JsonTables.Proofs.RenderedValues
import JsonTables.Proofs.StoredParts

/-!
# Shapes that are kept

A shape that is stored as text is read back.  The text is read entry by entry: the first
names the kind, the others are buffered as the contents of the parts.  All numbers in a
stored shape are integers, so a value of it is read back as it has been written.
-/

namespace JsonTables

open JsonText
open Time (Instant)

/-! ### Numbers of stored shapes -/

theorem Acceptance.hasIntegers_entries (acceptance : Acceptance) :
    ∀ entry ∈ acceptance.entries, entry.2.HasIntegers := by
  simp [entries, KindSet.toJson, Json.HasIntegers, Json.haveIntegers_iff]

theorem FieldMatching.hasIntegers_toJson (matching : FieldMatching) :
    matching.toJson.HasIntegers := by
  rcases matching with ⟨aliases, ignoresCase, repeats⟩
  rw [toJson, Json.HasIntegers, Json.entriesHaveIntegers_iff]
  cases aliases.isEmpty <;> cases repeats <;>
    simp [Json.HasIntegers, Json.haveIntegers_iff]

theorem LeafKind.hasIntegers_valueToJson {kind : LeafKind} {value : kind.Value}
    (storable : kind.IsStorable value) : (kind.valueToJson value).HasIntegers := by
  have isInteger : ∀ value : Int, (Cell.integerToJson value).HasIntegers :=
    fun value => ⟨value, rfl⟩
  cases kind with
  | float | double => exact storable.elim
  | byte | short | int | long => exact isInteger value
  | bigInteger =>
      simp [valueToJson, Cell.bigIntegerToJson, Json.HasIntegers, Json.haveIntegers_iff, isInteger]
  | _ => trivial

theorem Leaf.hasIntegers_defaultEntry {kind : LeafKind} {default : Option kind.Value}
    (storable : ∀ value ∈ default, kind.IsStorable value) (key : String) :
    ∀ entry ∈ defaultEntry key kind default, entry.2.HasIntegers := by
  cases default with
  | none => simp [defaultEntry]
  | some value => simp [defaultEntry, LeafKind.hasIntegers_valueToJson (storable value rfl)]

namespace Shape

theorem hasIntegers_fieldsToJson {fields : List (String × Shape)}
    (integers : ∀ field ∈ fields, field.2.toJson.HasIntegers) :
    (Json.object (fieldsToJson fields)).HasIntegers := by
  rw [Json.HasIntegers]
  induction fields with
  | nil => trivial
  | cons field rest ih =>
      rw [List.forall_mem_cons] at integers
      exact ⟨integers.1, ih integers.2⟩

theorem hasIntegers_slotsToJson {slots : List Shape}
    (integers : ∀ slot ∈ slots, slot.toJson.HasIntegers) :
    (Json.array (slotsToJson slots)).HasIntegers := by
  rw [Json.HasIntegers]
  induction slots with
  | nil => trivial
  | cons slot rest ih =>
      rw [List.forall_mem_cons] at integers
      exact ⟨integers.1, ih integers.2⟩

theorem hasIntegers_toJson_iff {shape : Shape} :
    shape.toJson.HasIntegers ↔ ∀ entry ∈ shape.storedParts, entry.2.HasIntegers := by
  rw [toJson_eq_tagged, tagged, Json.HasIntegers, Json.entriesHaveIntegers_iff,
    List.forall_mem_cons]
  exact and_iff_right trivial

theorem hasIntegers_variantsToJson {variants : List (String × ObjectShape)}
    (integers : ∀ variant ∈ variants, (object variant.2).toJson.HasIntegers) :
    (Json.object (variantsToJson variants)).HasIntegers := by
  rw [Json.HasIntegers]
  induction variants with
  | nil => trivial
  | cons variant rest ih =>
      rw [List.forall_mem_cons] at integers
      exact ⟨Json.entriesHaveIntegers_iff.mpr (hasIntegers_toJson_iff.mp integers.1),
        ih integers.2⟩

theorem hasIntegers_objectEntries {record : ObjectShape}
    (integers : ∀ field ∈ record.fields, field.2.toJson.HasIntegers) :
    ∀ entry ∈ objectEntries record, entry.2.HasIntegers := by
  rcases record with ⟨fields, rules⟩
  have areFields := hasIntegers_fieldsToJson integers
  have acceptance := rules.acceptance.hasIntegers_entries
  simp only [objectEntries, ruleEntries, List.forall_mem_cons, List.forall_mem_append,
    List.cons_append]
  refine ⟨areFields, trivial, acceptance, trivial, ?_⟩
  have areMatchings : ∀ entry ∈ rules.matching.map fun entry => (entry.1, entry.2.toJson),
      entry.2.HasIntegers := by
    rw [List.forall_mem_map]
    exact fun entry _ => entry.2.hasIntegers_toJson
  cases rules.matching.isEmpty with
  | true => simp
  | false => simpa [Json.HasIntegers, Json.entriesHaveIntegers_iff] using areMatchings

theorem hasIntegers_storedParts {shape : Shape} (holds : shape.HoldsStorable)
    (integers : ∀ part ∈ shape.parts, part.toJson.HasIntegers) :
    ∀ entry ∈ shape.storedParts, entry.2.HasIntegers := by
  cases shape with
  | leaf scalar =>
      simp only [storedParts, List.forall_mem_append]
      refine ⟨?_, scalar.acceptance.hasIntegers_entries,
        Leaf.hasIntegers_defaultEntry holds.onNull "onNull",
        Leaf.hasIntegers_defaultEntry holds.onMissing "onMissing"⟩
      cases scalar.kind <;> simp [LeafKind.formatEntry, Json.HasIntegers]
  | object record =>
      apply hasIntegers_objectEntries
      intro field fieldMem
      exact integers field.2 (List.mem_map_of_mem fieldMem)
  | array element acceptance =>
      rw [storedParts, List.forall_mem_cons]
      exact ⟨integers element (by simp [Shape.parts]), acceptance.hasIntegers_entries⟩
  | keyValue key value acceptance =>
      rw [storedParts, List.forall_mem_cons, List.forall_mem_cons]
      exact ⟨integers key (by simp [Shape.parts]), integers value (by simp [Shape.parts]),
        acceptance.hasIntegers_entries⟩
  | tuple slots acceptance =>
      rw [storedParts, List.forall_mem_cons]
      exact ⟨hasIntegers_slotsToJson integers, acceptance.hasIntegers_entries⟩
  | typed rules shared variants =>
      simp only [Shape.parts, List.forall_mem_append, List.forall_mem_map] at integers
      simp only [storedParts, List.forall_mem_cons, List.forall_mem_append]
      exact ⟨trivial, hasIntegers_fieldsToJson integers.1, hasIntegers_variantsToJson integers.2,
        trivial, rules.acceptance.hasIntegers_entries, trivial, by simp⟩
  | any => simp [storedParts]
  | skip acceptance => exact acceptance.hasIntegers_entries

/-- A shape that can be stored has no numbers in it but integers. -/
theorem hasIntegers_toJson {shape : Shape} (storable : shape.IsStorable) :
    shape.toJson.HasIntegers := by
  induction shape using induction_on_parts with
  | step shape ih =>
      rw [hasIntegers_toJson_iff]
      apply hasIntegers_storedParts (storable _ .self)
      intro part partMem
      exact ih part partMem (storable.part partMem)

/-! ### Texts of stored shapes -/

theorem string_readsAs_quote (wanted text : String) :
    ReadsAs (JsonText.string wanted) (bytesOf (Json.quote text)) text := by
  intro more _
  have isQuote : isBlankByte 0x22 = false ∧ is 0x22 '"' = true := by decide
  rw [bytesOf_quote, List.cons_append]
  simp only [JsonText.string, skipBlanks_cons isQuote.1, List.isEmpty_cons, startsWith_cons,
    isQuote.2, Bool.false_eq_true, if_false, if_true, List.drop_one, List.tail_cons,
    stringBody_afterQuote]

/-- The kind of a shape is read of its name. -/
theorem kindReader_readsAs (shape : Shape) :
    ReadsAs kindReader (bytesOf (Json.quote shape.storedName)) shape.storedKind := by
  intro more ends
  have isName := string_readsAs_quote "variant identifier" shape.storedName more ends
  simp only [kindReader, stringAs, isName, Except.ok_bind, variantName_storedName]
  rfl

/-- A part is buffered behind the parts before it. -/
theorem gatherEntry_readsAs {key : String} {json : Json} {depth : Nat}
    (notKind : key ≠ Content.kindKey) (integers : json.HasIntegers) (fits : json.depth ≤ depth)
    (known : Option StoredKind × List (String × Content)) :
    ReadsAs (keyed (gatherEntry depth known)) (bytesOf (Json.quote key ++ ":" ++ json.render))
      (known.1, known.2 ++ [(key, Content.ofRead json)]) := by
  intro more ends
  have isValue := value_readsAs json integers depth fits more ends
  rw [bytesOf_keyed]
  simp only [List.cons_append, List.append_assoc, keyed, List.drop_one, List.tail_cons,
    stringBody_afterQuote, Except.ok_bind, gatherEntry, if_neg notKind, colon_cons, contentReader,
    isValue, Content.ofToken_eq]
  rfl

theorem gatherKind_readsAs (shape : Shape) (depth : Nat) (parts : List (String × Content)) :
    ReadsAs (keyed (gatherEntry depth (none, parts)))
      (bytesOf (Json.quote Content.kindKey ++ ":" ++ (Json.string shape.storedName).render))
      (some shape.storedKind, parts) := by
  intro more ends
  have isKind := kindReader_readsAs shape more ends
  rw [bytesOf_keyed, Json.render]
  simp only [List.cons_append, List.append_assoc, keyed, List.drop_one, List.tail_cons,
    stringBody_afterQuote, Except.ok_bind, gatherEntry, if_pos, fieldValue, Option.isSome_none,
    Bool.false_eq_true, if_false, colon_cons, isKind]
  rfl

theorem fieldsFrom_of_nextKey {σ : Type} {field : σ → String → Reader σ} {isFirst : Bool}
    {rest start : Bytes} (isKey : nextKey isFirst rest = .ok (some start)) (record : σ)
    (fuel : Nat) :
    fieldsFrom field isFirst record (fuel + 1) rest = (do
      let (record, rest) ← keyed (field record) start
      fieldsFrom field false record fuel rest) := by
  simp only [fieldsFrom, isKey, Except.ok_bind, keyed, bind_assoc]

theorem nextKey_first (rest : Bytes) : nextKey true (0x22 :: rest) = .ok (some (0x22 :: rest)) :=
  nextKey_findsParts.first .nil ⟨0x22, rest, rfl, by decide⟩

theorem nextKey_later (rest : Bytes) :
    nextKey false (0x2C :: 0x22 :: rest) = .ok (some (0x22 :: rest)) :=
  nextKey_findsParts.later .nil .nil ⟨0x22, rest, rfl, by decide⟩

/-- The parts behind commas are buffered in order. -/
theorem fieldsFrom_parts {entries : List (String × Json)} {depth : Nat}
    (notKind : ∀ entry ∈ entries, entry.1 ≠ Content.kindKey)
    (integers : ∀ entry ∈ entries, entry.2.HasIntegers)
    (fits : Json.depthOfEntries entries ≤ depth)
    (known : Option StoredKind × List (String × Content)) (more : Bytes) (fuel : Nat)
    (enough : entries.length < fuel) :
    fieldsFrom (gatherEntry depth) false known fuel
        (((Json.renderEntries entries).map bytesOf).flatMap (0x2C :: ·) ++ 0x7D :: more) =
      .ok ((known.1, known.2 ++ Content.ofReadEntries entries), 0x7D :: more) := by
  -- Each entry takes one of the fuel, so what is left of it stays ahead of the entries.
  induction entries generalizing known fuel with
  | nil =>
      obtain ⟨fuel, rfl⟩ : ∃ less, fuel = less + 1 := ⟨fuel - 1, by omega⟩
      have noMore : nextKey false (0x7D :: more) = .ok none :=
        nextKey_findsParts.ends false .nil more
      simp only [Json.renderEntries, List.map_nil, List.flatMap_nil, List.nil_append, fieldsFrom,
        noMore, skipBlanks_cons nextKey_findsParts.notBlank, Except.ok_bind,
        Content.ofReadEntries, List.append_nil]
      rfl
  | cons entry rest ih =>
      obtain ⟨fuel, rfl⟩ : ∃ less, fuel = less + 1 := ⟨fuel - 1, by omega⟩
      rcases entry with ⟨key, json⟩
      rw [List.forall_mem_cons] at notKind integers
      simp only [Json.depthOfEntries, Nat.max_le] at fits
      have fewer : rest.length < fuel := by
        rw [List.length_cons] at enough
        omega
      have isRead := gatherEntry_readsAs notKind.1 integers.1 fits.1 known _
        (endsNumber_flatMap nextKey_findsParts ((Json.renderEntries rest).map bytesOf) more)
      have others := ih notKind.2 integers.2 fits.2
        (known.1, known.2 ++ [(key, Content.ofRead json)]) fuel fewer
      rw [bytesOf_keyed, List.cons_append] at isRead
      simp only [Json.renderEntries, List.map_cons, bytesOf_keyed, List.flatMap_cons,
        List.cons_append, List.append_assoc] at isRead ⊢
      rw [fieldsFrom_of_nextKey (nextKey_later _), isRead]
      refine others.trans ?_
      rw [Content.ofReadEntries, List.append_assoc]
      rfl

theorem fields_stored {shape : Shape} {depth : Nat}
    (integers : ∀ entry ∈ shape.storedParts, entry.2.HasIntegers)
    (fits : Json.depthOfEntries shape.storedParts ≤ depth) (more : Bytes) :
    fields (gatherEntry depth) (none, [])
        (joined ((Json.renderEntries ((Content.kindKey, .string shape.storedName)
          :: shape.storedParts)).map bytesOf) ++ 0x7D :: more) =
      .ok ((some shape.storedKind, Content.ofReadEntries shape.storedParts), 0x7D :: more) := by
  have others := fieldsFrom_parts (Content.notKind_storedParts shape) integers fits
    (some shape.storedKind, []) more
  have fewer := length_le_flatMap 0x7D ((Json.renderEntries shape.storedParts).map bytesOf) more
  have isKind := gatherKind_readsAs shape depth [] _ (endsNumber_flatMap nextKey_findsParts
    ((Json.renderEntries shape.storedParts).map bytesOf) more)
  rw [List.length_map, Json.length_renderEntries] at fewer
  rw [bytesOf_keyed, List.cons_append] at isKind
  simp only [Json.renderEntries, List.map_cons, joined, bytesOf_keyed, List.cons_append,
    List.append_assoc] at isKind ⊢
  rw [fields, fieldsFrom_of_nextKey (nextKey_first _), isKind]
  refine others _ ?_
  simp only [List.length_cons, List.length_append] at fewer ⊢
  omega

/-- A stored shape is taken apart into its kind and the contents of its parts. -/
theorem gather_readsAs {shape : Shape} {depth : Nat} (integers : shape.toJson.HasIntegers)
    (fits : shape.toJson.depth ≤ depth) :
    ReadsAs (gather depth) (bytesOf shape.toJson.render)
      ⟨shape.storedKind, .map (Content.ofReadEntries shape.storedParts)⟩ := by
  intro more _
  rw [toJson_eq_tagged, tagged] at integers fits ⊢
  simp only [Json.HasIntegers, Json.EntriesHaveIntegers, Json.entriesHaveIntegers_iff] at integers
  simp only [Json.depth, Json.depthOfEntries] at fits
  obtain ⟨depth, rfl⟩ : ∃ less, depth = less + 1 := ⟨depth - 1, by omega⟩
  have parts := fields_stored integers.2 (show _ ≤ depth by omega) more
  have isEnd : endObject (0x7D :: more) = .ok more :=
    (endObject_stepsOver _ _).mpr ⟨0x7D, skipBlanks_cons (by decide) more, by decide⟩
  have isBracket : isBlankByte 0x7B = false ∧ is 0x7B '[' = false ∧ is 0x7B '\x7b' = true := by
    decide
  rw [bytesOf_object, List.cons_append, List.append_assoc, List.cons_append, List.nil_append]
  simp only [gather, listOrObject, peeked, skipBlanks_cons isBracket.1, List.isEmpty_cons,
    Bool.false_eq_true, if_false, startsWith_cons, isBracket, if_true, enter, Except.ok_bind,
    List.drop_one, List.tail_cons]
  rw [placed_eq_ok_iff, closed_eq_ok_iff]
  refine ⟨0x7D :: more, ?_, isEnd⟩
  exact Except.bind_eq_ok_iff.mpr ⟨_, parts, rfl⟩

/-- A valid shape is read back from the text it is stored as. -/
theorem ofStoredText_render_toJson {shape : Shape} (valid : shape.IsValid)
    (storable : shape.IsStorable) (fits : shape.toJson.depth ≤ maxDepth) :
    ofStoredText shape.toJson.render = .ok shape.settled := by
  have integers := hasIntegers_toJson storable
  have isGathered := gather_readsAs integers fits [] (by rintro _ ⟨⟩)
  have isMade : Gathered.toShape
      ⟨shape.storedKind, .map (Content.ofReadEntries shape.storedParts)⟩ = .ok shape.settled := by
    rcases Except.bind_eq_ok_iff.mp (Content.makesSettled valid storable) with
      ⟨draft, isDraft, isShape⟩
    have passes : shape.settled.check = .ok () := by
      rw [check_settled]
      exact (isValid_iff.mp valid).1
    simp only [Gathered.toShape, isDraft, isShape, Except.ok_bind]
    exact Content.checked_eq_ok_iff.mpr ⟨passes, rfl⟩
  rw [List.append_nil] at isGathered
  simp only [ofStoredText, readAll, storedReader, isGathered, isMade, Except.ok_bind]
  rfl

/-- A valid shape that is stored comes back with whatever it has in the order in which it
was: fields, types, aliases and slots.  It is the same shape just if none of its defaults is
a leap second in the middle of a minute. -/
theorem stored_shapes_are_kept {shape : Shape} (valid : shape.IsValid)
    (storable : shape.IsStorable) (fits : shape.toJson.depth ≤ maxDepth) :
    ∃ kept, ofStoredText shape.toJson.render = .ok kept ∧
      kept.withoutDefaults = shape.withoutDefaults ∧
        (shape.same kept = true ↔ shape.LeapsEndMinutes) :=
  ⟨shape.settled, ofStoredText_render_toJson valid storable fits, withoutDefaults_settled shape,
    same_settled_iff shape storable⟩

/-- An object with an alias, a decimal default and a leap second at the end of a minute is
kept as the same shape. -/
theorem stored_order_is_kept :
    let price := leaf ⟨.bigDecimal, ⟨true, .ofList [.decimal, .null]⟩, some ⟨150, 2⟩, none⟩
    let since := leaf ⟨.instant, ⟨true, .ofList [.string]⟩, none, some ⟨-1, 1500000000⟩⟩
    let order := object (.record [("größe", price), ("since", since)]
      ⟨false, ⟨true, .ofList [.object]⟩, .error, [("größe", ⟨["size"], false, some .useFirst⟩)]⟩)
    order.IsValid ∧ order.IsStorable ∧ order.toJson.depth ≤ maxDepth ∧ order.LeapsEndMinutes ∧
      ∃ kept, ofStoredText order.toJson.render = .ok kept ∧
        kept.withoutDefaults = order.withoutDefaults ∧ order.same kept = true := by
  intro price since order
  have priceValid : price.IsValid := isValid_iff.mpr ⟨rfl, by simp [price, parts]⟩
  have sinceValid : since.IsValid := isValid_iff.mpr ⟨rfl, by simp [since, parts]⟩
  have areParts : order.parts = [price, since] := rfl
  have valid : order.IsValid :=
    isValid_iff.mpr ⟨rfl, by simp [areParts, priceValid, sinceValid]⟩
  have priceStorable : price.IsStorable :=
    isStorable_iff.mpr ⟨⟨by rintro _ ⟨⟩; rfl, by rintro _ ⟨⟩⟩, by simp [price, parts]⟩
  have sinceStorable : since.IsStorable :=
    isStorable_iff.mpr ⟨⟨by rintro _ ⟨⟩, by rintro _ ⟨⟩; exact ⟨by decide, by decide⟩⟩,
      by simp [since, parts]⟩
  have storable : order.IsStorable :=
    isStorable_iff.mpr ⟨⟨by decide, by decide⟩,
      by simp [areParts, priceStorable, sinceStorable]⟩
  have fits : order.toJson.depth ≤ maxDepth := by decide
  have priceEnds : price.LeapsEndMinutes :=
    leapsEndMinutes_leaf_iff.mpr ⟨by rintro _ ⟨⟩; trivial, by rintro _ ⟨⟩⟩
  have sinceEnds : since.LeapsEndMinutes :=
    leapsEndMinutes_leaf_iff.mpr ⟨by rintro _ ⟨⟩, by rintro _ ⟨⟩ _; decide⟩
  have ends : order.LeapsEndMinutes :=
    leapsEndMinutes_iff.mpr ⟨by simp [order], by simp [areParts, priceEnds, sinceEnds]⟩
  rcases stored_shapes_are_kept valid storable fits with ⟨kept, isKept, sameOrder, same⟩
  exact ⟨valid, storable, fits, ends, kept, isKept, sameOrder, same.mpr ends⟩

/-- A leap second in the middle of a minute is not kept: half a second into the leap second
behind the first second of 1970 comes back as half a second into the second one. -/
theorem leap_within_a_minute_is_lost :
    let since := fun onMissing : Instant =>
      leaf ⟨.instant, ⟨true, .ofList [.string]⟩, none, some onMissing⟩
    let leaping := since ⟨0, 1500000000⟩
    leaping.IsValid ∧ leaping.IsStorable ∧ leaping.toJson.depth ≤ maxDepth ∧
      ofStoredText leaping.toJson.render = .ok (since ⟨1, 500000000⟩) ∧
        leaping.same (since ⟨1, 500000000⟩) = false := by
  intro since leaping
  have valid : leaping.IsValid := isValid_iff.mpr ⟨rfl, by simp [leaping, since, parts]⟩
  have storable : leaping.IsStorable :=
    isStorable_iff.mpr ⟨⟨by rintro _ ⟨⟩, by rintro _ ⟨⟩; exact ⟨by decide, by decide⟩⟩,
      by simp [leaping, since, parts]⟩
  have fits : leaping.toJson.depth ≤ maxDepth := by decide
  exact ⟨valid, storable, fits, ofStoredText_render_toJson valid storable fits, by decide⟩

end Shape

end JsonTables
