import JsonTables.Json
import JsonTables.Proofs.LookedUp

/-!
# Values without repeated keys

Where only the first entry of every key counts, the others may as well be dropped, at
every depth.  What is left has the keys in the order in which they first come, each once,
and under each of them what is left of the first value that it had.
-/

namespace JsonTables

namespace Json

section

variable {motive : Json → Prop} (null : motive .null) (bool : ∀ value, motive (.bool value))
  (number : ∀ text, motive (.number text)) (string : ∀ text, motive (.string text))
  (array : ∀ items, (∀ item ∈ items, motive item) → motive (.array items))
  (object : ∀ entries, (∀ entry ∈ entries, motive entry.2) → motive (.object entries))

include null bool number string array object

set_option linter.unusedSectionVars false in
mutual

/-- Induction on a value; one may assume the statement for every value in it. -/
@[elab_as_elim]
theorem induction : (value : Json) → motive value
  | .null => null
  | .bool value => bool value
  | .number text => number text
  | .string text => string text
  | .array items => array items (inductionItems items)
  | .object entries => object entries (inductionEntries entries)
termination_by structural value => value

theorem inductionItems : (items : List Json) → ∀ item ∈ items, motive item
  | [] => by simp
  | item :: rest => by
      rw [List.forall_mem_cons]
      exact ⟨induction item, inductionItems rest⟩
termination_by structural items => items

theorem inductionEntries : (entries : List (String × Json)) → ∀ entry ∈ entries, motive entry.2
  | [] => by simp
  | (key, value) :: rest => by
      rw [List.forall_mem_cons]
      exact ⟨induction value, inductionEntries rest⟩
termination_by structural entries => entries

end

end

/-! ### First entries -/

section

variable {α : Type} {entries : List (String × α)}

theorem firstOccurrences_sublist (seen : List String) (entries : List (String × α)) :
    (firstOccurrences seen entries).Sublist entries := by
  induction entries generalizing seen with
  | nil => exact .slnil
  | cons entry rest ih =>
      simp only [firstOccurrences]
      split
      · exact (ih seen).cons entry
      · exact (ih (entry.1 :: seen)).cons_cons entry

/-- The keys are those that have not been seen, each where it first comes. -/
theorem keys_firstOccurrences (seen : List String) (entries : List (String × α)) :
    (firstOccurrences seen entries).map (·.1) =
      ((entries.map (·.1)).filter (!seen.contains ·)).eraseDups := by
  induction entries generalizing seen with
  | nil => rfl
  | cons entry rest ih =>
      simp only [firstOccurrences, List.map_cons]
      cases isSeen : seen.contains entry.1 with
      | true => rw [if_pos rfl, ih, List.filter_cons_of_neg (by rw [isSeen]; simp)]
      | false =>
          have others : (rest.map (·.1)).filter (!(entry.1 :: seen).contains ·) =
              ((rest.map (·.1)).filter (!seen.contains ·)).filter (!· == entry.1) := by
            rw [List.filter_filter]
            refine List.filter_congr ?_
            intro key _
            rw [List.contains_cons, Bool.not_or]
          rw [if_neg (by simp), List.map_cons, ih, List.filter_cons_of_pos (by rw [isSeen]; rfl),
            List.eraseDups_cons, others]

theorem nodup_keys_firstOccurrences (seen : List String) (entries : List (String × α)) :
    ((firstOccurrences seen entries).map (·.1)).Nodup := by
  induction entries generalizing seen with
  | nil => exact .nil
  | cons entry rest ih =>
      simp only [firstOccurrences]
      split
      · exact ih seen
      · refine List.nodup_cons.mpr ⟨?_, ih (entry.1 :: seen)⟩
        rw [keys_firstOccurrences, List.mem_eraseDups, List.mem_filter]
        simp

/-- What is searched for by keys that have not been seen is found all the same. -/
theorem find?_firstOccurrences {p : String → Bool} {seen : List String}
    (unseen : ∀ key ∈ seen, p key = false) (entries : List (String × α)) :
    (firstOccurrences seen entries).find? (p ·.1) = entries.find? (p ·.1) := by
  induction entries generalizing seen with
  | nil => rfl
  | cons entry rest ih =>
      simp only [firstOccurrences]
      cases isFound : p entry.1 with
      | true =>
          -- an entry that has been seen is none that `p` looks for
          have isNew : ¬seen.contains entry.1 = true := by
            intro isSeen
            simp [unseen entry.1 (by simpa using isSeen)] at isFound
          rw [if_neg isNew, List.find?_cons_of_pos (by exact isFound),
            List.find?_cons_of_pos (by exact isFound)]
      | false =>
          rw [List.find?_cons_of_neg (a := entry) (by simp [isFound])]
          split
          · exact ih unseen
          · rw [List.find?_cons_of_neg (by simp [isFound])]
            exact ih (List.forall_mem_cons.mpr ⟨isFound, unseen⟩)

/-- Entries with different keys are all first. -/
theorem firstOccurrences_eq_self {seen : List String}
    (distinct : (entries.map (·.1)).Nodup) (unseen : ∀ entry ∈ entries, entry.1 ∉ seen) :
    firstOccurrences seen entries = entries := by
  induction entries generalizing seen with
  | nil => rfl
  | cons entry rest ih =>
      rcases List.nodup_cons.mp distinct with ⟨isNew, restDistinct⟩
      rw [List.forall_mem_cons] at unseen
      simp only [firstOccurrences, List.contains_iff_mem, if_neg unseen.1]
      congr 1
      refine ih restDistinct ?_
      intro other otherMem
      rw [List.mem_cons, not_or]
      refine ⟨?_, unseen.2 other otherMem⟩
      rintro sameKey
      exact isNew (List.mem_map.mpr ⟨other, otherMem, sameKey⟩)

end

/-- The entries that are left of an object. -/
def keptEntries (entries : List (String × Json)) : List (String × Json) :=
  firstOccurrences [] (entries.map fun entry => (entry.1, entry.2.dropRepeats))

theorem dropRepeatsIn_eq (items : List Json) : dropRepeatsIn items = items.map dropRepeats := by
  induction items with
  | nil => rfl
  | cons item rest ih => rw [dropRepeatsIn, ih, List.map_cons]

theorem dropRepeatsOf_eq (entries : List (String × Json)) :
    dropRepeatsOf entries = entries.map fun entry => (entry.1, entry.2.dropRepeats) := by
  induction entries with
  | nil => rfl
  | cons entry rest ih => rw [dropRepeatsOf, ih, List.map_cons]

@[simp]
theorem dropRepeats_array (items : List Json) :
    (array items).dropRepeats = .array (items.map dropRepeats) := by
  rw [dropRepeats, dropRepeatsIn_eq]

@[simp]
theorem dropRepeats_object (entries : List (String × Json)) :
    (object entries).dropRepeats = .object (keptEntries entries) := by
  rw [dropRepeats, dropRepeatsOf_eq, keptEntries]

@[simp]
theorem kind_dropRepeats (value : Json) : value.dropRepeats.kind = value.kind := by
  cases value <;> rfl

theorem keys_keptEntries (entries : List (String × Json)) :
    (keptEntries entries).map (·.1) = (entries.map (·.1)).eraseDups := by
  simp [keptEntries, keys_firstOccurrences, Function.comp_def]

theorem nodup_keys_keptEntries (entries : List (String × Json)) :
    ((keptEntries entries).map (·.1)).Nodup :=
  nodup_keys_firstOccurrences [] _

theorem find?_keptEntries (p : String → Bool) (entries : List (String × Json)) :
    (keptEntries entries).find? (p ·.1) =
      (entries.find? (p ·.1)).map fun entry => (entry.1, entry.2.dropRepeats) := by
  rw [keptEntries, find?_firstOccurrences (by simp), List.find?_map]
  rfl

theorem lookup_keptEntries (entries : List (String × Json)) (key : String) :
    (keptEntries entries).lookup key = (entries.lookup key).map dropRepeats := by
  rw [← lookup_map, lookup_eq_find?, lookup_eq_find?, keptEntries]
  exact congrArg _ (find?_firstOccurrences (p := (key == ·)) (by simp) _)

/-! ### Values -/

/-- Whether no object in a value has a key twice. -/
inductive HasNoRepeats : Json → Prop
  | null : HasNoRepeats .null
  | bool (value : Bool) : HasNoRepeats (.bool value)
  | number (text : String) : HasNoRepeats (.number text)
  | string (text : String) : HasNoRepeats (.string text)
  | array {items : List Json} (each : ∀ item ∈ items, HasNoRepeats item) :
      HasNoRepeats (.array items)
  | object {entries : List (String × Json)} (distinct : (entries.map (·.1)).Nodup)
      (each : ∀ entry ∈ entries, HasNoRepeats entry.2) : HasNoRepeats (.object entries)

/-- Whether a value is what is left of another if only the first entry of every key is
kept, in every object. -/
inductive KeepsFirsts : Json → Json → Prop
  | null : KeepsFirsts .null .null
  | bool (value : Bool) : KeepsFirsts (.bool value) (.bool value)
  | number (text : String) : KeepsFirsts (.number text) (.number text)
  | string (text : String) : KeepsFirsts (.string text) (.string text)
  | array {items kept : List Json} (each : List.Forall₂ KeepsFirsts items kept) :
      KeepsFirsts (.array items) (.array kept)
  | object {entries kept : List (String × Json)}
      (keys : kept.map (·.1) = (entries.map (·.1)).eraseDups)
      (values : ∀ key value left, entries.lookup key = some value →
        kept.lookup key = some left → KeepsFirsts value left) :
      KeepsFirsts (.object entries) (.object kept)

theorem keepsFirsts_dropRepeats (value : Json) : value.KeepsFirsts value.dropRepeats := by
  induction value using induction with
  | null => exact .null
  | bool value => exact .bool value
  | number text => exact .number text
  | string text => exact .string text
  | array items ih =>
      rw [dropRepeats_array]
      exact .array (List.forall₂_map_right_iff.mpr (List.forall₂_same.mpr ih))
  | object entries ih =>
      rw [dropRepeats_object]
      refine .object (keys_keptEntries entries) ?_
      intro key value left isValue isLeft
      rw [lookup_keptEntries, isValue, Option.map_some, Option.some.injEq] at isLeft
      rw [← isLeft]
      exact ih (key, value) (mem_of_lookup isValue)

/-- Only one value is left of another. -/
theorem KeepsFirsts.eq_dropRepeats {value kept : Json} (keeps : value.KeepsFirsts kept) :
    kept = value.dropRepeats := by
  induction value using induction generalizing kept with
  | array items ih =>
      cases keeps with
      | array each =>
          rw [dropRepeats_array]
          congr 1
          induction each with
          | nil => rfl
          | cons first _ restKept =>
              rw [List.forall_mem_cons] at ih
              rw [List.map_cons, ih.1 first, restKept ih.2]
  | object entries ih =>
      cases keeps with
      | @object _ kept keys values =>
          rw [dropRepeats_object]
          congr 1
          have sameKeys := keys.trans (keys_keptEntries entries).symm
          -- the keys are the same, each once, so the two agree if they do under every key
          refine eq_of_lookup_eq (nodup_keys_keptEntries entries) sameKeys ?_
          intro key
          have sameKey : key ∈ kept.map (·.1) ↔ key ∈ entries.map (·.1) := by
            rw [keys, List.mem_eraseDups]
          rw [lookup_keptEntries]
          cases isLeft : kept.lookup key with
          | none =>
              rw [lookup_eq_none_iff, sameKey] at isLeft
              rw [lookup_eq_none_iff.mpr isLeft, Option.map_none]
          | some left =>
              have isKey : key ∈ entries.map (·.1) :=
                sameKey.mp (List.mem_map_of_mem (mem_of_lookup isLeft))
              cases isValue : entries.lookup key with
              | none => exact absurd isKey (lookup_eq_none_iff.mp isValue)
              | some value =>
                  have keepsValue := values key value left isValue isLeft
                  rw [Option.map_some, ih (key, value) (mem_of_lookup isValue) keepsValue]
  | _ =>
      cases keeps
      rfl

theorem keepsFirsts_iff {value kept : Json} :
    value.KeepsFirsts kept ↔ kept = value.dropRepeats := by
  constructor
  · exact KeepsFirsts.eq_dropRepeats
  · rintro rfl
    exact keepsFirsts_dropRepeats value

theorem hasNoRepeats_dropRepeats (value : Json) : value.dropRepeats.HasNoRepeats := by
  induction value using induction with
  | null => exact .null
  | bool value => exact .bool value
  | number text => exact .number text
  | string text => exact .string text
  | array items ih =>
      rw [dropRepeats_array]
      exact .array (List.forall_mem_map.mpr ih)
  | object entries ih =>
      rw [dropRepeats_object]
      refine .object (nodup_keys_keptEntries entries) ?_
      intro entry entryMem
      have fromAll := (firstOccurrences_sublist _ _).subset entryMem
      rcases List.mem_map.mp fromAll with ⟨first, firstMem, rfl⟩
      exact ih first firstMem

/-- Nothing is dropped of a value without repeated keys. -/
theorem HasNoRepeats.dropRepeats_eq {value : Json} (distinct : value.HasNoRepeats) :
    value.dropRepeats = value := by
  induction distinct with
  | array _ ih => rw [dropRepeats_array, List.map_congr_left ih, List.map_id']
  | @object entries distinct _ ih =>
      have sameEntries : ∀ entry ∈ entries, (entry.1, entry.2.dropRepeats) = entry := by
        intro entry entryMem
        rw [ih entry entryMem]
      have sameValues : (entries.map fun entry => (entry.1, entry.2.dropRepeats)) = entries := by
        rw [List.map_congr_left sameEntries, List.map_id']
      rw [dropRepeats_object, keptEntries, sameValues,
        firstOccurrences_eq_self distinct (by simp)]
  | _ => rfl

@[simp]
theorem dropRepeats_dropRepeats (value : Json) :
    value.dropRepeats.dropRepeats = value.dropRepeats :=
  (hasNoRepeats_dropRepeats value).dropRepeats_eq

end Json

end JsonTables
