import Mathlib

/-!
# What is looked up

Fields, types and entries are lists under keys, in which the first with a key is the one
that is meant.  Where no key comes twice, what is looked up tells the list.
-/

namespace JsonTables

variable {α : Type} {entries others : List (String × α)}

/-- What is looked up is the value of the first entry with the key. -/
theorem lookup_eq_find? (entries : List (String × α)) (key : String) :
    entries.lookup key = (entries.find? (key == ·.1)).map (·.2) := by
  induction entries with
  | nil => rfl
  | cons first rest ih =>
      cases isKey : key == first.1 with
      | true => simp [List.lookup, isKey]
      | false => simpa [List.lookup, isKey] using ih

theorem lookup_map (f : α → α) (entries : List (String × α)) (key : String) :
    (entries.map fun entry => (entry.1, f entry.2)).lookup key =
      (entries.lookup key).map f := by
  rw [lookup_eq_find?, lookup_eq_find?, List.find?_map, Option.map_map, Option.map_map]
  rfl

theorem lookup_eq_none_iff {key : String} :
    entries.lookup key = none ↔ key ∉ entries.map (·.1) := by
  simp only [List.lookup_eq_none_iff, bne_iff_ne, List.mem_map, not_exists, not_and, ne_comm]

/-- Entries with the same keys, each once, are the same if the same is looked up in them. -/
theorem eq_of_lookup_eq (distinct : (entries.map (·.1)).Nodup)
    (sameKeys : others.map (·.1) = entries.map (·.1))
    (sameValues : ∀ key, others.lookup key = entries.lookup key) : others = entries := by
  induction entries generalizing others with
  | nil => simpa using sameKeys
  | cons entry rest ih =>
      rcases List.map_eq_cons_iff.mp sameKeys with ⟨other, otherRest, rfl, sameKey, restKeys⟩
      rcases List.nodup_cons.mp distinct with ⟨isNew, restDistinct⟩
      have sameValue := sameValues entry.1
      simp only [List.lookup, sameKey, beq_self_eq_true, Option.some.injEq] at sameValue
      have sameRest : otherRest = rest := by
        refine ih restDistinct restKeys ?_
        intro key
        by_cases isFirst : key = entry.1
        · subst isFirst
          rw [lookup_eq_none_iff.mpr isNew, lookup_eq_none_iff.mpr (restKeys ▸ isNew)]
        · have restValues := sameValues key
          simpa only [List.lookup, sameKey, beq_eq_false_iff_ne.mpr isFirst] using restValues
      rw [sameRest, Prod.ext sameKey sameValue]

theorem mem_of_lookup {key : String} {value : α} (isValue : entries.lookup key = some value) :
    (key, value) ∈ entries := by
  rcases List.lookup_eq_some_iff.mp isValue with ⟨before, after, rfl, _⟩
  exact List.mem_append_right _ List.mem_cons_self

theorem lookup_of_mem (differ : (entries.map (·.1)).Nodup)
    {entry : String × α} (entryMem : entry ∈ entries) : entries.lookup entry.1 = some entry.2 := by
  induction entries with
  | nil => cases entryMem
  | cons first rest ih =>
      rcases List.nodup_cons.mp differ with ⟨notAgain, differ⟩
      rw [List.lookup_cons]
      rcases List.mem_cons.mp entryMem with rfl | inRest
      · simp
      · have other : (entry.1 == first.1) = false := by
          rw [beq_eq_false_iff_ne]
          intro isFirst
          have again : entry.1 ∈ rest.map (·.1) := List.mem_map_of_mem inRest
          rw [isFirst] at again
          exact notAgain again
        rw [other]
        exact ih differ inRest

/-! ### Entries under the same keys -/

section

variable {related : α → α → Prop}

theorem names_of_forall₂
    (areRelated : List.Forall₂ (fun entry other => other.1 = entry.1 ∧ related entry.2 other.2)
      entries others) : others.map (·.1) = entries.map (·.1) := by
  induction areRelated with
  | nil => rfl
  | cons first _ ih => rw [List.map_cons, List.map_cons, first.1, ih]

/-- What is looked up under the same keys is related as the values under them are. -/
theorem lookup_of_forall₂
    (areRelated : List.Forall₂ (fun entry other => other.1 = entry.1 ∧ related entry.2 other.2)
      entries others) (key : String) :
    Option.Rel related (entries.lookup key) (others.lookup key) := by
  induction areRelated with
  | nil => exact .none
  | @cons entry other _ _ first _ ih =>
      rcases entry with ⟨name, value⟩
      rcases other with ⟨otherName, otherValue⟩
      rcases first with ⟨sameName, isRelated⟩
      obtain rfl : otherName = name := sameName
      rw [List.lookup_cons, List.lookup_cons]
      cases key == otherName with
      | true => exact .some isRelated
      | false => exact ih

end

end JsonTables
