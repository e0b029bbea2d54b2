import JsonTables.Shape
import Mathlib

/-!
# Induction on shapes

A shape holds shapes in lists: of fields, of slots, and of the fields of types.
What holds of a shape whenever it holds of the shapes in it holds of every shape.  The
columns of such a list depend on the names in it and on the columns of the shapes.
-/

namespace JsonTables.Shape

section

variable {motive : Shape → Prop}
  (leaf : ∀ leaf, motive (.leaf leaf))
  (object : ∀ fields rules, (∀ field ∈ fields, motive field.2) →
    motive (.object (.record fields rules)))
  (array : ∀ element acceptance, motive element → motive (.array element acceptance))
  (keyValue : ∀ key value acceptance, motive key → motive value →
    motive (.keyValue key value acceptance))
  (tuple : ∀ slots acceptance, (∀ slot ∈ slots, motive slot) →
    motive (.tuple slots acceptance))
  (typed : ∀ rules shared variants, (∀ field ∈ shared, motive field.2) →
    (∀ variant ∈ variants, ∀ field ∈ variant.2.fields, motive field.2) →
    motive (.typed rules shared variants))
  (any : motive .any)
  (skip : ∀ acceptance, motive (.skip acceptance))

include leaf object array keyValue tuple typed any skip

set_option linter.unusedSectionVars false in
mutual

/-- Induction on a shape; one may assume the statement for every shape in it. -/
@[elab_as_elim, induction_eliminator]
theorem induction : (shape : Shape) → motive shape
  | .leaf scalar => leaf scalar
  | .object (.record fields rules) => object fields rules (inductionFields fields)
  | .array element acceptance => array element acceptance (induction element)
  | .keyValue key value acceptance =>
      keyValue key value acceptance (induction key) (induction value)
  | .tuple slots acceptance => tuple slots acceptance (inductionSlots slots)
  | .typed rules shared variants =>
      typed rules shared variants (inductionFields shared) (inductionVariants variants)
  | .any => any
  | .skip acceptance => skip acceptance
termination_by structural shape => shape

theorem inductionFields : (fields : List (String × Shape)) → ∀ field ∈ fields, motive field.2
  | [] => by simp
  | (name, shape) :: rest => by
      rw [List.forall_mem_cons]
      exact ⟨induction shape, inductionFields rest⟩
termination_by structural fields => fields

theorem inductionSlots : (slots : List Shape) → ∀ slot ∈ slots, motive slot
  | [] => by simp
  | slot :: rest => by
      rw [List.forall_mem_cons]
      exact ⟨induction slot, inductionSlots rest⟩
termination_by structural slots => slots

theorem inductionVariants : (variants : List (String × ObjectShape)) →
    ∀ variant ∈ variants, ∀ field ∈ variant.2.fields, motive field.2
  | [] => by simp
  | (tag, .record fields rules) :: rest => by
      rw [List.forall_mem_cons]
      exact ⟨inductionFields fields, inductionVariants rest⟩
termination_by structural variants => variants

end

end

/-! ### Columns of lists -/

section

variable {related : Shape → Shape → Prop}
  (sameColumns : ∀ {shape other}, related shape other → other.columns = shape.columns)

include sameColumns

theorem fieldColumns_of_forall₂ {fields others : List (String × Shape)}
    (areRelated : List.Forall₂ (fun field other => other.1 = field.1 ∧ related field.2 other.2)
      fields others) : fieldColumns others = fieldColumns fields := by
  induction areRelated with
  | nil => rfl
  | cons first _ ih => simp only [fieldColumns, first.1, sameColumns first.2, ih]

theorem slotColumns_of_forall₂ {slots others : List Shape}
    (areRelated : List.Forall₂ related slots others) (position : Nat) :
    slotColumns position others = slotColumns position slots := by
  induction areRelated generalizing position with
  | nil => rfl
  | cons first _ ih => simp only [slotColumns, sameColumns first, ih]

theorem tupleColumns_of_forall₂ {slots others : List Shape}
    (areRelated : List.Forall₂ related slots others) (acceptance otherAcceptance : Acceptance) :
    (tuple others otherAcceptance).columns = (tuple slots acceptance).columns := by
  cases areRelated with
  | nil => rfl
  | cons first rest =>
      cases rest with
      | nil => simpa only [columns] using sameColumns first
      | cons second more =>
          exact slotColumns_of_forall₂ sameColumns (.cons first (.cons second more)) 0

end

theorem variantColumns_of_forall₂ {related : ObjectShape → ObjectShape → Prop}
    (sameColumns : ∀ {record other}, related record other →
      objectColumns other = objectColumns record)
    {variants others : List (String × ObjectShape)}
    (areRelated : List.Forall₂ (fun variant other => other.1 = variant.1 ∧
      related variant.2 other.2) variants others) :
    variantColumns others = variantColumns variants := by
  induction areRelated with
  | nil => rfl
  | cons first _ ih => simp only [variantColumns, first.1, sameColumns first.2, ih]

end JsonTables.Shape
