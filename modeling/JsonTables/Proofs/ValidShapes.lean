import JsonTables.Proofs.FieldNames
import JsonTables.Proofs.ShapeInduction

/-!
# Valid shapes

The check of a shape looks at one node and trusts the parts of it.  A shape is valid if
every node of it passes: the shape itself, the shapes in it, and the objects of types
as well, which are held by an object with types without being shapes of their own.

What the check asks for is stated here as rules of its own.
-/

namespace JsonTables

theorem Json.mem_of_mem_putEntry {α : Type} {entries : List (String × α)} {key : String}
    {value : α} {entry : String × α} (entryMem : entry ∈ putEntry entries key value) :
    entry ∈ entries ∨ entry = (key, value) := by
  unfold putEntry at entryMem
  split at entryMem
  · rcases List.mem_map.mp entryMem with ⟨known, knownMem, isEntry⟩
    split at isEntry
    · exact .inr isEntry.symm
    · exact .inl (isEntry ▸ knownMem)
  · rcases List.mem_append.mp entryMem with inEntries | isLast
    · exact .inl inEntries
    · exact .inr (List.mem_singleton.mp isLast)

/-- Of repeated entries some are left out, and none is new. -/
theorem Json.mem_of_mem_lastOccurrences {α : Type} {entries : List (String × α)}
    {entry : String × α} (entryMem : entry ∈ lastOccurrences entries) : entry ∈ entries := by
  have fromEither : ∀ known : List (String × α),
      entry ∈ entries.foldl (fun known entry => putEntry known entry.1 entry.2) known →
        entry ∈ known ∨ entry ∈ entries := by
    clear entryMem
    induction entries with
    | nil =>
        intro known inKnown
        exact .inl inKnown
    | cons first rest ih =>
        intro known inFold
        rcases ih _ inFold with inPut | inRest
        · rcases mem_of_mem_putEntry inPut with inKnown | isFirst
          · exact .inl inKnown
          · exact .inr (isFirst ▸ List.mem_cons_self)
        · exact .inr (List.mem_cons_of_mem first inRest)
  rcases fromEither [] entryMem with inNone | inEntries
  · cases inNone
  · exact inEntries

namespace Shape

/-! ### Nodes -/

/-- The shapes that a shape holds, and the objects of its types. -/
def parts : Shape → List Shape
  | leaf _ | any | skip _ => []
  | object record => record.fields.map (·.2)
  | array element _ => [element]
  | keyValue key value _ => [key, value]
  | tuple slots _ => slots
  | typed _ shared variants => shared.map (·.2) ++ variants.map fun variant => object variant.2

/-- What holds of a shape whenever it holds of its parts holds of every shape. -/
@[elab_as_elim]
theorem induction_on_parts {motive : Shape → Prop}
    (step : ∀ shape, (∀ part ∈ shape.parts, motive part) → motive shape) (shape : Shape) :
    motive shape := by
  have object_of : ∀ record : ObjectShape, (∀ field ∈ record.fields, motive field.2) →
      motive (object record) := fun record fields => step _ (List.forall_mem_map.mpr fields)
  induction shape with
  | leaf scalar => exact step _ (by simp [parts])
  | object fields rules ih => exact object_of _ ih
  | array element acceptance ih => exact step _ (by simpa [parts] using ih)
  | keyValue key value acceptance ihKey ihValue =>
      exact step _ (by simpa [parts] using And.intro ihKey ihValue)
  | tuple slots acceptance ih => exact step _ ih
  | typed rules shared variants ihShared ihVariants =>
      apply step
      simp only [parts, List.forall_mem_append, List.forall_mem_map]
      exact ⟨ihShared, fun variant variantMem => object_of _ (ihVariants variant variantMem)⟩
  | any => exact step _ (by simp [parts])
  | skip acceptance => exact step _ (by simp [parts])

/-- Whether a shape is a node of another: the other itself, or a node of a part. -/
inductive IsNodeOf (node : Shape) : Shape → Prop
  | self : IsNodeOf node node
  | inside {part shape : Shape} (partMem : part ∈ shape.parts) (inner : IsNodeOf node part) :
      IsNodeOf node shape

/-- What holds of every node of a shape holds of the shape and of every node of its parts. -/
theorem forall_isNodeOf_iff {p : Shape → Prop} {shape : Shape} :
    (∀ node, IsNodeOf node shape → p node) ↔
      p shape ∧ ∀ part ∈ shape.parts, ∀ node, IsNodeOf node part → p node := by
  constructor
  · intro holds
    refine ⟨holds shape .self, ?_⟩
    intro part partMem node isNode
    exact holds node (.inside partMem isNode)
  · rintro ⟨holds, parts⟩ node isNode
    cases isNode with
    | self => exact holds
    | inside partMem inner => exact parts _ partMem node inner

/-- Whether every node of a shape passes its check. -/
def IsValid (shape : Shape) : Prop :=
  ∀ node, IsNodeOf node shape → node.check = .ok ()

/-- A shape is valid just if it passes and its parts are valid. -/
theorem isValid_iff {shape : Shape} :
    shape.IsValid ↔ shape.check = .ok () ∧ ∀ part ∈ shape.parts, part.IsValid :=
  forall_isNodeOf_iff

theorem IsValid.part {part shape : Shape} (valid : shape.IsValid) (partMem : part ∈ shape.parts) :
    part.IsValid :=
  (isValid_iff.mp valid).2 part partMem

/-! ### What is checked -/

/-- Whether a shape can read every kind of tokens that it accepts. -/
def ReadsAccepted (shape : Shape) : Prop :=
  ∀ desired, shape.desired? = some desired →
    ∀ kind, desired.contains kind = true → shape.parseable.contains kind = true

end Shape

/-- Whether ways of finding fields are given for an object's fields alone, and no key is
a name of it twice. -/
structure ObjectShape.IsUnambiguous (record : ObjectShape) : Prop where
  matching : ∀ entry ∈ record.rules.matching, ∃ field ∈ record.fields, field.1 = entry.1
  names : ∀ key first second, record.NamedAt Text.toLower key first →
    record.NamedAt Text.toLower key second → first = second

/-- Whether an object may be the object of a type beside some names: the shared fields
and the field of the type. -/
structure ObjectShape.IsVariantBeside (record : ObjectShape) (names : List String) : Prop where
  readsAccepted : (Shape.object record).ReadsAccepted
  unambiguous : record.IsUnambiguous
  mayMiss : record.rules.acceptance.allowMissing = true
  unknown : ∀ name ∈ names, record.knows name = false

namespace Shape

/-- The rules that are particular to a kind of shape. -/
def ObeysOwnRules : Shape → Prop
  | leaf scalar =>
      (scalar.onNull.isSome = true → scalar.acceptance.desired.contains .null = true) ∧
        (scalar.onMissing.isSome = true → scalar.acceptance.allowMissing = true)
  | object record => record.IsUnambiguous
  | keyValue key _ _ => key.width = 1
  | typed rules shared variants =>
      rules.typeField ∉ shared.map (·.1) ∧
        ∀ variant ∈ variants, variant.2.IsVariantBeside (shared.map (·.1) ++ [rules.typeField])
  | _ => True

theorem checkKinds_eq_ok_iff {shape : Shape} :
    shape.checkKinds = .ok () ↔ shape.ReadsAccepted := by
  have memAll : ∀ kind : Kind, kind ∈ Kind.all := by
    intro kind
    cases kind <;> decide
  simp only [checkKinds, ObjectShape.refuse?_eq_ok_iff, List.find?_eq_none, ReadsAccepted]
  cases shape.desired? with
  | none => simp
  | some desired => simp [KindSet.toList, memAll]

theorem checkFields_iff_isUnambiguous {record : ObjectShape} :
    record.checkFields = .ok () ↔ record.IsUnambiguous := by
  rw [ObjectShape.checkFields_eq_ok_iff]
  exact ⟨fun ⟨matching, names⟩ => ⟨matching, names⟩, fun ⟨matching, names⟩ => ⟨matching, names⟩⟩

theorem checkVariants_eq_ok_iff {names : List String} {variants : List (String × ObjectShape)} :
    checkVariants names variants = .ok () ↔
      ∀ variant ∈ variants, variant.2.IsVariantBeside names := by
  induction variants with
  | nil => simp [checkVariants]
  | cons variant rest ih =>
      rcases variant with ⟨tag, record⟩
      rw [List.forall_mem_cons, ← ih]
      simp only [checkVariants, checkObject, bind_assoc, Except.check_bind_eq_ok_iff,
        checkKinds_eq_ok_iff, checkFields_iff_isUnambiguous]
      cases mayMiss : record.rules.acceptance.allowMissing with
      | false =>
          simp only [Bool.false_eq_true, if_false, Except.throw_eq_error, Except.error_bind,
            reduceCtorEq, and_false, false_iff]
          rintro ⟨isVariant, -⟩
          simp [isVariant.mayMiss] at mayMiss
      | true =>
          simp only [if_true, Except.check_bind_eq_ok_iff, ObjectShape.refuse?_eq_ok_iff,
            List.find?_eq_none, Bool.not_eq_true]
          constructor
          · rintro ⟨readsAccepted, unambiguous, unknown, restPasses⟩
            exact ⟨⟨readsAccepted, unambiguous, mayMiss, unknown⟩, restPasses⟩
          · rintro ⟨⟨readsAccepted, unambiguous, _, unknown⟩, restPasses⟩
            exact ⟨readsAccepted, unambiguous, unknown, restPasses⟩

theorem checkDefaults_leaf_eq_ok_iff {scalar : Leaf} :
    (leaf scalar).checkDefaults = .ok () ↔ (leaf scalar).ObeysOwnRules := by
  simp only [checkDefaults, ObeysOwnRules]
  cases scalar.onNull.isSome <;> cases scalar.onMissing.isSome <;>
    cases scalar.acceptance.desired.contains .null <;>
    cases scalar.acceptance.allowMissing <;> simp [bind, Except.bind, pure, Except.pure]

/-- The check of a shape passes just if the shape can read what it accepts and obeys the
rules of its kind. -/
theorem check_eq_ok_iff {shape : Shape} :
    shape.check = .ok () ↔ shape.ReadsAccepted ∧ shape.ObeysOwnRules := by
  simp only [check, Except.check_bind_eq_ok_iff, checkKinds_eq_ok_iff]
  apply and_congr_right
  intro _
  cases shape with
  | leaf scalar =>
      rw [checkDefaults_leaf_eq_ok_iff]
      simp [checkParts]
  | object record =>
      simp only [checkDefaults, checkParts, true_and]
      exact checkFields_iff_isUnambiguous
  | keyValue key value acceptance =>
      by_cases single : key.width = 1 <;> simp [checkDefaults, checkParts, ObeysOwnRules, single]
  | typed rules shared variants =>
      by_cases taken : rules.typeField ∈ shared.map (·.1)
      · simp [checkDefaults, checkParts, ObeysOwnRules, taken]
      · simp [checkDefaults, checkParts, ObeysOwnRules, taken, checkVariants_eq_ok_iff]
  | _ => simp [checkDefaults, checkParts, ObeysOwnRules]

/-- The object of a type passes as a shape of its own. -/
theorem check_object_of_isVariantBeside {record : ObjectShape} {names : List String}
    (isVariant : record.IsVariantBeside names) : (object record).check = .ok () :=
  check_eq_ok_iff.mpr ⟨isVariant.readsAccepted, isVariant.unambiguous⟩

theorem checked_eq_ok_iff {shape made : Shape} :
    shape.checked = .ok made ↔ shape.check = .ok () ∧ made = shape := by
  unfold checked
  cases shape.check with
  | error fault => simp
  | ok done => simp [eq_comm]

/-- An object with types is valid if it passes, and so do the shapes in its fields.  The
objects of its types have been checked with it. -/
theorem isValid_typed {rules : VariantRules} {shared : List (String × Shape)}
    {variants : List (String × ObjectShape)}
    (passed : (typed rules shared variants).check = .ok ())
    (sharedValid : ∀ field ∈ shared, field.2.IsValid)
    (fieldsValid : ∀ variant ∈ variants, ∀ field ∈ variant.2.fields, field.2.IsValid) :
    (typed rules shared variants).IsValid := by
  refine isValid_iff.mpr ⟨passed, ?_⟩
  have isVariant := (check_eq_ok_iff.mp passed).2.2
  simp only [parts, List.forall_mem_append, List.forall_mem_map]
  refine ⟨sharedValid, ?_⟩
  intro variant variantMem
  refine isValid_iff.mpr ⟨check_object_of_isVariantBeside (isVariant variant variantMem), ?_⟩
  simp only [parts, List.forall_mem_map]
  exact fieldsValid variant variantMem

theorem isValid_of_checked {shape made : Shape} (isMade : shape.checked = .ok made)
    (parts : ∀ part ∈ shape.parts, part.IsValid) : made.IsValid := by
  rcases checked_eq_ok_iff.mp isMade with ⟨passed, rfl⟩
  exact isValid_iff.mpr ⟨passed, parts⟩

/-- The shapes that a shape holds; of the objects of types only the shapes in them. -/
def held : Shape → List Shape
  | typed _ shared variants =>
      shared.map (·.2) ++ variants.flatMap fun variant => variant.2.fields.map (·.2)
  | shape => shape.parts

theorem isValid_of_checked_held {shape made : Shape} (isMade : shape.checked = .ok made)
    (valid : ∀ part ∈ shape.held, part.IsValid) : made.IsValid := by
  cases shape with
  | typed rules shared variants =>
      rcases checked_eq_ok_iff.mp isMade with ⟨passed, rfl⟩
      simp only [held, List.forall_mem_append, List.forall_mem_map,
        List.forall_mem_flatMap] at valid
      exact isValid_typed passed valid.1 valid.2
  | _ => exact isValid_of_checked isMade valid

theorem isValid_any : any.IsValid :=
  isValid_iff.mpr ⟨rfl, by simp [parts]⟩

end Shape

end JsonTables
