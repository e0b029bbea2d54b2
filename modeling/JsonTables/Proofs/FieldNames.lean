import JsonTables.Proofs.Outcome
import JsonTables.Shape.Check

/-!
# The names of fields

Fields are compared with each other by finitely many names, in either case of
letters if one of the two fields ignores it.  A key is compared with the names of
one field, in the field's own case rule.  The two agree: the check of an object
passes just if its rules are for its fields and no key is a name of it twice.
The argument holds for every way of taking a text to lower case.
-/

namespace JsonTables

/-- Of a list whose items are related in order, those at two places are so. -/
theorem pairwise_iff_getElem? {α : Type} {related : α → α → Prop} {items : List α} :
    items.Pairwise related ↔
      ∀ ⦃i j : Nat⦄ ⦃first second : α⦄, i < j → items[i]? = some first → items[j]? = some second →
        related first second := by
  rw [List.pairwise_iff_getElem]
  constructor
  · intro pairwise i j first second before firstAt secondAt
    rcases List.getElem?_eq_some_iff.mp firstAt with ⟨iLt, rfl⟩
    rcases List.getElem?_eq_some_iff.mp secondAt with ⟨jLt, rfl⟩
    exact pairwise i j iLt jLt before
  · intro pairwise i j iLt jLt before
    exact pairwise before (List.getElem?_eq_getElem iLt) (List.getElem?_eq_getElem jLt)

namespace FieldMatching

variable {lower : String → String}

@[simp]
theorem sameName_self (ignoresCase : Bool) (name : String) :
    sameName ignoresCase name name lower = true := by
  cases ignoresCase <;> simp [sameName]

/-- Names that are one with a key are one with each other. -/
theorem sameName_of_sameName {ignoresCase : Bool} {first second key : String}
    (isFirst : sameName ignoresCase first key lower = true)
    (isSecond : sameName ignoresCase second key lower = true) :
    sameName ignoresCase first second lower = true := by
  cases ignoresCase <;> simp_all [sameName]

/-- Two names clash just if some key is the one by its rule and the other by its own. -/
theorem sameName_or_iff {first second : String} {firstIgnores secondIgnores : Bool} :
    sameName (firstIgnores || secondIgnores) first second lower = true ↔
      ∃ key, sameName firstIgnores first key lower = true ∧
        sameName secondIgnores second key lower = true := by
  constructor
  · intro same
    cases firstIgnores with
    | false =>
        refine ⟨first, by simp [sameName], ?_⟩
        cases secondIgnores <;> simp_all [sameName]
    | true =>
        refine ⟨second, ?_, ?_⟩
        · simpa [sameName] using same
        · cases secondIgnores <;> simp [sameName]
  · rintro ⟨key, isFirst, isSecond⟩
    cases firstIgnores <;> cases secondIgnores <;> simp_all [sameName]

/-- Aliases do not overlap just if no two of them, or of the names before, are one name. -/
theorem overlappingAlias?_eq_none_iff {matching : FieldMatching} {before rest : List String} :
    overlappingAlias? lower matching before rest = none ↔
      (∀ name ∈ before, ∀ other ∈ rest,
        sameName matching.ignoresCase name other lower = false) ∧
      rest.Pairwise fun name other =>
        sameName matching.ignoresCase name other lower = false := by
  induction rest generalizing before with
  | nil => simp [overlappingAlias?]
  | cons other rest ih =>
      by_cases taken : before.any fun name =>
          sameName matching.ignoresCase name other lower
      · simp only [overlappingAlias?, taken, if_true, reduceCtorEq, false_iff]
        rintro ⟨apart, _⟩
        rcases List.any_eq_true.mp taken with ⟨name, nameMem, same⟩
        simp [apart name nameMem other (by simp)] at same
      · have free : ∀ name ∈ before,
            sameName matching.ignoresCase name other lower = false := by
          simpa using taken
        simp only [overlappingAlias?, taken, Bool.false_eq_true, if_false, ih,
          List.pairwise_cons, List.forall_mem_cons, List.forall_mem_append,
          List.not_mem_nil, false_implies, implies_true, and_true]
        constructor
        · rintro ⟨⟨beforeRest, otherRest⟩, restApart⟩
          exact ⟨fun name nameMem => ⟨free name nameMem, beforeRest name nameMem⟩,
            otherRest, restApart⟩
        · rintro ⟨beforeAll, otherRest, restApart⟩
          exact ⟨⟨fun name nameMem => (beforeAll name nameMem).2, otherRest⟩, restApart⟩

/-- Two fields do not overlap just if no key is accepted by both. -/
theorem overlap?_eq_none_iff {name otherName : String} {matching other : FieldMatching} :
    overlap? lower name matching otherName other = none ↔
      ∀ key, matching.accepts name key lower = true →
        other.accepts otherName key lower = false := by
  simp only [overlap?, List.find?_eq_none, List.any_eq_true, not_exists, not_and,
    sameName_or_iff, accepts, List.any_eq_false]
  grind

end FieldMatching

namespace ObjectShape

variable {lower : String → String}

/-- Whether no key is accepted by two fields, each given by its name and matching. -/
def Apart (lower : String → String) (first second : String × FieldMatching) : Prop :=
  ∀ key, first.2.accepts first.1 key lower = true → second.2.accepts second.1 key lower = false

/-- Whether no two names of a field are one name. -/
def NamesApart (lower : String → String) (field : String × FieldMatching) : Prop :=
  (field.2.names field.1).Pairwise fun name other =>
    FieldMatching.sameName field.2.ignoresCase name other lower = false

theorem Apart.symm {first second : String × FieldMatching}
    (apart : Apart lower first second) : Apart lower second first := by
  intro key isSecond
  by_contra isFirst
  have notSecond := apart key (by simpa using isFirst)
  simp [isSecond] at notSecond

theorem overlapBefore?_eq_none_iff {field : String × FieldMatching}
    {before : List (String × FieldMatching)} :
    overlapBefore? lower field.1 field.2 before = none ↔
      ∀ earlier ∈ before, Apart lower field earlier := by
  induction before with
  | nil => simp [overlapBefore?]
  | cons earlier before ih =>
      rw [List.forall_mem_cons, ← ih]
      cases overlap : FieldMatching.overlap? lower field.1 field.2 earlier.1 earlier.2 with
      | some taken =>
          have clash : ¬Apart lower field earlier := by
            intro apart
            simp [FieldMatching.overlap?_eq_none_iff.mpr apart] at overlap
          simp [overlapBefore?, overlap, clash]
      | none =>
          have apart : Apart lower field earlier :=
            FieldMatching.overlap?_eq_none_iff.mp overlap
          simp [overlapBefore?, overlap, apart]

theorem refuse?_eq_ok_iff {α : Type} {found : Option α} {fault : α → ShapeFault} {done : Unit} :
    refuse? found fault = .ok done ↔ found = none := by
  cases found <;> simp [refuse?]

/-- The names of fields pass just if those of one field are apart, and those of two. -/
theorem checkNames_eq_ok_iff {before fields : List (String × FieldMatching)} :
    checkNames lower before fields = .ok () ↔
      (∀ field ∈ fields, NamesApart lower field) ∧
      (∀ field ∈ fields, ∀ earlier ∈ before, Apart lower field earlier) ∧
      fields.Pairwise (Apart lower) := by
  induction fields generalizing before with
  | nil => simp [checkNames]
  | cons field fields ih =>
      have namesApart : FieldMatching.overlappingAlias? lower field.2 [field.1]
          field.2.aliases = none ↔ NamesApart lower field := by
        simp [FieldMatching.overlappingAlias?_eq_none_iff, NamesApart, FieldMatching.names]
      simp only [checkNames, Except.bind_eq_ok_iff, refuse?_eq_ok_iff, namesApart,
        overlapBefore?_eq_none_iff, ih, List.forall_mem_cons, List.forall_mem_append,
        List.not_mem_nil, false_implies, implies_true, and_true, List.pairwise_cons]
      constructor
      · rintro ⟨_, fieldNames, _, fieldBefore, names, later, pairwise⟩
        refine ⟨⟨fieldNames, names⟩, ⟨fieldBefore, ?_⟩, ?_, pairwise⟩
        · intro other otherMem
          exact (later other otherMem).1
        · intro other otherMem
          exact (later other otherMem).2.symm
      · rintro ⟨⟨fieldNames, names⟩, ⟨fieldBefore, later⟩, fieldLater, pairwise⟩
        refine ⟨(), fieldNames, (), fieldBefore, names, ?_, pairwise⟩
        intro other otherMem
        exact ⟨later other otherMem, (fieldLater other otherMem).symm⟩

/-- Whether a key is, in the case rule of its field, the name at a place: of which
field, and where among the field's name and aliases. -/
def NamedAt (object : ObjectShape) (lower : String → String) (key : String)
    (place : Nat × Nat) : Prop :=
  ∃ field name, object.matchings[place.1]? = some field ∧
    (field.2.names field.1)[place.2]? = some name ∧
    FieldMatching.sameName field.2.ignoresCase name key lower = true

theorem exists_namedAt_of_accepts {object : ObjectShape} {key : String} {index : Nat}
    {field : String × FieldMatching} (fieldAt : object.matchings[index]? = some field)
    (accepted : field.2.accepts field.1 key lower = true) :
    ∃ position, object.NamedAt lower key (index, position) := by
  rcases List.any_eq_true.mp accepted with ⟨name, nameMem, same⟩
  rcases List.mem_iff_getElem?.mp nameMem with ⟨position, nameAt⟩
  exact ⟨position, field, name, fieldAt, nameAt, same⟩

theorem accepts_of_namedAt {object : ObjectShape} {key : String} {place : Nat × Nat}
    {field : String × FieldMatching} (fieldAt : object.matchings[place.1]? = some field)
    (named : object.NamedAt lower key place) :
    field.2.accepts field.1 key lower = true := by
  rcases named with ⟨other, name, otherAt, nameAt, same⟩
  obtain rfl : field = other := by simpa [fieldAt] using otherAt
  exact List.any_eq_true.mpr ⟨name, List.mem_of_getElem? nameAt, same⟩

/-- Where fields and their names are apart, a key is the name at one place at most. -/
theorem namedAt_unique_of_apart {object : ObjectShape}
    (names : ∀ field ∈ object.matchings, NamesApart lower field)
    (fields : object.matchings.Pairwise (Apart lower)) {key : String} {first second : Nat × Nat}
    (isFirst : object.NamedAt lower key first) (isSecond : object.NamedAt lower key second) :
    first = second := by
  have fieldNotBefore : ∀ {place other : Nat × Nat}, object.NamedAt lower key place →
      object.NamedAt lower key other → ¬place.1 < other.1 := by
    intro place other named otherNamed before
    obtain ⟨field, _, fieldAt, -, -⟩ := id named
    obtain ⟨otherField, _, otherAt, -, -⟩ := id otherNamed
    have notAccepted := pairwise_iff_getElem?.mp fields before fieldAt otherAt key
      (accepts_of_namedAt fieldAt named)
    simp [accepts_of_namedAt otherAt otherNamed] at notAccepted
  have nameNotBefore : ∀ {place other : Nat × Nat}, object.NamedAt lower key place →
      object.NamedAt lower key other → place.1 = other.1 → ¬place.2 < other.2 := by
    rintro place other ⟨field, name, fieldAt, nameAt, same⟩
      ⟨otherField, otherName, otherAt, otherNameAt, otherSame⟩ sameField before
    obtain rfl : field = otherField := by simpa [← sameField, fieldAt] using otherAt
    have apart := pairwise_iff_getElem?.mp (names field (List.mem_of_getElem? fieldAt))
      before nameAt otherNameAt
    simp [FieldMatching.sameName_of_sameName same otherSame] at apart
  have sameField : first.1 = second.1 := by
    have notBefore := fieldNotBefore isFirst isSecond
    have notAfter := fieldNotBefore isSecond isFirst
    omega
  have sameName : first.2 = second.2 := by
    have notBefore := nameNotBefore isFirst isSecond sameField
    have notAfter := nameNotBefore isSecond isFirst sameField.symm
    omega
  exact Prod.ext sameField sameName

/-- Where a key is the name at one place at most, the names of a field are apart. -/
theorem namesApart_of_namedAt_unique {object : ObjectShape}
    (unique : ∀ key first second, object.NamedAt lower key first →
      object.NamedAt lower key second → first = second)
    {field : String × FieldMatching} (fieldMem : field ∈ object.matchings) :
    NamesApart lower field := by
  rcases List.mem_iff_getElem?.mp fieldMem with ⟨index, fieldAt⟩
  apply pairwise_iff_getElem?.mpr
  intro i j name other before nameAt otherAt
  by_contra same
  have samePlace := unique other (index, i) (index, j)
    ⟨field, name, fieldAt, nameAt, by simpa using same⟩
    ⟨field, other, fieldAt, otherAt, by simp⟩
  simp only [Prod.mk.injEq, true_and] at samePlace
  omega

/-- Where a key is the name at one place at most, fields are apart. -/
theorem apart_of_namedAt_unique {object : ObjectShape}
    (unique : ∀ key first second, object.NamedAt lower key first →
      object.NamedAt lower key second → first = second) :
    object.matchings.Pairwise (Apart lower) := by
  apply pairwise_iff_getElem?.mpr
  intro i j field other before fieldAt otherAt key accepted
  by_contra otherAccepted
  rcases exists_namedAt_of_accepts fieldAt accepted with ⟨position, named⟩
  rcases exists_namedAt_of_accepts otherAt (by simpa using otherAccepted) with
    ⟨otherPosition, otherNamed⟩
  have samePlace := unique key _ _ named otherNamed
  simp only [Prod.mk.injEq] at samePlace
  omega

/-- The check of an object's fields passes just if its matchings are for its fields
and no key is a name at two places. -/
theorem checkFields_eq_ok_iff {object : ObjectShape} :
    object.checkFields lower = .ok () ↔
      (∀ entry ∈ object.rules.matching, ∃ field ∈ object.fields, field.1 = entry.1) ∧
      ∀ key first second, object.NamedAt lower key first →
        object.NamedAt lower key second → first = second := by
  simp only [checkFields, Except.bind_eq_ok_iff, refuse?_eq_ok_iff, checkNames_eq_ok_iff,
    List.find?_eq_none, List.forall_mem_map, List.not_mem_nil, false_implies, implies_true,
    true_and, Bool.not_eq_true', exists_const]
  apply and_congr
  · simp
  · constructor
    · rintro ⟨names, fields⟩ key first second isFirst isSecond
      exact namedAt_unique_of_apart names fields isFirst isSecond
    · intro unique
      exact ⟨fun field fieldMem => namesApart_of_namedAt_unique unique fieldMem,
        apart_of_namedAt_unique unique⟩

/-- A key is accepted by one field of an object that passes. -/
theorem index_eq_of_accepts {object : ObjectShape} (passed : object.checkFields lower = .ok ())
    {key : String} {i j : Nat} {field other : String × FieldMatching}
    (fieldAt : object.matchings[i]? = some field) (otherAt : object.matchings[j]? = some other)
    (accepted : field.2.accepts field.1 key lower = true)
    (otherAccepted : other.2.accepts other.1 key lower = true) : i = j := by
  rcases exists_namedAt_of_accepts fieldAt accepted with ⟨position, named⟩
  rcases exists_namedAt_of_accepts otherAt otherAccepted with ⟨otherPosition, otherNamed⟩
  have samePlace := (checkFields_eq_ok_iff.mp passed).2 key _ _ named otherNamed
  exact congrArg Prod.fst samePlace

/-- The check of an object's fields is exact for every way of taking a text to lower
case, so no key is read by two fields of an object that passes. -/
theorem checkFields_exact (object : ObjectShape) (lower : String → String) :
    (object.checkFields lower = .ok () ↔
      (∀ entry ∈ object.rules.matching, ∃ field ∈ object.fields, field.1 = entry.1) ∧
      ∀ key first second, object.NamedAt lower key first →
        object.NamedAt lower key second → first = second) ∧
    (object.checkFields lower = .ok () →
      ∀ (key : String) (i j : Nat) (field other : String × FieldMatching),
        object.matchings[i]? = some field → object.matchings[j]? = some other →
        field.2.accepts field.1 key lower = true →
        other.2.accepts other.1 key lower = true → i = j) := by
  refine ⟨checkFields_eq_ok_iff, ?_⟩
  intro passed key i j field other fieldAt otherAt accepted otherAccepted
  exact index_eq_of_accepts passed fieldAt otherAt accepted otherAccepted

/-- A field in either case of letters beside one with an alias. -/
theorem checkFields_two_fields :
    let object : ObjectShape :=
      .record [("id", .any), ("name", .any)]
        { allowUnknown := false, acceptance := ⟨false, .ofList [.object]⟩
          matching := [("id", { ignoresCase := true }), ("name", { aliases := ["Name"] })] }
    object.checkFields Text.toLower = .ok () ∧
      ∀ (key : String) (i j : Nat) (field other : String × FieldMatching),
        object.matchings[i]? = some field → object.matchings[j]? = some other →
        field.2.accepts field.1 key Text.toLower = true →
        other.2.accepts other.1 key Text.toLower = true → i = j := by
  intro object
  have passed : object.checkFields Text.toLower = .ok () := by cbv
  exact ⟨passed, (checkFields_exact object Text.toLower).2 passed⟩

end ObjectShape

end JsonTables
