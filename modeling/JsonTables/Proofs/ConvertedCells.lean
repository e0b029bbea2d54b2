import JsonTables.Column
import JsonTables.Proofs.RowTypes

/-!
# Converted cells

A cell that is converted to a type is null or of that type.  An array that says it is of the
type is taken as it is, and nothing looks at its elements; an array of another element type is
converted element by element.  So the cells of a column are of its type at every depth just if
the arrays that were taken as they are hold what they say.  The arrays that documents are read
into do.
-/

namespace Except

universe u v

variable {α : Type v} {β ε : Type u}

/-- Steps over items have results just if each has its own. -/
theorem mapM_eq_ok_iff {step : α → Except ε β} {items : List α} {results : List β} :
    items.mapM step = .ok results ↔
      List.Forall₂ (fun item result => step item = .ok result) items results := by
  induction items generalizing results with
  | nil => rw [List.mapM_nil, pure_eq_ok_iff, List.forall₂_nil_left_iff, eq_comm]
  | cons item rest ih =>
      simp only [List.mapM_cons, bind_eq_ok_iff, pure_eq_ok_iff, ih]
      constructor
      · rintro ⟨result, isResult, others, areOthers, rfl⟩
        exact .cons isResult areOthers
      · intro areResults
        cases areResults with
        | cons isResult areOthers => exact ⟨_, isResult, _, areOthers, rfl⟩

end Except

namespace JsonTables

theorem forall_mem_iff_of_forall₂ {α β : Type} {related : α → β → Prop} {holds : α → Prop}
    {holds' : β → Prop} {items : List α} {others : List β}
    (areRelated : List.Forall₂ related items others)
    (each : ∀ item other, related item other → (holds' other ↔ holds item)) :
    (∀ other ∈ others, holds' other) ↔ ∀ item ∈ items, holds item := by
  induction areRelated with
  | nil => simp
  | cons isRelated _ ih => simp only [List.forall_mem_cons, each _ _ isRelated, ih]

namespace Cell

/-- Whether a cell is null or of a type, as are the elements of an array of the component of the
type.  Every cell is an object. -/
def Suits : DataType → Cell → Prop
  | .object, _ => True
  | .array component, cell =>
      cell = null ∨
        ∃ elements, cell = array component elements ∧ ∀ element ∈ elements, Suits component element
  | type, cell => cell = null ∨ cell.type? = some type

/-- Whether the arrays that conversion to a type takes as they are have the elements that they
say they have. -/
def KeepsWhatSuits : DataType → Cell → Prop
  | .array component, array elementType elements =>
      if elementType = component then ∀ element ∈ elements, element.Suits component
      else ∀ element ∈ elements, KeepsWhatSuits component element
  | _, _ => True

theorem suits_null (type : DataType) : null.Suits type := by
  cases type with
  | object => trivial
  | _ => exact .inl rfl

theorem suits_array_iff {component elementType : DataType} {elements : List Cell} :
    (array elementType elements).Suits (.array component) ↔
      elementType = component ∧ ∀ element ∈ elements, element.Suits component := by
  simp only [Suits]
  constructor
  · rintro (isNull | ⟨others, same, suit⟩)
    · cases isNull
    · cases same
      exact ⟨rfl, suit⟩
  · rintro ⟨rfl, suit⟩
    exact .inr ⟨elements, rfl, suit⟩

theorem type?_eq_array {cell : Cell} {component : DataType}
    (isArray : cell.type? = some (.array component)) :
    ∃ elements, cell = array component elements := by
  cases cell <;> cases isArray
  exact ⟨_, rfl⟩

/-- A cell of a type that is no array type has nothing to look into. -/
theorem suits_of_type? {type : DataType} (noArray : type.component? = none) {cell : Cell}
    (isType : cell = null ∨ cell.type? = some type) : cell.Suits type := by
  cases type with
  | object => trivial
  | array component => cases noArray
  | _ => exact isType

/-! ### What conversion comes to -/

theorem type?_of_convert {type : DataType} {cell result : Cell}
    (isConverted : cell.convert type = .ok result) :
    type.component? = none ∧ (type = .object ∨ result.type? = some type) := by
  cases type with
  | boolean => cases isConverted
  | array component => cases isConverted
  | object => exact ⟨rfl, .inl rfl⟩
  | string =>
      cases cell <;> cases isConverted
      exact ⟨rfl, .inr rfl⟩
  | bigDecimal =>
      simp only [convert] at isConverted
      split at isConverted
      · cases isConverted
        exact ⟨rfl, .inr rfl⟩
      · cases isConverted
  | _ =>
      simp only [convert, Except.bind_eq_ok_iff, Except.pure_eq_ok_iff] at isConverted
      rcases isConverted with ⟨value, _, rfl⟩
      exact ⟨rfl, .inr rfl⟩

/-- How a cell is converted to a type. -/
inductive Converted : DataType → Cell → Cell → Prop
  /-- A cell that is null or of the type is taken as it is. -/
  | kept {type : DataType} {cell : Cell} (isType : cell = null ∨ cell.type? = some type) :
      Converted type cell cell
  /-- An array of another element type is converted element by element. -/
  | elements {component elementType : DataType} {elements results : List Cell}
      (differs : elementType ≠ component)
      (areConverted : List.Forall₂ (fun element result => element.coerce component = .ok result)
        elements results) :
      Converted (.array component) (array elementType elements) (array component results)
  /-- Any other cell becomes one of the type; every cell is an object. -/
  | other {type : DataType} {cell result : Cell} (noArray : type.component? = none)
      (isType : type = .object ∨ result.type? = some type) : Converted type cell result

theorem converted_of_coerce {type : DataType} {cell result : Cell}
    (isCoerced : cell.coerce type = .ok result) : Converted type cell result := by
  rw [coerce.eq_def] at isCoerced
  split at isCoerced
  · rename_i isType
    cases isCoerced
    rw [Bool.or_eq_true, beq_iff_eq] at isType
    apply Converted.kept
    apply isType.imp_left
    intro isNull
    cases cell <;> first | rfl | cases isNull
  · rename_i noType
    split at isCoerced
    · rename_i component elementType elements
      simp only [Except.bind_eq_ok_iff, Except.pure_eq_ok_iff, Except.mapM_eq_ok_iff] at isCoerced
      rcases isCoerced with ⟨results, areConverted, rfl⟩
      apply Converted.elements _ areConverted
      rintro rfl
      simp [type?] at noType
    · have isType := type?_of_convert isCoerced
      exact .other isType.1 isType.2

/-- A converted cell is of the type at every depth just if the arrays that were taken as they
are hold what they say. -/
theorem suits_iff_of_coerce {type : DataType} {cell result : Cell}
    (isCoerced : cell.coerce type = .ok result) :
    result.Suits type ↔ cell.KeepsWhatSuits type := by
  induction type generalizing cell result with
  | array component ih =>
      cases converted_of_coerce isCoerced with
      | kept isType =>
          rcases isType with rfl | isArray
          · exact iff_of_true (suits_null _) trivial
          · rcases type?_eq_array isArray with ⟨elements, rfl⟩
            simp [suits_array_iff, KeepsWhatSuits]
      | elements differs areConverted =>
          rw [suits_array_iff, KeepsWhatSuits, if_neg differs, and_iff_right rfl]
          apply forall_mem_iff_of_forall₂ areConverted
          intro element other isConverted
          exact ih isConverted
      | other noArray _ => cases noArray
  | object => exact iff_of_true trivial trivial
  | _ =>
      refine iff_of_true ?_ trivial
      cases converted_of_coerce isCoerced with
      | kept isType => exact suits_of_type? rfl isType
      | other _ isType =>
          rcases isType with isObject | isType
          · cases isObject
          · exact suits_of_type? rfl (.inr isType)

theorem type?_of_coerce {type : DataType} {cell result : Cell}
    (isCoerced : cell.coerce type = .ok result) :
    type = .object ∨ result = null ∨ result.type? = some type := by
  cases converted_of_coerce isCoerced with
  | kept isType => exact .inr isType
  | elements => exact .inr (.inr rfl)
  | other _ isType => exact isType.imp_right .inr

/-! ### Cells that are read -/

theorem suits_of_conforms {type : DataType} {cell : Cell} (conforms : cell.Conforms type) :
    cell.Suits type := by
  induction type generalizing cell with
  | object => trivial
  | array component ih =>
      cases cell with
      | null => exact suits_null _
      | array elementType elements =>
          rw [conforms_array] at conforms
          rw [suits_array_iff]
          refine ⟨conforms.1, ?_⟩
          intro element elementMem
          exact ih (conforms.2 element elementMem)
      | _ => simp [Conforms, type?] at conforms
  | _ =>
      cases cell with
      | null => exact suits_null _
      | _ => exact .inr (by simpa [Conforms] using conforms)

/-- A cell that a document is read into keeps nothing but what suits, whatever it is converted
to. -/
theorem keepsWhatSuits_of_conforms {own type : DataType} {cell : Cell}
    (conforms : cell.Conforms own) : cell.KeepsWhatSuits type := by
  induction type generalizing cell own with
  | array component ih =>
      cases cell with
      | array elementType elements =>
          cases own with
          | array ownComponent =>
              rw [conforms_array] at conforms
              rcases conforms with ⟨rfl, conform⟩
              rw [KeepsWhatSuits]
              split
              · rename_i same
                subst same
                intro element elementMem
                exact suits_of_conforms (conform element elementMem)
              · intro element elementMem
                exact ih (conform element elementMem)
          | _ => simp [Conforms, type?] at conforms
      | _ => trivial
  | _ => trivial

end Cell

namespace Column

theorem coerceFrom_eq_ok_iff {type : DataType} {row : Nat} {cells results : List Cell} :
    coerceFrom type row cells = .ok results ↔
      List.Forall₂ (fun cell result => cell.coerce type = .ok result) cells results := by
  -- the row has no say in a result, only in the text of a failure
  rw [← Except.mapM_eq_ok_iff]
  induction cells generalizing row results with
  | nil => rw [coerceFrom, List.mapM_nil, Except.pure_eq_ok_iff, Except.ok.injEq]
  | cons cell rest ih =>
      simp only [coerceFrom, List.mapM_cons, Except.bind_eq_ok_iff, Except.pure_eq_ok_iff,
        Except.mapError_eq_ok_iff, ih]

/-- A column that is made has the type that is wanted, and the cells that it was made from,
converted to it. -/
theorem of_eq_ok {name : String} {type : DataType} {component : Option DataType}
    {kind : ColumnKind} {cells : List Cell} {column : Column}
    (isMade : of name type component kind cells = .ok column) :
    column.definition.type = type ∧
      List.Forall₂ (fun cell result => cell.coerce type = .ok result) cells column.cells := by
  simp only [of, Except.mapError_eq_ok_iff, Except.bind_eq_ok_iff, Except.pure_eq_ok_iff,
    coerceFrom_eq_ok_iff] at isMade
  rcases isMade with ⟨definition, isDefined, results, areConverted, rfl⟩
  refine ⟨?_, areConverted⟩
  simp only [ColumnDefinition.of] at isDefined
  split at isDefined
  · cases isDefined
  · simp only [Except.bind_eq_ok_iff, Except.pure_eq_ok_iff] at isDefined
    rcases isDefined with ⟨_, _, _, _, rfl⟩
    rfl

/-- A column has a cell for each that it was made from, and each is null or of the type of the
column.  They are so at every depth just if the arrays that were taken as they are hold what they
say. -/
theorem cells_suit_their_column {name : String} {type : DataType} {component : Option DataType}
    {kind : ColumnKind} {cells : List Cell} {column : Column}
    (isMade : of name type component kind cells = .ok column) :
    column.definition.type = type ∧ column.cells.length = cells.length ∧
      (∀ cell ∈ column.cells, type = .object ∨ cell = .null ∨ cell.type? = some type) ∧
      ((∀ cell ∈ column.cells, cell.Suits type) ↔ ∀ cell ∈ cells, cell.KeepsWhatSuits type) := by
  rcases of_eq_ok isMade with ⟨isType, areConverted⟩
  refine ⟨isType, areConverted.length_eq.symm, ?_, ?_⟩
  · have ofType : (∀ cell ∈ column.cells, type = .object ∨ cell = .null ∨
        cell.type? = some type) ↔ ∀ cell ∈ cells, True := by
      apply forall_mem_iff_of_forall₂ areConverted
      intro cell result isConverted
      exact iff_true_intro (Cell.type?_of_coerce isConverted)
    exact ofType.mpr fun _ _ => trivial
  · apply forall_mem_iff_of_forall₂ areConverted
    intro cell result isConverted
    exact Cell.suits_iff_of_coerce isConverted

/-- Arrays of integers, some of which are of the wanted type already. -/
theorem nested_integers_suit_their_column :
    let type : DataType := .array (.array .long)
    let cells : List Cell :=
      [.array (.array .int) [.array .int [.int 7, .null], .null], .null,
        .array (.array .long) [.array .long [.long 8]]]
    let converted : List Cell :=
      [.array (.array .long) [.array .long [.long 7, .null], .null], .null,
        .array (.array .long) [.array .long [.long 8]]]
    of "numbers" type none .normal cells =
        .ok ⟨⟨"numbers", type, some (.array .long), .normal⟩, converted⟩ ∧
      ∀ cell ∈ converted, cell.Suits type := by
  intro type cells converted
  have isMade : of "numbers" type none .normal cells =
      .ok ⟨⟨"numbers", type, some (.array .long), .normal⟩, converted⟩ := by rfl
  refine ⟨isMade, (cells_suit_their_column isMade).2.2.2.mpr ?_⟩
  have ofInts : (Cell.array (.array .int) [.array .int [.int 7, .null], .null]).Conforms
      (.array (.array .int)) := by simp [Cell.Conforms, Cell.type?]
  have ofLongs : (Cell.array (.array .long) [.array .long [.long 8]]).Conforms
      (.array (.array .long)) := by simp [Cell.Conforms, Cell.type?]
  simp only [cells, List.forall_mem_cons]
  exact ⟨Cell.keepsWhatSuits_of_conforms ofInts, trivial,
    Cell.keepsWhatSuits_of_conforms ofLongs, by simp⟩

/-- An array that says it has integers is a cell of a column of such arrays, whatever it has. -/
theorem array_is_taken_at_its_word :
    let type : DataType := .array .int
    let liar : Cell := .array .int [.string "lie"]
    of "numbers" type none .normal [liar] =
        .ok ⟨⟨"numbers", type, some .int, .normal⟩, [liar]⟩ ∧
      ¬liar.Suits type := by
  intro type liar
  refine ⟨by rfl, ?_⟩
  rw [Cell.suits_array_iff]
  rintro ⟨_, suit⟩
  simpa [Cell.Suits, Cell.type?] using suit (.string "lie")

end Column

end JsonTables
