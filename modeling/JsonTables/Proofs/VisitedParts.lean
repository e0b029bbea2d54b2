import JsonTables.Proofs.AskedParts
import JsonTables.Proofs.ReadableKinds

/-!
# Visited parts

Where a shape reads a value, the parts that it asks ask theirs, down to the leaves.  A leaf that
cannot read its value is one of those that were visited, and where the whole has been read, so
has every part.  So whatever is wrong with a document of a valid shape, no reader has met a
kind of values that it does not know, and a shape stands in for an object or a list only where
there is none.
-/

namespace JsonTables

/-- Whether an error says that a reader does not know the kind of a value. -/
def ValueError.IsWrongKind (error : ValueError) : Prop :=
  ∃ kind target, error.misfit = .scalar (.wrongKind kind target)

/-- The reader of a valid leaf knows the kind of any value that the leaf accepts. -/
theorem Leaf.not_isWrongKind_of_read {leaf : Leaf} (readsAccepted : (Shape.leaf leaf).ReadsAccepted)
    {path : Path} {value? : Option Json} {error : ValueError}
    (fails : leaf.read path value? = .error error) : ¬error.IsWrongKind := by
  rintro ⟨kind, target, isWrongKind⟩
  unfold Leaf.read at fails
  split at fails
  · split at fails <;> cases fails
    cases isWrongKind
  · split at fails <;> cases fails
    cases isWrongKind
  · rename_i value notNull
    split at fails
    · rename_i accepted
      have readable := readsAccepted _ rfl value.kind accepted
      split at fails
      · cases fails
      · rename_i fault isFault
        cases fails
        cases isWrongKind
        exact knowsKind_readValue readable notNull _ kind target isFault
    · cases fails
      cases isWrongKind

namespace Shape

/-! ### Visited shapes -/

/-- Whether a shape is asked to read a value, or none, where another reads one: it is the
other itself, or a part that the other asks comes to it. -/
inductive Visited (node : Shape) (ownPath : Path) (own? : Option Json) :
    Shape → Path → Option Json → Prop
  | self : Visited node ownPath own? node ownPath own?
  | inside {shape part : Shape} {path partPath : Path} {value? part? : Option Json}
      (asks : Asks shape path value? part partPath part?)
      (below : Visited node ownPath own? part partPath part?) :
      Visited node ownPath own? shape path value?

theorem Asks.notLeaf {shape part : Shape} {path partPath : Path} {value? part? : Option Json}
    (asks : Asks shape path value? part partPath part?) : ∀ scalar, shape ≠ leaf scalar := by
  rintro scalar rfl
  cases asks

theorem Asks.isValid {shape part : Shape} {path partPath : Path} {value? part? : Option Json}
    (asks : Asks shape path value? part partPath part?) (valid : shape.IsValid) :
    part.IsValid := by
  cases asks with
  | field fieldMem => exact valid.part (field_mem_parts fieldMem)
  | fieldAlike _ fieldMem => exact valid.part (field_mem_parts fieldMem)
  | item => exact valid.part List.mem_cons_self
  | key => exact valid.part List.mem_cons_self
  | value => exact valid.part (List.mem_cons_of_mem _ List.mem_cons_self)
  | slot _ isSlot => exact valid.part (List.mem_of_getElem? isSlot)
  | slotAlike _ isSlot => exact valid.part (List.mem_of_getElem? isSlot)
  | shared _ fieldMem => exact valid.part (shared_mem_parts fieldMem)
  | variant _ recordMem fieldMem =>
      exact (valid.part (variant_mem_parts recordMem)).part (field_mem_parts fieldMem)

theorem Visited.isValid {node shape : Shape} {ownPath path : Path} {own? value? : Option Json}
    (visited : Visited node ownPath own? shape path value?) (valid : shape.IsValid) :
    node.IsValid := by
  induction visited with
  | self => exact valid
  | inside asks _ ih => exact ih (asks.isValid valid)

/-- Where a shape has read a value, so has every shape that was visited. -/
theorem Visited.isRead {node shape : Shape} {ownPath path : Path} {own? value? : Option Json}
    (visited : Visited node ownPath own? shape path value?) {cells : List Cell}
    (isRead : shape.read path value? = .ok cells) : ∃ own, node.read ownPath own? = .ok own := by
  induction visited generalizing cells with
  | self => exact ⟨cells, isRead⟩
  | inside asks _ ih =>
      rcases (madeOf_read asks.notLeaf _ _).ok cells isRead _ ⟨_, _, _, asks, rfl⟩ with
        ⟨partCells, partRead⟩
      exact ih partRead

/-- What holds of a shape whenever it holds of the parts that it may ask holds of every shape. -/
@[elab_as_elim]
theorem induction_on_asked {motive : Shape → Prop}
    (step : ∀ shape, (∀ path value? part partPath part?,
      Asks shape path value? part partPath part? → motive part) → motive shape)
    (shape : Shape) : motive shape := by
  induction shape with
  | leaf scalar =>
      apply step
      intro _ _ _ _ _ asks
      exact absurd rfl (asks.notLeaf scalar)
  | object fields rules ih =>
      apply step
      intro _ _ _ _ _ asks
      cases asks with
      | field fieldMem => exact ih _ fieldMem
      | fieldAlike _ fieldMem => exact ih _ fieldMem
  | array element acceptance ih =>
      apply step
      intro _ _ _ _ _ asks
      cases asks with
      | item => exact ih
  | keyValue key value acceptance keyIh valueIh =>
      apply step
      intro _ _ _ _ _ asks
      cases asks with
      | key => exact keyIh
      | value => exact valueIh
  | tuple slots acceptance ih =>
      apply step
      intro _ _ _ _ _ asks
      cases asks with
      | slot _ isSlot => exact ih _ (List.mem_of_getElem? isSlot)
      | slotAlike _ isSlot => exact ih _ (List.mem_of_getElem? isSlot)
  | typed rules shared variants sharedIh variantsIh =>
      apply step
      intro _ _ _ _ _ asks
      cases asks with
      | shared _ fieldMem => exact sharedIh _ fieldMem
      | variant _ recordMem fieldMem => exact variantsIh _ recordMem _ fieldMem
  | any =>
      apply step
      intro _ _ _ _ _ asks
      cases asks
  | skip acceptance =>
      apply step
      intro _ _ _ _ _ asks
      cases asks

/-- A fault with the value of a leaf is the fault of a leaf that was visited. -/
theorem exists_visited_of_error (shape : Shape) : ∀ path value? fault,
    shape.read path value? = .error fault → fault.IsOfLeaf →
      ∃ scalar ownPath own?, Visited (leaf scalar) ownPath own? shape path value? ∧
        scalar.read ownPath own? = .error fault := by
  induction shape using induction_on_asked with
  | step shape ih =>
      intro path value? fault fails ofLeaf
      by_cases isLeaf : ∃ scalar, shape = leaf scalar
      · rcases isLeaf with ⟨scalar, rfl⟩
        simp only [read, Except.bind_eq_error_iff] at fails
        rcases fails with leafFails | ⟨_, _, ⟨⟩⟩
        exact ⟨scalar, path, value?, .self, leafFails⟩
      · have notLeaf : ∀ scalar, shape ≠ leaf scalar :=
          fun scalar isScalar => isLeaf ⟨scalar, isScalar⟩
        rcases (madeOf_read notLeaf path value?).error fault fails ofLeaf with
          ⟨part, partPath, part?, asks, partFails⟩
        rcases ih _ _ _ _ _ asks partPath part? fault partFails.symm ofLeaf with
          ⟨scalar, ownPath, own?, below, leafFails⟩
        exact ⟨scalar, ownPath, own?, .inside asks below, leafFails⟩

theorem accepts_of_checkKind {shape : Shape} {path : Path} {value : Json}
    (passes : shape.checkKind path (some value) = .ok ()) : shape.accepts value.kind = true := by
  simp only [checkKind] at passes
  split at passes
  · assumption
  · cases passes

theorem contains_of_readLeaf {scalar : Leaf} {path : Path} {value : Json} {cell : Cell}
    (isRead : scalar.read path (some value) = .ok cell) :
    scalar.acceptance.desired.contains value.kind = true := by
  simp only [Leaf.read] at isRead
  split at isRead
  · rename_i noValue
    cases noValue
  · rename_i isNull
    cases isNull
    split at isRead
    · assumption
    · cases isRead
  · rename_i isValue
    cases isValue
    split at isRead
    · assumption
    · cases isRead

/-- A shape that has read a value accepts its kind. -/
theorem accepts_of_read {shape : Shape} {path : Path} {value : Json} {cells : List Cell}
    (isRead : shape.read path (some value) = .ok cells) : shape.accepts value.kind = true := by
  cases shape with
  | leaf scalar =>
      simp only [read, Except.bind_eq_ok_iff] at isRead
      rcases isRead with ⟨cell, cellRead, _⟩
      exact contains_of_readLeaf cellRead
  | any => rfl
  | _ =>
      simp only [read] at isRead
      exact accepts_of_checkKind (Except.check_bind_eq_ok_iff.mp isRead).1

theorem eq_null_of_noObject {value : Json}
    (readable : (KindSet.ofList [.object, .null]).contains value.kind = true)
    (noObject : ∀ entries, some value ≠ some (.object entries)) : some value = some .null := by
  rcases Json.isObject_or_isNull readable with ⟨entries, rfl⟩ | rfl
  · exact absurd rfl (noObject entries)
  · rfl

theorem eq_null_of_noArray {value : Json}
    (readable : (KindSet.ofList [.array, .null]).contains value.kind = true)
    (noArray : ∀ items, some value ≠ some (.array items)) : some value = some .null := by
  rcases Json.isArray_or_isNull readable with ⟨items, rfl⟩ | rfl
  · exact absurd rfl (noArray items)
  · rfl

/-- A shape that can read what it accepts looks into every value that it accepts, null apart. -/
theorem eq_none_or_null_of_fallsBack {shape : Shape} (readsAccepted : shape.ReadsAccepted)
    {path : Path} {value? : Option Json} (passes : shape.checkKind path value? = .ok ())
    (fallsBack : FallsBack shape value?) : value? = none ∨ value? = some .null := by
  cases value? with
  | none => exact .inl rfl
  | some value =>
      have accepted := accepts_of_checkKind passes
      right
      cases shape with
      | leaf scalar => exact fallsBack.elim
      | any => exact fallsBack.elim
      | skip acceptance => exact fallsBack.elim
      | object record => exact eq_null_of_noObject (readsAccepted _ rfl _ accepted) fallsBack
      | keyValue key value _ =>
          exact eq_null_of_noObject (readsAccepted _ rfl _ accepted) fallsBack
      | typed rules _ _ => exact eq_null_of_noObject (readsAccepted _ rfl _ accepted) fallsBack
      | array element _ => exact eq_null_of_noArray (readsAccepted _ rfl _ accepted) fallsBack
      | tuple slots _ => exact eq_null_of_noArray (readsAccepted _ rfl _ accepted) fallsBack

/-! ### Documents -/

theorem not_isWrongKind_of_read {shape : Shape} (valid : shape.IsValid) {path : Path}
    {value? : Option Json} {error : ValueError} (fails : shape.read path value? = .error error) :
    ¬error.IsWrongKind := by
  rintro ⟨kind, target, isWrongKind⟩
  rcases exists_visited_of_error shape path value? error fails ⟨_, isWrongKind⟩ with
    ⟨scalar, ownPath, own?, visited, leafFails⟩
  have leafValid := visited.isValid valid
  exact Leaf.not_isWrongKind_of_read leafValid.readsAccepted leafFails ⟨kind, target, isWrongKind⟩

/-- A document has rows just where its shape can be read of it as a whole. -/
theorem readRows_like_read (shape : Shape) (value? : Option Json) :
    Except.Rel Eq (fun _ _ => True) (Layout.readRows shape value?) (shape.read [] value?) := by
  cases shape with
  | array element acceptance =>
      simp only [Layout.readRows, ownRow_eq (fill_eq element), read]
      refine (Except.Rel.refl (fun _ => rfl) _).bind ?_
      intro _ _ _ _
      rcases value? with _ | value
      · exact .ok trivial
      · cases value with
        | array items =>
            dsimp only
            cases readItems element.read [] 0 items with
            | ok rows => exact .ok trivial
            | error fault => exact .error rfl
        | _ => exact .ok trivial
  | _ =>
      simp only [Layout.readRows, ownRow_eq (fill_eq _)]
      cases read _ [] value? with
      | ok cells => exact .ok trivial
      | error fault => exact .error rfl

/-- No branch that a check rules out is ever taken where a valid shape reads a value: no
reader of a leaf meets a kind that it does not know, and an object, a list or a tuple whose
check has passed stands in for its parts just where there is no value or null.  So where rows
have been read, every value that has been visited is of a kind that its shape accepts. -/
theorem impossible_branches_are_never_taken {shape : Shape} (valid : shape.IsValid) (path : Path)
    (value? : Option Json) :
    (∀ node ownPath own?, Visited node ownPath own? shape path value? →
      (∀ scalar, node = leaf scalar → ∀ error, scalar.read ownPath own? = .error error →
        ¬error.IsWrongKind) ∧
      (node.checkKind ownPath own? = .ok () → FallsBack node own? →
        own? = none ∨ own? = some .null)) ∧
    (∀ row,
      (∀ error, shape.fill path value? row = .error error → ¬error.IsWrongKind) ∧
      ∀ filled, shape.fill path value? row = .ok filled → ∀ node ownPath own,
        Visited node ownPath (some own) shape path value? → node.accepts own.kind = true) ∧
    ∀ naming layout, Layout.ofShape shape naming = .ok layout →
      (∀ error, layout.rows value? = .error (.value error) → ¬error.IsWrongKind) ∧
      ∀ rows, layout.rows value? = .ok rows → ∀ node ownPath own,
        Visited node ownPath (some own) shape [] value? → node.accepts own.kind = true := by
  refine ⟨?_, ?_, ?_⟩
  · intro node ownPath own? visited
    have readsAccepted := (visited.isValid valid).readsAccepted
    constructor
    · rintro scalar rfl error fails
      exact Leaf.not_isWrongKind_of_read readsAccepted fails
    · exact eq_none_or_null_of_fallsBack readsAccepted
  · intro row
    constructor
    · intro error fails
      rw [fill_eq] at fails
      cases isRead : shape.read path value? with
      | ok cells =>
          rw [isRead] at fails
          cases fails
      | error fault =>
          rw [isRead] at fails
          cases fails
          exact not_isWrongKind_of_read valid isRead
    · intro filled isFilled node ownPath own visited
      rcases fill_eq_ok_iff.mp isFilled with ⟨cells, isRead, _⟩
      rcases visited.isRead isRead with ⟨ownCells, ownRead⟩
      exact accepts_of_read ownRead
  · intro naming layout made
    have alike := readRows_like_read shape value?
    simp only [Layout.rows, Layout.eq_of_ofShape made]
    generalize rowsRead : Layout.readRows shape value? = outcome at alike
    generalize isRead : shape.read [] value? = reading at alike
    cases alike with
    | ok _ =>
        refine ⟨nofun, ?_⟩
        intro rows _ node ownPath own visited
        rcases visited.isRead isRead with ⟨ownCells, ownRead⟩
        exact accepts_of_read ownRead
    | error same =>
        subst same
        refine ⟨?_, nofun⟩
        intro error fails
        cases fails
        exact not_isWrongKind_of_read valid isRead

/-- A list of objects for a leaf that reads texts as numbers, and one that does not fit. -/
theorem impossible_branches_of_a_list_are_never_taken :
    let number : Shape := leaf { kind := .int, acceptance := ⟨true, .ofList [.int, .string]⟩ }
    let inner : Shape := object (.record [("n", number)]
      { allowUnknown := true, acceptance := ⟨false, .ofList [.object]⟩ })
    let shape : Shape := array inner ⟨false, .ofList [.array]⟩
    let value : Json := .array [.object [("n", .string "7")], .object []]
    let unfit : Json := .array [.object [("n", .string "x")]]
    let layout : Layout := ⟨shape, [⟨["n"], .int⟩], ["n"]⟩
    shape.IsValid ∧ Layout.ofShape shape {} = .ok layout ∧
      layout.rows (some value) = .ok [[.int 7], [.null]] ∧
      Visited number [.field "n", .index 0] (some (.string "7")) shape [] (some value) ∧
      number.accepts .string = true ∧
      ∃ error, layout.rows (some unfit) = .error (.value error) ∧ ¬error.IsWrongKind := by
  intro number inner shape value unfit layout
  have numberValid : number.IsValid := isValid_iff.mpr ⟨by cbv, List.forall_mem_nil _⟩
  have innerValid : inner.IsValid :=
    isValid_iff.mpr ⟨by cbv, List.forall_mem_singleton.mpr numberValid⟩
  have valid : shape.IsValid :=
    isValid_iff.mpr ⟨by cbv, List.forall_mem_singleton.mpr innerValid⟩
  have made : Layout.ofShape shape {} = .ok layout := by cbv
  have areRows : layout.rows (some value) = .ok [[.int 7], [.null]] := by cbv
  have inItem : Visited number [.field "n", .index 0] (some (.string "7")) inner [.index 0]
      (some (.object [("n", .string "7")])) :=
    .inside (@Asks.field _ _ _ ("n", number) _ List.mem_cons_self (by cbv)) .self
  have visited : Visited number [.field "n", .index 0] (some (.string "7")) shape []
      (some value) := .inside (@Asks.item inner _ _ _ 0 _ rfl) inItem
  have runs := impossible_branches_are_never_taken valid []
  have misfits : layout.rows (some unfit) = .error (.value ⟨[.field "n", .index 0],
      .scalar (.notInteger "x" "int" .invalidDigit)⟩) := by cbv
  refine ⟨valid, made, areRows, visited, ?_, _, misfits, ?_⟩
  · exact ((runs (some value)).2.2 {} layout made).2 _ areRows _ _ _ visited
  · exact ((runs (some unfit)).2.2 {} layout made).1 _ misfits

end Shape

end JsonTables
