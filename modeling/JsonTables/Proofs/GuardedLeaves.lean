import JsonTables.Proofs.RowTypes

/-!
# Guarded leaves

A leaf that refuses null, or has a value for it, and refuses an absent value, or has a value
for it, never leaves a null cell.  That holds through any depth of objects and tuples above
the leaf: where one of them is null or absent, so is every part of it, and the leaf is asked
for each.  An object or a tuple fills in no nulls of its own, and puts what the leaf gives in
the leaf's own column.
-/

namespace JsonTables

/-- Whether a leaf refuses null or has a value for it, and so for a value that is absent. -/
structure Leaf.IsGuarded (leaf : Leaf) : Prop where
  null : leaf.acceptance.desired.contains .null = false ∨ leaf.onNull.isSome = true
  missing : leaf.acceptance.allowMissing = false ∨ leaf.onMissing.isSome = true

namespace Leaf

theorem isNull_cell (kind : LeafKind) (value : kind.Value) : (kind.cell value).isNull = false := by
  cases kind <;> rfl

theorem isNull_cellOr {kind : LeafKind} {value? : Option kind.Value}
    (isSome : value?.isSome = true) : (cellOr kind value?).isNull = false := by
  cases value? with
  | none => cases isSome
  | some value => exact isNull_cell kind value

/-- A guarded leaf gives a cell that is not null, whatever the value and whether there is one. -/
theorem IsGuarded.isNull_of_read {leaf : Leaf} (guarded : leaf.IsGuarded) {path : Path}
    {value? : Option Json} {cell : Cell} (isRead : leaf.read path value? = .ok cell) :
    cell.isNull = false := by
  simp only [read] at isRead
  split at isRead
  · split at isRead
    · rename_i allowed
      cases isRead
      apply isNull_cellOr
      exact guarded.missing.resolve_left (by simp [allowed])
    · cases isRead
  · split at isRead
    · rename_i accepted
      cases isRead
      apply isNull_cellOr
      exact guarded.null.resolve_left (by simp [accepted])
    · cases isRead
  · split at isRead
    · split at isRead
      · cases isRead
        exact isNull_cell leaf.kind _
      · cases isRead
    · cases isRead

end Leaf

namespace Shape

/-! ### Where a leaf stands -/

/-- Whether a leaf fills the column of a shape that stands so many columns behind the first
and has a path, and is reached through fields of objects and slots of tuples alone. -/
inductive LeafAt (scalar : Leaf) : Shape → Nat → List String → Prop
  | self : LeafAt scalar (leaf scalar) 0 []
  | field {before after : List (String × Shape)} {name : String} {shape : Shape}
      {rules : ObjectRules} {offset : Nat} {column : List String}
      (inner : LeafAt scalar shape offset column) :
      LeafAt scalar (object (.record (before ++ (name, shape) :: after) rules))
        ((fieldColumns before).length + offset) (name :: column)
  | onlySlot {slot : Shape} {acceptance : Acceptance} {offset : Nat} {column : List String}
      (inner : LeafAt scalar slot offset column) :
      LeafAt scalar (tuple [slot] acceptance) offset column
  | slot {before after : List Shape} {slot : Shape} {acceptance : Acceptance} {offset : Nat}
      {column : List String} (inner : LeafAt scalar slot offset column)
      (hasOthers : before ≠ [] ∨ after ≠ []) :
      LeafAt scalar (tuple (before ++ slot :: after) acceptance)
        ((slotColumns 0 before).length + offset) (toString before.length :: column)

theorem fieldColumns_append (before after : List (String × Shape)) :
    fieldColumns (before ++ after) = fieldColumns before ++ fieldColumns after := by
  induction before with
  | nil => rfl
  | cons field rest ih => simp only [List.cons_append, fieldColumns, ih, List.append_assoc]

theorem slotColumns_append (position : Nat) (before after : List Shape) :
    slotColumns position (before ++ after) =
      slotColumns position before ++ slotColumns (position + before.length) after := by
  induction before generalizing position with
  | nil => rfl
  | cons slot rest ih =>
      have samePlace : position + 1 + rest.length = position + (rest.length + 1) := by omega
      simp only [List.cons_append, slotColumns, ih, List.append_assoc, List.length_cons, samePlace]

/-- The number of a slot is in the path of its columns, not in how many there are. -/
theorem length_slotColumns (position other : Nat) (slots : List Shape) :
    (slotColumns position slots).length = (slotColumns other slots).length := by
  induction slots generalizing position other with
  | nil => rfl
  | cons slot rest ih =>
      simp only [slotColumns, List.length_append, List.length_map, ih (position + 1) (other + 1)]

theorem columns_tuple {slots : List Shape} (acceptance : Acceptance) (notOne : slots.length ≠ 1) :
    columns (tuple slots acceptance) = slotColumns 0 slots := by
  match slots with
  | [] => rfl
  | [_] => exact absurd rfl notOne
  | _ :: _ :: _ => rfl

theorem getElem?_under {columns : List ShapeColumn} {offset : Nat} {column : ShapeColumn}
    (isColumn : columns[offset]? = some column) (before after : List ShapeColumn) (name : String) :
    (before ++ (columns.map (.under name) ++ after))[before.length + offset]? =
      some (column.under name) := by
  have inColumns : offset < (columns.map (ShapeColumn.under name)).length := by
    rw [List.length_map]
    exact (List.getElem?_eq_some_iff.mp isColumn).1
  rw [List.getElem?_append_right (by omega), Nat.add_sub_cancel_left,
    List.getElem?_append_left inColumns, List.getElem?_map, isColumn, Option.map_some]

/-- The column of a leaf has its path, and the type of its kind. -/
theorem LeafAt.column_eq {scalar : Leaf} {shape : Shape} {offset : Nat} {column : List String}
    (isLeaf : LeafAt scalar shape offset column) :
    shape.columns[offset]? = some ⟨column, scalar.kind.type⟩ := by
  induction isLeaf with
  | self => rfl
  | field inner ih =>
      simp only [columns, objectColumns, fieldColumns_append, fieldColumns]
      exact getElem?_under ih _ _ _
  | onlySlot inner ih => exact ih
  | @slot before after _ _ _ _ inner hasOthers ih =>
      have notOne : before.length + (after.length + 1) ≠ 1 := by
        have := hasOthers.imp List.length_pos_iff.mpr List.length_pos_iff.mpr
        omega
      rw [columns_tuple _ (by simpa using notOne), slotColumns_append, slotColumns, Nat.zero_add]
      exact getElem?_under ih _ _ _

/-! ### What is read of a part -/

/-- The cells of a part stand behind those of the parts before it. -/
theorem prefix_drop_append {front own cells : List Cell} {start : Nat}
    (stands : own <+: cells.drop start) : own <+: (front ++ cells).drop (front.length + start) := by
  rwa [List.drop_length_add_append]

theorem prefix_drop_read {field : String × Shape} {rest : List (String × Shape)} {path : Path}
    {value? : Option Json} {front own cells : List Cell}
    (frontRead : field.2.read path value? = .ok front)
    (stands : own <+: cells.drop (fieldColumns rest).length) :
    own <+: (front ++ cells).drop (fieldColumns (field :: rest)).length := by
  have frontLength := (read_fills field.2 frontRead).length_eq
  rw [fieldColumns, List.length_append, List.length_map, ← frontLength]
  exact prefix_drop_append stands

section

variable {before after : List (String × Shape)} {name : String} {shape : Shape} {path : Path}
  {cells : List Cell}

theorem own_of_readFields {matching : List (String × FieldMatching)} {repeats : RepeatPolicy}
    {entries : List (String × Json)}
    (areRead : readFields (before ++ (name, shape) :: after) matching repeats path entries =
      .ok cells) :
    ∃ value? own, shape.read (.field name :: path) value? = .ok own ∧
      own <+: cells.drop (fieldColumns before).length := by
  induction before generalizing cells with
  | nil =>
      simp only [List.nil_append, readFields, Except.bind_eq_ok_iff, Except.pure_eq_ok_iff]
        at areRead
      rcases areRead with ⟨found, _, own, ownRead, others, _, rfl⟩
      exact ⟨found, own, ownRead, List.prefix_append own others⟩
  | cons field rest ih =>
      simp only [List.cons_append, readFields, Except.bind_eq_ok_iff, Except.pure_eq_ok_iff]
        at areRead
      rcases areRead with ⟨_, _, front, frontRead, others, othersRead, rfl⟩
      rcases ih othersRead with ⟨value?, own, ownRead, stands⟩
      exact ⟨value?, own, ownRead, prefix_drop_read frontRead stands⟩

theorem own_of_readAlike {value? : Option Json}
    (areRead : readAlike (before ++ (name, shape) :: after) path value? = .ok cells) :
    ∃ own, shape.read (.field name :: path) value? = .ok own ∧
      own <+: cells.drop (fieldColumns before).length := by
  induction before generalizing cells with
  | nil =>
      simp only [List.nil_append, readAlike, Except.bind_eq_ok_iff, Except.pure_eq_ok_iff]
        at areRead
      rcases areRead with ⟨own, ownRead, others, _, rfl⟩
      exact ⟨own, ownRead, List.prefix_append own others⟩
  | cons field rest ih =>
      simp only [List.cons_append, readAlike, Except.bind_eq_ok_iff, Except.pure_eq_ok_iff]
        at areRead
      rcases areRead with ⟨front, frontRead, others, othersRead, rfl⟩
      rcases ih othersRead with ⟨own, ownRead, stands⟩
      exact ⟨own, ownRead, prefix_drop_read frontRead stands⟩

end

theorem own_of_readSlots {before after : List Shape} {slot : Shape} {path : Path} {position : Nat}
    {values : List (Option Json)} {cells : List Cell}
    (sameLength : values.length = (before ++ slot :: after).length)
    (areRead : readSlots (before ++ slot :: after) path position values = .ok cells) :
    ∃ place value? own, slot.read (.index place :: path) value? = .ok own ∧
      own <+: cells.drop (slotColumns 0 before).length := by
  induction before generalizing position values cells with
  | nil =>
      cases values with
      | nil => simp at sameLength
      | cons value? values =>
          simp only [List.nil_append, readSlots, Except.bind_eq_ok_iff, Except.pure_eq_ok_iff]
            at areRead
          rcases areRead with ⟨own, ownRead, others, _, rfl⟩
          exact ⟨position, value?, own, ownRead, List.prefix_append own others⟩
  | cons first rest ih =>
      cases values with
      | nil => simp at sameLength
      | cons value? values =>
          simp only [List.cons_append, readSlots, Except.bind_eq_ok_iff, Except.pure_eq_ok_iff]
            at areRead
          rcases areRead with ⟨front, frontRead, others, othersRead, rfl⟩
          have restLength : values.length = (rest ++ slot :: after).length := by
            simpa using sameLength
          rcases ih restLength othersRead with ⟨place, value?, own, ownRead, stands⟩
          refine ⟨place, value?, own, ownRead, ?_⟩
          have frontLength := (read_fills first frontRead).length_eq
          rw [slotColumns, List.length_append, List.length_map, ← frontLength,
            length_slotColumns _ 0]
          exact prefix_drop_append stands

/-- Whatever is read of an object, present or not, each of its fields has been read. -/
theorem own_of_readObject {before after : List (String × Shape)} {name : String} {shape : Shape}
    {rules : ObjectRules} {path : Path} {value? : Option Json} {cells : List Cell}
    (isRead : (object (.record (before ++ (name, shape) :: after) rules)).read path value? =
      .ok cells) :
    ∃ ownPath own? own, shape.read ownPath own? = .ok own ∧
      own <+: cells.drop (fieldColumns before).length := by
  simp only [read, Except.bind_eq_ok_iff, readObject] at isRead
  rcases isRead with ⟨_, _, objectRead⟩
  split at objectRead
  · split at objectRead
    · exact ⟨_, own_of_readFields objectRead⟩
    · split at objectRead
      · cases objectRead
      · exact ⟨_, own_of_readFields objectRead⟩
  · exact ⟨_, _, own_of_readAlike objectRead⟩

/-- Whatever is read of a tuple, present or not, each of its slots has been read. -/
theorem own_of_readTuple {before after : List Shape} {slot : Shape} {acceptance : Acceptance}
    {path : Path} {value? : Option Json} {cells : List Cell}
    (isRead : (tuple (before ++ slot :: after) acceptance).read path value? = .ok cells) :
    ∃ ownPath own? own, slot.read ownPath own? = .ok own ∧
      own <+: cells.drop (slotColumns 0 before).length := by
  simp only [read, Except.bind_eq_ok_iff] at isRead
  rcases isRead with ⟨_, _, tupleRead⟩
  split at tupleRead
  · split at tupleRead
    · rename_i sameLength
      rcases own_of_readSlots (by simpa using sameLength) tupleRead with ⟨place, own⟩
      exact ⟨_, own⟩
    · cases tupleRead
  · rcases own_of_readSlots (List.length_map _) tupleRead with ⟨place, own⟩
    exact ⟨_, own⟩

theorem getElem?_of_prefix_drop {own cells : List Cell} {start offset : Nat} {cell : Cell}
    (stands : own <+: cells.drop start) (isOwn : own[offset]? = some cell) :
    cells[start + offset]? = some cell := by
  rcases stands with ⟨back, isCells⟩
  rw [← List.getElem?_drop, ← isCells,
    List.getElem?_append_left (List.getElem?_eq_some_iff.mp isOwn).1, isOwn]

/-- The cell in the column of a leaf is what the leaf reads of some value, or of none: no
object or tuple above it puts another cell there. -/
theorem LeafAt.isRead {scalar : Leaf} {shape : Shape} {offset : Nat} {column : List String}
    (isLeaf : LeafAt scalar shape offset column) {path : Path} {value? : Option Json}
    {cells : List Cell} (areRead : shape.read path value? = .ok cells) :
    ∃ cell ownPath own?, cells[offset]? = some cell ∧ scalar.read ownPath own? = .ok cell := by
  induction isLeaf generalizing path value? cells with
  | self =>
      simp only [read, Except.bind_eq_ok_iff, Except.pure_eq_ok_iff] at areRead
      rcases areRead with ⟨cell, cellRead, rfl⟩
      exact ⟨cell, path, value?, rfl, cellRead⟩
  | field inner ih =>
      rcases own_of_readObject areRead with ⟨_, _, own, ownRead, stands⟩
      rcases ih ownRead with ⟨cell, ownPath, own?, isCell, cellRead⟩
      exact ⟨cell, ownPath, own?, getElem?_of_prefix_drop stands isCell, cellRead⟩
  | @onlySlot slot _ offset _ inner ih =>
      rcases @own_of_readTuple [] _ _ _ _ _ _ areRead with ⟨_, _, own, ownRead, stands⟩
      rcases ih ownRead with ⟨cell, ownPath, own?, isCell, cellRead⟩
      have isFirst := getElem?_of_prefix_drop stands isCell
      rw [slotColumns, List.length_nil, Nat.zero_add] at isFirst
      exact ⟨cell, ownPath, own?, isFirst, cellRead⟩
  | slot inner hasOthers ih =>
      rcases own_of_readTuple areRead with ⟨_, _, own, ownRead, stands⟩
      rcases ih ownRead with ⟨cell, ownPath, own?, isCell, cellRead⟩
      exact ⟨cell, ownPath, own?, getElem?_of_prefix_drop stands isCell, cellRead⟩

end Shape

namespace Layout

theorem exists_read_of_readItems {read : Path → Option Json → Row} {path : Path} {position : Nat}
    {items : List Json} {rows : List (List Cell)}
    (areRead : Shape.readItems read path position items = .ok rows) :
    ∀ row ∈ rows, ∃ itemPath item, read itemPath (some item) = .ok row := by
  induction items generalizing position rows with
  | nil =>
      cases areRead
      simp
  | cons item rest ih =>
      simp only [Shape.readItems, Except.bind_eq_ok_iff, Except.pure_eq_ok_iff] at areRead
      rcases areRead with ⟨first, firstRead, others, othersRead, rfl⟩
      rw [List.forall_mem_cons]
      exact ⟨⟨_, item, firstRead⟩, ih othersRead⟩

/-- Every row of a document is read of a value of the shape of a row. -/
theorem exists_read_of_readRows {shape : Shape} {value? : Option Json} {rows : List (List Cell)}
    (areRead : readRows shape value? = .ok rows) :
    ∀ row ∈ rows, ∃ path own?, (rowShape shape).read path own? = .ok row := by
  intro row rowMem
  cases shape with
  | array element acceptance =>
      simp only [readRows, Shape.ownRow_eq (Shape.fill_eq element), Except.bind_eq_ok_iff]
        at areRead
      rcases areRead with ⟨_, _, itemsRead⟩
      split at itemsRead
      · rcases exists_read_of_readItems itemsRead row rowMem with ⟨path, item, isRead⟩
        exact ⟨path, some item, isRead⟩
      · cases itemsRead
        cases rowMem
  | _ =>
      simp only [readRows, Shape.ownRow_eq (Shape.fill_eq _), Except.bind_eq_ok_iff,
        Except.pure_eq_ok_iff] at areRead
      rcases areRead with ⟨only, isRead, rfl⟩
      obtain rfl := List.mem_singleton.mp rowMem
      exact ⟨[], value?, isRead⟩

end Layout

namespace Shape

/-- In every row of a document, the cell in the column of a guarded leaf is not null: not for
a value that is null or absent, and not where an object or a tuple above the leaf is, at any
depth. -/
theorem guarded_leaves_are_never_null {shape : Shape} {naming : Naming} {layout : Layout}
    (made : Layout.ofShape shape naming = .ok layout) {scalar : Leaf} {offset : Nat}
    {column : List String} (isLeaf : LeafAt scalar (Layout.rowShape shape) offset column)
    (guarded : scalar.IsGuarded) :
    layout.columns[offset]? = some ⟨column, scalar.kind.type⟩ ∧
      ∀ value? rows, layout.rows value? = .ok rows → ∀ row ∈ rows,
        ∃ cell, row[offset]? = some cell ∧ cell.isNull = false := by
  rw [Layout.eq_of_ofShape made]
  refine ⟨isLeaf.column_eq, ?_⟩
  intro value? rows rowsRead row rowMem
  rcases Layout.exists_read_of_readRows (Except.mapError_eq_ok_iff.mp rowsRead) row rowMem with
    ⟨_, _, rowRead⟩
  rcases isLeaf.isRead rowRead with ⟨cell, _, _, isCell, cellRead⟩
  exact ⟨cell, isCell, guarded.isNull_of_read cellRead⟩

/-- A number with a default for null, in an object in the second slot of a tuple. -/
theorem guarded_number_in_a_tuple_is_never_null :
    let guard : Leaf :=
      { kind := .long, acceptance := ⟨false, .ofList [.int, .null]⟩, onNull := some 7 }
    let acceptance : Acceptance := ⟨true, .ofList [.object, .null]⟩
    let point := object (.record [("x", any), ("n", leaf guard)]
      { allowUnknown := true, acceptance })
    let shape := array (tuple [any, point] ⟨true, .ofList [.array, .null]⟩)
      ⟨true, .ofList [.array]⟩
    let layout : Layout :=
      ⟨shape, [⟨["0"], .object⟩, ⟨["1", "x"], .object⟩, ⟨["1", "n"], .long⟩],
        ["0", "1_x", "1_n"]⟩
    let value : Json := .array [.null, .array [.bool true, .null],
      .array [.null, .object [("n", .number "3")]]]
    let rows : List (List Cell) := [[.null, .null, .long 7],
      [.json (.bool true), .null, .long 7], [.null, .null, .long 3]]
    Layout.ofShape shape {} = .ok layout ∧ LeafAt guard (Layout.rowShape shape) 2 ["1", "n"] ∧
      guard.IsGuarded ∧ layout.rows (some value) = .ok rows ∧
      ∀ row ∈ rows, ∃ cell, row[2]? = some cell ∧ cell.isNull = false := by
  intro guard acceptance point shape layout value rows
  have made : Layout.ofShape shape {} = .ok layout := by cbv
  have inPoint : LeafAt guard point 1 ["n"] := @LeafAt.field guard [("x", any)] [] _ _ _ _ _ .self
  have isLeaf : LeafAt guard (Layout.rowShape shape) 2 ["1", "n"] :=
    @LeafAt.slot guard [any] [] _ _ _ _ inPoint (.inl (by simp))
  have guarded : guard.IsGuarded := ⟨.inr rfl, .inl rfl⟩
  have areRows : layout.rows (some value) = .ok rows := by cbv
  exact ⟨made, isLeaf, guarded, areRows,
    (guarded_leaves_are_never_null made isLeaf guarded).2 (some value) rows areRows⟩

end Shape

end JsonTables
