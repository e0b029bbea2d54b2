import JsonTables.Proofs.LocatedFaults
import JsonTables.Proofs.NestedLists
import JsonTables.Shape.Build

/-!
# Maps as lists of pairs

An object that is read as a map has its keys and its values in two lists of rows, of which the
array cells are made one after the other.  A list of pairs has a single list of rows, in each of
which the cells of the value stand behind the cell of the key.  The columns are the same: a row
of the one list goes on with the row of the other in the same place, and every row is as wide as
its columns, so no key comes beside the value of another entry.
-/

namespace JsonTables.Shape

/-- An entry of an object as a list of its key and its value. -/
def pairOf (entry : String × Json) : Json :=
  .array [.string entry.1, entry.2]

/-! ### Lists of rows -/

/-- Whether a row is read of every value, wherever the value stands. -/
def AreRows (shape : Shape) (values : List Json) (rows : List (List Cell)) : Prop :=
  List.Forall₂ (fun value row => ∀ path, shape.read path (some value) = .ok row) values rows

theorem readItems_eq_ok_iff {shape : Shape} {path : Path} {position : Nat} {items : List Json}
    {rows : List (List Cell)} :
    readItems shape.read path position items = .ok rows ↔ AreRows shape items rows := by
  induction items generalizing position rows with
  | nil => simp [readItems, AreRows, eq_comm]
  | cons item rest ih =>
      simp only [readItems, Except.bind_eq_ok_iff, Except.pure_eq_ok_iff, ih, AreRows,
        List.forall₂_cons_left_iff]
      constructor
      · rintro ⟨row, isRead, others, areRead, rfl⟩
        exact ⟨row, others, fun _ => (read_eq_ok_iff_of_path ..).mp isRead, areRead, rfl⟩
      · rintro ⟨row, others, isRead, areRead, rfl⟩
        exact ⟨row, isRead _, others, areRead, rfl⟩

theorem readEntries_eq_ok_iff {key value : Shape} {path : Path} {entries : List (String × Json)}
    {keyRows valueRows : List (List Cell)} :
    readEntries key.read value.read path entries = .ok (keyRows, valueRows) ↔
      AreRows key (entries.map fun entry => .string entry.1) keyRows ∧
        AreRows value (entries.map (·.2)) valueRows := by
  induction entries generalizing keyRows valueRows with
  | nil => simp [readEntries, AreRows, eq_comm]
  | cons entry rest ih =>
      simp only [readEntries, Except.bind_eq_ok_iff, Except.pure_eq_ok_iff, Prod.exists, ih,
        AreRows, List.map_cons, List.forall₂_cons_left_iff, Prod.mk.injEq]
      constructor
      · rintro ⟨keyRow, keyRead, valueRow, valueRead, keys, values, ⟨keysRead, valuesRead⟩, rfl,
          rfl⟩
        exact ⟨⟨keyRow, keys, fun _ => (read_eq_ok_iff_of_path ..).mp keyRead, keysRead, rfl⟩,
          valueRow, values, fun _ => (read_eq_ok_iff_of_path ..).mp valueRead, valuesRead, rfl⟩
      · rintro ⟨⟨keyRow, keys, keyRead, keysRead, rfl⟩, valueRow, values, valueRead, valuesRead,
          rfl⟩
        exact ⟨keyRow, keyRead _, valueRow, valueRead _, keys, values, ⟨keysRead, valuesRead⟩, rfl,
          rfl⟩

theorem AreRows.length_eq {shape : Shape} {values : List Json} {rows : List (List Cell)}
    (areRows : AreRows shape values rows) : rows.length = values.length :=
  (List.Forall₂.length_eq areRows).symm

theorem AreRows.fills {shape : Shape} {values : List Json} {rows : List (List Cell)}
    (areRows : AreRows shape values rows) : ∀ row ∈ rows, Fills shape.columns row := by
  induction areRows with
  | nil => simp
  | cons isRead _ ih => exact List.forall_mem_cons.mpr ⟨read_fills shape (isRead []), ih⟩

/-! ### Pairs -/

/-- A pair is read as the cells of its key and those of its value. -/
theorem read_pair_eq_ok_iff {key value : Shape} {acceptance : Acceptance}
    (accepts : acceptance.desired.contains .array = true) {entry : String × Json}
    {cells : List Cell} :
    (∀ path, (tuple [key, value] acceptance).read path (some (pairOf entry)) = .ok cells) ↔
      ∃ keyCells valueCells : List Cell,
        (∀ path, key.read path (some (.string entry.1)) = .ok keyCells) ∧
          (∀ path, value.read path (some entry.2) = .ok valueCells) ∧
            cells = keyCells ++ valueCells := by
  have passes : ∀ path, checkKind (tuple [key, value] acceptance) path
      (some (.array [.string entry.1, entry.2])) = .ok () := fun path => if_pos accepts
  have isPair : ∀ path, (tuple [key, value] acceptance).read path (some (pairOf entry)) =
      .ok cells ↔ ∃ keyCells : List Cell,
        key.read (.index 0 :: path) (some (.string entry.1)) = .ok keyCells ∧
          ∃ valueCells : List Cell, value.read (.index 1 :: path) (some entry.2) = .ok valueCells ∧
            keyCells ++ valueCells = cells := by
    intro path
    simp only [read, passes, Except.ok_bind, pairOf, List.length_cons, List.length_nil, if_true,
      List.map_cons, List.map_nil, readSlots, Except.bind_eq_ok_iff, Except.pure_eq_ok_iff]
    simp
  constructor
  · intro isRead
    rcases (isPair []).mp (isRead []) with ⟨keyCells, keyRead, valueCells, valueRead, rfl⟩
    exact ⟨keyCells, valueCells, fun _ => (read_eq_ok_iff_of_path ..).mp keyRead,
      fun _ => (read_eq_ok_iff_of_path ..).mp valueRead, rfl⟩
  · rintro ⟨keyCells, valueCells, keyRead, valueRead, rfl⟩ path
    exact (isPair path).mpr ⟨keyCells, keyRead _, valueCells, valueRead _, rfl⟩

/-- The rows of pairs are the rows of the keys, each with that of its value behind it. -/
theorem areRows_pairs_iff {key value : Shape} {acceptance : Acceptance}
    (accepts : acceptance.desired.contains .array = true) {entries : List (String × Json)}
    {rows : List (List Cell)} :
    AreRows (tuple [key, value] acceptance) (entries.map pairOf) rows ↔
      ∃ keyRows valueRows, AreRows key (entries.map fun entry => .string entry.1) keyRows ∧
        AreRows value (entries.map (·.2)) valueRows ∧
          rows = List.zipWith (· ++ ·) keyRows valueRows := by
  induction entries generalizing rows with
  | nil => simp [AreRows]
  | cons entry rest ih =>
      simp only [AreRows, List.map_cons, List.forall₂_cons_left_iff] at ih ⊢
      constructor
      · rintro ⟨row, others, isRead, areRead, rfl⟩
        rcases (read_pair_eq_ok_iff accepts).mp isRead with
          ⟨keyCells, valueCells, keyRead, valueRead, rfl⟩
        rcases ih.mp areRead with ⟨keys, values, keysRead, valuesRead, rfl⟩
        exact ⟨_, _, ⟨keyCells, keys, keyRead, keysRead, rfl⟩,
          ⟨valueCells, values, valueRead, valuesRead, rfl⟩, rfl⟩
      · rintro ⟨_, _, ⟨keyCells, keys, keyRead, keysRead, rfl⟩,
          ⟨valueCells, values, valueRead, valuesRead, rfl⟩, rfl⟩
        exact ⟨_, _, (read_pair_eq_ok_iff accepts).mpr
          ⟨keyCells, valueCells, keyRead, valueRead, rfl⟩,
          ih.mpr ⟨keys, values, keysRead, valuesRead, rfl⟩, rfl⟩

/-! ### Array cells -/

/-- The names of columns have no say in array cells. -/
theorem arrayCells_under (name : String) (columns : List ShapeColumn) (rows : List (List Cell)) :
    arrayCells (columns.map (.under name)) rows = arrayCells columns rows := by
  induction columns generalizing rows with
  | nil => rfl
  | cons column rest ih => simp only [List.map_cons, arrayCells, ih, ShapeColumn.under]

/-- Rows without cells go on as what they go on with. -/
theorem zipWith_append_of_noCells {rows others : List (List Cell)}
    (sameLength : rows.length = others.length) (noCells : ∀ row ∈ rows, row = []) :
    List.zipWith (· ++ ·) rows others = others := by
  induction rows generalizing others with
  | nil => exact (List.length_eq_zero_iff.mp sameLength.symm).symm
  | cons row rest ih =>
      rw [List.forall_mem_cons] at noCells
      cases others with
      | nil => cases sameLength
      | cons other others =>
          rw [List.zipWith_cons_cons, ih (Nat.succ.inj sameLength) noCells.2, noCells.1,
            List.nil_append]

/-- Rows that have cells start as before when they go on. -/
theorem zipWith_append_of_cells {rows others : List (List Cell)}
    (sameLength : rows.length = others.length) (someCells : ∀ row ∈ rows, row ≠ []) :
    (List.zipWith (· ++ ·) rows others).filterMap List.head? = rows.filterMap List.head? ∧
      (List.zipWith (· ++ ·) rows others).map List.tail =
        List.zipWith (· ++ ·) (rows.map List.tail) others := by
  induction rows generalizing others with
  | nil => exact ⟨rfl, rfl⟩
  | cons row rest ih =>
      rw [List.forall_mem_cons] at someCells
      cases others with
      | nil => cases sameLength
      | cons other others =>
          rcases ih (Nat.succ.inj sameLength) someCells.2 with ⟨heads, tails⟩
          rcases List.exists_cons_of_ne_nil someCells.1 with ⟨cell, cells, rfl⟩
          rw [List.zipWith_cons_cons, List.cons_append, List.filterMap_cons, List.filterMap_cons,
            heads, List.map_cons, List.map_cons, tails, List.zipWith_cons_cons]
          exact ⟨rfl, rfl⟩

/-- The array cells of rows that go on are those of the rows and those of what they go on with,
if every row is as wide as its columns. -/
theorem arrayCells_zipWith {columns otherColumns : List ShapeColumn}
    {rows others : List (List Cell)} (sameLength : rows.length = others.length)
    (wide : ∀ row ∈ rows, row.length = columns.length) :
    arrayCells (columns ++ otherColumns) (List.zipWith (· ++ ·) rows others) =
      arrayCells columns rows ++ arrayCells otherColumns others := by
  induction columns generalizing rows with
  | nil =>
      have noCells : ∀ row ∈ rows, row = [] :=
        fun row rowMem => List.length_eq_zero_iff.mp (wide row rowMem)
      rw [List.nil_append, zipWith_append_of_noCells sameLength noCells, arrayCells,
        List.nil_append]
  | cons column rest ih =>
      have someCells : ∀ row ∈ rows, row ≠ [] := by
        intro row rowMem
        rw [← List.length_pos_iff, wide row rowMem]
        exact Nat.zero_lt_succ _
      have tailsWide : ∀ tail ∈ rows.map List.tail, tail.length = rest.length := by
        intro tail tailMem
        rcases List.mem_map.mp tailMem with ⟨row, rowMem, rfl⟩
        rw [List.length_tail, wide row rowMem, List.length_cons, Nat.add_sub_cancel]
      have asMany : (rows.map List.tail).length = others.length := by
        rw [List.length_map, sameLength]
      rcases zipWith_append_of_cells sameLength someCells with ⟨heads, tails⟩
      rw [List.cons_append, arrayCells, arrayCells, heads, tails, ih asMany tailsWide,
        List.cons_append]

/-- The columns of pairs are those of the keys and those of the values. -/
theorem arrayCells_pairs {key value : Shape} {acceptance : Acceptance} {keys values : List Json}
    {keyRows valueRows : List (List Cell)} (sameLength : keys.length = values.length)
    (areKeys : AreRows key keys keyRows) (areValues : AreRows value values valueRows) :
    arrayCells (tuple [key, value] acceptance).columns (List.zipWith (· ++ ·) keyRows valueRows) =
      arrayCells key.columns keyRows ++ arrayCells value.columns valueRows := by
  have asMany : keyRows.length = valueRows.length := by
    rw [areKeys.length_eq, areValues.length_eq, sameLength]
  have wide : ∀ row ∈ keyRows, row.length = (key.columns.map (ShapeColumn.under "0")).length := by
    intro row rowMem
    rw [List.length_map]
    exact (areKeys.fills row rowMem).length_eq
  have pairColumns : (tuple [key, value] acceptance).columns =
      key.columns.map (.under "0") ++ value.columns.map (.under "1") := by
    rw [← List.append_nil (value.columns.map _)]
    rfl
  rw [pairColumns, arrayCells_zipWith asMany wide, arrayCells_under, arrayCells_under]

/-! ### Maps -/

section

variable {key value : Shape} {mapAcceptance listAcceptance pairAcceptance : Acceptance}
  {entries : List (String × Json)} {path otherPath : Path} {cells : List Cell}

/-- An object that is read as a map has the array cells of its keys and of its values. -/
theorem read_map_eq_ok_iff (accepts : mapAcceptance.desired.contains .object = true) :
    (keyValue key value mapAcceptance).read path (some (.object entries)) = .ok cells ↔
      ∃ keyRows valueRows, AreRows key (entries.map fun entry => .string entry.1) keyRows ∧
        AreRows value (entries.map (·.2)) valueRows ∧
          cells = arrayCells key.columns keyRows ++ arrayCells value.columns valueRows := by
  have passes : checkKind (keyValue key value mapAcceptance) path (some (.object entries)) =
      .ok () := if_pos accepts
  simp only [read, passes, Except.ok_bind, Except.bind_eq_ok_iff, Prod.exists,
    readEntries_eq_ok_iff, Except.pure_eq_ok_iff, and_assoc]
  simp only [eq_comm]

/-- A list of pairs has the same array cells. -/
theorem read_pairs_eq_ok_iff (acceptsList : listAcceptance.desired.contains .array = true)
    (acceptsPair : pairAcceptance.desired.contains .array = true) :
    (array (tuple [key, value] pairAcceptance) listAcceptance).read path
        (some (.array (entries.map pairOf))) = .ok cells ↔
      ∃ keyRows valueRows, AreRows key (entries.map fun entry => .string entry.1) keyRows ∧
        AreRows value (entries.map (·.2)) valueRows ∧
          cells = arrayCells key.columns keyRows ++ arrayCells value.columns valueRows := by
  have passes : checkKind (array (tuple [key, value] pairAcceptance) listAcceptance) path
      (some (.array (entries.map pairOf))) = .ok () := if_pos acceptsList
  have sameLength : (entries.map fun entry => Json.string entry.1).length =
      (entries.map (·.2)).length := by
    rw [List.length_map, List.length_map]
  rw [read, passes, Except.ok_bind]
  simp only [Except.bind_eq_ok_iff, readItems_eq_ok_iff, areRows_pairs_iff acceptsPair,
    Except.pure_eq_ok_iff]
  constructor
  · rintro ⟨_, ⟨keyRows, valueRows, areKeys, areValues, rfl⟩, rfl⟩
    exact ⟨keyRows, valueRows, areKeys, areValues, arrayCells_pairs sameLength areKeys areValues⟩
  · rintro ⟨keyRows, valueRows, areKeys, areValues, rfl⟩
    exact ⟨_, ⟨keyRows, valueRows, areKeys, areValues, rfl⟩,
      arrayCells_pairs sameLength areKeys areValues⟩

/-- An object is read as a map just if the list of its entries is read as pairs, to the same
array cells.  There is one for the keys and one for each column of the values, and in each there
is one cell of every entry, in their order.  For an object that is null or missing, where it may
be, there is a null for each of them. -/
theorem maps_are_lists_of_pairs (oneColumn : key.width = 1)
    (acceptsObject : mapAcceptance.desired.contains .object = true)
    (acceptsList : listAcceptance.desired.contains .array = true)
    (acceptsPair : pairAcceptance.desired.contains .array = true) :
    (∀ entries path otherPath row filled,
      (keyValue key value mapAcceptance).fill path (some (.object entries)) row = .ok filled ↔
        (array (tuple [key, value] pairAcceptance) listAcceptance).fill otherPath
          (some (.array (entries.map pairOf))) row = .ok filled) ∧
    (∀ entries path row filled,
      (keyValue key value mapAcceptance).fill path (some (.object entries)) row = .ok filled →
        ∃ keyRows valueRows keyCell valueCells,
          filled = row ++ keyCell :: valueCells ∧
          AreRows key (entries.map fun entry => .string entry.1) keyRows ∧
          AreRows value (entries.map (·.2)) valueRows ∧
          HoldColumns key.columns keyRows [keyCell] ∧
          HoldColumns value.columns valueRows valueCells) ∧
    ∀ path row,
      (mapAcceptance.desired.contains .null = true →
        (keyValue key value mapAcceptance).fill path (some .null) row =
          .ok (row ++ nulls (1 + value.width))) ∧
      (mapAcceptance.allowMissing = true →
        (keyValue key value mapAcceptance).fill path none row =
          .ok (row ++ nulls (1 + value.width))) := by
  refine ⟨?_, ?_, ?_⟩
  · intro entries path otherPath row filled
    simp only [fill_eq_ok_iff, read_map_eq_ok_iff acceptsObject,
      read_pairs_eq_ok_iff acceptsList acceptsPair]
  · intro entries path row filled isFilled
    rcases fill_eq_ok_iff.mp isFilled with ⟨cells, isRead, rfl⟩
    rcases (read_map_eq_ok_iff acceptsObject).mp isRead with
      ⟨keyRows, valueRows, areKeys, areValues, rfl⟩
    have keysHeld := holdColumns_arrayCells areKeys.fills
    have valuesHeld := holdColumns_arrayCells areValues.fills
    obtain ⟨keyCell, isKeyCell⟩ : ∃ keyCell, arrayCells key.columns keyRows = [keyCell] :=
      List.length_eq_one_iff.mp (keysHeld.1.trans oneColumn)
    rw [isKeyCell] at keysHeld ⊢
    exact ⟨keyRows, valueRows, keyCell, _, rfl, areKeys, areValues, keysHeld, valuesHeld⟩
  · intro path row
    constructor
    · intro mayBeNull
      have passes : checkKind (keyValue key value mapAcceptance) path (some .null) = .ok () :=
        if_pos mayBeNull
      refine fill_eq_ok_iff.mpr ⟨nulls (1 + value.width), ?_, rfl⟩
      simp only [read, passes, oneColumn, Except.ok_bind]
      rfl
    · intro mayMiss
      have passes : checkKind (keyValue key value mapAcceptance) path none = .ok () :=
        if_pos mayMiss
      refine fill_eq_ok_iff.mpr ⟨nulls (1 + value.width), ?_, rfl⟩
      simp only [read, passes, oneColumn, Except.ok_bind]
      rfl

/-- A map from a text to two numbers, in which a key comes twice, and one that is null. -/
theorem map_with_a_repeated_key :
    let key := plainLeaf .string {} none none
    let number := plainLeaf .long {} none none
    let accepts : Kind → Acceptance := fun kind => ({} : Allowances).accepting [kind]
    let value := tuple [number, number] (accepts .array)
    let entries : List (String × Json) := [("a", .array [.number "1", .number "2"]),
      ("b", .array [.number "3", .null]), ("a", .null)]
    let filled : Array Cell := #[.array .string [.string "a", .string "b", .string "a"],
      .array .long [.long 1, .long 3, .null], .array .long [.long 2, .null, .null]]
    key.width = 1 ∧ (accepts .object).desired.contains .object = true ∧
      (accepts .array).desired.contains .array = true ∧
      (keyValue key value (accepts .object)).fill [] (some (.object entries)) #[] = .ok filled ∧
      (array (tuple [key, value] (accepts .array)) (accepts .array)).fill []
        (some (.array (entries.map pairOf))) #[] = .ok filled ∧
      (keyValue key value (accepts .object)).fill [] (some .null) #[] =
        .ok #[.null, .null, .null] := by
  intro key number accepts value entries filled
  have oneColumn : key.width = 1 := by cbv
  have acceptsObject : (accepts .object).desired.contains .object = true := by cbv
  have acceptsList : (accepts .array).desired.contains .array = true := by cbv
  have isFilled : (keyValue key value (accepts .object)).fill [] (some (.object entries)) #[] =
      .ok filled := by cbv
  rcases @maps_are_lists_of_pairs key value _ _ _ oneColumn acceptsObject acceptsList acceptsList
    with ⟨fills, _, absent⟩
  exact ⟨oneColumn, acceptsObject, acceptsList, isFilled, (fills ..).mp isFilled,
    (absent [] #[]).1 (by cbv)⟩

end

end JsonTables.Shape
