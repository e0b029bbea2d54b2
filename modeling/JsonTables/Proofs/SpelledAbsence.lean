import JsonTables.Proofs.EntryOrder
import JsonTables.Proofs.RowFilling
import JsonTables.Shape.Build

/-!
# Absence spelled out

An object that is missing is one without entries, one that is null has null under the
name of every field, and a tuple that is null is one of nulls.  Where they are absent no
field is looked for and no entry is checked, so the two ways agree only because the name
of a field is accepted by that field alone, which the check of the shape sees to.
-/

namespace JsonTables

namespace ObjectShape

variable {record : ObjectShape}

theorem matchings_names (record : ObjectShape) :
    record.matchings.map (·.1) = record.fields.map (·.1) := by
  simp [matchings]

theorem accepts_own_name (field : String × FieldMatching) :
    field.2.accepts field.1 field.1 = true := by
  simp [FieldMatching.accepts, FieldMatching.names]

theorem knows_field {field : String × Shape} (fieldMem : field ∈ record.fields) :
    record.knows field.1 = true :=
  knows_iff.mpr ⟨_, List.mem_map_of_mem fieldMem, accepts_own_name _⟩

/-- Of the names of all fields, each field accepts its own and no other. -/
theorem acceptsOnce_of_names (passed : record.checkFields = .ok ())
    {entries : List (String × Json)}
    (keys : (record.fields.map (·.1)).Perm (entries.map (·.1)))
    {field : String × FieldMatching} (fieldMem : field ∈ record.matchings) :
    Shape.AcceptsOnce field entries := by
  rcases List.mem_iff_getElem?.mp fieldMem with ⟨place, fieldAt⟩
  have isOwn : ∀ {index : Nat} {other : String × FieldMatching},
      record.matchings[index]? = some other → field.2.accepts field.1 other.1 = true →
      place = index := by
    intro index other otherAt accepted
    exact index_eq_of_accepts passed fieldAt otherAt accepted (accepts_own_name other)
  have ownOnce : record.matchings.Pairwise fun first second =>
      field.2.accepts field.1 first.1 = true → field.2.accepts field.1 second.1 = false := by
    apply pairwise_iff_getElem?.mpr
    intro i j first second before firstAt secondAt isFirst
    by_contra isSecond
    have atFirst := isOwn firstAt isFirst
    have atSecond := isOwn secondAt (by simpa using isSecond)
    omega
  rw [← matchings_names] at keys
  exact Shape.AcceptsOnce.of_keys keys ownOnce

end ObjectShape

namespace Shape

/-- Fields that are all found to have one value are read from that value alone. -/
theorem readFields_eq_readAlike {fields : List (String × Shape)}
    {matching : List (String × FieldMatching)} {repeats : RepeatPolicy} {path : Path}
    {entries : List (String × Json)} {value? : Option Json}
    (found : ∀ field ∈ fields, findField entries field.1
      (ObjectShape.matchingIn matching field.1) repeats path = .ok value?) :
    readFields fields matching repeats path entries = readAlike fields path value? := by
  induction fields with
  | nil => rfl
  | cons field rest ih =>
      rw [List.forall_mem_cons] at found
      simp only [readFields, readAlike, found.1, Except.ok_bind, ih found.2]

/-- An object whose entries are known is read as its fields are. -/
theorem read_object_of_known {record : ObjectShape}
    (accepted : record.rules.acceptance.desired.contains .object = true)
    {entries : List (String × Json)} (known : ∀ entry ∈ entries, record.knows entry.1 = true)
    (path : Path) :
    (object record).read path (some (.object entries)) = readOwnFields record path entries := by
  have passes : checkKind (object record) path (some (.object entries)) = .ok () :=
    if_pos accepted
  have entriesPass : checkKnown record path entries = .ok () :=
    checkKnown_eq_ok_iff.mpr (.inr known)
  simp only [read, passes, readObject_object, entriesPass, Except.ok_bind]

/-- A missing object is read like the empty one. -/
theorem read_missing_object {record : ObjectShape}
    (mayMiss : record.rules.acceptance.allowMissing = true)
    (accepted : record.rules.acceptance.desired.contains .object = true) (path : Path) :
    (object record).read path none = (object record).read path (some (.object [])) := by
  rw [read_object_of_known accepted (by simp)]
  rcases record with ⟨fields, rules⟩
  have passes : checkKind (object (.record fields rules)) path none = .ok () := if_pos mayMiss
  simp only [read, passes, Except.ok_bind, readObject, readOwnFields]
  exact (readFields_eq_readAlike fun field _ => rfl).symm

/-- A null object is read like the one that has null under the name of every field. -/
theorem read_null_object {record : ObjectShape} (passed : record.checkFields = .ok ())
    (mayBeNull : record.rules.acceptance.desired.contains .null = true)
    (accepted : record.rules.acceptance.desired.contains .object = true)
    {entries : List (String × Json)}
    (spelled : (record.fields.map fun field => (field.1, Json.null)).Perm entries) (path : Path) :
    (object record).read path (some .null) =
      (object record).read path (some (.object entries)) := by
  have keys : (record.fields.map (·.1)).Perm (entries.map (·.1)) := by
    simpa [Function.comp_def] using spelled.map (·.1)
  have known : ∀ entry ∈ entries, record.knows entry.1 = true := by
    intro entry entryMem
    rcases List.mem_map.mp (spelled.mem_iff.mpr entryMem) with ⟨field, fieldMem, rfl⟩
    exact ObjectShape.knows_field fieldMem
  have found : ∀ field ∈ record.fields, findField entries field.1
      (ObjectShape.matchingIn record.rules.matching field.1) record.rules.repeats path =
        .ok (some .null) := by
    intro field fieldMem
    have once := ObjectShape.acceptsOnce_of_names passed keys (List.mem_map_of_mem fieldMem)
    have entryMem : (field.1, Json.null) ∈ entries :=
      spelled.mem_iff.mp (List.mem_map_of_mem fieldMem)
    exact findField_of_acceptsOnce once entryMem (ObjectShape.accepts_own_name _) _ path
  rw [read_object_of_known accepted known]
  rcases record with ⟨fields, rules⟩
  have passes : checkKind (object (.record fields rules)) path (some .null) = .ok () :=
    if_pos mayBeNull
  simp only [read, passes, Except.ok_bind, readObject, readOwnFields]
  exact (readFields_eq_readAlike found).symm

/-- A null tuple is read like one of nulls. -/
theorem read_null_tuple {slots : List Shape} {acceptance : Acceptance}
    (mayBeNull : acceptance.desired.contains .null = true)
    (accepted : acceptance.desired.contains .array = true) (path : Path) :
    (tuple slots acceptance).read path (some .null) =
      (tuple slots acceptance).read path (some (.array (.replicate slots.length .null))) := by
  have passes : checkKind (tuple slots acceptance) path (some .null) = .ok () :=
    if_pos mayBeNull
  have spelledPasses : checkKind (tuple slots acceptance) path
      (some (.array (.replicate slots.length .null))) = .ok () := if_pos accepted
  have sameSlots : (slots.map fun _ => some Json.null) =
      (List.replicate slots.length Json.null).map some := by
    simp [List.map_const']
  simp only [read, passes, spelledPasses, Except.ok_bind, List.length_replicate, if_true,
    sameSlots]

/-- Values that are absent fill rows, or fail, like those that say the same in full: a missing
object like one without entries, a null object like one that has null under the name of each of
its fields, in any order, and a null tuple like one of as many nulls as it has slots. -/
theorem absence_is_spelled_out :
    (∀ record : ObjectShape, (object record).check = .ok () →
      record.rules.acceptance.desired.contains .object = true →
        (record.rules.acceptance.allowMissing = true → ∀ path row,
          (object record).fill path none row =
            (object record).fill path (some (.object [])) row) ∧
        (record.rules.acceptance.desired.contains .null = true → ∀ entries,
          (record.fields.map fun field => (field.1, Json.null)).Perm entries → ∀ path row,
            (object record).fill path (some .null) row =
              (object record).fill path (some (.object entries)) row)) ∧
    ∀ (slots : List Shape) (acceptance : Acceptance),
      acceptance.desired.contains .null = true → acceptance.desired.contains .array = true →
        ∀ path row, (tuple slots acceptance).fill path (some .null) row =
          (tuple slots acceptance).fill path
            (some (.array (.replicate slots.length .null))) row := by
  refine ⟨?_, ?_⟩
  · intro record passed accepted
    have fieldsPass : record.checkFields = .ok () :=
      checkFields_iff_isUnambiguous.mpr (check_eq_ok_iff.mp passed).2
    refine ⟨?_, ?_⟩
    · intro mayMiss path row
      rw [fill_eq, fill_eq, read_missing_object mayMiss accepted]
    · intro mayBeNull entries spelled path row
      rw [fill_eq, fill_eq, read_null_object fieldsPass mayBeNull accepted spelled]
  · intro slots acceptance mayBeNull accepted path row
    rw [fill_eq, fill_eq, read_null_tuple mayBeNull accepted]

/-- A field that has a default for null, but must not be missing, beside a pair. -/
theorem absent_box_is_spelled_out :
    let count := plainLeaf .int { missing := false } (some 7) none
    let pair := tuple [count, skip ⟨true, .ofList [.null]⟩] ⟨true, .ofList [.null, .array]⟩
    let box : ObjectShape :=
      .record [("id", count), ("size", pair)]
        { allowUnknown := false, acceptance := ⟨true, .ofList [.null, .object]⟩
          repeats := .error
          matching := [("id", { ignoresCase := true }), ("size", { aliases := ["length"] })] }
    (object box).check = .ok () ∧
      (object box).fill [] none #[] = .error ⟨[.field "id"], .missing "int"⟩ ∧
      (object box).fill [] (some (.object [])) #[] = .error ⟨[.field "id"], .missing "int"⟩ ∧
      (object box).fill [] (some .null) #[] = .ok #[.int 7, .int 7] ∧
      (object box).fill [] (some (.object [("size", .null), ("id", .null)])) #[] =
        .ok #[.int 7, .int 7] ∧
      pair.fill [] (some (.array [.null, .null])) #[] = .ok #[.int 7] := by
  intro count pair box
  have passed : (object box).check = .ok () := by cbv
  have missing : (object box).fill [] none #[] = .error ⟨[.field "id"], .missing "int"⟩ := by cbv
  have null : (object box).fill [] (some .null) #[] = .ok #[.int 7, .int 7] := by cbv
  have nullPair : pair.fill [] (some .null) #[] = .ok #[.int 7] := by cbv
  have spelledOut := absence_is_spelled_out.1 box passed rfl
  have sameMissing := spelledOut.1 rfl [] #[]
  have sameNull := spelledOut.2 rfl [("size", .null), ("id", .null)] (.swap _ _ _) [] #[]
  have samePair := absence_is_spelled_out.2 [count, skip ⟨true, .ofList [.null]⟩]
    ⟨true, .ofList [.null, .array]⟩ rfl rfl [] #[]
  exact ⟨passed, missing, sameMissing ▸ missing, null, sameNull ▸ null, samePair ▸ nullPair⟩

end Shape

end JsonTables
