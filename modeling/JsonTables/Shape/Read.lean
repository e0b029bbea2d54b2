import JsonTables.DocumentError
import JsonTables.Leaf.Read
import JsonTables.Shape

/-!
# Reading values by their shape

A value of a shape becomes one cell for each column of the shape.  A value that
is null or absent is null or absent in every part of an object or a tuple; it is
one null for every column of a list or of an object whose fields depend on its
type.
-/

namespace JsonTables

/-- The cells that a value becomes, or why it does not fit. -/
abbrev Row := Except ValueError (List Cell)

/-- A misfit of the value that a path leads to. -/
def misfit {α : Type} (path : Path) (cause : Misfit) : Except ValueError α :=
  .error ⟨path, cause⟩

namespace Leaf

/-- Reads the cell of a leaf.  Its defaults stand for null and for nothing. -/
def read (leaf : Leaf) (path : Path) : Option Json → Except ValueError Cell
  | none =>
      if leaf.acceptance.allowMissing then .ok (cellOr leaf.kind leaf.onMissing)
      else misfit path (.missing leaf.kind.name)
  | some .null =>
      if leaf.acceptance.desired.contains .null then .ok (cellOr leaf.kind leaf.onNull)
      else misfit path (.null leaf.kind.name)
  | some value =>
      if leaf.acceptance.desired.contains value.kind then
        match readValue (leaf.acceptance.desired.contains .decimal) value leaf.kind with
        | .ok scalar => .ok (leaf.kind.cell scalar)
        | .error fault => misfit path (.scalar fault)
      else misfit path (.unexpected value.kind leaf.kind.name)

end Leaf

namespace Shape

/-- Checks that a value may be of a shape, as far as its kind tells. -/
def checkKind (shape : Shape) (path : Path) : Option Json → Except ValueError Unit
  | none => if shape.allowMissing then .ok () else misfit path (.missing shape.name)
  | some value =>
      if shape.accepts value.kind then .ok ()
      else misfit path (.unexpected value.kind shape.name)

/-- So many null cells. -/
def nulls (count : Nat) : List Cell :=
  List.replicate count .null

/-- One array cell for each column, of the cells in that column of the rows. -/
def arrayCells : List ShapeColumn → List (List Cell) → List Cell
  | [], _ => []
  | column :: rest, rows =>
      .array column.type (rows.filterMap List.head?) :: arrayCells rest (rows.map List.tail)

/-- The value of a field among the entries of an object. -/
def findField (entries : List (String × Json)) (name : String) (matching : FieldMatching)
    (repeats : RepeatPolicy) (path : Path) : Except ValueError (Option Json) :=
  let found := entries.filter fun entry => matching.accepts name entry.1
  match found with
  | [] => .ok none
  | [(_, value)] => .ok (some value)
  | (_, value) :: _ =>
      match matching.repeats.getD repeats with
      | .useFirst => .ok (some value)
      | .error => misfit path (.repeatedField name)

/-- Reads the items of a list one after another. -/
def readItems (read : Path → Option Json → Row) (path : Path) (position : Nat) :
    List Json → Except ValueError (List (List Cell))
  | [] => .ok []
  | item :: rest => do
      let row ← read (.index position :: path) (some item)
      return row :: (← readItems read path (position + 1) rest)

/-- Reads entries as a list of keys and one of values. -/
def readEntries (readKey readValue : Path → Option Json → Row) (path : Path) :
    List (String × Json) → Except ValueError (List (List Cell) × List (List Cell))
  | [] => .ok ([], [])
  | (key, value) :: rest => do
      let keyRow ← readKey (.field key :: path) (some (.string key))
      let valueRow ← readValue (.field key :: path) (some value)
      let (keys, values) ← readEntries readKey readValue path rest
      return (keyRow :: keys, valueRow :: values)

/-- The type that an object has, where it is one of the known types or another.
Nothing is left of an object whose type is null, if null is accepted. -/
def readTag (rules : VariantRules) (entries : List (String × Json)) (path : Path) :
    Except ValueError (Option String) := do
  let typePath := .field rules.typeField :: path
  match ← findField entries rules.typeField .exact rules.repeats path with
  | some (.string tag) => return some tag
  | some .null =>
      if rules.acceptance.desired.contains .null then return none
      else misfit typePath (.typeNotString .null)
  | some other => misfit typePath (.typeNotString other.kind)
  | none => misfit path (.noTypeField rules.typeField)

/-- Checks that a type is known and that the entries of an object belong to it. -/
def checkEntries (rules : VariantRules) (shared : List String) (selected : Option ObjectShape)
    (tag : String) (entries : List (String × Json)) (path : Path) : Except ValueError Unit := do
  let allowUnknown ←
    match selected with
    | some record => pure record.rules.allowUnknown
    | none =>
        if rules.allowUnknown then pure true
        else misfit (.field rules.typeField :: path) (.unknownType tag)
  let isKnown := fun key =>
    key == rules.typeField || shared.contains key || selected.any (·.knows key)
  unless allowUnknown do
    if let some (key, _) := entries.find? (!isKnown ·.1) then
      misfit path (.unknownFieldOfType key tag)

mutual

/-- Reads a value of a shape; an absent value is none. -/
def read : Shape → Path → Option Json → Row
  | leaf scalar, path, value? => do return [← scalar.read path value?]
  | object record, path, value? => do
      checkKind (object record) path value?
      readObject record path value?
  | array element acceptance, path, value? => do
      checkKind (array element acceptance) path value?
      match value? with
      | some (.array items) =>
          return arrayCells element.columns (← readItems (read element) path 0 items)
      | _ => return nulls element.width
  | keyValue key value acceptance, path, value? => do
      checkKind (keyValue key value acceptance) path value?
      match value? with
      | some (.object entries) =>
          let (keys, values) ← readEntries (read key) (read value) path entries
          return arrayCells key.columns keys ++ arrayCells value.columns values
      | _ => return nulls (key.width + value.width)
  | tuple slots acceptance, path, value? => do
      checkKind (tuple slots acceptance) path value?
      match value? with
      | some (.array items) =>
          if items.length = slots.length then readSlots slots path 0 (items.map some)
          else misfit path (.tupleSize slots.length items.length)
      | other => readSlots slots path 0 (slots.map fun _ => other)
  | typed rules shared variants, path, value? => do
      checkKind (typed rules shared variants) path value?
      let allNulls := nulls (columns (typed rules shared variants)).length
      match value? with
      | some (.object entries) =>
          match ← readTag rules entries path with
          | none => return allNulls
          | some tag =>
              checkEntries rules (shared.map (·.1)) (variants.lookup tag) tag entries path
              let sharedCells ← readFields shared [] rules.repeats path entries
              return .string tag :: (sharedCells ++ (← readVariants variants tag path entries))
      | _ => return allNulls
  | any, _, value? =>
      match value? with
      | some value => .ok [Cell.ofJson value.dropRepeats]
      | none => .ok [.null]
  | skip acceptance, path, value? => do
      checkKind (skip acceptance) path value?
      return []
termination_by structural shape => shape

/-- Reads an object whose kind has been checked. -/
def readObject : ObjectShape → Path → Option Json → Row
  | .record fields rules, path, value? => do
      match value? with
      | some (.object entries) =>
          let isKnown := (ObjectShape.record fields rules).knows
          unless rules.allowUnknown do
            if let some (key, _) := entries.find? (!isKnown ·.1) then
              misfit path (.unknownField key)
          readFields fields rules.matching rules.repeats path entries
      | other => readAlike fields path other
termination_by structural record => record

/-- Reads the fields of an object from its entries. -/
def readFields : List (String × Shape) → List (String × FieldMatching) → RepeatPolicy → Path →
    List (String × Json) → Row
  | [], _, _, _, _ => .ok []
  | (name, shape) :: rest, matching, repeats, path, entries => do
      let found ← findField entries name (ObjectShape.matchingIn matching name) repeats path
      let cells ← read shape (.field name :: path) found
      return cells ++ (← readFields rest matching repeats path entries)
termination_by structural fields => fields

/-- Reads one value for every field, where the object is null or absent. -/
def readAlike : List (String × Shape) → Path → Option Json → Row
  | [], _, _ => .ok []
  | (name, shape) :: rest, path, value? => do
      let cells ← read shape (.field name :: path) value?
      return cells ++ (← readAlike rest path value?)
termination_by structural fields => fields

/-- Reads the values of a tuple, each by its slot. -/
def readSlots : List Shape → Path → Nat → List (Option Json) → Row
  | slot :: rest, path, position, value? :: values => do
      let cells ← read slot (.index position :: path) value?
      return cells ++ (← readSlots rest path (position + 1) values)
  | _, _, _, _ => .ok []
termination_by structural slots => slots

/-- Reads the fields of the type that an object has; those of the others are null. -/
def readVariants : List (String × ObjectShape) → String → Path → List (String × Json) → Row
  | [], _, _, _ => .ok []
  | (name, record) :: rest, tag, path, entries => do
      let cells ←
        if name = tag then readOwnFields record path entries
        else pure (nulls (objectWidth record))
      return cells ++ (← readVariants rest tag path entries)
termination_by structural variants => variants

/-- Reads the fields of a type from the entries of an object. -/
def readOwnFields : ObjectShape → Path → List (String × Json) → Row
  | .record fields rules, path, entries =>
      readFields fields rules.matching rules.repeats path entries
termination_by structural record => record

end

end Shape

end JsonTables
