import JsonTables.Shape.Read

/-!
# Filling rows

A row is filled in place: the cells of a value go behind those that the row has
already.  Only the items of a list and the entries of a map are read into rows of
their own, of which array cells are made.
-/

namespace JsonTables

namespace Shape

/-- The row that a value fills alone. -/
def ownRow (fill : Path → Option Json → Array Cell → Except ValueError (Array Cell))
    (path : Path) (value? : Option Json) : Row := do
  return (← fill path value? #[]).toList

mutual

/-- Reads a value of a shape, and puts its cells behind those of a row. -/
def fill : Shape → Path → Option Json → Array Cell → Except ValueError (Array Cell)
  | leaf scalar, path, value?, row => do return row.push (← scalar.read path value?)
  | object record, path, value?, row => do
      checkKind (object record) path value?
      fillObject record path value? row
  | array element acceptance, path, value?, row => do
      checkKind (array element acceptance) path value?
      match value? with
      | some (.array items) =>
          return row ++ arrayCells element.columns
            (← readItems (ownRow (fill element)) path 0 items)
      | _ => return row ++ nulls element.width
  | keyValue key value acceptance, path, value?, row => do
      checkKind (keyValue key value acceptance) path value?
      match value? with
      | some (.object entries) =>
          let (keys, values) ← readEntries (ownRow (fill key)) (ownRow (fill value)) path entries
          return row ++ arrayCells key.columns keys ++ arrayCells value.columns values
      | _ => return row ++ nulls (key.width + value.width)
  | tuple slots acceptance, path, value?, row => do
      checkKind (tuple slots acceptance) path value?
      match value? with
      | some (.array items) =>
          if items.length = slots.length then fillSlots slots path 0 (items.map some) row
          else misfit path (.tupleSize slots.length items.length)
      | other => fillSlots slots path 0 (slots.map fun _ => other) row
  | typed rules shared variants, path, value?, row => do
      checkKind (typed rules shared variants) path value?
      let allNulls := nulls (columns (typed rules shared variants)).length
      match value? with
      | some (.object entries) =>
          match ← readTag rules entries path with
          | none => return row ++ allNulls
          | some tag =>
              checkEntries rules (shared.map (·.1)) (variants.lookup tag) tag entries path
              let row ← fillFields shared [] rules.repeats path entries (row.push (.string tag))
              fillVariants variants tag path entries row
      | _ => return row ++ allNulls
  | any, _, value?, row =>
      match value? with
      | some value => .ok (row.push (Cell.ofJson value.dropRepeats))
      | none => .ok (row.push .null)
  | skip acceptance, path, value?, row => do
      checkKind (skip acceptance) path value?
      return row
termination_by structural shape => shape

/-- Fills a row from an object whose kind has been checked. -/
def fillObject : ObjectShape → Path → Option Json → Array Cell → Except ValueError (Array Cell)
  | .record fields rules, path, value?, row => do
      match value? with
      | some (.object entries) =>
          let isKnown := (ObjectShape.record fields rules).knows
          unless rules.allowUnknown do
            if let some (key, _) := entries.find? (!isKnown ·.1) then
              misfit path (.unknownField key)
          fillFields fields rules.matching rules.repeats path entries row
      | other => fillAlike fields path other row
termination_by structural record => record

/-- Fills a row from the fields of an object. -/
def fillFields : List (String × Shape) → List (String × FieldMatching) → RepeatPolicy → Path →
    List (String × Json) → Array Cell → Except ValueError (Array Cell)
  | [], _, _, _, _, row => .ok row
  | (name, shape) :: rest, matching, repeats, path, entries, row => do
      let found ← findField entries name (ObjectShape.matchingIn matching name) repeats path
      let row ← fill shape (.field name :: path) found row
      fillFields rest matching repeats path entries row
termination_by structural fields => fields

/-- Fills a row from one value for every field, where the object is null or absent. -/
def fillAlike : List (String × Shape) → Path → Option Json → Array Cell →
    Except ValueError (Array Cell)
  | [], _, _, row => .ok row
  | (name, shape) :: rest, path, value?, row => do
      let row ← fill shape (.field name :: path) value? row
      fillAlike rest path value? row
termination_by structural fields => fields

/-- Fills a row from the values of a tuple, each by its slot. -/
def fillSlots : List Shape → Path → Nat → List (Option Json) → Array Cell →
    Except ValueError (Array Cell)
  | slot :: rest, path, position, value? :: values, row => do
      let row ← fill slot (.index position :: path) value? row
      fillSlots rest path (position + 1) values row
  | _, _, _, _, row => .ok row
termination_by structural slots => slots

/-- Fills a row from the fields of the type that an object has, and with nulls for the
others. -/
def fillVariants : List (String × ObjectShape) → String → Path → List (String × Json) →
    Array Cell → Except ValueError (Array Cell)
  | [], _, _, _, row => .ok row
  | (name, record) :: rest, tag, path, entries, row => do
      let row ←
        if name = tag then fillOwnFields record path entries row
        else pure (row ++ nulls (objectWidth record))
      fillVariants rest tag path entries row
termination_by structural variants => variants

/-- Fills a row from the fields of a type. -/
def fillOwnFields : ObjectShape → Path → List (String × Json) → Array Cell →
    Except ValueError (Array Cell)
  | .record fields rules, path, entries, row =>
      fillFields fields rules.matching rules.repeats path entries row
termination_by structural record => record

end

end Shape

end JsonTables
