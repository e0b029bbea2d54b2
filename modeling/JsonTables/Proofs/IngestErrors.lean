import JsonTables.Proofs.RowsInTurn

/-!
# Errors of the program's own making

An internal error says that the program has gone wrong and not its input.  None comes
of taking documents in one after another: every step fails with an error of the
document, of the file or of the arguments, or not at all.
-/

namespace JsonTables

namespace TableError

/-- Whether an error, or the cause of one, is of the program's own making. -/
def IsInternal : TableError → Prop
  | construction _ cause => cause.IsInternal
  | issue found => found.complaint = .internalError
  | _ => False

end TableError

namespace Ingest

/-- Whether an outcome is no error of the program's own making. -/
def NotInternal {α : Type} (outcome : Except TableError α) : Prop :=
  ∀ fault, outcome = .error fault → ¬fault.IsInternal

section NotInternal

variable {α β : Type}

theorem notInternal_ok (value : α) : NotInternal (.ok value) := by
  intro fault fails
  cases fails

theorem notInternal_invalid (detail : String) :
    NotInternal (.error (.invalid detail) : Except TableError α) := by
  rintro _ ⟨⟩ isInternal
  cases isInternal

theorem notInternal_document (outcome : Except DocumentError α) :
    NotInternal (outcome.mapError .document) := by
  intro fault fails
  cases outcome with
  | error error =>
      cases fails
      exact id
  | ok value => cases fails

theorem NotInternal.bind {outcome : Except TableError α} {next : α → Except TableError β}
    (first : NotInternal outcome) (second : ∀ value, NotInternal (next value)) :
    NotInternal (outcome >>= next) := by
  intro fault fails
  rcases Except.bind_eq_error_iff.mp fails with firstFails | ⟨value, _, secondFails⟩
  · exact first fault firstFails
  · exact second value fault secondFails

theorem NotInternal.mapM {read : α → Except TableError β} (each : ∀ item, NotInternal (read item))
    (items : List α) : NotInternal (items.mapM read) := by
  induction items with
  | nil => exact notInternal_ok []
  | cons item rest ih =>
      rw [List.mapM_cons]
      exact (each item).bind fun value => ih.bind fun values => notInternal_ok (value :: values)

theorem NotInternal.construction {outcome : Except TableError α} (inner : NotInternal outcome)
    (what : String) : NotInternal (outcome.mapError (.construction what)) := by
  intro fault fails
  cases outcome with
  | error cause =>
      cases fails
      exact inner cause rfl
  | ok value => cases fails

theorem NotInternal.rowsInTurn {read : α → Except TableError (List (List Cell))}
    (each : ∀ item, NotInternal (read item)) (items : List α) :
    NotInternal (rowsInTurn read items) :=
  (NotInternal.mapM each items).bind fun parts => notInternal_ok parts.flatten

end NotInternal

theorem notInternal_layoutOf (sketch : Sketch) (naming : Naming) :
    NotInternal (layoutOf sketch naming) := by
  have notInternal_of : ∀ pair : String × ShapeColumn,
      NotInternal (ColumnDefinition.of pair.1 pair.2.type) := by
    intro pair
    simp only [ColumnDefinition.of]
    split
    · exact notInternal_invalid _
    · exact notInternal_ok _
  apply (notInternal_document sketch.resolve).bind
  intro shape
  apply (notInternal_document (Layout.ofShape shape naming)).bind
  intro layout
  apply (NotInternal.mapM notInternal_of (layout.names.zip layout.columns)).bind
  intro definitions
  exact notInternal_ok _

theorem notInternal_documentRows (layout : Layout)
    (document : Except JsonText.TextError Json) : NotInternal (documentRows layout document) := by
  cases document with
  | error error =>
      rintro _ ⟨⟩
      exact id
  | ok value => exact notInternal_document _

theorem notInternal_sourceRows (files : Files) (layout : Layout) (multiValue : Bool)
    (source : Source) : NotInternal (sourceRows files layout multiValue source) := by
  have notInternal_read : NotInternal (source.read files) := by
    cases source with
    | text content => exact notInternal_ok _
    | bytes content => exact notInternal_ok content
    | file path =>
        intro fault fails
        cases fileRead : files path with
        | error cause =>
            rw [Source.read, fileRead] at fails
            cases fails
            exact id
        | ok bytes =>
            rw [Source.read, fileRead] at fails
            cases fails
  apply notInternal_read.bind
  intro bytes
  exact NotInternal.rowsInTurn (notInternal_documentRows layout) _

theorem notInternal_cellRows (layout : Layout) (column : String) (entry : Cell × Nat) :
    NotInternal (cellRows layout column entry) := by
  rcases entry with ⟨cell, row⟩
  cases cell with
  | null => exact notInternal_document _
  | string text => exact notInternal_documentRows layout _
  | json value => exact notInternal_document _
  | _ => exact notInternal_invalid _

theorem notInternal_columnOf (table : Table) (name : Option String) :
    NotInternal (columnOf table name) := by
  unfold columnOf
  split
  · unfold Table.column
    split
    · exact notInternal_ok _
    · exact notInternal_invalid _
  · exact notInternal_ok _
  · exact notInternal_invalid _

theorem notInternal_inTurn (ingest : Ingest) (files : Files) :
    NotInternal (ingest.inTurn files) := by
  apply (notInternal_layoutOf ingest.sketch ingest.naming).bind
  rintro ⟨layout, definitions⟩
  apply NotInternal.bind
  · apply NotInternal.rowsInTurn
    intro source
    exact (notInternal_sourceRows files layout ingest.settings.multiValue source).construction _
  · intro rows
    exact notInternal_ok _

theorem notInternal_fromColumnInTurn (table : Table) (name : Option String) (sketch : Sketch) :
    NotInternal (fromColumnInTurn table name sketch) := by
  apply (notInternal_columnOf table name).bind
  intro column
  apply (notInternal_layoutOf sketch {}).bind
  rintro ⟨layout, definitions⟩
  apply (NotInternal.rowsInTurn (notInternal_cellRows layout column.definition.name) _).bind
  intro rows
  exact notInternal_ok _

end Ingest

end JsonTables
