import JsonTables.Proofs.RenderedValues

/-!
# The structure of documents

Bytes are a document just if they spell a value that nests no deeper than the reader goes and
in which an object has a number under its first key where that is the key of numbers.  They
spell one value at most, and the document has the structure of that value: the kinds, the items
and the entries in their order, repeated keys included.  An object whose first key is that of
numbers is the exception; it is read as the number under that key.
-/

namespace JsonTables.JsonText

variable {tree other found document : Json} {bytes : Bytes}

/-- A value that a document spells is read as what it becomes. -/
theorem SpellsDocument.value_eq_ok {objects : NumberObjects} (spells : SpellsDocument tree bytes)
    (becomes : Becomes objects tree found) {depth : Nat} (fits : tree.depth ≤ depth) :
    ∃ rest, value objects depth bytes = .ok (found, rest) ∧ AreBlank rest := by
  cases spells with
  | @between before text after beforeBlank spells afterBlank =>
      have ends := afterBlank.endsNumber endsNumber_nil
      rw [List.append_nil] at ends
      refine ⟨after, ?_, afterBlank⟩
      rw [List.append_assoc, beforeBlank.value_append]
      exact spells.readsAs becomes fits after ends

/-- Bytes spell one value at most. -/
theorem SpellsDocument.unique (spells : SpellsDocument tree bytes)
    (spellsOther : SpellsDocument other bytes) : other = tree := by
  rcases spells.value_eq_ok (becomes_kept tree) (Nat.le_max_left tree.depth other.depth) with
    ⟨rest, isRead, _⟩
  rcases spellsOther.value_eq_ok (becomes_kept other)
    (Nat.le_max_right tree.depth other.depth) with ⟨otherRest, otherRead, _⟩
  rw [isRead, Except.ok.injEq, Prod.mk.injEq] at otherRead
  exact otherRead.1.symm

theorem spellsDocument_render (integers : tree.HasIntegers) :
    SpellsDocument tree (bytesOf tree.render) := by
  have document : SpellsDocument tree ([] ++ bytesOf tree.render ++ []) :=
    .between .nil (spells_render integers) .nil
  rwa [List.nil_append, List.append_nil] at document

/-- Bytes are a document just if they spell a value, within the depth of the reader, that
becomes the document. -/
theorem ofBytes_eq_ok_iff_spells :
    ofBytes bytes = .ok document ↔
      ∃ tree, SpellsDocument tree bytes ∧ BecomesWithin documentObjects maxDepth tree document := by
  rw [ofBytes_eq_ok_iff]
  constructor
  · rintro ⟨rest, isRead, isEnd⟩
    rcases value_readsOnly documentObjects maxDepth trivial isRead with
      ⟨before, text, beforeBlank, ⟨tree, spells, becomes⟩, rfl⟩
    have restBlank : AreBlank rest := List.dropWhile_eq_nil_iff.mp isEnd
    exact ⟨tree, .between beforeBlank spells restBlank, becomes⟩
  · rintro ⟨tree, spells, fits, becomes⟩
    rcases spells.value_eq_ok becomes fits with ⟨rest, isRead, restBlank⟩
    exact ⟨rest, isRead, skipBlanks_of_blank restBlank⟩

/-- A document has the structure of the one value that its text spells, and is that value just
if no object in it is taken for a number. -/
theorem documents_keep_their_structure {text : String} (isDocument : ofText text = .ok document) :
    ∃ tree, SpellsDocument tree (bytesOf text) ∧
      (∀ other, SpellsDocument other (bytesOf text) → other = tree) ∧
      Becomes documentObjects tree document ∧
      (document = tree ↔ KeepsObjects documentObjects tree) := by
  rcases ofBytes_eq_ok_iff_spells.mp isDocument with ⟨tree, spells, _, becomes⟩
  exact ⟨tree, spells, fun _ => spells.unique, becomes, becomes.eq_iff⟩

/-- A key may come again, and its entries stay where they are. -/
theorem repeated_keys_stay_in_order :
    let text := "\x7b\"a\":[],\"a\":1\x7d"
    let document := Json.object [("a", .array []), ("a", .number "1")]
    ofText text = .ok document ∧ SpellsDocument document (bytesOf text) ∧
      (∀ other, SpellsDocument other (bytesOf text) → other = document) ∧
      KeepsObjects documentObjects document := by
  intro text document
  have isDocument : ofText text = .ok document := by
    dsimp only [text, document]
    with_unfolding_all rfl
  have integers : document.HasIntegers := ⟨trivial, ⟨1, rfl⟩, trivial⟩
  have isText : text = document.render := by cbv
  rcases documents_keep_their_structure isDocument with ⟨tree, spells, unique, _, eq_iff⟩
  have isTree : document = tree := by
    apply unique
    rw [isText]
    exact spellsDocument_render integers
  have keeps := eq_iff.mp isTree
  rw [← isTree] at spells unique keeps
  exact ⟨isDocument, spells, unique, keeps⟩

/-- An object is read as a number where its only key is that of numbers. -/
theorem object_under_the_number_key_is_a_number :
    let text := "\x7b\"$serde_json::private::Number\":\"1\"\x7d"
    let tree := Json.object [("$serde_json::private::Number", .string "1")]
    SpellsDocument tree (bytesOf text) ∧ ofText text = .ok (.number "1") := by
  intro text tree
  have isText : text = tree.render := by cbv
  have spells : SpellsDocument tree (bytesOf text) := by
    rw [isText]
    exact spellsDocument_render ⟨trivial, trivial⟩
  have notKept : documentObjects ≠ .kept := by
    rw [documentObjects]
    rintro ⟨⟩
  have becomes : Becomes documentObjects tree (.number "1") :=
    .taken notKept (spellsNumber_integerToken 1)
  exact ⟨spells, ofBytes_eq_ok_iff_spells.mpr ⟨tree, spells, by decide, becomes⟩⟩

end JsonTables.JsonText
