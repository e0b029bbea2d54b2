import JsonTables.Ingest
import Mathlib

/-!
# Workers

Dealing items out in turn gives every item to one worker, so that what the workers
bring back is the items' results in another order.  The places that went along with
the items put them back: for whoever waits for the results there is one worker.
-/

namespace JsonTables.Ingest

/-- Items sorted into heaps by a number that is below the number of heaps. -/
theorem flatMap_filter_perm {α : Type} (heapOf : α → Nat) (items : List α) (heaps : Nat) :
    ((List.range heaps).flatMap fun heap => items.filter fun item => heapOf item == heap).Perm
      (items.filter fun item => heapOf item < heaps) := by
  induction heaps with
  | zero => simp
  | succ heaps ih =>
      have below : (items.filter fun item => heapOf item < heaps + 1).filter
          (fun item => heapOf item < heaps) = items.filter fun item => heapOf item < heaps := by
        rw [List.filter_filter]
        apply List.filter_congr
        intro item _
        grind
      have last : (items.filter fun item => heapOf item < heaps + 1).filter
          (fun item => !decide (heapOf item < heaps)) =
            items.filter fun item => heapOf item == heaps := by
        rw [List.filter_filter]
        apply List.filter_congr
        intro item _
        grind
      have parts := List.filter_append_perm (fun item => decide (heapOf item < heaps))
        (items.filter fun item => heapOf item < heaps + 1)
      rw [below, last] at parts
      rw [List.range_succ, List.flatMap_append, List.flatMap_singleton]
      exact (ih.append_right _).trans parts

/-- Every item falls to just one of the workers. -/
theorem flatMap_dealt_perm {α : Type} {workers : Nat} (someone : 0 < workers) (items : List α) :
    ((List.range workers).flatMap fun worker => dealt workers worker items).Perm
      items.zipIdx := by
  have heaps := flatMap_filter_perm (fun entry : α × Nat => entry.2 % workers) items.zipIdx workers
  have everyItem : (items.zipIdx.filter fun entry => entry.2 % workers < workers) =
      items.zipIdx := by
    apply List.filter_eq_self.mpr
    intro entry _
    simpa using Nat.mod_lt entry.2 someone
  rwa [everyItem] at heaps

theorem pairwise_place_lt {α : Type} (items : List α) (start : Nat) :
    (items.zipIdx start).Pairwise fun first second => first.2 < second.2 := by
  induction items generalizing start with
  | nil => exact List.Pairwise.nil
  | cons item rest ih =>
      rw [List.zipIdx_cons, List.pairwise_cons]
      refine ⟨?_, ih (start + 1)⟩
      intro entry entryMem
      exact List.le_snd_of_mem_zipIdx entryMem

/-- Sorting by places puts numbered items that are out of order back. -/
theorem mergeSort_eq_zipIdx {α : Type} {shuffled : List (α × Nat)} {items : List α}
    (perm : shuffled.Perm items.zipIdx) :
    (shuffled.mergeSort fun first second => first.2 ≤ second.2) = items.zipIdx := by
  have sorted := @List.pairwise_mergeSort _ (fun first second : α × Nat => first.2 ≤ second.2)
    (by
      intro first second third le next
      simp only [decide_eq_true_eq] at le next ⊢
      exact Nat.le_trans le next)
    (by
      intro first second
      simpa using Nat.le_total first.2 second.2)
    shuffled
  apply @List.Perm.eq_of_pairwise _ fun first second => first.2 ≤ second.2
  · -- entries of one place are one entry, since the places are different
    rintro ⟨first, place⟩ ⟨second, place'⟩ firstMem secondMem le ge
    obtain rfl : place = place' := Nat.le_antisymm le ge
    have firstAt := List.mk_mem_zipIdx_iff_getElem?.mp
      (perm.mem_iff.mp (List.mem_mergeSort.mp firstMem))
    have secondAt := List.mk_mem_zipIdx_iff_getElem?.mp secondMem
    rw [firstAt, Option.some.injEq] at secondAt
    rw [secondAt]
  · simpa using sorted
  · exact (pairwise_place_lt items 0).imp Nat.le_of_lt
  · exact (List.mergeSort_perm _ _).trans perm

theorem workOn_eq_map {α β : Type} {workers : Nat} (someone : 0 < workers) (work : α → β)
    (items : List α) : workOn workers work items = items.map work := by
  have results : ((List.range workers).flatMap fun worker =>
      (dealt workers worker items).map fun entry => (work entry.1, entry.2)).Perm
        (items.map work).zipIdx := by
    rw [List.zipIdx_map, ← List.map_flatMap]
    exact (flatMap_dealt_perm someone items).map _
  rw [workOn]
  simp only [mergeSort_eq_zipIdx results, List.zipIdx_map_fst]

end JsonTables.Ingest
