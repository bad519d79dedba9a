import Mathlib.Data.List.Sort

/-!
# The best items of a list

What is shown when a list is sorted by a score, highest first, and cut off: the items
shown are in order, and no item left out has a higher score than one that is shown.
-/

namespace PrivateAiWorkspace.Ranking

variable {α β : Type} [LinearOrder β]

/-- The items shown are the best of the items, best first. -/
structure Best (score : α → β) (count : Nat) (items shown : List α) : Prop where
  chosen : ∃ rest, (shown ++ rest).Perm items ∧
    ∀ item ∈ shown, ∀ other ∈ rest, score other ≤ score item
  length : shown.length = min count items.length
  sorted : shown.Pairwise fun first second => score second ≤ score first

/-- A comparison that agrees with the score on the items sorts them by it. -/
theorem pairwise_mergeSort {score : α → β} {leads : α → α → Bool} {items : List α}
    (agrees : ∀ first ∈ items, ∀ second ∈ items,
      leads first second = decide (score second ≤ score first)) :
    (items.mergeSort leads).Pairwise fun first second => score second ≤ score first := by
  have same : items.mergeSort leads =
      items.mergeSort fun first second => decide (score second ≤ score first) := by
    have mapped := @List.map_mergeSort _ _ leads
      (fun first second => decide (score second ≤ score first)) id items agrees
    simpa using mapped
  have sorted := @List.pairwise_mergeSort _
    (fun first second => decide (score second ≤ score first))
    (fun first second third below above => by
      simp only [decide_eq_true_eq] at below above ⊢
      exact above.trans below)
    (fun first second => by simpa using le_total (score second) (score first))
    items
  rw [same]
  simpa using sorted

/-- Sorting and cutting off shows the best items. -/
theorem best_take_mergeSort {score : α → β} {leads : α → α → Bool} {items : List α}
    (agrees : ∀ first ∈ items, ∀ second ∈ items,
      leads first second = decide (score second ≤ score first)) (count : Nat) :
    Best score count items ((items.mergeSort leads).take count) := by
  have sorted := pairwise_mergeSort agrees
  rw [← List.take_append_drop count (items.mergeSort leads), List.pairwise_append] at sorted
  constructor
  · refine ⟨(items.mergeSort leads).drop count, ?_, sorted.2.2⟩
    rw [List.take_append_drop]
    exact List.mergeSort_perm _ _
  · simp
  · exact sorted.1

end PrivateAiWorkspace.Ranking
