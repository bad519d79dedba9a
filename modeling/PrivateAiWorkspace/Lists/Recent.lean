import Mathlib.Data.List.Basic

/-!
# The last items of a growing list

A list of which only the last items are kept: dropping the oldest after each new
item keeps the same items as dropping them once at the end.
-/

namespace PrivateAiWorkspace.Lists

variable {α β : Type}

/-- The last items, up to a number. -/
def recent (cap : Nat) (items : List α) : List α := items.drop (items.length - cap)

/-- The items before the last ones. -/
def forgotten (cap : Nat) (items : List α) : List α := items.take (items.length - cap)

theorem forgotten_append_recent (cap : Nat) (items : List α) :
    forgotten cap items ++ recent cap items = items :=
  List.take_append_drop _ items

theorem recent_of_length_le {cap : Nat} {items : List α} (short : items.length ≤ cap) :
    recent cap items = items := by
  rw [recent, Nat.sub_eq_zero_of_le short, List.drop_zero]

theorem length_recent (cap : Nat) (items : List α) :
    (recent cap items).length = min items.length cap := by
  rw [recent, List.length_drop]
  omega

theorem recent_map (cap : Nat) (f : α → β) (items : List α) :
    recent cap (items.map f) = (recent cap items).map f := by
  rw [recent, recent, List.length_map, List.map_drop]

theorem forgotten_map (cap : Nat) (f : α → β) (items : List α) :
    forgotten cap (items.map f) = (forgotten cap items).map f := by
  rw [forgotten, forgotten, List.length_map, List.map_take]

/-- It does not matter if items are dropped before a new one comes. -/
theorem recent_snoc (cap : Nat) (items : List α) (item : α) :
    recent cap (recent cap items ++ [item]) = recent cap (items ++ [item]) := by
  by_cases short : items.length ≤ cap
  · rw [recent_of_length_le short]
  · have before : items.length - cap ≤ items.length := Nat.sub_le _ _
    have once : recent cap items ++ [item] =
        (items ++ [item]).drop (items.length - cap) := by
      rw [List.drop_append_of_le_length before, recent]
    rw [once, recent, recent, List.drop_drop, List.length_drop, List.length_append,
      List.length_singleton]
    congr 1
    omega

/-- The same if the oldest is dropped only when there is no room. -/
theorem recent_push {cap : Nat} (room : 0 < cap) (items : List α) (item : α) :
    (if cap ≤ (recent cap items).length then (recent cap items).drop 1
      else recent cap items) ++ [item] = recent cap (items ++ [item]) := by
  rw [← recent_snoc]
  have length_eq := length_recent cap items
  split
  next full =>
    have drops : (recent cap items ++ [item]).length - cap = 1 := by
      rw [List.length_append, List.length_singleton]
      omega
    have nonempty : 1 ≤ (recent cap items).length := by omega
    rw [recent.eq_1 cap (recent cap items ++ [item]), drops,
      List.drop_append_of_le_length nonempty]
  next free =>
    apply (recent_of_length_le ?_).symm
    rw [List.length_append, List.length_singleton]
    omega

/-- A prefix lies within the first part exactly if it is short enough. -/
theorem take_append_eq_iff {first second : List α} {count : Nat} :
    (first ++ second).take count = first.take count ↔
      count ≤ first.length ∨ second = [] := by
  constructor
  · intro same
    by_cases short : count ≤ first.length
    · exact Or.inl short
    · have lengths := congrArg List.length same
      rw [List.length_take, List.length_take, List.length_append] at lengths
      exact Or.inr (List.length_eq_zero_iff.mp (by omega))
  · intro either
    rcases either with short | none
    · exact List.take_append_of_le_length short
    · rw [none, List.append_nil]

/-- The first items of a reversed list are the last ones of the list. -/
theorem take_reverse_eq (count : Nat) (items : List α) :
    items.reverse.take count = (recent count items).reverse := by
  rw [List.take_reverse, recent]

/-- The latest items of a selection lie within the last items exactly if these have
enough of them, or the items before them none. -/
theorem take_reverse_filter_iff {cap count : Nat} {keep : α → Bool} {items : List α} :
    ((items.filter keep).reverse.take count =
        ((recent cap items).filter keep).reverse.take count) ↔
      count ≤ (recent cap items).countP keep ∨
        ∀ item ∈ forgotten cap items, ¬ keep item := by
  have split : (items.filter keep).reverse =
      ((recent cap items).filter keep).reverse ++
        ((forgotten cap items).filter keep).reverse := by
    rw [← List.reverse_append, ← List.filter_append, forgotten_append_recent]
  rw [split, take_append_eq_iff, List.length_reverse, ← List.countP_eq_length_filter,
    List.reverse_eq_nil_iff, List.filter_eq_nil_iff]

end PrivateAiWorkspace.Lists
