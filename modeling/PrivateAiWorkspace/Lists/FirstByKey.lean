import Mathlib.Data.List.Nodup
import Mathlib.Data.List.Perm.Subperm

/-!
# The first items with different keys

A collector walks through items, keeps those whose key it has not seen, and stops
when it has enough. What it keeps is the beginning of the list without its
repeated keys, and it does not matter whether it walks through a list at once, in
several pieces, or through what another collector has kept of a piece.
-/

namespace PrivateAiWorkspace.Lists

variable {α κ : Type} [DecidableEq κ]

/-- The first so many items of a list that have different keys. -/
def firstByKey (key : α → κ) (most : Nat) (items : List α) : List α :=
  (items.eraseDupsBy fun later earlier => key later == key earlier).take most

/-- Keep one more item, when there is room and its key is new. -/
def keepNew (key : α → κ) (most : Nat) (kept : List α) (item : α) : List α :=
  if kept.length < most ∧ key item ∉ kept.map key then kept ++ [item] else kept

/-- No more items than wanted, each with a key of its own. -/
structure Selected (key : α → κ) (most : Nat) (kept : List α) : Prop where
  nodup : (kept.map key).Nodup
  few : kept.length ≤ most

variable {key : α → κ} {most : Nat} {kept items : List α} {item : α}

omit [DecidableEq κ] in
theorem Selected.nil : Selected key most [] :=
  ⟨List.nodup_nil, Nat.zero_le most⟩

theorem Selected.keepNew (selected : Selected key most kept) (item : α) :
    Selected key most (keepNew key most kept item) := by
  rw [Lists.keepNew]
  split
  next new =>
    constructor
    · rw [List.map_append, List.map_singleton]
      apply selected.nodup.append (List.nodup_singleton _)
      rw [List.disjoint_singleton]
      exact new.2
    · rw [List.length_append, List.length_singleton]
      exact new.1
  next => exact selected

theorem Selected.foldl (selected : Selected key most kept) (items : List α) :
    Selected key most (items.foldl (Lists.keepNew key most) kept) := by
  induction items generalizing kept with
  | nil => exact selected
  | cons item items ih => exact ih (selected.keepNew item)

/-! ## A collector that is full or has seen the key -/

theorem keepNew_of_full (full : most ≤ kept.length) :
    keepNew key most kept item = kept :=
  if_neg fun new => Nat.not_lt_of_le full new.1

theorem keepNew_of_seen (seen : key item ∈ kept.map key) :
    keepNew key most kept item = kept :=
  if_neg fun new => new.2 seen

theorem foldl_keepNew_of_full (full : most ≤ kept.length) :
    items.foldl (keepNew key most) kept = kept := by
  induction items with
  | nil => rfl
  | cons item items ih => rw [List.foldl_cons, keepNew_of_full full, ih]

/-- What a collector has kept, it keeps. -/
theorem foldl_keepNew_eq_append (kept items : List α) :
    ∃ more, items.foldl (keepNew key most) kept = kept ++ more := by
  induction items generalizing kept with
  | nil => exact ⟨[], (List.append_nil kept).symm⟩
  | cons item items ih =>
      rcases ih (keepNew key most kept item) with ⟨more, eq⟩
      rw [List.foldl_cons, eq, keepNew]
      split
      · exact ⟨item :: more, List.append_assoc kept [item] more⟩
      · exact ⟨more, rfl⟩

/-- After a walk a collector is full or has seen every key of the list. -/
theorem full_or_seen (member : item ∈ items) :
    most ≤ (items.foldl (keepNew key most) kept).length ∨
      key item ∈ (items.foldl (keepNew key most) kept).map key := by
  induction items generalizing kept with
  | nil => cases member
  | cons head items ih =>
      rcases List.mem_cons.mp member with rfl | later
      · rcases @foldl_keepNew_eq_append α κ _ key most (keepNew key most kept item)
          items with ⟨more, eq⟩
        rw [List.foldl_cons, eq, List.length_append, List.map_append,
          List.mem_append, keepNew]
        split
        · exact .inr (.inl (by simp))
        next old =>
          by_cases room : kept.length < most
          · exact .inr (.inl (Decidable.not_not.mp fun new => old ⟨room, new⟩))
          · exact .inl (Nat.le_add_right_of_le (Nat.le_of_not_lt room))
      · exact ih later

/-! ## Pieces of a list -/

/-- Going through what a full collector has kept fills another one. -/
theorem full_of_selected (selected : Selected key most items)
    (full : most ≤ items.length) :
    most ≤ (items.foldl (keepNew key most) kept).length := by
  by_contra room
  have seen : ∀ item ∈ items,
      key item ∈ (items.foldl (keepNew key most) kept).map key :=
    fun item member => (full_or_seen member).resolve_left room
  have within : items.map key ⊆
      (items.foldl (keepNew key most) kept).map key := by
    intro name member
    rcases List.mem_map.mp member with ⟨item, within, rfl⟩
    exact seen item within
  have few := (selected.nodup.subperm within).length_le
  rw [List.length_map, List.length_map] at few
  exact room (Nat.le_trans full few)

/-- A piece of which another collector has kept what it needs is as good as the
whole piece. -/
theorem foldl_foldl_keepNew (first kept : List α) (selected : Selected key most first) :
    (items.foldl (keepNew key most) first).foldl (keepNew key most) kept =
      items.foldl (keepNew key most) (first.foldl (keepNew key most) kept) := by
  induction items generalizing first with
  | nil => rfl
  | cons item items ih =>
      rw [List.foldl_cons, ih _ (selected.keepNew item), List.foldl_cons]
      congr 1
      rw [keepNew]
      split
      · rw [List.foldl_append, List.foldl_cons, List.foldl_nil]
      next old =>
        by_cases room : first.length < most
        · have seen : key item ∈ first.map key :=
            Decidable.not_not.mp fun new => old ⟨room, new⟩
          rcases List.mem_map.mp seen with ⟨other, member, same⟩
          rcases @full_or_seen _ _ _ key most kept _ _ member with full | seen
          · exact (keepNew_of_full full).symm
          · exact (keepNew_of_seen (same ▸ seen)).symm
        · exact (keepNew_of_full
            (full_of_selected selected (Nat.le_of_not_lt room))).symm

/-! ## What is kept -/

theorem foldl_keepNew (few : kept.length ≤ most) :
    items.foldl (keepNew key most) kept =
      (kept ++ (items.filter fun item => decide (key item ∉ kept.map key)).eraseDupsBy
        fun later earlier => key later == key earlier).take most := by
  induction items generalizing kept with
  | nil =>
      rw [List.filter_nil, List.eraseDupsBy_nil, List.append_nil]
      exact (List.take_of_length_le few).symm
  | cons item items ih =>
      rw [List.foldl_cons, keepNew]
      split
      next new =>
        have longer : (kept ++ [item]).length ≤ most := by
          rw [List.length_append]
          exact new.1
        rw [ih longer, List.filter_cons_of_pos (by simpa using new.2),
          List.eraseDupsBy_cons, List.filter_filter, List.append_assoc,
          List.singleton_append]
        congr 5
        funext other
        rw [List.map_append]
        simp [or_comm]
      next old =>
        by_cases room : kept.length < most
        · have seen : key item ∈ kept.map key :=
            Decidable.not_not.mp fun new => old ⟨room, new⟩
          rw [ih few, List.filter_cons_of_neg (by simpa using seen)]
        · have full := Nat.le_antisymm few (Nat.le_of_not_lt room)
          rw [foldl_keepNew_of_full (Nat.le_of_eq full.symm), List.take_left' full]

/-- A collector that starts with nothing keeps the first items with different
keys. -/
theorem firstByKey_eq (key : α → κ) (most : Nat) (items : List α) :
    firstByKey key most items = items.foldl (keepNew key most) [] := by
  rw [foldl_keepNew (Nat.zero_le most), List.nil_append, firstByKey]
  congr 2
  exact (List.filter_eq_self.mpr (by simp)).symm

theorem selected_firstByKey (key : α → κ) (most : Nat) (items : List α) :
    Selected key most (firstByKey key most items) := by
  rw [firstByKey_eq]
  exact Selected.nil.foldl items

end PrivateAiWorkspace.Lists
