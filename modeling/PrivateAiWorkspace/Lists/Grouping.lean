import Mathlib.Algebra.GroupWithZero.Nat
import Mathlib.Data.List.Chain

/-!
# Greedy grouping

Items are put into groups in their order: an item joins the group before it as
long as that group has room for it, and opens a group of its own otherwise. The
result is characterised by `flatten_group`, `grown_of_mem_group` and
`isChain_group`.
-/

namespace PrivateAiWorkspace.Lists

universe u

variable {α : Type u} (room : List α → α → Bool)

/-- The groups of some items, when the first of them may join a group. -/
def group (current : List α) : List α → List (List α)
  | [] => if current.isEmpty then [] else [current]
  | item :: items =>
      if !current.isEmpty && !room current item then
        current :: group [item] items
      else group (current ++ [item]) items

/-- A group that had room for each of its items but the first. -/
inductive Grown : List α → Prop where
  | single (item : α) : Grown [item]
  | join {items : List α} {item : α} (before : Grown items)
      (hasRoom : room items item = true) : Grown (items ++ [item])

/-- The second group could not have begun any earlier: the first has no room
for its first item. -/
def Divided (first second : List α) : Prop :=
  ∀ item ∈ second.head?, room first item = false

variable {room}

theorem Grown.ne_nil {items : List α} (grown : Grown room items) :
    items ≠ [] := by
  cases grown <;> simp

/-- What holds of a group of one item and of every group that had room for its
last one holds of a grown group. -/
theorem Grown.single_or {items : List α} (grown : Grown room items)
    (fits : List α → Prop)
    (fits_of_room : ∀ group item, Grown room group → room group item = true →
      fits (group ++ [item])) :
    (∃ item, items = [item]) ∨ fits items := by
  cases grown with
  | single item => exact Or.inl ⟨item, rfl⟩
  | join before hasRoom => exact Or.inr (fits_of_room _ _ before hasRoom)

/-- No item is lost, doubled or moved. -/
theorem flatten_group (current items : List α) :
    (group room current items).flatten = current ++ items := by
  induction items generalizing current with
  | nil => cases current <;> simp [group]
  | cons item items ih =>
      rw [group]
      split
      · rw [List.flatten_cons, ih, List.singleton_append]
      · rw [ih, List.append_assoc, List.singleton_append]

theorem grown_of_mem_group {current items member : List α}
    (begun : current = [] ∨ Grown room current)
    (mem : member ∈ group room current items) : Grown room member := by
  induction items generalizing current with
  | nil =>
      rw [group] at mem
      split at mem
      · cases mem
      next nonempty =>
        rw [List.mem_singleton.mp mem]
        exact begun.resolve_left fun empty => nonempty (by simp [empty])
  | cons item items ih =>
      rw [group] at mem
      split at mem
      next full =>
        rcases List.mem_cons.mp mem with rfl | later
        · exact begun.resolve_left fun empty => by simp [empty] at full
        · exact ih (Or.inr (Grown.single item)) later
      next free =>
        apply ih (Or.inr _) mem
        rcases begun with rfl | grown
        · exact Grown.single item
        · have nonempty := grown.ne_nil
          exact Grown.join grown (by simpa [nonempty] using free)

/-- The first group begins with the group that was open. -/
theorem head?_group {current : List α} (nonempty : current ≠ [])
    (items : List α) :
    ∃ first rest, group room current items = first :: rest ∧
      first.head? = current.head? := by
  induction items generalizing current with
  | nil => exact ⟨current, [], by simp [group, nonempty], rfl⟩
  | cons item items ih =>
      rw [group]
      split
      · exact ⟨current, group room [item] items, rfl, rfl⟩
      · have longer : current ++ [item] ≠ [] := by simp
        rcases ih longer with ⟨first, rest, groups, head⟩
        refine ⟨first, rest, groups, head.trans ?_⟩
        exact List.head?_append_of_ne_nil _ nonempty

/-- Each group is closed only when the next item does not fit. -/
theorem isChain_group (current items : List α) :
    (group room current items).IsChain (Divided room) := by
  induction items generalizing current with
  | nil =>
      rw [group]
      split
      · exact List.IsChain.nil
      · exact List.IsChain.singleton current
  | cons item items ih =>
      rw [group]
      split
      next full =>
        have begun : [item] ≠ [] := List.cons_ne_nil item []
        rcases @head?_group α room [item] begun items with
          ⟨first, rest, groups, head⟩
        have later := ih [item]
        rw [groups] at later ⊢
        refine List.IsChain.cons_cons ?_ later
        intro other isHead
        rw [head, List.head?_cons, Option.mem_some_iff] at isHead
        rw [← isHead]
        rw [Bool.and_eq_true, Bool.not_eq_true', Bool.not_eq_true'] at full
        exact full.2
      · exact ih _

/-- Where neighbours together reach a bound, half of the items reach it on
average. -/
theorem half_mul_le_sum {measure : α → Nat} {bound : Nat} : ∀ {items : List α},
    items.IsChain (fun first second => bound ≤ measure first + measure second) →
      items.length / 2 * bound ≤ (items.map measure).sum
  | [], _ => by simp
  | [_], _ => by simp
  | first :: second :: rest, chain => by
      have neighbours := (List.isChain_cons_cons.mp chain).1
      have later := half_mul_le_sum (List.isChain_cons_cons.mp chain).2.tail
      have count : (first :: second :: rest).length / 2 = rest.length / 2 + 1 := by
        rw [List.length_cons, List.length_cons]
        omega
      rw [List.tail_cons] at later
      rw [count, Nat.succ_mul, List.map_cons, List.map_cons, List.sum_cons,
        List.sum_cons]
      omega

end PrivateAiWorkspace.Lists
