import Mathlib.Data.List.DropRight

/-!
# Trimming

A list loses the blanks at its ends. What is left has no blank at an end, and
it is the only such part between two stretches of blanks.
-/

namespace PrivateAiWorkspace.Lists

universe u

variable {α : Type u} (blank : α → Bool)

/-- A list without the blanks at its ends. -/
def trim (items : List α) : List α := (items.dropWhile blank).rdropWhile blank

/-- A list that begins and ends with no blank. -/
structure Trimmed (items : List α) : Prop where
  head : ∀ first, items.head? = some first → blank first = false
  last : ∀ final, items.getLast? = some final → blank final = false

variable {blank}

/-- Blanks before an item that is none are dropped up to that item. -/
theorem dropWhile_append_of_head {before items : List α}
    (blanks : ∀ item ∈ before, blank item = true)
    (stops : ∀ first, items.head? = some first → blank first = false) :
    (before ++ items).dropWhile blank = items := by
  rw [List.dropWhile_append_of_pos blanks]
  cases items with
  | nil => rfl
  | cons first rest => simp [stops first rfl]

theorem dropWhile_of_head {items : List α}
    (stops : ∀ first, items.head? = some first → blank first = false) :
    items.dropWhile blank = items := by
  rw [← List.nil_append items]
  exact dropWhile_append_of_head (fun _ none => nomatch none) stops

/-- Items of a kind are taken up to the first one that is of another. -/
theorem takeWhile_append_of_head {before items : List α}
    (blanks : ∀ item ∈ before, blank item = true)
    (stops : ∀ first, items.head? = some first → blank first = false) :
    (before ++ items).takeWhile blank = before := by
  rw [List.takeWhile_append_of_pos blanks]
  cases items with
  | nil => simp
  | cons first rest => simp [stops first rfl]

theorem rdropWhile_append_of_last {items after : List α}
    (blanks : ∀ item ∈ after, blank item = true)
    (stops : ∀ final, items.getLast? = some final → blank final = false) :
    (items ++ after).rdropWhile blank = items := by
  rw [List.rdropWhile, List.reverse_append, dropWhile_append_of_head,
    List.reverse_reverse]
  · exact fun item mem => blanks item (List.mem_reverse.mp mem)
  · exact fun first found => stops first (by rwa [List.head?_reverse] at found)

/-- Nothing is dropped from the end of a list exactly if it ends with no blank. -/
theorem rdropWhile_eq_self_iff_getLast? {items : List α} :
    items.rdropWhile blank = items ↔
      ∀ final, items.getLast? = some final → blank final = false := by
  rw [List.rdropWhile_eq_self_iff]
  constructor
  · intro stops final found
    have nonempty : items ≠ [] := List.ne_nil_of_mem (List.mem_of_getLast? found)
    rw [List.getLast?_eq_some_getLast nonempty] at found
    rw [← Option.some.inj found]
    exact Bool.eq_false_iff.mpr (stops nonempty)
  · intro stops nonempty
    rw [stops _ (List.getLast?_eq_some_getLast nonempty)]
    exact Bool.false_ne_true

/-- Blanks are dropped behind an item that is none. -/
theorem rdropWhile_append_of_kept {before items : List α}
    (stops : ∀ final, before.getLast? = some final → blank final = false) :
    (before ++ items).rdropWhile blank = before ++ items.rdropWhile blank := by
  induction items using List.reverseRecOn with
  | nil =>
      rw [List.rdropWhile_nil, List.append_nil]
      exact rdropWhile_eq_self_iff_getLast?.mpr stops
  | append_singleton rest final ih =>
      rw [← List.append_assoc, List.rdropWhile_concat, List.rdropWhile_concat]
      split
      · exact ih
      · exact List.append_assoc before rest [final]

variable (blank) in
/-- A list is its trimmed part between blanks. -/
theorem exists_trim (items : List α) : ∃ before after,
    (∀ item ∈ before, blank item = true) ∧ (∀ item ∈ after, blank item = true) ∧
      items = before ++ trim blank items ++ after := by
  refine ⟨items.takeWhile blank, (items.dropWhile blank).rtakeWhile blank, ?_, ?_, ?_⟩
  · exact fun item mem => List.mem_takeWhile_imp mem
  · exact fun item mem => List.mem_rtakeWhile_imp mem
  · rw [trim, List.append_assoc, List.rdropWhile_append_rtakeWhile,
      List.takeWhile_append_dropWhile]

theorem head?_dropWhile_eq_false {items : List α} {first : α}
    (found : (items.dropWhile blank).head? = some first) : blank first = false := by
  have stops := List.head?_dropWhile_not blank items
  rw [found] at stops
  exact stops

variable (blank) in
theorem trimmed_trim (items : List α) : Trimmed blank (trim blank items) where
  head := by
    intro first found
    have initial : trim blank items <+: items.dropWhile blank :=
      List.rdropWhile_prefix blank _
    rcases initial with ⟨after, split⟩
    apply @head?_dropWhile_eq_false _ blank items
    rw [← split, List.head?_append, found]
    rfl
  last := by
    intro final found
    rw [trim, List.rdropWhile, List.getLast?_reverse] at found
    exact head?_dropWhile_eq_false found

/-- The part between two stretches of blanks is what trimming leaves. -/
theorem trim_append_of_trimmed {before items after : List α}
    (blanksBefore : ∀ item ∈ before, blank item = true)
    (blanksAfter : ∀ item ∈ after, blank item = true) (nonempty : items ≠ [])
    (trimmed : Trimmed blank items) :
    trim blank (before ++ (items ++ after)) = items := by
  have stops : ∀ first, (items ++ after).head? = some first → blank first = false := by
    intro first found
    rw [List.head?_append_of_ne_nil _ nonempty] at found
    exact trimmed.head first found
  rw [trim, dropWhile_append_of_head blanksBefore stops]
  exact rdropWhile_append_of_last blanksAfter trimmed.last

variable (blank) in
theorem trim_sublist (items : List α) : (trim blank items).Sublist items :=
  (List.rdropWhile_prefix blank _).sublist.trans (List.dropWhile_suffix blank).sublist

theorem trim_ne_nil {items : List α} {item : α} (mem : item ∈ items)
    (letter : blank item = false) : trim blank items ≠ [] := by
  rcases exists_trim blank items with ⟨before, after, blanksBefore,
    blanksAfter, split⟩
  intro empty
  rw [split, empty, List.append_nil, List.mem_append] at mem
  rcases mem with mem | mem
  · rw [blanksBefore item mem] at letter
    cases letter
  · rw [blanksAfter item mem] at letter
    cases letter

end PrivateAiWorkspace.Lists
