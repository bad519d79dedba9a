import Mathlib.Data.List.Basic

/-!
# Items that a history leaves

Some entries of a history add an item and some remove items. The survivors are the
items that were added and that no later entry removes, in the order in which they
were added.
-/

namespace PrivateAiWorkspace.Survivors

variable {op α : Type} (adds : op → Option α) (removes : op → α → Bool)

/-- The items that no later entry removes. -/
def survivors : List op → List α
  | [] => []
  | one :: later =>
      ((adds one).filter fun item => !later.any (removes · item)).toList ++
        survivors later

variable {adds removes}

/-- What later entries leave of the survivors comes before their own. -/
theorem survivors_append (history later : List op) :
    survivors adds removes (history ++ later) =
      (survivors adds removes history).filter
        (fun item => !later.any (removes · item)) ++ survivors adds removes later := by
  induction history with
  | nil => rfl
  | cons first rest ih =>
      simp only [List.cons_append, survivors, ih, List.filter_append, List.append_assoc]
      congr 1
      cases added : adds first with
      | none => rfl
      | some item =>
          cases gone : rest.any (removes · item) <;>
            cases after : later.any (removes · item) <;>
              simp [Option.filter_some, gone, after]

/-- An entry removes some of the survivors and may add one. -/
theorem survivors_snoc (history : List op) (one : op) :
    survivors adds removes (history ++ [one]) =
      (survivors adds removes history).filter (fun item => !removes one item) ++
        (adds one).toList := by
  have single : survivors adds removes [one] = (adds one).toList := by
    cases added : adds one <;> simp [survivors, added]
  simp [survivors_append, single]

/-- A survivor was added by an entry with no later one that removes it. -/
theorem mem_survivors_iff {history : List op} {item : α} :
    item ∈ survivors adds removes history ↔
      ∃ before one after, history = before ++ one :: after ∧ adds one = some item ∧
        ∀ later ∈ after, removes later item = false := by
  induction history with
  | nil => simp [survivors]
  | cons first rest ih =>
      simp only [survivors, List.mem_append, ih, Option.mem_toList,
        Option.filter_eq_some_iff, Bool.not_eq_true', List.any_eq_false,
        Bool.not_eq_true]
      constructor
      · intro found
        rcases found with ⟨added, kept⟩ | ⟨before, one, after, rfl, added, kept⟩
        · exact ⟨[], first, rest, rfl, added, kept⟩
        · exact ⟨first :: before, one, after, rfl, added, kept⟩
      · intro ⟨before, one, after, split, added, kept⟩
        cases before with
        | nil =>
            cases split
            exact Or.inl ⟨added, kept⟩
        | cons head before =>
            cases split
            exact Or.inr ⟨before, one, after, rfl, added, kept⟩

/-- The survivors are among the items that were added, in the same order. -/
theorem survivors_sublist (history : List op) :
    (survivors adds removes history).Sublist (history.filterMap adds) := by
  induction history with
  | nil => exact List.Sublist.refl _
  | cons first rest ih =>
      cases added : adds first with
      | none => simpa [survivors, added] using ih
      | some item =>
          cases gone : rest.any (removes · item) with
          | true =>
              simpa [survivors, added, Option.filter_some, gone] using ih.cons item
          | false => simpa [survivors, added, Option.filter_some, gone] using ih

end PrivateAiWorkspace.Survivors
