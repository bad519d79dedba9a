import PrivateAiWorkspace.Python.Dict

/-!
# Dictionaries of lists

A dictionary that keeps a list per key, as `data.get(key, [])` reads it. What is
done under one key leaves the lists of the other keys as they are.
-/

namespace PrivateAiWorkspace.Python

variable {κ α ρ : Type}

/-- `for index, item in enumerate(items)`: replace the first item that is meant
and return what it has become. -/
def editFirst (meant : α → Bool) (edit : α → α) : List α → Option (α × List α)
  | [] => none
  | item :: rest =>
      if meant item then some (edit item, edit item :: rest)
      else (editFirst meant edit rest).map fun found =>
        (found.1, item :: found.2)

/-- `for index, item in enumerate(items)`: delete the first item that is
meant. -/
def deleteFirst (meant : α → Bool) (items : List α) : Option (Unit × List α) :=
  if items.any meant then some ((), items.eraseP meant) else none

/-- At most one of the items is meant. -/
def AtMostOne (meant : α → Bool) (items : List α) : Prop :=
  items.Pairwise fun one other => ¬ (meant one ∧ meant other)

theorem AtMostOne.rest {meant : α → Bool} {item : α} {rest : List α}
    (single : AtMostOne meant (item :: rest)) : AtMostOne meant rest :=
  (List.pairwise_cons.mp single).2

theorem AtMostOne.others {meant : α → Bool} {item : α} {rest : List α}
    (single : AtMostOne meant (item :: rest)) (here : meant item) :
    ∀ other ∈ rest, ¬ meant other := by
  intro other member there
  exact (List.pairwise_cons.mp single).1 other member ⟨here, there⟩

/-- If at most one item is meant, it is found. -/
theorem AtMostOne.find?_eq_some {meant : α → Bool} {item : α} {items : List α}
    (single : AtMostOne meant items) (member : item ∈ items) (here : meant item) :
    items.find? meant = some item := by
  induction items with
  | nil => cases member
  | cons first rest ih =>
      rw [List.find?_cons]
      rcases List.mem_cons.mp member with same | later
      · rw [← same, here]
      · have skipped : meant first = false := by
          rw [Bool.eq_false_iff]
          exact fun meant => single.others meant item later here
        rw [skipped]
        exact ih single.rest later

/-- If at most one item is meant, it can be checked after it is found. -/
theorem AtMostOne.find?_and {meant check : α → Bool} {items : List α}
    (single : AtMostOne meant items) :
    items.find? (fun item => meant item && check item) =
      (items.find? meant).filter check := by
  induction items with
  | nil => rfl
  | cons item rest ih =>
      rw [List.find?_cons, List.find?_cons]
      by_cases here : meant item
      · have others : rest.find? (fun item => meant item && check item) = none := by
          rw [List.find?_eq_none]
          intro other member both
          rw [Bool.and_eq_true] at both
          exact single.others here other member both.1
        rw [here, Bool.true_and, others, Option.filter_some]
        cases check item <;> rfl
      · rw [Bool.eq_false_iff.mpr here, Bool.false_and]
        exact ih single.rest

/-- The first item that is meant is the one that is found. -/
theorem fst_editFirst (meant : α → Bool) (edit : α → α) (items : List α) :
    (editFirst meant edit items).map Prod.fst = (items.find? meant).map edit := by
  induction items with
  | nil => rfl
  | cons item rest ih =>
      rw [editFirst, List.find?_cons]
      cases meant item with
      | true => rfl
      | false =>
          rw [if_neg Bool.false_ne_true, Option.map_map]
          exact ih

/-- If at most one item is meant, editing the first is editing all. -/
theorem snd_editFirst {meant : α → Bool} {edit : α → α} {items : List α}
    (single : AtMostOne meant items) :
    ((editFirst meant edit items).map Prod.snd).getD items =
      items.map fun item => if meant item then edit item else item := by
  induction items with
  | nil => rfl
  | cons item rest ih =>
      rw [editFirst, List.map_cons]
      by_cases here : meant item
      · have kept : rest.map (fun item => if meant item then edit item else item) =
            rest.map id :=
          List.map_congr_left fun other member =>
            if_neg (single.others here other member)
        rw [if_pos here, if_pos here, kept, List.map_id]
        rfl
      · rw [if_neg here, if_neg here, ← ih single.rest]
        cases editFirst meant edit rest <;> rfl

/-- If at most one item is meant, deleting the first is deleting all. -/
theorem snd_deleteFirst {meant : α → Bool} {items : List α}
    (single : AtMostOne meant items) :
    ((deleteFirst meant items).map Prod.snd).getD items =
      items.filter fun item => !meant item := by
  have erased : items.eraseP meant = items.filter fun item => !meant item := by
    induction items with
    | nil => rfl
    | cons item rest ih =>
        by_cases here : meant item
        · have kept : rest.filter (fun item => !meant item) = rest :=
            List.filter_eq_self.mpr fun other member =>
              by simpa using single.others here other member
          simp [here, kept]
        · simp [here, ih single.rest]
  rw [deleteFirst]
  split
  · exact erased
  next none =>
    rw [← erased]
    exact (List.eraseP_of_forall_not (by simpa using none)).symm

namespace Dict

variable [DecidableEq κ]

/-- `data.get(key, [])`. -/
def bucket (data : Dict κ (List α)) (key : κ) : List α :=
  (data.get? key).getD []

@[simp] theorem bucket_insert (data : Dict κ (List α)) (key other : κ)
    (items : List α) :
    (data.insert key items).bucket other =
      if other = key then items else data.bucket other := by
  unfold bucket
  rw [get?_insert]
  split <;> rfl

/-- `data.setdefault(key, []).append(item)`. -/
def push (data : Dict κ (List α)) (key : κ) (item : α) : Dict κ (List α) :=
  data.insert key (data.bucket key ++ [item])

/-- Change the list under a key in place, if there is something to change. -/
def changeBucket (data : Dict κ (List α)) (key : κ)
    (change : List α → Option (ρ × List α)) : Option ρ × Dict κ (List α) :=
  match change (data.bucket key) with
  | none => (none, data)
  | some (result, items) => (some result, data.insert key items)

theorem changeBucket_fst (data : Dict κ (List α)) (key : κ)
    (change : List α → Option (ρ × List α)) :
    (data.changeBucket key change).1 =
      (change (data.bucket key)).map Prod.fst := by
  unfold changeBucket
  cases change (data.bucket key) <;> rfl

theorem bucket_changeBucket_self (data : Dict κ (List α)) (key : κ)
    (change : List α → Option (ρ × List α)) :
    (data.changeBucket key change).2.bucket key =
      ((change (data.bucket key)).map Prod.snd).getD (data.bucket key) := by
  unfold changeBucket
  cases change (data.bucket key) <;> simp

theorem bucket_changeBucket_ne (data : Dict κ (List α)) {key other : κ}
    (change : List α → Option (ρ × List α)) (different : other ≠ key) :
    (data.changeBucket key change).2.bucket other = data.bucket other := by
  unfold changeBucket
  cases change (data.bucket key) <;> simp [different]

end Dict

end PrivateAiWorkspace.Python
