import Mathlib.Data.List.Nodup

/-!
# Insertion-ordered dictionaries

A dictionary lists its items in insertion order, each key once. Assigning to a
key that is present replaces its value in place; a new key goes to the end.
`countP_insert` and `values_insert` are the two facts callers need about the
values after an assignment.
-/

namespace PrivateAiWorkspace.Python

universe u v

/-- Assign a value to a key in a list of items. -/
def assign {κ : Type u} {ν : Type v} [DecidableEq κ] (key : κ) (value : ν) :
    List (κ × ν) → List (κ × ν)
  | [] => [(key, value)]
  | item :: rest =>
      if item.1 = key then (key, value) :: rest
      else item :: assign key value rest

section Assign

variable {κ : Type u} {ν : Type v} [DecidableEq κ]

theorem assign_of_not_mem {key : κ} {value : ν} {items : List (κ × ν)}
    (absent : key ∉ items.map Prod.fst) :
    assign key value items = items ++ [(key, value)] := by
  induction items with
  | nil => rfl
  | cons item rest ih =>
      simp only [List.map_cons, List.mem_cons, not_or] at absent
      simp [assign, Ne.symm absent.1, ih absent.2]

theorem map_fst_assign_of_mem {key : κ} {value : ν} {items : List (κ × ν)}
    (present : key ∈ items.map Prod.fst) :
    (assign key value items).map Prod.fst = items.map Prod.fst := by
  induction items with
  | nil => simp at present
  | cons item rest ih =>
      simp only [assign]
      split
      next same => simp [same]
      next different =>
        simp only [List.map_cons, List.mem_cons] at present ⊢
        rw [ih (present.resolve_left (Ne.symm different))]

theorem nodup_assign {key : κ} {value : ν} {items : List (κ × ν)}
    (nodup : (items.map Prod.fst).Nodup) :
    ((assign key value items).map Prod.fst).Nodup := by
  by_cases present : key ∈ items.map Prod.fst
  · rwa [map_fst_assign_of_mem present]
  · rw [assign_of_not_mem present, List.map_append]
    exact List.Nodup.append nodup (List.nodup_singleton key)
      (by simpa using present)

theorem mem_keys_assign {key other : κ} {value : ν} {items : List (κ × ν)} :
    other ∈ (assign key value items).map Prod.fst ↔
      other = key ∨ other ∈ items.map Prod.fst := by
  induction items with
  | nil => simp [assign]
  | cons item rest ih =>
      by_cases same : item.1 = key
      · simp [assign, same]
      · simp only [assign, same, if_false, List.map_cons, List.mem_cons, ih]
        exact or_left_comm

/-- An assignment within a selection of the items is one to the selection. -/
theorem filter_assign_of_kept {keep : κ × ν → Bool} {key : κ} {old value : ν}
    {items : List (κ × ν)} (nodup : (items.map Prod.fst).Nodup)
    (found : (key, old) ∈ items) (selected : keep (key, old))
    (selects : keep (key, value)) :
    (assign key value items).filter keep =
      assign key value (items.filter keep) := by
  induction items with
  | nil => cases found
  | cons item rest ih =>
      simp only [List.map_cons, List.nodup_cons] at nodup
      by_cases same : item.1 = key
      · have here : item = (key, old) := by
          rcases List.mem_cons.mp found with equal | later
          · exact equal.symm
          · exact absurd (List.mem_map_of_mem (f := Prod.fst) later)
              (same ▸ nodup.1)
        simp [here, assign, selected, selects]
      · have later : (key, old) ∈ rest := by
          rcases List.mem_cons.mp found with equal | later
          · exact absurd (congrArg Prod.fst equal).symm same
          · exact later
        have others := ih nodup.2 later
        by_cases chosen : keep item
        · simp [assign, same, chosen, others]
        · simp [assign, same, chosen, others]

/-- An assignment outside a selection of the items does not show in it. -/
theorem filter_assign_of_dropped {keep : κ × ν → Bool} {key : κ}
    {old value : ν} {items : List (κ × ν)}
    (nodup : (items.map Prod.fst).Nodup) (found : (key, old) ∈ items)
    (left : ¬ keep (key, old)) (leaves : ¬ keep (key, value)) :
    (assign key value items).filter keep = items.filter keep := by
  induction items with
  | nil => cases found
  | cons item rest ih =>
      simp only [List.map_cons, List.nodup_cons] at nodup
      by_cases same : item.1 = key
      · have here : item = (key, old) := by
          rcases List.mem_cons.mp found with equal | later
          · exact equal.symm
          · exact absurd (List.mem_map_of_mem (f := Prod.fst) later)
              (same ▸ nodup.1)
        simp [here, assign, left, leaves]
      · have later : (key, old) ∈ rest := by
          rcases List.mem_cons.mp found with equal | later
          · exact absurd (congrArg Prod.fst equal).symm same
          · exact later
        simp [assign, same, List.filter_cons, ih nodup.2 later]

end Assign

/-- A dictionary. -/
structure Dict (κ : Type u) (ν : Type v) where
  items : List (κ × ν)
  nodup : (items.map Prod.fst).Nodup

namespace Dict

variable {κ : Type u} {ν : Type v}

/-- The dictionary without items. -/
def empty : Dict κ ν := ⟨[], List.nodup_nil⟩

/-- `values()`. -/
def values (dict : Dict κ ν) : List ν := dict.items.map Prod.snd

@[simp] theorem values_empty : (empty : Dict κ ν).values = [] := rfl

@[ext] theorem ext {left right : Dict κ ν} (equal : left.items = right.items) :
    left = right := by
  cases left
  cases right
  cases equal
  rfl

variable [DecidableEq κ]

/-- `dict.get(key)`. -/
def get? (dict : Dict κ ν) (key : κ) : Option ν :=
  (dict.items.find? fun item => item.1 = key).map Prod.snd

/-- `dict[key] = value`. -/
def insert (dict : Dict κ ν) (key : κ) (value : ν) : Dict κ ν :=
  ⟨assign key value dict.items, nodup_assign dict.nodup⟩

/-- `del dict[key]` of a key that is present. -/
def erase (dict : Dict κ ν) (key : κ) : Dict κ ν :=
  ⟨dict.items.filter fun item => item.1 ≠ key,
    dict.nodup.sublist (List.filter_sublist.map Prod.fst)⟩

@[simp] theorem get?_empty (key : κ) : (empty : Dict κ ν).get? key = none := rfl

theorem get?_eq_some_iff {dict : Dict κ ν} {key : κ} {value : ν} :
    dict.get? key = some value ↔ (key, value) ∈ dict.items := by
  obtain ⟨items, nodup⟩ := dict
  induction items with
  | nil => simp [get?]
  | cons item rest ih =>
      obtain ⟨name, stored⟩ := item
      simp only [List.map_cons, List.nodup_cons] at nodup
      by_cases same : name = key
      · subst same
        have absent : (name, value) ∉ rest := fun member =>
          nodup.1 (List.mem_map_of_mem (f := Prod.fst) member)
        simp [get?, absent, eq_comm]
      · have others := ih nodup.2
        simp only [get?] at others ⊢
        simp [same, Ne.symm same, others]

theorem get?_eq_none_iff {dict : Dict κ ν} {key : κ} :
    dict.get? key = none ↔ key ∉ dict.items.map Prod.fst := by
  constructor
  · intro missing member
    obtain ⟨⟨_, value⟩, stored, rfl⟩ := List.mem_map.mp member
    rw [get?_eq_some_iff.mpr stored] at missing
    cases missing
  · intro absent
    cases found : dict.get? key with
    | none => rfl
    | some value =>
        exact absurd (List.mem_map_of_mem (f := Prod.fst)
          (get?_eq_some_iff.mp found)) absent

private theorem find?_assign (items : List (κ × ν)) (key other : κ)
    (value : ν) :
    ((assign key value items).find? fun item => item.1 = other) =
      if other = key then some (key, value)
      else items.find? fun item => item.1 = other := by
  induction items with
  | nil =>
      by_cases same : other = key
      · simp [assign, same]
      · simp [assign, same, Ne.symm same]
  | cons item rest ih =>
      simp only [assign]
      split
      next here =>
        by_cases same : other = key
        · simp [same]
        · have skipped : ¬ item.1 = other := fun equal =>
            same (equal.symm.trans here)
          simp [same, Ne.symm same, skipped]
      next elsewhere =>
        by_cases there : item.1 = other
        · have skipped : ¬ other = key := fun equal =>
            elsewhere (there.trans equal)
          simp [there, skipped]
        · simp [there, ih]

theorem get?_insert (dict : Dict κ ν) (key other : κ) (value : ν) :
    (dict.insert key value).get? other =
      if other = key then some value else dict.get? other := by
  simp only [get?, insert, find?_assign]
  split <;> rfl

@[simp] theorem get?_insert_self (dict : Dict κ ν) (key : κ) (value : ν) :
    (dict.insert key value).get? key = some value := by
  simp [get?_insert]

theorem mem_values_iff {dict : Dict κ ν} {value : ν} :
    value ∈ dict.values ↔ ∃ key, dict.get? key = some value := by
  simp [values, get?_eq_some_iff]

theorem mem_values_of_get? {dict : Dict κ ν} {key : κ} {value : ν}
    (found : dict.get? key = some value) : value ∈ dict.values :=
  mem_values_iff.mpr ⟨key, found⟩

/-- A new key puts its value after all others. -/
theorem values_insert_of_none {dict : Dict κ ν} {key : κ} (value : ν)
    (missing : dict.get? key = none) :
    (dict.insert key value).values = dict.values ++ [value] := by
  simp [values, insert, assign_of_not_mem (get?_eq_none_iff.mp missing)]

/-- Assigning to a present key replaces one value in place. -/
theorem values_insert_of_some {dict : Dict κ ν} {key : κ} {old : ν} (value : ν)
    (found : dict.get? key = some old) :
    ∃ before after, dict.values = before ++ old :: after ∧
      (dict.insert key value).values = before ++ value :: after := by
  obtain ⟨items, nodup⟩ := dict
  have member := get?_eq_some_iff.mp found
  clear found
  simp only [values, insert] at member ⊢
  induction items with
  | nil => simp at member
  | cons item rest ih =>
      simp only [List.map_cons, List.nodup_cons] at nodup
      by_cases same : item.1 = key
      · have here : item = (key, old) := by
          rcases List.mem_cons.mp member with equal | later
          · exact equal.symm
          · exact absurd (List.mem_map_of_mem (f := Prod.fst) later)
              (same ▸ nodup.1)
        exact ⟨[], rest.map Prod.snd, by simp [here], by simp [assign, same]⟩
      · have later : (key, old) ∈ rest := by
          rcases List.mem_cons.mp member with equal | later
          · exact absurd (congrArg Prod.fst equal).symm same
          · exact later
        obtain ⟨before, after, unchanged, changed⟩ := ih nodup.2 later
        exact ⟨item.2 :: before, after, by simp [unchanged],
          by simp [assign, same, changed]⟩

/-- How many values satisfy a test after an assignment: the old value of the
key, if any, no longer counts and the new one may. -/
theorem countP_insert (dict : Dict κ ν) (key : κ) (value : ν)
    (test : ν → Bool) :
    (dict.insert key value).values.countP test +
        (if (dict.get? key).any test then 1 else 0) =
      dict.values.countP test + (if test value then 1 else 0) := by
  cases found : dict.get? key with
  | none =>
      simp [values_insert_of_none value found, List.countP_append,
        List.countP_singleton]
  | some old =>
      obtain ⟨before, after, unchanged, changed⟩ :=
        values_insert_of_some value found
      simp only [unchanged, changed, List.countP_append, List.countP_cons,
        Option.any_some]
      omega

end Dict

end PrivateAiWorkspace.Python
