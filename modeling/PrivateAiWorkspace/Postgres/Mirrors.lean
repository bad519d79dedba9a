import PrivateAiWorkspace.Postgres.Statements
import PrivateAiWorkspace.Python.Buckets

/-!
# Tables that mirror dictionaries

A table can stand for a dictionary, with a row for each item, or for a dictionary of
lists: each row belongs to a key, and the rows of a key are its list. A statement
that changes rows of one key then does what a change of that list does, if both mean
the same items and at most one of them.
-/

namespace PrivateAiWorkspace.Postgres

open Python

variable {κ α β : Type} [DecidableEq κ]

/-- The items of a key, read off the rows. -/
def readOff (owner : β → κ) (read : β → α) (rows : List β) (key : κ) : List α :=
  (rows.filter fun row => owner row = key).map read

/-- A condition on rows and one on items mean the same, among the items of a
key. -/
structure MeansAlike (owner : β → κ) (read : β → α) (rows : List β) (key : κ)
    (meantRow : β → Bool) (meant : α → Bool) : Prop where
  alike : ∀ row ∈ rows, meantRow row = (decide (owner row = key) && meant (read row))
  single : AtMostOne meantRow rows

section Changes

variable {owner : β → κ} {read : β → α} {rows : List β} {key : κ}
  {meantRow : β → Bool} {meant : α → Bool}

theorem readOff_append (rows : List β) (row : β) (key : κ) :
    readOff owner read (rows ++ [row]) key =
      readOff owner read rows key ++ if owner row = key then [read row] else [] := by
  rw [readOff, List.filter_append, List.map_append]
  by_cases own : owner row = key
  · simp [readOff, own]
  · simp [readOff, own]

/-- The item that is found is read off the row that is found. -/
theorem MeansAlike.find?_eq
    (means : MeansAlike owner read rows key meantRow meant) :
    (readOff owner read rows key).find? meant = (rows.find? meantRow).map read := by
  rw [readOff, List.find?_map, List.find?_filter]
  congr 1
  have alike := means.alike
  clear means
  induction rows with
  | nil => rfl
  | cons row rows ih =>
      have same : meantRow row = decide (decide (owner row = key) = true ∧
          (meant ∘ read) row = true) := by
        rw [alike row List.mem_cons_self]
        simp
      rw [List.find?_cons, List.find?_cons, same,
        ih fun other member => alike other (List.mem_cons_of_mem row member)]

theorem MeansAlike.atMostOne
    (means : MeansAlike owner read rows key meantRow meant) :
    AtMostOne meant (readOff owner read rows key) := by
  rw [AtMostOne, readOff, List.pairwise_map]
  apply (means.single.sublist (List.filter_sublist
    (p := fun row => owner row = key))).imp_of_mem
  intro one other mem mem' apart both
  rcases List.mem_filter.mp mem with ⟨mem, own⟩
  rcases List.mem_filter.mp mem' with ⟨mem', own'⟩
  apply apart
  rw [means.alike one mem, means.alike other mem', own, own', both.1, both.2]
  exact ⟨rfl, rfl⟩

/-- An update of the rows edits the items of the key. -/
theorem MeansAlike.readOff_updateWhere
    (means : MeansAlike owner read rows key meantRow meant)
    (editRow : β → β) (edit : α → α)
    (edits : ∀ row, read (editRow row) = edit (read row))
    (stays : ∀ row, owner (editRow row) = owner row) (other : κ) :
    readOff owner read (updateWhere meantRow editRow rows).2 other =
      if other = key then
        (readOff owner read rows key).map fun item =>
          if meant item then edit item else item
      else readOff owner read rows other := by
  have owners (row : β) :
      owner (if meantRow row then editRow row else row) = owner row := by
    split
    · exact stays row
    · rfl
  have moved : readOff owner read (updateWhere meantRow editRow rows).2 other =
      (rows.filter fun row => owner row = other).map fun row =>
        read (if meantRow row then editRow row else row) := by
    rw [readOff, updateWhere, List.filter_map, List.map_map]
    simp only [Function.comp_def, owners]
  rw [moved]
  split
  next same =>
    subst same
    rw [readOff, List.map_map]
    apply List.map_congr_left
    intro row member
    rcases List.mem_filter.mp member with ⟨member, own⟩
    rw [Function.comp_apply, means.alike row member, own, Bool.true_and]
    split
    · exact edits row
    · rfl
  next foreign =>
    apply List.map_congr_left
    intro row member
    rcases List.mem_filter.mp member with ⟨member, own⟩
    have others : owner row ≠ key := fun mine =>
      foreign ((of_decide_eq_true own).symm.trans mine)
    rw [means.alike row member, decide_eq_false others, Bool.false_and,
      if_neg Bool.false_ne_true]

/-- A deletion of rows deletes from the items of the key. -/
theorem MeansAlike.readOff_deleteWhere
    (means : MeansAlike owner read rows key meantRow meant) (other : κ) :
    readOff owner read (deleteWhere meantRow rows).2 other =
      if other = key then
        (readOff owner read rows key).filter fun item => !meant item
      else readOff owner read rows other := by
  rw [readOff, deleteWhere, List.filter_filter]
  split
  next same =>
    subst same
    rw [readOff, List.filter_map, List.filter_filter]
    congr 1
    apply List.filter_congr
    intro row member
    rw [Function.comp_apply, means.alike row member]
    cases decide (owner row = other) <;> simp
  next foreign =>
    congr 1
    apply List.filter_congr
    intro row member
    rw [means.alike row member]
    by_cases own : owner row = other
    · have others : owner row ≠ key := fun mine => foreign (own.symm.trans mine)
      rw [decide_eq_false others, Bool.false_and, Bool.not_false, Bool.and_true]
    · rw [decide_eq_false own, Bool.false_and]

end Changes

/-! ## Dictionaries of rows -/

section Rows

variable {name : β → κ} {value : β → α} {rows : List β} {key : κ}

/-- Each row is an item of its own. -/
def itemsOf (name : β → κ) (value : β → α) (rows : List β) : List (κ × α) :=
  rows.map fun row => (name row, value row)

/-- Looking up a key finds its row. -/
theorem get?_of_items {data : Dict κ α} (same : data.items = itemsOf name value rows) :
    data.get? key = (rows.find? fun row => name row = key).map value := by
  rw [Dict.get?, same, itemsOf, List.find?_map, Option.map_map]
  rfl

/-- An assignment to a present key changes its row in place. -/
theorem assign_itemsOf {new : α} (distinct : (rows.map name).Nodup)
    (present : key ∈ rows.map name) :
    assign key new (itemsOf name value rows) =
      itemsOf name (fun row => if name row = key then new else value row) rows := by
  induction rows with
  | nil => cases present
  | cons row rows ih =>
      rw [List.map_cons, List.nodup_cons] at distinct
      rw [itemsOf, List.map_cons, assign]
      split
      next here =>
        have others : ∀ other ∈ rows, name other ≠ key := fun other member same =>
          distinct.1 (List.mem_map.mpr ⟨other, member, same.trans here.symm⟩)
        have named : name row = key := here
        rw [itemsOf, List.map_cons, if_pos here, named]
        congr 1
        apply List.map_congr_left
        intro other member
        rw [if_neg (others other member)]
      next elsewhere =>
        have later : key ∈ rows.map name := by
          rcases List.mem_cons.mp present with here | later
          · exact absurd here.symm elsewhere
          · exact later
        rw [itemsOf, List.map_cons, if_neg elsewhere]
        exact congrArg _ (ih distinct.2 later)

end Rows

/-! ## Dictionaries of lists -/

/-- Each list of a dictionary is what the table has of its key. -/
def Mirrors (owner : β → κ) (read : β → α) (data : Dict κ (List α))
    (rows : List β) : Prop :=
  ∀ key, data.bucket key = readOff owner read rows key

namespace Mirrors

variable {owner : β → κ} {read : β → α} {data : Dict κ (List α)} {rows : List β}
  {key : κ} {meantRow : β → Bool} {meant : α → Bool}

theorem nil : Mirrors owner read (.empty : Dict κ (List α)) [] := fun _ => rfl

/-- A new row is a new item. -/
theorem push (mirrors : Mirrors owner read data rows) (row : β) :
    Mirrors owner read (data.push (owner row) (read row)) (rows ++ [row]) := by
  intro other
  rw [Dict.push, Dict.bucket_insert, readOff_append, mirrors]
  by_cases own : other = owner row
  · rw [if_pos own, if_pos own.symm, own]
  · rw [if_neg own, if_neg (Ne.symm own), List.append_nil, mirrors]

/-- An update returns what the edit returns, and leads to what it leads to. -/
theorem edit (mirrors : Mirrors owner read data rows)
    (means : MeansAlike owner read rows key meantRow meant)
    (editRow : β → β) (edit : α → α)
    (edits : ∀ row, read (editRow row) = edit (read row))
    (stays : ∀ row, owner (editRow row) = owner row) :
    (data.changeBucket key (editFirst meant edit)).1 =
        (updateWhere meantRow editRow rows).1.head?.map read ∧
      Mirrors owner read (data.changeBucket key (editFirst meant edit)).2
        (updateWhere meantRow editRow rows).2 := by
  constructor
  · rw [Dict.changeBucket_fst, fst_editFirst, mirrors, means.find?_eq, updateWhere,
      List.head?_map, List.head?_filter, Option.map_map, Option.map_map]
    congr 1
    funext row
    exact (edits row).symm
  · intro other
    rw [means.readOff_updateWhere editRow edit edits stays]
    split
    next same =>
      rw [same, Dict.bucket_changeBucket_self, mirrors,
        snd_editFirst means.atMostOne]
    next foreign => rw [Dict.bucket_changeBucket_ne _ _ foreign, mirrors]

/-- A deletion finds what its counterpart finds, and leads to what it leads to. -/
theorem delete (mirrors : Mirrors owner read data rows)
    (means : MeansAlike owner read rows key meantRow meant) :
    (data.changeBucket key (deleteFirst meant)).1.isSome =
        decide (0 < (deleteWhere meantRow rows).1) ∧
      Mirrors owner read (data.changeBucket key (deleteFirst meant)).2
        (deleteWhere meantRow rows).2 := by
  constructor
  · have found : (readOff owner read rows key).any meant = rows.any meantRow := by
      rw [← List.isSome_find?, ← List.isSome_find?, means.find?_eq, Option.isSome_map]
    rw [Dict.changeBucket_fst, mirrors, deleteFirst, found, deleteWhere,
      Bool.eq_iff_iff, decide_eq_true_eq, List.countP_pos_iff, ← List.any_eq_true]
    cases rows.any meantRow <;> simp
  · intro other
    rw [means.readOff_deleteWhere]
    split
    next same =>
      rw [same, Dict.bucket_changeBucket_self, mirrors,
        snd_deleteFirst means.atMostOne]
    next foreign => rw [Dict.bucket_changeBucket_ne _ _ foreign, mirrors]

end Mirrors

end PrivateAiWorkspace.Postgres
