import Mathlib.Data.List.Nodup
import Mathlib.Data.List.Sublists

/-!
# What is new in a sequence of lists

A reader who is shown lists one after another, and keeps in mind what was in
them, takes from each list what is new to them. What they take has no
duplicates, and it is in the order of a history the lists are taken from exactly
when no list shows an element before an older one is shown.
-/

namespace PrivateAiWorkspace.Lists

variable {α : Type}

/-! ## Order in a history -/

/-- One element comes before another in a list. -/
theorem pair_sublist_cons {head first second : α} {tail : List α} :
    [first, second].Sublist (head :: tail) ↔
      [first, second].Sublist tail ∨ first = head ∧ second ∈ tail := by
  rw [List.sublist_cons_iff]
  simp only [List.cons.injEq, ← List.singleton_sublist]
  constructor
  · intro order
    rcases order with order | ⟨rest, ⟨same, rest_eq⟩, within⟩
    · exact .inl order
    · exact .inr ⟨same, rest_eq ▸ within⟩
  · intro order
    rcases order with order | ⟨same, within⟩
    · exact .inl order
    · exact .inr ⟨[second], ⟨same, rfl⟩, within⟩

/-- In a list without duplicates at most one of two elements comes first. -/
theorem not_sublist_swap {history : List α} (distinct : history.Nodup)
    {first second : α} (order : [first, second].Sublist history) :
    ¬ [second, first].Sublist history := by
  induction history with
  | nil => cases order
  | cons head tail ih =>
      rw [List.nodup_cons] at distinct
      rw [pair_sublist_cons] at order ⊢
      intro swapped
      rcases order with order | ⟨here, within⟩
      · rcases swapped with swapped | ⟨same, within⟩
        · exact ih distinct.2 order swapped
        · subst same
          exact distinct.1 (order.subset (by simp))
      · subst here
        rcases swapped with swapped | ⟨same, within⟩
        · exact distinct.1 (swapped.subset (by simp))
        · exact distinct.1 within

theorem sublist_or_swap {history : List α} {first second : α}
    (different : first ≠ second) (left : first ∈ history)
    (right : second ∈ history) :
    [first, second].Sublist history ∨ [second, first].Sublist history := by
  induction history with
  | nil => cases left
  | cons head tail ih =>
      simp only [pair_sublist_cons]
      rcases List.mem_cons.mp left with here | leftLater
      · rcases List.mem_cons.mp right with same | rightLater
        · exact absurd (here.trans same.symm) different
        · exact .inl (.inr ⟨here, rightLater⟩)
      · rcases List.mem_cons.mp right with here | rightLater
        · exact .inr (.inr ⟨here, leftLater⟩)
        · exact (ih leftLater rightLater).imp .inl .inl

/-- One list is in the order of another. -/
def InOrderOf (history taken : List α) : Prop :=
  ∀ first second, [first, second].Sublist taken → [first, second].Sublist history

/-- A list that shows an element stands behind the lists that do not. -/
theorem mem_of_shown_later {before after earlier later : List (List α)}
    {shown late : List α} {item : α} (absent : item ∉ shown)
    (unseen : ∀ list ∈ before, item ∉ list)
    (split : before ++ shown :: after = earlier ++ late :: later)
    (member : item ∈ late) : shown ∈ earlier := by
  rcases List.append_eq_append_iff.mp split with
    ⟨between, same, rest⟩ | ⟨between, same, rest⟩
  · cases between with
    | nil =>
        cases rest
        exact absurd member absent
    | cons head between =>
        cases rest
        simp [same]
  · cases between with
    | nil =>
        cases rest
        exact absurd member absent
    | cons head between =>
        cases rest
        exact absurd member (unseen late (by simp [same]))

/-! ## Novelties -/

variable [DecidableEq α]

/-- What of a list is not known, once each. -/
def fresh (known : List α) : List α → List α
  | [] => []
  | item :: items =>
      if item ∈ known then fresh known items
      else item :: fresh (item :: known) items

/-- What is new in a sequence of lists. -/
def novelties (known : List α) : List (List α) → List α
  | [] => []
  | shown :: later =>
      fresh known shown ++ novelties ((fresh known shown).reverse ++ known) later

@[simp] theorem mem_fresh {known items : List α} {item : α} :
    item ∈ fresh known items ↔ item ∈ items ∧ item ∉ known := by
  induction items generalizing known with
  | nil => simp [fresh]
  | cons head items ih =>
      rw [fresh]
      split
      next old =>
        rw [ih, List.mem_cons]
        grind
      next new =>
        rw [List.mem_cons, ih, List.mem_cons, List.mem_cons]
        grind

theorem nodup_fresh (known items : List α) : (fresh known items).Nodup := by
  induction items generalizing known with
  | nil => exact List.nodup_nil
  | cons head items ih =>
      rw [fresh]
      split
      · exact ih known
      · simp [ih]

theorem fresh_sublist (known items : List α) : (fresh known items).Sublist items := by
  induction items generalizing known with
  | nil => exact List.Sublist.refl _
  | cons head items ih =>
      rw [fresh]
      split
      · exact (ih known).cons head
      · exact (ih _).cons_cons head

/-- After a list everything in it is known. -/
theorem mem_known {known shown : List α} {item : α} :
    item ∈ (fresh known shown).reverse ++ known ↔ item ∈ shown ∨ item ∈ known := by
  rw [List.mem_append, List.mem_reverse, mem_fresh]
  grind

@[simp] theorem mem_novelties {known : List α} {lists : List (List α)} {item : α} :
    item ∈ novelties known lists ↔
      item ∉ known ∧ ∃ shown ∈ lists, item ∈ shown := by
  induction lists generalizing known with
  | nil => simp [novelties]
  | cons shown later ih =>
      rw [novelties, List.mem_append, mem_fresh, ih, mem_known]
      simp only [List.mem_cons]
      grind

theorem nodup_novelties (known : List α) (lists : List (List α)) :
    (novelties known lists).Nodup := by
  induction lists generalizing known with
  | nil => exact List.nodup_nil
  | cons shown later ih =>
      rw [novelties]
      apply (nodup_fresh known shown).append (ih _)
      intro item new later
      exact (mem_novelties.mp later).1
        (List.mem_append_left _ (List.mem_reverse.mpr new))

theorem novelties_append (known : List α) (before after : List (List α)) :
    novelties known (before ++ after) =
      novelties known before ++
        novelties ((novelties known before).reverse ++ known) after := by
  induction before generalizing known with
  | nil => simp [novelties]
  | cons shown before ih =>
      simp only [List.cons_append, novelties, ih, List.append_assoc,
        List.reverse_append]

/-! ## Novelties in order -/

/-- What is taken one after another is shown in that order: in one list, or the
second only after the list that shows the first. -/
theorem shown_of_novelties {known : List α} {lists : List (List α)}
    {first second : α} (order : [first, second].Sublist (novelties known lists)) :
    ∃ before shown after, lists = before ++ shown :: after ∧ first ∈ shown ∧
      ([first, second].Sublist shown ∨
        second ∉ shown ∧ ∀ earlier ∈ before, second ∉ earlier) := by
  induction lists generalizing known with
  | nil => cases order
  | cons shown later ih =>
      rw [novelties] at order
      have unknown : ∀ item, item ∈ novelties
          ((fresh known shown).reverse ++ known) later → item ∉ shown := by
        intro item new within
        exact (mem_novelties.mp new).1 (mem_known.mpr (.inl within))
      rcases List.sublist_append_iff.mp order with ⟨left, right, pair, taken, new⟩
      match left, pair with
      | [], pair =>
          simp only [List.nil_append] at pair
          subst pair
          rcases ih new with ⟨before, list, after, same, member, alternatives⟩
          refine ⟨shown :: before, list, after, by rw [same]; rfl, member, ?_⟩
          rcases alternatives with within | ⟨absent, unseen⟩
          · exact .inl within
          · refine .inr ⟨absent, fun earlier member => ?_⟩
            rcases List.mem_cons.mp member with rfl | member
            · exact unknown second (new.subset (by simp))
            · exact unseen earlier member
      | [item], pair =>
          simp only [List.singleton_append, List.cons.injEq] at pair
          rcases pair with ⟨rfl, rfl⟩
          refine ⟨[], shown, later, rfl, ?_, .inr ⟨?_, nofun⟩⟩
          · exact (mem_fresh.mp (taken.subset (by simp))).1
          · exact unknown second (new.subset (by simp))
      | item :: other :: rest, pair =>
          simp only [List.cons_append, List.cons.injEq] at pair
          rcases pair with ⟨rfl, rfl, ends⟩
          have both : [first, second].Sublist shown := by
            apply List.Sublist.trans _ (fresh_sublist known shown)
            exact List.Sublist.trans (by simp) taken
          exact ⟨[], shown, later, rfl, both.subset (by simp), .inl both⟩

/-- An element that is shown before another one is taken before it. -/
theorem novelties_of_shown {known : List α} {before after : List (List α)}
    {shown : List α} {first second : α}
    (unknown : first ∉ known) (seen : ∃ earlier ∈ before, first ∈ earlier)
    (new : second ∉ known) (unseen : ∀ earlier ∈ before, second ∉ earlier)
    (member : second ∈ shown) :
    [first, second].Sublist (novelties known (before ++ shown :: after)) := by
  rw [novelties_append]
  apply @List.Sublist.append _ [first] _ [second]
  · rw [List.singleton_sublist]
    exact mem_novelties.mpr ⟨unknown, seen⟩
  · rw [List.singleton_sublist, mem_novelties]
    refine ⟨fun old => ?_, shown, List.mem_cons_self, member⟩
    rcases List.mem_append.mp old with old | old
    · rcases (mem_novelties.mp (List.mem_reverse.mp old)).2 with
        ⟨earlier, within, early⟩
      exact unseen earlier within early
    · exact new old

/-- Some list shows the element, and no list before it shows a newer one that is
not known. -/
def ShownInTime (history known : List α) (lists : List (List α)) (item : α) :
    Prop :=
  ∃ before shown after, lists = before ++ shown :: after ∧ item ∈ shown ∧
    ∀ earlier ∈ before, ∀ other ∈ earlier, other ∉ known →
      ¬ [item, other].Sublist history

/-- Lists drawn from a history show all that is wanted of it, in its order,
exactly when each element that is wanted is shown in time. -/
theorem novelties_iff {history known : List α} {lists : List (List α)}
    (distinct : history.Nodup)
    (drawn : ∀ shown ∈ lists, shown.Sublist history) {wanted : α → Prop}
    (unknown : ∀ item, wanted item → item ∉ known)
    (included : ∀ shown ∈ lists, ∀ item ∈ shown, item ∉ known → wanted item) :
    ((∀ item, wanted item → (novelties known lists).count item = 1) ∧
        InOrderOf history (novelties known lists)) ↔
      ∀ item, wanted item → ShownInTime history known lists item := by
  constructor
  · intro ordered item meant
    rcases ordered with ⟨once, inOrder⟩
    have taken : item ∈ novelties known lists :=
      List.count_pos_iff.mp (by rw [once item meant]; decide)
    -- The first list that shows the element.
    rcases (mem_novelties.mp taken).2 with ⟨some, within, member⟩
    have found : (lists.find? fun shown => decide (item ∈ shown)).isSome := by
      rw [List.find?_isSome]
      exact ⟨some, within, decide_eq_true member⟩
    rcases Option.isSome_iff_exists.mp found with ⟨shown, found⟩
    rcases List.find?_eq_some_iff_append.mp found with
      ⟨member, before, after, split, unseen⟩
    have member := of_decide_eq_true member
    have unseen : ∀ earlier ∈ before, item ∉ earlier := by
      intro earlier within
      simpa using unseen earlier within
    refine ⟨before, shown, after, split, member, ?_⟩
    intro earlier early other here new newer
    apply not_sublist_swap distinct newer
    apply inOrder
    rw [split]
    exact novelties_of_shown new ⟨earlier, early, here⟩ (unknown item meant)
      unseen member
  · intro timely
    constructor
    · intro item meant
      rcases timely item meant with ⟨before, shown, after, split, member, _⟩
      apply List.count_eq_one_of_mem (nodup_novelties known lists)
      rw [mem_novelties, split]
      exact ⟨unknown item meant, shown, by simp, member⟩
    · intro first second order
      rcases shown_of_novelties order with
        ⟨before, shown, after, split, member, alternatives⟩
      rcases alternatives with within | ⟨absent, unseen⟩
      · exact within.trans (drawn shown (by simp [split]))
      · have firstNew := mem_novelties.mp (order.subset (by simp) :
          first ∈ novelties known lists)
        have secondNew := mem_novelties.mp (order.subset (by simp) :
          second ∈ novelties known lists)
        rcases secondNew.2 with ⟨list, within, secondMember⟩
        have different : first ≠ second := by
          intro same
          exact absent (same ▸ member)
        have historic := sublist_or_swap different
          ((drawn shown (by simp [split])).subset member)
          ((drawn list within).subset secondMember)
        rcases historic with inOrder | swapped
        · exact inOrder
        · -- The second would be shown only after a newer element.
          rcases timely second (included list within second secondMember
            secondNew.1) with ⟨earlier, late, later, again, lateMember, newest⟩
          refine absurd swapped (newest shown ?_ first member firstNew.1)
          exact mem_of_shown_later absent unseen (split.symm.trans again)
            lateMember

end PrivateAiWorkspace.Lists
