import Mathlib.Data.List.Forall2
import Mathlib.Data.List.Sort

/-!
# Lists whose operations may raise

A comprehension applies a fallible function to each item and ends with the first
one that raises. A stable sort compares by a fallible order; where the comparisons
go by a measure it is the insertion sort of that measure.
-/

namespace PrivateAiWorkspace.Lists

universe u v w

variable {ε : Type w} {α : Type u} {β : Type v}

/-! ## Comprehensions -/

section Comprehension

variable {f : α → Except ε β}

theorem mapM_eq_ok_iff {items : List α} {results : List β} :
    items.mapM f = .ok results ↔
      List.Forall₂ (fun item result => f item = .ok result) items results := by
  induction items generalizing results with
  | nil =>
      rw [List.mapM_nil, List.forall₂_nil_left_iff]
      exact ⟨fun same => (Except.ok.inj same).symm, fun same => same ▸ rfl⟩
  | cons item items ih =>
      rw [List.mapM_cons, List.forall₂_cons_left_iff]
      constructor
      · intro mapped
        cases first : f item with
        | error error =>
            rw [first] at mapped
            cases mapped
        | ok result =>
            cases others : items.mapM f with
            | error error =>
                rw [first, others] at mapped
                cases mapped
            | ok rest =>
                rw [first, others] at mapped
                cases mapped
                exact ⟨result, rest, rfl, ih.mp others, rfl⟩
      · intro ⟨result, rest, first, others, split⟩
        rw [first, ih.mpr others, split]
        rfl

/-- A comprehension raises what the first item raises that does. -/
theorem mapM_eq_error_iff {items : List α} {error : ε} :
    items.mapM f = .error error ↔
      ∃ before item after, items = before ++ item :: after ∧
        (∀ other ∈ before, ∃ result, f other = .ok result) ∧
        f item = .error error := by
  induction items with
  | nil =>
      rw [List.mapM_nil]
      constructor
      · intro mapped
        cases mapped
      · intro ⟨before, item, after, split, _⟩
        cases before <;> cases split
  | cons head items ih =>
      rw [List.mapM_cons]
      cases first : f head with
      | error other =>
          constructor
          · intro mapped
            cases mapped
            refine ⟨[], head, items, rfl, ?_, first⟩
            intro other none
            cases none
          · intro ⟨before, item, after, split, fine, raised⟩
            cases before with
            | nil =>
                cases split
                cases first.symm.trans raised
                rfl
            | cons kept before =>
                cases split
                rcases fine head List.mem_cons_self with ⟨result, returned⟩
                rw [first] at returned
                cases returned
      | ok result =>
          have later : (do return (← Except.ok result) :: (← items.mapM f) :
              Except ε (List β)) = .error error ↔ items.mapM f = .error error := by
            cases items.mapM f with
            | error other =>
                exact ⟨fun same => by cases same; rfl, fun same => by cases same; rfl⟩
            | ok rest => exact ⟨(fun same => nomatch same), (fun same => nomatch same)⟩
          rw [later, ih]
          constructor
          · intro ⟨before, item, after, split, fine, raised⟩
            refine ⟨head :: before, item, after, by rw [split]; rfl, ?_, raised⟩
            intro other mem
            rcases List.mem_cons.mp mem with rfl | among
            · exact ⟨result, first⟩
            · exact fine other among
          · intro ⟨before, item, after, split, fine, raised⟩
            cases before with
            | nil =>
                cases split
                rw [first] at raised
                cases raised
            | cons kept before =>
                cases split
                exact ⟨before, item, after, rfl,
                  fun other mem => fine other (List.mem_cons_of_mem _ mem), raised⟩

end Comprehension

/-! ## Sorting -/

section Sorting

variable (less : α → α → Except ε Bool)

/-- Put an item before the first one that is not less. -/
def insertBy (item : α) : List α → Except ε (List α)
  | [] => .ok [item]
  | other :: rest =>
      match less other item with
      | .error error => .error error
      | .ok true => (insertBy item rest).map (other :: ·)
      | .ok false => .ok (item :: other :: rest)

/-- A stable sort, which raises what a comparison raises. -/
def sortBy : List α → Except ε (List α)
  | [] => .ok []
  | item :: rest => (sortBy rest).bind (insertBy less item)

variable {less}

theorem perm_of_insertBy {item : α} {items result : List α}
    (inserted : insertBy less item items = .ok result) : result.Perm (item :: items) := by
  induction items generalizing result with
  | nil =>
      cases inserted
      exact .refl _
  | cons other rest ih =>
      rw [insertBy] at inserted
      split at inserted
      · cases inserted
      · cases later : insertBy less item rest with
        | error error =>
            rw [later] at inserted
            cases inserted
        | ok inner =>
            rw [later] at inserted
            cases inserted
            exact ((ih later).cons other).trans (.swap item other rest)
      · cases inserted
        exact .refl _

theorem perm_of_sortBy {items order : List α} (sorted : sortBy less items = .ok order) :
    order.Perm items := by
  induction items generalizing order with
  | nil =>
      cases sorted
      exact .refl _
  | cons item rest ih =>
      cases tail : sortBy less rest with
      | error error =>
          rw [sortBy, tail] at sorted
          cases sorted
      | ok inner =>
          rw [sortBy, tail] at sorted
          exact (perm_of_insertBy sorted).trans ((ih tail).cons item)

/-- What a sort raises some comparison raises. -/
theorem exists_of_sortBy_error {items : List α} {error : ε}
    (raised : sortBy less items = .error error) :
    ∃ first second, less first second = .error error := by
  have inserting : ∀ {item : α} {items : List α},
      insertBy less item items = .error error →
        ∃ first second, less first second = .error error := by
    intro item items
    induction items with
    | nil =>
        intro failed
        cases failed
    | cons other rest ih =>
        intro failed
        rw [insertBy] at failed
        split at failed
        next compared =>
          cases failed
          exact ⟨other, item, compared⟩
        · cases later : insertBy less item rest with
          | error inner =>
              rw [later] at failed
              cases failed
              exact ih later
          | ok inner =>
              rw [later] at failed
              cases failed
        · cases failed
  induction items with
  | nil => cases raised
  | cons item rest ih =>
      cases tail : sortBy less rest with
      | error other =>
          rw [sortBy, tail] at raised
          cases raised
          exact ih tail
      | ok inner =>
          rw [sortBy, tail] at raised
          exact inserting raised

section Measure

variable [LinearOrder β] {measure : α → β}

theorem insertBy_eq_orderedInsert {item : α} {items : List α}
    (compares : ∀ other ∈ items,
      less other item = .ok (decide (measure other < measure item))) :
    insertBy less item items =
      .ok (items.orderedInsert (fun left right => measure left ≤ measure right) item) := by
  induction items with
  | nil => rfl
  | cons other rest ih =>
      rw [insertBy, compares other List.mem_cons_self, List.orderedInsert_cons]
      by_cases before : measure other < measure item
      · rw [decide_eq_true before, if_neg (not_le.mpr before)]
        dsimp only
        rw [ih fun later mem => compares later (List.mem_cons_of_mem _ mem)]
        rfl
      · rw [decide_eq_false before, if_pos (not_lt.mp before)]

/-- Items that compare by a measure are sorted by it. -/
theorem sortBy_eq_insertionSort {items : List α}
    (compares : ∀ left ∈ items, ∀ right ∈ items,
      less left right = .ok (decide (measure left < measure right))) :
    sortBy less items =
      .ok (items.insertionSort fun left right => measure left ≤ measure right) := by
  induction items with
  | nil => rfl
  | cons item rest ih =>
      have tail := ih fun left mem right among =>
        compares left (List.mem_cons_of_mem _ mem) right (List.mem_cons_of_mem _ among)
      rw [sortBy, tail]
      apply insertBy_eq_orderedInsert
      intro other mem
      apply compares other _ item List.mem_cons_self
      exact List.mem_cons_of_mem _ ((List.perm_insertionSort _ rest).subset mem)

/-- Items whose measures are a sorted list in some order come in that list's order. -/
theorem map_insertionSort_of_perm {items : List α} {measures : List β}
    (sorted : measures.Pairwise (· ≤ ·)) (perm : (items.map measure).Perm measures) :
    (items.insertionSort fun left right => measure left ≤ measure right).map measure =
      measures := by
  have compares : ∀ left ∈ items, ∀ right ∈ items,
      measure left ≤ measure right ↔ measure left ≤ measure right :=
    fun _ _ _ _ => Iff.rfl
  rw [List.map_insertionSort _ (· ≤ ·) measure items compares]
  apply List.Perm.eq_of_pairwise' (List.pairwise_insertionSort (· ≤ ·) _) sorted
  exact (List.perm_insertionSort _ _).trans perm

end Measure

end Sorting

end PrivateAiWorkspace.Lists
