import Mathlib.Data.List.Basic

/-!
# Lists with a separator

When two lists are the same although they are put together from different parts
with a separator between them, and when parts that may hold the separator
themselves are still read in one way.
-/

namespace PrivateAiWorkspace.Lists

universe u v

variable {α : Type u} {sep : α} {left right left' right' : List α}

/-- Two ways to cut a list at a separator: at the same place, or one part holds
the separator at which the other way cuts. -/
theorem append_cons_eq_append_cons_iff :
    left ++ sep :: right = left' ++ sep :: right' ↔
      (left = left' ∧ right = right') ∨
      (∃ middle, left' = left ++ sep :: middle ∧
        right = middle ++ sep :: right') ∨
      ∃ middle, left = left' ++ sep :: middle ∧
        right' = middle ++ sep :: right := by
  constructor
  · intro same
    rcases List.append_eq_append_iff.mp same with
      ⟨more, left_eq, right_eq⟩ | ⟨more, left_eq, right_eq⟩
    · cases more with
      | nil =>
          rw [List.append_nil] at left_eq
          exact Or.inl ⟨left_eq.symm, (List.cons.inj right_eq).2⟩
      | cons head middle =>
          rcases List.cons.inj right_eq with ⟨rfl, tail⟩
          exact Or.inr (Or.inl ⟨middle, left_eq, tail⟩)
    · cases more with
      | nil =>
          rw [List.append_nil] at left_eq
          exact Or.inl ⟨left_eq, (List.cons.inj right_eq).2.symm⟩
      | cons head middle =>
          rcases List.cons.inj right_eq with ⟨rfl, tail⟩
          exact Or.inr (Or.inr ⟨middle, left_eq, tail⟩)
  · rintro (⟨rfl, rfl⟩ | ⟨middle, rfl, rfl⟩ | ⟨middle, rfl, rfl⟩) <;> simp

/-- A last part without the separator is cut off in one way only. -/
theorem append_cons_inj (absent : sep ∉ right) (absent' : sep ∉ right') :
    left ++ sep :: right = left' ++ sep :: right' ↔
      left = left' ∧ right = right' := by
  rw [append_cons_eq_append_cons_iff]
  constructor
  · rintro (same | ⟨middle, _, rfl⟩ | ⟨middle, _, rfl⟩)
    · exact same
    · simp at absent
    · simp at absent'
  · exact Or.inl

/-- Joined parts hold the separator and what the parts hold. -/
theorem mem_intercalate {parts : List (List α)} {item : α}
    (mem : item ∈ [sep].intercalate parts) :
    item = sep ∨ ∃ part ∈ parts, item ∈ part := by
  induction parts with
  | nil => cases mem
  | cons part rest ih =>
      cases rest with
      | nil =>
          rw [List.intercalate_singleton] at mem
          exact Or.inr ⟨part, List.mem_singleton_self part, mem⟩
      | cons next rest =>
          rw [List.intercalate_cons_cons, List.mem_append, List.mem_append,
            List.mem_singleton] at mem
          rcases mem with (inside | separates) | later
          · exact Or.inr ⟨part, List.mem_cons_self, inside⟩
          · exact Or.inl separates
          · rcases ih later with separates | ⟨other, among, inside⟩
            · exact Or.inl separates
            · exact Or.inr ⟨other, List.mem_cons_of_mem _ among, inside⟩

section Joined

variable [DecidableEq α] {parts parts' : List (List α)}
  (clean : ∀ part ∈ parts, sep ∉ part) (nonempty : parts ≠ [])
  (clean' : ∀ part ∈ parts', sep ∉ part) (nonempty' : parts' ≠ [])

include clean nonempty clean' nonempty'

/-- Parts without the separator are joined in one way only. -/
theorem intercalate_inj
    (same : [sep].intercalate parts = [sep].intercalate parts') : parts = parts' := by
  rw [← List.splitOn_intercalate sep clean nonempty, same,
    List.splitOn_intercalate sep clean' nonempty']

/-- What joined parts begin with up to a separator are some of the parts. -/
theorem prefix_of_intercalate_prefix
    (begins : [sep].intercalate parts' ++ [sep] <+: [sep].intercalate parts) :
    ∃ more, parts = parts' ++ more ∧ more ≠ [] := by
  rcases begins with ⟨rest, whole⟩
  rw [List.append_assoc, List.singleton_append] at whole
  refine ⟨rest.splitOn sep, ?_, List.splitOn_ne_nil sep rest⟩
  rw [← List.splitOn_intercalate sep clean nonempty, ← whole,
    List.splitOn_append_cons_self, List.splitOn_intercalate sep clean' nonempty']

end Joined

/-! ## Parts between brackets -/

section Closed

variable {close : α} {β : Type v}

/-- What follows a part of a bracketed list: the parts after it, each behind a
separator, and the closing bracket. -/
def afterPart (sep close : α) : List (List α) → List α → List α
  | [], rest => close :: rest
  | part :: parts, rest => sep :: (part ++ afterPart sep close parts rest)

theorem intercalate_append_close (part : List α) (parts : List (List α))
    (rest : List α) :
    [sep].intercalate (part :: parts) ++ close :: rest =
      part ++ afterPart sep close parts rest := by
  induction parts generalizing part with
  | nil => simp [afterPart]
  | cons next parts ih =>
      rw [List.intercalate_cons_cons, List.append_assoc, ih]
      simp [afterPart]

/-- A list that may follow a part. -/
def EndsPart (sep close : α) (rest : List α) : Prop :=
  rest.head? = some sep ∨ rest.head? = some close

theorem endsPart_afterPart (parts : List (List α)) (rest : List α) :
    EndsPart sep close (afterPart sep close parts rest) := by
  cases parts with
  | nil => exact Or.inr rfl
  | cons part parts => exact Or.inl rfl

/-- Parts are read in one way when each part is, before a separator and before
the closing bracket. The parts may hold separators and brackets themselves. -/
theorem afterPart_inj (different : sep ≠ close)
    {entries entries' : List (List α × β)} {rest rest' : List α}
    (unique : ∀ entry ∈ entries, ∀ entry' ∈ entries', ∀ tail tail',
      EndsPart sep close tail → EndsPart sep close tail' →
      entry.1 ++ tail = entry'.1 ++ tail' → entry = entry')
    (same : afterPart sep close (entries.map Prod.fst) rest =
      afterPart sep close (entries'.map Prod.fst) rest') :
    entries = entries' ∧ rest = rest' := by
  induction entries generalizing entries' with
  | nil =>
      cases entries' with
      | nil => exact ⟨rfl, (List.cons.inj same).2⟩
      | cons entry' entries' => exact absurd (List.cons.inj same).1.symm different
  | cons entry entries ih =>
      cases entries' with
      | nil => exact absurd (List.cons.inj same).1 different
      | cons entry' entries' =>
          have parts := (List.cons.inj same).2
          have first : entry = entry' :=
            unique entry List.mem_cons_self entry' List.mem_cons_self _ _
              (endsPart_afterPart _ rest) (endsPart_afterPart _ rest') parts
          rw [first] at parts
          have others := ih
            (fun one among one' among' =>
              unique one (List.mem_cons_of_mem _ among) one'
                (List.mem_cons_of_mem _ among'))
            (List.append_cancel_left parts)
          exact ⟨by rw [first, others.1], others.2⟩

/-- The same for a list that begins with its first part. -/
theorem intercalate_close_inj (different : sep ≠ close)
    {entries entries' : List (List α × β)} {rest rest' : List α}
    (nonempty : entries ≠ []) (nonempty' : entries' ≠ [])
    (unique : ∀ entry ∈ entries, ∀ entry' ∈ entries', ∀ tail tail',
      EndsPart sep close tail → EndsPart sep close tail' →
      entry.1 ++ tail = entry'.1 ++ tail' → entry = entry')
    (same : [sep].intercalate (entries.map Prod.fst) ++ close :: rest =
      [sep].intercalate (entries'.map Prod.fst) ++ close :: rest') :
    entries = entries' ∧ rest = rest' := by
  cases entries with
  | nil => exact absurd rfl nonempty
  | cons entry entries =>
      cases entries' with
      | nil => exact absurd rfl nonempty'
      | cons entry' entries' =>
          rw [List.map_cons, List.map_cons, intercalate_append_close,
            intercalate_append_close] at same
          apply afterPart_inj different unique
          simp only [List.map_cons, afterPart, same]

end Closed

end PrivateAiWorkspace.Lists
