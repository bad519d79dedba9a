import Mathlib.Algebra.GroupWithZero.Nat
import Mathlib.Data.List.Basic

/-!
# Fields between separators

A list is cut into its longest runs without a separator. Fields are never empty,
and joining them with a separator is undone by cutting again.
-/

namespace PrivateAiWorkspace.Lists

universe u

variable {α : Type u} (sep : α → Bool)

/-- The field read so far, if it has begun. -/
def closeField (field : List α) : List (List α) :=
  if field.isEmpty then [] else [field]

/-- The fields of a list, after a part of the first one. -/
def fieldsFrom (field : List α) : List α → List (List α)
  | [] => closeField field
  | item :: rest =>
      if sep item then closeField field ++ fieldsFrom [] rest
      else fieldsFrom (field ++ [item]) rest

/-- The fields of a list. -/
def fields (items : List α) : List (List α) := fieldsFrom sep [] items

/-- A field: it has begun and holds no separator. -/
structure IsField (field : List α) : Prop where
  ne_nil : field ≠ []
  clean : ∀ item ∈ field, sep item = false

variable {sep}

theorem mem_closeField {field member : List α}
    (mem : member ∈ closeField field) : member = field ∧ field ≠ [] := by
  rw [closeField] at mem
  split at mem
  · cases mem
  next begun =>
    exact ⟨List.mem_singleton.mp mem, fun empty => begun (by simp [empty])⟩

theorem closeField_of_ne_nil {field : List α} (begun : field ≠ []) :
    closeField field = [field] := by
  simp [closeField, begun]

theorem isField_of_mem_fieldsFrom {field items member : List α}
    (clean : ∀ item ∈ field, sep item = false)
    (mem : member ∈ fieldsFrom sep field items) : IsField sep member := by
  induction items generalizing field with
  | nil =>
      rcases mem_closeField mem with ⟨rfl, begun⟩
      exact ⟨begun, clean⟩
  | cons item rest ih =>
      rw [fieldsFrom] at mem
      split at mem
      · rcases List.mem_append.mp mem with closed | later
        · rcases mem_closeField closed with ⟨rfl, begun⟩
          exact ⟨begun, clean⟩
        · exact ih (fun _ none => (List.not_mem_nil none).elim) later
      next letter =>
        apply ih _ mem
        intro other among
        rcases List.mem_append.mp among with before | last
        · exact clean other before
        · rw [List.mem_singleton.mp last]
          exact Bool.eq_false_iff.mpr letter

theorem isField_of_mem_fields {items member : List α}
    (mem : member ∈ fields sep items) : IsField sep member :=
  isField_of_mem_fieldsFrom (fun _ none => (List.not_mem_nil none).elim) mem

/-- A list with a separator behind it has room for its fields, each with a separator
behind it. -/
theorem sum_length_fieldsFrom (field items : List α) :
    ((fieldsFrom sep field items).map fun member => member.length + 1).sum ≤
      field.length + items.length + 1 := by
  have close : ∀ field : List α,
      ((closeField field).map fun member => member.length + 1).sum ≤
        field.length + 1 := by
    intro field
    rw [closeField]
    split <;> simp
  induction items generalizing field with
  | nil => exact close field
  | cons item rest ih =>
      rw [fieldsFrom, List.length_cons]
      split
      · rw [List.map_append, List.sum_append]
        have first := close field
        have others := ih []
        rw [List.length_nil] at others
        omega
      · have longer := ih (field ++ [item])
        rw [List.length_append, List.length_singleton] at longer
        omega

/-- Up to a separator the fields are those before it and those after it. -/
theorem fieldsFrom_append_sep {mark : α} (separates : sep mark = true)
    (field before after : List α) :
    fieldsFrom sep field (before ++ mark :: after) =
      fieldsFrom sep field before ++ fields sep after := by
  induction before generalizing field with
  | nil => simp [fieldsFrom, fields, separates]
  | cons item rest ih =>
      simp only [List.cons_append, fieldsFrom]
      split
      · rw [ih, List.append_assoc]
      · exact ih _

theorem fieldsFrom_of_clean {items : List α}
    (clean : ∀ item ∈ items, sep item = false) (field : List α) :
    fieldsFrom sep field items = closeField (field ++ items) := by
  induction items generalizing field with
  | nil => rw [fieldsFrom, List.append_nil]
  | cons item rest ih =>
      have letter := clean item List.mem_cons_self
      have others : ∀ other ∈ rest, sep other = false := fun other among =>
        clean other (List.mem_cons_of_mem _ among)
      rw [fieldsFrom, if_neg (by simp [letter]), ih others]
      simp

/-- A field is its own only field. -/
theorem IsField.fields {field : List α} (isField : IsField sep field) :
    fields sep field = [field] := by
  rw [Lists.fields, fieldsFrom_of_clean isField.clean, List.nil_append,
    closeField_of_ne_nil isField.ne_nil]

/-- Joined fields are cut where they were joined. -/
theorem fields_intercalate {mark : α} (separates : sep mark = true)
    {parts : List (List α)} (areFields : ∀ part ∈ parts, IsField sep part) :
    fields sep ([mark].intercalate parts) = parts := by
  induction parts with
  | nil => rfl
  | cons part rest ih =>
      have isField := areFields part List.mem_cons_self
      have others : ∀ other ∈ rest, IsField sep other := fun other among =>
        areFields other (List.mem_cons_of_mem _ among)
      cases rest with
      | nil => rw [List.intercalate_singleton, isField.fields]
      | cons next rest =>
          rw [List.intercalate_cons_cons, List.append_assoc, List.singleton_append,
            fields, fieldsFrom_append_sep separates, ih others, ← fields,
            isField.fields, List.singleton_append]

end PrivateAiWorkspace.Lists
