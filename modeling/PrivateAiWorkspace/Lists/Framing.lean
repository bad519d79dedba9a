import Mathlib.Data.List.Basic

/-!
# Frames behind a doubled separator

A stream is cut where a separator stands twice. A reader who gets the stream in
pieces, cuts what they have so far and keeps the part behind the last cut for the
next piece, cuts the stream as a whole.
-/

namespace PrivateAiWorkspace.Lists

variable {α : Type} [DecidableEq α]

/-- One more element at the front: it belongs to the first frame, or to the rest
if there is no frame. -/
def consFrame (item : α) : List (List α) × List α → List (List α) × List α
  | ([], rest) => ([], item :: rest)
  | (frame :: frames, rest) => ((item :: frame) :: frames, rest)

/-- The frames of a stream and the rest behind them. -/
def splitFrames (sep : α) : List α → List (List α) × List α
  | [] => ([], [])
  | [item] => ([], [item])
  | first :: second :: items =>
      if first = sep ∧ second = sep then
        ([] :: (splitFrames sep items).1, (splitFrames sep items).2)
      else consFrame first (splitFrames sep (second :: items))

section

variable {sep : α}

theorem splitFrames_doubled (items : List α) :
    splitFrames sep (sep :: sep :: items) =
      ([] :: (splitFrames sep items).1, (splitFrames sep items).2) := by
  rw [splitFrames, if_pos ⟨rfl, rfl⟩]

/-- Without a cut the rest is everything. -/
theorem rest_of_no_frame {items : List α} (none : (splitFrames sep items).1 = []) :
    (splitFrames sep items).2 = items := by
  induction items using splitFrames.induct sep with
  | case1 => rfl
  | case2 item => rfl
  | case3 first second items both ih =>
      rw [splitFrames, if_pos both] at none
      cases none
  | case4 first second items single ih =>
      rw [splitFrames, if_neg single] at none ⊢
      rcases split : splitFrames sep (second :: items) with ⟨frames, rest⟩
      rw [split] at none ih
      cases frames with
      | nil =>
          rw [← ih rfl]
          rfl
      | cons frame frames => cases none

/-- A stream in two pieces: the second is cut together with the rest of the
first. -/
theorem splitFrames_append (first second : List α) :
    splitFrames sep (first ++ second) =
      ((splitFrames sep first).1 ++
          (splitFrames sep ((splitFrames sep first).2 ++ second)).1,
        (splitFrames sep ((splitFrames sep first).2 ++ second)).2) := by
  induction first using splitFrames.induct sep with
  | case1 => rfl
  | case2 item => rfl
  | case3 head next items both ih =>
      rw [List.cons_append, List.cons_append, splitFrames, splitFrames, if_pos both,
        if_pos both, ih]
      rfl
  | case4 head next items single ih =>
      rw [List.cons_append, List.cons_append, splitFrames, splitFrames,
        if_neg single, if_neg single, ← List.cons_append, ih]
      have whole := @rest_of_no_frame _ _ sep (next :: items)
      rcases split : splitFrames sep (next :: items) with ⟨frames, rest⟩
      rw [split] at whole
      cases frames with
      | nil =>
          cases whole rfl
          simp [consFrame, splitFrames, single]
      | cons frame frames => rfl

/-- A frame without the separator in it is cut off. -/
theorem splitFrames_frame {frame : List α} (absent : sep ∉ frame)
    (items : List α) :
    splitFrames sep (frame ++ sep :: sep :: items) =
      (frame :: (splitFrames sep items).1, (splitFrames sep items).2) := by
  induction frame with
  | nil => exact splitFrames_doubled items
  | cons item frame ih =>
      rw [List.mem_cons, not_or] at absent
      have rest := ih absent.2
      cases frame with
      | nil =>
          rw [List.cons_append, List.nil_append, splitFrames,
            if_neg fun both => absent.1 both.1.symm, splitFrames_doubled]
          rfl
      | cons next frame =>
          rw [List.cons_append, List.cons_append, splitFrames,
            if_neg fun both => absent.1 both.1.symm, ← List.cons_append, rest]
          rfl

/-- A stream of such frames. -/
theorem splitFrames_flatMap {frames : List (List α)}
    (absent : ∀ frame ∈ frames, sep ∉ frame) :
    splitFrames sep (frames.flatMap fun frame => frame ++ [sep, sep]) =
      (frames, []) := by
  induction frames with
  | nil => rfl
  | cons frame frames ih =>
      have rest := ih fun frame member => absent frame (List.mem_cons_of_mem _ member)
      rw [List.flatMap_cons, List.append_assoc, List.cons_append,
        List.cons_append, List.nil_append,
        splitFrames_frame (absent frame List.mem_cons_self), rest]

end

end PrivateAiWorkspace.Lists
