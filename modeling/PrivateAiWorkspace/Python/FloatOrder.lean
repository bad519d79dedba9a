import PrivateAiWorkspace.Python.Basic
import Mathlib.Algebra.Order.Ring.Rat
import Mathlib.Order.WithBot

/-!
# The order of floats

The comparison of floats agrees with a linear order on all that are numbers.
-/

namespace PrivateAiWorkspace.Python

namespace PyFloat

/-- The place of a float in a linear order; what is not a number comes first. -/
def rank : PyFloat → WithBot (WithTop ℚ)
  | .finite value => ((value : WithTop ℚ) : WithBot (WithTop ℚ))
  | .infinity false => ((⊤ : WithTop ℚ) : WithBot (WithTop ℚ))
  | .infinity true => ⊥
  | .nan => ⊥

theorem lt_iff_rank {left right : PyFloat} (first : left ≠ .nan) (second : right ≠ .nan) :
    left.lt right = true ↔ left.rank < right.rank := by
  cases left with
  | nan => exact absurd rfl first
  | finite value =>
      cases right with
      | nan => exact absurd rfl second
      | finite other => simp [lt, rank]
      | infinity negative =>
          have below : rank (.finite value) < rank (.infinity false) :=
            WithBot.coe_lt_coe.mpr (WithTop.coe_lt_top value)
          cases negative with
          | false => exact iff_of_true rfl below
          | true => simp [lt, rank]
  | infinity negative =>
      cases right with
      | nan => exact absurd rfl second
      | finite other => cases negative <;> simp [lt, rank]
      | infinity other => cases negative <;> cases other <;> simp [lt, rank]

/-- Among numbers, not to be less is to be at least as high. -/
theorem not_lt_eq {left right : PyFloat} (first : left ≠ .nan) (second : right ≠ .nan) :
    (!left.lt right) = decide (right.rank ≤ left.rank) := by
  have below := lt_iff_rank first second
  cases less : left.lt right with
  | true => simp [below.mp less]
  | false =>
      have above : right.rank ≤ left.rank := by
        rw [← not_lt, ← below, less]
        exact Bool.false_ne_true
      simp [above]

end PyFloat

end PrivateAiWorkspace.Python
