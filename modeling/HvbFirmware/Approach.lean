import Mathlib.Algebra.Order.Group.Defs
import Mathlib.Algebra.Order.Monoid.Defs
import Mathlib.Order.Interval.Set.UnorderedInterval
import Mathlib.Logic.Function.Iterate

/-!
# A value that approaches a target

One step moves the value by at most the step width and stops at the target. However many steps
are made, the value stays between where it was and the target.
-/
namespace Approach

variable {α : Type*} [AddCommGroup α] [LinearOrder α]

/-- One step of at most the width, which does not pass the target. -/
def approach (width target current : α) : α :=
  if current < target then min (current + width) target
  else max (current - width) target

theorem approach_up {width target current : α} (h : current < target) :
    approach width target current = min (current + width) target := if_pos h

theorem approach_down {width target current : α} (h : ¬current < target) :
    approach width target current = max (current - width) target := if_neg h

variable [IsOrderedAddMonoid α]

/-- The step ends between where it began and the target. -/
theorem approach_mem_uIcc {width : α} (h : 0 ≤ width) (target current : α) :
    approach width target current ∈ Set.uIcc current target := by
  rw [Set.mem_uIcc]
  by_cases hlt : current < target
  · rw [approach_up hlt]
    refine .inl ⟨le_min ?_ hlt.le, min_le_right _ _⟩
    exact le_add_of_nonneg_right h
  · rw [approach_down hlt]
    refine .inr ⟨le_max_right _ _, max_le ?_ (not_lt.mp hlt)⟩
    exact sub_le_self current h

@[simp] theorem approach_self {width : α} (h : 0 ≤ width) (target : α) :
    approach width target target = target := by
  have hmem := approach_mem_uIcc h target target
  simpa using hmem

theorem iterate_approach_self {width : α} (h : 0 ≤ width) (target : α) (n : ℕ) :
    (approach width target)^[n] target = target :=
  Function.iterate_fixed (approach_self h target) n

/-- And so do any number of steps. -/
theorem iterate_approach_mem_uIcc {width : α} (h : 0 ≤ width) (target current : α) (n : ℕ) :
    (approach width target)^[n] current ∈ Set.uIcc current target := by
  induction n generalizing current with
  | zero => exact Set.left_mem_uIcc
  | succ n ih =>
    have hstep := approach_mem_uIcc h target current
    exact Set.uIcc_subset_uIcc_right hstep (ih (approach width target current))

/-- Upwards, `n` steps add `n` widths and stop at the target. -/
theorem iterate_approach_up {width target current : α} (h : 0 ≤ width) (hle : current ≤ target)
    (n : ℕ) : (approach width target)^[n] current = min (current + n • width) target := by
  induction n with
  | zero => simpa using hle
  | succ n ih =>
    rw [Function.iterate_succ_apply', ih, succ_nsmul, ← add_assoc]
    by_cases hlt : current + n • width < target
    · rw [min_eq_left hlt.le, approach_up hlt]
    · have hge : target ≤ current + n • width := not_lt.mp hlt
      rw [min_eq_right hge, approach_self h, min_eq_right (le_add_of_le_of_nonneg hge h)]

/-- Downwards, `n` steps take `n` widths away. -/
theorem iterate_approach_down {width target current : α} (h : 0 ≤ width)
    (hle : target ≤ current) (n : ℕ) :
    (approach width target)^[n] current = max (current - n • width) target := by
  induction n with
  | zero => simpa using hle
  | succ n ih =>
    rw [Function.iterate_succ_apply', ih, succ_nsmul, ← sub_sub]
    by_cases hlt : target < current - n • width
    · rw [max_eq_left hlt.le, approach_down hlt.not_gt]
    · have hge : current - n • width ≤ target := not_lt.mp hlt
      rw [max_eq_right hge, approach_self h, max_eq_right ((sub_le_self _ h).trans hge)]

end Approach
