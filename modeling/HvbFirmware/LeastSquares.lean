import Mathlib.Algebra.Order.BigOperators.Group.List
import Mathlib.Algebra.Order.Field.Basic
import Mathlib.Algebra.BigOperators.Ring.List
import Mathlib.Tactic.Ring

/-!
# The line through a list of points

The sums of a least squares fit over any field. On points that lie on a line the fit is that line,
and over an ordered field the divisor of its slope is positive as soon as two of the points stand
at different places.
-/
namespace LeastSquares

universe u

variable {K : Type u}

section Field

variable [Field K]

def sumXY (x y : List K) : K := (x.zipWith (· * ·) y).sum

/-- The divisor of the slope. -/
def spread (x : List K) : K := x.length * sumXY x x - x.sum * x.sum

def slope (x y : List K) : K := (x.length * sumXY x y - x.sum * y.sum) / spread x

def intercept (x y : List K) : K := (y.sum - slope x y * x.sum) / x.length

/-- The places of the points on the line. -/
def line (a b : K) (x : List K) : List K := x.map fun t => a * t + b

theorem sum_line (a b : K) (x : List K) : (line a b x).sum = a * x.sum + x.length * b := by
  induction x with
  | nil => simp [line]
  | cons t x ih =>
    simp only [line, List.map_cons, List.sum_cons, List.length_cons] at ih ⊢
    rw [ih]
    push_cast
    ring

theorem sumXY_line (a b : K) (x : List K) :
    sumXY x (line a b x) = a * sumXY x x + b * x.sum := by
  induction x with
  | nil => simp [sumXY, line]
  | cons t x ih =>
    simp only [sumXY, line, List.map_cons, List.zipWith_cons_cons, List.sum_cons] at ih ⊢
    rw [ih]
    ring

/-- Points on a line give back its slope, unless all of them lie above one place. -/
theorem slope_line (a b : K) {x : List K} (h : spread x ≠ 0) : slope x (line a b x) = a := by
  rw [slope, div_eq_iff h, sum_line, sumXY_line, spread]
  ring

theorem intercept_line (a b : K) {x : List K} (h : spread x ≠ 0) (hx : (x.length : K) ≠ 0) :
    intercept x (line a b x) = b := by
  rw [intercept, slope_line a b h, sum_line, div_eq_iff hx]
  ring

/-- One more point adds its square distances to the others. -/
theorem spread_cons (t : K) (x : List K) :
    spread (t :: x) = spread x + (x.map fun s => (t - s) * (t - s)).sum := by
  have hsum : (x.map fun s => (t - s) * (t - s)).sum =
      x.length * (t * t) - 2 * t * x.sum + sumXY x x := by
    induction x with
    | nil => simp [sumXY]
    | cons s x ih =>
      simp only [sumXY, List.map_cons, List.zipWith_cons_cons, List.sum_cons,
        List.length_cons] at ih ⊢
      rw [ih]
      push_cast
      ring
  rw [hsum]
  simp only [spread, sumXY, List.zipWith_cons_cons, List.sum_cons, List.length_cons]
  push_cast
  ring

end Field

section Ordered

variable [Field K] [LinearOrder K] [IsStrictOrderedRing K]

theorem squares_nonneg (t : K) (x : List K) : 0 ≤ (x.map fun s => (t - s) * (t - s)).sum :=
  List.sum_nonneg fun d hd => by
    obtain ⟨s, -, rfl⟩ := List.mem_map.mp hd
    exact mul_self_nonneg _

theorem spread_nonneg (x : List K) : 0 ≤ spread x := by
  induction x with
  | nil => simp [spread, sumXY]
  | cons t x ih =>
    rw [spread_cons]
    exact add_nonneg ih (squares_nonneg t x)

theorem squares_pos {t : K} {x : List K} {s : K} (hs : s ∈ x) (hne : s ≠ t) :
    0 < (x.map fun s => (t - s) * (t - s)).sum := by
  have hpos : 0 < (t - s) * (t - s) := mul_self_pos.mpr (sub_ne_zero.mpr hne.symm)
  refine hpos.trans_le (List.single_le_sum (fun d hd => ?_) _ (List.mem_map.mpr ⟨s, hs, rfl⟩))
  obtain ⟨s', -, rfl⟩ := List.mem_map.mp hd
  exact mul_self_nonneg _

/-- Two different places give the slope a divisor. -/
theorem spread_pos {x : List K} {s t : K} (hs : s ∈ x) (ht : t ∈ x) (hne : s ≠ t) :
    0 < spread x := by
  induction x with
  | nil => cases hs
  | cons r x ih =>
    rw [spread_cons]
    rcases List.mem_cons.mp hs with rfl | hs'
    · have ht' : t ∈ x := (List.mem_cons.mp ht).resolve_left hne.symm
      exact add_pos_of_nonneg_of_pos (spread_nonneg x) (squares_pos ht' hne.symm)
    rcases List.mem_cons.mp ht with rfl | ht'
    · exact add_pos_of_nonneg_of_pos (spread_nonneg x) (squares_pos hs' hne)
    · exact add_pos_of_pos_of_nonneg (ih hs' ht') (squares_nonneg r x)

/-- The fit has a slope exactly when two of the places differ. -/
theorem spread_ne_zero_iff {x : List K} :
    spread x ≠ 0 ↔ ∃ s ∈ x, ∃ t ∈ x, s ≠ t := by
  refine ⟨fun h => ?_, fun ⟨s, hs, t, ht, hne⟩ => (spread_pos hs ht hne).ne'⟩
  by_contra hall
  push Not at hall
  refine h ?_
  induction x with
  | nil => simp [spread, sumXY]
  | cons r x ih =>
    have hrest : ∀ s ∈ x, ∀ t ∈ x, s = t := fun s hs t ht =>
      hall s (List.mem_cons_of_mem r hs) t (List.mem_cons_of_mem r ht)
    have hzero : spread x = 0 := by
      by_contra hne
      exact hne (ih hne hrest)
    have hsquares : (x.map fun s => (r - s) * (r - s)).sum = 0 := by
      refine List.sum_eq_zero fun d hd => ?_
      obtain ⟨s, hs, rfl⟩ := List.mem_map.mp hd
      rw [hall r List.mem_cons_self s (List.mem_cons_of_mem r hs), sub_self, mul_zero]
    rw [spread_cons, hzero, hsquares, add_zero]

end Ordered

end LeastSquares
