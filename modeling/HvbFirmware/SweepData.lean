import HvbFirmware.LeastSquares
import HvbFirmware.VcTypes
import Mathlib.Algebra.BigOperators.Ring.Finset
import Mathlib.Data.Rat.Floor
import Mathlib.Algebra.Order.Field.Rat
import Mathlib.Tactic.NormNum

/-!
# The data of a calibration sweep

`SweepData.h` and `SweepData.cpp` of the factory tool. A double is a rational number.
-/
namespace SweepData

structure SweepPoint where
  dacCode : Int := 0
  adcV : Int32 := 0
  adcI : Int32 := 0
  dmmV : ℚ := 0
  dmmI : ℚ := 0
  dmmVSet : Bool := false
  dmmISet : Bool := false
  deriving DecidableEq

structure FitResult where
  k : ℚ := 1
  b : ℚ := 0
  r2 : ℚ := 0
  valid : Bool := false
  deriving DecidableEq

structure ChannelCalData where
  ch : Int := 0
  hasOut : Bool := false
  hasMeasV : Bool := false
  hasMeasI : Bool := false
  needsCal : Bool := false
  points : List SweepPoint := []
  outFit : FitResult := {}
  measVFit : FitResult := {}
  measIFit : FitResult := {}
  deriving DecidableEq

open LeastSquares

/-- `1e-12` -/
def tiny : ℚ := 1 / 10 ^ 12

def r2 (x y : List ℚ) : ℚ :=
  let meanY := y.sum / y.length
  let ssTot := (y.map fun t => (t - meanY) * (t - meanY)).sum
  let ssRes := (x.zipWith (fun s t =>
    let res := t - (slope x y * s + intercept x y)
    res * res) y).sum
  if ssTot < tiny then 1 else 1 - ssRes / ssTot

def linearRegression (x y : List ℚ) : FitResult :=
  if x.length < 2 ∨ x.length ≠ y.length then {}
  else if |spread x| < tiny then {}
  else { k := slope x y, b := intercept x y, r2 := r2 x y, valid := true }

/-! ## Places that are integers -/

theorem spread_intCast (x : List ℤ) : spread (x.map ((↑) : ℤ → ℚ)) =
    ((x.length * (x.zipWith (· * ·) x).sum - x.sum * x.sum : ℤ) : ℚ) := by
  have hsquares : sumXY (x.map ((↑) : ℤ → ℚ)) (x.map (↑)) = ((x.zipWith (· * ·) x).sum : ℤ) := by
    rw [sumXY, List.zipWith_map, Int.cast_list_sum, List.map_zipWith]
    simp only [Int.cast_mul]
  rw [spread, hsquares, List.length_map, ← Int.cast_list_sum]
  push_cast
  ring

/-- The divisor is an integer, so it is zero or not tiny. -/
theorem tiny_le_spread {x : List ℤ} {s t : ℤ} (hs : s ∈ x) (ht : t ∈ x) (hne : s ≠ t) :
    tiny ≤ spread (x.map ((↑) : ℤ → ℚ)) := by
  have hpos : 0 < spread (x.map ((↑) : ℤ → ℚ)) :=
    spread_pos (List.mem_map.mpr ⟨s, hs, rfl⟩) (List.mem_map.mpr ⟨t, ht, rfl⟩)
      (Int.cast_injective.ne hne)
  rw [spread_intCast] at hpos ⊢
  have hone : (1 : ℚ) ≤ ((x.length * (x.zipWith (· * ·) x).sum - x.sum * x.sum : ℤ) : ℚ) := by
    exact_mod_cast Int.cast_pos.mp hpos
  exact le_trans (by norm_num [tiny]) hone

theorem two_le_length {x : List ℤ} {s t : ℤ} (hs : s ∈ x) (ht : t ∈ x) (hne : s ≠ t) :
    2 ≤ x.length := by
  match x with
  | [] => cases hs
  | [r] =>
    rw [List.mem_singleton] at hs ht
    exact absurd (hs.trans ht.symm) hne
  | _ :: _ :: _ => simp

/-- The regression finds the line that the points lie on. -/
theorem linearRegression_line (a b : ℚ) {x : List ℤ} {s t : ℤ} (hs : s ∈ x) (ht : t ∈ x)
    (hne : s ≠ t) :
    let fit := linearRegression (x.map (↑)) (line a b (x.map (↑)))
    fit.k = a ∧ fit.b = b := by
  have hlength := two_le_length hs ht hne
  have hspread := tiny_le_spread hs ht hne
  have hnonzero : spread (x.map ((↑) : ℤ → ℚ)) ≠ 0 := by
    have htiny : (0 : ℚ) < tiny := by norm_num [tiny]
    exact (htiny.trans_le hspread).ne'
  have hcount : ((x.map ((↑) : ℤ → ℚ)).length : ℚ) ≠ 0 := by
    rw [List.length_map]
    exact_mod_cast (by omega : x.length ≠ 0)
  unfold linearRegression
  rw [if_neg (by simp [line]; omega), if_neg (not_lt.mpr (hspread.trans (le_abs_self _)))]
  exact ⟨slope_line a b hnonzero, intercept_line a b hnonzero hcount⟩

/-- Without two places there is no fit. -/
theorem linearRegression_const {x y : List ℚ} (h : ∀ s ∈ x, ∀ t ∈ x, s = t) :
    linearRegression x y = {} := by
  have hzero : spread x = 0 := by
    by_contra hne
    obtain ⟨s, hs, t, ht, hst⟩ := spread_ne_zero_iff.mp hne
    exact hst (h s hs t ht)
  unfold linearRegression
  split
  · rfl
  · rw [hzero, abs_zero, if_pos (by norm_num [tiny])]

end SweepData
