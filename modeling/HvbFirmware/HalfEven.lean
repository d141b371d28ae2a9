import Mathlib.Algebra.Order.Floor.Ring
import Mathlib.Algebra.Order.Field.Basic
import Mathlib.Tactic.Linarith

/-!
# Rounding to the nearest integer, ties to even

Any ordered field with a floor has it. A value rounds to at most `n` if it is below the middle
between `n` and its successor, and on the middle if `n` is even.
-/
namespace HalfEven

variable {K : Type*} [Field K] [LinearOrder K] [FloorRing K]

/-- The nearest integer, and of two equally near ones the even one. -/
def round (x : K) : ℤ :=
  if 2 * Int.fract x < 1 then ⌊x⌋
  else if 1 < 2 * Int.fract x then ⌊x⌋ + 1
  else ⌊x⌋ + ⌊x⌋ % 2

/-- A value goes to one of its two neighbours, and never to the farther one. -/
theorem round_mem (x : K) : round x = ⌊x⌋ ∧ 2 * Int.fract x ≤ 1 ∨
    round x = ⌊x⌋ + 1 ∧ 1 ≤ 2 * Int.fract x := by
  unfold round
  split
  next hlow => exact .inl ⟨rfl, hlow.le⟩
  next hlow =>
  split
  next hhigh => exact .inr ⟨rfl, hhigh.le⟩
  next hhigh =>
    rcases Int.emod_two_eq_zero_or_one ⌊x⌋ with heven | hodd
    · exact .inl ⟨by rw [heven, add_zero], not_lt.mp hhigh⟩
    · exact .inr ⟨by rw [hodd], not_lt.mp hlow⟩

variable [IsStrictOrderedRing K]

theorem abs_round_sub_le (x : K) : |(round x : K) - x| ≤ 1 / 2 := by
  have hsplit := Int.floor_add_fract x
  have hnonneg := Int.fract_nonneg x
  have hlt := Int.fract_lt_one x
  rw [abs_le]
  rcases round_mem x with ⟨h, hle⟩ | ⟨h, hle⟩
  · rw [h]
    constructor <;> linarith
  · rw [h]
    push_cast
    constructor <;> linarith

/-- What rounds to at most `n` is below the middle above `n`, which belongs to `n` itself only if
`n` is even. -/
theorem round_le_iff {x : K} {n : ℤ} :
    round x ≤ n ↔ 2 * x < 2 * n + 1 ∨ (2 * x = 2 * n + 1 ∧ n % 2 = 0) := by
  have hsplit := Int.floor_add_fract x
  have hnonneg := Int.fract_nonneg x
  have hlt := Int.fract_lt_one x
  rcases lt_trichotomy ⌊x⌋ n with h | h | h
  · have hle : (⌊x⌋ : K) + 1 ≤ n := by exact_mod_cast h
    have hround : round x ≤ n := by
      rcases round_mem x with ⟨hr, -⟩ | ⟨hr, -⟩ <;> omega
    exact iff_of_true hround (.inl (by linarith))
  · have hcast : (⌊x⌋ : K) = n := by exact_mod_cast h
    unfold round
    split
    next hlow => exact iff_of_true h.le (.inl (by linarith))
    next hlow =>
    split
    next hhigh =>
      exact iff_of_false (by omega) (by rintro (hx | ⟨hx, -⟩) <;> linarith)
    next hhigh =>
      have htie : 2 * x = 2 * n + 1 := by linarith
      rw [h]
      simp only [htie, lt_irrefl, false_or, true_and]
      omega
  · have hle : (n : K) + 1 ≤ ⌊x⌋ := by exact_mod_cast h
    have hround : ¬ round x ≤ n := by
      rcases round_mem x with ⟨hr, -⟩ | ⟨hr, -⟩ <;> omega
    exact iff_of_false hround (by rintro (hx | ⟨hx, -⟩) <;> linarith)

theorem lt_round_iff {x : K} {n : ℤ} :
    n < round x ↔ 2 * n + 1 < 2 * x ∨ (2 * x = 2 * n + 1 ∧ n % 2 = 1) := by
  rw [← not_le, round_le_iff]
  rcases lt_trichotomy (2 * x) (2 * n + 1) with h | h | h
  · simp [h, h.ne, h.not_gt]
  · simp only [h, lt_irrefl, false_or, true_and]
    omega
  · simp [h, h.ne', h.not_gt]

end HalfEven
