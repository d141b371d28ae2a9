import Mathlib.Algebra.Order.Floor.Ring
import Mathlib.Algebra.Order.Field.Basic

/-!
# Truncation towards zero

Integer division in C drops the fraction of the exact quotient. `trunc` does so to any element of
an ordered field with a floor. It is monotone, and on a quotient of integers it is
`Int.tdiv`.
-/
namespace Truncation

variable {K : Type*} [Field K] [LinearOrder K] [FloorRing K]

/-- The integer next to the value on the side of zero. -/
def trunc (x : K) : ℤ := if 0 ≤ x then ⌊x⌋ else ⌈x⌉

theorem trunc_of_nonneg {x : K} (h : 0 ≤ x) : trunc x = ⌊x⌋ := if_pos h

variable [IsStrictOrderedRing K]

theorem trunc_of_nonpos {x : K} (h : x ≤ 0) : trunc x = ⌈x⌉ := by
  rcases h.eq_or_lt with rfl | h
  · simp [trunc]
  · exact if_neg (not_le.mpr h)

theorem trunc_mono {x y : K} (hxy : x ≤ y) : trunc x ≤ trunc y := by
  rcases le_total 0 x with hx | hx
  · rw [trunc_of_nonneg hx, trunc_of_nonneg (hx.trans hxy)]
    exact Int.floor_mono hxy
  rcases le_total 0 y with hy | hy
  · rw [trunc_of_nonpos hx, trunc_of_nonneg hy]
    have hx : ⌈x⌉ ≤ 0 := Int.ceil_le.mpr (by simpa using hx)
    exact hx.trans (Int.floor_nonneg.mpr hy)
  · rw [trunc_of_nonpos hx, trunc_of_nonpos hy]
    exact Int.ceil_mono hxy

@[simp] theorem trunc_intCast (n : ℤ) : trunc (n : K) = n := by
  unfold trunc
  split <;> simp

@[simp] theorem trunc_neg (x : K) : trunc (-x) = -trunc x := by
  rcases le_total 0 x with hx | hx
  · rw [trunc_of_nonneg hx, trunc_of_nonpos (neg_nonpos.mpr hx), Int.ceil_neg]
  · rw [trunc_of_nonpos hx, trunc_of_nonneg (neg_nonneg.mpr hx), Int.floor_neg]

/-- The quotient of integers, rounded as C rounds it. -/
theorem trunc_div (n : ℤ) (d : ℕ) : trunc ((n : K) / d) = n.tdiv d := by
  have hpos : ∀ m : ℤ, 0 ≤ m → trunc ((m : K) / d) = m.tdiv d := by
    intro m hm
    rw [trunc_of_nonneg (div_nonneg (Int.cast_nonneg hm) (Nat.cast_nonneg d)),
      Int.floor_div_natCast, Int.floor_intCast, Int.tdiv_eq_ediv_of_nonneg hm]
  rcases le_total 0 n with hn | hn
  · exact hpos n hn
  · have hneg := hpos (-n) (neg_nonneg.mpr hn)
    rw [Int.cast_neg, neg_div, trunc_neg, Int.neg_tdiv] at hneg
    exact neg_injective hneg

/-! ## Two divisors -/

/-- A larger divisor takes its share out of the remainder. -/
theorem div_eq_div_iff_le_mod {m k n : ℕ} (hk : 0 < k) (hkn : k ≤ n) :
    m / n = m / k ↔ (n - k) * (m / k) ≤ m % k := by
  have hsplit : k * (m / k) + m % k = m := Nat.div_add_mod m k
  have hle : m / n ≤ m / k := Nat.div_le_div_left hkn hk
  have hmul : (n - k) * (m / k) + k * (m / k) = (m / k) * n := by
    rw [← Nat.add_mul, Nat.sub_add_cancel hkn, Nat.mul_comm]
  calc m / n = m / k ↔ m / k ≤ m / n := ⟨fun h => h.ge, fun h => le_antisymm hle h⟩
    _ ↔ (m / k) * n ≤ m := Nat.le_div_iff_mul_le (hk.trans_le hkn)
    _ ↔ (n - k) * (m / k) ≤ m % k := by omega

/-- The same of quotients that are rounded towards zero, of either sign. -/
theorem tdiv_eq_tdiv_iff {s : ℤ} {k n : ℕ} (hk : 0 < k) (hkn : k ≤ n) :
    s.tdiv n = s.tdiv k ↔ (n - k) * (s.natAbs / k) ≤ s.natAbs % k := by
  rw [← div_eq_div_iff_le_mod hk hkn]
  obtain ⟨m, rfl | rfl⟩ := s.eq_nat_or_neg
  · rw [← Int.ofNat_tdiv, ← Int.ofNat_tdiv, Int.natAbs_natCast, Int.natCast_inj]
  · rw [Int.neg_tdiv, Int.neg_tdiv, ← Int.ofNat_tdiv, ← Int.ofNat_tdiv, Int.natAbs_neg,
      Int.natAbs_natCast, neg_inj, Int.natCast_inj]

end Truncation
