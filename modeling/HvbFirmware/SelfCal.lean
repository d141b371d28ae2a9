import HvbFirmware.HalfEven
import Mathlib.Data.Rat.Floor
import Mathlib.Algebra.Order.Field.Rat
import Mathlib.Tactic.NormNum
import Mathlib.Tactic.Ring

/-!
# The gain of the self-calibration

`k_kexp_from_gain` of `jw_hvb_selfcal.py`, in exact arithmetic. The mantissa grows when the exponent
falls, and the search lowers the exponent when the mantissa is too large: it walks away
from the exponents that would do, to the end of the range, and clamps the mantissa there.
-/
namespace SelfCal

/-- `round(gain * 10.0 ** (-k_exp))`, which rounds ties to even. -/
def mantissa (gain : ℚ) (kExp : ℤ) : ℤ := HalfEven.round (gain * 10 ^ (-kExp))

/-- The loop of `k_kexp_from_gain`: a result, or the exponent with which it was left. -/
def search (gain : ℚ) : ℕ → ℤ → Except ℤ (ℤ × ℤ)
  | 0, kExp => .error kExp
  | n + 1, kExp =>
    let k := mantissa gain kExp
    if 1 ≤ k ∧ k ≤ 65535 then .ok (k, kExp)
    else
      let kExp := if 65535 < k then kExp - 1 else kExp + 1
      if kExp < -9 ∨ 4 < kExp then .error kExp else search gain n kExp

def kKexpFromGain (gain : ℚ) (kExpHint : ℤ) : ℤ × ℤ :=
  match search gain 20 kExpHint with
  | .ok found => found
  | .error kExp =>
    let kExp := max (-9) (min 4 kExp)
    (max 1 (min 65535 (mantissa gain kExp)), kExp)

/-! ## What an encoding is for -/

/-- The exponent gives the gain a mantissa of 16 bits. -/
def Usable (gain : ℚ) (kExp : ℤ) : Prop :=
  1 ≤ mantissa gain kExp ∧ mantissa gain kExp ≤ 65535

instance (gain : ℚ) (kExp : ℤ) : Decidable (Usable gain kExp) :=
  inferInstanceAs (Decidable (_ ∧ _))

/-- The registers hold the result, and it is the gain to within half a unit of the mantissa. -/
structure Faithful (gain : ℚ) (result : ℤ × ℤ) : Prop where
  mantissa : 1 ≤ result.1 ∧ result.1 ≤ 65535
  exponent : -9 ≤ result.2 ∧ result.2 ≤ 4
  close : |result.1 * 10 ^ result.2 - gain| ≤ (10 : ℚ) ^ result.2 / 2

/-- What the caller wants of an encoding, when its channel has the exponent `kExpHint`. -/
def Encodes (gain : ℚ) (kExpHint : ℤ) (result : ℤ × ℤ) : Prop :=
  Faithful gain result ∧ (Usable gain kExpHint → result.2 = kExpHint)

section Walk

variable {gain : ℚ} {kExp : ℤ}

theorem units_pos (hpos : 0 < gain) (kExp : ℤ) : 0 < gain * 10 ^ (-kExp) :=
  mul_pos hpos (zpow_pos (by norm_num) _)

theorem scale_pred (gain : ℚ) (kExp : ℤ) :
    gain * 10 ^ (-(kExp - 1)) = 10 * (gain * 10 ^ (-kExp)) := by
  rw [show -(kExp - 1) = -kExp + 1 by ring, zpow_add_one₀ (by norm_num)]
  ring

theorem large_iff : 65535 < mantissa gain kExp ↔ 131071 ≤ 2 * (gain * 10 ^ (-kExp)) := by
  rw [mantissa, HalfEven.lt_round_iff, le_iff_lt_or_eq]
  norm_num [eq_comm]

theorem small_iff : mantissa gain kExp < 1 ↔ 2 * (gain * 10 ^ (-kExp)) ≤ 1 := by
  rw [← Int.le_sub_one_iff, mantissa, HalfEven.round_le_iff, le_iff_lt_or_eq]
  norm_num

theorem large_pred (h : 65535 < mantissa gain kExp) : 65535 < mantissa gain (kExp - 1) := by
  rw [large_iff] at h ⊢
  rw [scale_pred]
  linarith

theorem small_succ (h : mantissa gain kExp < 1) : mantissa gain (kExp + 1) < 1 := by
  have hscale := scale_pred gain (kExp + 1)
  rw [small_iff] at h ⊢
  rw [add_sub_cancel_right] at hscale
  linarith

theorem search_usable {n : ℕ} (hn : n ≠ 0) (h : Usable gain kExp) :
    search gain n kExp = .ok (mantissa gain kExp, kExp) := by
  obtain ⟨n, rfl⟩ := Nat.exists_eq_succ_of_ne_zero hn
  exact if_pos h

/-- Once the mantissa is too large, it grows until the exponent is out of range. -/
theorem search_large {n : ℕ} (hn : kExp + 9 < n) (hlo : -9 ≤ kExp) (hhi : kExp ≤ 4)
    (h : 65535 < mantissa gain kExp) : search gain n kExp = .error (-10) := by
  induction n generalizing kExp with
  | zero => omega
  | succ n ih =>
    unfold search
    dsimp only
    rw [if_neg (by omega), if_pos h]
    split
    next hout =>
      have hend : kExp - 1 = -10 := by omega
      rw [hend]
    next hin => exact ih (by omega) (by omega) (by omega) (large_pred h)

/-- Once the mantissa is zero, it stays zero until the exponent is out of range. -/
theorem search_small {n : ℕ} (hn : 4 - kExp < n) (hlo : -9 ≤ kExp) (hhi : kExp ≤ 4)
    (h : mantissa gain kExp < 1) : search gain n kExp = .error 5 := by
  induction n generalizing kExp with
  | zero => omega
  | succ n ih =>
    have hnone : ¬ (1 ≤ mantissa gain kExp ∧ mantissa gain kExp ≤ 65535) := by omega
    have hnot : ¬ 65535 < mantissa gain kExp := by omega
    unfold search
    dsimp only
    rw [if_neg hnone, if_neg hnot]
    split
    next hout =>
      have hend : kExp + 1 = 5 := by omega
      rw [hend]
    next hin => exact ih (by omega) (by omega) (by omega) (small_succ h)

end Walk

section Result

variable {gain : ℚ} {kExpHint : ℤ}

/-- An exponent further up takes units from the mantissa. -/
theorem scale_le (hpos : 0 < gain) {lo hi : ℤ} (h : lo < hi) :
    10 * (gain * 10 ^ (-hi)) ≤ gain * 10 ^ (-lo) := by
  rw [← scale_pred]
  gcongr
  · norm_num
  · omega

theorem kKexpFromGain_usable (h : Usable gain kExpHint) :
    kKexpFromGain gain kExpHint = (mantissa gain kExpHint, kExpHint) := by
  rw [kKexpFromGain, search_usable (by decide) h]

theorem kKexpFromGain_large (hlo : -9 ≤ kExpHint) (hhi : kExpHint ≤ 4) (hpos : 0 < gain)
    (h : 65535 < mantissa gain kExpHint) : kKexpFromGain gain kExpHint = (65535, -9) := by
  have hend : 65535 < mantissa gain (-9) := by
    rcases hlo.eq_or_lt with rfl | hlt
    · exact h
    · rw [large_iff] at h ⊢
      linarith [scale_le hpos hlt]
  rw [kKexpFromGain, search_large (by omega) hlo hhi h]
  show (max 1 (min 65535 (mantissa gain (-9))), (-9 : ℤ)) = _
  rw [min_eq_left hend.le, max_eq_right (by decide)]

theorem kKexpFromGain_small (hlo : -9 ≤ kExpHint) (hhi : kExpHint ≤ 4) (hpos : 0 < gain)
    (h : mantissa gain kExpHint < 1) : kKexpFromGain gain kExpHint = (1, 4) := by
  have hend : mantissa gain 4 < 1 := by
    rcases hhi.eq_or_lt with rfl | hlt
    · exact h
    · have hunits := units_pos hpos 4
      rw [small_iff] at h ⊢
      linarith [scale_le hpos hlt]
  rw [kKexpFromGain, search_small (by omega) hlo hhi h]
  show (max 1 (min 65535 (mantissa gain 4)), (4 : ℤ)) = _
  rw [min_eq_right (by omega), max_eq_left (by omega)]

/-- Half a unit of the mantissa. -/
theorem close_iff (gain : ℚ) (k kExp : ℤ) :
    |k * 10 ^ kExp - gain| ≤ (10 : ℚ) ^ kExp / 2 ↔ |(k : ℚ) - gain * 10 ^ (-kExp)| ≤ 1 / 2 := by
  have hpow : (0 : ℚ) < 10 ^ kExp := zpow_pos (by norm_num) kExp
  have hunits : gain = gain * 10 ^ (-kExp) * 10 ^ kExp := by
    rw [mul_assoc, ← zpow_add₀ (by norm_num), neg_add_cancel, zpow_zero, mul_one]
  calc |k * 10 ^ kExp - gain| ≤ (10 : ℚ) ^ kExp / 2
      ↔ |(k - gain * 10 ^ (-kExp)) * 10 ^ kExp| ≤ 1 / 2 * 10 ^ kExp := by
        rw [sub_mul, ← hunits]
        ring_nf
    _ ↔ |(k : ℚ) - gain * 10 ^ (-kExp)| ≤ 1 / 2 := by
        rw [abs_mul, abs_of_pos hpow, mul_le_mul_iff_left₀ hpow]

theorem faithful_usable (hlo : -9 ≤ kExpHint) (hhi : kExpHint ≤ 4) (h : Usable gain kExpHint) :
    Faithful gain (mantissa gain kExpHint, kExpHint) :=
  ⟨h, ⟨hlo, hhi⟩, (close_iff gain _ kExpHint).mpr (HalfEven.abs_round_sub_le _)⟩

theorem faithful_large_iff (hlo : -9 ≤ kExpHint) (hpos : 0 < gain)
    (h : 65535 < mantissa gain kExpHint) :
    Faithful gain (65535, -9) ↔ kExpHint = -9 ∧ gain = 131071 / (2 * 10 ^ 9) := by
  rw [large_iff] at h
  constructor
  · rintro ⟨-, -, hclose⟩
    rw [close_iff, abs_le] at hclose
    obtain ⟨hlow, hhigh⟩ := hclose
    rcases hlo.eq_or_lt with rfl | hlt
    · norm_num at h hlow hhigh
      exact ⟨rfl, by linarith⟩
    · have hscale := scale_le hpos hlt
      simp only [Int.cast_ofNat] at hlow
      generalize gain * 10 ^ (-(-9 : ℤ)) = units at hlow hscale
      linarith
  · rintro ⟨rfl, rfl⟩
    exact ⟨by decide, by decide, by norm_num [abs_le]⟩

theorem faithful_small_iff (hhi : kExpHint ≤ 4) (hpos : 0 < gain)
    (h : mantissa gain kExpHint < 1) :
    Faithful gain (1, 4) ↔ kExpHint = 4 ∧ gain = 5000 := by
  rw [small_iff] at h
  constructor
  · rintro ⟨-, -, hclose⟩
    rw [close_iff, abs_le] at hclose
    obtain ⟨hlow, hhigh⟩ := hclose
    rcases hhi.eq_or_lt with rfl | hlt
    · norm_num at h hlow hhigh
      exact ⟨rfl, by linarith⟩
    · have hscale := scale_le hpos hlt
      simp only [Int.cast_one] at hhigh
      generalize gain * 10 ^ (-(4 : ℤ)) = units at hhigh hscale
      linarith
  · rintro ⟨rfl, rfl⟩
    exact ⟨by decide, by decide, by norm_num [abs_le]⟩

/-- The exponent of the channel is usable, or the gain lies in the middle beside the largest or the
smallest of all encodings and the channel has that exponent. -/
def EncodedWhen (gain : ℚ) (kExpHint : ℤ) : Prop :=
  Usable gain kExpHint ∨ (kExpHint = -9 ∧ gain = 131071 / (2 * 10 ^ 9)) ∨
    (kExpHint = 4 ∧ gain = 5000)

/-- A gain is encoded as it should be if and only if the exponent of the channel already suits it:
the search never finds another one. -/
theorem encodes_iff (hpos : 0 < gain) (hlo : -9 ≤ kExpHint) (hhi : kExpHint ≤ 4) :
    Encodes gain kExpHint (kKexpFromGain gain kExpHint) ↔ EncodedWhen gain kExpHint := by
  unfold Encodes EncodedWhen
  by_cases husable : Usable gain kExpHint
  · rw [kKexpFromGain_usable husable]
    exact iff_of_true ⟨faithful_usable hlo hhi husable, fun _ => rfl⟩ (.inl husable)
  rcases lt_or_ge 65535 (mantissa gain kExpHint) with hlarge | hnot
  · have hother : ¬ (kExpHint = 4 ∧ gain = 5000) := by
      rintro ⟨rfl, rfl⟩
      exact absurd hlarge (by decide +kernel)
    rw [kKexpFromGain_large hlo hhi hpos hlarge, faithful_large_iff hlo hpos hlarge]
    simp [husable, hother]
  · have hsmall : mantissa gain kExpHint < 1 := by
      by_contra hge
      exact husable ⟨not_lt.mp hge, hnot⟩
    have hother : ¬ (kExpHint = -9 ∧ gain = 131071 / (2 * 10 ^ 9)) := by
      rintro ⟨rfl, rfl⟩
      exact absurd hsmall (by decide +kernel)
    rw [kKexpFromGain_small hlo hhi hpos hsmall, faithful_small_iff hhi hpos hsmall]
    simp [husable, hother]

/-- A hundredth, with the exponent that the boards come with. -/
theorem encodes_hundredth : Encodes (1 / 100) (-6) (kKexpFromGain (1 / 100) (-6)) :=
  (encodes_iff (by norm_num) (by decide) (by decide)).mpr (.inl (by decide +kernel))

/-- A tenth needs an exponent above -6, and the search goes down from there. -/
theorem encodes_tenth :
    Usable (1 / 10) (-5) ∧ kKexpFromGain (1 / 10) (-6) = (65535, -9) ∧
      ¬ Encodes (1 / 10) (-6) (kKexpFromGain (1 / 10) (-6)) := by
  have hresult : kKexpFromGain (1 / 10) (-6) = (65535, -9) := by decide +kernel
  refine ⟨by decide +kernel, hresult, ?_⟩
  rintro ⟨⟨-, -, hclose⟩, -⟩
  rw [hresult] at hclose
  norm_num [abs_le] at hclose

end Result

end SelfCal
