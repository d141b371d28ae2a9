import Mathlib

/-!
# Doubles

The doubles of Lean have a logical model: an operation unpacks its arguments, computes exactly,
rounds, and packs the result again. A change of sign survives the packing, a double divided by its
opposite is exactly -1, and no double is both at most another and above it.
-/
namespace Doubles

open Float.Model UnpackedFloat

/-! ## The sign -/

section Sign

variable {F : Format} {m : ℕ} {e : ℤ} {hm : 0 < m}

/-- The sign is a field of its own when a double is packed. -/
theorem pack_finite (F : Format) (m : ℕ) (e : ℤ) (hm : 0 < m) :
    ∃ exponent mantissa, ∀ s,
      UnpackedFloat.pack F (.finite s m e hm) = packComponents F s exponent mantissa := by
  simp only [UnpackedFloat.pack]
  by_cases hover :
      2 ^ F.exponentBits ≤ (e + F.exponentBias + F.mantissaBitsWithoutImplicit).toNat + 1
  · exact ⟨_, _, fun _ => if_pos hover⟩
  by_cases hnormal : m.log2 + 1 = F.mantissaBits
  · exact ⟨_, _, fun _ => (if_neg hover).trans (if_pos hnormal)⟩
  · exact ⟨_, _, fun _ => (if_neg hover).trans (if_neg hnormal)⟩

/-- And when it is unpacked. -/
theorem unpack_packComponents_sign {s₀ s : Sign} {exponent : BitVec F.exponentBits}
    {mantissa : BitVec F.mantissaBitsWithoutImplicit}
    (h : UnpackedFloat.unpack F (packComponents F s₀ exponent mantissa) = .finite s m e hm)
    (s' : Sign) :
    UnpackedFloat.unpack F (packComponents F s' exponent mantissa) = .finite s' m e hm := by
  simp only [UnpackedFloat.unpack, unpackSign_packComponents, unpackExponent_packComponents,
    unpackMantissa_packComponents, Sign.ofBitVec_toBitVec] at h ⊢
  split at h
  · split at h <;> cases h
  next hfull =>
  rw [if_neg hfull]
  split at h
  next hsub =>
    rw [if_pos hsub]
    split at h
    · cases h
    next hne =>
    rw [dif_neg hne]
    obtain ⟨-, rfl, rfl⟩ := UnpackedFloat.finite.inj h
    rfl
  next hsub =>
    rw [if_neg hsub]
    obtain ⟨-, rfl, rfl⟩ := UnpackedFloat.finite.inj h
    rfl

end Sign

/-- A double keeps its magnitude under another sign. -/
theorem unpack_pack_sign {x : Float.Model} {s : Sign} {m : ℕ} {e : ℤ} {hm : 0 < m}
    (h : x.unpack = .finite s m e hm) (s' : Sign) :
    (Float.Model.pack (.finite s' m e hm)).unpack = .finite s' m e hm := by
  change UnpackedFloat.unpack Format.binary64 x.toBits.toBitVec = _ at h
  obtain ⟨exponent, mantissa, hpack⟩ := pack_finite Format.binary64 m e hm
  have hbits : x.toBits.toBitVec = packComponents Format.binary64 s exponent mantissa := by
    rw [← hpack, ← h]
    exact (pack_unpack_of_valid x.valid).symm
  rw [hbits] at h
  show UnpackedFloat.unpack _ (UnpackedFloat.pack _ _) = _
  rw [hpack]
  exact unpack_packComponents_sign h s'

/-! ## Division -/

def minusOne : UnpackedFloat := .finite .negative (2 ^ 52) (-52) (by decide)

theorem div_opposite (s : Sign) (m : ℕ) (e : ℤ) (hm : 0 < m) :
    UnpackedFloat.div Format.binary64 (.finite (-s) m e hm) (.finite s m e hm) = minusOne := by
  have hsign : -s / s = Sign.negative := by cases s <;> rfl
  have hcore : divCore Format.binary64 m e m e = (2 ^ 53, -53, .exact) := by
    have htarget : min 0 (Format.binary64.targetExponent 0) = -53 := by decide
    have hshift : (0 - (-53 : ℤ)).toNat = 53 := by decide
    unfold divCore
    simp only [sub_self]
    rw [htarget, hshift, Nat.shiftLeft_eq, Nat.mul_div_cancel_left _ hm, Nat.mul_mod_right]
    rfl
  unfold UnpackedFloat.div
  dsimp only
  rw [hcore, hsign]
  rfl

/-- Zero less a double, divided by it, is -1; for a zero or an infinite one it is no number. -/
theorem zero_sub_div (t : Float.Model) :
    (Float.Model.ofNat 0 - t) / t = Float.Model.pack minusOne ∨
      ((Float.Model.ofNat 0 - t) / t).unpack = .notANumber := by
  have hzero : (Float.Model.ofNat 0).unpack = .zero .positive := rfl
  have hquot : (Float.Model.ofNat 0 - t) / t = Float.Model.pack (UnpackedFloat.div Format.binary64
      (Float.Model.pack (UnpackedFloat.sub Format.binary64 (.zero .positive) t.unpack)).unpack
      t.unpack) := by
    rw [← hzero]
    rfl
  rw [hquot]
  cases ht : t.unpack with
  | notANumber => exact .inr rfl
  | infinity s => cases s <;> exact .inr rfl
  | zero s => cases s <;> exact .inr rfl
  | finite s m e hm =>
    left
    rw [UnpackedFloat.sub, unpack_pack_sign ht (-s), div_opposite]

/-! ## Comparison -/

theorem then_swap (e e' : ℤ) (m m' : ℕ) :
    (compare e' e).then (compare m' m) = ((compare e e').then (compare m m')).swap := by
  rw [Ordering.swap_then, Int.compare_swap, Nat.compare_swap]

theorem compare_swap (a b : UnpackedFloat) : b.compare a = (a.compare b).map Ordering.swap := by
  cases a with
  | notANumber => cases b <;> rfl
  | infinity s => cases s <;> rcases b with (_ | _) | _ | _ | ⟨_ | _, _, _, _⟩ <;> rfl
  | zero s => rcases b with (_ | _) | _ | _ | ⟨_ | _, _, _, _⟩ <;> rfl
  | finite s m e hm =>
    cases s <;> rcases b with (_ | _) | _ | _ | ⟨_ | _, m', e', _⟩ <;> try rfl
    · exact congrArg (some ·.swap) (then_swap e e' m m')
    · exact congrArg some (then_swap e e' m m')

theorem not_lt_of_le {x y : Float} (h : x ≤ y) : ¬ y < x := by
  intro hlt
  have hle : (x.toModel.unpack.compare y.toModel.unpack).any (·.isLE) := of_decide_eq_true h
  have hgt : y.toModel.unpack.compare x.toModel.unpack == some .lt := of_decide_eq_true hlt
  rw [compare_swap x.toModel.unpack, beq_iff_eq] at hgt
  cases hcompare : x.toModel.unpack.compare y.toModel.unpack with
  | none => simp [hcompare] at hle
  | some o => cases o <;> simp_all

theorem not_le_of_nan {x y : Float} (h : x.toModel.unpack = .notANumber) : ¬ x ≤ y := by
  intro hle
  have hle : (x.toModel.unpack.compare y.toModel.unpack).any (·.isLE) := of_decide_eq_true hle
  rw [h] at hle
  cases hle

/-- Zero is a hundred percent away from every double that it is a percentage away from. -/
theorem percent_of_zero {t tol : Float} (h : ((0.0 - t) / t * 100.0).abs ≤ tol) :
    ¬ tol < 100.0 := by
  have hpercent : ((0.0 - t) / t * 100.0).abs =
      .ofModel ((((Float.Model.ofNat 0 - t.toModel) / t.toModel) *
        (100.0 : Float).toModel).abs) := rfl
  rcases zero_sub_div t.toModel with hquot | hnan
  · have hwhole : ((0.0 - t) / t * 100.0).abs = 100.0 := by
      rw [hpercent, hquot]
      decide +kernel
    rw [hwhole] at h
    exact not_lt_of_le h
  · refine absurd h (not_le_of_nan ?_)
    show (Float.Model.pack (UnpackedFloat.abs (Float.Model.pack (UnpackedFloat.mul _
      ((Float.Model.ofNat 0 - t.toModel) / t.toModel).unpack _)).unpack)).unpack = _
    rw [hnan]
    rfl

end Doubles
