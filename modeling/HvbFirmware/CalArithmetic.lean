import HvbFirmware.VcControllerRuns
import HvbFirmware.Truncation
import Mathlib.Data.Rat.Floor
import Mathlib.Algebra.Order.Field.Rat
import Mathlib.Tactic.GCongr
import Mathlib.Tactic.NormNum

/-!
# The arithmetic of the calibration

A calibrated value is `raw * k * 10^k_exp + b`. The code computes it in `int64_t` from a mantissa
and a table of powers of ten, with a division that truncates. The exponents that the field writes
let through keep every value on the way in range, and the result is the exact product
truncated, plus the offset.
-/
namespace CalArithmetic

open VcTypes VcChannel VcController Truncation

/-! ## One axis -/

/-- The coefficients of one axis. -/
structure Gain where
  mantissa : UInt16
  exp : Int16
  offset : Int16
  deriving DecidableEq, Repr

def outputGain (cal : ChannelCalConfig) : Gain :=
  ⟨cal.outputCalibK, cal.outputCalibKExp, cal.outputCalibB⟩

def voltageGain (cal : ChannelCalConfig) : Gain :=
  ⟨cal.measuredVoltageCalibK, cal.measuredVoltageCalibKExp, cal.measuredVoltageCalibB⟩

def currentGain (cal : ChannelCalConfig) : Gain :=
  ⟨cal.measuredCurrentCalibK, cal.measuredCurrentCalibKExp, cal.measuredCurrentCalibB⟩

namespace Gain

variable {g : Gain} {raw raw' : Int}

/-- The product of `apply_gain`, its result, and the sum with the offset, in the order in which
they are computed. -/
def values (g : Gain) (raw : Int) : List Int :=
  let scaled := raw * g.mantissa.toNat
  let gained := applyGain raw g.mantissa g.exp
  [scaled, gained, gained + g.offset.toInt]

/-- What the axis is documented to compute. -/
def exact (g : Gain) (raw : Int) : Int :=
  trunc ((raw : ℚ) * g.mantissa.toNat * 10 ^ g.exp.toInt) + g.offset.toInt

theorem pow10_eq {n : Nat} (h : n < 10) : pow10 n = (10 : Int) ^ n := by
  decide +revert

theorem toInt_range (h : calKExpInRange g.exp) : -9 ≤ g.exp.toInt ∧ g.exp.toInt ≤ 4 := by
  simp only [calKExpInRange, decide_eq_true_eq] at h
  exact ⟨Int16.le_iff_toInt_le.mp h.1, Int16.le_iff_toInt_le.mp h.2⟩

/-- The result of `apply_gain` is the exact product, truncated. -/
theorem applyGain_eq (h : calKExpInRange g.exp) (raw : Int) :
    applyGain raw g.mantissa g.exp =
      trunc ((raw : ℚ) * g.mantissa.toNat * 10 ^ g.exp.toInt) := by
  obtain ⟨hlo, hhi⟩ := toInt_range h
  have hzero : (0 : Int16).toInt = 0 := rfl
  have hscaled : ((raw * g.mantissa.toNat : Int) : ℚ) = raw * g.mantissa.toNat := by push_cast; rfl
  unfold applyGain
  dsimp only
  rw [← hscaled]
  split
  next hpos =>
    have hpos := Int16.lt_iff_toInt_lt.mp hpos
    obtain ⟨n, hn⟩ := Int.eq_ofNat_of_zero_le (by omega : 0 ≤ g.exp.toInt)
    rw [hn, Int.toNat_natCast, pow10_eq (by omega), zpow_natCast]
    exact_mod_cast (trunc_intCast (K := ℚ) _).symm
  next hnonpos =>
  split
  next hneg =>
    have hneg := Int16.lt_iff_toInt_lt.mp hneg
    obtain ⟨n, hn⟩ := Int.eq_ofNat_of_zero_le (by omega : 0 ≤ -g.exp.toInt)
    have hexp : g.exp.toInt = -(n : Int) := by omega
    rw [hn, Int.toNat_natCast, pow10_eq (by omega), hexp, zpow_neg, zpow_natCast, ← div_eq_mul_inv]
    exact_mod_cast (trunc_div (K := ℚ) (raw * g.mantissa.toNat) (10 ^ n)).symm
  next hnonneg =>
    have hexp : g.exp.toInt = 0 := by
      have hle := Int16.le_iff_toInt_le.mp (Int16.not_lt.mp hnonpos)
      have hge := Int16.le_iff_toInt_le.mp (Int16.not_lt.mp hnonneg)
      omega
    rw [hexp, zpow_zero, mul_one, trunc_intCast]

theorem exact_eq (h : calKExpInRange g.exp) (raw : Int) :
    g.exact raw = applyGain raw g.mantissa g.exp + g.offset.toInt := by
  rw [exact, applyGain_eq h]

theorem exact_mono (hle : raw ≤ raw') : g.exact raw ≤ g.exact raw' := by
  have hpow : (0 : ℚ) ≤ 10 ^ g.exp.toInt := zpow_nonneg (by norm_num) _
  refine Int.add_le_add_right (trunc_mono ?_) _
  gcongr

end Gain

/-! ## In range -/

def InInt64 (value : Int) : Prop :=
  -9223372036854775808 ≤ value ∧ value ≤ 9223372036854775807

/-- The exponent scales a product by ten thousand at most. -/
theorem natAbs_applyGain_le {g : Gain} (h : calKExpInRange g.exp) (raw : Int) :
    (applyGain raw g.mantissa g.exp).natAbs ≤ (raw * g.mantissa.toNat).natAbs * 10000 := by
  obtain ⟨hlo, hhi⟩ := Gain.toInt_range h
  have hone : (raw * g.mantissa.toNat).natAbs ≤ (raw * g.mantissa.toNat).natAbs * 10000 :=
    Nat.le_mul_of_pos_right _ (by decide)
  unfold applyGain
  dsimp only
  split
  · have hpow : (pow10 g.exp.toInt.toNat).natAbs ≤ 10000 := by
      have hlt : g.exp.toInt.toNat < 5 := by omega
      generalize g.exp.toInt.toNat = n at hlt
      decide +revert
    rw [Int.natAbs_mul]
    exact Nat.mul_le_mul_left _ hpow
  split
  · exact (Int.natAbs_tdiv_le_natAbs _ _).trans hone
  · exact hone

theorem natAbs_product_le (raw : Int32) (mantissa : UInt16) :
    (raw.toInt * mantissa.toNat).natAbs ≤ 2147483648 * 65535 := by
  have hraw : raw.toInt.natAbs ≤ 2147483648 := by
    have hlo := raw.le_toInt
    have hhi := raw.toInt_lt
    omega
  have hmantissa : mantissa.toNat ≤ 65535 := Nat.le_of_lt_succ mantissa.toNat_lt
  rw [Int.natAbs_mul, Int.natAbs_natCast]
  exact Nat.mul_le_mul hraw hmantissa

theorem values_inInt64 {g : Gain} (h : calKExpInRange g.exp) (raw : Int32) :
    ∀ value ∈ g.values raw.toInt, InInt64 value := by
  have hproduct := natAbs_product_le raw g.mantissa
  have hgained := natAbs_applyGain_le h raw.toInt
  have hlo := g.offset.le_toInt
  have hhi := g.offset.toInt_lt
  intro value hvalue
  simp only [Gain.values, List.mem_cons, List.not_mem_nil, or_false] at hvalue
  unfold InInt64
  rcases hvalue with rfl | rfl | rfl <;> omega

/-! ## The three axes -/

theorem toInt_clampInt16 (value : Int) :
    (clampInt16 value).toInt = max (-32768) (min 32767 value) := by
  unfold clampInt16
  split
  next hover =>
    have h : (32767 : Int16).toInt = 32767 := rfl
    omega
  split
  next hunder =>
    have h : (-32768 : Int16).toInt = -32768 := rfl
    omega
  next hover hunder =>
    rw [Int16.toInt_ofInt_of_le (by omega) (by omega)]
    omega

/-- `raw_drive_from_target` at its parameter type; `apply_hw` calls it with an `int16_t`. -/
def rawDriveFromInt32 (ch : Channel) (target : Int32) : UInt16 :=
  let raw := applyGain target.toInt ch.calConfig.outputCalibK ch.calConfig.outputCalibKExp +
    ch.calConfig.outputCalibB.toInt
  if raw ≤ 0 then 0
  else if raw > 65535 then 65535
  else UInt16.ofNat raw.toNat

theorem rawDriveFromTarget_eq (ch : Channel) (target : Int16) :
    rawDriveFromTarget ch target = rawDriveFromInt32 ch target.toInt32 := by
  unfold rawDriveFromTarget rawDriveFromInt32
  rw [Int16.toInt_toInt32]

theorem toNat_rawDriveFromInt32 (ch : Channel) (target : Int32) :
    ((rawDriveFromInt32 ch target).toNat : Int) = max 0 (min 65535
      (applyGain target.toInt (outputGain ch.calConfig).mantissa (outputGain ch.calConfig).exp +
        (outputGain ch.calConfig).offset.toInt)) := by
  unfold rawDriveFromInt32 outputGain
  dsimp only
  split
  next hunder =>
    have h : (0 : UInt16).toNat = 0 := rfl
    omega
  split
  next hover =>
    have h : (65535 : UInt16).toNat = 65535 := rfl
    omega
  next hunder hover =>
    have hsize : UInt16.size = 65536 := rfl
    rw [UInt16.toNat_ofNat_of_lt' (by omega)]
    omega

/-- A current sample is calibrated before the protection looks at it. -/
theorem measuredCurrent_consumeCurrent (ch : Channel) (raw : Int32) :
    (consumeCurrent ch raw).measuredCurrent = (measureCurrent ch raw).measuredCurrent := by
  have hhw : ∀ ch : Channel, (applyHw ch).measuredCurrent = ch.measuredCurrent := by
    intro ch
    unfold applyHw
    split <;> rfl
  show (if !(measureCurrent ch raw).ramping then tickCurrentProtection (measureCurrent ch raw)
    else measureCurrent ch raw).measuredCurrent = _
  split
  · rcases tickCurrentProtection_cases (measureCurrent ch raw) with h | h | ⟨-, h⟩ <;> rw [h]
    · rfl
    · show (applyProtectionAction _ _).measuredCurrent = _
      unfold applyProtectionAction
      dsimp only
      rw [hhw]
      split <;> rfl
  · rfl

/-- What an axis is to do with the raw values: nothing on the way leaves `int64_t`, the result is
the exact one, clamped, and it does not fall when the raw value rises. -/
structure Converts (g : Gain) (lo hi : Int) (result : Int32 → Int) : Prop where
  safe : ∀ raw : Int32, ∀ value ∈ g.values raw.toInt, InInt64 value
  exact : ∀ raw : Int32, result raw = max lo (min hi (g.exact raw.toInt))
  monotone : ∀ raw raw' : Int32, raw ≤ raw' → result raw ≤ result raw'

theorem Converts.of_clamped {g : Gain} {lo hi : Int} {result : Int32 → Int}
    (h : calKExpInRange g.exp) (hresult : ∀ raw : Int32, result raw =
      max lo (min hi (applyGain raw.toInt g.mantissa g.exp + g.offset.toInt))) :
    Converts g lo hi result := by
  have hexact : ∀ raw : Int32, result raw = max lo (min hi (g.exact raw.toInt)) := by
    intro raw
    rw [hresult, Gain.exact_eq h]
  refine ⟨values_inInt64 h, hexact, fun raw raw' hle => ?_⟩
  have hmono := Gain.exact_mono (g := g) (Int32.le_iff_toInt_le.mp hle)
  rw [hexact, hexact]
  omega

/-- With an exponent that the field write lets through, the measured values and the DAC code are
computed exactly and safely, for every raw value, mantissa and offset. -/
theorem calibration_exact (ch : Channel) :
    (calKExpInRange ch.calConfig.measuredVoltageCalibKExp →
      Converts (voltageGain ch.calConfig) (-32768) 32767 fun raw =>
        (consumeVoltage ch raw).measuredVoltage.toInt) ∧
    (calKExpInRange ch.calConfig.measuredCurrentCalibKExp →
      Converts (currentGain ch.calConfig) (-32768) 32767 fun raw =>
        (consumeCurrent ch raw).measuredCurrent.toInt) ∧
    (calKExpInRange ch.calConfig.outputCalibKExp →
      Converts (outputGain ch.calConfig) 0 65535 fun target =>
        (rawDriveFromInt32 ch target).toNat) := by
  refine ⟨fun h => .of_clamped h fun raw => ?_, fun h => .of_clamped h fun raw => ?_,
    fun h => .of_clamped h fun target => ?_⟩
  · exact toInt_clampInt16 _
  · rw [measuredCurrent_consumeCurrent]
    exact toInt_clampInt16 _
  · exact toNat_rawDriveFromInt32 ch target

/-- The default coefficients. -/
theorem calibration_exact_example :
    let ch := VcChannel.init Kconfig.hvb dacNode
    Converts ⟨1, -6, 0⟩ (-32768) 32767 (fun raw => (consumeVoltage ch raw).measuredVoltage.toInt) ∧
      Converts ⟨1, -6, 0⟩ (-32768) 32767
        (fun raw => (consumeCurrent ch raw).measuredCurrent.toInt) ∧
      Converts ⟨32768, -4, 0⟩ 0 65535 fun target => (rawDriveFromInt32 ch target).toNat :=
  have h := calibration_exact (VcChannel.init Kconfig.hvb dacNode)
  ⟨h.1 (by decide), h.2.1 (by decide), h.2.2 (by decide)⟩

end CalArithmetic
