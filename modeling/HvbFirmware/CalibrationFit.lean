import HvbFirmware.CalArithmetic
import HvbFirmware.SweepData
import Mathlib.Tactic.FieldSimp
import Mathlib.Tactic.Linarith

/-!
# The fitted calibration of the voltage axis

`computeFit` and `writeCoefficients` of `CalibrationBackend.cpp`, and the way of a fit through the
registers into `vc_channel_consume_voltage`. The fit is one of millivolts, with a gain in
millionths; the firmware adds the offset in units of 0.1 V and scales the gain by the exponent
that the board happens to have.
-/
namespace CalibrationFit

open VcTypes VcChannel VcController CalArithmetic SweepData LeastSquares Truncation

/-! ## The factory tool -/

/-- The readings that the operator has entered for a point. -/
structure DmmPoint where
  dmmV : Option ℚ
  dmmI : Option ℚ
  deriving DecidableEq

def withDmm (pt : SweepPoint) (dm : DmmPoint) : SweepPoint :=
  { pt with
    dmmV := dm.dmmV.getD 0
    dmmI := dm.dmmI.getD 0
    dmmVSet := dm.dmmV.isSome
    dmmISet := dm.dmmI.isSome }

def fitOf (x y : List ℚ) : FitResult := if 2 ≤ x.length then linearRegression x y else {}

def computeFit (d : ChannelCalData) (dmmPoints : List DmmPoint) : ChannelCalData :=
  if d.points.isEmpty ∨ dmmPoints.length ≠ d.points.length then d
  else
    let points := d.points.zipWith withDmm dmmPoints
    let vSet := points.filter (·.dmmVSet)
    let iSet := points.filter (·.dmmISet)
    { d with
      points := points
      outFit :=
        if d.hasOut then fitOf (vSet.map fun pt => pt.dmmV * 1000) (vSet.map fun pt => pt.dacCode)
        else d.outFit
      measVFit :=
        if d.hasMeasV then
          fitOf (vSet.map fun pt => pt.adcV.toInt) (vSet.map fun pt => pt.dmmV * 1000)
        else d.measVFit
      measIFit :=
        if d.hasMeasI then fitOf (iSet.map fun pt => pt.adcI.toInt) (iSet.map fun pt => pt.dmmI)
        else d.measIFit }

def outputCalDivisor : ℚ := 10000

def measCalDivisor : ℚ := 1000000

/-- `qRound`, half away from zero. -/
def qRound (x : ℚ) : ℤ := if 0 ≤ x then trunc (x + 1 / 2) else trunc (x - 1 / 2)

/-- The values of `doWriteCoefficients`. -/
structure Coefficients where
  outK : UInt16
  outB : Int16
  measVK : UInt16
  measVB : Int16
  measIK : UInt16
  measIB : Int16
  deriving DecidableEq

/-- The values are kept for the report, and cast to the widths of the registers. -/
def writeCoefficients (d : ChannelCalData) (outK outB measVK measVB measIK measIB : ℚ) :
    ChannelCalData × Coefficients :=
  ({ d with
      outFit := { d.outFit with k := outK, b := outB }
      measVFit := { d.measVFit with k := measVK, b := measVB }
      measIFit := { d.measIFit with k := measIK, b := measIB } },
    { outK := UInt16.ofInt (qRound (outK * outputCalDivisor))
      outB := Int16.ofInt (qRound outB)
      measVK := UInt16.ofInt (qRound (measVK * measCalDivisor))
      measVB := Int16.ofInt (qRound measVB)
      measIK := UInt16.ofInt (qRound (measIK * measCalDivisor))
      measIB := Int16.ofInt (qRound measIB) })

/-- `writeCoefficients` with the fitted values. -/
def fitted (d : ChannelCalData) : Coefficients :=
  (writeCoefficients d d.outFit.k d.outFit.b d.measVFit.k d.measVFit.b d.measIFit.k
    d.measIFit.b).2

/-- `writeCalibrationMeasV`: the two registers, as the firmware takes them. -/
def writeCalibrationMeasV (ch : Channel) (k : UInt16) (b : Int16) : Channel :=
  (setCalField (setCalField ch .measuredVK k).2 .measuredVB b.toUInt16).2

/-! ## The sweep -/

/-- A sweep of a board whose raw voltage is `α * V + β`, with exact readings of the meter. -/
structure ExactSweep (α β : ℚ) (d : ChannelCalData) (dmmPoints : List DmmPoint) : Prop where
  measured : d.hasMeasV
  length : dmmPoints.length = d.points.length
  exact : ∀ p ∈ d.points.zip dmmPoints, ∃ v, p.2.dmmV = some v ∧
    (p.1.adcV.toInt : ℚ) = α * v + β
  distinct : ∃ dm ∈ dmmPoints, ∃ dm' ∈ dmmPoints, dm.dmmV ≠ dm'.dmmV

/-- The rounded gain and the rounded offset fit their registers. -/
structure Representable (fit : FitResult) : Prop where
  gain : 0 ≤ qRound (fit.k * measCalDivisor) ∧ qRound (fit.k * measCalDivisor) ≤ 65535
  offset : -32768 ≤ qRound fit.b ∧ qRound fit.b ≤ 32767

/-- A voltage in units of 0.1 V, in the range of the register. -/
def saturated (x : ℚ) : ℚ := max (-32768) (min 32767 x)

def WithinOneLsb (measured : Int16) (volts : ℚ) : Prop :=
  |(measured.toInt : ℚ) - saturated (volts * 10)| ≤ 1

instance (measured : Int16) (volts : ℚ) : Decidable (WithinOneLsb measured volts) :=
  inferInstanceAs (Decidable (_ ≤ _))

/-- The gain of the board in mV per count, and its offset in mV. -/
def gainMv (α : ℚ) : ℚ := 1000 / α

def offsetMv (α β : ℚ) : ℚ := -1000 * β / α

/-- What the firmware shows beyond the true voltage, in mV: the error of the gain, the error of the
offset, and what the truncation drops. A count of the registers is 0.1 V. -/
def errorMv (α β : ℚ) (exp : ℤ) (raw : ℤ) : ℚ :=
  let k := qRound (gainMv α * measCalDivisor)
  let b := qRound (offsetMv α β)
  let product := (raw : ℚ) * k * 10 ^ exp
  (100 * k * 10 ^ exp - gainMv α) * raw + (100 * b - offsetMv α β) -
    100 * (product - trunc product)

/-- The error is at most 0.1 V, or true and shown voltage are off the same end of the range. -/
def unitsAgree (α β : ℚ) (exp : ℤ) (pt : SweepPoint) : Bool :=
  let e := errorMv α β exp pt.adcV.toInt
  let mv := pt.dmmV * 1000
  |e| ≤ 100 ∨ (3276600 ≤ mv ∧ 3276600 ≤ mv + e) ∨ (mv ≤ -3276700 ∧ mv + e ≤ -3276700)

/-! ## The fit -/

section Fit

variable {α β : ℚ} {d : ChannelCalData} {dmmPoints : List DmmPoint}

theorem ExactSweep.points_eq (h : ExactSweep α β d dmmPoints) :
    (computeFit d dmmPoints).points = d.points.zipWith withDmm dmmPoints ∧
      (computeFit d dmmPoints).measVFit =
        let vSet := (d.points.zipWith withDmm dmmPoints).filter (·.dmmVSet)
        fitOf (vSet.map fun pt => pt.adcV.toInt) (vSet.map fun pt => pt.dmmV * 1000) := by
  have hsome : d.points ≠ [] := by
    obtain ⟨dm, hdm, -⟩ := h.distinct
    intro hnil
    have hlength := h.length
    rw [hnil, List.length_nil, List.length_eq_zero_iff] at hlength
    rw [hlength] at hdm
    cases hdm
  unfold computeFit
  rw [if_neg (by simp [hsome, h.length])]
  exact ⟨rfl, if_pos h.measured⟩

theorem ExactSweep.points (h : ExactSweep α β d dmmPoints) :
    (computeFit d dmmPoints).points =
      (d.points.zip dmmPoints).map fun p => withDmm p.1 p.2 := by
  rw [h.points_eq.1]
  exact (List.map_uncurry_zip_eq_zipWith).symm

theorem ExactSweep.point (h : ExactSweep α β d dmmPoints) {pt : SweepPoint}
    (hpt : pt ∈ (computeFit d dmmPoints).points) :
    pt.dmmVSet ∧ (pt.adcV.toInt : ℚ) = α * pt.dmmV + β := by
  rw [h.points] at hpt
  obtain ⟨p, hp, rfl⟩ := List.mem_map.mp hpt
  obtain ⟨v, hv, hraw⟩ := h.exact p hp
  simpa [withDmm, hv] using hraw

/-- All voltages are set, so the fit sees every point of the sweep. -/
theorem ExactSweep.measVFit (h : ExactSweep α β d dmmPoints) :
    (computeFit d dmmPoints).measVFit =
      fitOf ((computeFit d dmmPoints).points.map fun pt => pt.adcV.toInt)
        ((computeFit d dmmPoints).points.map fun pt => pt.dmmV * 1000) := by
  have hall := List.filter_eq_self.mpr fun pt hpt => (h.point hpt).1
  rw [h.points_eq.1] at hall ⊢
  rw [h.points_eq.2, hall]

theorem ExactSweep.two_volts (h : ExactSweep α β d dmmPoints) :
    ∃ pt ∈ (computeFit d dmmPoints).points, ∃ pt' ∈ (computeFit d dmmPoints).points,
      pt.dmmV ≠ pt'.dmmV := by
  have hpoint : ∀ dm ∈ dmmPoints, ∃ pt ∈ (computeFit d dmmPoints).points,
      dm.dmmV = some pt.dmmV := by
    intro dm hdm
    rw [← List.map_snd_zip (Nat.le_of_eq h.length)] at hdm
    obtain ⟨p, hp, rfl⟩ := List.mem_map.mp hdm
    obtain ⟨v, hv, -⟩ := h.exact p hp
    refine ⟨withDmm p.1 p.2, ?_, by simp [withDmm, hv]⟩
    rw [h.points]
    exact List.mem_map.mpr ⟨p, hp, rfl⟩
  obtain ⟨dm, hdm, dm', hdm', hne⟩ := h.distinct
  obtain ⟨pt, hpt, hv⟩ := hpoint dm hdm
  obtain ⟨pt', hpt', hv'⟩ := hpoint dm' hdm'
  exact ⟨pt, hpt, pt', hpt', fun heq => hne (by rw [hv, hv', heq])⟩

/-- A board that does not see its voltage has no fit, and the gain of no fit is one. -/
theorem ExactSweep.ne_zero (h : ExactSweep α β d dmmPoints)
    (hfit : Representable (computeFit d dmmPoints).measVFit) : α ≠ 0 := by
  rintro rfl
  have hconst : ∀ r ∈ (computeFit d dmmPoints).points.map fun pt => (pt.adcV.toInt : ℚ),
      r = β := by
    intro r hr
    obtain ⟨pt, hpt, rfl⟩ := List.mem_map.mp hr
    rw [(h.point hpt).2, zero_mul, zero_add]
  have hnone : (computeFit d dmmPoints).measVFit = {} := by
    rw [h.measVFit]
    unfold fitOf
    split
    · exact linearRegression_const fun s hs t ht => (hconst s hs).trans (hconst t ht).symm
    · rfl
  have hgain := hfit.gain.2
  rw [hnone] at hgain
  exact absurd hgain (by decide +kernel)

/-- The fit is the board turned round, in mV. -/
theorem ExactSweep.fit (h : ExactSweep α β d dmmPoints) (hα : α ≠ 0) :
    (computeFit d dmmPoints).measVFit.k = gainMv α ∧
      (computeFit d dmmPoints).measVFit.b = offsetMv α β := by
  have hraws : ((computeFit d dmmPoints).points.map fun pt => (pt.adcV.toInt : ℚ)) =
      ((computeFit d dmmPoints).points.map (·.adcV.toInt)).map (↑) := by
    rw [List.map_map]
    rfl
  have hvolts : ((computeFit d dmmPoints).points.map fun pt => pt.dmmV * 1000) =
      line (gainMv α) (offsetMv α β)
        (((computeFit d dmmPoints).points.map (·.adcV.toInt)).map (↑)) := by
    rw [line, List.map_map, List.map_map]
    refine List.map_congr_left fun pt hpt => ?_
    simp only [Function.comp_apply, (h.point hpt).2, gainMv, offsetMv]
    field_simp
    ring
  obtain ⟨pt, hpt, pt', hpt', hne⟩ := h.two_volts
  have hdiffer : pt.adcV.toInt ≠ pt'.adcV.toInt := by
    intro heq
    have hraw : α * pt.dmmV + β = α * pt'.dmmV + β := by
      rw [← (h.point hpt).2, ← (h.point hpt').2, heq]
    exact hne (mul_left_cancel₀ hα (add_right_cancel hraw))
  have hs := List.mem_map_of_mem (f := (·.adcV.toInt)) hpt
  have ht := List.mem_map_of_mem (f := (·.adcV.toInt)) hpt'
  have hlength := two_le_length hs ht hdiffer
  rw [h.measVFit, hraws, hvolts, fitOf, if_pos (by simpa using hlength)]
  exact linearRegression_line _ _ hs ht hdiffer

end Fit

/-! ## The reading -/

theorem saturated_close_iff (a t : ℚ) : |saturated a - saturated t| ≤ 1 ↔
    |a - t| ≤ 1 ∨ (32766 ≤ a ∧ 32766 ≤ t) ∨ (a ≤ -32767 ∧ t ≤ -32767) := by
  simp only [saturated, abs_le]
  grind

/-- A reading clamped to the register, against the voltage in mV. -/
theorem withinOneLsb_clampInt16 (reading : ℤ) (volts : ℚ) :
    WithinOneLsb (clampInt16 reading) volts ↔
      let e := 100 * (reading : ℚ) - volts * 1000
      |e| ≤ 100 ∨ (3276600 ≤ volts * 1000 ∧ 3276600 ≤ volts * 1000 + e) ∨
        (volts * 1000 ≤ -3276700 ∧ volts * 1000 + e ≤ -3276700) := by
  have hclamp : ((clampInt16 reading).toInt : ℚ) = saturated reading := by
    rw [toInt_clampInt16, saturated]
    push_cast
    rfl
  dsimp only
  rw [WithinOneLsb, hclamp, saturated_close_iff]
  have hscale : |100 * (reading : ℚ) - volts * 1000| = 100 * |reading - volts * 10| := by
    rw [show 100 * (reading : ℚ) - volts * 1000 = 100 * (reading - volts * 10) by ring, abs_mul]
    norm_num
  rw [hscale]
  grind

/-- The gain and the offset of the fit, as the registers take them. -/
theorem toInt_fitted {d : ChannelCalData} (h : Representable d.measVFit) :
    ((fitted d).measVK.toNat : ℤ) = qRound (d.measVFit.k * measCalDivisor) ∧
      (fitted d).measVB.toInt = qRound d.measVFit.b := by
  constructor
  · show ((UInt16.ofInt (qRound (d.measVFit.k * measCalDivisor))).toNat : ℤ) = _
    have hlo := h.gain.1
    have hhi := h.gain.2
    rw [UInt16.ofInt, UInt16.toNat_ofNat']
    omega
  · show (Int16.ofInt (qRound d.measVFit.b)).toInt = _
    exact Int16.toInt_ofInt_of_le h.offset.1 (by have hhi := h.offset.2; omega)

theorem measuredVoltage_writeCalibrationMeasV (ch : Channel) (k : UInt16) (b : Int16)
    (raw : Int32) :
    (consumeVoltage (writeCalibrationMeasV ch k b) raw).measuredVoltage =
      clampInt16 (applyGain raw.toInt k ch.calConfig.measuredVoltageCalibKExp + b.toInt) := by
  have hcal : (writeCalibrationMeasV ch k b).calConfig =
      { ch.calConfig with
        measuredVoltageCalibK := k
        measuredVoltageCalibB := b } := by
    show (applyHw _).calConfig = _
    rw [applyHw_calConfig]
    show { (applyHw _).calConfig with measuredVoltageCalibB := b.toUInt16.toInt16 } = _
    rw [applyHw_calConfig, Int16.toInt16_toUInt16]
  generalize writeCalibrationMeasV ch k b = ch' at hcal ⊢
  show clampInt16 (applyGain raw.toInt ch'.calConfig.measuredVoltageCalibK
    ch'.calConfig.measuredVoltageCalibKExp + ch'.calConfig.measuredVoltageCalibB.toInt) = _
  rw [hcal]

/-- The reading less the true voltage is the error of the units. -/
theorem errorMv_eq {α β v : ℚ} {raw : ℤ} (exp : ℤ) (hα : α ≠ 0) (hraw : (raw : ℚ) = α * v + β) :
    100 * ((trunc ((raw : ℚ) * qRound (gainMv α * measCalDivisor) * 10 ^ exp) +
      qRound (offsetMv α β) : ℤ) : ℚ) - v * 1000 = errorMv α β exp raw := by
  have hvolts : v * 1000 = gainMv α * raw + offsetMv α β := by
    rw [hraw, gainMv, offsetMv]
    field_simp
    ring
  rw [hvolts, errorMv]
  push_cast
  ring

/-- A calibrated channel shows every voltage of its sweep to within 0.1 V if and only if the units
in which the factory tool fits agree with those of the firmware at the exponent of the board. -/
theorem fit_closes_loop_iff {α β : ℚ} {d : ChannelCalData} {dmmPoints : List DmmPoint}
    (h : ExactSweep α β d dmmPoints) (hfit : Representable (computeFit d dmmPoints).measVFit)
    (ch : Channel) (hexp : calKExpInRange ch.calConfig.measuredVoltageCalibKExp) :
    let points := (computeFit d dmmPoints).points
    let coefficients := fitted (computeFit d dmmPoints)
    let ch' := writeCalibrationMeasV ch coefficients.measVK coefficients.measVB
    (∀ pt ∈ points, WithinOneLsb (consumeVoltage ch' pt.adcV).measuredVoltage pt.dmmV) ↔
      ∀ pt ∈ points, unitsAgree α β ch.calConfig.measuredVoltageCalibKExp.toInt pt := by
  have hα := h.ne_zero hfit
  obtain ⟨hgain, hoffset⟩ := h.fit hα
  obtain ⟨hk, hb⟩ := toInt_fitted hfit
  rw [hgain] at hk
  rw [hoffset] at hb
  dsimp only
  refine forall₂_congr fun pt hpt => ?_
  let g : Gain := ⟨(fitted (computeFit d dmmPoints)).measVK,
    ch.calConfig.measuredVoltageCalibKExp, (fitted (computeFit d dmmPoints)).measVB⟩
  have hproduct := Gain.applyGain_eq (g := g) hexp pt.adcV.toInt
  have hmantissa : ((g.mantissa.toNat : ℕ) : ℚ) = qRound (gainMv α * measCalDivisor) := by
    exact_mod_cast congrArg ((↑) : ℤ → ℚ) hk
  rw [hmantissa] at hproduct
  rw [measuredVoltage_writeCalibrationMeasV, hproduct, hb, withinOneLsb_clampInt16]
  dsimp only
  rw [errorMv_eq _ hα (h.point hpt).2]
  simp [unitsAgree, g]

/-- Two points of a board with 100000 counts for a volt. -/
def sweep : ChannelCalData :=
  { hasMeasV := true
    points := [{ adcV := 0 }, { dacCode := 100, adcV := 1000000 }] }

def sweepVolts : List DmmPoint := [⟨some 0, none⟩, ⟨some 10, none⟩]

theorem exactSweep_sweep : ExactSweep 100000 0 sweep sweepVolts where
  measured := rfl
  length := rfl
  exact := by
    intro p hp
    simp only [sweep, sweepVolts, List.zip_cons_cons, List.zip_nil_right, List.mem_cons,
      List.not_mem_nil, or_false] at hp
    rcases hp with rfl | rfl
    · exact ⟨0, rfl, by decide +kernel⟩
    · exact ⟨10, rfl, by decide +kernel⟩
  distinct := ⟨⟨some 0, none⟩, by decide, ⟨some 10, none⟩, by decide, by decide⟩

theorem representable_sweep : Representable (computeFit sweep sweepVolts).measVFit where
  gain := by decide +kernel
  offset := by decide +kernel

/-- A channel whose measured voltage is scaled by `10^exp`. -/
def scaledBy (exp : Int16) : Channel :=
  let ch := VcChannel.init Kconfig.hvb dacNode
  { ch with calConfig := { ch.calConfig with measuredVoltageCalibKExp := exp } }

/-- At an exponent of -8 the gain of mV in millionths is one of 0.1 V. -/
theorem fit_closes_loop_hundredMillionths :
    let points := (computeFit sweep sweepVolts).points
    let coefficients := fitted (computeFit sweep sweepVolts)
    let ch' := writeCalibrationMeasV (scaledBy (-8)) coefficients.measVK coefficients.measVB
    ∀ pt ∈ points, WithinOneLsb (consumeVoltage ch' pt.adcV).measuredVoltage pt.dmmV :=
  (fit_closes_loop_iff exactSweep_sweep representable_sweep (scaledBy (-8)) (by decide)).mpr
    (by decide +kernel)

/-- At the exponent that the boards come with, 10 V reads as 1000 V. -/
theorem default_exponent_hundredfold :
    let points := (computeFit sweep sweepVolts).points
    let coefficients := fitted (computeFit sweep sweepVolts)
    let ch := VcChannel.init Kconfig.hvb dacNode
    let ch' := writeCalibrationMeasV ch coefficients.measVK coefficients.measVB
    ExactSweep 100000 0 sweep sweepVolts ∧
      Representable (computeFit sweep sweepVolts).measVFit ∧
      calKExpInRange ch.calConfig.measuredVoltageCalibKExp ∧
      ∃ pt ∈ points, pt.dmmV = 10 ∧
        (consumeVoltage ch' pt.adcV).measuredVoltage = 10000 ∧
        ¬ WithinOneLsb (consumeVoltage ch' pt.adcV).measuredVoltage pt.dmmV :=
  ⟨exactSweep_sweep, representable_sweep, by decide,
    by decide +kernel⟩

end CalibrationFit
