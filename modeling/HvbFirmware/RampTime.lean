import Mathlib.Algebra.Order.Floor.Div
import Mathlib.Algebra.Order.Floor.Semiring
import Mathlib.Data.Rat.Floor
import Mathlib.Tactic.FieldSimp
import Mathlib.Tactic.Linarith
import HvbFirmware.RampLaw

/-!
# The time that a ramp takes

The interval register counts seconds in `vc_channel_tick_ramp` and tenths of a second in the host
tools. The ramp makes its steps by the first, and is timed here by both.
-/
namespace RampTime

open VcTypes VcChannel Runs Approach Ramp RampLaw

/-! ## The host codec -/

/-- `intervalToS`, in exact seconds. -/
def intervalToS (raw : UInt16) : ℚ := raw.toNat / 10

def intervalFromS (s : ℚ) : UInt16 := UInt16.ofNat ⌊s * 10 + 1 / 2⌋₊

/-- The host reads back what it has written. -/
theorem intervalFromS_intervalToS (raw : UInt16) : intervalFromS (intervalToS raw) = raw := by
  have hfloor : ⌊(raw.toNat : ℚ) / 10 * 10 + 1 / 2⌋₊ = raw.toNat := by
    rw [Nat.floor_eq_iff (by positivity)]
    constructor <;> linarith
  rw [intervalFromS, intervalToS, hfloor, UInt16.ofNat_toNat]

/-! ## Arriving -/

/-- The running value gets to the target during the ticks. -/
def Reaches (target : Int16) (ch : Channel) (dts : List UInt32) : Prop :=
  ∃ n, (exec tickRamp ch (dts.take n)).operationalTargetVoltage = target

theorem reaches_nil {target : Int16} {ch : Channel} :
    Reaches target ch [] ↔ ch.operationalTargetVoltage = target := by
  simp [Reaches]

theorem Reaches.start {target : Int16} {ch : Channel} {dts : List UInt32}
    (h : ch.operationalTargetVoltage = target) : Reaches target ch dts := ⟨0, h⟩

theorem reaches_cons {target : Int16} {ch : Channel} {dtMs : UInt32} {dts : List UInt32}
    (hne : ch.operationalTargetVoltage ≠ target) :
    Reaches target ch (dtMs :: dts) ↔ Reaches target (tickRamp ch dtMs) dts := by
  constructor
  · rintro ⟨n, hn⟩
    cases n with
    | zero => exact absurd hn hne
    | succ n => exact ⟨n, hn⟩
  · rintro ⟨n, hn⟩
    exact ⟨n + 1, hn⟩

/-- No tick wraps `ramp_accum_ms`, which holds less than an interval between ticks. -/
def TicksFit (ch : Channel) (dts : List UInt32) : Prop :=
  ∀ dtMs ∈ dts, 1000 * (rampIntervalReg ch).toNat + dtMs.toNat ≤ 4294967296

theorem rampRuns_moved {ch : Channel} (r : UInt32 × Int16) :
    rampRuns (refresh (moveRamp ch r)) = rampRuns ch := by
  obtain ⟨hw, dacCode, statusBits, heq⟩ := refresh_eq (moveRamp ch r)
  rw [heq]
  rfl

theorem paced_moved {ch : Channel} (h : Paced ch) {r : UInt32 × Int16}
    (hside : r.2 < selectedTarget ch ↔ ch.operationalTargetVoltage < selectedTarget ch)
    (hne : ch.operationalTargetVoltage ≠ selectedTarget ch) (hmoving : r.2 ≠ selectedTarget ch) :
    Paced (refresh (moveRamp ch r)) := by
  have hother : selectedTarget ch < r.2 ↔ selectedTarget ch < ch.operationalTargetVoltage := by
    grind
  constructor <;> simp only [stepReg_moved hside, intervalReg_moved hside, selectedTarget_moved,
    operational_moved, hside, hother]
  · exact h.step
  · exact h.interval
  · exact h.small
  · exact h.up
  · exact h.down

theorem valueAfter_zero {ch : Channel}
    (haccum : ch.rampAccumMs.toNat < 1000 * (rampIntervalReg ch).toNat) :
    valueAfter ch 0 = ch.operationalTargetVoltage.toInt := by
  have hturns : turnsIn ch 0 = 0 := Nat.div_eq_of_lt haccum
  rw [valueAfter_eq, hturns]
  rfl

theorem reaches_iff_value {ch : Channel} {dts : List UInt32} (hruns : rampRuns ch) (h : Paced ch)
    (haccum : ch.rampAccumMs.toNat < 1000 * (rampIntervalReg ch).toNat)
    (hfit : TicksFit ch dts) :
    Reaches (selectedTarget ch) ch dts ↔
      valueAfter ch (totalMs dts) = (selectedTarget ch).toInt := by
  induction dts generalizing ch with
  | nil => rw [reaches_nil, totalMs, List.map_nil, List.sum_nil, valueAfter_zero haccum,
      Int16.toInt_inj]
  | cons dtMs dts ih =>
    by_cases hthere : ch.operationalTargetVoltage = selectedTarget ch
    · exact iff_of_true (.start hthere) (valueAfter_there hthere _)
    obtain ⟨hfirst, hrest⟩ := List.forall_mem_cons.mp hfit
    have hsum : ch.rampAccumMs.toNat + dtMs.toNat < 4294967296 := by omega
    rw [reaches_cons hthere, totalMs_cons]
    have hstep := tickRamp_step ch dtMs
    generalize tickRamp ch dtMs = ch' at hstep
    cases hstep with
    | idle hidle => simp [hruns, hthere] at hidle
    | hold _ hthere' => exact absurd hthere' hthere
    | off _ hthere' => exact absurd hthere' hthere
    | jump _ _ hzero =>
      rcases hzero with hzero | hzero
      · exact absurd hzero (ne_zero_of_one_le h.step)
      · exact absurd hzero (ne_zero_of_one_le h.interval)
    | arrive _ harrives =>
      have hvalue := rampResult_value h hsum
      rw [harrives] at hvalue
      refine iff_of_true (.start ?_) (valueAfter_mono hvalue.symm _)
      rw [operational_refresh, operational_finishRamp]
      exact harrives
    | move _ hmoving =>
      have hside := side_kept h hsum hmoving
      have hpos : 0 < 1000 * (rampIntervalReg ch).toNat := Nat.mul_pos (by decide) h.interval
      rw [← valueAfter_moved h hsum hmoving, ← selectedTarget_moved (rampResult ch dtMs)]
      refine ih ?_ (paced_moved h hside hthere hmoving) ?_ ?_
      · rwa [rampRuns_moved]
      · rw [accum_moved, rampResult_accum h hsum hmoving, intervalReg_moved hside]
        exact Nat.mod_lt _ hpos
      · rw [TicksFit, intervalReg_moved hside]
        exact hrest

/-! ## The time -/

/-- The steps from the start value to the target: `ceil(|v1 - v0| / s)`. -/
def stepsLeft (ch : Channel) : ℕ :=
  ((selectedTarget ch).toInt - ch.operationalTargetVoltage.toInt).natAbs ⌈/⌉ (rampStepReg ch).toNat

theorem value_eq_target_iff {ch : Channel} (h : Paced ch) (elapsedMs : ℕ) :
    valueAfter ch elapsedMs = (selectedTarget ch).toInt ↔
      stepsLeft ch * (1000 * (rampIntervalReg ch).toNat) ≤ ch.rampAccumMs.toNat + elapsedMs := by
  have hpos : 0 < 1000 * (rampIntervalReg ch).toNat := Nat.mul_pos (by decide) h.interval
  rw [← Nat.le_div_iff_mul_le hpos, stepsLeft, ceilDiv_le_iff_le_mul h.step]
  change _ ↔ _ ≤ _ * turnsIn ch elapsedMs
  unfold valueAfter towards
  dsimp only
  generalize (rampStepReg ch).toNat * turnsIn ch elapsedMs = distance
  split <;> omega

/-- The ramp is over after `r` seconds for each step, however the time is divided into ticks. -/
theorem reaches_iff {ch : Channel} {dts : List UInt32} (hruns : rampRuns ch) (h : Paced ch)
    (hempty : ch.rampAccumMs = 0) (hfit : TicksFit ch dts) :
    Reaches (selectedTarget ch) ch dts ↔
      stepsLeft ch * (1000 * (rampIntervalReg ch).toNat) ≤ totalMs dts := by
  have hpos : 0 < 1000 * (rampIntervalReg ch).toNat := Nat.mul_pos (by decide) h.interval
  have hzero : ch.rampAccumMs.toNat = 0 := by rw [hempty]; rfl
  rw [reaches_iff_value hruns h (by omega) hfit, value_eq_target_iff h, hzero, Nat.zero_add]

/-- The ramp is over after the time that the host reads into the interval register, for each
step. -/
def AgreesWithHost (ch : Channel) : Prop :=
  ∀ dts, TicksFit ch dts → (Reaches (selectedTarget ch) ch dts ↔
    stepsLeft ch * (1000 * intervalToS (rampIntervalReg ch)) ≤ totalMs dts)

theorem stepsLeft_eq_zero_iff {ch : Channel} (h : Paced ch) :
    stepsLeft ch = 0 ↔ ch.operationalTargetVoltage = selectedTarget ch := by
  rw [← Nat.le_zero, stepsLeft, ceilDiv_le_iff_le_mul h.step, ← Int16.toInt_inj]
  omega

/-- A tick of one tenth of the interval of the firmware, which the host takes for the interval. -/
def hostInterval (ch : Channel) : UInt32 := (rampIntervalReg ch).toUInt32 * 100

theorem hostInterval_toNat (ch : Channel) :
    (hostInterval ch).toNat = 100 * (rampIntervalReg ch).toNat := by
  have hlt : (rampIntervalReg ch).toNat < 65536 := (rampIntervalReg ch).toNat_lt
  have hmul : (hostInterval ch).toNat = (rampIntervalReg ch).toNat * 100 % 4294967296 := rfl
  rw [hmul, Nat.mod_eq_of_lt (by omega), Nat.mul_comm]

theorem totalMs_replicate (n : ℕ) (dtMs : UInt32) :
    totalMs (List.replicate n dtMs) = n * dtMs.toNat := by
  simp [totalMs]

theorem ticksFit_replicate (ch : Channel) (n : ℕ) :
    TicksFit ch (List.replicate n (hostInterval ch)) := by
  intro dtMs hdt
  have hlt : (rampIntervalReg ch).toNat < 65536 := (rampIntervalReg ch).toNat_lt
  rw [List.eq_of_mem_replicate hdt, hostInterval_toNat]
  omega

/-- The time of the host is a tenth of the time of the firmware. -/
theorem hostTime_eq (ch : Channel) (n : ℕ) :
    (n : ℚ) * (1000 * intervalToS (rampIntervalReg ch)) =
      (n * (100 * (rampIntervalReg ch).toNat) : ℕ) := by
  rw [intervalToS]
  push_cast
  ring

/-- A ramp with a step left to make is not over when the host thinks it is. -/
theorem not_agreesWithHost {ch : Channel} (hruns : rampRuns ch) (h : Paced ch)
    (hempty : ch.rampAccumMs = 0) (hne : ch.operationalTargetVoltage ≠ selectedTarget ch) :
    ¬ AgreesWithHost ch := by
  intro hagrees
  have hfit := ticksFit_replicate ch (stepsLeft ch)
  have hsteps : 0 < stepsLeft ch := Nat.pos_of_ne_zero fun hzero =>
    hne ((stepsLeft_eq_zero_iff h).mp hzero)
  have hinterval := h.interval
  have htime := hagrees _ hfit
  rw [hostTime_eq, reaches_iff hruns h hempty hfit, totalMs_replicate, hostInterval_toNat,
    Nat.cast_le] at htime
  have hlate := htime.mpr le_rfl
  have hshort := Nat.le_of_mul_le_mul_left hlate hsteps
  omega

/-- The host and the firmware agree on the time of a ramp only if there is nothing to ramp. -/
theorem rampTime_agrees_iff {ch : Channel} (hruns : rampRuns ch) (h : Paced ch)
    (hempty : ch.rampAccumMs = 0) :
    AgreesWithHost ch ↔ ch.operationalTargetVoltage = selectedTarget ch := by
  constructor
  · intro hagrees
    by_contra hne
    exact not_agreesWithHost hruns h hempty hne hagrees
  · intro hthere dts hfit
    have hzero := (stepsLeft_eq_zero_iff h).mpr hthere
    refine iff_of_true (.start hthere) ?_
    rw [hzero, Nat.cast_zero, zero_mul]
    exact Nat.cast_nonneg _

theorem paced_rampingChannel : Paced rampingChannel :=
  ⟨by decide +kernel, by decide +kernel, by decide +kernel, by decide +kernel, by decide +kernel⟩

theorem rampTime_agrees_example :
    AgreesWithHost rampingChannel ↔
      rampingChannel.operationalTargetVoltage = selectedTarget rampingChannel :=
  rampTime_agrees_iff (by decide +kernel) paced_rampingChannel (by decide +kernel)

/-- Four steps of 0.1 s for the host take 4 s. -/
theorem rampTime_differs : ¬ AgreesWithHost rampingChannel :=
  not_agreesWithHost (by decide +kernel) paced_rampingChannel (by decide +kernel)
    (by decide +kernel)

end RampTime
