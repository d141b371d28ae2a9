import HvbFirmware.Ramp
import Mathlib.Algebra.BigOperators.Group.List.Basic
import Mathlib.Algebra.GroupWithZero.Nat

/-!
# The ramp over a list of ticks

`ramp_accum_ms` carries the rest of an interval from one tick to the next, so that the value a ramp
has reached depends on the time that has passed and not on the ticks it was divided into. The last
step is clamped, and the tick that arrives ends the ramp.
-/
namespace RampLaw

open VcTypes VcChannel VcController Runs Approach Ramp

variable {σ : Type}

/-! ## The law -/

/-- What the ramp decides of a channel. -/
structure Outcome where
  operational : Int
  outputEnabled : Bool
  ramping : Bool
  smf : SmfState
  deriving DecidableEq, Repr

def outcome (ch : Channel) : Outcome where
  operational := ch.operationalTargetVoltage.toInt
  outputEnabled := ch.outputEnabled
  ramping := ch.ramping
  smf := ch.smf

def totalMs (dts : List UInt32) : Nat := (dts.map UInt32.toNat).sum

/-- The full intervals in the time that the ramp has saved up and `elapsedMs` more. -/
def turnsIn (ch : Channel) (elapsedMs : Nat) : Nat :=
  (ch.rampAccumMs.toNat + elapsedMs) / (1000 * (rampIntervalReg ch).toNat)

def towards (start target : Int) (distance : Nat) : Int :=
  if start < target then start + distance else start - distance

/-- The start value moved towards the target by one step for each interval, and not past it. -/
def valueAfter (ch : Channel) (elapsedMs : Nat) : Int :=
  let start := ch.operationalTargetVoltage.toInt
  let target := (selectedTarget ch).toInt
  towards start target
    (min (target - start).natAbs ((rampStepReg ch).toNat * turnsIn ch elapsedMs))

/-- A ramp that has arrived switches off if it was a graceful disable, and holds otherwise. -/
def arrived (ch : Channel) : Outcome where
  operational := (selectedTarget ch).toInt
  outputEnabled := !ch.rampToDisable
  ramping := false
  smf := if ch.rampToDisable then .disabledSafe else .enabledHolding

/-- The outcome of ticks that last `elapsedMs` together. -/
def outcomeAfter (ch : Channel) (elapsedMs : Nat) : Outcome :=
  if ch.operationalTargetVoltage = selectedTarget ch ∧ ch.ramping = false then outcome ch
  else if valueAfter ch elapsedMs = (selectedTarget ch).toInt then arrived ch
  else ⟨valueAfter ch elapsedMs, ch.outputEnabled, true, ch.smf⟩

/-- A channel whose ramp runs, with a step and an interval for its direction, and a step that does
not leave `int16_t` next to the largest target. -/
structure Ramps (k : Kconfig) (ch : Channel) : Prop where
  output : ch.outputEnabled
  active : ch.activeFaultCause = 0 ∨ ch.rampToDisable
  recovering : ch.recovering = false
  step : 1 ≤ (rampStepReg ch).toNat
  interval : 1 ≤ (rampIntervalReg ch).toNat
  fits : (rampStepReg ch).toNat + k.maxTargetVoltage.toInt ≤ 32767

/-- The targets of a channel have passed the range check. -/
structure Targeted (k : Kconfig) (d : Drive) : Prop where
  configured : InRange k d.configured
  graceful : d.gracefulRampDest = 0

/-! ## The value -/

theorem valueAfter_eq (ch : Channel) (elapsedMs : Nat) : valueAfter ch elapsedMs =
    (approach ((rampStepReg ch).toNat : Int) (selectedTarget ch).toInt)^[turnsIn ch elapsedMs]
      ch.operationalTargetVoltage.toInt := by
  have hstep : (0 : Int) ≤ (rampStepReg ch).toNat := by omega
  have hdistance : turnsIn ch elapsedMs • ((rampStepReg ch).toNat : Int) =
      ((rampStepReg ch).toNat * turnsIn ch elapsedMs : Nat) := by
    rw [Int.nsmul_eq_mul, Int.natCast_mul, Int.mul_comm]
  unfold valueAfter towards
  dsimp only
  by_cases hlt : ch.operationalTargetVoltage.toInt < (selectedTarget ch).toInt
  · rw [if_pos hlt, iterate_approach_up hstep hlt.le, hdistance]
    omega
  · rw [if_neg hlt, iterate_approach_down hstep (not_lt.mp hlt), hdistance]
    omega

theorem valueAfter_there {ch : Channel} (h : ch.operationalTargetVoltage = selectedTarget ch)
    (elapsedMs : Nat) : valueAfter ch elapsedMs = (selectedTarget ch).toInt := by
  rw [valueAfter_eq, h]
  exact iterate_approach_self (by omega) _ _

/-- A ramp that has arrived stays. -/
theorem valueAfter_mono {ch : Channel} {elapsedMs : Nat}
    (h : valueAfter ch elapsedMs = (selectedTarget ch).toInt) (restMs : Nat) :
    valueAfter ch (elapsedMs + restMs) = (selectedTarget ch).toInt := by
  have hle : turnsIn ch elapsedMs ≤ turnsIn ch (elapsedMs + restMs) :=
    Nat.div_le_div_right (by omega)
  obtain ⟨n, hn⟩ := Nat.exists_eq_add_of_le' hle
  rw [valueAfter_eq] at h ⊢
  rw [hn, Function.iterate_add_apply, h]
  exact iterate_approach_self (by omega) _ _

/-! ## One tick -/

/-- A refresh writes the hardware command and the status bits. -/
theorem refresh_eq (ch : Channel) : ∃ hw dacCode statusBits, refresh ch =
    { ch with hw := hw, dacCode := dacCode, statusBits := statusBits } := by
  unfold refresh updateStatusBits applyHw
  split
  · exact ⟨_, _, _, rfl⟩
  · exact ⟨_, _, _, rfl⟩

theorem outcome_refresh (ch : Channel) : outcome (refresh ch) = outcome ch := by
  obtain ⟨hw, dacCode, statusBits, h⟩ := refresh_eq ch
  rw [h]
  rfl

theorem operational_finishRamp (ch : Channel) :
    (finishRamp ch).operationalTargetVoltage = ch.operationalTargetVoltage := by
  have hdrive := congrArg Drive.operational (drive_finishRamp ch)
  rw [Drive.finish_operational] at hdrive
  exact hdrive

theorem operational_refresh (ch : Channel) :
    (refresh ch).operationalTargetVoltage = ch.operationalTargetVoltage :=
  congrArg Drive.operational (drive_refresh ch)

theorem outcome_finishRamp {ch : Channel} (hout : ch.outputEnabled)
    (hthere : ch.operationalTargetVoltage = selectedTarget ch) :
    outcome (finishRamp ch) = arrived ch := by
  unfold finishRamp outcome arrived
  cases hto : ch.rampToDisable <;> simp [hout, hthere]

theorem outcomeAfter_arrived {ch : Channel} {elapsedMs : Nat}
    (hpending : ch.operationalTargetVoltage = selectedTarget ch → ch.ramping)
    (hvalue : valueAfter ch elapsedMs = (selectedTarget ch).toInt) :
    outcomeAfter ch elapsedMs = arrived ch := by
  rw [outcomeAfter, if_neg fun h => ?_, if_pos hvalue]
  exact absurd (hpending h.1) (by simp [h.2])

theorem outcomeAfter_of_ne {ch : Channel} (h : ch.operationalTargetVoltage ≠ selectedTarget ch)
    (elapsedMs : Nat) : outcomeAfter ch elapsedMs =
      if valueAfter ch elapsedMs = (selectedTarget ch).toInt then arrived ch
      else ⟨valueAfter ch elapsedMs, ch.outputEnabled, true, ch.smf⟩ :=
  if_neg fun hidle => h hidle.1

/-- A channel on which a ramp tick does nothing. -/
def idles (ch : Channel) : Prop :=
  ch.outputEnabled = false ∨
    ch.operationalTargetVoltage = selectedTarget ch ∧ ch.ramping = false

theorem tickRamp_idle {ch : Channel} (h : idles ch) (dtMs : UInt32) : tickRamp ch dtMs = ch := by
  unfold tickRamp
  rcases h with hoff | ⟨hthere, hramping⟩
  · simp [hoff]
  · simp [hthere, hramping]

theorem exec_idle {ch : Channel} (h : idles ch) (dts : List UInt32) :
    exec tickRamp ch dts = ch := by
  induction dts with
  | nil => rfl
  | cons dtMs dts ih =>
    rw [exec, tickRamp_idle h]
    exact ih

theorem idles_refresh {ch : Channel} (h : idles ch) : idles (refresh ch) := by
  obtain ⟨hw, dacCode, statusBits, heq⟩ := refresh_eq ch
  rw [heq]
  exact h

/-- After the end of a ramp the ticks do nothing. -/
theorem idles_finishRamp {ch : Channel} (hrecovering : ch.recovering = false)
    (hthere : ch.operationalTargetVoltage = selectedTarget ch) : idles (finishRamp ch) := by
  cases hto : ch.rampToDisable with
  | true =>
    refine .inl ?_
    simp [finishRamp, hto]
  | false =>
    refine .inr ⟨?_, ?_⟩
    · simpa [finishRamp, selectedTarget, hto, hrecovering] using hthere
    · simp [finishRamp, hto]

theorem rampRuns_of_ramps {k : Kconfig} {ch : Channel} (h : Ramps k ch) : rampRuns ch := by
  simp [rampRuns, h.output, h.active]

theorem ne_zero_of_one_le {reg : UInt16} (h : 1 ≤ reg.toNat) : reg ≠ 0 := by
  rintro rfl
  exact absurd h (by decide)

theorem inRange_target {k : Kconfig} {ch : Channel} (h : Targeted k (drive ch))
    (hrecovering : ch.recovering = false) : InRange k (selectedTarget ch) := by
  unfold selectedTarget
  rw [hrecovering]
  split
  · have hdest : ch.gracefulRampDest = 0 := h.graceful
    rw [hdest]
    exact inRange_zero k
  · exact h.configured

/-- Steps that stay in range next to the largest target stay in range up to every target. -/
theorem tickFits_of_fits {k : Kconfig} {ch : Channel}
    (hfits : (rampStepReg ch).toNat + k.maxTargetVoltage.toInt ≤ 32767)
    (htarget : InRange k (selectedTarget ch)) (dtMs : UInt32) : tickFits ch dtMs := by
  have hmax : 0 ≤ k.maxTargetVoltage.toInt := Int.le_trans htarget.1 htarget.2
  refine .inr ⟨by omega, fun _ j _ hbelow => ?_⟩
  have hle := htarget.2
  have hmul : ((j : Int) + 1) * (rampStepReg ch).toNat =
      j * (rampStepReg ch).toNat + (rampStepReg ch).toNat := by
    rw [Int.add_mul, Int.one_mul]
  omega

/-- A ramp with a step and an interval for its direction, and a step that does not leave `int16_t`
next to its target. -/
structure Paced (ch : Channel) : Prop where
  step : 1 ≤ (rampStepReg ch).toNat
  interval : 1 ≤ (rampIntervalReg ch).toNat
  small : (rampStepReg ch).toNat ≤ 32767
  up : ch.operationalTargetVoltage < selectedTarget ch →
    (selectedTarget ch).toInt + (rampStepReg ch).toNat ≤ 32767
  down : selectedTarget ch < ch.operationalTargetVoltage →
    -32768 ≤ (selectedTarget ch).toInt - (rampStepReg ch).toNat

theorem Ramps.paced {k : Kconfig} {ch : Channel} (h : Ramps k ch)
    (htarget : Targeted k (drive ch)) : Paced ch := by
  have hrange := inRange_target htarget h.recovering
  have hlo := hrange.1
  have hhi := hrange.2
  have hfits := h.fits
  exact ⟨h.step, h.interval, by omega, fun _ => by omega, fun _ => by omega⟩

/-- A turn that starts on one side of the target ends on it or still there. -/
theorem loopFits_of_room {intervalMs : UInt32} {step : UInt16} {target : Int16}
    (hstep : step.toNat ≤ 32767) {turns : Nat} {accum : UInt32} {current : Int16}
    (hup : current < target → target.toInt + step.toNat ≤ 32767)
    (hdown : target < current → -32768 ≤ target.toInt - step.toNat) :
    loopFits intervalMs step target turns accum current := by
  induction turns generalizing accum current with
  | zero => trivial
  | succ turns ih =>
    rintro ⟨-, hne⟩
    have hstep' := toInt_toInt16_of_le hstep
    have hlo := current.le_toInt
    have hhi := current.toInt_lt
    rw [Int16.lt_iff_toInt_lt] at hup hdown
    have hne' : current.toInt ≠ target.toInt := fun heq => hne (Int16.toInt_inj.mp heq)
    have hfits : stepFits step target current := by
      unfold stepFits
      split
      next hlt =>
        have hlt := Int16.lt_iff_toInt_lt.mp hlt
        rw [toInt_add_of_range (by omega) (by omega), hstep']
      next hge =>
        have hge := Int16.le_iff_toInt_le.mp (Int16.not_lt.mp hge)
        rw [toInt_sub_of_range (by omega) (by omega), hstep']
    have hnext := rampStep_eq hfits
    unfold approach at hnext
    refine ⟨hfits, ih ?_ ?_⟩ <;> rw [Int16.lt_iff_toInt_lt] <;> intro hside <;>
      split at hnext <;> omega

section Tick

variable {k : Kconfig} {ch : Channel} {dtMs : UInt32}

theorem accum_add (hsum : ch.rampAccumMs.toNat + dtMs.toNat < 4294967296) :
    (ch.rampAccumMs + dtMs).toNat = ch.rampAccumMs.toNat + dtMs.toNat := by
  rw [UInt32.toNat_add, Nat.mod_eq_of_lt hsum]

theorem rampTurns_eq (hsum : ch.rampAccumMs.toNat + dtMs.toNat < 4294967296) :
    rampTurns ch dtMs = turnsIn ch dtMs.toNat := by
  rw [rampTurns, turnsIn, accum_add hsum, rampIntervalMs_toNat]

/-- The value after one tick. -/
theorem rampResult_value (h : Paced ch)
    (hsum : ch.rampAccumMs.toNat + dtMs.toNat < 4294967296) :
    (rampResult ch dtMs).2.toInt = valueAfter ch dtMs.toNat := by
  have hloop : tickLoopFits ch dtMs := loopFits_of_room h.small h.up h.down
  rw [rampResult_eq (ne_zero_of_one_le h.interval) hloop, rampTurns_eq hsum, valueAfter_eq]

/-- The rest of an interval after a tick that does not arrive. -/
theorem rampResult_accum (h : Paced ch)
    (hsum : ch.rampAccumMs.toNat + dtMs.toNat < 4294967296)
    (hmoving : (rampResult ch dtMs).2 ≠ selectedTarget ch) :
    (rampResult ch dtMs).1.toNat =
      (ch.rampAccumMs.toNat + dtMs.toNat) % (1000 * (rampIntervalReg ch).toNat) := by
  have hpos := rampIntervalMs_pos (ne_zero_of_one_le h.interval)
  rw [← accum_add hsum, ← rampIntervalMs_toNat]
  exact rampLoop_accum hpos rfl hmoving

/-- A ramp that has not arrived is still on the same side of its target. -/
theorem side_kept (h : Paced ch)
    (hsum : ch.rampAccumMs.toNat + dtMs.toNat < 4294967296)
    (hmoving : (rampResult ch dtMs).2 ≠ selectedTarget ch) :
    (rampResult ch dtMs).2 < selectedTarget ch ↔
      ch.operationalTargetVoltage < selectedTarget ch := by
  have hvalue := rampResult_value h hsum
  have hne : (rampResult ch dtMs).2.toInt ≠ (selectedTarget ch).toInt :=
    fun heq => hmoving (Int16.toInt_inj.mp heq)
  rw [Int16.lt_iff_toInt_lt, Int16.lt_iff_toInt_lt]
  unfold valueAfter towards at hvalue
  dsimp only at hvalue
  split at hvalue <;> omega

theorem selectedTarget_moved (r : UInt32 × Int16) :
    selectedTarget (refresh (moveRamp ch r)) = selectedTarget ch := by
  obtain ⟨hw, dacCode, statusBits, heq⟩ := refresh_eq (moveRamp ch r)
  rw [heq]
  rfl

theorem accum_moved (r : UInt32 × Int16) : (refresh (moveRamp ch r)).rampAccumMs = r.1 := by
  obtain ⟨hw, dacCode, statusBits, heq⟩ := refresh_eq (moveRamp ch r)
  rw [heq]
  rfl

theorem operational_moved (r : UInt32 × Int16) :
    (refresh (moveRamp ch r)).operationalTargetVoltage = r.2 := by
  obtain ⟨hw, dacCode, statusBits, heq⟩ := refresh_eq (moveRamp ch r)
  rw [heq]
  rfl

theorem stepReg_moved {r : UInt32 × Int16}
    (hside : r.2 < selectedTarget ch ↔ ch.operationalTargetVoltage < selectedTarget ch) :
    rampStepReg (refresh (moveRamp ch r)) = rampStepReg ch := by
  unfold rampStepReg
  rw [selectedTarget_moved]
  obtain ⟨hw, dacCode, statusBits, heq⟩ := refresh_eq (moveRamp ch r)
  rw [heq]
  exact if_congr hside rfl rfl

theorem intervalReg_moved {r : UInt32 × Int16}
    (hside : r.2 < selectedTarget ch ↔ ch.operationalTargetVoltage < selectedTarget ch) :
    rampIntervalReg (refresh (moveRamp ch r)) = rampIntervalReg ch := by
  unfold rampIntervalReg
  rw [selectedTarget_moved]
  obtain ⟨hw, dacCode, statusBits, heq⟩ := refresh_eq (moveRamp ch r)
  rw [heq]
  exact if_congr hside rfl rfl

theorem ramps_moved (h : Ramps k ch) {r : UInt32 × Int16}
    (hside : r.2 < selectedTarget ch ↔ ch.operationalTargetVoltage < selectedTarget ch) :
    Ramps k (refresh (moveRamp ch r)) := by
  have hstep := stepReg_moved hside
  have hinterval := intervalReg_moved hside
  obtain ⟨hw, dacCode, statusBits, heq⟩ := refresh_eq (moveRamp ch r)
  rw [heq] at hstep hinterval ⊢
  exact ⟨h.output, h.active, h.recovering, by rw [hstep]; exact h.step,
    by rw [hinterval]; exact h.interval, by rw [hstep]; exact h.fits⟩

theorem targeted_moved (h : Targeted k (drive ch)) (r : UInt32 × Int16) :
    Targeted k (drive (refresh (moveRamp ch r))) := by
  rw [drive_refresh]
  exact ⟨h.configured, h.graceful⟩

/-- The rest of the time, from after a tick that does not arrive, makes the rest of the turns. -/
theorem valueAfter_moved (h : Paced ch)
    (hsum : ch.rampAccumMs.toNat + dtMs.toNat < 4294967296)
    (hmoving : (rampResult ch dtMs).2 ≠ selectedTarget ch) (restMs : Nat) :
    valueAfter (refresh (moveRamp ch (rampResult ch dtMs))) restMs =
      valueAfter ch (dtMs.toNat + restMs) := by
  have hside := side_kept h hsum hmoving
  have haccum := rampResult_accum h hsum hmoving
  have hvalue := rampResult_value h hsum
  have hinterval : 0 < 1000 * (rampIntervalReg ch).toNat := Nat.mul_pos (by decide) h.interval
  have hturns : turnsIn (refresh (moveRamp ch (rampResult ch dtMs))) restMs +
      turnsIn ch dtMs.toNat = turnsIn ch (dtMs.toNat + restMs) := by
    unfold turnsIn
    rw [accum_moved, haccum, intervalReg_moved hside, ← Nat.add_assoc]
    generalize ch.rampAccumMs.toNat + dtMs.toNat = passed
    have hsplit := Nat.div_add_mod passed (1000 * (rampIntervalReg ch).toNat)
    have hwhole := Nat.add_mul_div_left (passed % (1000 * (rampIntervalReg ch).toNat) + restMs)
      (passed / (1000 * (rampIntervalReg ch).toNat)) hinterval
    rw [← hwhole]
    congr 1
    omega
  rw [valueAfter_eq, valueAfter_eq, selectedTarget_moved, stepReg_moved hside, operational_moved,
    hvalue, valueAfter_eq, ← Function.iterate_add_apply, hturns]

theorem value_ne (h : Paced ch)
    (hsum : ch.rampAccumMs.toNat + dtMs.toNat < 4294967296)
    (hmoving : (rampResult ch dtMs).2 ≠ selectedTarget ch) :
    valueAfter ch dtMs.toNat ≠ (selectedTarget ch).toInt := by
  rw [← rampResult_value h hsum]
  exact fun heq => hmoving (Int16.toInt_inj.mp heq)

theorem outcome_moved (h : Paced ch)
    (hsum : ch.rampAccumMs.toNat + dtMs.toNat < 4294967296)
    (hdiffers : ch.operationalTargetVoltage ≠ selectedTarget ch)
    (hmoving : (rampResult ch dtMs).2 ≠ selectedTarget ch) :
    outcome (refresh (moveRamp ch (rampResult ch dtMs))) = outcomeAfter ch dtMs.toNat := by
  rw [outcomeAfter_of_ne hdiffers, if_neg (value_ne h hsum hmoving), outcome_refresh,
    ← rampResult_value h hsum]
  rfl

theorem outcomeAfter_moved (h : Paced ch)
    (hsum : ch.rampAccumMs.toNat + dtMs.toNat < 4294967296)
    (hdiffers : ch.operationalTargetVoltage ≠ selectedTarget ch)
    (hmoving : (rampResult ch dtMs).2 ≠ selectedTarget ch) (restMs : Nat) :
    outcomeAfter (refresh (moveRamp ch (rampResult ch dtMs))) restMs =
      outcomeAfter ch (dtMs.toNat + restMs) := by
  have hdiffers' : (refresh (moveRamp ch (rampResult ch dtMs))).operationalTargetVoltage ≠
      selectedTarget (refresh (moveRamp ch (rampResult ch dtMs))) := by
    rw [operational_moved, selectedTarget_moved]
    exact hmoving
  rw [outcomeAfter_of_ne hdiffers', outcomeAfter_of_ne hdiffers,
    valueAfter_moved h hsum hmoving, selectedTarget_moved]
  obtain ⟨hw, dacCode, statusBits, heq⟩ := refresh_eq (moveRamp ch (rampResult ch dtMs))
  rw [heq]
  rfl

end Tick

/-! ## A list of ticks -/

theorem totalMs_cons (dtMs : UInt32) (dts : List UInt32) :
    totalMs (dtMs :: dts) = dtMs.toNat + totalMs dts := rfl

theorem outcome_exec {k : Kconfig} {ch : Channel} {dts : List UInt32} (h : Ramps k ch)
    (htarget : Targeted k (drive ch)) (hne : dts ≠ [])
    (hsum : ch.rampAccumMs.toNat + totalMs dts < 4294967296) :
    outcome (exec tickRamp ch dts) = outcomeAfter ch (totalMs dts) := by
  induction dts generalizing ch with
  | nil => exact absurd rfl hne
  | cons dtMs dts ih =>
    rw [totalMs_cons] at hsum ⊢
    have hfirst : ch.rampAccumMs.toNat + dtMs.toNat < 4294967296 := by omega
    have hruns := rampRuns_of_ramps h
    have hpaced := h.paced htarget
    rw [exec]
    have hstep := tickRamp_step ch dtMs
    generalize tickRamp ch dtMs = ch' at hstep
    cases hstep with
    | idle hidle =>
      have hidle : ch.operationalTargetVoltage = selectedTarget ch ∧ ch.ramping = false :=
        hidle.resolve_left (by simp [hruns])
      rw [exec_idle (.inr hidle), outcomeAfter, if_pos hidle]
    | hold hruns hthere hramping hto =>
      rw [exec_idle (idles_finishRamp h.recovering hthere), outcome_finishRamp h.output hthere,
        outcomeAfter_arrived (fun _ => hramping) (valueAfter_there hthere _)]
    | off hruns hthere hramping hto =>
      rw [exec_idle (idles_refresh (idles_finishRamp h.recovering hthere)), outcome_refresh,
        outcome_finishRamp h.output hthere,
        outcomeAfter_arrived (fun _ => hramping) (valueAfter_there hthere _)]
    | jump hruns hdiffers hzero =>
      rcases hzero with hzero | hzero
      · exact absurd hzero (ne_zero_of_one_le h.step)
      · exact absurd hzero (ne_zero_of_one_le h.interval)
    | arrive hmoves harrives =>
      have hdiffers : ch.operationalTargetVoltage ≠ selectedTarget ch := by
        simp only [rampMoves, decide_eq_true_eq] at hmoves
        exact hmoves.2.1
      have hvalue := rampResult_value hpaced hfirst
      rw [harrives] at hvalue
      have hout : (moveRamp ch (rampResult ch dtMs)).outputEnabled := h.output
      have hthere : (moveRamp ch (rampResult ch dtMs)).operationalTargetVoltage =
          selectedTarget (moveRamp ch (rampResult ch dtMs)) := harrives
      have hidles : idles (refresh (finishRamp (moveRamp ch (rampResult ch dtMs)))) :=
        idles_refresh (idles_finishRamp h.recovering hthere)
      rw [exec_idle hidles, outcome_refresh, outcome_finishRamp hout hthere,
        outcomeAfter_arrived (fun hthere => absurd hthere hdiffers)
          (valueAfter_mono hvalue.symm _)]
      rfl
    | move hmoves hmoving =>
      have hdiffers : ch.operationalTargetVoltage ≠ selectedTarget ch := by
        simp only [rampMoves, decide_eq_true_eq] at hmoves
        exact hmoves.2.1
      by_cases hlast : dts = []
      · subst hlast
        exact outcome_moved hpaced hfirst hdiffers hmoving
      · have hside := side_kept hpaced hfirst hmoving
        have hrest := rampResult_accum hpaced hfirst hmoving
        rw [ih (ramps_moved h hside) (targeted_moved htarget _) hlast ?_]
        · exact outcomeAfter_moved hpaced hfirst hdiffers hmoving _
        · rw [accum_moved, hrest]
          have hle := Nat.mod_le (ch.rampAccumMs.toNat + dtMs.toNat)
            (1000 * (rampIntervalReg ch).toNat)
          omega

/-! ## Every channel of a run -/

theorem targeted_of_effect {k : Kconfig} {ch : Channel} {op : ChannelOp} {d' : Drive}
    (heff : Effect k ch op d') (h : Targeted k (drive ch)) : Targeted k d' := by
  cases heff with
  | graceful => exact ⟨h.configured, rfl⟩
  | tripGraceful => exact ⟨h.configured, rfl⟩
  | configure op code target hwritten =>
    refine ⟨?_, h.graceful⟩
    show InRange k target
    rcases hwritten with rfl | ⟨hlo, hhi⟩
    · exact h.configured
    · exact ⟨Int16.le_iff_toInt_le.mp hlo, Int16.le_iff_toInt_le.mp hhi⟩
  | hold =>
    refine ⟨?_, ?_⟩
    · rw [Drive.finish_configured]
      exact h.configured
    · rw [Drive.finish_gracefulRampDest]
      exact h.graceful
  | arrive dtMs code =>
    refine ⟨?_, (Drive.finish_gracefulRampDest _).trans h.graceful⟩
    show InRange k (Drive.finish _).configured
    rw [Drive.finish_configured]
    exact h.configured
  | _ => exact ⟨h.configured, h.graceful⟩

/-- Every target that a ramp can be sent to is in range. -/
structure Checked (k : Kconfig) (d : Drive) : Prop extends Targeted k d where
  recovery : InRange k d.recoveryTarget

theorem Checked.congr {k : Kconfig} {d d' : Drive} (h : Checked k d)
    (hconfigured : d'.configured = d.configured)
    (hgraceful : d'.gracefulRampDest = d.gracefulRampDest)
    (hrecovery : d'.recoveryTarget = d.recoveryTarget) : Checked k d' := by
  refine ⟨⟨?_, hgraceful.trans h.graceful⟩, ?_⟩
  · rw [hconfigured]
    exact h.configured
  · rw [hrecovery]
    exact h.recovery

theorem Checked.selected {k : Kconfig} {ch : Channel} (h : Checked k (drive ch)) :
    InRange k (selectedTarget ch) := by
  unfold selectedTarget
  split
  · have hdest : ch.gracefulRampDest = 0 := h.graceful
    rw [hdest]
    exact inRange_zero k
  split
  · exact h.recovery
  · exact h.configured

theorem checked_of_effect {k : Kconfig} {ch : Channel} {op : ChannelOp} {d' : Drive}
    (heff : Effect k ch op d') (h : Checked k (drive ch)) : Checked k d' := by
  refine ⟨targeted_of_effect heff h.toTargeted, ?_⟩
  cases heff with
  | hold =>
    rw [Drive.finish_recoveryTarget]
    exact h.recovery
  | arrive =>
    show InRange k (Drive.finish _).recoveryTarget
    rw [Drive.finish_recoveryTarget]
    exact h.recovery
  | retry sysCfg dtMs code hdue =>
    have hnonneg := retryTarget_nonneg hdue h.configured.1
    have hle := retryTarget_le ch
    have hmax : ch.config.configuredTargetVoltage.toInt ≤ k.maxTargetVoltage.toInt :=
      h.configured.2
    show InRange k (Int16.ofInt (retryTarget ch))
    unfold InRange
    rw [toInt_ofInt_retryTarget hnonneg]
    omega
  | _ => exact h.recovery

theorem checked_init (k : Kconfig) (node : Node) : Checked k (drive (VcChannel.init k node)) :=
  ⟨⟨(bounded_init k node).configured, rfl⟩, inRange_zero k⟩

theorem checked_run (k : Kconfig) (nodes : List Node) (store : σ) (ops : List (PublicOp σ)) :
    ∀ ch ∈ (exec (PublicOp.step k) (VcController.init k nodes store) ops).channels,
      Checked k (drive ch) :=
  publicRun_invariant (I := fun ch => Checked k (drive ch)) (Q := fun _ _ => True)
    (checked_init k) (fun ch op h _ => checked_of_effect (step_effect k ch op) h)
    (along_of_forall (fun _ _ _ _ _ => along_of_forall (fun _ _ _ => trivial) _) _)

theorem outcomeAfter_operational (ch : Channel) (elapsedMs : Nat) :
    (outcomeAfter ch elapsedMs).operational = valueAfter ch elapsedMs := by
  unfold outcomeAfter
  split
  next hidle => rw [valueAfter_there hidle.1, ← hidle.1]; rfl
  split
  next hthere => exact hthere.symm
  · rfl

/-- In every run every channel has checked targets; and a ramp of such a channel takes the value
towards its target by one step for each full interval in the time passed, whatever the ticks. -/
theorem ramp_exact (k : Kconfig) :
    (∀ (nodes : List Node) (store : σ) (ops : List (PublicOp σ)),
      ∀ ch ∈ (exec (PublicOp.step k) (VcController.init k nodes store) ops).channels,
        Targeted k (drive ch)) ∧
    ∀ (ch : Channel) (dts : List UInt32), Targeted k (drive ch) → Ramps k ch → dts ≠ [] →
      ch.rampAccumMs.toNat + totalMs dts < 4294967296 →
        (exec tickRamp ch dts).operationalTargetVoltage.toInt = valueAfter ch (totalMs dts) ∧
        ∀ dts', dts' ≠ [] → totalMs dts' = totalMs dts →
          outcome (exec tickRamp ch dts') = outcome (exec tickRamp ch dts) := by
  refine ⟨fun nodes store ops ch hch => (checked_run k nodes store ops ch hch).toTargeted,
    fun ch dts htarget hramps hne hsum => ⟨?_, fun dts' hne' hsame => ?_⟩⟩
  · rw [← outcomeAfter_operational, ← outcome_exec hramps htarget hne hsum]
    rfl
  · rw [outcome_exec hramps htarget hne hsum, outcome_exec hramps htarget hne' (by rwa [hsame]),
      hsame]

/-- A channel that is to ramp in steps of 300 to 1000. -/
def rampingChannel : Channel :=
  exec (ChannelOp.step Kconfig.hvb) (VcChannel.init Kconfig.hvb dacNode)
    [.setField .configuredTargetVoltage 1000, .setField .rampUpStep 300, .outputAction .enable]

theorem ramp_exact_example :
    (exec tickRamp rampingChannel [700, 700, 1200]).operationalTargetVoltage.toInt =
        valueAfter rampingChannel 2600 ∧
      ∀ dts', dts' ≠ [] → totalMs dts' = 2600 →
        outcome (exec tickRamp rampingChannel dts') =
          outcome (exec tickRamp rampingChannel [700, 700, 1200]) :=
  (ramp_exact (σ := Unit) Kconfig.hvb).2 rampingChannel [700, 700, 1200]
    ⟨⟨by decide +kernel, by decide +kernel⟩, by decide +kernel⟩
    ⟨by decide +kernel, .inl (by decide +kernel), by decide +kernel, by decide +kernel,
      by decide +kernel, by decide +kernel⟩ (by decide) (by decide +kernel)

end RampLaw
