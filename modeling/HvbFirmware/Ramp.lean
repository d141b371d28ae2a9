import HvbFirmware.VcControllerRuns
import HvbFirmware.Approach
import Mathlib.Algebra.Order.Group.Int

/-!
# The ramp

The loop of `vc_channel_tick_ramp` on exact integers is `approach` made once for each full
interval. The code follows it as long as no addition leaves `int16_t`, which large step
registers and a target near the end of the range do not grant.
-/
namespace Ramp

open VcTypes VcChannel VcController Runs Approach

variable {σ : Type}

/-! ## One turn of the loop -/

theorem toInt_add_of_range {a b : Int16} (hlo : -32768 ≤ a.toInt + b.toInt)
    (hhi : a.toInt + b.toInt ≤ 32767) : (a + b).toInt = a.toInt + b.toInt := by
  rw [Int16.toInt_add]
  exact Int.bmod_eq_of_le (by omega) (by omega)

theorem toInt_sub_of_range {a b : Int16} (hlo : -32768 ≤ a.toInt - b.toInt)
    (hhi : a.toInt - b.toInt ≤ 32767) : (a - b).toInt = a.toInt - b.toInt := by
  rw [Int16.toInt_sub]
  exact Int.bmod_eq_of_le (by omega) (by omega)

theorem toInt_toInt16_of_le {step : UInt16} (h : step.toNat ≤ 32767) :
    step.toInt16.toInt = step.toNat := by
  have hlt : 2 * step.toBitVec.toNat < 2 ^ 16 := by
    have h : step.toBitVec.toNat ≤ 32767 := h
    omega
  exact BitVec.toInt_eq_toNat_of_lt hlt

/-- The addition of one turn gives the exact value for the step register. -/
def stepFits (step : UInt16) (target current : Int16) : Prop :=
  if current < target then (current + step.toInt16).toInt = current.toInt + step.toNat
  else (current - step.toInt16).toInt = current.toInt - step.toNat

theorem rampStep_eq {step : UInt16} {target current : Int16} (h : stepFits step target current) :
    (rampStep step.toInt16 target current).toInt =
      approach (step.toNat : Int) target.toInt current.toInt := by
  unfold stepFits at h
  unfold rampStep
  by_cases hlt : current < target
  · have hlt' := Int16.lt_iff_toInt_lt.mp hlt
    rw [if_pos hlt] at h
    rw [if_pos hlt, approach_up hlt', ← h]
    split
    next hover =>
      have hover := Int16.lt_iff_toInt_lt.mp hover
      omega
    next hover =>
      have hover := Int16.le_iff_toInt_le.mp (Int16.not_lt.mp hover)
      omega
  · have hlt' : ¬current.toInt < target.toInt := fun h => hlt (Int16.lt_iff_toInt_lt.mpr h)
    rw [if_neg hlt] at h
    rw [if_neg hlt, approach_down hlt', ← h]
    split
    next hover =>
      have hover := Int16.lt_iff_toInt_lt.mp hover
      omega
    next hover =>
      have hover := Int16.le_iff_toInt_le.mp (Int16.not_lt.mp hover)
      omega

/-! ## The loop -/

/-- Every turn that the loop makes has an exact addition. -/
def loopFits (intervalMs : UInt32) (step : UInt16) (target : Int16) : Nat → UInt32 → Int16 → Prop
  | 0, _, _ => True
  | fuel + 1, accum, current =>
    intervalMs ≤ accum ∧ current ≠ target →
      stepFits step target current ∧ loopFits intervalMs step target fuel (accum - intervalMs)
        (rampStep step.toInt16 target current)

/-- An accumulator with intervals left can pay for one of them. -/
theorem interval_spent {accum intervalMs : UInt32} (hinterval : 0 < intervalMs.toNat) {n : Nat}
    (h : accum.toNat / intervalMs.toNat = n + 1) :
    intervalMs.toNat ≤ accum.toNat ∧
      (accum - intervalMs).toNat = accum.toNat - intervalMs.toNat ∧
      (accum - intervalMs).toNat / intervalMs.toNat = n := by
  have hle : intervalMs.toNat ≤ accum.toNat := by
    refine Nat.le_of_not_lt fun hlt => ?_
    rw [Nat.div_eq_of_lt hlt] at h
    cases h
  have hsub : (accum - intervalMs).toNat = accum.toNat - intervalMs.toNat :=
    UInt32.toNat_sub_of_le _ _ hle
  rw [Nat.div_eq_sub_div hinterval hle] at h
  refine ⟨hle, hsub, ?_⟩
  rw [hsub]
  omega

/-- The loop makes `approach` once for each interval in the accumulator: it stops early only
at the target, where `approach` stays. -/
theorem rampLoop_eq {intervalMs : UInt32} {step : UInt16} {target : Int16}
    (hinterval : 0 < intervalMs.toNat) {fuel : Nat} {accum : UInt32} {current : Int16}
    (hfuel : accum.toNat / intervalMs.toNat = fuel)
    (h : loopFits intervalMs step target fuel accum current) :
    (rampLoop intervalMs step.toInt16 target fuel accum current).2.toInt =
      (approach (step.toNat : Int) target.toInt)^[fuel] current.toInt := by
  have hstep : (0 : Int) ≤ step.toNat := by omega
  induction fuel generalizing accum current with
  | zero => rfl
  | succ fuel ih =>
    obtain ⟨hle, -, hfuel'⟩ := interval_spent hinterval hfuel
    rw [rampLoop]
    by_cases htarget : current = target
    · rw [if_neg fun h => h.2 htarget, htarget, iterate_approach_self hstep]
    · obtain ⟨hfits, hrest⟩ := h ⟨hle, htarget⟩
      rw [if_pos ⟨hle, htarget⟩, ih hfuel' hrest, Function.iterate_succ_apply, rampStep_eq hfits]

/-- A loop that ends before the target has used up every full interval. -/
theorem rampLoop_accum {intervalMs : UInt32} {step target : Int16}
    (hinterval : 0 < intervalMs.toNat) {fuel : Nat} {accum : UInt32} {current : Int16}
    (hfuel : accum.toNat / intervalMs.toNat = fuel)
    (h : (rampLoop intervalMs step target fuel accum current).2 ≠ target) :
    (rampLoop intervalMs step target fuel accum current).1.toNat =
      accum.toNat % intervalMs.toNat := by
  induction fuel generalizing accum current with
  | zero => exact (Nat.mod_eq_of_lt ((Nat.div_eq_zero_iff_lt hinterval).mp hfuel)).symm
  | succ fuel ih =>
    obtain ⟨hle, hsub, hfuel'⟩ := interval_spent hinterval hfuel
    rw [rampLoop] at h ⊢
    by_cases htarget : current = target
    · rw [if_neg fun h => h.2 htarget] at h
      exact absurd htarget h
    · rw [if_pos ⟨hle, htarget⟩] at h ⊢
      rw [ih hfuel' h, hsub, ← Nat.mod_eq_sub_mod hle]

/-- The last step upwards, which can go past the target, ends in the range of `int16_t`. -/
def upFits (step : UInt16) (target current : Int16) (turns : Nat) : Prop :=
  current < target → ∀ j < turns, current.toInt + j * step.toNat < target.toInt →
    current.toInt + (j + 1) * step.toNat ≤ 32767

instance (step : UInt16) (target current : Int16) (turns : Nat) :
    Decidable (upFits step target current turns) := inferInstanceAs (Decidable (_ → _))

theorem stepFits_of_upFits {step : UInt16} {target current : Int16} {turns : Nat}
    (hstep : step.toNat ≤ 32767) (htarget : 0 ≤ target.toInt)
    (h : upFits step target current (turns + 1)) : stepFits step target current := by
  have hstep' := toInt_toInt16_of_le hstep
  have hlo := current.le_toInt
  have hhi := current.toInt_lt
  unfold stepFits
  split
  next hlt =>
    have hbelow := Int16.lt_iff_toInt_lt.mp hlt
    have hfirst : current.toInt + step.toNat ≤ 32767 := by
      simpa [hbelow] using h hlt 0 (by omega)
    rw [toInt_add_of_range (by omega) (by omega), hstep']
  next hge =>
    have hge := Int16.le_iff_toInt_le.mp (Int16.not_lt.mp hge)
    rw [toInt_sub_of_range (by omega) (by omega), hstep']

theorem loopFits_of_upFits {intervalMs : UInt32} {step : UInt16} {target : Int16}
    (hstep : step.toNat ≤ 32767) (htarget : 0 ≤ target.toInt) {turns : Nat} {accum : UInt32}
    {current : Int16} (h : upFits step target current turns) :
    loopFits intervalMs step target turns accum current := by
  induction turns generalizing accum current with
  | zero => trivial
  | succ turns ih =>
    intro _
    have hfits := stepFits_of_upFits hstep htarget h
    refine ⟨hfits, ih fun hlt j hj hbelow => ?_⟩
    -- a ramp that is still below the target has made one whole step up
    have hnext := rampStep_eq hfits
    have hlt' := Int16.lt_iff_toInt_lt.mp hlt
    by_cases hup : current < target
    · have hcurrent := Int16.lt_iff_toInt_lt.mp hup
      rw [approach_up hcurrent] at hnext
      have hwhole : (rampStep step.toInt16 target current).toInt =
          current.toInt + step.toNat := by omega
      have hlater := h hup (j + 1) (by omega)
      rw [hwhole] at hbelow ⊢
      grind
    · have hcurrent : ¬current.toInt < target.toInt := fun h => hup (Int16.lt_iff_toInt_lt.mpr h)
      rw [approach_down hcurrent] at hnext
      omega

/-! ## One tick -/

/-- A ramp tick that gets to the loop. -/
def rampMoves (ch : Channel) : Bool :=
  rampRuns ch ∧ ch.operationalTargetVoltage ≠ selectedTarget ch ∧ rampStepReg ch ≠ 0 ∧
    rampIntervalReg ch ≠ 0

/-- The ends of `vc_channel_tick_ramp`, each with the checks that lead to it. -/
inductive RampStep (ch : Channel) (dtMs : UInt32) : Channel → Prop where
  | idle (hidle : rampRuns ch = false ∨
      ch.operationalTargetVoltage = selectedTarget ch ∧ ch.ramping = false) : RampStep ch dtMs ch
  | hold (hruns : rampRuns ch) (hthere : ch.operationalTargetVoltage = selectedTarget ch)
      (hramping : ch.ramping) (hto : ch.rampToDisable = false) : RampStep ch dtMs (finishRamp ch)
  | off (hruns : rampRuns ch) (hthere : ch.operationalTargetVoltage = selectedTarget ch)
      (hramping : ch.ramping) (hto : ch.rampToDisable) :
      RampStep ch dtMs (refresh (finishRamp ch))
  | jump (hruns : rampRuns ch) (hdiffers : ch.operationalTargetVoltage ≠ selectedTarget ch)
      (hzero : rampStepReg ch = 0 ∨ rampIntervalReg ch = 0) : RampStep ch dtMs
      (refresh (finishRamp { ch with operationalTargetVoltage := selectedTarget ch }))
  | arrive (hmoves : rampMoves ch) (harrives : (rampResult ch dtMs).2 = selectedTarget ch) :
      RampStep ch dtMs (refresh (finishRamp (moveRamp ch (rampResult ch dtMs))))
  | move (hmoves : rampMoves ch) (hmoving : (rampResult ch dtMs).2 ≠ selectedTarget ch) :
      RampStep ch dtMs (refresh (moveRamp ch (rampResult ch dtMs)))

theorem tickRamp_step (ch : Channel) (dtMs : UInt32) : RampStep ch dtMs (tickRamp ch dtMs) := by
  unfold tickRamp
  dsimp only
  split
  next hon => exact .idle (.inl (by simp_all [rampRuns]))
  next hon =>
  split
  next hactive => exact .idle (.inl (by simp_all [rampRuns]))
  next hactive =>
  have hruns : rampRuns ch := by grind [rampRuns]
  split
  next hthere =>
    split
    next hramping => exact .idle (.inr ⟨hthere, by simpa using hramping⟩)
    next hramping =>
    have hramping : ch.ramping := by simpa using hramping
    split
    next hto => exact .off hruns hthere hramping hto
    next hto => exact .hold hruns hthere hramping (by simpa using hto)
  next hdiffers =>
  split
  next hzero => exact .jump hruns hdiffers hzero
  next hzero =>
  obtain ⟨hstep, hinterval⟩ := not_or.mp hzero
  have hmoves : rampMoves ch := by simp [rampMoves, hruns, hdiffers, hstep, hinterval]
  split
  next harrives => exact .arrive hmoves harrives
  next hmoving => exact .move hmoves hmoving

/-- The full intervals in the accumulator of a tick. -/
def rampTurns (ch : Channel) (dtMs : UInt32) : Nat :=
  (ch.rampAccumMs + dtMs).toNat / (rampIntervalMs ch).toNat

/-- A tick makes no turn, or its step register is an `int16_t` and its additions stay in range. -/
def tickFits (ch : Channel) (dtMs : UInt32) : Prop :=
  rampTurns ch dtMs = 0 ∨ (rampStepReg ch).toNat ≤ 32767 ∧
    upFits (rampStepReg ch) (selectedTarget ch) ch.operationalTargetVoltage (rampTurns ch dtMs)

instance (ch : Channel) (dtMs : UInt32) : Decidable (tickFits ch dtMs) :=
  inferInstanceAs (Decidable (_ ∨ _))

def tickLoopFits (ch : Channel) (dtMs : UInt32) : Prop :=
  loopFits (rampIntervalMs ch) (rampStepReg ch) (selectedTarget ch) (rampTurns ch dtMs)
    (ch.rampAccumMs + dtMs) ch.operationalTargetVoltage

theorem tickLoopFits_of_tickFits {ch : Channel} {dtMs : UInt32} (h : tickFits ch dtMs)
    (htarget : 0 ≤ (selectedTarget ch).toInt) : tickLoopFits ch dtMs := by
  rcases h with hnone | ⟨hstep, hup⟩
  · unfold tickLoopFits
    rw [hnone]
    trivial
  · exact loopFits_of_upFits hstep htarget hup

theorem rampIntervalMs_toNat (ch : Channel) :
    (rampIntervalMs ch).toNat = 1000 * (rampIntervalReg ch).toNat := by
  have hlt : (rampIntervalReg ch).toNat < 65536 := (rampIntervalReg ch).toNat_lt
  have hmul : (rampIntervalMs ch).toNat = (rampIntervalReg ch).toNat * 1000 % 4294967296 := rfl
  rw [hmul, Nat.mod_eq_of_lt (by omega), Nat.mul_comm]

theorem rampIntervalMs_pos {ch : Channel} (h : rampIntervalReg ch ≠ 0) :
    0 < (rampIntervalMs ch).toNat := by
  have hne : (rampIntervalReg ch).toNat ≠ 0 := fun hzero => h (UInt16.toNat.inj hzero)
  rw [rampIntervalMs_toNat]
  omega

theorem rampResult_eq {ch : Channel} {dtMs : UInt32} (hinterval : rampIntervalReg ch ≠ 0)
    (h : tickLoopFits ch dtMs) :
    (rampResult ch dtMs).2.toInt = (approach ((rampStepReg ch).toNat : Int)
      (selectedTarget ch).toInt)^[rampTurns ch dtMs] ch.operationalTargetVoltage.toInt :=
  rampLoop_eq (rampIntervalMs_pos hinterval) rfl h

theorem rampResult_mem_uIcc {ch : Channel} {dtMs : UInt32} (hinterval : rampIntervalReg ch ≠ 0)
    (h : tickLoopFits ch dtMs) :
    (rampResult ch dtMs).2.toInt ∈
      Set.uIcc ch.operationalTargetVoltage.toInt (selectedTarget ch).toInt := by
  rw [rampResult_eq hinterval h]
  exact iterate_approach_mem_uIcc (by omega) _ _ _

/-- A ramp tick leaves the running value, sets it to the target, or lets the loop run. -/
theorem operational_tickRamp (k : Kconfig) (ch : Channel) (dtMs : UInt32) :
    (tickRamp ch dtMs).operationalTargetVoltage = ch.operationalTargetVoltage ∨
      (tickRamp ch dtMs).operationalTargetVoltage = selectedTarget ch ∨
      rampMoves ch ∧ (tickRamp ch dtMs).operationalTargetVoltage = (rampResult ch dtMs).2 := by
  have heff := tickRamp_effect k ch dtMs
  show (drive (tickRamp ch dtMs)).operational = _ ∨ (drive (tickRamp ch dtMs)).operational = _ ∨
    rampMoves ch ∧ (drive (tickRamp ch dtMs)).operational = _
  generalize drive (tickRamp ch dtMs) = d' at heff
  cases heff with
  | quiet => exact .inl rfl
  | configure => exact .inl rfl
  | hold => exact .inl (Drive.finish_operational _)
  | arrive => exact .inr (.inl (Drive.finish_operational _))
  | moving _ code hruns hdiffers hstep hinterval =>
    refine .inr (.inr ⟨?_, rfl⟩)
    simp [rampMoves, hruns, hdiffers, hstep, hinterval]
  | tripGraceful op code htrip => cases htrip
  | tripCleared op code smf htrip => cases htrip
  | tripOnly op code htrip => cases htrip

/-- A ramp tick towards a target that is not negative, with additions that stay in range, leaves
the running value between where it was and the target. -/
theorem tickRamp_mem_uIcc (k : Kconfig) {ch : Channel} {dtMs : UInt32}
    (h : rampMoves ch → tickFits ch dtMs) (htarget : 0 ≤ (selectedTarget ch).toInt) :
    (tickRamp ch dtMs).operationalTargetVoltage.toInt ∈
      Set.uIcc ch.operationalTargetVoltage.toInt (selectedTarget ch).toInt := by
  rcases operational_tickRamp k ch dtMs with hsame | hthere | ⟨hmoves, hresult⟩
  · rw [hsame]
    exact Set.left_mem_uIcc
  · rw [hthere]
    exact Set.right_mem_uIcc
  · rw [hresult]
    have hinterval : rampIntervalReg ch ≠ 0 := by
      simp only [rampMoves, decide_eq_true_eq] at hmoves
      exact hmoves.2.2.2
    exact rampResult_mem_uIcc hinterval (tickLoopFits_of_tickFits (h hmoves) htarget)

/-! ## Runs -/

def InRange (k : Kconfig) (v : Int16) : Prop := 0 ≤ v.toInt ∧ v.toInt ≤ k.maxTargetVoltage.toInt

theorem inRange_of_mem_uIcc {k : Kconfig} {v current target : Int16}
    (h : v.toInt ∈ Set.uIcc current.toInt target.toInt) (hcurrent : InRange k current)
    (htarget : InRange k target) : InRange k v := by
  unfold InRange at hcurrent htarget ⊢
  rw [Set.mem_uIcc] at h
  omega

/-- The running value and every target it can be sent to are in the range of the field check. -/
structure Bounded (k : Kconfig) (d : Drive) : Prop where
  configured : InRange k d.configured
  recovery : InRange k d.recoveryTarget
  graceful : d.gracefulRampDest = 0
  operational : InRange k d.operational

theorem Bounded.finish {k : Kconfig} {d : Drive} (h : Bounded k d) : Bounded k d.finish :=
  ⟨by simpa using h.configured, by simpa using h.recovery, by simpa using h.graceful,
    by simpa using h.operational⟩

theorem inRange_zero (k : Kconfig) : InRange k 0 := by
  have hmax := Int16.le_iff_toInt_le.mp k.maxTargetVoltage_range
  have hone : (1 : Int16).toInt = 1 := rfl
  have hzero : (0 : Int16).toInt = 0 := rfl
  unfold InRange
  omega

theorem inRange_selectedTarget {k : Kconfig} {ch : Channel} (h : Bounded k (drive ch)) :
    InRange k (selectedTarget ch) := by
  unfold selectedTarget
  split
  · have hdest : ch.gracefulRampDest = 0 := h.graceful
    rw [hdest]
    exact inRange_zero k
  split
  · exact h.recovery
  · exact h.configured

/-- A recovery goes to the configured target at most. -/
theorem retryTarget_le (ch : Channel) :
    retryTarget ch ≤ ch.config.configuredTargetVoltage.toInt := by
  unfold retryTarget
  split
  · have hderate : 0 ≤ (countActiveRetries ch + 1 : Int) * ch.config.autoDerateStep.toNat :=
      Int.mul_nonneg (by omega) (by omega)
    omega
  · omega

theorem toInt_ofInt_retryTarget {ch : Channel} (h : 0 ≤ retryTarget ch) :
    (Int16.ofInt (retryTarget ch)).toInt = retryTarget ch := by
  have hle := retryTarget_le ch
  have hlt := ch.config.configuredTargetVoltage.toInt_lt
  exact Int16.toInt_ofInt_of_le (by omega) (by omega)

theorem retryTarget_nonneg {ch : Channel} {sysCfg : SystemConfig} {dtMs : UInt32}
    (hdue : retryDue ch sysCfg dtMs) (h : 0 ≤ ch.config.configuredTargetVoltage.toInt) :
    0 ≤ retryTarget ch := by
  simp only [retryDue, decide_eq_true_eq] at hdue
  by_cases hpolicy : ch.config.recoveryPolicyMode = .autoDerateRetry
  · have hpos := hdue.2.2.2.2 hpolicy
    omega
  · simp only [retryTarget, hpolicy, if_false]
    exact h

/-- The calls whose ramp loop stays in range. -/
def callFits (ch : Channel) : ChannelOp → Bool
  | .tickRamp dtMs => !rampMoves ch || tickFits ch dtMs
  | _ => true

theorem callFits_tickRamp {ch : Channel} {dtMs : UInt32} (h : callFits ch (.tickRamp dtMs))
    (hmoves : rampMoves ch) : tickFits ch dtMs := by
  simpa [callFits, hmoves] using h

theorem bounded_of_effect {k : Kconfig} {ch : Channel} {op : ChannelOp} {d' : Drive}
    (heff : Effect k ch op d') (h : Bounded k (drive ch)) (hfits : callFits ch op) :
    Bounded k d' := by
  have htarget := inRange_selectedTarget h
  obtain ⟨hconfigured, hrecovery, hgraceful, hoperational⟩ := h
  cases heff with
  | immediate => exact ⟨hconfigured, hrecovery, hgraceful, inRange_zero k⟩
  | force => exact ⟨hconfigured, hrecovery, hgraceful, inRange_zero k⟩
  | tripCleared => exact ⟨hconfigured, hrecovery, hgraceful, inRange_zero k⟩
  | fault => exact ⟨hconfigured, hrecovery, hgraceful, inRange_zero k⟩
  | calReset => exact ⟨hconfigured, hrecovery, hgraceful, inRange_zero k⟩
  | graceful => exact ⟨hconfigured, hrecovery, rfl, hoperational⟩
  | tripGraceful => exact ⟨hconfigured, hrecovery, rfl, hoperational⟩
  | configure op code target hwritten =>
    refine ⟨?_, hrecovery, hgraceful, hoperational⟩
    show InRange k target
    rcases hwritten with rfl | ⟨hlo, hhi⟩
    · exact hconfigured
    · exact ⟨Int16.le_iff_toInt_le.mp hlo, Int16.le_iff_toInt_le.mp hhi⟩
  | hold => exact Bounded.finish ⟨hconfigured, hrecovery, hgraceful, hoperational⟩
  | arrive =>
    have hthere : Bounded k { drive ch with operational := selectedTarget ch }.finish :=
      Bounded.finish ⟨hconfigured, hrecovery, hgraceful, htarget⟩
    exact ⟨hthere.configured, hthere.recovery, hthere.graceful, hthere.operational⟩
  | moving dtMs code hruns hdiffers hstep hinterval =>
    refine ⟨hconfigured, hrecovery, hgraceful, ?_⟩
    have hmoves : rampMoves ch := by simp [rampMoves, hruns, hdiffers, hstep, hinterval]
    have hloop := tickLoopFits_of_tickFits (callFits_tickRamp hfits hmoves) htarget.1
    exact inRange_of_mem_uIcc (rampResult_mem_uIcc hinterval hloop) hoperational htarget
  | retry sysCfg dtMs code hdue =>
    refine ⟨hconfigured, ?_, hgraceful, hoperational⟩
    have hnonneg := retryTarget_nonneg hdue hconfigured.1
    have hle := retryTarget_le ch
    have hmax : ch.config.configuredTargetVoltage.toInt ≤ k.maxTargetVoltage.toInt :=
      hconfigured.2
    show InRange k (Int16.ofInt (retryTarget ch))
    unfold InRange
    rw [toInt_ofInt_retryTarget hnonneg]
    omega
  | _ => exact ⟨hconfigured, hrecovery, hgraceful, hoperational⟩

/-- What is asked of each ramp tick: the value goes towards the target and not past it, and no
addition of the loop wraps. -/
def callApproaches (ch : Channel) : ChannelOp → Prop
  | .tickRamp dtMs =>
    (tickRamp ch dtMs).operationalTargetVoltage.toInt ∈
      Set.uIcc ch.operationalTargetVoltage.toInt (selectedTarget ch).toInt ∧
    (rampMoves ch → tickLoopFits ch dtMs)
  | _ => True

theorem callApproaches_of_bounded {k : Kconfig} {ch : Channel} {op : ChannelOp}
    (h : Bounded k (drive ch)) (hfits : callFits ch op) : callApproaches ch op := by
  cases op with
  | tickRamp dtMs =>
    have htarget := (inRange_selectedTarget h).1
    exact ⟨tickRamp_mem_uIcc k (callFits_tickRamp hfits) htarget,
      fun hmoves => tickLoopFits_of_tickFits (callFits_tickRamp hfits hmoves) htarget⟩
  | _ => trivial

/-- The operations whose ramp loops stay in range. -/
def RampsFit (k : Kconfig) (ctrl : Controller σ) (op : PublicOp σ) : Prop :=
  EachCall k (fun ch op => callFits ch op) ctrl (op.channelOps k ctrl)

instance (k : Kconfig) (ctrl : Controller σ) (op : PublicOp σ) : Decidable (RampsFit k ctrl op) :=
  inferInstanceAs (Decidable (EachCall k _ ctrl _))

/-- The operations each ramp tick of which goes towards its target. -/
def RampsApproach (k : Kconfig) (ctrl : Controller σ) (op : PublicOp σ) : Prop :=
  EachCall k callApproaches ctrl (op.channelOps k ctrl)

theorem bounded_init (k : Kconfig) (node : Node) : Bounded k (drive (VcChannel.init k node)) := by
  have hconfigured : (VcChannel.init k node).config.configuredTargetVoltage = 0 := by
    unfold VcChannel.init
    dsimp only
    split
    · unfold lvbGetDtDefaults
      dsimp only
      split <;> rfl
    · rfl
  refine ⟨?_, inRange_zero k, rfl, inRange_zero k⟩
  show InRange k (VcChannel.init k node).config.configuredTargetVoltage
  rw [hconfigured]
  exact inRange_zero k

/-- In every run whose ramp loops stay in range, each ramp tick moves the running value towards
its target and not past it without a wrap, and the value stays between zero and the limit. -/
theorem ramp_bounded (k : Kconfig) (nodes : List Node) (store : σ) (ops : List (PublicOp σ))
    (hops : Along (PublicOp.step k) (RampsFit k) (VcController.init k nodes store) ops) :
    Along (PublicOp.step k) (RampsApproach k) (VcController.init k nodes store) ops ∧
      ∀ ch ∈ (exec (PublicOp.step k) (VcController.init k nodes store) ops).channels,
        0 ≤ ch.operationalTargetVoltage ∧ ch.operationalTargetVoltage ≤ k.maxTargetVoltage := by
  have hcall : ∀ ch op, Bounded k (drive ch) → callFits ch op → Bounded k (drive (op.step k ch)) :=
    fun ch op => bounded_of_effect (step_effect k ch op)
  have hstep : ∀ (ctrl : Controller σ) (op : PublicOp σ),
      (∀ ch ∈ ctrl.channels, Bounded k (drive ch)) → RampsFit k ctrl op →
        ∀ ch ∈ (op.step k ctrl).channels, Bounded k (drive ch) := fun ctrl op hI hQ =>
    channels_invariant hcall (getElem?_publicStep k ctrl op) hI hQ
  have hinit : ∀ ch ∈ (VcController.init k nodes store).channels, Bounded k (drive ch) :=
    forall_mem_init (bounded_init k) nodes store
  refine ⟨Along.of_invariant hstep ?_ hinit hops, ?_⟩
  · intro ctrl op hI hQ p hp
    have hch : p.1 ∈ ctrl.channels :=
      List.mem_of_getElem? (List.mem_zipIdx_iff_getElem?.mp hp)
    exact Along.of_invariant hcall (fun ch op => callApproaches_of_bounded) (hI p.1 hch) (hQ p hp)
  · intro ch hch
    have hrange := (exec_invariant hstep hinit hops ch hch).operational
    exact ⟨Int16.le_iff_toInt_le.mpr hrange.1, Int16.le_iff_toInt_le.mpr hrange.2⟩

/-- A ramp in steps of 300 to a target of 1000, and a graceful disable. -/
theorem ramp_bounded_example :
    let ops : List (PublicOp Unit) :=
      [.controller (.channelSetField 0 .configuredTargetVoltage 1000),
        .controller (.channelSetField 0 .rampUpStep 300),
        .controller (.channelOutputAction 0 .enable), .controller (.tick 2000),
        .controller (.tick 3000), .controller (.channelOutputAction 0 .disableGraceful),
        .controller (.tick 9000)]
    Along (PublicOp.step Kconfig.hvb) (RampsApproach Kconfig.hvb)
        (VcController.init Kconfig.hvb [dacNode] ()) ops ∧
      ∀ ch ∈ (exec (PublicOp.step Kconfig.hvb)
          (VcController.init Kconfig.hvb [dacNode] ()) ops).channels,
        0 ≤ ch.operationalTargetVoltage ∧
          ch.operationalTargetVoltage ≤ Kconfig.hvb.maxTargetVoltage :=
  ramp_bounded Kconfig.hvb [dacNode] () _ (by decide +kernel)

/-- With a step register of 18000 the second step towards 20000 wraps. -/
theorem ramp_wraps :
    ¬ ∀ ops : List (PublicOp Unit), ∀ ch ∈ (exec (PublicOp.step Kconfig.hvb)
        (VcController.init Kconfig.hvb [dacNode] ()) ops).channels,
      0 ≤ ch.operationalTargetVoltage ∧
        ch.operationalTargetVoltage ≤ Kconfig.hvb.maxTargetVoltage := by
  intro h
  have hrun := h [.controller (.channelSetField 0 .configuredTargetVoltage 20000),
    .controller (.channelSetField 0 .rampUpStep 18000),
    .controller (.channelOutputAction 0 .enable), .controller (.tick 2000)]
  revert hrun
  decide +kernel

end Ramp
