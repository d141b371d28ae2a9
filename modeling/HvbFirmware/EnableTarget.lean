import HvbFirmware.RampRate
import HvbFirmware.Derate

/-!
# The target of a host ENABLE

The ramp that an ENABLE starts goes to the configured target, unless a recovery has left its flag
and a target of its own behind: the ENABLE clears `ramp_to_disable`, and not `recovering`.
-/
namespace EnableTarget

open VcTypes VcChannel VcController Runs Approach Ramp RampLaw RampRate

variable {σ : Type}

/-! ## The ticks after an ENABLE -/

/-- What happens to a channel that the host leaves alone. -/
inductive Event where
  | publishVoltage (raw : Int32) (timestampMs : UInt32)
  | publishCurrent (raw : Int32) (timestampMs : UInt32)
  | tick (sysCfg : SystemConfig) (dtMs : UInt32)

def Event.calls : Event → List ChannelOp
  | .publishVoltage raw timestampMs => [.publishVoltage raw timestampMs]
  | .publishCurrent raw timestampMs => [.publishCurrent raw timestampMs]
  | .tick sysCfg dtMs => runOps sysCfg dtMs

def callsOf (events : List Event) : List ChannelOp := events.flatMap Event.calls

def enabled (ch : Channel) : Channel := (outputAction ch .enable).2

/-- A ramp tick leaves the value between where it was and the configured target. -/
def towardsConfigured (ch : Channel) : ChannelOp → Bool
  | .tickRamp dtMs =>
    let start := ch.operationalTargetVoltage.toInt
    let target := ch.config.configuredTargetVoltage.toInt
    let value := (tickRamp ch dtMs).operationalTargetVoltage.toInt
    decide (min start target ≤ value ∧ value ≤ max start target)
  | _ => true

/-- After the call ENABLED_HOLDING is entered or held at the configured target only. -/
def holdsConfigured (k : Kconfig) (ch : Channel) (op : ChannelOp) : Bool :=
  (op.step k ch).smf != .enabledHolding ||
    (op.step k ch).operationalTargetVoltage == (op.step k ch).config.configuredTargetVoltage

/-- Neither step register takes the largest target out of `int16_t`. -/
def SmallSteps (k : Kconfig) (cfg : ChannelConfig) : Prop :=
  cfg.rampUpStep.toNat + k.maxTargetVoltage.toInt ≤ 32767 ∧
    cfg.rampDownStep.toNat + k.maxTargetVoltage.toInt ≤ 32767

/-- After an ENABLE, ticks that find no fault ramp to the configured target and hold there. -/
def RampsToConfigured (k : Kconfig) (ch : Channel) : Prop :=
  ∀ events : List Event,
    Along (ChannelOp.step k) (fun c op => tripsOn c op = false) (enabled ch) (callsOf events) →
      Along (ChannelOp.step k) (fun c op => towardsConfigured c op && holdsConfigured k c op)
        (enabled ch) (callsOf events)

/-! ## The calls of a tick that are no ramp tick -/

/-- The channels agree in all that the ramp reads. -/
structure SameRamp (ch ch' : Channel) : Prop where
  drive : drive ch' = drive ch
  config : ch'.config = ch.config
  accum : ch'.rampAccumMs = ch.rampAccumMs

theorem SameRamp.refl (ch : Channel) : SameRamp ch ch := ⟨rfl, rfl, rfl⟩

theorem SameRamp.trans {a b c : Channel} (hab : SameRamp a b) (hbc : SameRamp b c) :
    SameRamp a c :=
  ⟨hbc.drive.trans hab.drive, hbc.config.trans hab.config, hbc.accum.trans hab.accum⟩

section Quiet

variable (k : Kconfig) (ch : Channel)

theorem sameRamp_sampleVoltage : SameRamp ch (sampleVoltage ch) :=
  ⟨drive_sampleVoltage ch, congrArg Frame.config (frame_sampleVoltage ch),
    congrArg Ledger.rampAccumMs (ledger_sampleVoltage ch)⟩

theorem sameRamp_sampleCurrent {ch : Channel} (htrip : tripsOn ch .sampleCurrent = false) :
    SameRamp ch (sampleCurrent ch) :=
  ⟨drive_sampleCurrent ch htrip, congrArg Frame.config (frame_sampleCurrent ch),
    congrArg Ledger.rampAccumMs (ledger_sampleCurrent ch)⟩

theorem tickRecovery_idle {ch : Channel} (h : ch.activeFaultCause = 0) (sysCfg : SystemConfig)
    (dtMs : UInt32) : tickRecovery k ch sysCfg dtMs = ch := by
  have hnot : retryable ch sysCfg = false := by
    have hcurrent : ¬(0 : UInt16) = faultCurrent := by decide
    simp [retryable, currentFaultOnly, h, hcurrent]
  rcases tickRecovery_cases k ch sysCfg dtMs with ⟨-, heq⟩ | ⟨hretry, -⟩ | ⟨hretry, -⟩ |
    ⟨hretry, -⟩
  · exact heq
  all_goals exact absurd hretry (by simp [hnot])

/-- The calls that the events consist of. -/
def isEventCall : ChannelOp → Bool
  | .publishVoltage _ _ | .publishCurrent _ _ | .advance _ | .sampleVoltage | .sampleCurrent
  | .tickRamp _ | .tickRecovery _ _ => true
  | _ => false

theorem isEventCall_of_mem {events : List Event} {op : ChannelOp} (h : op ∈ callsOf events) :
    isEventCall op := by
  obtain ⟨event, -, hop⟩ := List.mem_flatMap.mp h
  cases event with
  | publishVoltage raw ts => obtain rfl := List.mem_singleton.mp hop; rfl
  | publishCurrent raw ts => obtain rfl := List.mem_singleton.mp hop; rfl
  | tick sysCfg dtMs =>
    simp only [Event.calls, runOps, List.mem_cons, List.not_mem_nil, or_false] at hop
    rcases hop with rfl | rfl | rfl | rfl | rfl <;> rfl

/-- The other calls leave all that the ramp reads. -/
theorem sameRamp_step {k : Kconfig} {ch : Channel} {op : ChannelOp} (hop : isEventCall op)
    (hramp : ∀ dtMs, op ≠ .tickRamp dtMs) (htrip : tripsOn ch op = false)
    (hactive : ch.activeFaultCause = 0) : SameRamp ch (op.step k ch) := by
  cases op with
  | tickRamp dtMs => exact absurd rfl (hramp dtMs)
  | tickRecovery sysCfg dtMs =>
    rw [ChannelOp.step, tickRecovery_idle k hactive]
    exact .refl ch
  | sampleVoltage => exact sameRamp_sampleVoltage ch
  | sampleCurrent => exact sameRamp_sampleCurrent htrip
  | advance dtMs => exact ⟨rfl, rfl, rfl⟩
  | publishVoltage raw ts => exact ⟨rfl, rfl, rfl⟩
  | publishCurrent raw ts => exact ⟨rfl, rfl, rfl⟩
  | _ => cases hop

end Quiet

/-! ## A ramp that goes to the configured target -/

/-- The ramp of an ENABLE with no other target left over. -/
structure Going (k : Kconfig) (d : Drive) (cfg : ChannelConfig) : Prop where
  checked : Checked k d
  small : SmallSteps k cfg
  output : d.outputEnabled
  active : d.active = 0
  stays : d.rampToDisable = false
  recovery : d.recovering → d.recoveryTarget = d.configured
  holds : d.smf = .enabledHolding → d.operational = d.configured

theorem config_refresh (ch : Channel) : (refresh ch).config = ch.config := applyHw_config ch

theorem config_finishRamp (ch : Channel) : (finishRamp ch).config = ch.config :=
  congrArg Frame.config (frame_finishRamp ch)

theorem fits_of_small {k : Kconfig} {ch : Channel} (h : SmallSteps k ch.config) :
    (rampStepReg ch).toNat + k.maxTargetVoltage.toInt ≤ 32767 := by
  unfold rampStepReg
  split
  · exact h.1
  · exact h.2

section Going

variable {k : Kconfig} {ch : Channel}

theorem Going.target (h : Going k (drive ch) ch.config) :
    selectedTarget ch = ch.config.configuredTargetVoltage := by
  have hstays : ch.rampToDisable = false := h.stays
  unfold selectedTarget
  rw [hstays]
  split
  next hto => cases hto
  split
  next hrecovering => exact h.recovery hrecovering
  · rfl

theorem Going.settle {d : Drive} {cfg : ChannelConfig} (h : Going k d cfg) (code : UInt16) :
    Going k (d.settle code) cfg :=
  ⟨h.checked.congr rfl rfl rfl, h.small, h.output, h.active, h.stays, h.recovery, h.holds⟩

/-- The end of a ramp at the configured target. -/
theorem Going.finish {d : Drive} {cfg : ChannelConfig} (h : Going k d cfg)
    (hthere : d.operational = d.configured) : Going k d.finish cfg := by
  have hfinish : d.finish =
      { d with ramping := false, recovering := false, smf := .enabledHolding } := by
    rw [Drive.finish, if_neg (by simp [h.stays])]
  rw [hfinish]
  exact ⟨h.checked.congr rfl rfl rfl, h.small, h.output, h.active, h.stays,
    fun hrecovering => absurd hrecovering Bool.false_ne_true, fun _ => hthere⟩

/-- A ramp that moves holds nowhere but at the configured target. -/
theorem Going.moved (h : Going k (drive ch) ch.config) {r : UInt32 × Int16}
    (hholds : ch.smf = .enabledHolding → r.2 = ch.config.configuredTargetVoltage) :
    Going k (drive (moveRamp ch r)) ch.config :=
  ⟨h.checked.congr rfl rfl rfl, h.small, h.output, h.active, h.stays, h.recovery, hholds⟩

theorem Going.tickRamp (h : Going k (drive ch) ch.config) (dtMs : UInt32) :
    Going k (drive (tickRamp ch dtMs)) (tickRamp ch dtMs).config := by
  have htarget := h.target
  have hstep := tickRamp_step ch dtMs
  generalize VcChannel.tickRamp ch dtMs = ch' at hstep
  cases hstep with
  | idle => exact h
  | hold hruns hthere =>
    rw [drive_finishRamp, config_finishRamp]
    exact h.finish (hthere.trans htarget)
  | off hruns hthere hramping hto => exact absurd (h.stays.symm.trans hto) (by decide)
  | jump hruns hdiffers =>
    rw [drive_refresh, drive_finishRamp, config_refresh, config_finishRamp]
    have hgoing : Going k (drive { ch with operationalTargetVoltage := selectedTarget ch })
        ch.config :=
      ⟨h.checked.congr rfl rfl rfl, h.small, h.output, h.active, h.stays, h.recovery,
        fun _ => htarget⟩
    exact (hgoing.finish htarget).settle _
  | arrive hmoves harrives =>
    rw [drive_refresh, drive_finishRamp, config_refresh, config_finishRamp]
    have hthere : (rampResult ch dtMs).2 = ch.config.configuredTargetVoltage :=
      harrives.trans htarget
    exact ((h.moved fun _ => hthere).finish hthere).settle _
  | move hmoves hmoving =>
    rw [drive_refresh, config_refresh]
    have hdiffers : ch.operationalTargetVoltage ≠ ch.config.configuredTargetVoltage := by
      simp only [rampMoves, decide_eq_true_eq, htarget] at hmoves
      exact hmoves.2.1
    exact (h.moved fun hsmf => absurd (h.holds hsmf) hdiffers).settle _

theorem going_step {op : ChannelOp} (h : Going k (drive ch) ch.config) (hop : isEventCall op)
    (htrip : tripsOn ch op = false) : Going k (drive (op.step k ch)) (op.step k ch).config := by
  by_cases hramp : ∃ dtMs, op = .tickRamp dtMs
  · obtain ⟨dtMs, rfl⟩ := hramp
    exact h.tickRamp dtMs
  · have hsame := sameRamp_step (k := k) hop (not_exists.mp hramp) htrip h.active
    rw [hsame.drive, hsame.config]
    exact h

theorem towards_of_going (k : Kconfig) {op : ChannelOp} (h : Going k (drive ch) ch.config) :
    towardsConfigured ch op := by
  cases op with
  | tickRamp dtMs =>
    have hrange := h.checked.selected
    have hmem := tickRamp_mem_uIcc k
      (fun _ => tickFits_of_fits (fits_of_small h.small) hrange dtMs) hrange.1
    rw [h.target, Set.mem_uIcc] at hmem
    refine decide_eq_true ⟨?_, ?_⟩
    · omega
    · omega
  | _ => rfl

theorem holds_of_going {op : ChannelOp}
    (h : Going k (drive (op.step k ch)) (op.step k ch).config) : holdsConfigured k ch op := by
  cases hsmf : (op.step k ch).smf == .enabledHolding with
  | false => simp [holdsConfigured, bne, hsmf]
  | true =>
    have hthere : (op.step k ch).operationalTargetVoltage =
        (op.step k ch).config.configuredTargetVoltage := h.holds (beq_iff_eq.mp hsmf)
    simp [holdsConfigured, hthere]

end Going

/-- An ENABLE of a channel without a recovery to another target. -/
theorem going_enabled {k : Kconfig} {ch : Channel} (hchecked : Checked k (drive ch))
    (hactive : ch.activeFaultCause = 0) (hsmall : SmallSteps k ch.config)
    (hrecovery : ch.recovering = false ∨ ch.recoveryTarget = ch.config.configuredTargetVoltage) :
    Going k (drive (enabled ch)) (enabled ch).config := by
  rw [enabled, outputAction_enable hactive]
  dsimp only
  rw [drive_refresh, config_refresh]
  have hgoing : Going k (drive (startRamp ch)) ch.config :=
    ⟨hchecked.congr rfl rfl rfl, hsmall, rfl, hactive, rfl,
      fun h => hrecovery.resolve_left (by simpa [drive, startRamp] using h), nofun⟩
  exact hgoing.settle _

theorem rampsToConfigured_of_going {k : Kconfig} {ch : Channel}
    (h : Going k (drive (enabled ch)) (enabled ch).config) : RampsToConfigured k ch := by
  intro events hquiet
  have hcalls : Along (ChannelOp.step k) (fun _ op => isEventCall op) (enabled ch)
      (callsOf events) := along_of_forall (fun op hop _ => isEventCall_of_mem hop) _
  refine Along.of_invariant (I := fun c : Channel => Going k (drive c) c.config)
    (fun c op h hQ => going_step h hQ.1 hQ.2) (fun c op h hQ => ?_) h (hcalls.and hquiet)
  rw [towards_of_going k h, holds_of_going (going_step h hQ.1 hQ.2)]
  rfl

/-! ## A ramp that goes elsewhere -/

/-- A ramp to a recovery target that is not the configured one. -/
structure Astray (k : Kconfig) (d : Drive) (cfg : ChannelConfig) : Prop where
  checked : Checked k d
  small : SmallSteps k cfg
  output : d.outputEnabled
  active : d.active = 0
  ramping : d.ramping
  stays : d.rampToDisable = false
  recovering : d.recovering
  elsewhere : d.recoveryTarget ≠ d.configured

/-- What the events do that show it. -/
def Strays (k : Kconfig) (ch : Channel) (events : List Event) : Prop :=
  Along (ChannelOp.step k) (fun c op => tripsOn c op = false) ch (callsOf events) ∧
    ¬Along (ChannelOp.step k) (fun c op => towardsConfigured c op && holdsConfigured k c op) ch
      (callsOf events)

/-- The channel that the ramp tick of a tick finds. -/
def sampled (ch : Channel) (dtMs : UInt32) : Channel :=
  sampleCurrent (sampleVoltage (advance ch dtMs))

section Astray

variable {k : Kconfig} {ch : Channel}

theorem Astray.target (h : Astray k (drive ch) ch.config) : selectedTarget ch = ch.recoveryTarget :=
  Derate.selectedTarget_of_recovering h.stays h.recovering

/-- A channel that ramps does not trip. -/
theorem not_trips_of_ramping (h : ch.ramping) : tripsOn ch .sampleCurrent = false := by
  refine Bool.eq_false_iff.mpr fun htrip => ?_
  rw [ramping_of_tripsOn htrip] at h
  cases h

theorem sameRamp_sampled (h : ch.ramping) (dtMs : UInt32) :
    tripsOn (sampleVoltage (advance ch dtMs)) .sampleCurrent = false ∧
      SameRamp ch (sampled ch dtMs) := by
  have hvoltage : SameRamp ch (sampleVoltage (advance ch dtMs)) :=
    (⟨rfl, rfl, rfl⟩ : SameRamp ch (advance ch dtMs)).trans (sameRamp_sampleVoltage _)
  have hramping : (sampleVoltage (advance ch dtMs)).ramping :=
    (congrArg Drive.ramping hvoltage.drive).trans h
  have htrip := not_trips_of_ramping hramping
  exact ⟨htrip, hvoltage.trans (sameRamp_sampleCurrent htrip)⟩

theorem SameRamp.selectedTarget {ch' : Channel} (h : SameRamp ch ch') :
    selectedTarget ch' = selectedTarget ch := by
  have hto : ch'.rampToDisable = ch.rampToDisable := congrArg Drive.rampToDisable h.drive
  have hdest : ch'.gracefulRampDest = ch.gracefulRampDest :=
    congrArg Drive.gracefulRampDest h.drive
  have hrecovering : ch'.recovering = ch.recovering := congrArg Drive.recovering h.drive
  have htarget : ch'.recoveryTarget = ch.recoveryTarget := congrArg Drive.recoveryTarget h.drive
  simp only [VcChannel.selectedTarget, hto, hdest, hrecovering, htarget, h.config]

/-- A time in which the ramp makes a step. -/
def stepTime (ch : Channel) : UInt32 :=
  if rampIntervalMs ch ≤ ch.rampAccumMs then 0 else rampIntervalMs ch

theorem SameRamp.stepTime {ch' : Channel} (h : SameRamp ch ch') : stepTime ch' = stepTime ch := by
  have hoperational : ch'.operationalTargetVoltage = ch.operationalTargetVoltage :=
    congrArg Drive.operational h.drive
  have hinterval : rampIntervalMs ch' = rampIntervalMs ch := by
    unfold rampIntervalMs rampIntervalReg
    rw [h.selectedTarget, hoperational, h.config]
  unfold EnableTarget.stepTime
  rw [hinterval, h.accum]

theorem rampTurns_stepTime (hinterval : rampIntervalReg ch ≠ 0) :
    0 < rampTurns ch (stepTime ch) := by
  have hpos := rampIntervalMs_pos hinterval
  refine Nat.div_pos ?_ hpos
  unfold stepTime
  split
  next hle => simpa using UInt32.le_iff_toNat_le.mp hle
  next hnot =>
    have hlt : ch.rampAccumMs.toNat < (rampIntervalMs ch).toNat :=
      Nat.lt_of_not_le fun hle => hnot (UInt32.le_iff_toNat_le.mpr hle)
    have hreg := (rampIntervalReg ch).toNat_lt
    have hms := rampIntervalMs_toNat ch
    rw [accum_add (by omega)]
    omega

/-- One step or more brings the value closer. -/
theorem iterate_approach_closer {width target current : Int} (hwidth : 0 < width)
    (hdiffers : current ≠ target) {n : Nat} (hn : 0 < n) :
    ((approach width target)^[n] current - target).natAbs < (current - target).natAbs := by
  obtain ⟨m, rfl⟩ := Nat.exists_eq_add_of_lt hn
  rw [Nat.zero_add, Function.iterate_succ_apply]
  have hfirst : (approach width target current - target).natAbs < (current - target).natAbs := by
    unfold approach
    split <;> omega
  have hrest := iterate_approach_mem_uIcc hwidth.le target (approach width target current) m
  rw [Set.mem_uIcc] at hrest
  omega

/-- How far the ramp is from the recovery target. -/
def remaining (ch : Channel) : Nat :=
  (ch.operationalTargetVoltage.toInt - ch.recoveryTarget.toInt).natAbs

/-- The ramp ended where it was not to end. -/
structure Misses (ch : Channel) : Prop where
  holding : ch.smf = .enabledHolding
  elsewhere : ch.operationalTargetVoltage ≠ ch.config.configuredTargetVoltage

theorem misses_finishRamp (h : Astray k (drive ch) ch.config)
    (hthere : ch.operationalTargetVoltage = selectedTarget ch) : Misses (finishRamp ch) := by
  have hstays : ch.rampToDisable = false := h.stays
  refine ⟨by simp [finishRamp, hstays], ?_⟩
  rw [config_finishRamp, operational_finishRamp, hthere, h.target]
  exact h.elsewhere

theorem Misses.refresh (h : Misses ch) : Misses (refresh ch) := by
  obtain ⟨hw, dacCode, statusBits, heq⟩ := refresh_eq ch
  rw [heq]
  exact ⟨h.holding, h.elsewhere⟩

theorem Astray.settle {d : Drive} {cfg : ChannelConfig} (h : Astray k d cfg) (code : UInt16) :
    Astray k (d.settle code) cfg :=
  ⟨h.checked.congr rfl rfl rfl, h.small, h.output, h.active, h.ramping, h.stays, h.recovering,
    h.elsewhere⟩

theorem Astray.moved (h : Astray k (drive ch) ch.config) {r : UInt32 × Int16} :
    Astray k (drive (moveRamp ch r)) ch.config :=
  ⟨h.checked.congr rfl rfl rfl, h.small, h.output, h.active, rfl, h.stays, h.recovering,
    h.elsewhere⟩

/-- A ramp tick at the right time ends the ramp or brings it closer to the recovery target. -/
theorem Astray.tickRamp (h : Astray k (drive ch) ch.config) :
    Misses (tickRamp ch (stepTime ch)) ∨
      Astray k (drive (tickRamp ch (stepTime ch))) (tickRamp ch (stepTime ch)).config ∧
        remaining (tickRamp ch (stepTime ch)) < remaining ch := by
  have hruns : rampRuns ch := by
    have hout : ch.outputEnabled := h.output
    have hactive : ch.activeFaultCause = 0 := h.active
    simp [rampRuns, hout, hactive]
  have hstays : ch.rampToDisable = false := h.stays
  have hstep := tickRamp_step ch (stepTime ch)
  generalize VcChannel.tickRamp ch (stepTime ch) = ch' at hstep
  cases hstep with
  | idle hidle =>
    rcases hidle with hoff | ⟨-, hramping⟩
    · exact absurd hruns (by simp [hoff])
    · exact absurd (hramping.symm.trans h.ramping) (by decide)
  | hold _ hthere => exact .inl (misses_finishRamp h hthere)
  | off _ _ _ hto => exact absurd (hstays.symm.trans hto) (by decide)
  | jump _ hdiffers =>
    have hjump : Astray k (drive { ch with operationalTargetVoltage := selectedTarget ch })
        ch.config :=
      ⟨h.checked.congr rfl rfl rfl, h.small, h.output, h.active, h.ramping, h.stays, h.recovering,
        h.elsewhere⟩
    exact .inl (misses_finishRamp hjump rfl).refresh
  | arrive _ harrives => exact .inl (misses_finishRamp h.moved harrives).refresh
  | move hmoves _ =>
    simp only [rampMoves, decide_eq_true_eq] at hmoves
    obtain ⟨-, hdiffers, hstepReg, hinterval⟩ := hmoves
    refine .inr ⟨?_, ?_⟩
    · rw [drive_refresh, config_refresh]
      exact h.moved.settle _
    · have hrange := h.checked.selected
      have hloop := tickLoopFits_of_tickFits
        (tickFits_of_fits (fits_of_small h.small) hrange (stepTime ch)) hrange.1
      have hvalue := rampResult_eq hinterval hloop
      have hwidth : (0 : Int) < (rampStepReg ch).toNat := by
        have hne : (rampStepReg ch).toNat ≠ 0 := fun hzero => hstepReg (UInt16.toNat.inj hzero)
        omega
      have hne : ch.operationalTargetVoltage.toInt ≠ (selectedTarget ch).toInt :=
        fun heq => hdiffers (Int16.toInt_inj.mp heq)
      have hcloser := iterate_approach_closer hwidth hne (rampTurns_stepTime hinterval)
      have htarget : (refresh (moveRamp ch (rampResult ch (stepTime ch)))).recoveryTarget =
          ch.recoveryTarget := congrArg Drive.recoveryTarget (drive_refresh _)
      rw [← hvalue, h.target] at hcloser
      rw [remaining, operational_moved, htarget]
      exact hcloser

/-- The ticks of a channel without a fault do not depend on it. -/
def anyConfig : SystemConfig := ⟨.normal, 0⟩

theorem callsOf_cons (event : Event) (events : List Event) :
    callsOf (event :: events) = event.calls ++ callsOf events := rfl

/-- The calls of a tick up to its ramp tick, on a channel that ramps. -/
theorem exec_tick (h : Astray k (drive ch) ch.config) (sysCfg : SystemConfig) (dtMs : UInt32) :
    Along (ChannelOp.step k) (fun c op => tripsOn c op = false) ch (runOps sysCfg dtMs) ∧
      (Along (ChannelOp.step k) (fun c op => towardsConfigured c op && holdsConfigured k c op) ch
        (runOps sysCfg dtMs) → holdsConfigured k (sampled ch dtMs) (.tickRamp dtMs)) := by
  obtain ⟨htrip, -⟩ := sameRamp_sampled h.ramping dtMs
  refine ⟨⟨rfl, rfl, htrip, rfl, rfl, trivial⟩, fun ⟨_, _, _, hramp, _⟩ => ?_⟩
  exact (Bool.and_eq_true_iff.mp hramp).2

theorem not_holds_of_misses {dtMs : UInt32} (h : Misses (tickRamp ch dtMs)) :
    holdsConfigured k ch (.tickRamp dtMs) = false := by
  have hsmf : (ChannelOp.step k ch (.tickRamp dtMs)).smf = .enabledHolding := h.holding
  have helsewhere : (ChannelOp.step k ch (.tickRamp dtMs)).operationalTargetVoltage ≠
      (ChannelOp.step k ch (.tickRamp dtMs)).config.configuredTargetVoltage := h.elsewhere
  simp [holdsConfigured, hsmf, helsewhere]

/-- Ticks at the right times show that the ramp goes elsewhere. -/
theorem strays (h : Astray k (drive ch) ch.config) : ∃ events, Strays k ch events := by
  induction hn : remaining ch using Nat.strongRecOn generalizing ch with
  | ind n ih =>
    obtain ⟨-, hsame⟩ := sameRamp_sampled h.ramping (stepTime ch)
    have hsampled : Astray k (drive (sampled ch (stepTime ch)))
        (sampled ch (stepTime ch)).config := by
      rw [hsame.drive, hsame.config]
      exact h
    obtain ⟨hquiet, hholds⟩ := exec_tick h anyConfig (stepTime ch)
    have hcases := hsampled.tickRamp
    rw [hsame.stepTime] at hcases
    rcases hcases with hmisses | ⟨hastray, hcloser⟩
    · refine ⟨[.tick anyConfig (stepTime ch)], ?_, fun hall => ?_⟩
      · exact along_append.mpr ⟨hquiet, trivial⟩
      · have hheld := hholds (along_append.mp hall).1
        exact absurd hheld (by simp [not_holds_of_misses hmisses])
    · have hrecovery := tickRecovery_idle k hastray.active anyConfig (stepTime ch)
      have hexec : exec (ChannelOp.step k) ch (runOps anyConfig (stepTime ch)) =
          tickRamp (sampled ch (stepTime ch)) (stepTime ch) := hrecovery
      have hstart : remaining (sampled ch (stepTime ch)) = remaining ch := by
        have hoperational := congrArg Drive.operational hsame.drive
        have htarget := congrArg Drive.recoveryTarget hsame.drive
        simp only [drive] at hoperational htarget
        rw [remaining, remaining, hoperational, htarget]
      obtain ⟨events, hquiet', hastray'⟩ := ih _ (by omega) hastray rfl
      refine ⟨.tick anyConfig (stepTime ch) :: events, ?_, fun hall => hastray' ?_⟩
      · rw [callsOf_cons]
        refine along_append.mpr ⟨hquiet, ?_⟩
        rw [Event.calls, hexec]
        exact hquiet'
      · rw [callsOf_cons] at hall
        have hrest := (along_append.mp hall).2
        rw [Event.calls, hexec] at hrest
        exact hrest

end Astray

/-- An ENABLE of a channel with a recovery to another target left over. -/
theorem astray_enabled {k : Kconfig} {ch : Channel} (hchecked : Checked k (drive ch))
    (hactive : ch.activeFaultCause = 0) (hsmall : SmallSteps k ch.config)
    (hrecovering : ch.recovering)
    (helsewhere : ch.recoveryTarget ≠ ch.config.configuredTargetVoltage) :
    Astray k (drive (enabled ch)) (enabled ch).config := by
  rw [enabled, outputAction_enable hactive]
  dsimp only
  rw [drive_refresh, config_refresh]
  exact ⟨hchecked.congr rfl rfl rfl, hsmall, rfl, hactive, rfl, rfl, hrecovering, helsewhere⟩

theorem active_of_accepted {ch : Channel} (h : (outputAction ch .enable).1 = .ok) :
    ch.activeFaultCause = 0 := by
  by_contra hactive
  have hhost : hostAction ch .enable = .enable := if_neg (by simp)
  rw [outputAction, hhost] at h
  simp [isValidHostOutputAction, hactive] at h

/-- In every run an ENABLE that is accepted ramps to the configured target, for steps that do not
wrap, if and only if no recovery has left its flag and another target behind. -/
theorem enable_target (k : Kconfig) (nodes : List Node) (store : σ) (ops : List (PublicOp σ)) :
    ∀ ch ∈ (exec (PublicOp.step k) (VcController.init k nodes store) ops).channels,
      (outputAction ch .enable).1 = .ok → SmallSteps k ch.config →
        (RampsToConfigured k ch ↔
          ch.recovering = false ∨ ch.recoveryTarget = ch.config.configuredTargetVoltage) := by
  intro ch hch haccepted hsmall
  have hchecked := checked_run k nodes store ops ch hch
  have hactive : ch.activeFaultCause = 0 := active_of_accepted haccepted
  refine ⟨fun hramps => ?_, fun hrecovery =>
    rampsToConfigured_of_going (going_enabled hchecked hactive hsmall hrecovery)⟩
  by_contra hleft
  obtain ⟨hrecovering, helsewhere⟩ := not_or.mp hleft
  obtain ⟨events, hquiet, hstrays⟩ := strays
    (astray_enabled hchecked hactive hsmall (by simpa using hrecovering) helsewhere)
  exact hstrays (hramps events hquiet)

instance (k : Kconfig) (cfg : ChannelConfig) : Decidable (SmallSteps k cfg) :=
  inferInstanceAs (Decidable (_ ∧ _))

/-- A channel that is enabled for the first time. -/
theorem enable_target_example :
    let ops : List (PublicOp Unit) :=
      [.controller (.channelSetField 0 .configuredTargetVoltage 1000),
        .controller (.channelSetField 0 .rampUpStep 300)]
    ∀ ch ∈ (exec (PublicOp.step Kconfig.hvb)
        (VcController.init Kconfig.hvb [dacNode] ()) ops).channels,
      RampsToConfigured Kconfig.hvb ch := by
  intro ops ch hch
  have hmeets : ∀ ch ∈ (exec (PublicOp.step Kconfig.hvb)
      (VcController.init Kconfig.hvb [dacNode] ()) ops).channels,
      (outputAction ch .enable).1 = .ok ∧ SmallSteps Kconfig.hvb ch.config ∧
        ch.recovering = false := by decide +kernel
  obtain ⟨haccepted, hsmall, hrecovering⟩ := hmeets ch hch
  exact (enable_target Kconfig.hvb [dacNode] () ops ch hch haccepted hsmall).mpr (.inl hrecovering)

/-- A derated recovery to 900 that a DISABLE_FORCE stops: the next ENABLE ramps to 900 and holds. -/
theorem enable_left_over :
    ¬ ∀ ops : List (PublicOp Unit), ∀ ch ∈ (exec (PublicOp.step Kconfig.hvb)
        (VcController.init Kconfig.hvb [dacNode] ()) ops).channels,
      (outputAction ch .enable).1 = .ok → SmallSteps Kconfig.hvb ch.config →
        RampsToConfigured Kconfig.hvb ch := by
  intro h
  have hmeets : ∃ ch ∈ (exec (PublicOp.step Kconfig.hvb)
      (VcController.init Kconfig.hvb [dacNode] ())
      ((Derate.derateOps Unit ++ [ControllerOp.channelOutputAction 0 .disableForce]).map
        .controller)).channels,
      ((outputAction ch .enable).1 = .ok ∧ SmallSteps Kconfig.hvb ch.config) ∧
        Along (ChannelOp.step Kconfig.hvb) (fun c op => tripsOn c op = false) (enabled ch)
          (callsOf [.tick anyConfig 5000]) ∧
        ¬Along (ChannelOp.step Kconfig.hvb)
          (fun c op => towardsConfigured c op && holdsConfigured Kconfig.hvb c op) (enabled ch)
          (callsOf [.tick anyConfig 5000]) := by decide +kernel
  obtain ⟨ch, hch, ⟨haccepted, hsmall⟩, hquiet, hstrays⟩ := hmeets
  exact hstrays (h _ ch hch haccepted hsmall _ hquiet)

end EnableTarget
