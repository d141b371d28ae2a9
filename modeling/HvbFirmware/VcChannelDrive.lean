import HvbFirmware.VcChannelApi
import HvbFirmware.Runs

/-!
# What a call does to the drive of a channel

`ChannelOp` lists the calls on a channel: the functions of `vc_channel.h`, the sample
publication of the driver, and the parts of `vc_channel_run` one by one. `Drive` is the part
of the channel that decides whether and how the output stage is driven, and `Effect` says what
each call may do to it and when. Readings, configuration, calibration coefficients, status bits and
time stamps are left out. `step_effect` connects the two. `RequestStep` lists the ends of the
requests of the host as channels, with the checks that lead to each.
-/
namespace VcChannel

open VcTypes

inductive ChannelOp where
  | outputAction (action : OutputAction)
  | faultCommand (cmd : ChannelFaultCommand)
  | setField (field : ConfigField) (value : UInt16)
  | setConfig (cfg : ChannelConfig)
  | advance (dtMs : UInt32)
  | sampleVoltage
  | sampleCurrent
  | tickRamp (dtMs : UInt32)
  | tickRecovery (sysCfg : SystemConfig) (dtMs : UInt32)
  | consumeVoltage (raw : Int32)
  | consumeCurrent (raw : Int32)
  | consumeFault (faultCause : UInt16)
  | resetCalibration (entering : Bool)
  | calSetOutputEnable (enable : Bool)
  | calSetRawDac (code : UInt32)
  | calSample
  | setCalField (field : CalField) (value : UInt16)
  | loadCal (cal : ChannelCalConfig)
  | publishVoltage (raw : Int32) (timestampMs : UInt32)
  | publishCurrent (raw : Int32) (timestampMs : UInt32)
  deriving DecidableEq, Repr

def ChannelOp.step (k : Kconfig) (ch : Channel) : ChannelOp → Channel
  | .outputAction action => (VcChannel.outputAction ch action).2
  | .faultCommand cmd => (VcChannel.faultCommand ch cmd).2
  | .setField field value => (VcChannel.setField k ch field value).2
  | .setConfig cfg => (VcChannel.setConfig k ch cfg).2
  | .advance dtMs => VcChannel.advance ch dtMs
  | .sampleVoltage => VcChannel.sampleVoltage ch
  | .sampleCurrent => VcChannel.sampleCurrent ch
  | .tickRamp dtMs => VcChannel.tickRamp ch dtMs
  | .tickRecovery sysCfg dtMs => VcChannel.tickRecovery k ch sysCfg dtMs
  | .consumeVoltage raw => VcChannel.consumeVoltage ch raw
  | .consumeCurrent raw => VcChannel.consumeCurrent ch raw
  | .consumeFault faultCause => VcChannel.consumeFault ch faultCause
  | .resetCalibration entering => VcChannel.resetCalibration ch entering
  | .calSetOutputEnable enable => (VcChannel.calSetOutputEnable ch enable).2
  | .calSetRawDac code => (VcChannel.calSetRawDac k ch code).2
  | .calSample => (VcChannel.calSample ch).2
  | .setCalField field value => (VcChannel.setCalField ch field value).2
  | .loadCal cal => VcChannel.loadCal ch cal
  | .publishVoltage raw timestampMs => VcChannel.publishVoltage ch raw timestampMs
  | .publishCurrent raw timestampMs => VcChannel.publishCurrent ch raw timestampMs

/-- `vc_channel_run` call by call. -/
def runOps (sysCfg : SystemConfig) (dtMs : UInt32) : List ChannelOp :=
  [.advance dtMs, .sampleVoltage, .sampleCurrent, .tickRamp dtMs, .tickRecovery sysCfg dtMs]

/-- A tick of the channel is its calls in the order of `vc_channel_run`. -/
theorem run_eq_exec (k : Kconfig) (ch : Channel) (dtMs : UInt32) (sysCfg : SystemConfig) :
    run k ch dtMs sysCfg = Runs.exec (ChannelOp.step k) ch (runOps sysCfg dtMs) := rfl

/-! ## The drive -/

structure Drive where
  smf : SmfState
  hasOutput : Bool
  hasEnable : Bool
  hw : HwCommand
  capabilities : UInt16
  configured : Int16
  outputEnabled : Bool
  ramping : Bool
  rampToDisable : Bool
  gracefulRampDest : Int16
  recovering : Bool
  recoveryTarget : Int16
  operational : Int16
  active : UInt16
  raw : UInt16
  cal : UInt16
  deriving DecidableEq, Repr

def hasSetOutput (ch : Channel) : Bool := ch.dev.any fun api => api.setOutput.isSome

def hasSetEnable (ch : Channel) : Bool := ch.dev.any fun api => api.setEnable

def drive (ch : Channel) : Drive where
  smf := ch.smf
  hasOutput := hasSetOutput ch
  hasEnable := hasSetEnable ch
  hw := ch.hw
  capabilities := ch.capabilities
  configured := ch.config.configuredTargetVoltage
  outputEnabled := ch.outputEnabled
  ramping := ch.ramping
  rampToDisable := ch.rampToDisable
  gracefulRampDest := ch.gracefulRampDest
  recovering := ch.recovering
  recoveryTarget := ch.recoveryTarget
  operational := ch.operationalTargetVoltage
  active := ch.activeFaultCause
  raw := ch.rawDacReadback
  cal := ch.calOutputEnabled

namespace Drive

def hasCap (d : Drive) (cap : UInt16) : Bool := d.capabilities &&& cap == cap

def hardFault (d : Drive) : Bool := d.active &&& (faultHardware ||| faultInterlock) != 0

/-- The command of `apply_hw`, with the DAC code of the calibrated output left open. -/
def command (d : Drive) (code : UInt16) : HwCommand :=
  if d.cal ≠ 0 then ⟨d.raw, true⟩
  else if d.outputEnabled then ⟨code, true⟩
  else if d.smf = .disabledHvOn then ⟨0, true⟩
  else .off

/-- The command reaches the hardware through the hooks that are there. -/
def settle (d : Drive) (code : UInt16) : Drive :=
  { d with hw := ⟨if d.hasOutput then (d.command code).code else d.hw.code,
      if d.hasEnable then (d.command code).enable else d.hw.enable⟩ }

def graceful (d : Drive) : Drive :=
  { d with
    gracefulRampDest := 0
    rampToDisable := true
    outputEnabled := true
    ramping := true
    smf := .ramping }

def cleared (d : Drive) (smf : SmfState) : Drive :=
  { d with
    outputEnabled := false
    ramping := false
    rampToDisable := false
    operational := 0
    smf := smf }

/-- The end of a ramp: a graceful disable switches off, any other ramp holds. -/
def finish (d : Drive) : Drive :=
  if d.rampToDisable then
    { d with
      ramping := false
      rampToDisable := false
      outputEnabled := false
      smf := .disabledSafe }
  else { d with ramping := false, recovering := false, smf := .enabledHolding }

/-! The end of a ramp leaves everything but its own flags. -/

@[simp] theorem finish_configured (d : Drive) : d.finish.configured = d.configured := by
  unfold finish
  split <;> rfl

@[simp] theorem finish_gracefulRampDest (d : Drive) :
    d.finish.gracefulRampDest = d.gracefulRampDest := by
  unfold finish
  split <;> rfl

@[simp] theorem finish_recoveryTarget (d : Drive) : d.finish.recoveryTarget = d.recoveryTarget := by
  unfold finish
  split <;> rfl

@[simp] theorem finish_operational (d : Drive) : d.finish.operational = d.operational := by
  unfold finish
  split <;> rfl

@[simp] theorem finish_active (d : Drive) : d.finish.active = d.active := by
  unfold finish
  split <;> rfl

@[simp] theorem finish_raw (d : Drive) : d.finish.raw = d.raw := by
  unfold finish
  split <;> rfl

@[simp] theorem finish_cal (d : Drive) : d.finish.cal = d.cal := by
  unfold finish
  split <;> rfl

theorem finish_outputEnabled {d : Drive} (h : d.outputEnabled = false) :
    d.finish.outputEnabled = false := by
  unfold finish
  split
  · rfl
  · exact h

end Drive

/-! ## The drive of each function's result -/

/-- On the drive, a write to the hardware is one step of `settle`. -/
theorem drive_applyHw (ch : Channel) :
    drive (applyHw ch) = (drive ch).settle (rawDriveFromTarget ch ch.operationalTargetVoltage) := by
  cases h : ch.dev with
  | none => simp [applyHw, Drive.settle, drive, hasSetOutput, hasSetEnable, h]
  | some api =>
    simp [applyHw, Drive.settle, Drive.command, drive, hasSetOutput, hasSetEnable, hwCommand,
      HwCommand.off, h]

@[simp] theorem drive_updateStatusBits (ch : Channel) :
    drive (updateStatusBits ch) = drive ch := rfl

theorem drive_refresh (ch : Channel) :
    drive (refresh ch) = (drive ch).settle (rawDriveFromTarget ch ch.operationalTargetVoltage) :=
  drive_applyHw ch

/-! ## When the conditional parts of a call run -/

/-- The trip condition of `tick_current_protection`. -/
def trips (ch : Channel) : Bool :=
  ch.activeFaultCause = 0 ∧ !ch.ramping ∧
    ch.config.currentProtectionMode = .applyOutputAction ∧
    ch.config.currentLimitThreshold < ch.measuredCurrent

/-- Whether a call takes in a current sample on which the protection trips. -/
def tripsOn (ch : Channel) : ChannelOp → Bool
  | .consumeCurrent raw => trips (measureCurrent ch raw)
  | .sampleCurrent =>
    match ch.meas with
    | none => false
    | some buf => buf.currentTimestampMs ≠ ch.lastConsumedCurrentTs ∧
        trips (measureCurrent ch buf.rawCurrent)
  | _ => false

/-- The raw current that a call takes in. -/
def takenIn (ch : Channel) : ChannelOp → Option Int32
  | .consumeCurrent raw => some raw
  | .sampleCurrent => ch.meas.bind fun buf =>
      if buf.currentTimestampMs ≠ ch.lastConsumedCurrentTs then some buf.rawCurrent else none
  | _ => none

/-- A ramp tick with nothing to wait for: the output is on, and a fault stops only a ramp
that is not a graceful disable. -/
def rampRuns (ch : Channel) : Bool :=
  ch.outputEnabled ∧ (ch.activeFaultCause = 0 ∨ ch.rampToDisable)

/-- Whether a ramp tick ends its ramp. -/
def rampArrives (ch : Channel) (dtMs : UInt32) : Bool :=
  if ch.operationalTargetVoltage = selectedTarget ch then ch.ramping
  else rampStepReg ch = 0 ∨ rampIntervalReg ch = 0 ∨ (rampResult ch dtMs).2 = selectedTarget ch

/-- Whether `tick_recovery` gets past its first checks. -/
def retryable (ch : Channel) (sysCfg : SystemConfig) : Bool :=
  sysCfg.operatingMode = .automatic ∧ currentFaultOnly ch ∧
    isRetryPolicy ch.config.recoveryPolicyMode ∧ !ch.ramping

/-- The wait that `tick_recovery` compares with its time step. -/
def retryWaitMs (ch : Channel) : UInt32 :=
  if ch.smf ≠ .retryCooldown then ch.config.autoRetryDelay.toUInt32 * 1000
  else ch.cooldownRemainingMs

/-- Whether `tick_recovery` switches the output on again. -/
def retryDue (ch : Channel) (sysCfg : SystemConfig) (dtMs : UInt32) : Bool :=
  retryable ch sysCfg ∧ retryWaitMs ch ≤ dtMs ∧ isSafeToClearActive ch ∧
    countActiveRetries ch < ch.config.autoRetryMaxCount.toNat ∧
    (ch.config.recoveryPolicyMode = .autoDerateRetry → 0 < retryTarget ch)

/-! ## Requests -/

/-- What a request of the host leaves of the channel, with the checks that it has passed. -/
inductive RequestStep (k : Kconfig) (ch : Channel) : ChannelOp → Channel → Prop where
  | unchanged (op : ChannelOp) : RequestStep k ch op ch
  | enable (hactive : ch.activeFaultCause = 0) :
      RequestStep k ch (.outputAction .enable) (refresh (startRamp ch))
  | graceful (hdac : hasCap ch capRawOutputDrive) (hcap : hasCap ch capOutputEnable) :
      RequestStep k ch (.outputAction .disableGraceful)
        (refresh { startGracefulRamp ch with cooldownRemainingMs := 0 })
  | immediate (hdac : hasCap ch capRawOutputDrive) (hcap : hasCap ch capOutputEnable) :
      RequestStep k ch (.outputAction .disableImmediate) (refresh (clearDrive ch .disabledHvOn))
  | force (action : OutputAction) (haction : hostAction ch action = .disableForce)
      (hcap : hasCap ch capOutputEnable) :
      RequestStep k ch (.outputAction action) (refresh (clearDrive ch .disabledSafe))
  | answered (cmd : ChannelFaultCommand) :
      RequestStep k ch (.faultCommand cmd) (updateStatusBits ch)
  | clearActive (hactive : ch.activeFaultCause ≠ 0) (hsafe : isSafeToClearActive ch) :
      RequestStep k ch (.faultCommand .clearActive)
        (updateStatusBits { ch with activeFaultCause := 0, smf := .disabledSafe })
  | clearHistory : RequestStep k ch (.faultCommand .clearHistory)
      (updateStatusBits { ch with faultHistoryCause := 0 })
  | setField (field : ConfigField) (value : UInt16) (cfg : ChannelConfig)
      (hcfg : writeField k ch field value = .ok cfg) :
      RequestStep k ch (.setField field value) (refresh { ch with config := cfg })
  | setConfig (cfg : ChannelConfig) (hok : (VcChannel.setConfig k ch cfg).1 = .ok)
      (hrange : 0 ≤ cfg.configuredTargetVoltage ∧
        cfg.configuredTargetVoltage ≤ k.maxTargetVoltage) :
      RequestStep k ch (.setConfig cfg) (refresh { ch with config := cfg })
  | calOn (hhard : hasHardSafetyFault ch = false) (hdac : hasCap ch capRawOutputDrive) :
      RequestStep k ch (.calSetOutputEnable true) (applyHw { ch with calOutputEnabled := 1 })
  | calOff : RequestStep k ch (.calSetOutputEnable false)
      (applyHw { ch with
        calOutputEnabled := 0, rawDacReadback := 0, rawAdcVoltage := 0, rawAdcCurrent := 0 })
  | rawDac (code : UInt32)
      (hcode : code ≠ 0 → hasHardSafetyFault ch = false ∧ ch.calOutputEnabled ≠ 0) :
      RequestStep k ch (.calSetRawDac code) (applyHw { ch with rawDacReadback := code.toUInt16 })
  | sampled (rawVoltage rawCurrent : Int32) : RequestStep k ch .calSample
      { ch with rawAdcVoltage := rawVoltage, rawAdcCurrent := rawCurrent }
  | setCalField (field : CalField) (value : UInt16) (cal : ChannelCalConfig) :
      RequestStep k ch (.setCalField field value) (applyHw { ch with calConfig := cal })

section Requests

variable (k : Kconfig) (ch : Channel)

/-- The action of the host, or what a channel without a DAC makes of it. -/
theorem hostAction_cases (action : OutputAction) :
    hostAction ch action = action ∧
        (hasCap ch capRawOutputDrive ∨ action ≠ .disableGraceful ∧ action ≠ .disableImmediate) ∨
      hostAction ch action = .disableForce ∧ !hasCap ch capRawOutputDrive := by
  unfold hostAction
  cases hasCap ch capRawOutputDrive with
  | true => simp
  | false =>
    by_cases h : action = .disableGraceful ∨ action = .disableImmediate
    · simp [h]
    · simp [not_or.mp h]

/-- An ENABLE that finds no fault. -/
theorem outputAction_enable {ch : Channel} (h : ch.activeFaultCause = 0) :
    outputAction ch .enable = (.ok, refresh (startRamp ch)) := by
  have hhost : hostAction ch .enable = .enable := if_neg (by simp)
  unfold outputAction
  rw [hhost]
  simp [isValidHostOutputAction, h]

theorem outputAction_graceful {ch : Channel} (hdac : hasCap ch capRawOutputDrive)
    (hcap : hasCap ch capOutputEnable) : outputAction ch .disableGraceful =
      (.ok, refresh { startGracefulRamp ch with cooldownRemainingMs := 0 }) := by
  have hhost : hostAction ch .disableGraceful = .disableGraceful := by simp [hostAction, hdac]
  unfold outputAction
  rw [hhost]
  simp [isValidHostOutputAction, hcap]

theorem outputAction_immediate {ch : Channel} (hdac : hasCap ch capRawOutputDrive)
    (hcap : hasCap ch capOutputEnable) : outputAction ch .disableImmediate =
      (.ok, refresh (clearDrive ch .disabledHvOn)) := by
  have hhost : hostAction ch .disableImmediate = .disableImmediate := by simp [hostAction, hdac]
  unfold outputAction
  rw [hhost]
  simp [isValidHostOutputAction, hcap]

theorem outputAction_step (action : OutputAction) :
    RequestStep k ch (.outputAction action) (outputAction ch action).2 := by
  unfold outputAction
  split
  · exact .unchanged _
  split
  · exact .unchanged _
  next hcap =>
  have hhost := hostAction_cases ch action
  cases hact : hostAction ch action <;> rw [hact] at hcap hhost <;> dsimp only
  case none => exact .unchanged _
  case other value => exact .unchanged _
  case enable =>
    obtain rfl : action = .enable := by grind
    split
    · exact .unchanged _
    next hactive => exact .enable (by simpa using hactive)
  case disableGraceful =>
    obtain ⟨rfl, hdac⟩ : action = .disableGraceful ∧ hasCap ch capRawOutputDrive := by
      grind
    exact .graceful hdac (by simpa using hcap)
  case disableImmediate =>
    obtain ⟨rfl, hdac⟩ : action = .disableImmediate ∧ hasCap ch capRawOutputDrive := by
      grind
    exact .immediate hdac (by simpa using hcap)
  case disableForce => exact .force action hact (by simpa using hcap)

theorem faultCommand_step (cmd : ChannelFaultCommand) :
    RequestStep k ch (.faultCommand cmd) (faultCommand ch cmd).2 := by
  unfold faultCommand
  split
  · exact .unchanged _
  cases cmd with
  | none => exact .answered _
  | clearHistory => exact .clearHistory
  | other value => exact .answered _
  | clearActive =>
    dsimp only
    split
    · exact .answered _
    next hactive =>
    split
    · exact .unchanged _
    next hsafe => exact .clearActive hactive (by simpa using hsafe)

theorem setField_step (field : ConfigField) (value : UInt16) :
    RequestStep k ch (.setField field value) (setField k ch field value).2 := by
  unfold setField
  split
  · exact .unchanged _
  next cfg hcfg => exact .setField field value cfg hcfg

theorem setConfig_step (cfg : ChannelConfig) :
    RequestStep k ch (.setConfig cfg) (setConfig k ch cfg).2 := by
  have hstep := @RequestStep.setConfig k ch cfg
  unfold setConfig at hstep ⊢
  dsimp only at hstep ⊢
  split
  · exact .unchanged _
  next hcaps =>
  split
  · exact .unchanged _
  next hrange =>
  split
  · exact .unchanged _
  next hlimit =>
  split
  · exact .unchanged _
  next hmode =>
    rw [if_neg hcaps, if_neg hrange, if_neg hlimit, if_neg hmode] at hstep
    simp only [not_or, Int16.not_lt] at hrange
    exact hstep rfl ⟨hrange.2, hrange.1⟩

theorem calSetOutputEnable_step (enable : Bool) :
    RequestStep k ch (.calSetOutputEnable enable) (calSetOutputEnable ch enable).2 := by
  unfold calSetOutputEnable
  split
  · exact .unchanged _
  next hdac =>
  cases enable with
  | false => exact .calOff
  | true =>
    rw [if_pos rfl]
    split
    · exact .unchanged _
    next hhard => exact .calOn (by simpa using hhard) (by simpa using hdac)

theorem calSetRawDac_step (code : UInt32) :
    RequestStep k ch (.calSetRawDac code) (calSetRawDac k ch code).2 := by
  unfold calSetRawDac
  split
  · exact .unchanged _
  split
  · exact .unchanged _
  split
  · exact .unchanged _
  next hhard =>
  split
  · exact .unchanged _
  next hgate =>
  refine .rawDac code fun hcode => ⟨by simpa [hcode] using hhard, ?_⟩
  exact fun h => hgate ⟨hcode, h⟩

theorem calSample_step : RequestStep k ch .calSample (calSample ch).2 := by
  unfold calSample
  dsimp only
  split
  · exact .unchanged _
  · exact .sampled _ _

theorem setCalField_step (field : CalField) (value : UInt16) :
    RequestStep k ch (.setCalField field value) (setCalField ch field value).2 := by
  unfold setCalField
  split
  · exact .unchanged _
  next cal _ => exact .setCalField field value cal

end Requests

/-! ## Effects -/

/-- What a call may do to the drive of a channel, with the conditions it does so under. -/
inductive Effect (k : Kconfig) (ch : Channel) : ChannelOp → Drive → Prop where
  | quiet (op : ChannelOp) : Effect k ch op (drive ch)
  | enable (code : UInt16) (hactive : ch.activeFaultCause = 0) :
      Effect k ch (.outputAction .enable)
        ({ drive ch with outputEnabled := true, ramping := true, rampToDisable := false,
                         smf := .ramping }.settle code)
  | graceful (code : UInt16) (hdac : hasCap ch capRawOutputDrive)
      (hcap : hasCap ch capOutputEnable) :
      Effect k ch (.outputAction .disableGraceful) ((drive ch).graceful.settle code)
  | immediate (code : UInt16) (hdac : hasCap ch capRawOutputDrive)
      (hcap : hasCap ch capOutputEnable) :
      Effect k ch (.outputAction .disableImmediate)
        (((drive ch).cleared .disabledHvOn).settle code)
  | force (action : OutputAction) (code : UInt16) (haction : hostAction ch action = .disableForce)
      (hcap : hasCap ch capOutputEnable) :
      Effect k ch (.outputAction action) (((drive ch).cleared .disabledSafe).settle code)
  | clearActive (hactive : ch.activeFaultCause ≠ 0) (hsafe : isSafeToClearActive ch) :
      Effect k ch (.faultCommand .clearActive)
        { drive ch with active := 0, smf := .disabledSafe }
  | configure (op : ChannelOp) (code : UInt16) (target : Int16)
      (htarget : target = ch.config.configuredTargetVoltage ∨
        0 ≤ target ∧ target ≤ k.maxTargetVoltage) :
      Effect k ch op ({ drive ch with configured := target }.settle code)
  | tripGraceful (op : ChannelOp) (code : UInt16) (htrip : tripsOn ch op)
      (hactive : ch.activeFaultCause = 0) (haction : protectionAction ch
        ch.config.currentProtectionOutputAction = .disableGraceful) :
      Effect k ch op
        { (drive ch).graceful.settle code with active := faultCurrent, smf := .faultLatched }
  | tripCleared (op : ChannelOp) (code : UInt16) (smf : SmfState) (htrip : tripsOn ch op)
      (hactive : ch.activeFaultCause = 0) :
      Effect k ch op
        { ((drive ch).cleared smf).settle code with
          active := faultCurrent, smf := .faultLatched }
  | tripOnly (op : ChannelOp) (code : UInt16) (htrip : tripsOn ch op)
      (hactive : ch.activeFaultCause = 0) :
      Effect k ch op { (drive ch).settle code with active := faultCurrent, smf := .faultLatched }
  | hold (dtMs : UInt32) (hruns : rampRuns ch) (hto : ch.rampToDisable = false)
      (hactive : ch.activeFaultCause = 0) :
      Effect k ch (.tickRamp dtMs) (drive ch).finish
  | arrive (dtMs : UInt32) (code : UInt16) (hruns : rampRuns ch) (harrives : rampArrives ch dtMs) :
      Effect k ch (.tickRamp dtMs)
        ({ drive ch with operational := selectedTarget ch }.finish.settle code)
  | moving (dtMs : UInt32) (code : UInt16) (hruns : rampRuns ch)
      (hdiffers : ch.operationalTargetVoltage ≠ selectedTarget ch)
      (hstep : rampStepReg ch ≠ 0) (hinterval : rampIntervalReg ch ≠ 0) :
      Effect k ch (.tickRamp dtMs)
        ({ drive ch with ramping := true, operational := (rampResult ch dtMs).2 }.settle code)
  | cooldown (sysCfg : SystemConfig) (dtMs : UInt32) (hretry : retryable ch sysCfg)
      (hactive : ch.activeFaultCause = faultCurrent) :
      Effect k ch (.tickRecovery sysCfg dtMs) { drive ch with smf := .retryCooldown }
  | exhausted (sysCfg : SystemConfig) (dtMs : UInt32) (hretry : retryable ch sysCfg)
      (hactive : ch.activeFaultCause = faultCurrent) :
      Effect k ch (.tickRecovery sysCfg dtMs)
        { drive ch with active := faultCurrent ||| faultRetryExhaust, smf := .faultLatched }
  | retry (sysCfg : SystemConfig) (dtMs : UInt32) (code : UInt16)
      (hdue : retryDue ch sysCfg dtMs) (hactive : ch.activeFaultCause = faultCurrent) :
      Effect k ch (.tickRecovery sysCfg dtMs)
        ({ drive ch with active := 0, recovering := true, outputEnabled := true,
                         recoveryTarget := Int16.ofInt (retryTarget ch),
                         smf := .retryCooldown }.settle code)
  | fault (cause : UInt16) (code : UInt16) :
      Effect k ch (.consumeFault cause)
        ({ drive ch with active := ch.activeFaultCause ||| cause, outputEnabled := false,
                         ramping := false, recovering := false, cal := 0, raw := 0,
                         operational := 0, smf := .disabledSafe }.settle code)
  | calReset (entering : Bool) (code : UInt16) :
      Effect k ch (.resetCalibration entering)
        ({ drive ch with outputEnabled := false, ramping := false, operational := 0, raw := 0,
                         cal := 0, smf := if entering then .calibrationOutput
                           else .disabledSafe }.settle code)
  | calOn (code : UInt16) (hhard : hasHardSafetyFault ch = false)
      (hdac : hasCap ch capRawOutputDrive) :
      Effect k ch (.calSetOutputEnable true) ({ drive ch with cal := 1 }.settle code)
  | calOff (code : UInt16) :
      Effect k ch (.calSetOutputEnable false) ({ drive ch with cal := 0, raw := 0 }.settle code)
  | rawDac (value : UInt32) (code : UInt16)
      (hvalue : value ≠ 0 → hasHardSafetyFault ch = false ∧ ch.calOutputEnabled ≠ 0) :
      Effect k ch (.calSetRawDac value) ({ drive ch with raw := value.toUInt16 }.settle code)

section Effects

variable (k : Kconfig) (ch : Channel)

/-! A write that is not made answers with an error. -/

theorem writeField_refuses (field : ConfigField) (value : UInt16) :
    writeField k ch field value ≠ .error .ok := by
  intro h
  cases field <;> simp only [writeField] at h
  all_goals
    repeat' split at h
    all_goals cases h

theorem writeCalField_refuses (cal : ChannelCalConfig) (field : CalField) (value : UInt16) :
    writeCalField cal field value ≠ .error .ok := by
  intro h
  cases field <;> simp only [writeCalField] at h
  all_goals
    repeat' split at h
    all_goals cases h

/-! Configuration writes leave a target that the range check has passed. -/

/-- No write to a single field brings a negative target in. -/
theorem writeField_target (field : ConfigField) (value : UInt16) (cfg : ChannelConfig)
    (h : writeField k ch field value = .ok cfg) :
    cfg.configuredTargetVoltage = ch.config.configuredTargetVoltage ∨
      0 ≤ cfg.configuredTargetVoltage ∧ cfg.configuredTargetVoltage ≤ k.maxTargetVoltage := by
  cases field <;> simp only [writeField] at h
  case configuredTargetVoltage =>
    split at h
    · cases h
    split at h
    · cases h
    next hrange =>
    cases h
    simp only [not_or, Int16.not_lt] at hrange
    exact .inr ⟨hrange.2, hrange.1⟩
  all_goals
    repeat' split at h
    all_goals first | cases h; exact .inl rfl | cases h

/-- Every request has one of the effects. -/
theorem request_effect {op : ChannelOp} {ch' : Channel} (h : RequestStep k ch op ch') :
    Effect k ch op (drive ch') := by
  cases h with
  | unchanged => exact .quiet _
  | enable hactive =>
    rw [drive_refresh]
    exact .enable _ hactive
  | graceful hdac hcap =>
    rw [drive_refresh]
    exact .graceful _ hdac hcap
  | immediate hdac hcap =>
    rw [drive_refresh]
    exact .immediate _ hdac hcap
  | force action haction hcap =>
    rw [drive_refresh]
    exact .force action _ haction hcap
  | answered => exact .quiet _
  | clearActive hactive hsafe => exact .clearActive hactive hsafe
  | clearHistory => exact .quiet _
  | setField field value cfg hcfg =>
    rw [drive_refresh]
    exact .configure _ _ _ (writeField_target k ch field value cfg hcfg)
  | setConfig cfg _ hrange =>
    rw [drive_refresh]
    exact .configure _ _ _ (.inr hrange)
  | calOn hhard hdac =>
    rw [drive_applyHw]
    exact .calOn _ hhard hdac
  | calOff =>
    rw [drive_applyHw]
    exact .calOff _
  | rawDac code hcode =>
    rw [drive_applyHw]
    exact .rawDac code _ hcode
  | sampled => exact .quiet _
  | setCalField =>
    rw [drive_applyHw]
    exact .configure _ _ _ (.inl rfl)

/-! ## Protection, ramp and recovery -/

theorem drive_applyProtectionAction (action : OutputAction) :
    ∃ code, drive (applyProtectionAction ch action) = (drive ch).settle code ∨
      protectionAction ch action = .disableGraceful ∧
        drive (applyProtectionAction ch action) = (drive ch).graceful.settle code ∨
      ∃ smf, drive (applyProtectionAction ch action) = ((drive ch).cleared smf).settle code := by
  unfold applyProtectionAction
  cases protectionAction ch action <;> dsimp only <;> rw [drive_applyHw]
  case disableGraceful => exact ⟨_, .inr (.inl ⟨rfl, rfl⟩)⟩
  case disableImmediate => exact ⟨_, .inr (.inr ⟨.disabledHvOn, rfl⟩)⟩
  case disableForce => exact ⟨_, .inr (.inr ⟨.disabledSafe, rfl⟩)⟩
  case none => exact ⟨_, .inl rfl⟩
  case enable => exact ⟨_, .inl rfl⟩
  case other value => exact ⟨_, .inl rfl⟩

theorem drive_latchCurrentFault (h : ch.activeFaultCause = 0) :
    drive (latchCurrentFault ch) = { drive ch with active := faultCurrent } := by
  simp [drive, latchCurrentFault, hasSetOutput, hasSetEnable, h]

/-- What a tick of the current protection does: nothing, a history entry, or a trip. -/
theorem tickCurrentProtection_cases :
    tickCurrentProtection ch = ch ∨ tickCurrentProtection ch = recordCurrentFault ch ∨
      trips ch ∧ tickCurrentProtection ch =
        setSmfState (applyProtectionAction (latchCurrentFault (recordCurrentFault ch))
          ch.config.currentProtectionOutputAction) .faultLatched := by
  unfold tickCurrentProtection
  split
  · exact .inl rfl
  next hactive =>
  split
  · exact .inl rfl
  next hramping =>
  split
  · exact .inl rfl
  split
  · exact .inl rfl
  next hover =>
  dsimp only
  split
  · exact .inr (.inl rfl)
  next hmode =>
  have hmode : ch.config.currentProtectionMode = .applyOutputAction := Decidable.not_not.mp hmode
  refine .inr (.inr ⟨?_, rfl⟩)
  simp only [trips, decide_eq_true_eq]
  exact ⟨by simpa using hactive, by simpa using hramping, hmode, Int16.not_le.mp hover⟩

theorem tickCurrentProtection_trips {ch : Channel} (h : trips ch) : tickCurrentProtection ch =
    setSmfState (applyProtectionAction (latchCurrentFault (recordCurrentFault ch))
      ch.config.currentProtectionOutputAction) .faultLatched := by
  simp only [trips, decide_eq_true_eq] at h
  obtain ⟨hactive, hramping, hmode, hover⟩ := h
  have hramping : ch.ramping = false := by simpa using hramping
  unfold tickCurrentProtection
  rw [if_neg (by simp [hactive]), if_neg (by simp [hramping]), if_neg (by simp [hmode]),
    if_neg (Int16.not_le.mpr hover)]
  exact if_neg (by simp [recordCurrentFault, hmode])

/-- The protection leaves the drive, or it trips. -/
theorem tickCurrentProtection_drive :
    drive (tickCurrentProtection ch) = drive ch ∨ trips ch ∧ drive (tickCurrentProtection ch) =
      { drive (applyProtectionAction (latchCurrentFault (recordCurrentFault ch))
          ch.config.currentProtectionOutputAction) with smf := .faultLatched } := by
  rcases tickCurrentProtection_cases ch with h | h | ⟨htrip, h⟩ <;> rw [h]
  · exact .inl rfl
  · exact .inl rfl
  · exact .inr ⟨htrip, rfl⟩

/-- A trip of a channel that agrees with `ch` in all but the reading. -/
theorem trip_effect {op : ChannelOp} {m : Channel} (hdrive : drive m = drive ch)
    (hconfig : m.config = ch.config) (htrips : trips m → tripsOn ch op) :
    Effect k ch op (drive (tickCurrentProtection m)) := by
  rcases tickCurrentProtection_drive m with h | ⟨htrip, h⟩
  · rw [h, hdrive]
    exact .quiet op
  have hactive : m.activeFaultCause = 0 := by
    simp only [trips, decide_eq_true_eq] at htrip
    exact htrip.1
  have hactive' : ch.activeFaultCause = 0 :=
    (congrArg Drive.active hdrive).symm.trans hactive
  have hlatch : drive (latchCurrentFault (recordCurrentFault m)) =
      { drive ch with active := faultCurrent } := by
    rw [← hdrive]
    exact drive_latchCurrentFault (recordCurrentFault m) hactive
  obtain ⟨code, h' | ⟨haction, h'⟩ | ⟨smf, h'⟩⟩ := drive_applyProtectionAction
    (latchCurrentFault (recordCurrentFault m)) m.config.currentProtectionOutputAction
  all_goals rw [h, h', hlatch]
  · exact .tripOnly op code (htrips htrip) hactive'
  · refine .tripGraceful op code (htrips htrip) hactive' ?_
    have hcap : hasCap m capRawOutputDrive = hasCap ch capRawOutputDrive :=
      congrArg (fun d => Drive.hasCap d capRawOutputDrive) hdrive
    rw [← haction, ← hconfig, protectionAction, ← hcap]
    rfl
  · exact .tripCleared op code smf (htrips htrip) hactive'

theorem consumeCurrent_effect (op : ChannelOp) (raw : Int32)
    (htrips : trips (measureCurrent ch raw) → tripsOn ch op) :
    Effect k ch op (drive (consumeCurrent ch raw)) := by
  have hdrive : drive (measureCurrent ch raw) = drive ch := rfl
  unfold consumeCurrent
  dsimp only
  rw [drive_updateStatusBits]
  split
  · exact trip_effect k ch hdrive rfl htrips
  · rw [hdrive]
    exact .quiet op

theorem drive_sampleVoltage : drive (sampleVoltage ch) = drive ch := by
  unfold sampleVoltage
  split
  · rfl
  · split <;> rfl

theorem takenIn_sampleCurrent : takenIn ch .sampleCurrent = ch.meas.bind fun buf =>
    if buf.currentTimestampMs ≠ ch.lastConsumedCurrentTs then some buf.rawCurrent else none := rfl

/-- A call trips when it takes a sample in over which the protection trips. -/
theorem tripsOn_eq (op : ChannelOp) :
    tripsOn ch op = (takenIn ch op).any fun raw => trips (measureCurrent ch raw) := by
  cases op with
  | sampleCurrent =>
    show (match ch.meas with
      | none => false
      | some buf => decide (buf.currentTimestampMs ≠ ch.lastConsumedCurrentTs ∧
          trips (measureCurrent ch buf.rawCurrent))) = _
    rw [takenIn_sampleCurrent]
    cases ch.meas with
    | none => rfl
    | some buf => by_cases hts : buf.currentTimestampMs = ch.lastConsumedCurrentTs <;> simp [hts]
  | _ => rfl

/-- The protection trips on a current that the call takes in. -/
theorem tripsOn_iff {ch : Channel} {op : ChannelOp} :
    tripsOn ch op ↔ ∃ raw, takenIn ch op = some raw ∧ trips (measureCurrent ch raw) := by
  rw [tripsOn_eq]
  exact Option.any_eq_true _ _

theorem active_of_tripsOn {ch : Channel} {op : ChannelOp} (h : tripsOn ch op) :
    ch.activeFaultCause = 0 := by
  obtain ⟨raw, -, htrip⟩ := tripsOn_iff.mp h
  simp only [trips, decide_eq_true_eq] at htrip
  exact htrip.1

theorem ramping_of_tripsOn {ch : Channel} {op : ChannelOp} (h : tripsOn ch op) :
    ch.ramping = false := by
  obtain ⟨raw, -, htrip⟩ := tripsOn_iff.mp h
  simp only [trips, decide_eq_true_eq] at htrip
  simpa [measureCurrent] using htrip.2.1

/-- Without a new sample nothing happens. -/
theorem sampleCurrent_cases : (takenIn ch .sampleCurrent = none ∧ sampleCurrent ch = ch) ∨
    ∃ raw ts, takenIn ch .sampleCurrent = some raw ∧
      sampleCurrent ch = markCurrent (consumeCurrent ch raw) ts := by
  rw [takenIn_sampleCurrent]
  unfold sampleCurrent
  cases ch.meas with
  | none => exact .inl ⟨rfl, rfl⟩
  | some buf =>
    by_cases hts : buf.currentTimestampMs = ch.lastConsumedCurrentTs
    · exact .inl (by simp [hts])
    · exact .inr ⟨buf.rawCurrent, buf.currentTimestampMs, by simp [hts]⟩

theorem drive_sampleCurrent (htrip : tripsOn ch .sampleCurrent = false) :
    drive (sampleCurrent ch) = drive ch := by
  rcases sampleCurrent_cases ch with ⟨-, h⟩ | ⟨raw, ts, htaken, h⟩ <;> rw [h]
  show drive (if !(measureCurrent ch raw).ramping then
    tickCurrentProtection (measureCurrent ch raw) else measureCurrent ch raw) = drive ch
  split
  · rcases tickCurrentProtection_drive (measureCurrent ch raw) with hsame | ⟨hraw, -⟩
    · exact hsame
    · exact absurd (tripsOn_iff.mpr ⟨raw, htaken, hraw⟩) (by simp [htrip])
  · rfl

theorem sampleCurrent_effect : Effect k ch .sampleCurrent (drive (sampleCurrent ch)) := by
  rcases sampleCurrent_cases ch with ⟨-, h⟩ | ⟨raw, ts, htaken, h⟩ <;> rw [h]
  · exact .quiet _
  · exact consumeCurrent_effect k ch .sampleCurrent raw
      fun htrip => tripsOn_iff.mpr ⟨raw, htaken, htrip⟩

theorem drive_finishRamp : drive (finishRamp ch) = (drive ch).finish := by
  cases h : ch.rampToDisable <;>
    simp [finishRamp, Drive.finish, drive, hasSetOutput, hasSetEnable, h]

theorem Drive.finish_ramping (d : Drive) (ramping : Bool) :
    { d with ramping := ramping }.finish = d.finish := by
  cases h : d.rampToDisable <;> simp [Drive.finish, h]

theorem tickRamp_effect (dtMs : UInt32) :
    Effect k ch (.tickRamp dtMs) (drive (tickRamp ch dtMs)) := by
  unfold tickRamp
  dsimp only
  split
  · exact .quiet _
  next hon =>
  split
  · exact .quiet _
  next hactive =>
  have hactive : ch.activeFaultCause = 0 ∨ ch.rampToDisable := by grind
  have hruns : rampRuns ch := by simpa [rampRuns, hactive] using hon
  split
  next harrived =>
    split
    · exact .quiet _
    next hramping =>
    have hramping : ch.ramping := by simpa using hramping
    split
    next hto =>
      have harrive := Effect.arrive (k := k) dtMs
        (rawDriveFromTarget (finishRamp ch) (finishRamp ch).operationalTargetVoltage) hruns
        (by simp [rampArrives, harrived, hramping])
      rw [← harrived] at harrive
      rw [drive_refresh, drive_finishRamp]
      exact harrive
    next hto =>
      have hto : ch.rampToDisable = false := by simpa using hto
      have hactive : ch.activeFaultCause = 0 := by simpa [hto] using hactive
      rw [drive_finishRamp]
      exact .hold dtMs hruns hto hactive
  next hdiffers =>
  split
  next hzero =>
    rw [drive_refresh, drive_finishRamp]
    exact .arrive dtMs _ hruns (by
      rcases hzero with hzero | hzero <;> simp [rampArrives, hdiffers, hzero])
  next hzero =>
  obtain ⟨hstep, hinterval⟩ := not_or.mp hzero
  rw [drive_refresh]
  split
  next harrives =>
    have hmoved : drive (finishRamp (moveRamp ch (rampResult ch dtMs))) =
        { drive ch with operational := selectedTarget ch }.finish := by
      rw [drive_finishRamp]
      simp only [moveRamp, harrives]
      exact Drive.finish_ramping { drive ch with operational := selectedTarget ch } true
    rw [hmoved]
    exact .arrive dtMs _ hruns (by simp [rampArrives, hdiffers, harrives])
  next hmoving => exact .moving dtMs _ hruns hdiffers hstep hinterval

/-! The recovery touches the drive at its four ends only. -/

theorem drive_enterCooldown :
    drive (enterCooldown ch) = { drive ch with smf := .retryCooldown } := by
  unfold enterCooldown
  split
  · rfl
  next h =>
    have h : (drive ch).smf = .retryCooldown := by simpa [drive] using h
    rw [← h]

theorem enterCooldown_wait : (enterCooldown ch).cooldownRemainingMs = retryWaitMs ch := by
  unfold enterCooldown retryWaitMs
  split <;> rfl

/-- The channel when the cooldown is over. -/
def waited (ch : Channel) : Channel := { enterCooldown ch with cooldownRemainingMs := 0 }

/-- The wait changes nothing that the rest of the recovery reads. -/
theorem waited_reads :
    isSafeToClearActive (waited ch) = isSafeToClearActive ch ∧
      countActiveRetries (waited ch) = countActiveRetries ch ∧
      retryTarget (waited ch) = retryTarget ch ∧ (waited ch).config = ch.config := by
  unfold waited enterCooldown
  split <;> exact ⟨rfl, rfl, rfl, rfl⟩

/-- The ends of `tick_recovery`, each with the checks that lead to it. -/
theorem tickRecovery_cases (sysCfg : SystemConfig) (dtMs : UInt32) :
    retryable ch sysCfg = false ∧ tickRecovery k ch sysCfg dtMs = ch ∨
      retryable ch sysCfg ∧ dtMs < retryWaitMs ch ∧ tickRecovery k ch sysCfg dtMs =
        { enterCooldown ch with cooldownRemainingMs := retryWaitMs ch - dtMs } ∨
      retryable ch sysCfg ∧ retryWaitMs ch ≤ dtMs ∧ isSafeToClearActive ch = false ∧
        tickRecovery k ch sysCfg dtMs = waited ch ∨
      retryable ch sysCfg ∧ retryWaitMs ch ≤ dtMs ∧ isSafeToClearActive ch ∧
        tickRecovery k ch sysCfg dtMs = attemptRetry k (waited ch) := by
  unfold tickRecovery
  split
  next h => exact .inl ⟨by simp_all [retryable], rfl⟩
  next hmode =>
  split
  next h => exact .inl ⟨by simp_all [retryable], rfl⟩
  next hcurrent =>
  split
  next h => exact .inl ⟨by simp_all [retryable], rfl⟩
  next hpolicy =>
  split
  next h => exact .inl ⟨by simp_all [retryable], rfl⟩
  next hramping =>
  have hretry : retryable ch sysCfg := by simp_all [retryable]
  have hsafe := (waited_reads ch).1
  dsimp only
  rw [enterCooldown_wait]
  split
  next hwait => exact .inr (.inl ⟨hretry, hwait, rfl⟩)
  next hwait =>
  have hwait := UInt32.not_lt.mp hwait
  split
  next h =>
    have h : (!isSafeToClearActive (waited ch)) = true := h
    rw [hsafe] at h
    exact .inr (.inr (.inl ⟨hretry, hwait, by simpa using h, rfl⟩))
  next h =>
    have h : ¬(!isSafeToClearActive (waited ch)) = true := h
    rw [hsafe] at h
    exact .inr (.inr (.inr ⟨hretry, hwait, by simpa using h, rfl⟩))

theorem drive_recordRetryAttempt : drive (recordRetryAttempt k ch) = drive ch := by
  unfold recordRetryAttempt
  split <;> rfl

theorem drive_startRecovery (target : Int16) : ∃ code, drive (startRecovery ch target) =
    { drive ch with active := 0, recovering := true, outputEnabled := true,
                    recoveryTarget := target }.settle code := by
  unfold startRecovery
  rw [drive_updateStatusBits, drive_applyHw]
  exact ⟨_, rfl⟩

/-- The four ends of `tick_recovery`. -/
inductive RecoveryStep (k : Kconfig) (ch : Channel) (sysCfg : SystemConfig) (dtMs : UInt32) :
    Channel → Prop where
  | idle (hretry : retryable ch sysCfg = false) : RecoveryStep k ch sysCfg dtMs ch
  | cooling (hretry : retryable ch sysCfg) (hdue : retryDue ch sysCfg dtMs = false)
      (remainingMs : UInt32) :
      RecoveryStep k ch sysCfg dtMs { enterCooldown ch with cooldownRemainingMs := remainingMs }
  | exhausted (hretry : retryable ch sysCfg) (hdue : retryDue ch sysCfg dtMs = false) :
      RecoveryStep k ch sysCfg dtMs (retriesExhausted (waited ch))
  | retry (hdue : retryDue ch sysCfg dtMs) : RecoveryStep k ch sysCfg dtMs
      (startRecovery (recordRetryAttempt k (waited ch)) (Int16.ofInt (retryTarget ch)))

theorem attemptRetry_step {ch : Channel} {sysCfg : SystemConfig} {dtMs : UInt32}
    (hretry : retryable ch sysCfg) (hwait : retryWaitMs ch ≤ dtMs)
    (hsafe : isSafeToClearActive ch) :
    RecoveryStep k ch sysCfg dtMs (attemptRetry k (waited ch)) := by
  obtain ⟨-, hcount', htarget', hconfig'⟩ := waited_reads ch
  unfold attemptRetry
  rw [hcount', hconfig', htarget']
  split
  next hcount => exact .exhausted hretry (by simp [retryDue]; omega)
  next hcount =>
  split
  next htarget => exact .exhausted hretry (by simp [retryDue, htarget.1]; omega)
  next htarget =>
  refine .retry ?_
  simp only [retryDue, decide_eq_true_eq]
  refine ⟨hretry, hwait, hsafe, by omega, fun hpolicy => ?_⟩
  simp only [hpolicy, true_and] at htarget
  omega

/-- Every recovery tick is one of these steps. -/
theorem tickRecovery_step (sysCfg : SystemConfig) (dtMs : UInt32) :
    RecoveryStep k ch sysCfg dtMs (tickRecovery k ch sysCfg dtMs) := by
  rcases tickRecovery_cases k ch sysCfg dtMs with ⟨hretry, h⟩ | ⟨hretry, hwait, h⟩ |
    ⟨hretry, hwait, hsafe, h⟩ | ⟨hretry, hwait, hsafe, h⟩ <;> rw [h]
  · exact .idle hretry
  · exact .cooling hretry (by simp [retryDue, UInt32.not_le.mpr hwait]) _
  · exact .cooling hretry (by simp [retryDue, hsafe]) _
  · exact attemptRetry_step k hretry hwait hsafe

theorem tickRecovery_effect (sysCfg : SystemConfig) (dtMs : UInt32) :
    Effect k ch (.tickRecovery sysCfg dtMs) (drive (tickRecovery k ch sysCfg dtMs)) := by
  have hcurrent : retryable ch sysCfg → ch.activeFaultCause = faultCurrent := by
    intro hretry
    simp only [retryable, currentFaultOnly, decide_eq_true_eq, beq_iff_eq] at hretry
    exact hretry.2.1
  have hcool := drive_enterCooldown ch
  -- an attempt starts from RETRY_COOLDOWN with the same fault
  have hwaited : drive (waited ch) = { drive ch with smf := .retryCooldown } := hcool
  have hstep := tickRecovery_step k ch sysCfg dtMs
  generalize tickRecovery k ch sysCfg dtMs = ch' at hstep
  cases hstep with
  | idle => exact .quiet _
  | cooling hretry hdue remainingMs =>
    have hcooldown := Effect.cooldown (k := k) sysCfg dtMs hretry (hcurrent hretry)
    rw [← hcool] at hcooldown
    exact hcooldown
  | exhausted hretry =>
    have hdrive : drive (retriesExhausted (waited ch)) =
        { drive (waited ch) with
          active := (drive (waited ch)).active ||| faultRetryExhaust, smf := .faultLatched } := rfl
    have hsame : (drive ch).active = faultCurrent := hcurrent hretry
    rw [hdrive, hwaited, hsame]
    exact .exhausted sysCfg dtMs hretry (hcurrent hretry)
  | retry hdue =>
    have hretry : retryable ch sysCfg := by
      simp only [retryDue, decide_eq_true_eq] at hdue
      exact hdue.1
    obtain ⟨code, hstart⟩ := drive_startRecovery (recordRetryAttempt k (waited ch))
      (Int16.ofInt (retryTarget ch))
    rw [hstart, drive_recordRetryAttempt, hwaited]
    exact .retry sysCfg dtMs code hdue (hcurrent hretry)

/-! ## Faults, calibration and every call -/

theorem consumeFault_effect (cause : UInt16) :
    Effect k ch (.consumeFault cause) (drive (consumeFault ch cause)) := by
  unfold consumeFault forceSafeState
  rw [drive_updateStatusBits, drive_applyHw]
  exact .fault cause _

theorem resetCalibration_effect (entering : Bool) :
    Effect k ch (.resetCalibration entering) (drive (resetCalibration ch entering)) := by
  unfold resetCalibration
  rw [drive_refresh]
  exact .calReset entering _

theorem loadCal_effect (cal : ChannelCalConfig) :
    Effect k ch (.loadCal cal) (drive (loadCal ch cal)) := by
  unfold loadCal
  rw [drive_applyHw]
  exact .configure _ _ _ (.inl rfl)

/-- Every call has its effect on the drive. -/
theorem step_effect (op : ChannelOp) : Effect k ch op (drive (op.step k ch)) := by
  cases op with
  | outputAction action => exact request_effect k ch (outputAction_step k ch action)
  | faultCommand cmd => exact request_effect k ch (faultCommand_step k ch cmd)
  | setField field value => exact request_effect k ch (setField_step k ch field value)
  | setConfig cfg => exact request_effect k ch (setConfig_step k ch cfg)
  | advance dtMs => exact .quiet _
  | sampleVoltage =>
    rw [ChannelOp.step, drive_sampleVoltage]
    exact .quiet _
  | sampleCurrent => exact sampleCurrent_effect k ch
  | tickRamp dtMs => exact tickRamp_effect k ch dtMs
  | tickRecovery sysCfg dtMs => exact tickRecovery_effect k ch sysCfg dtMs
  | consumeVoltage raw => exact .quiet _
  | consumeCurrent raw => exact consumeCurrent_effect k ch _ raw id
  | consumeFault cause => exact consumeFault_effect k ch cause
  | resetCalibration entering => exact resetCalibration_effect k ch entering
  | calSetOutputEnable enable => exact request_effect k ch (calSetOutputEnable_step k ch enable)
  | calSetRawDac code => exact request_effect k ch (calSetRawDac_step k ch code)
  | calSample => exact request_effect k ch (calSample_step k ch)
  | setCalField field value => exact request_effect k ch (setCalField_step k ch field value)
  | loadCal cal => exact loadCal_effect k ch cal
  | publishVoltage raw ts => exact .quiet _
  | publishCurrent raw ts => exact .quiet _

end Effects

end VcChannel
