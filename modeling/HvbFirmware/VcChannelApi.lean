import HvbFirmware.VcChannel

/-!
# The public channel functions

The functions that `vc_channel.h` exports. A function that returns a status in C
returns it here beside the channel; a rejected call returns the channel it was
given.
-/
namespace VcChannel

open VcTypes

/-! ## Ramp -/

/-- `ch->ramp_to_disable ? … : ch->recovering ? … : cfg->configured_target_voltage`. -/
def selectedTarget (ch : Channel) : Int16 :=
  if ch.rampToDisable then ch.gracefulRampDest
  else if ch.recovering then ch.recoveryTarget
  else ch.config.configuredTargetVoltage

/-- The body of the ramp loop. The step is the 16-bit register cast to `int16_t`. -/
def rampStep (step target current : Int16) : Int16 :=
  if current < target then
    if current + step > target then target else current + step
  else
    if current - step < target then target else current - step

/-- `while (ramp_accum_ms >= interval_ms && current != target)`, with as much fuel as
the accumulator holds intervals. -/
def rampLoop (intervalMs : UInt32) (step target : Int16) :
    Nat → UInt32 → Int16 → UInt32 × Int16
  | 0, accum, current => (accum, current)
  | fuel + 1, accum, current =>
    if intervalMs ≤ accum ∧ current ≠ target then
      rampLoop intervalMs step target fuel (accum - intervalMs) (rampStep step target current)
    else (accum, current)

def finishRamp (ch : Channel) : Channel :=
  if ch.rampToDisable then
    { ch with
      ramping := false
      rampToDisable := false
      outputEnabled := false
      smf := .disabledSafe }
  else { ch with ramping := false, recovering := false, smf := .enabledHolding }

/-- `apply_hw(ch); update_status_bits(ch);` -/
def refresh (ch : Channel) : Channel := updateStatusBits (applyHw ch)

/-- The step register of the direction the ramp has to go. -/
def rampStepReg (ch : Channel) : UInt16 :=
  if ch.operationalTargetVoltage < selectedTarget ch then ch.config.rampUpStep
  else ch.config.rampDownStep

def rampIntervalReg (ch : Channel) : UInt16 :=
  if ch.operationalTargetVoltage < selectedTarget ch then ch.config.rampUpInterval
  else ch.config.rampDownInterval

def rampIntervalMs (ch : Channel) : UInt32 := (rampIntervalReg ch).toUInt32 * 1000

/-- `ramp_accum_ms` and the running value after the loop. -/
def rampResult (ch : Channel) (dtMs : UInt32) : UInt32 × Int16 :=
  let accum := ch.rampAccumMs + dtMs
  rampLoop (rampIntervalMs ch) (rampStepReg ch).toInt16 (selectedTarget ch)
    (accum.toNat / (rampIntervalMs ch).toNat) accum ch.operationalTargetVoltage

def moveRamp (ch : Channel) (r : UInt32 × Int16) : Channel :=
  { ch with ramping := true, rampAccumMs := r.1, operationalTargetVoltage := r.2 }

def tickRamp (ch : Channel) (dtMs : UInt32) : Channel :=
  let target := selectedTarget ch
  if !ch.outputEnabled then ch
  else if ch.activeFaultCause ≠ 0 ∧ !ch.rampToDisable then ch
  else if ch.operationalTargetVoltage = target then
    if !ch.ramping then ch
    else if ch.rampToDisable then refresh (finishRamp ch)
    else finishRamp ch
  else if rampStepReg ch = 0 ∨ rampIntervalReg ch = 0 then
    refresh (finishRamp { ch with operationalTargetVoltage := target })
  else
    let r := rampResult ch dtMs
    refresh (if r.2 = target then finishRamp (moveRamp ch r) else moveRamp ch r)

/-! ## Measurements and faults -/

def consumeVoltage (ch : Channel) (rawVoltage : Int32) : Channel :=
  updateStatusBits { ch with
    rawAdcVoltage := rawVoltage
    measuredVoltage := clampInt16 (applyGain rawVoltage.toInt ch.calConfig.measuredVoltageCalibK
      ch.calConfig.measuredVoltageCalibKExp + ch.calConfig.measuredVoltageCalibB.toInt) }

def measureCurrent (ch : Channel) (rawCurrent : Int32) : Channel :=
  { ch with
    rawAdcCurrent := rawCurrent
    measuredCurrent := clampInt16 (applyGain rawCurrent.toInt ch.calConfig.measuredCurrentCalibK
      ch.calConfig.measuredCurrentCalibKExp + ch.calConfig.measuredCurrentCalibB.toInt) }

def consumeCurrent (ch : Channel) (rawCurrent : Int32) : Channel :=
  let ch := measureCurrent ch rawCurrent
  updateStatusBits (if !ch.ramping then tickCurrentProtection ch else ch)

def consumeFault (ch : Channel) (faultCause : UInt16) : Channel :=
  updateStatusBits <| forceSafeState { ch with
    activeFaultCause := ch.activeFaultCause ||| faultCause
    faultHistoryCause := ch.faultHistoryCause ||| faultCause }

def markVoltage (ch : Channel) (ts : UInt32) : Channel := { ch with lastConsumedVoltageTs := ts }

def markCurrent (ch : Channel) (ts : UInt32) : Channel := { ch with lastConsumedCurrentTs := ts }

/-- The voltage half of the buffer read in `vc_channel_run`: a sample is consumed when its
timestamp is not the one consumed last. -/
def sampleVoltage (ch : Channel) : Channel :=
  match ch.meas with
  | none => ch
  | some buf =>
    if buf.voltageTimestampMs ≠ ch.lastConsumedVoltageTs then
      markVoltage (consumeVoltage ch buf.rawVoltage) buf.voltageTimestampMs
    else ch

def sampleCurrent (ch : Channel) : Channel :=
  match ch.meas with
  | none => ch
  | some buf =>
    if buf.currentTimestampMs ≠ ch.lastConsumedCurrentTs then
      markCurrent (consumeCurrent ch buf.rawCurrent) buf.currentTimestampMs
    else ch

def publishVoltage (ch : Channel) (raw : Int32) (timestampMs : UInt32) : Channel :=
  { ch with meas := ch.meas.map fun buf =>
      { buf with rawVoltage := raw, voltageTimestampMs := timestampMs } }

def publishCurrent (ch : Channel) (raw : Int32) (timestampMs : UInt32) : Channel :=
  { ch with meas := ch.meas.map fun buf =>
      { buf with rawCurrent := raw, currentTimestampMs := timestampMs } }

/-- `ch->uptime_ref += dt_ms`, the first line of `vc_channel_run`. -/
def advance (ch : Channel) (dtMs : UInt32) : Channel := { ch with uptimeRef := ch.uptimeRef + dtMs }

def run (k : Kconfig) (ch : Channel) (dtMs : UInt32) (sysCfg : SystemConfig) : Channel :=
  let ch := sampleCurrent (sampleVoltage (advance ch dtMs))
  tickRecovery k (tickRamp ch dtMs) sysCfg dtMs

/-! ## Configuration -/

def setConfig (k : Kconfig) (ch : Channel) (cfg : ChannelConfig) : VcStatus × Channel :=
  let st := validateCapabilityConfig ch ch.config cfg
  if st ≠ .ok then (st, ch)
  else if cfg.configuredTargetVoltage > k.maxTargetVoltage ∨ cfg.configuredTargetVoltage < 0 then
    (.errInvalidValue, ch)
  else if cfg.currentLimitThreshold < 0 then (.errInvalidValue, ch)
  else if !isValidProtectionMode cfg.currentProtectionMode ∨
      !isValidProtectionOutputAction cfg.currentProtectionOutputAction then
    (.errInvalidValue, ch)
  else (.ok, refresh { ch with config := cfg })

/-- The switch of `vc_channel_set_field`: the configuration with the field written, or
the status the write is refused with. -/
def writeField (k : Kconfig) (ch : Channel) (field : ConfigField) (value : UInt16) :
    Except VcStatus ChannelConfig :=
  let cfg := ch.config
  match field with
  | .configuredTargetVoltage =>
    if !hasCap ch capRawOutputDrive then .error .errUnsupportedCapability
    else if value.toInt16 > k.maxTargetVoltage ∨ value.toInt16 < 0 then .error .errInvalidValue
    else .ok { cfg with configuredTargetVoltage := value.toInt16 }
  | .configuredOutputEnabled =>
    if hasCap ch capRawOutputDrive ∨ !hasCap ch capOutputEnable then
      .error .errUnsupportedCapability
    else .ok { cfg with configuredOutputEnabled := value ≠ 0 }
  | .rampUpStep =>
    if !hasCap ch capRawOutputDrive then .error .errUnsupportedCapability
    else .ok { cfg with rampUpStep := value }
  | .rampUpInterval =>
    if !hasCap ch capRawOutputDrive then .error .errUnsupportedCapability
    else .ok { cfg with rampUpInterval := value }
  | .rampDownStep =>
    if !hasCap ch capRawOutputDrive then .error .errUnsupportedCapability
    else .ok { cfg with rampDownStep := value }
  | .rampDownInterval =>
    if !hasCap ch capRawOutputDrive then .error .errUnsupportedCapability
    else .ok { cfg with rampDownInterval := value }
  | .recoveryPolicyMode => .ok { cfg with recoveryPolicyMode := .ofValue value }
  | .autoRetryDelay => .ok { cfg with autoRetryDelay := value }
  | .autoRetryMaxCount =>
    if value.toNat > k.maxRetryHistory then .error .errInvalidValue
    else .ok { cfg with autoRetryMaxCount := value }
  | .autoRetryWindow => .ok { cfg with autoRetryWindow := value }
  | .currentSafeBandPct => .ok { cfg with currentSafeBandPct := value }
  | .currentProtectionMode =>
    if !hasCap ch capCurrentMeasurement then .error .errUnsupportedCapability
    else if !isValidProtectionMode (.ofValue value) then .error .errInvalidValue
    else .ok { cfg with currentProtectionMode := .ofValue value }
  | .currentProtOutAction =>
    if !hasCap ch capCurrentMeasurement then .error .errUnsupportedCapability
    else if !isValidProtectionOutputAction (.ofValue value) then .error .errInvalidValue
    else .ok { cfg with currentProtectionOutputAction := .ofValue value }
  | .currentLimitThreshold =>
    if !hasCap ch capCurrentMeasurement then .error .errUnsupportedCapability
    else if value.toInt16 < 0 then .error .errInvalidValue
    else .ok { cfg with currentLimitThreshold := value.toInt16 }
  | .autoDerateStep =>
    if !hasCap ch capRawOutputDrive ∨ !hasCap ch capVoltageMeasurement then
      .error .errUnsupportedCapability
    else .ok { cfg with autoDerateStep := value }
  -- the system fields fall into the default branch
  | .operatingMode | .startupChannelPolicy => .error .errInvalidValue

def setField (k : Kconfig) (ch : Channel) (field : ConfigField) (value : UInt16) :
    VcStatus × Channel :=
  match writeField k ch field value with
  | .error st => (st, ch)
  | .ok cfg => (.ok, refresh { ch with config := cfg })

/-! ## Commands -/

/-- Without a DAC every host disable is a forced one. -/
def hostAction (ch : Channel) (action : OutputAction) : OutputAction :=
  if !hasCap ch capRawOutputDrive ∧ (action = .disableGraceful ∨ action = .disableImmediate) then
    .disableForce
  else action

def startRamp (ch : Channel) : Channel :=
  { ch with
    outputEnabled := true
    ramping := true
    rampToDisable := false
    smf := .ramping }

def outputAction (ch : Channel) (action : OutputAction) : VcStatus × Channel :=
  if !isValidHostOutputAction action then (.errInvalidCommand, ch)
  else if !hasCap ch capOutputEnable ∧ (hostAction ch action = .disableGraceful ∨
      hostAction ch action = .disableImmediate ∨ hostAction ch action = .disableForce) then
    (.errUnsupportedCapability, ch)
  else match hostAction ch action with
    | .enable =>
      if ch.activeFaultCause ≠ 0 then (.errUnsafeState, ch)
      else (.ok, refresh (startRamp ch))
    | .disableGraceful =>
      (.ok, refresh { startGracefulRamp ch with cooldownRemainingMs := 0 })
    | .disableImmediate => (.ok, refresh (clearDrive ch .disabledHvOn))
    | .disableForce => (.ok, refresh (clearDrive ch .disabledSafe))
    | _ => (.ok, ch)

def faultCommand (ch : Channel) (cmd : ChannelFaultCommand) : VcStatus × Channel :=
  if !isValidChannelFaultCommand cmd then (.errInvalidCommand, ch)
  else match cmd with
    | .clearActive =>
      if ch.activeFaultCause = 0 then (.ok, updateStatusBits ch)
      else if !isSafeToClearActive ch then (.errUnsafeState, ch)
      else (.ok, updateStatusBits { ch with activeFaultCause := 0, smf := .disabledSafe })
    | .clearHistory => (.ok, updateStatusBits { ch with faultHistoryCause := 0 })
    | _ => (.ok, updateStatusBits ch)

/-! ## Calibration session -/

def resetCalibration (ch : Channel) (entering : Bool) : Channel :=
  refresh { ch with
    outputEnabled := false
    ramping := false
    rampAccumMs := 0
    cooldownRemainingMs := 0
    operationalTargetVoltage := 0
    measuredVoltage := 0
    measuredCurrent := 0
    rawDacReadback := 0
    calOutputEnabled := 0
    rawAdcVoltage := 0
    rawAdcCurrent := 0
    smf := if entering then .calibrationOutput else .disabledSafe }

def calSetOutputEnable (ch : Channel) (enable : Bool) : VcStatus × Channel :=
  if !hasCap ch capRawOutputDrive then (.errUnsupportedCapability, ch)
  else if enable then
    if hasHardSafetyFault ch then (.errUnsafeState, ch)
    else (.ok, applyHw { ch with calOutputEnabled := 1 })
  else
    (.ok, applyHw { ch with
      calOutputEnabled := 0
      rawDacReadback := 0
      rawAdcVoltage := 0
      rawAdcCurrent := 0 })

def calSetRawDac (k : Kconfig) (ch : Channel) (code : UInt32) : VcStatus × Channel :=
  if !hasCap ch capRawOutputDrive then (.errUnsupportedCapability, ch)
  else if code > k.calMaxRawDac then (.errInvalidValue, ch)
  else if code ≠ 0 ∧ hasHardSafetyFault ch then (.errUnsafeState, ch)
  else if code ≠ 0 ∧ ch.calOutputEnabled = 0 then (.errUnsafeState, ch)
  else (.ok, applyHw { ch with rawDacReadback := code.toUInt16 })

def calSample (ch : Channel) : VcStatus × Channel :=
  let hasVoltage := hasCap ch capVoltageMeasurement
  let hasCurrent := hasCap ch capCurrentMeasurement
  if !hasVoltage ∧ !hasCurrent then (.errUnsupportedCapability, ch)
  else
    let rawVoltage := match ch.meas with | some buf => buf.rawVoltage | none => 0
    let rawCurrent := match ch.meas with | some buf => buf.rawCurrent | none => 0
    (.ok, { ch with
      rawAdcVoltage := if hasVoltage then rawVoltage else ch.rawAdcVoltage
      rawAdcCurrent := if hasCurrent then rawCurrent else ch.rawAdcCurrent })

def calCommit (ch : Channel) : VcStatus :=
  if ch.calOutputEnabled ≠ 0 ∨ ch.rawDacReadback ≠ 0 ∨ hasHardSafetyFault ch then .errUnsafeState
  else .ok

def calKExpInRange (exp : Int16) : Bool := -9 ≤ exp ∧ exp ≤ 4

/-- The switch of `vc_channel_set_cal_field`. -/
def writeCalField (cal : ChannelCalConfig) (field : CalField) (value : UInt16) :
    Except VcStatus ChannelCalConfig :=
  match field with
  | .outputK => .ok { cal with outputCalibK := value }
  | .outputB => .ok { cal with outputCalibB := value.toInt16 }
  | .outputKExp =>
    if !calKExpInRange value.toInt16 then .error .errInvalidValue
    else .ok { cal with outputCalibKExp := value.toInt16 }
  | .measuredVK => .ok { cal with measuredVoltageCalibK := value }
  | .measuredVB => .ok { cal with measuredVoltageCalibB := value.toInt16 }
  | .measuredVKExp =>
    if !calKExpInRange value.toInt16 then .error .errInvalidValue
    else .ok { cal with measuredVoltageCalibKExp := value.toInt16 }
  | .measuredIK => .ok { cal with measuredCurrentCalibK := value }
  | .measuredIB => .ok { cal with measuredCurrentCalibB := value.toInt16 }
  | .measuredIKExp =>
    if !calKExpInRange value.toInt16 then .error .errInvalidValue
    else .ok { cal with measuredCurrentCalibKExp := value.toInt16 }

def setCalField (ch : Channel) (field : CalField) (value : UInt16) : VcStatus × Channel :=
  match writeCalField ch.calConfig field value with
  | .error st => (st, ch)
  | .ok cal => (.ok, applyHw { ch with calConfig := cal })

def loadCal (ch : Channel) (cal : ChannelCalConfig) : Channel :=
  applyHw { ch with calConfig := cal }

/-! ## Initial state -/

/-- The devicetree properties that `lvb_get_dt_defaults` reads. -/
structure LvbConfig where
  calibCurrentB : Int16
  defaultOutputDisabled : Bool
  deriving DecidableEq, Repr

def lvbGetDtDefaults (dt : LvbConfig) (cfg : ChannelConfig) (cal : ChannelCalConfig) :
    ChannelConfig × ChannelCalConfig :=
  (if dt.defaultOutputDisabled then { cfg with configuredOutputEnabled := false } else cfg,
    { cal with measuredCurrentCalibB := dt.calibCurrentB })

/-- What the devicetree gives for a channel: its capabilities, its driver (`dev`, NULL when
absent), whether it has a measurement buffer, and the defaults of the one driver that has
a `get_dt_defaults`. -/
structure Node where
  capabilities : UInt16
  dev : Option ChannelApi
  hasMeas : Bool
  dtDefaults : Option LvbConfig

/-- `vc_channel_init`, with a driver that was left at `(0, false)`. -/
def init (k : Kconfig) (node : Node) : Channel :=
  let defaults := (defaultConfig k, defaultCalConfig k)
  let cfg := match node.dev, node.dtDefaults with
    | some _, some dt => lvbGetDtDefaults dt defaults.1 defaults.2
    | _, _ => defaults
  { smf := .disabledSafe
    dev := node.dev
    hw := .off
    dacCode := 0
    meas := if node.hasMeas then some ⟨0, 0, 0, 0⟩ else none
    capabilities := node.capabilities
    config := cfg.1
    calConfig := cfg.2
    outputEnabled := false
    ramping := false
    rampToDisable := false
    gracefulRampDest := 0
    rampAccumMs := 0
    cooldownRemainingMs := 0
    recovering := false
    recoveryTarget := 0
    retryTimestampsMs := []
    operationalTargetVoltage := 0
    measuredVoltage := 0
    measuredCurrent := 0
    activeFaultCause := 0
    faultHistoryCause := 0
    statusBits := 0
    lastFaultTimestamp := 0
    lastProtectionOutputAction := .none
    rawDacReadback := 0
    calOutputEnabled := 0
    rawAdcVoltage := 0
    rawAdcCurrent := 0
    uptimeRef := 0
    lastConsumedVoltageTs := 0
    lastConsumedCurrentTs := 0 }

/-- A `get_dt_defaults` hook: it may touch any field of the two records of defaults. -/
abbrev DtDefaults := ChannelConfig → ChannelCalConfig → ChannelConfig × ChannelCalConfig

/-- `vc_channel_init` with any hook in the driver, if there is a driver. -/
def initFrom (k : Kconfig) (node : Node) (getDtDefaults : DtDefaults) : Channel :=
  let defaults :=
    if node.dev.isSome then getDtDefaults (defaultConfig k) (defaultCalConfig k)
    else (defaultConfig k, defaultCalConfig k)
  { init k node with config := defaults.1, calConfig := defaults.2 }

/-- The hook that the driver of a node has; a driver without one leaves every default. -/
def Node.getDtDefaults (node : Node) : DtDefaults :=
  match node.dtDefaults with
  | some dt => lvbGetDtDefaults dt
  | none => Prod.mk

theorem init_eq_initFrom (k : Kconfig) (node : Node) :
    init k node = initFrom k node node.getDtDefaults := by
  unfold initFrom Node.getDtDefaults init
  cases node.dev with
  | none => rfl
  | some api => cases node.dtDefaults <;> rfl

end VcChannel
