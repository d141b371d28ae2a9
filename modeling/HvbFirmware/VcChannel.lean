import HvbFirmware.VcTypes

/-!
# One output channel

The functions of `lib/voltage_control/vc_channel.c`, each on an explicit channel
record instead of a pointer. A channel carries, beside the fields of
`struct vc_channel`, what its hardware was last told: `hw` is the last
`(code, enable)` pair `apply_hw` wrote through the driver hooks, and `dacCode`
the last code the driver took. The zephyr state machine has no entry, run or
exit action, so `smf_set_state` is an assignment.
-/
namespace VcChannel

open VcTypes

/-- `enum vc_channel_smf_state`. -/
inductive SmfState where
  | disabledSafe | disabledHvOn | enabledHolding | ramping
  | faultLatched | retryCooldown | calibrationOutput
  deriving DecidableEq, Repr

/-- `struct vc_channel`. `dev` and `meas` are the pointers to the driver and to the sample buffer.
-/
structure Channel where
  smf : SmfState
  dev : Option ChannelApi
  hw : HwCommand
  dacCode : UInt16
  meas : Option ChannelBuffer
  capabilities : UInt16
  config : ChannelConfig
  calConfig : ChannelCalConfig
  outputEnabled : Bool
  ramping : Bool
  rampToDisable : Bool
  gracefulRampDest : Int16
  rampAccumMs : UInt32
  cooldownRemainingMs : UInt32
  recovering : Bool
  recoveryTarget : Int16
  -- the first `retry_timestamp_count` entries of the C array
  retryTimestampsMs : List UInt32
  operationalTargetVoltage : Int16
  measuredVoltage : Int16
  measuredCurrent : Int16
  activeFaultCause : UInt16
  faultHistoryCause : UInt16
  statusBits : UInt16
  lastFaultTimestamp : UInt32
  lastProtectionOutputAction : OutputAction
  rawDacReadback : UInt16
  calOutputEnabled : UInt16
  rawAdcVoltage : Int32
  rawAdcCurrent : Int32
  uptimeRef : UInt32
  lastConsumedVoltageTs : UInt32
  lastConsumedCurrentTs : UInt32

/-- What a channel is configured to without a stored record, and after a factory reset. -/
def defaultConfig (k : Kconfig) : ChannelConfig where
  configuredTargetVoltage := 0
  configuredOutputEnabled := k.defaultOutputEnabled
  rampUpStep := k.defaultRampStep
  rampUpInterval := 1
  rampDownStep := k.defaultRampStep
  rampDownInterval := 1
  recoveryPolicyMode := .manualLatch
  autoRetryDelay := 0
  autoRetryMaxCount := 0
  autoRetryWindow := 0
  currentSafeBandPct := k.defaultCurrentSafeBandPct
  currentProtectionMode := .disabled
  currentProtectionOutputAction := .disableImmediate
  currentLimitThreshold := k.defaultCurrentLimit
  autoDerateStep := 0

def defaultCalConfig (k : Kconfig) : ChannelCalConfig where
  outputCalibK := k.defaultOutputCalK
  outputCalibB := 0
  measuredVoltageCalibK := k.defaultMeasuredVCalK
  measuredVoltageCalibB := 0
  measuredCurrentCalibK := k.defaultMeasuredICalK
  measuredCurrentCalibB := 0
  outputCalibKExp := k.defaultOutputCalKExp
  measuredVoltageCalibKExp := k.defaultMeasuredVCalKExp
  measuredCurrentCalibKExp := k.defaultMeasuredICalKExp

/-! ## Gain arithmetic -/

def pow10Table : List Int :=
  [1, 10, 100, 1000, 10000, 100000, 1000000, 10000000, 100000000, 1000000000]

/-- `vc_pow10_table[n]`; the C read is undefined past the end, here it is zero. -/
def pow10 (n : Nat) : Int := pow10Table.getD n 0

/-- Mantissa times a power of ten, in `int64_t`; C division truncates towards zero. -/
def applyGain (raw : Int) (mantissa : UInt16) (exp : Int16) : Int :=
  let scaled := raw * mantissa.toNat
  if 0 < exp then scaled * pow10 exp.toInt.toNat
  else if exp < 0 then scaled.tdiv (pow10 (-exp.toInt).toNat)
  else scaled

def clampInt16 (value : Int) : Int16 :=
  if value > 32767 then 32767
  else if value < -32768 then -32768
  else Int16.ofInt value

/-- The DAC code for a target voltage, clamped to 16 bits. -/
def rawDriveFromTarget (ch : Channel) (target : Int16) : UInt16 :=
  let raw := applyGain target.toInt ch.calConfig.outputCalibK ch.calConfig.outputCalibKExp +
    ch.calConfig.outputCalibB.toInt
  if raw ≤ 0 then 0
  else if raw > 65535 then 65535
  else UInt16.ofNat raw.toNat

/-! ## Hardware command and status bits -/

def setSmfState (ch : Channel) (smf : SmfState) : Channel := { ch with smf := smf }

/-- Every bit of `cap` is set. -/
def hasCap (ch : Channel) (cap : UInt16) : Bool := ch.capabilities &&& cap == cap

def hasHardSafetyFault (ch : Channel) : Bool :=
  ch.activeFaultCause &&& (faultHardware ||| faultInterlock) != 0

/-- The pair the body of `apply_hw` computes from the channel state. -/
def hwCommand (ch : Channel) : HwCommand :=
  if ch.calOutputEnabled ≠ 0 then ⟨ch.rawDacReadback, true⟩
  else if ch.outputEnabled then ⟨rawDriveFromTarget ch ch.operationalTargetVoltage, true⟩
  else if ch.smf = .disabledHvOn then ⟨0, true⟩
  else ⟨0, false⟩

/-- Writes the pair through the hooks that the driver has. A code that the driver refuses leaves the
last one on the DAC: `apply_hw` ignores the answer. -/
def applyHw (ch : Channel) : Channel :=
  match ch.dev with
  | none => ch
  | some api =>
    let cmd := hwCommand ch
    { ch with
      hw := ⟨if api.setOutput.isSome then cmd.code else ch.hw.code,
        if api.setEnable then cmd.enable else ch.hw.enable⟩
      dacCode := match api.setOutput with
        | some takes => if takes cmd.code then cmd.code else ch.dacCode
        | none => ch.dacCode }

/-- The word of `update_status_bits`. Ramping and the faults are taken from the state, and the
output from its flag. -/
def statusBitsOf (ch : Channel) : UInt16 :=
  (if ch.smf = .enabledHolding ∨ ch.smf = .ramping then 0x0001
    else if ch.operationalTargetVoltage ≠ 0 ∨ ch.measuredVoltage ≠ 0 then 0x0001 else 0) |||
  (if ch.outputEnabled then 0x0002 else 0) |||
  (if ch.smf = .ramping then 0x0004 else 0) |||
  (if ch.smf = .faultLatched ∨ ch.smf = .retryCooldown then 0x0008 else 0) |||
  (if ch.faultHistoryCause ≠ 0 then 0x0010 else 0) |||
  (if ch.smf = .retryCooldown then 0x0020 else 0)

def updateStatusBits (ch : Channel) : Channel := { ch with statusBits := statusBitsOf ch }

/-! ## Configuration checks -/

def isValidHostOutputAction : OutputAction → Bool
  | .none | .enable | .disableGraceful | .disableImmediate | .disableForce => true
  | .other _ => false

def isValidChannelFaultCommand : ChannelFaultCommand → Bool
  | .none | .clearActive | .clearHistory => true
  | .other _ => false

def isValidProtectionMode : ProtectionMode → Bool
  | .disabled | .flagOnly | .applyOutputAction => true
  | .other _ => false

/-- A protection may do everything that a host may, but not switch on. -/
def isValidProtectionOutputAction : OutputAction → Bool
  | .none | .disableGraceful | .disableImmediate | .disableForce => true
  | .enable | .other _ => false

/-- The fields that the capabilities do not back have to stay as they are, a target at zero and a
protection disabled. A channel with a DAC keeps the switch of the fixed-voltage channels. -/
def validateCapabilityConfig (ch : Channel) (oldCfg newCfg : ChannelConfig) : VcStatus :=
  if (if !hasCap ch capRawOutputDrive then
        newCfg.configuredTargetVoltage ≠ 0 ∨ newCfg.rampUpStep ≠ oldCfg.rampUpStep ∨
        newCfg.rampUpInterval ≠ oldCfg.rampUpInterval ∨
        newCfg.rampDownStep ≠ oldCfg.rampDownStep ∨
        newCfg.rampDownInterval ≠ oldCfg.rampDownInterval
      else newCfg.configuredOutputEnabled ≠ oldCfg.configuredOutputEnabled) then
    .errUnsupportedCapability
  else if !hasCap ch capOutputEnable ∧
      newCfg.configuredOutputEnabled ≠ oldCfg.configuredOutputEnabled then
    .errUnsupportedCapability
  else if !hasCap ch capCurrentMeasurement ∧
      (newCfg.currentProtectionMode ≠ .disabled ∨
        newCfg.currentProtectionOutputAction ≠ oldCfg.currentProtectionOutputAction ∨
        newCfg.currentLimitThreshold ≠ oldCfg.currentLimitThreshold) then
    .errUnsupportedCapability
  else if (!hasCap ch capRawOutputDrive ∨ !hasCap ch capVoltageMeasurement) ∧
      newCfg.autoDerateStep ≠ oldCfg.autoDerateStep then
    .errUnsupportedCapability
  else .ok

/-! ## Protection and faults -/

/-- What DISABLE_IMMEDIATE and DISABLE_FORCE clear; they differ in the state they enter. -/
def clearDrive (ch : Channel) (smf : SmfState) : Channel :=
  { ch with
    outputEnabled := false
    ramping := false
    rampToDisable := false
    operationalTargetVoltage := 0
    smf := smf }

def startGracefulRamp (ch : Channel) : Channel :=
  { ch with
    gracefulRampDest := 0
    rampToDisable := true
    outputEnabled := true
    ramping := true
    smf := .ramping }

/-- Without a DAC the protection can only switch off outright. -/
def protectionAction (ch : Channel) (action : OutputAction) : OutputAction :=
  if !hasCap ch capRawOutputDrive then .disableForce else action

def noteProtection (ch : Channel) (action : OutputAction) : Channel :=
  { ch with lastProtectionOutputAction := action }

def applyProtectionAction (ch : Channel) (action : OutputAction) : Channel :=
  let noted := noteProtection ch action
  applyHw <| match protectionAction ch action with
    | .disableGraceful => startGracefulRamp noted
    | .disableImmediate => clearDrive noted .disabledHvOn
    | .disableForce => clearDrive noted .disabledSafe
    | _ => noted

def recordCurrentFault (ch : Channel) : Channel :=
  { ch with faultHistoryCause := ch.faultHistoryCause ||| faultCurrent }

/-- The part of `tick_current_protection` that latches the fault. -/
def latchCurrentFault (ch : Channel) : Channel :=
  { ch with
    activeFaultCause := ch.activeFaultCause ||| faultCurrent
    lastFaultTimestamp := ch.uptimeRef }

/-- The history is noted in every mode but DISABLED, and the fault is latched only where an action
follows. A channel that ramps is not watched. -/
def tickCurrentProtection (ch : Channel) : Channel :=
  if ch.activeFaultCause ≠ 0 then ch
  else if ch.ramping then ch
  else if ch.config.currentProtectionMode = .disabled then ch
  else if ch.measuredCurrent ≤ ch.config.currentLimitThreshold then ch
  else
    let ch := recordCurrentFault ch
    if ch.config.currentProtectionMode ≠ .applyOutputAction then ch
    else
      setSmfState (applyProtectionAction (latchCurrentFault ch)
        ch.config.currentProtectionOutputAction) .faultLatched

/-- What a hardware or interlock fault does to the outputs, whatever the channel was doing. -/
def forceSafeState (ch : Channel) : Channel :=
  applyHw { ch with
    outputEnabled := false
    ramping := false
    recovering := false
    cooldownRemainingMs := 0
    calOutputEnabled := 0
    rawDacReadback := 0
    operationalTargetVoltage := 0
    smf := .disabledSafe }

/-- The limit less the safe band. -/
def safeLimit (cfg : ChannelConfig) : Int :=
  (cfg.currentLimitThreshold.toInt * (100 - cfg.currentSafeBandPct.toNat)).tdiv 100

def isSafeToClearActive (ch : Channel) : Bool :=
  !(ch.activeFaultCause &&& faultCurrent != 0 ∧ ch.measuredCurrent.toInt > safeLimit ch.config)

def currentFaultOnly (ch : Channel) : Bool := ch.activeFaultCause == faultCurrent

/-- The retries that lie in the window, in the wrapping arithmetic of the millisecond clock. -/
def countActiveRetries (ch : Channel) : Nat :=
  let windowMs := ch.config.autoRetryWindow.toUInt32 * 1000
  (ch.retryTimestampsMs.filter fun t => ch.uptimeRef - t ≤ windowMs).length

/-- The oldest entry makes room when the array is full. -/
def recordRetryAttempt (k : Kconfig) (ch : Channel) : Channel :=
  if ch.retryTimestampsMs.length < k.maxRetryHistory then
    { ch with retryTimestampsMs := ch.retryTimestampsMs ++ [ch.uptimeRef] }
  else
    { ch with retryTimestampsMs := ch.retryTimestampsMs.tail ++ [ch.uptimeRef] }

/-! ## Automatic recovery -/

/-- The first tick of a retry loads the delay and enters RETRY_COOLDOWN. -/
def enterCooldown (ch : Channel) : Channel :=
  if ch.smf ≠ .retryCooldown then
    updateStatusBits { ch with
      cooldownRemainingMs := ch.config.autoRetryDelay.toUInt32 * 1000
      smf := .retryCooldown }
  else ch

def retriesExhausted (ch : Channel) : Channel :=
  updateStatusBits { ch with
    activeFaultCause := ch.activeFaultCause ||| faultRetryExhaust
    smf := .faultLatched }

/-- The target of the next retry, derated by one step for each retry already counted. -/
def retryTarget (ch : Channel) : Int :=
  if ch.config.recoveryPolicyMode = .autoDerateRetry then
    ch.config.configuredTargetVoltage.toInt -
      (countActiveRetries ch + 1) * ch.config.autoDerateStep.toNat
  else ch.config.configuredTargetVoltage.toInt

/-- The fault is cleared and the output is on again; the ramp follows with the next ramp ticks. -/
def startRecovery (ch : Channel) (target : Int16) : Channel :=
  updateStatusBits <| applyHw { ch with
    activeFaultCause := 0
    recovering := true
    recoveryTarget := target
    outputEnabled := true }

/-- The end of `tick_recovery`, from the retry count on. -/
def attemptRetry (k : Kconfig) (ch : Channel) : Channel :=
  if countActiveRetries ch ≥ ch.config.autoRetryMaxCount.toNat then retriesExhausted ch
  else if ch.config.recoveryPolicyMode = .autoDerateRetry ∧ retryTarget ch ≤ 0 then
    retriesExhausted ch
  else startRecovery (recordRetryAttempt k ch) (Int16.ofInt (retryTarget ch))

def isRetryPolicy : RecoveryPolicyMode → Bool
  | .autoRetry | .autoDerateRetry => true
  | _ => false

def tickRecovery (k : Kconfig) (ch : Channel) (sysCfg : SystemConfig) (dtMs : UInt32) : Channel :=
  if sysCfg.operatingMode ≠ .automatic then ch
  else if !currentFaultOnly ch then ch
  else if !isRetryPolicy ch.config.recoveryPolicyMode then ch
  else if ch.ramping then ch
  else
    let ch := enterCooldown ch
    if ch.cooldownRemainingMs > dtMs then
      { ch with cooldownRemainingMs := ch.cooldownRemainingMs - dtMs }
    else
      let ch := { ch with cooldownRemainingMs := 0 }
      if !isSafeToClearActive ch then ch else attemptRetry k ch

end VcChannel
