/-!
# Data model of the voltage-control library

The enumerations, records and build constants of `vc_types.h`, `vc_channel_api.h`,
`capabilities.h` and `Kconfig`. Register writes are cast to C enumerations
without a check, so every enumeration that a host value can reach keeps the
values it has no name for. Fixed-width C integers are Lean's own.
-/
namespace VcTypes

/-- `enum vc_status`: what a request of the host is answered with. -/
inductive VcStatus where
  | ok | errUnsupportedChannel | errInvalidValue | errInvalidCommand
  | errUnsafeState | errStorage | errUnsupportedCapability
  deriving DecidableEq, Repr

inductive OperatingMode where
  | normal | automatic | calibration
  | other (value : UInt16)
  deriving DecidableEq, Repr

/-- `enum vc_output_action`, for the action register and for the action of the protection. -/
inductive OutputAction where
  | none | enable | disableGraceful | disableImmediate | disableForce
  | other (value : UInt16)
  deriving DecidableEq, Repr

inductive ChannelFaultCommand where
  | none | clearActive | clearHistory
  | other (value : UInt16)
  deriving DecidableEq, Repr

inductive ProtectionMode where
  | disabled | flagOnly | applyOutputAction
  | other (value : UInt16)
  deriving DecidableEq, Repr

inductive RecoveryPolicyMode where
  | manualLatch | autoRetry | autoDerateRetry | neverRetry
  | other (value : UInt16)
  deriving DecidableEq, Repr

/-- `enum vc_param_action`. The software reset is no member: the register layer takes it out before.
-/
inductive ParamAction where
  | none | save | load | factoryReset
  | other (value : UInt16)
  deriving DecidableEq, Repr

/-- The cast of a register value to `enum vc_operating_mode`, and so for the others. -/
def OperatingMode.ofValue (value : UInt16) : OperatingMode :=
  if value = 0 then .normal else if value = 1 then .automatic
  else if value = 2 then .calibration else .other value

def OutputAction.ofValue (value : UInt16) : OutputAction :=
  if value = 0 then .none else if value = 1 then .enable
  else if value = 2 then .disableGraceful else if value = 3 then .disableImmediate
  else if value = 4 then .disableForce else .other value

def ProtectionMode.ofValue (value : UInt16) : ProtectionMode :=
  if value = 0 then .disabled else if value = 1 then .flagOnly
  else if value = 2 then .applyOutputAction else .other value

def RecoveryPolicyMode.ofValue (value : UInt16) : RecoveryPolicyMode :=
  if value = 0 then .manualLatch else if value = 1 then .autoRetry
  else if value = 2 then .autoDerateRetry else if value = 3 then .neverRetry
  else .other value

def ChannelFaultCommand.ofValue (value : UInt16) : ChannelFaultCommand :=
  if value = 0 then .none else if value = 1 then .clearActive
  else if value = 2 then .clearHistory else .other value

def ParamAction.ofValue (value : UInt16) : ParamAction :=
  if value = 0 then .none else if value = 1 then .save
  else if value = 2 then .load else if value = 3 then .factoryReset else .other value

/-! The casts back, for a register that shows an enumeration. -/

def OperatingMode.toValue : OperatingMode → UInt16
  | .normal => 0
  | .automatic => 1
  | .calibration => 2
  | .other value => value

def OutputAction.toValue : OutputAction → UInt16
  | .none => 0
  | .enable => 1
  | .disableGraceful => 2
  | .disableImmediate => 3
  | .disableForce => 4
  | .other value => value

def ProtectionMode.toValue : ProtectionMode → UInt16
  | .disabled => 0
  | .flagOnly => 1
  | .applyOutputAction => 2
  | .other value => value

def RecoveryPolicyMode.toValue : RecoveryPolicyMode → UInt16
  | .manualLatch => 0
  | .autoRetry => 1
  | .autoDerateRetry => 2
  | .neverRetry => 3
  | .other value => value

/-- An enumeration register shows the value that was written to it, named or not. -/
@[simp] theorem OutputAction.toValue_ofValue (value : UInt16) :
    (OutputAction.ofValue value).toValue = value := by
  unfold OutputAction.ofValue
  grind [OutputAction.toValue]

@[simp] theorem ProtectionMode.toValue_ofValue (value : UInt16) :
    (ProtectionMode.ofValue value).toValue = value := by
  unfold ProtectionMode.ofValue
  grind [ProtectionMode.toValue]

@[simp] theorem RecoveryPolicyMode.toValue_ofValue (value : UInt16) :
    (RecoveryPolicyMode.ofValue value).toValue = value := by
  unfold RecoveryPolicyMode.ofValue
  grind [RecoveryPolicyMode.toValue]

/-- The selector of a single write, over the fields of both configurations. -/
inductive ConfigField where
  | operatingMode | startupChannelPolicy
  | configuredTargetVoltage | configuredOutputEnabled
  | rampUpStep | rampUpInterval | rampDownStep | rampDownInterval
  | recoveryPolicyMode | autoRetryDelay | autoRetryMaxCount | autoRetryWindow
  | currentSafeBandPct | currentProtectionMode | currentProtOutAction
  | currentLimitThreshold | autoDerateStep
  deriving DecidableEq, Repr

/-- `enum vc_cal_field`. -/
inductive CalField where
  | outputK | outputB | measuredVK | measuredVB | measuredIK | measuredIB
  | outputKExp | measuredVKExp | measuredIKExp
  deriving DecidableEq, Repr

/-- The `VC_FAULT_` bits that the library tests or sets. -/
def faultCurrent : UInt16 := 0x0002
def faultHardware : UInt16 := 0x0008
def faultInterlock : UInt16 := 0x0010
def faultRetryExhaust : UInt16 := 0x0020

/-- The `CH_CAP_` bits of the devicetree node. -/
def capOutputEnable : UInt16 := 0x0001
def capRawOutputDrive : UInt16 := 0x0002
def capVoltageMeasurement : UInt16 := 0x0004
def capCurrentMeasurement : UInt16 := 0x0008

/-- The two words that unlock the calibration, in this order. -/
def calUnlockStep1 : UInt16 := 0xCA1B
def calUnlockStep2 : UInt16 := 0xA11B

/-- `-ENOENT`, the one storage error that is not a failure. -/
def errNoEnt : Int := -2

/-- `struct vc_system_config`. -/
structure SystemConfig where
  operatingMode : OperatingMode
  startupChannelPolicy : UInt16
  deriving DecidableEq, Repr

/-- `struct vc_channel_config`, a member for each operational register of a channel. -/
structure ChannelConfig where
  configuredTargetVoltage : Int16
  configuredOutputEnabled : Bool
  rampUpStep : UInt16
  rampUpInterval : UInt16
  rampDownStep : UInt16
  rampDownInterval : UInt16
  recoveryPolicyMode : RecoveryPolicyMode
  autoRetryDelay : UInt16
  autoRetryMaxCount : UInt16
  autoRetryWindow : UInt16
  currentSafeBandPct : UInt16
  currentProtectionMode : ProtectionMode
  currentProtectionOutputAction : OutputAction
  currentLimitThreshold : Int16
  autoDerateStep : UInt16
  deriving DecidableEq, Repr

/-- `struct vc_channel_cal_config`. A gain is its mantissa times ten to its exponent. -/
structure ChannelCalConfig where
  outputCalibK : UInt16
  outputCalibB : Int16
  measuredVoltageCalibK : UInt16
  measuredVoltageCalibB : Int16
  measuredCurrentCalibK : UInt16
  measuredCurrentCalibB : Int16
  outputCalibKExp : Int16
  measuredVoltageCalibKExp : Int16
  measuredCurrentCalibKExp : Int16
  deriving DecidableEq, Repr

/-- `struct vc_channel_buffer`: the last raw samples the driver published. -/
structure ChannelBuffer where
  rawVoltage : Int32
  voltageTimestampMs : UInt32
  rawCurrent : Int32
  currentTimestampMs : UInt32
  deriving DecidableEq, Repr

/-- The hooks of `struct vc_channel_api` that `apply_hw` calls. An absent hook is a
NULL pointer; a present `setOutput` says which codes the driver takes. -/
structure ChannelApi where
  setOutput : Option (UInt16 → Bool)
  setEnable : Bool

/-- The pair that `apply_hw` writes: the DAC code and the output-stage enable. -/
structure HwCommand where
  code : UInt16
  enable : Bool
  deriving DecidableEq, Repr

/-- The commanded state of a de-energised channel. -/
def HwCommand.off : HwCommand := ⟨0, false⟩

theorem HwCommand.eq_off {cmd : HwCommand} (hcode : cmd.code = 0) (henable : cmd.enable = false) :
    cmd = .off := by
  cases cmd
  subst hcode henable
  rfl

/-- The build constants, each with the range its `Kconfig` entry allows. -/
structure Kconfig where
  defaultOperatingMode : OperatingMode
  calMaxRawDac : UInt32
  defaultOutputCalK : UInt16
  defaultOutputCalKExp : Int16
  defaultMeasuredVCalK : UInt16
  defaultMeasuredVCalKExp : Int16
  defaultMeasuredICalK : UInt16
  defaultMeasuredICalKExp : Int16
  maxTargetVoltage : Int16
  defaultCurrentLimit : Int16
  defaultRampStep : UInt16
  defaultOutputEnabled : Bool
  defaultCurrentSafeBandPct : UInt16
  maxRetryHistory : Nat
  calWatchdogTimeoutS : UInt32
  operatingMode_range : defaultOperatingMode = .normal ∨ defaultOperatingMode = .automatic ∨
    defaultOperatingMode = .calibration
  calMaxRawDac_range : 1 ≤ calMaxRawDac ∧ calMaxRawDac ≤ 65535
  outputCalK_range : 1 ≤ defaultOutputCalK
  outputCalKExp_range : -9 ≤ defaultOutputCalKExp ∧ defaultOutputCalKExp ≤ 4
  measuredVCalK_range : 1 ≤ defaultMeasuredVCalK
  measuredVCalKExp_range : -9 ≤ defaultMeasuredVCalKExp ∧ defaultMeasuredVCalKExp ≤ 4
  measuredICalK_range : 1 ≤ defaultMeasuredICalK
  measuredICalKExp_range : -9 ≤ defaultMeasuredICalKExp ∧ defaultMeasuredICalKExp ≤ 4
  maxTargetVoltage_range : 1 ≤ maxTargetVoltage
  currentLimit_range : 1 ≤ defaultCurrentLimit
  rampStep_range : 1 ≤ defaultRampStep
  currentSafeBandPct_range : defaultCurrentSafeBandPct ≤ 100
  maxRetryHistory_range : 1 ≤ maxRetryHistory ∧ maxRetryHistory ≤ 32
  calWatchdogTimeoutS_range : 1 ≤ calWatchdogTimeoutS ∧ calWatchdogTimeoutS ≤ 3600

/-- The defaults of `lib/voltage_control/Kconfig`, as a board without overrides builds them. -/
def Kconfig.hvb : Kconfig where
  defaultOperatingMode := .normal
  calMaxRawDac := 65535
  defaultOutputCalK := 32768
  defaultOutputCalKExp := -4
  defaultMeasuredVCalK := 1
  defaultMeasuredVCalKExp := -6
  defaultMeasuredICalK := 1
  defaultMeasuredICalKExp := -6
  maxTargetVoltage := 20000
  defaultCurrentLimit := 10000
  defaultRampStep := 150
  defaultOutputEnabled := false
  defaultCurrentSafeBandPct := 10
  maxRetryHistory := 8
  calWatchdogTimeoutS := 300
  operatingMode_range := by decide
  calMaxRawDac_range := by decide
  outputCalK_range := by decide
  outputCalKExp_range := by decide
  measuredVCalK_range := by decide
  measuredVCalKExp_range := by decide
  measuredICalK_range := by decide
  measuredICalKExp_range := by decide
  maxTargetVoltage_range := by decide
  currentLimit_range := by decide
  rampStep_range := by decide
  currentSafeBandPct_range := by decide
  maxRetryHistory_range := by decide
  calWatchdogTimeoutS_range := by decide

end VcTypes
