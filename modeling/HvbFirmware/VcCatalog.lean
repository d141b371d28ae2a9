import HvbFirmware.ModbusRegister
import HvbFirmware.VcControllerRuns

/-!
# The voltage-control registers

`vc_catalog_read` and `vc_catalog_write` of `vc_runtime.c`: what the controller answers as the owner
of its registers. A write becomes a command that the worker carries out before the writer goes on,
so it is a call on the controller here.
-/
namespace VcCatalog

open VcTypes VcChannel VcController RegCatalog

variable {σ : Type}

/-- The constants that global registers are bound to. -/
structure VcBuild extends ModbusRegister.Build where
  variantId : UInt16
  currentUnitExp : Int16
  boardHwRevision : UInt16

def sysCapAutomaticMode : UInt16 := 0x0001
def sysCapEnvSensor : UInt16 := 0x0002
def sysCapCalibrationMode : UInt16 := 0x0004

def vcStatusToReg : VcStatus → RegStatus
  | .ok => .ok
  | .errInvalidValue | .errInvalidCommand | .errUnsafeState => .invalidValue
  | .errUnsupportedChannel | .errUnsupportedCapability => .unsupported
  | .errStorage => .ioError

/-- The capability gate of a channel register. -/
def vcCatalogSupported (reg : VcReg) (caps : UInt16) : Bool :=
  match reg with
  | .measuredVoltage | .rawAdcVoltage | .measuredVCalK | .measuredVCalB | .measuredVCalKExp =>
    caps &&& capVoltageMeasurement != 0
  | .measuredCurrent | .rawAdcCurrent | .measuredICalK | .measuredICalB | .measuredICalKExp
  | .currentProtectionMode | .currentProtOutAction | .currentLimitThreshold =>
    caps &&& capCurrentMeasurement != 0
  | .cfgTargetVoltage | .rampUpStep | .rampUpInterval | .rampDownStep | .rampDownInterval
  | .outputCalK | .outputCalB | .outputCalKExp | .calOutputEnable | .calDacCode =>
    caps &&& capRawOutputDrive != 0
  | .autoDerateStep =>
    caps &&& (capRawOutputDrive ||| capVoltageMeasurement) ==
      capRawOutputDrive ||| capVoltageMeasurement
  | .cfgOutputEnabled => caps &&& capRawOutputDrive == 0 && caps &&& capOutputEnable != 0
  | .calSampleCmd => caps &&& (capVoltageMeasurement ||| capCurrentMeasurement) != 0
  | .calCommitCmd =>
    caps &&& (capRawOutputDrive ||| capVoltageMeasurement ||| capCurrentMeasurement) != 0
  | _ => true

/-! ## Which register a descriptor is -/

def vcRegs : List VcReg :=
  [.statusBits, .activeFaultCause, .faultHistoryCause, .lastProtOutAction, .autoRetryCount,
    .autoCooldownRemaining, .lastFaultTimestamp, .operTargetVoltage, .capabilityFlags,
    .measuredVoltage, .measuredCurrent, .rawAdcVoltage, .rawAdcCurrent,
    .outputAction, .faultCmd, .paramAction, .cfgTargetVoltage, .cfgOutputEnabled,
    .rampUpStep, .rampUpInterval, .rampDownStep, .rampDownInterval, .recoveryPolicyMode,
    .autoRetryDelay, .autoRetryMaxCount, .autoRetryWindow, .currentSafeBandPct,
    .currentProtectionMode, .currentProtOutAction, .currentLimitThreshold, .autoDerateStep,
    .outputCalK, .outputCalB, .measuredVCalK, .measuredVCalB, .measuredICalK, .measuredICalB,
    .outputCalKExp, .measuredVCalKExp, .measuredICalKExp,
    .calOutputEnable, .calDacCode, .calSampleCmd, .calCommitCmd]

def globalRegs : List GlobalReg :=
  [.variantId, .capabilityFlags, .supportedChannels, .activeChannelMask, .activeOperatingMode,
    .status, .faultCause, .currentUnitExp, .boardHwRevision, .operatingMode,
    .startupChannelPolicy, .paramAction, .calUnlock, .calExit]

def isRow (desc : RegDescriptor) (row : RegRow) : Bool :=
  row.field = desc.id.field ∧ row.type = desc.type ∧ row.access = desc.access

def vcRegOf (desc : RegDescriptor) : Option VcReg := vcRegs.find? fun reg => isRow desc reg.row

def globalRegOf (desc : RegDescriptor) : Option GlobalReg :=
  globalRegs.find? fun reg => isRow desc reg.row

@[simp] theorem vcRegOf_descriptor (reg : VcReg) (moduleId instanceId : UInt8) :
    vcRegOf (reg.row.descriptor moduleId instanceId) = some reg := by
  cases reg <;> rfl

@[simp] theorem globalRegOf_descriptor (reg : GlobalReg) :
    globalRegOf reg.descriptor = some reg := by
  cases reg <;> rfl

/-! ## Reading -/

def u16 (value : UInt16) : UInt32 := value.toUInt32

/-- The low half of the zeroed union. -/
def s16 (value : Int16) : UInt32 := value.toUInt16.toUInt32

/-- The variable that a channel register is bound to, the macros `VC_VALUE_*`. -/
def boundValue (ch : Channel) : VcReg → Option UInt32
  | .statusBits => some (u16 ch.statusBits)
  | .activeFaultCause => some (u16 ch.activeFaultCause)
  | .faultHistoryCause => some (u16 ch.faultHistoryCause)
  | .lastFaultTimestamp => some ch.lastFaultTimestamp
  | .operTargetVoltage => some (s16 ch.operationalTargetVoltage)
  | .capabilityFlags => some (u16 ch.capabilities)
  | .measuredVoltage => some (s16 ch.measuredVoltage)
  | .measuredCurrent => some (s16 ch.measuredCurrent)
  | .cfgTargetVoltage => some (s16 ch.config.configuredTargetVoltage)
  | .rampUpStep => some (u16 ch.config.rampUpStep)
  | .rampUpInterval => some (u16 ch.config.rampUpInterval)
  | .rampDownStep => some (u16 ch.config.rampDownStep)
  | .rampDownInterval => some (u16 ch.config.rampDownInterval)
  | .autoRetryDelay => some (u16 ch.config.autoRetryDelay)
  | .autoRetryMaxCount => some (u16 ch.config.autoRetryMaxCount)
  | .autoRetryWindow => some (u16 ch.config.autoRetryWindow)
  | .currentSafeBandPct => some (u16 ch.config.currentSafeBandPct)
  | .currentLimitThreshold => some (s16 ch.config.currentLimitThreshold)
  | .autoDerateStep => some (u16 ch.config.autoDerateStep)
  | .outputCalK => some (u16 ch.calConfig.outputCalibK)
  | .outputCalB => some (s16 ch.calConfig.outputCalibB)
  | .measuredVCalK => some (u16 ch.calConfig.measuredVoltageCalibK)
  | .measuredVCalB => some (s16 ch.calConfig.measuredVoltageCalibB)
  | .measuredICalK => some (u16 ch.calConfig.measuredCurrentCalibK)
  | .measuredICalB => some (s16 ch.calConfig.measuredCurrentCalibB)
  | .outputCalKExp => some (s16 ch.calConfig.outputCalibKExp)
  | .measuredVCalKExp => some (s16 ch.calConfig.measuredVoltageCalibKExp)
  | .measuredICalKExp => some (s16 ch.calConfig.measuredCurrentCalibKExp)
  | .calOutputEnable => some (u16 ch.calOutputEnabled)
  | .calDacCode => some (u16 ch.rawDacReadback)
  | .lastProtOutAction | .autoRetryCount | .autoCooldownRemaining | .rawAdcVoltage
  | .rawAdcCurrent | .outputAction | .faultCmd | .paramAction | .cfgOutputEnabled
  | .recoveryPolicyMode | .currentProtectionMode | .currentProtOutAction | .calSampleCmd
  | .calCommitCmd => none

/-- The switch of `vc_catalog_read` over the channel registers; the default is `none`. -/
def switchValue (ch : Channel) : VcReg → Option UInt32
  | .statusBits => some (u16 ch.statusBits)
  | .activeFaultCause => some (u16 ch.activeFaultCause)
  | .faultHistoryCause => some (u16 ch.faultHistoryCause)
  | .lastProtOutAction => some (u16 ch.lastProtectionOutputAction.toValue)
  | .autoRetryCount => some 0
  | .autoCooldownRemaining => some (u16 (ch.cooldownRemainingMs / 1000).toUInt16)
  | .lastFaultTimestamp => some ch.lastFaultTimestamp
  | .operTargetVoltage => some (s16 ch.operationalTargetVoltage)
  | .capabilityFlags => some (u16 ch.capabilities)
  | .measuredVoltage => some (s16 ch.measuredVoltage)
  | .measuredCurrent => some (s16 ch.measuredCurrent)
  | .rawAdcVoltage => some ((ch.meas.map (·.rawVoltage)).getD ch.rawAdcVoltage).toUInt32
  | .rawAdcCurrent => some ((ch.meas.map (·.rawCurrent)).getD ch.rawAdcCurrent).toUInt32
  | .cfgTargetVoltage => some (s16 ch.config.configuredTargetVoltage)
  | .cfgOutputEnabled => some (if ch.config.configuredOutputEnabled then 1 else 0)
  | .rampUpStep => some (u16 ch.config.rampUpStep)
  | .rampUpInterval => some (u16 ch.config.rampUpInterval)
  | .rampDownStep => some (u16 ch.config.rampDownStep)
  | .rampDownInterval => some (u16 ch.config.rampDownInterval)
  | .recoveryPolicyMode => some (u16 ch.config.recoveryPolicyMode.toValue)
  | .autoRetryDelay => some (u16 ch.config.autoRetryDelay)
  | .autoRetryMaxCount => some (u16 ch.config.autoRetryMaxCount)
  | .autoRetryWindow => some (u16 ch.config.autoRetryWindow)
  | .currentSafeBandPct => some (u16 ch.config.currentSafeBandPct)
  | .currentProtectionMode => some (u16 ch.config.currentProtectionMode.toValue)
  | .currentProtOutAction => some (u16 ch.config.currentProtectionOutputAction.toValue)
  | .currentLimitThreshold => some (s16 ch.config.currentLimitThreshold)
  | .autoDerateStep => some (u16 ch.config.autoDerateStep)
  | .outputCalK => some (u16 ch.calConfig.outputCalibK)
  | .outputCalB => some (s16 ch.calConfig.outputCalibB)
  | .measuredVCalK => some (u16 ch.calConfig.measuredVoltageCalibK)
  | .measuredVCalB => some (s16 ch.calConfig.measuredVoltageCalibB)
  | .measuredICalK => some (u16 ch.calConfig.measuredCurrentCalibK)
  | .measuredICalB => some (s16 ch.calConfig.measuredCurrentCalibB)
  | .outputCalKExp => some (s16 ch.calConfig.outputCalibKExp)
  | .measuredVCalKExp => some (s16 ch.calConfig.measuredVoltageCalibKExp)
  | .measuredICalKExp => some (s16 ch.calConfig.measuredCurrentCalibKExp)
  | .calOutputEnable => some (u16 ch.calOutputEnabled)
  | .calDacCode => some (u16 ch.rawDacReadback)
  | .outputAction | .faultCmd | .paramAction | .calSampleCmd | .calCommitCmd => none

/-- A bound register is read through its pointer, any other by the switch. -/
def channelValue (ch : Channel) (reg : VcReg) : RegStatus × UInt32 :=
  match boundValue ch reg, switchValue ch reg with
  | some value, _ => (.ok, value)
  | none, some value => (.ok, value)
  | none, none => (.writeOnly, 0)

/-- The global registers, by `VC_GLOBAL_VALUE_*` or the switch. -/
def globalValue (vb : VcBuild) (ctrl : Controller σ) : GlobalReg → RegStatus × UInt32
  | .variantId => (.ok, u16 vb.variantId)
  | .capabilityFlags => (.ok, u16 (sysCapAutomaticMode ||| sysCapCalibrationMode |||
      if vb.hasSysStatus then sysCapEnvSensor else 0))
  | .supportedChannels => (.ok, u16 vb.maxChannels.toUInt16)
  | .activeChannelMask => (.ok, u16 (UInt16.ofNat ((1 <<< vb.maxChannels.toNat) - 1)))
  | .currentUnitExp => (.ok, s16 vb.currentUnitExp)
  | .boardHwRevision => (.ok, u16 vb.boardHwRevision)
  | .activeOperatingMode => (.ok, u16 ctrl.operatingMode.toValue)
  | .status => (.ok, 0)
  | .faultCause => (.ok, 0)
  | .operatingMode => (.ok, u16 ctrl.sysCfg.operatingMode.toValue)
  | .startupChannelPolicy => (.ok, u16 ctrl.sysCfg.startupChannelPolicy)
  | .paramAction | .calUnlock | .calExit => (.writeOnly, 0)

/-- `vc_catalog_read`. A descriptor that is in none of the tables cannot be looked up. -/
def vcCatalogRead (vb : VcBuild) (running : Bool) (ctrl : Controller σ) (desc : RegDescriptor) :
    RegStatus × UInt32 :=
  if !running then (.busy, 0)
  else if desc.id.instanceId = globalInstance then
    match globalRegOf desc with
    | none => (.notFound, 0)
    | some reg => globalValue vb ctrl reg
  else
    match ctrl.channels[desc.id.instanceId.toNat]?, vcRegOf desc with
    | none, _ => (.unsupported, 0)
    | some _, none => (.notFound, 0)
    | some ch, some reg =>
      if !vcCatalogSupported reg ch.capabilities then (.unsupported, 0) else channelValue ch reg

/-! ## Writing -/

def vcCatalogField : VcReg → Option ConfigField
  | .cfgTargetVoltage => some .configuredTargetVoltage
  | .cfgOutputEnabled => some .configuredOutputEnabled
  | .rampUpStep => some .rampUpStep
  | .rampUpInterval => some .rampUpInterval
  | .rampDownStep => some .rampDownStep
  | .rampDownInterval => some .rampDownInterval
  | .recoveryPolicyMode => some .recoveryPolicyMode
  | .autoRetryDelay => some .autoRetryDelay
  | .autoRetryMaxCount => some .autoRetryMaxCount
  | .autoRetryWindow => some .autoRetryWindow
  | .currentSafeBandPct => some .currentSafeBandPct
  | .currentProtectionMode => some .currentProtectionMode
  | .currentProtOutAction => some .currentProtOutAction
  | .currentLimitThreshold => some .currentLimitThreshold
  | .autoDerateStep => some .autoDerateStep
  | _ => none

def vcCatalogCalField : VcReg → Option CalField
  | .outputCalK => some .outputK
  | .outputCalB => some .outputB
  | .measuredVCalK => some .measuredVK
  | .measuredVCalB => some .measuredVB
  | .measuredICalK => some .measuredIK
  | .measuredICalB => some .measuredIB
  | .outputCalKExp => some .outputKExp
  | .measuredVCalKExp => some .measuredVKExp
  | .measuredICalKExp => some .measuredIKExp
  | _ => none

/-- What a write asks for: an answer without a command, or a command for the worker. -/
inductive Request (σ : Type) where
  | answer (st : RegStatus)
  | submit (op : ControllerOp σ)

/-- `CAL_COMMAND_NONE` and `CAL_COMMAND_EXECUTE` -/
def calCommand (value : UInt16) (op : ControllerOp σ) : Request σ :=
  if value = 0 then .answer .ok else if value ≠ 1 then .answer .invalidValue else .submit op

/-- The commands of a channel, the switch at the end of `vc_catalog_write`. A sample is taken from
the buffer as the wait for a fresh one leaves it. -/
def channelCommand (i : Nat) (reg : VcReg) (value : UInt16) : Request σ :=
  match reg with
  | .outputAction => .submit (.channelOutputAction i (.ofValue value))
  | .faultCmd => .submit (.channelFaultCommand i (.ofValue value))
  | .paramAction => .submit (.channelParamAction i (.ofValue value))
  | .calOutputEnable =>
    if value > 1 then .answer .invalidValue else .submit (.channelCalOutputEnable i (value ≠ 0))
  | .calDacCode => .submit (.channelCalRawDac i value.toUInt32)
  | .calSampleCmd => calCommand value (.channelCalSample i)
  | .calCommitCmd => calCommand value (.channelCalCommit i)
  | _ => .answer .unsupported

def channelRequest (i : Nat) (reg : VcReg) (value : UInt16) : Request σ :=
  match vcCatalogField reg, vcCatalogCalField reg with
  | some field, _ => .submit (.channelSetField i field value)
  | none, some field => .submit (.channelSetCalField i field value)
  | none, none => channelCommand i reg value

def globalRequest (reg : GlobalReg) (value : UInt16) : Request σ :=
  match reg with
  | .operatingMode => .submit (.setOperatingMode (.ofValue value))
  | .startupChannelPolicy => .submit (.setSystemField .startupChannelPolicy value)
  | .paramAction => .submit (.systemParamAction (.ofValue value))
  | .calUnlock => .submit (.calibrationUnlock value)
  | .calExit => if value ≠ 1 then .answer .invalidValue else .submit .calExit
  | _ => .answer .unsupported

/-- What the runtime does with a request: whether the catalog is up, and whether the queue takes
the command in time. -/
structure Admission where
  running : Bool
  admitted : Bool

/-- `vc_runtime_submit_command` with the dispatch by the worker. -/
def submitCommand (k : Kconfig) (admitted : Bool) (ctrl : Controller σ) (op : ControllerOp σ) :
    VcStatus × Controller σ :=
  if !admitted then (.errUnsafeState, ctrl) else op.call k ctrl

def serve (k : Kconfig) (adm : Admission) (ctrl : Controller σ) : Request σ →
    RegStatus × Controller σ
  | .answer st => (st, ctrl)
  | .submit op =>
    let r := submitCommand k adm.admitted ctrl op
    (vcStatusToReg r.1, r.2)

/-- `vc_catalog_write` -/
def vcCatalogWrite (k : Kconfig) (adm : Admission) (ctrl : Controller σ) (desc : RegDescriptor)
    (value : UInt16) : RegStatus × Controller σ :=
  if !adm.running then (.busy, ctrl)
  else if desc.id.instanceId = globalInstance then
    match globalRegOf desc with
    | none => (.unsupported, ctrl)
    | some reg => serve k adm ctrl (globalRequest reg value)
  else
    let i := desc.id.instanceId.toNat
    match ctrl.channels[i]?, vcRegOf desc with
    | none, _ => (.unsupported, ctrl)
    | some _, none => (.unsupported, ctrl)
    | some ch, some reg =>
      if !vcCatalogSupported reg ch.capabilities then (.unsupported, ctrl)
      else serve k adm ctrl (channelRequest i reg value)

/-! ## What the readers rely on -/

theorem channelValue_writeOnly {ch : Channel} {reg : VcReg}
    (h : (channelValue ch reg).1 = .writeOnly) : reg.row.access = .wo := by
  cases reg <;> first | rfl | cases h

theorem globalValue_writeOnly {vb : VcBuild} {ctrl : Controller σ} {reg : GlobalReg}
    (h : (globalValue vb ctrl reg).1 = .writeOnly) : reg.row.access = .wo := by
  cases reg <;> first | rfl | cases h

theorem access_of_isRow {desc : RegDescriptor} {row : RegRow} (h : isRow desc row) :
    row.access = desc.access := (of_decide_eq_true h).2.2

/-- Only a write-only register has no value. -/
theorem vcCatalogRead_readable {vb : VcBuild} {running : Bool} {ctrl : Controller σ}
    {desc : RegDescriptor} (h : desc.access ≠ .wo) :
    (vcCatalogRead vb running ctrl desc).1 ≠ .writeOnly := by
  intro hwo
  unfold vcCatalogRead at hwo
  split at hwo
  · cases hwo
  split at hwo
  · split at hwo
    · cases hwo
    next reg hreg =>
      have hrow := List.find?_some hreg
      exact h ((access_of_isRow hrow).symm.trans (globalValue_writeOnly hwo))
  · split at hwo
    · cases hwo
    · cases hwo
    next ch reg hch hreg =>
      split at hwo
      · cases hwo
      have hrow := List.find?_some hreg
      exact h ((access_of_isRow hrow).symm.trans (channelValue_writeOnly hwo))

end VcCatalog
