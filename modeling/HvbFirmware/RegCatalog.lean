/-!
# The register catalog

The descriptors of `reg_catalog.h` with the rows of `vc_regs.def`, `vc_global_regs.def`,
`sys_status_regs.def` and `modbus_regs.def` that a wire view names. What the owner of a register
answers is left open.
-/
namespace RegCatalog

inductive RegType where
  | u16 | s16 | u32 | s32 | bool | enum
  deriving DecidableEq, Repr

def RegType.is32 : RegType → Bool
  | .u32 | .s32 => true
  | _ => false

inductive RegAccess where
  | ro | rw | wo
  deriving DecidableEq, Repr

inductive RegStatus where
  | ok | notFound | invalidArgument | invalidValue | readOnly | writeOnly | unsupported
  | busy | ioError
  deriving DecidableEq, Repr

/-- The three fields that `REG_ID` packs into 32 bits. -/
structure RegId where
  moduleId : UInt8
  instanceId : UInt8
  field : UInt16
  deriving DecidableEq, Repr

structure RegDescriptor where
  id : RegId
  type : RegType
  access : RegAccess
  deriving DecidableEq, Repr

def moduleSystemStatus : UInt8 := 1
def moduleVoltageControl : UInt8 := 2
def moduleModbusAdapter : UInt8 := 3
def globalInstance : UInt8 := 255

/-- `reg_read_descriptor`. The union of a value is its 32 bits, and `owner` what the `read` hook
of the owner, or the bound variable, answers. -/
def regReadDescriptor (owner : RegDescriptor → RegStatus × UInt32) (desc : RegDescriptor) :
    RegStatus × UInt32 :=
  if desc.access = .wo then (.writeOnly, 0) else owner desc

def regWriteDescriptor (owner : RegDescriptor → UInt16 → RegStatus) (desc : RegDescriptor)
    (value : UInt16) : RegStatus :=
  if desc.access = .ro then .readOnly else owner desc value

/-! ## Rows -/

/-- A line of a `.def` file, without its category. -/
structure RegRow where
  field : UInt16
  type : RegType
  access : RegAccess

def RegRow.descriptor (row : RegRow) (moduleId instanceId : UInt8) : RegDescriptor :=
  ⟨⟨moduleId, instanceId, row.field⟩, row.type, row.access⟩

inductive VcReg where
  | statusBits | activeFaultCause | faultHistoryCause | lastProtOutAction | autoRetryCount
  | autoCooldownRemaining | lastFaultTimestamp | operTargetVoltage | capabilityFlags
  | measuredVoltage | measuredCurrent | rawAdcVoltage | rawAdcCurrent
  | outputAction | faultCmd | paramAction | cfgTargetVoltage | cfgOutputEnabled
  | rampUpStep | rampUpInterval | rampDownStep | rampDownInterval | recoveryPolicyMode
  | autoRetryDelay | autoRetryMaxCount | autoRetryWindow | currentSafeBandPct
  | currentProtectionMode | currentProtOutAction | currentLimitThreshold | autoDerateStep
  | outputCalK | outputCalB | measuredVCalK | measuredVCalB | measuredICalK | measuredICalB
  | outputCalKExp | measuredVCalKExp | measuredICalKExp
  | calOutputEnable | calDacCode | calSampleCmd | calCommitCmd
  deriving DecidableEq, Repr

/-- `vc_regs.def` -/
def VcReg.row : VcReg → RegRow
  | .statusBits => ⟨0x0001, .u16, .ro⟩
  | .activeFaultCause => ⟨0x0002, .u16, .ro⟩
  | .faultHistoryCause => ⟨0x0003, .u16, .ro⟩
  | .lastProtOutAction => ⟨0x0004, .enum, .ro⟩
  | .autoRetryCount => ⟨0x0005, .u16, .ro⟩
  | .autoCooldownRemaining => ⟨0x0006, .u16, .ro⟩
  | .lastFaultTimestamp => ⟨0x0007, .u32, .ro⟩
  | .operTargetVoltage => ⟨0x0008, .s16, .ro⟩
  | .capabilityFlags => ⟨0x0009, .u16, .ro⟩
  | .measuredVoltage => ⟨0x000a, .s16, .ro⟩
  | .measuredCurrent => ⟨0x000b, .s16, .ro⟩
  | .rawAdcVoltage => ⟨0x000c, .s32, .ro⟩
  | .rawAdcCurrent => ⟨0x000d, .s32, .ro⟩
  | .outputAction => ⟨0x0201, .enum, .wo⟩
  | .faultCmd => ⟨0x0202, .enum, .wo⟩
  | .paramAction => ⟨0x0203, .enum, .wo⟩
  | .cfgTargetVoltage => ⟨0x0101, .s16, .rw⟩
  | .cfgOutputEnabled => ⟨0x010f, .u16, .rw⟩
  | .rampUpStep => ⟨0x0102, .u16, .rw⟩
  | .rampUpInterval => ⟨0x0103, .u16, .rw⟩
  | .rampDownStep => ⟨0x0104, .u16, .rw⟩
  | .rampDownInterval => ⟨0x0105, .u16, .rw⟩
  | .recoveryPolicyMode => ⟨0x0106, .enum, .rw⟩
  | .autoRetryDelay => ⟨0x0107, .u16, .rw⟩
  | .autoRetryMaxCount => ⟨0x0108, .u16, .rw⟩
  | .autoRetryWindow => ⟨0x0109, .u16, .rw⟩
  | .currentSafeBandPct => ⟨0x010a, .u16, .rw⟩
  | .currentProtectionMode => ⟨0x010b, .enum, .rw⟩
  | .currentProtOutAction => ⟨0x010c, .enum, .rw⟩
  | .currentLimitThreshold => ⟨0x010d, .s16, .rw⟩
  | .autoDerateStep => ⟨0x010e, .u16, .rw⟩
  | .outputCalK => ⟨0x0114, .u16, .rw⟩
  | .outputCalB => ⟨0x0115, .s16, .rw⟩
  | .measuredVCalK => ⟨0x0116, .u16, .rw⟩
  | .measuredVCalB => ⟨0x0117, .s16, .rw⟩
  | .measuredICalK => ⟨0x0118, .u16, .rw⟩
  | .measuredICalB => ⟨0x0119, .s16, .rw⟩
  | .outputCalKExp => ⟨0x011a, .s16, .rw⟩
  | .measuredVCalKExp => ⟨0x011b, .s16, .rw⟩
  | .measuredICalKExp => ⟨0x011c, .s16, .rw⟩
  | .calOutputEnable => ⟨0x021e, .u16, .rw⟩
  | .calDacCode => ⟨0x021f, .u16, .rw⟩
  | .calSampleCmd => ⟨0x0220, .u16, .wo⟩
  | .calCommitCmd => ⟨0x0221, .u16, .wo⟩

inductive GlobalReg where
  | variantId | capabilityFlags | supportedChannels | activeChannelMask | activeOperatingMode
  | status | faultCause | currentUnitExp | boardHwRevision | operatingMode
  | startupChannelPolicy | paramAction | calUnlock | calExit
  deriving DecidableEq, Repr

/-- `vc_global_regs.def` -/
def GlobalReg.row : GlobalReg → RegRow
  | .variantId => ⟨0x0001, .u16, .ro⟩
  | .capabilityFlags => ⟨0x0002, .u16, .ro⟩
  | .supportedChannels => ⟨0x0003, .u16, .ro⟩
  | .activeChannelMask => ⟨0x0004, .u16, .ro⟩
  | .activeOperatingMode => ⟨0x0005, .enum, .ro⟩
  | .status => ⟨0x0006, .u16, .ro⟩
  | .faultCause => ⟨0x0007, .u16, .ro⟩
  | .currentUnitExp => ⟨0x0009, .s16, .ro⟩
  | .boardHwRevision => ⟨0x000a, .u16, .ro⟩
  | .operatingMode => ⟨0x0101, .enum, .rw⟩
  | .startupChannelPolicy => ⟨0x0102, .u16, .rw⟩
  | .paramAction => ⟨0x0201, .u16, .wo⟩
  | .calUnlock => ⟨0x0202, .u16, .wo⟩
  | .calExit => ⟨0x0203, .u16, .wo⟩

def GlobalReg.descriptor (reg : GlobalReg) : RegDescriptor :=
  reg.row.descriptor moduleVoltageControl globalInstance

inductive SysStatusReg where
  | boardTemperature | boardHumidity | uptime | fwVersion
  deriving DecidableEq, Repr

/-- `sys_status_regs.def` -/
def SysStatusReg.row : SysStatusReg → RegRow
  | .boardTemperature => ⟨0x0001, .s16, .ro⟩
  | .boardHumidity => ⟨0x0002, .u16, .ro⟩
  | .uptime => ⟨0x0003, .u32, .ro⟩
  | .fwVersion => ⟨0x0004, .u32, .ro⟩

def SysStatusReg.descriptor (reg : SysStatusReg) : RegDescriptor :=
  reg.row.descriptor moduleSystemStatus 0

inductive ModbusReg where
  | protocolMajor | protocolMinor | nextBootSlaveAddress | nextBootBaudRateCode
  deriving DecidableEq, Repr

/-- `modbus_regs.def` -/
def ModbusReg.row : ModbusReg → RegRow
  | .protocolMajor => ⟨0x0001, .u16, .ro⟩
  | .protocolMinor => ⟨0x0002, .u16, .ro⟩
  | .nextBootSlaveAddress => ⟨0x0103, .u16, .rw⟩
  | .nextBootBaudRateCode => ⟨0x0104, .u16, .rw⟩

def ModbusReg.descriptor (reg : ModbusReg) : RegDescriptor :=
  reg.row.descriptor moduleModbusAdapter 0

end RegCatalog
