import HvbFirmware.RegCatalog
import HvbFirmware.VcTypes

/-!
# The Modbus register views

`modbus_register.c` and the three callbacks of `modbus_adapter.c`. A wire register is 16 bits, so
a 32-bit register is read in two requests; `word_latch`, the one static variable of the file,
keeps the value between them. What the owners of the registers answer is a parameter of each
request.
-/
namespace ModbusRegister

open VcTypes RegCatalog

/-! ## Wire views -/

/-- The build constants: `VC_MAX_CHANNELS`, counted from the devicetree, and
`CONFIG_SYS_STATUS`. -/
structure Build where
  maxChannels : UInt8
  hasSysStatus : Bool
  maxChannels_range : maxChannels ≤ 16

/-- `struct wire_reg` of a mapped offset: the descriptor, by channel in the channel views, and
which half of the value the offset shows. An offset that is not mapped is `none`. -/
structure WireReg where
  handle : UInt8 → Option RegDescriptor
  word : Nat

def chBlockSize : Nat := 40

def regVcChannelHandle (b : Build) (ch : UInt8) (reg : VcReg) : Option RegDescriptor :=
  if ch ≥ b.maxChannels then none else some (reg.row.descriptor moduleVoltageControl ch)

def sysWire (desc : RegDescriptor) (word : Nat) : Option WireReg := some ⟨fun _ => some desc, word⟩

/-- `SYS_STATUS_HANDLE`: a NULL handle in a build without the sensor. -/
def sysStatusWire (b : Build) (reg : SysStatusReg) : Option WireReg :=
  some ⟨fun _ => if b.hasSysStatus then some reg.descriptor else none, 0⟩

/-- The input registers of the system block by their offsets; the others are reserved. -/
def sysInputView (b : Build) : Nat → Option WireReg
  | 0 => sysWire ModbusReg.protocolMajor.descriptor 0
  | 1 => sysWire ModbusReg.protocolMinor.descriptor 0
  | 2 => sysWire GlobalReg.variantId.descriptor 0
  | 3 => sysWire GlobalReg.capabilityFlags.descriptor 0
  | 4 => sysWire GlobalReg.supportedChannels.descriptor 0
  | 5 => sysWire GlobalReg.activeChannelMask.descriptor 0
  | 6 => sysStatusWire b .boardTemperature
  | 7 => sysStatusWire b .boardHumidity
  | 8 => sysWire SysStatusReg.uptime.descriptor 0
  | 9 => sysWire SysStatusReg.uptime.descriptor 1
  | 10 => sysWire SysStatusReg.fwVersion.descriptor 0
  | 11 => sysWire SysStatusReg.fwVersion.descriptor 1
  | 12 => sysWire GlobalReg.activeOperatingMode.descriptor 0
  | 13 => sysWire GlobalReg.status.descriptor 0
  | 14 => sysWire GlobalReg.faultCause.descriptor 0
  | 15 => sysWire GlobalReg.currentUnitExp.descriptor 0
  | 16 => sysWire GlobalReg.boardHwRevision.descriptor 0
  | _ => none

def sysHoldingView : Nat → Option WireReg
  | 0 => sysWire GlobalReg.operatingMode.descriptor 0
  | 1 => sysWire GlobalReg.startupChannelPolicy.descriptor 0
  | 2 => sysWire ModbusReg.nextBootSlaveAddress.descriptor 0
  | 3 => sysWire ModbusReg.nextBootBaudRateCode.descriptor 0
  | 39 => sysWire GlobalReg.paramAction.descriptor 0
  | _ => none

/-- The register at an offset of the channel input block, and its half. -/
def chInputReg : Nat → Option (VcReg × Nat)
  | 0 => some (.statusBits, 0)
  | 1 => some (.activeFaultCause, 0)
  | 2 => some (.faultHistoryCause, 0)
  | 3 => some (.lastProtOutAction, 0)
  | 4 => some (.autoRetryCount, 0)
  | 5 => some (.autoCooldownRemaining, 0)
  | 6 => some (.lastFaultTimestamp, 0)
  | 7 => some (.lastFaultTimestamp, 1)
  | 8 => some (.operTargetVoltage, 0)
  | 9 => some (.capabilityFlags, 0)
  | 10 => some (.measuredVoltage, 0)
  | 11 => some (.measuredCurrent, 0)
  | 12 => some (.rawAdcVoltage, 0)
  | 13 => some (.rawAdcVoltage, 1)
  | 14 => some (.rawAdcCurrent, 0)
  | 15 => some (.rawAdcCurrent, 1)
  | _ => none

/-- The register at an offset of the channel holding block, all of 16 bits. -/
def chHoldingReg : Nat → Option VcReg
  | 0 => some .outputAction
  | 1 => some .faultCmd
  | 2 => some .paramAction
  | 3 => some .cfgTargetVoltage
  | 4 => some .rampUpStep
  | 5 => some .rampUpInterval
  | 6 => some .rampDownStep
  | 7 => some .rampDownInterval
  | 8 => some .recoveryPolicyMode
  | 9 => some .autoRetryDelay
  | 10 => some .autoRetryMaxCount
  | 11 => some .autoRetryWindow
  | 12 => some .currentSafeBandPct
  | 13 => some .currentProtectionMode
  | 14 => some .currentProtOutAction
  | 15 => some .currentLimitThreshold
  | 16 => some .autoDerateStep
  | 17 => some .cfgOutputEnabled
  | 20 => some .outputCalK
  | 21 => some .outputCalB
  | 22 => some .measuredVCalK
  | 23 => some .measuredVCalB
  | 24 => some .measuredICalK
  | 25 => some .measuredICalB
  | 26 => some .outputCalKExp
  | 27 => some .measuredVCalKExp
  | 28 => some .measuredICalKExp
  | 30 => some .calOutputEnable
  | 31 => some .calDacCode
  | 32 => some .calSampleCmd
  | 33 => some .calCommitCmd
  | _ => none

def chInputView (b : Build) (off : Nat) : Option WireReg :=
  (chInputReg off).map fun r => ⟨fun ch => regVcChannelHandle b ch r.1, r.2⟩

def chHoldingView (b : Build) (off : Nat) : Option WireReg :=
  (chHoldingReg off).map fun reg => ⟨fun ch => regVcChannelHandle b ch reg, 0⟩

/-! ## Guards -/

def capsAny (caps mask : UInt16) : Bool := caps &&& mask != 0

def capsAll (caps mask : UInt16) : Bool := caps &&& mask == mask

/-- The registers of a calibration session. -/
def isChCalInputReg (off : Nat) : Bool := 12 ≤ off ∧ off ≤ 15

def isChCalHoldingReg (off : Nat) : Bool := 30 ≤ off ∧ off ≤ 33

def isChCalibrationCoefficientReg (off : Nat) : Bool := 20 ≤ off ∧ off ≤ 25

def chInputSupported (caps : UInt16) (off : Nat) : Bool :=
  match chInputReg off with
  | some (.measuredVoltage, _) | some (.rawAdcVoltage, _) => capsAll caps capVoltageMeasurement
  | some (.measuredCurrent, _) | some (.rawAdcCurrent, _) => capsAll caps capCurrentMeasurement
  | _ => off < chBlockSize

def chHoldingSupported (caps : UInt16) (off : Nat) : Bool :=
  match chHoldingReg off with
  | some .cfgTargetVoltage | some .rampUpStep | some .rampUpInterval | some .rampDownStep
  | some .rampDownInterval | some .outputCalK | some .outputCalB | some .calOutputEnable
  | some .calDacCode => capsAll caps capRawOutputDrive
  | some .currentProtectionMode | some .currentProtOutAction | some .currentLimitThreshold
  | some .measuredICalK | some .measuredICalB => capsAll caps capCurrentMeasurement
  | some .autoDerateStep => capsAll caps (capRawOutputDrive ||| capVoltageMeasurement)
  | some .measuredVCalK | some .measuredVCalB => capsAll caps capVoltageMeasurement
  | some .calSampleCmd => capsAny caps (capVoltageMeasurement ||| capCurrentMeasurement)
  | some .calCommitCmd =>
    capsAny caps (capRawOutputDrive ||| capVoltageMeasurement ||| capCurrentMeasurement)
  | _ => off < chBlockSize

/-! ## The word latch -/

/-- `word_latch` -/
structure WordLatch where
  id : RegId
  value : UInt32
  valid : Bool
  deriving DecidableEq, Repr

def WordLatch.clear (latch : WordLatch) : WordLatch := { latch with valid := false }

def WordLatch.initial : WordLatch := ⟨⟨0, 0, 0⟩, 0, false⟩

def hiWord (raw : UInt32) : UInt16 := (raw >>> 16).toUInt16

def loWord (raw : UInt32) : UInt16 := raw.toUInt16

/-- The 16-bit types of `read_wire`: the union read as its type says. -/
def narrow (type : RegType) (raw : UInt32) : UInt16 :=
  if type = .bool then if raw.toUInt8 ≠ 0 then 1 else 0 else raw.toUInt16

/-- Which of the reads of one request it is: a channel request makes up to three before its
own. -/
inductive Reading where
  | count | caps | mode | requested
  deriving DecidableEq, Repr

inductive MbResult where
  | ok | illegalAddress | illegalValue | deviceFailure
  deriving DecidableEq, Repr

/-- What the world answers during one request: the owners to reads and writes, and
`handle_sys_param_action`, which works on the configuration of the adapter. An owner has a case
for every register of its own that is not write-only. -/
structure Answers where
  read : Reading → RegDescriptor → RegStatus × UInt32
  write : RegDescriptor → UInt16 → RegStatus
  paramAction : UInt16 → MbResult
  read_readable : ∀ reading desc, desc.access ≠ .wo → (read reading desc).1 ≠ .writeOnly

/-- The latch holds the other half of what the wire register shows. -/
def latchHit (latch : WordLatch) (desc : RegDescriptor) (word : Nat) : Bool :=
  desc.type.is32 ∧ word = 1 ∧ latch.valid ∧ latch.id = desc.id

/-- A reserved register reads zero. The low word of a pair is served from the latch when its high
word was read before. -/
def readWire (a : Answers) (reading : Reading) (wire : Option WireReg) (ch : UInt8)
    (latch : WordLatch) : Except RegStatus UInt16 × WordLatch :=
  match wire with
  | none => (.ok 0, latch)
  | some wire =>
    match wire.handle ch with
    | none => (.ok 0, latch)
    | some desc =>
      if latchHit latch desc wire.word then (.ok (loWord latch.value), latch.clear)
      else
        let answer := regReadDescriptor (a.read reading) desc
        if answer.1 = .writeOnly then (.ok 0, latch)
        else if answer.1 ≠ .ok then (.error answer.1, latch)
        else if !desc.type.is32 then (.ok (narrow desc.type answer.2), latch.clear)
        else if wire.word = 0 then (.ok (hiWord answer.2), ⟨desc.id, answer.2, true⟩)
        else (.ok (loWord answer.2), latch.clear)

/-- A reserved register refuses every value as an invalid one. -/
def writeWire (a : Answers) (wire : Option WireReg) (ch : UInt8) (reg : UInt16) : RegStatus :=
  match wire with
  | none => .invalidValue
  | some wire =>
    match wire.handle ch with
    | none => .unsupported
    | some desc => regWriteDescriptor a.write desc reg

/-- A guard read whose status is dropped: `count`, `caps` and `mode` start at zero. -/
def guardValue (r : Except RegStatus UInt16) : UInt16 :=
  match r with
  | .ok value => value
  | .error _ => 0

/-! ## Blocks -/

def vcRegReadSysInput (a : Answers) (b : Build) (off : Nat) (latch : WordLatch) :
    Except RegStatus UInt16 × WordLatch :=
  if off ≥ chBlockSize then (.error .invalidArgument, latch)
  else readWire a .requested (sysInputView b off) 0 latch

def vcRegReadSysHolding (a : Answers) (off : Nat) (latch : WordLatch) :
    Except RegStatus UInt16 × WordLatch :=
  if off ≥ chBlockSize then (.error .invalidArgument, latch)
  else readWire a .requested (sysHoldingView off) 0 latch

def vcRegWriteSysHolding (a : Answers) (off : Nat) (val : UInt16) : RegStatus :=
  if off ≥ chBlockSize then .invalidArgument else writeWire a (sysHoldingView off) 0 val

def readCount (a : Answers) (b : Build) (latch : WordLatch) :
    Except RegStatus UInt16 × WordLatch :=
  readWire a .count (sysInputView b 4) 0 latch

def readCaps (a : Answers) (b : Build) (ch : UInt8) (latch : WordLatch) :
    Except RegStatus UInt16 × WordLatch :=
  readWire a .caps (chInputView b 9) ch latch

def readMode (a : Answers) (b : Build) (latch : WordLatch) :
    Except RegStatus UInt16 × WordLatch :=
  readWire a .mode (sysInputView b 12) 0 latch

/-- `VC_OPERATING_MODE_CALIBRATION` -/
def calibrationMode : UInt16 := 2

def vcRegReadChInput (a : Answers) (b : Build) (ch : UInt8) (off : Nat) (latch : WordLatch) :
    Except RegStatus UInt16 × WordLatch :=
  let count := readCount a b latch
  if ch.toUInt16 ≥ guardValue count.1 then (.error .unsupported, count.2)
  else if off ≥ chBlockSize then (.error .invalidArgument, count.2)
  else
    let caps := readCaps a b ch count.2
    if !chInputSupported (guardValue caps.1) off then (.error .unsupported, caps.2)
    else
      let mode := readMode a b caps.2
      if isChCalInputReg off ∧ guardValue mode.1 ≠ calibrationMode then
        (.error .unsupported, mode.2)
      else readWire a .requested (chInputView b off) ch mode.2

def vcRegReadChHolding (a : Answers) (b : Build) (ch : UInt8) (off : Nat) (latch : WordLatch) :
    Except RegStatus UInt16 × WordLatch :=
  let count := readCount a b latch
  if ch.toUInt16 ≥ guardValue count.1 then (.error .unsupported, count.2)
  else if off ≥ chBlockSize then (.error .invalidArgument, count.2)
  else
    let caps := readCaps a b ch count.2
    if !chHoldingSupported (guardValue caps.1) off then (.error .unsupported, caps.2)
    else readWire a .requested (chHoldingView b off) ch caps.2

/-- The calibration commands: `val` is checked before the write. -/
def writeCalCommand (a : Answers) (b : Build) (ch : UInt8) (off : Nat) (val : UInt16) :
    RegStatus :=
  match chHoldingReg off with
  | some .calOutputEnable =>
    if val > 1 then .invalidValue else writeWire a (chHoldingView b off) ch val
  | some .calDacCode => writeWire a (chHoldingView b off) ch val
  | some .calSampleCmd | some .calCommitCmd =>
    if val = 0 then .ok
    else if val ≠ 1 then .invalidValue
    else writeWire a (chHoldingView b off) ch val
  | _ => .unsupported

def vcRegWriteChHolding (a : Answers) (b : Build) (ch : UInt8) (off : Nat) (val : UInt16)
    (latch : WordLatch) : RegStatus × WordLatch :=
  let count := readCount a b latch
  if ch.toUInt16 ≥ guardValue count.1 then (.unsupported, count.2)
  else
    let caps := readCaps a b ch count.2
    if !chHoldingSupported (guardValue caps.1) off then (.unsupported, caps.2)
    else if chHoldingReg off = some .outputAction ∨ chHoldingReg off = some .faultCmd ∨
        chHoldingReg off = some .paramAction then
      (writeWire a (chHoldingView b off) ch val, caps.2)
    else
      let mode := readMode a b caps.2
      if isChCalibrationCoefficientReg off then
        (writeWire a (chHoldingView b off) ch val, mode.2)
      else if isChCalHoldingReg off then
        if guardValue mode.1 ≠ calibrationMode then (.unsupported, mode.2)
        else (writeCalCommand a b ch off val, mode.2)
      else if off ≥ chBlockSize then (.invalidArgument, mode.2)
      else (writeWire a (chHoldingView b off) ch val, mode.2)

def vcRegWriteExt (a : Answers) (off : Nat) (val : UInt16) : RegStatus :=
  if off = 0 then regWriteDescriptor a.write GlobalReg.calUnlock.descriptor val
  else if off = 1 then regWriteDescriptor a.write GlobalReg.calExit.descriptor val
  else .unsupported

/-! ## The adapter callbacks -/

/-- The exception that a status of the catalog becomes. -/
def regStToMbResult : RegStatus → MbResult
  | .ok => .ok
  | .notFound | .readOnly | .writeOnly | .unsupported => .illegalAddress
  | .invalidArgument | .invalidValue => .illegalValue
  | .busy | .ioError => .deviceFailure

/-- A block address with the offset in it. -/
inductive WireAddr where
  | sys (off : Nat)
  | channel (ch : UInt8) (off : Nat)
  deriving DecidableEq, Repr

def addrDecode (addr : UInt16) : Option WireAddr :=
  if addr.toNat < chBlockSize then some (.sys addr.toNat)
  else if addr.toNat < chBlockSize + 16 * chBlockSize then
    let rel := addr.toNat - chBlockSize
    some (.channel (UInt8.ofNat (rel / chBlockSize)) (rel % chBlockSize))
  else none

def isExtension (addr : UInt16) : Bool := 680 ≤ addr.toNat ∧ addr.toNat ≤ 759

def toMb (r : Except RegStatus UInt16 × WordLatch) : Except MbResult UInt16 × WordLatch :=
  (match r.1 with
    | .ok value => .ok value
    | .error st => .error (regStToMbResult st), r.2)

def vcMbInputRd (a : Answers) (b : Build) (addr : UInt16) (latch : WordLatch) :
    Except MbResult UInt16 × WordLatch :=
  match addrDecode addr with
  | none => (.error .illegalAddress, latch)
  | some (.sys off) => toMb (vcRegReadSysInput a b off latch)
  | some (.channel ch off) => toMb (vcRegReadChInput a b ch off latch)

def vcMbHoldingRd (a : Answers) (b : Build) (addr : UInt16) (latch : WordLatch) :
    Except MbResult UInt16 × WordLatch :=
  if isExtension addr then (.ok 0, latch)
  else
    match addrDecode addr with
    | none => (.error .illegalAddress, latch)
    | some (.sys off) => toMb (vcRegReadSysHolding a off latch)
    | some (.channel ch off) => toMb (vcRegReadChHolding a b ch off latch)

def vcMbHoldingWr (a : Answers) (b : Build) (addr val : UInt16) (latch : WordLatch) :
    MbResult × WordLatch :=
  if isExtension addr then (regStToMbResult (vcRegWriteExt a (addr.toNat - 680) val), latch)
  else
    match addrDecode addr with
    | none => (.illegalAddress, latch)
    | some (.sys off) =>
      if off = 39 then (a.paramAction val, latch)
      else (regStToMbResult (vcRegWriteSysHolding a off val), latch)
    | some (.channel ch off) =>
      let r := vcRegWriteChHolding a b ch off val latch
      (regStToMbResult r.1, r.2)

end ModbusRegister
