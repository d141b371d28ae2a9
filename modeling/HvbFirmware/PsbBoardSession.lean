import HvbFirmware.VcTypes

/-!
# The board session of the host tools

`psb_board_session.cpp` over `psb_serial_bus.cpp`: a session reads blocks of input registers of one
slave, each block in one transaction, and a transaction that fails leaves an error text behind. The
Modbus library under the bus is a parameter.
-/
namespace PsbBoardSession

open VcTypes

/-! ## The bus -/

/-- What a session asks of the bus; the registers that came back are `none` when it answers
false. -/
structure Bus (β : Type) where
  isConnected : β → Bool
  lastError : β → String
  readInputRegs : β → (slaveId : Int) → (addr : UInt16) → (count : Nat) →
    (timeoutOverrideMs : Int) → Option (Vector UInt16 count) × β

/-- `Modbus::ClientPort`: one request, pumped until it is no longer processing, with its error
text. -/
structure ModbusClientPort (π : Type) where
  readInputRegisters : π → (unit : UInt8) → (addr : UInt16) → (count : Nat) →
    (timeoutOverrideMs : Int) → Except String (Vector UInt16 count) × π

/-- `TestBoard`: the array behind the pointer, when there is one. -/
structure TestBoard where
  inputRegs : Option (Nat → UInt16)
  maxAddr : Int

structure PsbSerialBus (π : Type) where
  port : Option π
  connected : Bool
  errorText : String
  lastSlaveId : Int
  testBoards : List (Int × TestBoard)

namespace PsbSerialBus

variable {π : Type}

def isConnected (bus : PsbSerialBus π) : Bool := bus.connected || !bus.testBoards.isEmpty

def readInputRegs (lib : ModbusClientPort π) (bus : PsbSerialBus π) (slaveId : Int)
    (addr : UInt16) (count : Nat) (timeoutOverrideMs : Int) :
    Option (Vector UInt16 count) × PsbSerialBus π :=
  match bus.testBoards.lookup slaveId with
  | some tb =>
    match tb.inputRegs with
    | some src =>
      if addr.toNat + count > (UInt16.ofInt tb.maxAddr).toNat then
        (none, { bus with errorText := "test: address out of range" })
      else (some (Vector.ofFn fun i => src (addr.toNat + i)), bus)
    | none => (none, { bus with errorText := "test: address out of range" })
  | none =>
    match if bus.connected then bus.port else none with
    | none => (none, { bus with errorText := "not connected" })
    | some port =>
      match lib.readInputRegisters port (UInt8.ofInt slaveId) addr count timeoutOverrideMs with
      | (.ok regs, port) => (some regs, { bus with lastSlaveId := slaveId, port := some port })
      | (.error text, port) =>
        (none, { bus with
          lastSlaveId := slaveId, port := some port, errorText := "Modbus error: " ++ text })

end PsbSerialBus

def serialBus {π : Type} (lib : ModbusClientPort π) : Bus (PsbSerialBus π) where
  isConnected := PsbSerialBus.isConnected
  lastError := PsbSerialBus.errorText
  readInputRegs := PsbSerialBus.readInputRegs lib

/-! ## The session -/

structure Session (β : Type) where
  /-- A `shared_ptr`, which may be empty. -/
  bus : Option β
  slaveId : Int
  errorText : String

section Session

variable {β : Type}

/-- The bus to read from, when `checkConnected` answers true. -/
def checkConnected (b : Bus β) (s : Session β) : Option β × Session β :=
  match s.bus.filter b.isConnected with
  | some bus => (some bus, s)
  | none => (none, { s with errorText := "not connected" })

/-- `readRegsInternal` of the input bank. -/
def readRegsInternal (b : Bus β) (s : Session β) (addr : UInt16) (count : Nat)
    (timeoutOverrideMs : Int) : Option (Vector UInt16 count) × Session β :=
  match checkConnected b s with
  | (none, s) => (none, s)
  | (some bus, s) =>
    match b.readInputRegs bus s.slaveId addr count timeoutOverrideMs with
    | (some regs, bus) => (some regs, { s with bus := some bus })
    | (none, bus) => (none, { s with bus := some bus, errorText := b.lastError bus })

def sysAddr (off : UInt16) : UInt16 := off

def chBlockBase (ch : Int) : Int := 40 + ch * 40

def chAddr (ch : Int) (off : UInt16) : UInt16 := UInt16.ofInt (chBlockBase ch) + off

def uint32FromRegs (hi lo : UInt16) : UInt32 := (hi.toUInt32 <<< 16) ||| lo.toUInt32

structure ChannelInfo where
  voltageRaw : Int16 := 0
  currentRaw : Int16 := 0
  operationalTargetVoltageRaw : Int16 := 0
  status : UInt16 := 0
  activeFault : UInt16 := 0
  faultHistory : UInt16 := 0
  lastProtOutputAction : UInt16 := 0
  retryCount : Int := 0
  cooldownSec : Int := 0
  lastFaultTimestamp : UInt32 := 0
  chCapFlags : UInt16 := 0
  rawAdcVoltage : Int32 := 0
  rawAdcCurrent : Int32 := 0
  deriving DecidableEq, Repr

/-- The block of assignments that both reads of the runtime state make. -/
def ChannelInfo.withRuntimeState {n : Nat} (info : ChannelInfo) (caps : UInt16)
    (buf : Vector UInt16 n) (h : 9 ≤ n) : ChannelInfo :=
  { info with
    status := buf[0]
    activeFault := buf[1]
    faultHistory := buf[2]
    lastProtOutputAction := buf[3]
    retryCount := buf[4].toNat
    cooldownSec := buf[5].toNat
    lastFaultTimestamp := uint32FromRegs buf[6] buf[7]
    operationalTargetVoltageRaw := buf[8].toInt16
    chCapFlags := caps }

def hasVoltage (caps : UInt16) : Bool := caps &&& capVoltageMeasurement ≠ 0

def hasCurrent (caps : UInt16) : Bool := caps &&& capCurrentMeasurement ≠ 0

/-- A measurement is read by itself, and one that does not come back is left as it was. -/
def readMeasurement (b : Bus β) (s : Session β) (supported : Bool) (addr : UInt16)
    (timeoutOverrideMs : Int) (info : ChannelInfo) (set : ChannelInfo → Int16 → ChannelInfo) :
    ChannelInfo × Session β :=
  if supported then
    match readRegsInternal b s addr 1 timeoutOverrideMs with
    | (some buf, s) => (set info buf[0].toInt16, s)
    | (none, s) => (info, s)
  else (info, s)

def readChannelStatus (b : Bus β) (s : Session β) (ch : Int) (caps : UInt16) (info : ChannelInfo)
    (timeoutOverrideMs : Int) : (Bool × ChannelInfo) × Session β :=
  match checkConnected b s with
  | (none, s) => ((false, info), s)
  | (some _, s) =>
    let base := chAddr ch 0
    if hasVoltage caps ∧ hasCurrent caps then
      match readRegsInternal b s base 12 timeoutOverrideMs with
      | (none, s) => ((false, info), s)
      | (some buf, s) =>
        ((true, { info.withRuntimeState caps buf (by decide) with
          voltageRaw := buf[10].toInt16
          currentRaw := buf[11].toInt16 }), s)
    else
      match readRegsInternal b s base 9 timeoutOverrideMs with
      | (none, s) => ((false, info), s)
      | (some buf, s) =>
        let info := info.withRuntimeState caps buf (by decide)
        let (info, s) := readMeasurement b s (hasVoltage caps) (base + 10) timeoutOverrideMs info
          fun info v => { info with voltageRaw := v }
        let (info, s) := readMeasurement b s (hasCurrent caps) (base + 11) timeoutOverrideMs info
          fun info c => { info with currentRaw := c }
        ((true, info), s)

/-- The first check of the connection is the check that every read makes. -/
theorem readChannelStatus_eq (b : Bus β) (s : Session β) (ch : Int) (caps : UInt16)
    (info : ChannelInfo) (timeout : Int) :
    readChannelStatus b s ch caps info timeout =
      if hasVoltage caps ∧ hasCurrent caps then
        match readRegsInternal b s (chAddr ch 0) 12 timeout with
        | (none, s) => ((false, info), s)
        | (some buf, s) =>
          ((true, { info.withRuntimeState caps buf (by decide) with
            voltageRaw := buf[10].toInt16
            currentRaw := buf[11].toInt16 }), s)
      else
        match readRegsInternal b s (chAddr ch 0) 9 timeout with
        | (none, s) => ((false, info), s)
        | (some buf, s) =>
          let info := info.withRuntimeState caps buf (by decide)
          let (info, s) := readMeasurement b s (hasVoltage caps) (chAddr ch 0 + 10) timeout info
            fun info v => { info with voltageRaw := v }
          let (info, s) := readMeasurement b s (hasCurrent caps) (chAddr ch 0 + 11) timeout info
            fun info c => { info with currentRaw := c }
          ((true, info), s) := by
  cases hbus : s.bus.filter b.isConnected with
  | none =>
    have hcheck : checkConnected b s = (none, { s with errorText := "not connected" }) := by
      rw [checkConnected, hbus]
    simp [readChannelStatus, readRegsInternal, hcheck]
  | some bus =>
    have hcheck : checkConnected b s = (some bus, s) := by rw [checkConnected, hbus]
    unfold readChannelStatus
    split
    next heq => cases hcheck.symm.trans heq
    next heq =>
      cases hcheck.symm.trans heq
      rfl

end Session

end PsbBoardSession
