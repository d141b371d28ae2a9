import HvbFirmware.ModbusRegister
import HvbFirmware.Runs

/-!
# The configuration of the Modbus adapter

The configuration half of `modbus_adapter.c`, for a build with `CONFIG_SETTINGS` and
`CONFIG_MODBUS`. There are three copies: the one that the server runs with, the one of the next
boot, and the record `mb/cfg`. What the settings subsystem and the Modbus stack answer is an input
of every call, so each of them may fail at any time.
-/
namespace MbAdapter

open RegCatalog ModbusRegister Runs

/-- `struct mb_adapter_config`, the record `mb/cfg`. -/
structure MbAdapterConfig where
  slaveAddress : UInt16
  baudRateCode : UInt16
  deriving DecidableEq, Repr

/-- The error numbers that the adapter tells apart, and the rest. -/
inductive Errno where
  | noEnt | noMem | noDev | inval | notSup
  | other (code : Nat)
  deriving DecidableEq, Repr

/-- Zero or a negative error number. -/
abbrev Ret := Except Errno Unit

/-- `CONFIG_VC_MODBUS_UNIT_ID` with its range, and `CONFIG_VC_MODBUS_BAUD_RATE` with its
`BUILD_ASSERT`. -/
structure MbBuild where
  unitId : UInt16
  baudRate : Nat
  unitId_range : 1 ≤ unitId ∧ unitId ≤ 247
  baudRate_assert : baudRate = 9600 ∨ baudRate = 19200 ∨ baudRate = 38400 ∨ baudRate = 115200

def baudRate115200 : UInt16 := 0
def baudRate9600 : UInt16 := 1
def baudRate19200 : UInt16 := 2
def baudRate38400 : UInt16 := 3

def baudCodeToRate (code : UInt16) : UInt32 :=
  if code = baudRate9600 then 9600 else if code = baudRate19200 then 19200
  else if code = baudRate38400 then 38400 else 115200

def baudRateToCode (rate : Nat) : UInt16 :=
  if rate = 9600 then baudRate9600 else if rate = 19200 then baudRate19200
  else if rate = 38400 then baudRate38400 else baudRate115200

/-- The configuration of the build. -/
def adapterDefaultConfig (b : MbBuild) : MbAdapterConfig := ⟨b.unitId, baudRateToCode b.baudRate⟩

/-- `adapter_config_valid`: an address of a unit, and a code with a baud rate. -/
def adapterConfigValid (cfg : MbAdapterConfig) : Bool :=
  cfg.slaveAddress ≥ 1 ∧ cfg.slaveAddress ≤ 247 ∧
    (cfg.baudRateCode = baudRate115200 ∨ cfg.baudRateCode = baudRate9600 ∨
      cfg.baudRateCode = baudRate19200 ∨ cfg.baudRateCode = baudRate38400)

/-- What a factory reset saves is accepted at the next boot. -/
theorem adapterConfigValid_default (b : MbBuild) : adapterConfigValid (adapterDefaultConfig b) := by
  obtain ⟨hlow, hhigh⟩ := b.unitId_range
  have hcode : ∀ rate, baudRateToCode rate = baudRate115200 ∨ baudRateToCode rate = baudRate9600 ∨
      baudRateToCode rate = baudRate19200 ∨ baudRateToCode rate = baudRate38400 := by
    intro rate
    unfold baudRateToCode
    split
    · exact .inr (.inl rfl)
    split
    · exact .inr (.inr (.inl rfl))
    split
    · exact .inr (.inr (.inr rfl))
    · exact .inl rfl
  exact decide_eq_true ⟨hlow, hhigh, hcode b.baudRate⟩

/-- `struct vc_mb_adapter`: the configuration that runs and the one of the next boot. -/
structure VcMbAdapter where
  activeCfg : MbAdapterConfig
  bootCfg : MbAdapterConfig
  deriving DecidableEq, Repr

/-- The static variables of the file with what stands behind them: `created` says that `mb`
points to `adapter`, `ifaceReady` that `mb_iface` is not negative, `server` what the Modbus stack
runs with, and `stored` is the record `mb/cfg`. -/
structure MbState where
  adapter : VcMbAdapter
  created : Bool
  ifaceReady : Bool
  server : Option (UInt8 × UInt32)
  stored : Option MbAdapterConfig
  deriving DecidableEq, Repr

/-- What the calls of one operation answer, each made at most once: the two of the settings
subsystem, the lookup of the interface, and the start of the server with the new and again with
the previous configuration. -/
structure Outcomes where
  save : Ret
  load : Ret
  iface : Ret
  start : Ret
  restart : Ret

/-- Nothing fails. -/
def Outcomes.fine : Outcomes := ⟨.ok (), .ok (), .ok (), .ok (), .ok ()⟩

/-! ## Settings and server -/

/-- A save that fails leaves the record. -/
def adapterSaveConfig (o : Outcomes) (cfg : MbAdapterConfig) (s : MbState) : Ret × MbState :=
  match o.save with
  | .error e => (.error e, s)
  | .ok () => (.ok (), { s with stored := some cfg })

/-- A record that is missing is the error `-ENOENT`. -/
def adapterLoadConfig (o : Outcomes) (s : MbState) : Except Errno MbAdapterConfig :=
  match o.load, s.stored with
  | .error e, _ => .error e
  | .ok (), none => .error .noEnt
  | .ok (), some cfg => .ok cfg

/-- The server runs with an address of 8 bits. A start that fails leaves it as it is. -/
def modbusServerStart (answer : Ret) (cfg : MbAdapterConfig) (s : MbState) : Ret × MbState :=
  match answer with
  | .error e => (.error e, s)
  | .ok () => (.ok (), { s with
      server := some (cfg.slaveAddress.toUInt8, baudCodeToRate cfg.baudRateCode) })

/-- The server is stopped and started again. When the start fails the previous configuration is
started once more, and what that answers is ignored. -/
def modbusAdapterApplyConfig (o : Outcomes) (cfg : MbAdapterConfig) (s : MbState) :
    Ret × MbState :=
  if !s.created then (.error .noDev, s)
  else if !s.ifaceReady then (.ok (), { s with adapter.activeCfg := cfg })
  else
    let previous := s.adapter.activeCfg
    let started := modbusServerStart o.start cfg { s with server := none }
    match started.1 with
    | .error e => (.error e, (modbusServerStart o.restart previous started.2).2)
    | .ok () => (.ok (), { started.2 with adapter.activeCfg := cfg })

/-! ## Operations -/

/-- The part of `vc_mb_adapter_create` for a record that is missing or invalid. -/
def saveDefaults (b : MbBuild) (o : Outcomes) (s : MbState) : Bool × MbState :=
  let defaults := adapterDefaultConfig b
  let saved := adapterSaveConfig o defaults { s with adapter.bootCfg := defaults }
  match saved.1 with
  | .error _ => (false, saved.2)
  | .ok () => (true, { saved.2 with adapter := ⟨defaults, defaults⟩ })

def vcMbAdapterCreate (b : MbBuild) (o : Outcomes) (s : MbState) : Bool × MbState :=
  let s := { s with created := true }
  match adapterLoadConfig o s with
  | .error _ => saveDefaults b o s
  | .ok cfg =>
    if !adapterConfigValid cfg then saveDefaults b o s
    else (true, { s with adapter := ⟨cfg, cfg⟩ })

/-- The instance is taken back when its configuration could not be saved, and kept when there is no
interface. -/
def modbusAdapterInit (b : MbBuild) (o : Outcomes) (s : MbState) : Ret × MbState :=
  let created := vcMbAdapterCreate b o s
  if !created.1 then (.error .noMem, { created.2 with created := false })
  else
    match o.iface with
    | .error e => (.error e, { created.2 with ifaceReady := false })
    | .ok () =>
      modbusServerStart o.start created.2.adapter.activeCfg { created.2 with ifaceReady := true }

def modbusAdapterSetSlaveAddress (o : Outcomes) (addr : UInt16) (s : MbState) : Ret × MbState :=
  if !s.created then (.error .noDev, s)
  else if addr < 1 ∨ addr > 247 then (.error .inval, s)
  else modbusAdapterApplyConfig o { s.adapter.activeCfg with slaveAddress := addr } s

def modbusAdapterSetBaudRateCode (o : Outcomes) (code : UInt16) (s : MbState) : Ret × MbState :=
  if !s.created then (.error .noDev, s)
  else if code > baudRate38400 then (.error .inval, s)
  else modbusAdapterApplyConfig o { s.adapter.activeCfg with baudRateCode := code } s

def modbusAdapterConfigSave (o : Outcomes) (s : MbState) : Ret × MbState :=
  if !s.created then (.error .noDev, s)
  else
    let saved := adapterSaveConfig o s.adapter.activeCfg s
    match saved.1 with
    | .error e => (.error e, saved.2)
    | .ok () => (.ok (), { saved.2 with adapter.bootCfg := s.adapter.activeCfg })

/-- The record has to be valid and to run before it counts for the next boot. -/
def modbusAdapterConfigLoad (o : Outcomes) (s : MbState) : Ret × MbState :=
  if !s.created then (.error .noDev, s)
  else
    match adapterLoadConfig o s with
    | .error e => (.error e, s)
    | .ok candidate =>
      if !adapterConfigValid candidate then (.error .inval, s)
      else
        let applied := modbusAdapterApplyConfig o candidate s
        match applied.1 with
        | .error e => (.error e, applied.2)
        | .ok () => (.ok (), { applied.2 with adapter.bootCfg := candidate })

def modbusAdapterConfigFactory (b : MbBuild) (o : Outcomes) (s : MbState) : Ret × MbState :=
  if !s.created then (.error .noDev, s)
  else
    let defaults := adapterDefaultConfig b
    let saved := adapterSaveConfig o defaults s
    match saved.1 with
    | .error e => (.error e, saved.2)
    | .ok () =>
      modbusAdapterApplyConfig o defaults { saved.2 with adapter.bootCfg := defaults }

/-- The configuration that a write of a next-boot field asks for. -/
def nextBootCandidate (field value : UInt16) (cfg : MbAdapterConfig) : Option MbAdapterConfig :=
  if field = ModbusReg.nextBootSlaveAddress.row.field then
    some { cfg with slaveAddress := value }
  else if field = ModbusReg.nextBootBaudRateCode.row.field then
    some { cfg with baudRateCode := value }
  else none

/-- The candidate is checked as a whole and saved before it takes the place of the old one. -/
def adapterWriteNextBootField (o : Outcomes) (field value : UInt16) (s : MbState) :
    Ret × MbState :=
  if !s.created then (.error .noDev, s)
  else
    match nextBootCandidate field value s.adapter.bootCfg with
    | none => (.error .inval, s)
    | some candidate =>
      if !adapterConfigValid candidate then (.error .inval, s)
      else
        let saved := adapterSaveConfig o candidate s
        match saved.1 with
        | .error e => (.error e, saved.2)
        | .ok () => (.ok (), { saved.2 with adapter.bootCfg := candidate })

def errnoToRegStatus : Ret → RegStatus
  | .ok () => .ok
  | .error .inval => .invalidValue
  | .error .notSup | .error .noDev => .unsupported
  | .error _ => .ioError

/-! The fields of `modbus_regs.def` that no wire view names. -/

def fieldActiveSlaveAddress : UInt16 := 0x0101
def fieldActiveBaudRateCode : UInt16 := 0x0102
def fieldConfigSave : UInt16 := 0x0201
def fieldConfigLoad : UInt16 := 0x0202
def fieldConfigFactory : UInt16 := 0x0203

/-- `modbus_reg_write`, the owner of the registers of the adapter. -/
def modbusRegWrite (b : MbBuild) (o : Outcomes) (field value : UInt16) (s : MbState) :
    RegStatus × MbState :=
  let answer (r : Ret × MbState) := (errnoToRegStatus r.1, r.2)
  if field = fieldActiveSlaveAddress then answer (modbusAdapterSetSlaveAddress o value s)
  else if field = fieldActiveBaudRateCode then answer (modbusAdapterSetBaudRateCode o value s)
  else if field = ModbusReg.nextBootSlaveAddress.row.field ∨
      field = ModbusReg.nextBootBaudRateCode.row.field then
    answer (adapterWriteNextBootField o field value s)
  else if field = fieldConfigSave then
    if value = 1 then answer (modbusAdapterConfigSave o s) else (.invalidValue, s)
  else if field = fieldConfigLoad then
    if value = 1 then answer (modbusAdapterConfigLoad o s) else (.invalidValue, s)
  else if field = fieldConfigFactory then
    if value = 1 then answer (modbusAdapterConfigFactory b o s) else (.invalidValue, s)
  else (.unsupported, s)

/-- The registers answer busy until the adapter is there. -/
def modbusRegRead (field : UInt16) (s : MbState) : RegStatus × UInt32 :=
  if !s.created then (.busy, 0)
  else if field = fieldActiveSlaveAddress then (.ok, s.adapter.activeCfg.slaveAddress.toUInt32)
  else if field = fieldActiveBaudRateCode then (.ok, s.adapter.activeCfg.baudRateCode.toUInt32)
  else if field = ModbusReg.nextBootSlaveAddress.row.field then
    (.ok, s.adapter.bootCfg.slaveAddress.toUInt32)
  else if field = ModbusReg.nextBootBaudRateCode.row.field then
    (.ok, s.adapter.bootCfg.baudRateCode.toUInt32)
  else (.notFound, 0)

def paramActionLoad : UInt16 := 2
def paramActionFactoryReset : UInt16 := 3
def paramActionSoftwareReset : UInt16 := 255

/-- The adapter's half of a system Param Action: `false` ends the action with a device failure. -/
def adapterParamAction (b : MbBuild) (o : Outcomes) (val : UInt16) (s : MbState) :
    Bool × MbState :=
  if val = paramActionLoad then
    match adapterLoadConfig o s with
    | .error _ => (false, s)
    | .ok candidate =>
      if !adapterConfigValid candidate then (false, s)
      else (true, { s with adapter.bootCfg := candidate })
  else if val = paramActionFactoryReset then
    let defaults := adapterDefaultConfig b
    let saved := adapterSaveConfig o defaults s
    match saved.1 with
    | .error _ => (false, saved.2)
    | .ok () => (true, { saved.2 with adapter.bootCfg := defaults })
  else (true, s)

/-- `handle_sys_param_action` over the state `v` of the other half, which `write` stands for;
`reset` is the answer of the reset register. -/
def handleSysParamAction {V : Type} (b : MbBuild) (o : Outcomes) (reset : RegStatus)
    (write : V → RegStatus × V) (val : UInt16) (s : MbState) (v : V) : MbResult × MbState × V :=
  if val = paramActionSoftwareReset then
    (if reset = .ok then .ok else .deviceFailure, s, v)
  else
    let half := adapterParamAction b o val s
    if !half.1 then (.deviceFailure, half.2, v)
    else
      let written := write v
      (regStToMbResult written.1, half.2, written.2)

end MbAdapter
