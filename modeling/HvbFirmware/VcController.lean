import HvbFirmware.VcChannelApi

/-!
# The controller

The functions of `lib/voltage_control/vc_controller.c` over all channels of a board. The
storage backend is a table of functions on a store whose type the model leaves open,
so any backend can be plugged in, a failing or a corrupting one included.
-/
namespace VcController

open VcTypes VcChannel

/-- `struct vc_storage_backend`: a NULL entry is `none`. A function answers with its return
code and the store after the call; the channel loads get the buffer as the caller filled it. -/
structure StorageBackend (σ : Type) where
  saveSystemConfig : Option (SystemConfig → σ → Int × σ)
  loadSystemConfig : Option (σ → Int × SystemConfig × σ)
  saveChannelConfig : Option (Nat → ChannelConfig → σ → Int × σ)
  loadChannelConfig : Option (Nat → ChannelConfig → σ → Int × ChannelConfig × σ)
  saveChannelCal : Option (Nat → ChannelCalConfig → σ → Int × σ)
  loadChannelCal : Option (Nat → ChannelCalConfig → σ → Int × ChannelCalConfig × σ)
  eraseAll : Option (σ → Int × σ)

/-- `struct vc_controller`, with the store that its backend works on. -/
structure Controller (σ : Type) where
  channels : List Channel
  operatingMode : OperatingMode
  preCalMode : OperatingMode
  calWatchdogMs : UInt32
  calUnlockStep : UInt8
  calUnlocked : Bool
  storage : Option (StorageBackend σ)
  sysCfg : SystemConfig
  store : σ

variable {σ : Type}

def calWatchdogReset (k : Kconfig) (ctrl : Controller σ) : Controller σ :=
  { ctrl with calWatchdogMs := k.calWatchdogTimeoutS * 1000 }

def calHeartbeat (k : Kconfig) (ctrl : Controller σ) : Controller σ :=
  if ctrl.operatingMode = .calibration then calWatchdogReset k ctrl else ctrl

def defaultSystemConfig (k : Kconfig) : SystemConfig := ⟨k.defaultOperatingMode, 0⟩

/-- `vc_controller_init`: the live mode starts NORMAL whatever the default configuration says. -/
def init (k : Kconfig) (nodes : List Node) (store : σ) : Controller σ where
  channels := nodes.map (VcChannel.init k)
  operatingMode := .normal
  preCalMode := .normal
  calWatchdogMs := 0
  calUnlockStep := 0
  calUnlocked := false
  storage := none
  sysCfg := defaultSystemConfig k
  store := store

/-- `vc_controller_init` over drivers with any `get_dt_defaults` hooks. -/
def initFrom (k : Kconfig) (drivers : List (Node × DtDefaults)) (store : σ) : Controller σ :=
  { init k (drivers.map (·.1)) store with
    channels := drivers.map fun driver => VcChannel.initFrom k driver.1 driver.2 }

theorem init_eq_initFrom (k : Kconfig) (nodes : List Node) (store : σ) :
    init k nodes store =
      initFrom k (nodes.map fun node => (node, node.getDtDefaults)) store := by
  simp [init, initFrom, Function.comp_def, ← VcChannel.init_eq_initFrom]

/-- The `channel_valid` check and a call on the channel, as the thin wrappers do it. -/
def onChannel (ctrl : Controller σ) (i : Nat) (call : Channel → VcStatus × Channel) :
    VcStatus × Controller σ :=
  match ctrl.channels[i]? with
  | none => (.errUnsupportedChannel, ctrl)
  | some ch => ((call ch).1, { ctrl with channels := ctrl.channels.set i (call ch).2 })

def channelOutputAction (ctrl : Controller σ) (i : Nat) (action : OutputAction) :
    VcStatus × Controller σ :=
  onChannel ctrl i fun ch =>
    if ctrl.operatingMode = .calibration then (.errInvalidCommand, ch)
    else outputAction ch action

def channelFaultCommand (ctrl : Controller σ) (i : Nat) (cmd : ChannelFaultCommand) :
    VcStatus × Controller σ :=
  onChannel ctrl i fun ch => faultCommand ch cmd

def channelSetField (k : Kconfig) (ctrl : Controller σ) (i : Nat) (field : ConfigField)
    (value : UInt16) : VcStatus × Controller σ :=
  onChannel ctrl i fun ch =>
    let r := setField k ch field value
    -- in AUTOMATIC a non-zero target enables the channel
    if r.1 = .ok ∧ field = .configuredTargetVoltage ∧ ctrl.operatingMode = .automatic ∧
        value.toInt16 ≠ 0 ∧ r.2.activeFaultCause = 0 then
      (r.1, (outputAction r.2 .enable).2)
    else r

/-! ## Operating mode -/

/-- `wants_output`: a DAC channel by its target, a fixed-voltage channel by its stored flag. -/
def wantsOutput (ch : Channel) : Bool :=
  if hasCap ch capRawOutputDrive then ch.config.configuredTargetVoltage ≠ 0
  else ch.config.configuredOutputEnabled

/-! The four passes of a transition over the channels, in the order of the source. -/

def leaveCalibration (old : OperatingMode) (ch : Channel) : Channel :=
  if old = .calibration then resetCalibration ch false else ch

def retreatToNormal (old new : OperatingMode) (ch : Channel) : Channel :=
  if new = .normal ∧ old = .automatic then (outputAction ch .disableGraceful).2 else ch

def enableWanting (new : OperatingMode) (ch : Channel) : Channel :=
  if new = .automatic ∧ wantsOutput ch ∧ ch.activeFaultCause = 0 then
    (outputAction ch .enable).2
  else ch

def enterCalibration (new : OperatingMode) (ch : Channel) : Channel :=
  if new = .calibration then resetCalibration ch true else ch

/-- The accepted part of `vc_controller_set_operating_mode`. -/
def transition (k : Kconfig) (ctrl : Controller σ) (mode : OperatingMode) : Controller σ :=
  let old := ctrl.operatingMode
  let channels := (((ctrl.channels.map (leaveCalibration old)).map (retreatToNormal old mode)).map
    (enableWanting mode)).map (enterCalibration mode)
  if mode = .calibration then
    { calWatchdogReset k ctrl with
      channels := channels
      preCalMode := old
      operatingMode := mode
      calUnlockStep := 0
      calUnlocked := false }
  else
    { ctrl with
      channels := channels
      operatingMode := mode
      sysCfg := { ctrl.sysCfg with operatingMode := mode } }

def isKnownMode : OperatingMode → Bool
  | .normal | .automatic | .calibration => true
  | .other _ => false

def setOperatingMode (k : Kconfig) (ctrl : Controller σ) (mode : OperatingMode) :
    VcStatus × Controller σ :=
  if !isKnownMode mode then (.errInvalidValue, ctrl)
  else if ctrl.operatingMode ≠ .calibration ∧ mode = .calibration ∧ !ctrl.calUnlocked then
    (.errInvalidCommand, ctrl)
  else if mode = ctrl.operatingMode then
    (.ok, if mode = .calibration then calWatchdogReset k ctrl else ctrl)
  else if mode = .automatic ∧ ctrl.operatingMode = .normal ∧
      ctrl.channels.any fun ch => ch.activeFaultCause != 0 then
    (.errUnsafeState, ctrl)
  else (.ok, transition k ctrl mode)

def calibrationUnlock (ctrl : Controller σ) (value : UInt16) : VcStatus × Controller σ :=
  if value = calUnlockStep1 then (.ok, { ctrl with calUnlockStep := 1, calUnlocked := false })
  else if value = calUnlockStep2 ∧ ctrl.calUnlockStep = 1 then
    (.ok, { ctrl with calUnlockStep := 0, calUnlocked := true })
  else (.errInvalidCommand, { ctrl with calUnlockStep := 0, calUnlocked := false })

def calExit (k : Kconfig) (ctrl : Controller σ) : VcStatus × Controller σ :=
  if ctrl.operatingMode ≠ .calibration then (.errInvalidCommand, ctrl)
  else setOperatingMode k ctrl ctrl.preCalMode

/-! ## System configuration -/

/-- A CALIBRATION record keeps the stored mode. -/
def storedConfig (ctrl : Controller σ) (cfg : SystemConfig) : SystemConfig :=
  if cfg.operatingMode = .calibration then
    { cfg with operatingMode := ctrl.sysCfg.operatingMode }
  else cfg

/-- The record is stored before the transition it asks for is checked. -/
def setSystemConfig (k : Kconfig) (ctrl : Controller σ) (cfg : SystemConfig) :
    VcStatus × Controller σ :=
  let stored := { ctrl with sysCfg := storedConfig ctrl cfg }
  if cfg.operatingMode ≠ ctrl.operatingMode then setOperatingMode k stored cfg.operatingMode
  else (.ok, stored)

def setSystemField (k : Kconfig) (ctrl : Controller σ) (field : ConfigField) (value : UInt16) :
    VcStatus × Controller σ :=
  match field with
  | .operatingMode => setOperatingMode k ctrl (.ofValue value)
  | .startupChannelPolicy =>
    setSystemConfig k ctrl { ctrl.sysCfg with startupChannelPolicy := value }
  | _ => (.errInvalidValue, ctrl)

/-! ## Tick -/

def tick (k : Kconfig) (ctrl : Controller σ) (dtMs : UInt32) : Controller σ :=
  if ctrl.operatingMode = .calibration then
    if dtMs ≥ ctrl.calWatchdogMs then (calExit k ctrl).2
    else { ctrl with calWatchdogMs := ctrl.calWatchdogMs - dtMs }
  else { ctrl with channels := ctrl.channels.map fun ch => VcChannel.run k ch dtMs ctrl.sysCfg }

/-! ## Storage -/

def setStorageBackend (ctrl : Controller σ) (backend : Option (StorageBackend σ)) :
    Controller σ :=
  { ctrl with storage := backend }

def systemParamAction (k : Kconfig) (ctrl : Controller σ) (action : ParamAction) :
    VcStatus × Controller σ :=
  match action with
  | .none => (.ok, ctrl)
  | .save =>
    match ctrl.storage.bind (·.saveSystemConfig) with
    | none => (.errStorage, ctrl)
    | some save =>
      let r := save ctrl.sysCfg ctrl.store
      (if r.1 < 0 then .errStorage else .ok, { ctrl with store := r.2 })
  | .load =>
    match ctrl.storage.bind (·.loadSystemConfig) with
    | none => (.errStorage, ctrl)
    | some load =>
      let r := load ctrl.store
      let ctrl := { ctrl with store := r.2.2 }
      if r.1 = errNoEnt then (.ok, ctrl)
      else if r.1 < 0 then (.errStorage, ctrl)
      else setSystemConfig k ctrl r.2.1
  | .factoryReset =>
    (.ok, { ctrl with
      store := match ctrl.storage.bind (·.eraseAll) with
        | some erase => (erase ctrl.store).2
        | none => ctrl.store
      sysCfg := defaultSystemConfig k
      operatingMode := .normal })
  | .other _ => (.errInvalidValue, ctrl)

/-- `vc_channel_load_cal` when the backend's load returned zero. -/
def applyStoredCal (ch : Channel) (ret : Int) (cal : ChannelCalConfig) : Channel :=
  if ret = 0 then loadCal ch cal else ch

/-- The end of LOAD and FACTORY_RESET: with the configuration accepted, the stored
calibration is put back too. -/
def putBack (ctrl : Controller σ) (i : Nat) (s : VcStatus × Channel) :
    VcStatus × Controller σ :=
  if s.1 ≠ .ok then (s.1, ctrl)
  else
    match ctrl.storage.bind (·.loadChannelCal) with
    | none => (.ok, { ctrl with channels := ctrl.channels.set i s.2 })
    | some load =>
      let r := load i s.2.calConfig ctrl.store
      (.ok, { ctrl with
        store := r.2.2
        channels := ctrl.channels.set i (applyStoredCal s.2 r.1 r.2.1) })

/-- A record is applied when the load returned zero; `-ENOENT` leaves the configuration. -/
def applyLoaded (k : Kconfig) (ch : Channel) (ret : Int) (cfg : ChannelConfig) :
    VcStatus × Channel :=
  if ret = 0 then setConfig k ch cfg else (.ok, ch)

def channelParamAction (k : Kconfig) (ctrl : Controller σ) (i : Nat) (action : ParamAction) :
    VcStatus × Controller σ :=
  match ctrl.channels[i]? with
  | none => (.errUnsupportedChannel, ctrl)
  | some ch =>
    match action with
    | .none => (.ok, ctrl)
    | .save =>
      match ctrl.storage.bind (·.saveChannelConfig) with
      | none => (.errStorage, ctrl)
      | some save =>
        let r := save i ch.config ctrl.store
        (if r.1 < 0 then .errStorage else .ok, { ctrl with store := r.2 })
    | .load =>
      match ctrl.storage.bind (·.loadChannelConfig) with
      | none => (.errStorage, ctrl)
      | some load =>
        let r := load i ch.config ctrl.store
        let ctrl := { ctrl with store := r.2.2 }
        if r.1 < 0 ∧ r.1 ≠ errNoEnt then (.errStorage, ctrl)
        else putBack ctrl i (applyLoaded k ch r.1 r.2.1)
    | .factoryReset => putBack ctrl i (setConfig k ch (defaultConfig k))
    | .other _ => (.errInvalidValue, ctrl)

/-! ## Calibration -/

/-- The check that the calibration commands share. -/
def sessionCall (ctrl : Controller σ) (call : Channel → VcStatus × Channel) (ch : Channel) :
    VcStatus × Channel :=
  if ctrl.operatingMode ≠ .calibration then (.errInvalidCommand, ch) else call ch

/-- A calibration command: a valid channel, a running session, and the watchdog restarted
when the call is accepted. -/
def inSession (k : Kconfig) (ctrl : Controller σ) (i : Nat)
    (call : Channel → VcStatus × Channel) : VcStatus × Controller σ :=
  let r := onChannel ctrl i (sessionCall ctrl call)
  if r.1 = .ok then (r.1, calWatchdogReset k r.2) else r

def channelSetCalField (k : Kconfig) (ctrl : Controller σ) (i : Nat) (field : CalField)
    (value : UInt16) : VcStatus × Controller σ :=
  inSession k ctrl i fun ch => setCalField ch field value

/-- Whether another channel than `i` has its calibration output on. -/
def otherChannelDriven (ctrl : Controller σ) (i : Nat) : Bool :=
  (List.range ctrl.channels.length).any fun j => j ≠ i ∧
    ctrl.channels[j]?.any fun ch => ch.calOutputEnabled != 0 || ch.rawDacReadback != 0

def channelCalOutputEnable (k : Kconfig) (ctrl : Controller σ) (i : Nat) (enable : Bool) :
    VcStatus × Controller σ :=
  inSession k ctrl i fun ch =>
    if enable ∧ otherChannelDriven ctrl i then (.errUnsafeState, ch)
    else calSetOutputEnable ch enable

def channelCalRawDac (k : Kconfig) (ctrl : Controller σ) (i : Nat) (code : UInt32) :
    VcStatus × Controller σ :=
  inSession k ctrl i fun ch => calSetRawDac k ch code

def channelCalSample (k : Kconfig) (ctrl : Controller σ) (i : Nat) : VcStatus × Controller σ :=
  inSession k ctrl i calSample

def channelCalCommit (k : Kconfig) (ctrl : Controller σ) (i : Nat) : VcStatus × Controller σ :=
  let r := inSession k ctrl i fun ch => (calCommit ch, ch)
  if r.1 ≠ .ok then r
  else
    match ctrl.storage.bind (·.saveChannelCal), ctrl.channels[i]? with
    | some save, some ch =>
      let s := save i ch.calConfig ctrl.store
      (if s.1 < 0 then .errStorage else .ok, { r.2 with store := s.2 })
    | _, _ => r

end VcController
