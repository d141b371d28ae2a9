import HvbFirmware.VcController
import HvbFirmware.VcChannelFrame

/-!
# Runs of the controller

One operation of the controller as a step. What a step does is split in two: `Control` is the
live mode, the stored system configuration and the unlock state, and `channelOps` lists the
calls that the operation makes on one channel. `control_step` and `getElem?_step` say that
the split is exact, so that an invariant of a run is proved from these two alone.
-/
namespace VcController

open VcTypes VcChannel Runs

/-- The public functions of `vc_controller.h` that change state, and what the driver does
between them: it publishes samples and reports faults. -/
inductive ControllerOp (σ : Type) where
  | setOperatingMode (mode : OperatingMode)
  | calibrationUnlock (value : UInt16)
  | calExit
  | calHeartbeat
  | setSystemConfig (cfg : SystemConfig)
  | setSystemField (field : ConfigField) (value : UInt16)
  | tick (dtMs : UInt32)
  | channelSetField (i : Nat) (field : ConfigField) (value : UInt16)
  | channelOutputAction (i : Nat) (action : OutputAction)
  | channelFaultCommand (i : Nat) (cmd : ChannelFaultCommand)
  | channelSetCalField (i : Nat) (field : CalField) (value : UInt16)
  | setStorageBackend (backend : Option (StorageBackend σ))
  | systemParamAction (action : ParamAction)
  | channelParamAction (i : Nat) (action : ParamAction)
  | channelCalOutputEnable (i : Nat) (enable : Bool)
  | channelCalRawDac (i : Nat) (code : UInt32)
  | channelCalSample (i : Nat)
  | channelCalCommit (i : Nat)
  | publishVoltage (i : Nat) (raw : Int32) (timestampMs : UInt32)
  | publishCurrent (i : Nat) (raw : Int32) (timestampMs : UInt32)
  | consumeFault (i : Nat) (cause : UInt16)

variable {σ : Type}

def ControllerOp.call (k : Kconfig) (ctrl : Controller σ) :
    ControllerOp σ → VcStatus × Controller σ
  | .setOperatingMode mode => VcController.setOperatingMode k ctrl mode
  | .calibrationUnlock value => VcController.calibrationUnlock ctrl value
  | .calExit => VcController.calExit k ctrl
  | .calHeartbeat => (.ok, VcController.calHeartbeat k ctrl)
  | .setSystemConfig cfg => VcController.setSystemConfig k ctrl cfg
  | .setSystemField field value => VcController.setSystemField k ctrl field value
  | .tick dtMs => (.ok, VcController.tick k ctrl dtMs)
  | .channelSetField i field value => VcController.channelSetField k ctrl i field value
  | .channelOutputAction i action => VcController.channelOutputAction ctrl i action
  | .channelFaultCommand i cmd => VcController.channelFaultCommand ctrl i cmd
  | .channelSetCalField i field value => VcController.channelSetCalField k ctrl i field value
  | .setStorageBackend backend => (.ok, VcController.setStorageBackend ctrl backend)
  | .systemParamAction action => VcController.systemParamAction k ctrl action
  | .channelParamAction i action => VcController.channelParamAction k ctrl i action
  | .channelCalOutputEnable i enable => VcController.channelCalOutputEnable k ctrl i enable
  | .channelCalRawDac i code => VcController.channelCalRawDac k ctrl i code
  | .channelCalSample i => VcController.channelCalSample k ctrl i
  | .channelCalCommit i => VcController.channelCalCommit k ctrl i
  | .publishVoltage i raw ts => onChannel ctrl i fun ch => (.ok, VcChannel.publishVoltage ch raw ts)
  | .publishCurrent i raw ts => onChannel ctrl i fun ch => (.ok, VcChannel.publishCurrent ch raw ts)
  | .consumeFault i cause => onChannel ctrl i fun ch => (.ok, VcChannel.consumeFault ch cause)

def ControllerOp.step (k : Kconfig) (ctrl : Controller σ) (op : ControllerOp σ) : Controller σ :=
  (op.call k ctrl).2

/-! ## Mode requests -/

/-- The record that an operation hands to `vc_controller_set_system_config`. -/
def ControllerOp.record (ctrl : Controller σ) : ControllerOp σ → Option SystemConfig
  | .setSystemConfig cfg => some cfg
  | .setSystemField .startupChannelPolicy value =>
    some { ctrl.sysCfg with startupChannelPolicy := value }
  | .systemParamAction .load =>
    match ctrl.storage.bind (·.loadSystemConfig) with
    | none => none
    | some load => if (load ctrl.store).1 < 0 then none else some (load ctrl.store).2.1
  | _ => none

/-- The mode that an operation hands to `vc_controller_set_operating_mode`. -/
def ControllerOp.request (ctrl : Controller σ) : ControllerOp σ → Option OperatingMode
  | .setOperatingMode mode => some mode
  | .setSystemField .operatingMode value => some (.ofValue value)
  | .calExit => if ctrl.operatingMode = .calibration then some ctrl.preCalMode else none
  | .tick dtMs =>
    if ctrl.operatingMode = .calibration ∧ dtMs ≥ ctrl.calWatchdogMs then some ctrl.preCalMode
    else none
  | op => (op.record ctrl).bind fun cfg =>
    if cfg.operatingMode ≠ ctrl.operatingMode then some cfg.operatingMode else none

/-- Whether the mode write is carried out: the mode is another one, CALIBRATION needs the
unlock, and NORMAL to AUTOMATIC needs every channel free of faults. -/
def canMove (ctrl : Controller σ) (mode : OperatingMode) : Bool :=
  isKnownMode mode && mode != ctrl.operatingMode &&
    (mode != .calibration || ctrl.calUnlocked) &&
    !(mode == .automatic && ctrl.operatingMode == .normal &&
      ctrl.channels.any fun ch => ch.activeFaultCause != 0)

/-- The mode that an operation brings the controller to, if it carries out a transition. -/
def ControllerOp.movesTo (ctrl : Controller σ) (op : ControllerOp σ) : Option OperatingMode :=
  (op.request ctrl).filter (canMove ctrl)

theorem setOperatingMode_of_canMove (k : Kconfig) (ctrl : Controller σ) (mode : OperatingMode)
    (h : canMove ctrl mode) : setOperatingMode k ctrl mode = (.ok, transition k ctrl mode) := by
  unfold canMove at h
  unfold setOperatingMode
  grind

theorem setOperatingMode_of_not_canMove (k : Kconfig) (ctrl : Controller σ)
    (mode : OperatingMode) (h : canMove ctrl mode = false) :
    (setOperatingMode k ctrl mode).2 = ctrl ∨
      (setOperatingMode k ctrl mode).2 = calWatchdogReset k ctrl := by
  unfold canMove at h
  unfold setOperatingMode
  grind

/-! ## The control state -/

/-- The part of the controller that decides what an operation does, without the channels. -/
structure Control where
  mode : OperatingMode
  preCal : OperatingMode
  unlockStep : UInt8
  unlocked : Bool
  sysCfg : SystemConfig

def control (ctrl : Controller σ) : Control where
  mode := ctrl.operatingMode
  preCal := ctrl.preCalMode
  unlockStep := ctrl.calUnlockStep
  unlocked := ctrl.calUnlocked
  sysCfg := ctrl.sysCfg

namespace Control

def enter (c : Control) (mode : OperatingMode) : Control :=
  if mode = .calibration then
    { c with mode := mode, preCal := c.mode, unlockStep := 0, unlocked := false }
  else { c with mode := mode, sysCfg := { c.sysCfg with operatingMode := mode } }

def store (c : Control) (cfg : SystemConfig) : Control :=
  { c with sysCfg := if cfg.operatingMode = .calibration then
      { cfg with operatingMode := c.sysCfg.operatingMode } else cfg }

def unlock (c : Control) (value : UInt16) : Control :=
  if value = calUnlockStep1 then { c with unlockStep := 1, unlocked := false }
  else if value = calUnlockStep2 ∧ c.unlockStep = 1 then
    { c with unlockStep := 0, unlocked := true }
  else { c with unlockStep := 0, unlocked := false }

/-- The record of an operation, if it has one, is stored. -/
def recorded (c : Control) (record : Option SystemConfig) : Control :=
  match record with
  | some cfg => c.store cfg
  | none => c

/-- The transition of an operation, if it carries one out, is made. -/
def moved (c : Control) (mode : Option OperatingMode) : Control :=
  match mode with
  | some mode => c.enter mode
  | none => c

theorem moved_filter (c : Control) (mode : OperatingMode) (p : OperatingMode → Bool) :
    c.moved ((some mode).filter p) = if p mode then c.enter mode else c := by
  cases h : p mode <;> simp [moved, Option.filter, h]

end Control

def ControllerOp.controlAfter (k : Kconfig) (ctrl : Controller σ) (op : ControllerOp σ) : Control :=
  match op with
  | .calibrationUnlock value => (control ctrl).unlock value
  | .systemParamAction .factoryReset =>
    { control ctrl with mode := .normal, sysCfg := defaultSystemConfig k }
  | op => ((control ctrl).recorded (op.record ctrl)).moved (op.movesTo ctrl)

theorem control_transition (k : Kconfig) (ctrl : Controller σ) (mode : OperatingMode) :
    control (transition k ctrl mode) = (control ctrl).enter mode := by
  unfold transition Control.enter
  dsimp only
  split <;> rfl

theorem control_setOperatingMode (k : Kconfig) (ctrl : Controller σ) (mode : OperatingMode) :
    control (setOperatingMode k ctrl mode).2 =
      if canMove ctrl mode then (control ctrl).enter mode else control ctrl := by
  cases h : canMove ctrl mode with
  | true => simp [setOperatingMode_of_canMove k ctrl mode h, control_transition]
  | false =>
    rcases setOperatingMode_of_not_canMove k ctrl mode h with h | h <;> rw [h] <;> rfl

theorem control_setSystemConfig (k : Kconfig) (ctrl : Controller σ) (cfg : SystemConfig) :
    control (setSystemConfig k ctrl cfg).2 =
      if cfg.operatingMode ≠ ctrl.operatingMode ∧ canMove ctrl cfg.operatingMode then
        ((control ctrl).store cfg).enter cfg.operatingMode
      else (control ctrl).store cfg := by
  unfold setSystemConfig
  dsimp only
  by_cases hmode : cfg.operatingMode ≠ ctrl.operatingMode
  · rw [if_pos hmode, control_setOperatingMode]
    simp only [hmode, ne_eq, not_false_eq_true, true_and]
    rfl
  · rw [if_neg hmode, if_neg fun h => hmode h.1]
    rfl

theorem control_onChannel (ctrl : Controller σ) (i : Nat) (call : Channel → VcStatus × Channel) :
    control (onChannel ctrl i call).2 = control ctrl := by
  unfold onChannel
  split <;> rfl

theorem control_inSession (k : Kconfig) (ctrl : Controller σ) (i : Nat)
    (call : Channel → VcStatus × Channel) :
    control (inSession k ctrl i call).2 = control ctrl := by
  unfold inSession
  dsimp only
  split
  · exact control_onChannel ctrl i _
  · exact control_onChannel ctrl i _

theorem control_putBack (ctrl : Controller σ) (i : Nat) (s : VcStatus × Channel) :
    control (putBack ctrl i s).2 = control ctrl := by
  unfold putBack
  split
  · rfl
  · split <;> rfl

theorem control_channelParamAction (k : Kconfig) (ctrl : Controller σ) (i : Nat)
    (action : ParamAction) : control (channelParamAction k ctrl i action).2 = control ctrl := by
  unfold channelParamAction
  split
  · rfl
  split
  · rfl
  · split <;> rfl
  · split
    · rfl
    dsimp only
    split
    · rfl
    · exact control_putBack _ i _
  · exact control_putBack _ i _
  · rfl

theorem control_channelCalCommit (k : Kconfig) (ctrl : Controller σ) (i : Nat) :
    control (channelCalCommit k ctrl i).2 = control ctrl := by
  have h := control_inSession k ctrl i fun ch => (calCommit ch, ch)
  unfold channelCalCommit
  dsimp only
  split
  · exact h
  · split <;> exact h

theorem control_calExit (k : Kconfig) (ctrl : Controller σ)
    (hmode : ctrl.operatingMode = .calibration) :
    control (calExit k ctrl).2 =
      (control ctrl).moved ((some ctrl.preCalMode).filter (canMove ctrl)) := by
  rw [Control.moved_filter, ← control_setOperatingMode k, calExit, if_neg (by simpa using hmode)]

/-- The mode that a stored record asks for. -/
theorem control_recorded (k : Kconfig) (ctrl : Controller σ) (cfg : SystemConfig) :
    control (setSystemConfig k ctrl cfg).2 = ((control ctrl).recorded (some cfg)).moved
      (((some cfg).bind fun cfg => if cfg.operatingMode ≠ ctrl.operatingMode then
        some cfg.operatingMode else none).filter (canMove ctrl)) := by
  rw [control_setSystemConfig]
  by_cases hmode : cfg.operatingMode ≠ ctrl.operatingMode
  · simp only [hmode, ne_eq, not_false_eq_true, true_and, Option.bind_some, if_true,
      Control.moved_filter, Control.recorded]
  · have hmode : cfg.operatingMode = ctrl.operatingMode := by simpa using hmode
    simp [hmode, Control.moved, Control.recorded]

theorem ne_errNoEnt {rc : Int} (h : ¬ rc < 0) : rc ≠ errNoEnt := by
  rintro rfl
  exact h (by decide)

theorem control_systemParamAction (k : Kconfig) (ctrl : Controller σ) (action : ParamAction) :
    control (systemParamAction k ctrl action).2 =
      (ControllerOp.systemParamAction action : ControllerOp σ).controlAfter k ctrl := by
  cases action with
  | none => rfl
  | other value => rfl
  | factoryReset => rfl
  | save =>
    unfold systemParamAction
    dsimp only
    split <;> rfl
  | load =>
    cases hload : ctrl.storage.bind (·.loadSystemConfig) with
    | none =>
      simp only [systemParamAction, ControllerOp.controlAfter, ControllerOp.movesTo,
        ControllerOp.request, ControllerOp.record, hload]
      rfl
    | some load =>
      simp only [systemParamAction, ControllerOp.controlAfter, ControllerOp.movesTo,
        ControllerOp.request, ControllerOp.record, hload]
      by_cases hneg : (load ctrl.store).1 < 0
      · rw [if_pos hneg, if_pos hneg]
        split <;> rfl
      · have hent := ne_errNoEnt hneg
        rw [if_neg hneg, if_neg hneg, if_neg hent]
        exact control_recorded k { ctrl with store := _ } _

theorem control_step (k : Kconfig) (ctrl : Controller σ) (op : ControllerOp σ) :
    control (op.step k ctrl) = op.controlAfter k ctrl := by
  cases op with
  | setOperatingMode mode =>
    exact (control_setOperatingMode k ctrl mode).trans
      (Control.moved_filter (control ctrl) mode _).symm
  | calibrationUnlock value =>
    show control (calibrationUnlock ctrl value).2 = (control ctrl).unlock value
    unfold calibrationUnlock Control.unlock
    by_cases h₁ : value = calUnlockStep1
    · rw [if_pos h₁, if_pos h₁]
      rfl
    rw [if_neg h₁, if_neg h₁]
    by_cases h₂ : value = calUnlockStep2 ∧ (control ctrl).unlockStep = 1
    · rw [if_pos h₂]
      exact congrArg (fun r : VcStatus × Controller σ => control r.2) (if_pos h₂)
    · rw [if_neg h₂]
      exact congrArg (fun r : VcStatus × Controller σ => control r.2) (if_neg h₂)
  | calExit =>
    show control (calExit k ctrl).2 = (control ctrl).moved
      (Option.filter (canMove ctrl) (if _ then _ else _))
    split
    next hmode => exact control_calExit k ctrl hmode
    next hmode =>
      rw [calExit, if_pos hmode]
      rfl
  | calHeartbeat =>
    show control (calHeartbeat k ctrl) = control ctrl
    unfold calHeartbeat
    split <;> rfl
  | setSystemConfig cfg => exact control_recorded k ctrl cfg
  | setSystemField field value =>
    cases field
    case operatingMode =>
      exact (control_setOperatingMode k ctrl _).trans
        (Control.moved_filter (control ctrl) _ _).symm
    case startupChannelPolicy => exact control_recorded k ctrl _
    all_goals rfl
  | tick dtMs =>
    show control (tick k ctrl dtMs) = (control ctrl).moved
      (Option.filter (canMove ctrl) (if _ then _ else _))
    unfold tick
    by_cases hmode : ctrl.operatingMode = .calibration
    · rw [if_pos hmode]
      by_cases hdt : dtMs ≥ ctrl.calWatchdogMs
      · rw [if_pos hdt, if_pos ⟨hmode, hdt⟩]
        exact control_calExit k ctrl hmode
      · rw [if_neg hdt, if_neg fun h => hdt h.2]
        rfl
    · rw [if_neg hmode, if_neg fun h => hmode h.1]
      rfl
  | systemParamAction action => exact control_systemParamAction k ctrl action
  | setStorageBackend backend => rfl
  | channelSetField i field value => exact control_onChannel ctrl i _
  | channelOutputAction i action => exact control_onChannel ctrl i _
  | channelFaultCommand i cmd => exact control_onChannel ctrl i _
  | channelSetCalField i field value => exact control_inSession k ctrl i _
  | channelParamAction i action => exact control_channelParamAction k ctrl i action
  | channelCalOutputEnable i enable => exact control_inSession k ctrl i _
  | channelCalRawDac i code => exact control_inSession k ctrl i _
  | channelCalSample i => exact control_inSession k ctrl i _
  | channelCalCommit i => exact control_channelCalCommit k ctrl i
  | publishVoltage i raw ts => exact control_onChannel ctrl i _
  | publishCurrent i raw ts => exact control_onChannel ctrl i _
  | consumeFault i cause => exact control_onChannel ctrl i _

/-! ## The calls on one channel -/

/-- The calls of a transition from `old` to `new` on a channel. -/
def transitionOps (old new : OperatingMode) (ch : Channel) : List ChannelOp :=
  (if old = .calibration then [.resetCalibration false] else []) ++
  (if new = .normal ∧ old = .automatic then [.outputAction .disableGraceful] else []) ++
  (if new = .automatic ∧ wantsOutput ch ∧ ch.activeFaultCause = 0 then
    [.outputAction .enable] else []) ++
  (if new = .calibration then [.resetCalibration true] else [])

/-- The call that puts stored calibration back, for a store as it is when it is read. -/
def storedCalOps (ctrl : Controller σ) (i : Nat) (ch : Channel) : List ChannelOp :=
  match ctrl.storage.bind (·.loadChannelCal) with
  | none => []
  | some load =>
    let r := load i ch.calConfig ctrl.store
    if r.1 = 0 then [.loadCal r.2.1] else []

def paramOps (k : Kconfig) (ctrl : Controller σ) (i : Nat) (ch : Channel) :
    ParamAction → List ChannelOp
  | .load =>
    match ctrl.storage.bind (·.loadChannelConfig) with
    | none => []
    | some load =>
      let r := load i ch.config ctrl.store
      if r.1 < 0 ∧ r.1 ≠ errNoEnt then []
      else if (applyLoaded k ch r.1 r.2.1).1 ≠ .ok then []
      else (if r.1 = 0 then [.setConfig r.2.1] else []) ++
        storedCalOps { ctrl with store := r.2.2 } i ch
  | .factoryReset =>
    if (VcChannel.setConfig k ch (defaultConfig k)).1 ≠ .ok then []
    else .setConfig (defaultConfig k) :: storedCalOps ctrl i ch
  | _ => []

/-- The calls of an operation that is not a transition on channel `i`, whose state is `ch`. -/
def ControllerOp.calls (k : Kconfig) (ctrl : Controller σ) (op : ControllerOp σ) (i : Nat)
    (ch : Channel) : List ChannelOp :=
  match op with
  | .tick dtMs => if ctrl.operatingMode = .calibration then [] else runOps ctrl.sysCfg dtMs
  | .channelSetField j field value =>
    if j ≠ i then []
    else if (setField k ch field value).1 = .ok ∧ field = .configuredTargetVoltage ∧
        ctrl.operatingMode = .automatic ∧ value.toInt16 ≠ 0 ∧
        (setField k ch field value).2.activeFaultCause = 0 then
      [.setField field value, .outputAction .enable]
    else [.setField field value]
  | .channelOutputAction j action =>
    if j ≠ i ∨ ctrl.operatingMode = .calibration then [] else [.outputAction action]
  | .channelFaultCommand j cmd => if j ≠ i then [] else [.faultCommand cmd]
  | .channelParamAction j action => if j ≠ i then [] else paramOps k ctrl i ch action
  | .channelSetCalField j field value =>
    if j ≠ i ∨ ctrl.operatingMode ≠ .calibration then [] else [.setCalField field value]
  | .channelCalOutputEnable j enable =>
    if j ≠ i ∨ ctrl.operatingMode ≠ .calibration ∨ enable ∧ otherChannelDriven ctrl i then []
    else [.calSetOutputEnable enable]
  | .channelCalRawDac j code =>
    if j ≠ i ∨ ctrl.operatingMode ≠ .calibration then [] else [.calSetRawDac code]
  | .channelCalSample j =>
    if j ≠ i ∨ ctrl.operatingMode ≠ .calibration then [] else [.calSample]
  | .publishVoltage j raw ts => if j ≠ i then [] else [.publishVoltage raw ts]
  | .publishCurrent j raw ts => if j ≠ i then [] else [.publishCurrent raw ts]
  | .consumeFault j cause => if j ≠ i then [] else [.consumeFault cause]
  | _ => []

def movedOps (old : OperatingMode) (mode : Option OperatingMode) (ch : Channel) :
    List ChannelOp :=
  match mode with
  | some mode => transitionOps old mode ch
  | none => []

/-- All calls that an operation makes on channel `i`, whose state is `ch`; an operation that
can carry out a transition makes no others. -/
def ControllerOp.channelOps (k : Kconfig) (ctrl : Controller σ) (op : ControllerOp σ) (i : Nat)
    (ch : Channel) : List ChannelOp :=
  movedOps ctrl.operatingMode (op.movesTo ctrl) ch ++ op.calls k ctrl i ch

/-! Calibration resets leave what the passes of a transition decide from. -/

theorem wantsOutput_congr {ch ch' : Channel} (hcaps : ch'.capabilities = ch.capabilities)
    (hconfig : ch'.config = ch.config) : wantsOutput ch' = wantsOutput ch := by
  unfold wantsOutput VcChannel.hasCap
  rw [hcaps, hconfig]

theorem wants_leaveCalibration (old : OperatingMode) (ch : Channel) :
    wantsOutput (leaveCalibration old ch) = wantsOutput ch ∧
      (leaveCalibration old ch).activeFaultCause = ch.activeFaultCause := by
  unfold leaveCalibration
  split
  · have hconfig : (resetCalibration ch false).config = ch.config := applyHw_config _
    have hdrive : drive (resetCalibration ch false) = drive (refresh _) := rfl
    rw [drive_refresh] at hdrive
    have hcaps : (resetCalibration ch false).capabilities = ch.capabilities :=
      congrArg Drive.capabilities hdrive
    exact ⟨wantsOutput_congr hcaps hconfig, congrArg Drive.active hdrive⟩
  · exact ⟨rfl, rfl⟩

theorem exec_transitionOps (k : Kconfig) (old new : OperatingMode) (ch : Channel) :
    exec (ChannelOp.step k) ch (transitionOps old new ch) =
      enterCalibration new (enableWanting new
        (retreatToNormal old new (leaveCalibration old ch))) := by
  have hleave : exec (ChannelOp.step k) ch
      (if old = .calibration then [.resetCalibration false] else []) = leaveCalibration old ch := by
    unfold leaveCalibration
    split <;> rfl
  obtain ⟨hwants, hactive⟩ := wants_leaveCalibration old ch
  simp only [transitionOps, exec_append, hleave]
  generalize leaveCalibration old ch = ch₁ at hwants hactive
  have hretreat : exec (ChannelOp.step k) ch₁
      (if new = .normal ∧ old = .automatic then [.outputAction .disableGraceful] else []) =
        retreatToNormal old new ch₁ := by
    unfold retreatToNormal
    split <;> rfl
  rw [hretreat]
  have henable : exec (ChannelOp.step k) (retreatToNormal old new ch₁)
      (if new = .automatic ∧ wantsOutput ch ∧ ch.activeFaultCause = 0 then
        [.outputAction .enable] else []) = enableWanting new (retreatToNormal old new ch₁) := by
    unfold enableWanting
    by_cases hnew : new = .automatic
    · rw [retreatToNormal, if_neg (by simp [hnew]), hwants, hactive]
      split <;> rfl
    · simp [hnew]
  rw [henable]
  unfold enterCalibration
  split <;> rfl

theorem getElem?_transition (k : Kconfig) (ctrl : Controller σ) (mode : OperatingMode)
    (i : Nat) :
    (transition k ctrl mode).channels[i]? = ctrl.channels[i]?.map fun ch =>
      exec (ChannelOp.step k) ch (transitionOps ctrl.operatingMode mode ch) := by
  have hchannels : (transition k ctrl mode).channels =
      (((ctrl.channels.map (leaveCalibration ctrl.operatingMode)).map
        (retreatToNormal ctrl.operatingMode mode)).map (enableWanting mode)).map
          (enterCalibration mode) := by
    unfold transition
    dsimp only
    split <;> rfl
  rw [hchannels]
  simp only [List.getElem?_map, Option.map_map, Function.comp_def, exec_transitionOps]

theorem getElem?_setOperatingMode (k : Kconfig) (ctrl : Controller σ) (mode : OperatingMode)
    (i : Nat) :
    (setOperatingMode k ctrl mode).2.channels[i]? = ctrl.channels[i]?.map fun ch =>
      exec (ChannelOp.step k) ch
        (movedOps ctrl.operatingMode ((some mode).filter (canMove ctrl)) ch) := by
  cases h : canMove ctrl mode with
  | true =>
    rw [setOperatingMode_of_canMove k ctrl mode h, getElem?_transition]
    simp [movedOps, Option.filter, h]
  | false =>
    have hsame : (setOperatingMode k ctrl mode).2.channels = ctrl.channels := by
      rcases setOperatingMode_of_not_canMove k ctrl mode h with h | h
      · rw [h]
      · rw [h]
        rfl
    simp [hsame, movedOps, Option.filter, h]

theorem getElem?_setSystemConfig (k : Kconfig) (ctrl : Controller σ) (cfg : SystemConfig)
    (i : Nat) :
    (setSystemConfig k ctrl cfg).2.channels[i]? = ctrl.channels[i]?.map fun ch =>
      exec (ChannelOp.step k) ch (movedOps ctrl.operatingMode
        (((some cfg).bind fun cfg => if cfg.operatingMode ≠ ctrl.operatingMode then
          some cfg.operatingMode else none).filter (canMove ctrl)) ch) := by
  unfold setSystemConfig
  dsimp only
  by_cases hmode : cfg.operatingMode ≠ ctrl.operatingMode
  · simp only [Option.bind_some, if_pos hmode]
    exact getElem?_setOperatingMode k { ctrl with sysCfg := storedConfig ctrl cfg } _ i
  · simp only [Option.bind_some, if_neg hmode]
    simp [movedOps]

theorem getElem?_onChannel (ctrl : Controller σ) (j : Nat) (call : Channel → VcStatus × Channel)
    (i : Nat) :
    (onChannel ctrl j call).2.channels[i]? = ctrl.channels[i]?.map fun ch =>
      if j ≠ i then ch else (call ch).2 := by
  unfold onChannel
  split
  next hnone =>
    by_cases hi : j = i
    · subst hi
      simp [hnone]
    · simp [hi]
  next ch hsome =>
    by_cases hi : j = i
    · subst hi
      obtain ⟨hlt, -⟩ := List.getElem?_eq_some_iff.mp hsome
      simp [hsome, List.getElem?_set_self hlt]
    · simp [hi, List.getElem?_set_ne hi]

theorem getElem?_inSession (k : Kconfig) (ctrl : Controller σ) (j : Nat)
    (call : Channel → VcStatus × Channel) (i : Nat) :
    (inSession k ctrl j call).2.channels[i]? = ctrl.channels[i]?.map fun ch =>
      if j ≠ i ∨ ctrl.operatingMode ≠ .calibration then ch else (call ch).2 := by
  have hchannels : (inSession k ctrl j call).2.channels =
      (onChannel ctrl j (sessionCall ctrl call)).2.channels := by
    unfold inSession
    dsimp only
    split <;> rfl
  rw [hchannels, getElem?_onChannel]
  congr 1
  funext ch
  unfold sessionCall
  grind

theorem setConfig_calConfig (k : Kconfig) (ch : Channel) (cfg : ChannelConfig) :
    (VcChannel.setConfig k ch cfg).2.calConfig = ch.calConfig := by
  unfold VcChannel.setConfig
  dsimp only
  split
  · rfl
  split
  · rfl
  split
  · rfl
  split
  · rfl
  · exact applyHw_calConfig _

theorem getElem?_putBack (ctrl : Controller σ) (k : Kconfig) (j : Nat) (ch : Channel)
    (s : VcStatus × Channel) (hch : ctrl.channels[j]? = some ch)
    (hcal : s.2.calConfig = ch.calConfig) :
    (putBack ctrl j s).2.channels[j]? =
      some (if s.1 ≠ .ok then ch else exec (ChannelOp.step k) s.2 (storedCalOps ctrl j ch)) := by
  obtain ⟨hlt, -⟩ := List.getElem?_eq_some_iff.mp hch
  unfold putBack
  split
  · exact hch
  cases hload : ctrl.storage.bind (·.loadChannelCal) with
  | none => simp [storedCalOps, hload, List.getElem?_set_self hlt]
  | some load =>
    simp only [storedCalOps, hload, List.getElem?_set_self hlt, hcal]
    unfold applyStoredCal
    split <;> rfl

theorem getElem?_putBack_ne (ctrl : Controller σ) (i j : Nat) (s : VcStatus × Channel)
    (hij : j ≠ i) : (putBack ctrl j s).2.channels[i]? = ctrl.channels[i]? := by
  unfold putBack
  split
  · rfl
  · split <;> simp [List.getElem?_set_ne hij]

theorem getElem?_channelParamAction_ne (k : Kconfig) (ctrl : Controller σ) (i j : Nat)
    (action : ParamAction) (hij : j ≠ i) :
    (channelParamAction k ctrl j action).2.channels[i]? = ctrl.channels[i]? := by
  unfold channelParamAction
  split
  · rfl
  split
  · rfl
  · split <;> rfl
  · split
    · rfl
    dsimp only
    split
    · rfl
    · exact getElem?_putBack_ne _ i j _ hij
  · exact getElem?_putBack_ne _ i j _ hij
  · rfl

theorem getElem?_channelParamAction (k : Kconfig) (ctrl : Controller σ) (j : Nat)
    (action : ParamAction) (ch : Channel) (hch : ctrl.channels[j]? = some ch) :
    (channelParamAction k ctrl j action).2.channels[j]? =
      some (exec (ChannelOp.step k) ch (paramOps k ctrl j ch action)) := by
  unfold channelParamAction
  rw [hch]
  cases action with
  | none => exact hch
  | other value => exact hch
  | save =>
    dsimp only
    split <;> exact hch
  | factoryReset =>
    rw [getElem?_putBack ctrl k j ch _ hch (setConfig_calConfig k ch _)]
    unfold paramOps
    split <;> rfl
  | load =>
    unfold paramOps
    cases ctrl.storage.bind (·.loadChannelConfig) with
    | none => exact hch
    | some load =>
      dsimp only
      split
      · exact hch
      generalize load j ch.config ctrl.store = r
      have hcal : (applyLoaded k ch r.1 r.2.1).2.calConfig = ch.calConfig := by
        unfold applyLoaded
        split
        · exact setConfig_calConfig k ch _
        · rfl
      rw [getElem?_putBack { ctrl with store := r.2.2 } k j ch _ hch hcal]
      split
      · rfl
      next hok =>
      rw [exec_append]
      unfold applyLoaded
      split <;> rfl

theorem getElem?_calExit (k : Kconfig) (ctrl : Controller σ) (i : Nat)
    (hmode : ctrl.operatingMode = .calibration) :
    (calExit k ctrl).2.channels[i]? = ctrl.channels[i]?.map fun ch =>
      exec (ChannelOp.step k) ch
        (movedOps ctrl.operatingMode ((some ctrl.preCalMode).filter (canMove ctrl)) ch) := by
  rw [calExit, if_neg (by simpa using hmode)]
  exact getElem?_setOperatingMode k ctrl _ i

theorem getElem?_systemParamAction (k : Kconfig) (ctrl : Controller σ) (action : ParamAction)
    (i : Nat) :
    (systemParamAction k ctrl action).2.channels[i]? = ctrl.channels[i]?.map fun ch =>
      exec (ChannelOp.step k) ch (movedOps ctrl.operatingMode
        ((ControllerOp.systemParamAction action).movesTo ctrl) ch) := by
  cases action with
  | none => exact (Option.map_id' ..).symm
  | other value => exact (Option.map_id' ..).symm
  | factoryReset => exact (Option.map_id' ..).symm
  | save =>
    refine Eq.trans ?_ (Option.map_id' ..).symm
    unfold systemParamAction
    dsimp only
    split <;> rfl
  | load =>
    simp only [systemParamAction, ControllerOp.movesTo, ControllerOp.request, ControllerOp.record]
    cases ctrl.storage.bind (·.loadSystemConfig) with
    | none => exact (Option.map_id' ..).symm
    | some load =>
      dsimp only
      by_cases hneg : (load ctrl.store).1 < 0
      · rw [if_pos hneg, if_pos hneg]
        refine Eq.trans ?_ (Option.map_id' ..).symm
        split <;> rfl
      · have hent := ne_errNoEnt hneg
        rw [if_neg hneg, if_neg hneg, if_neg hent]
        exact getElem?_setSystemConfig k { ctrl with store := _ } _ i

theorem getElem?_tick (k : Kconfig) (ctrl : Controller σ) (dtMs : UInt32) (i : Nat) :
    (tick k ctrl dtMs).channels[i]? = ctrl.channels[i]?.map fun ch =>
      exec (ChannelOp.step k) ch ((ControllerOp.tick dtMs).channelOps k ctrl i ch) := by
  simp only [ControllerOp.channelOps, ControllerOp.calls, ControllerOp.movesTo,
    ControllerOp.request]
  unfold tick
  by_cases hmode : ctrl.operatingMode = .calibration
  · simp only [hmode, true_and, if_true, List.append_nil]
    by_cases hdt : dtMs ≥ ctrl.calWatchdogMs
    · simp only [if_pos hdt]
      rw [getElem?_calExit k ctrl i hmode, hmode]
    · simp only [if_neg hdt]
      exact (Option.map_id' ..).symm
  · simp only [hmode, false_and, if_false, run_eq_exec]
    exact List.getElem?_map ..

/-- One call on channel `j`. -/
theorem getElem?_oneCall (k : Kconfig) (ctrl : Controller σ) {j : Nat} {c : ChannelOp}
    {call : Channel → VcStatus × Channel} (hcall : ∀ ch, (call ch).2 = c.step k ch) (i : Nat) :
    (onChannel ctrl j call).2.channels[i]? = ctrl.channels[i]?.map fun ch =>
      exec (ChannelOp.step k) ch (if j ≠ i then [] else [c]) := by
  refine (getElem?_onChannel ctrl j call i).trans (Option.map_congr fun ch _ => ?_)
  split
  · rfl
  · exact hcall ch

theorem getElem?_oneSessionCall (k : Kconfig) (ctrl : Controller σ) {j : Nat} {c : ChannelOp}
    {call : Channel → VcStatus × Channel} (hcall : ∀ ch, (call ch).2 = c.step k ch) (i : Nat) :
    (inSession k ctrl j call).2.channels[i]? = ctrl.channels[i]?.map fun ch =>
      exec (ChannelOp.step k) ch
        (if j ≠ i ∨ ctrl.operatingMode ≠ .calibration then [] else [c]) := by
  refine (getElem?_inSession k ctrl j call i).trans (Option.map_congr fun ch _ => ?_)
  split
  · rfl
  · exact hcall ch

/-- Every operation acts on each channel by its calls. -/
theorem getElem?_step (k : Kconfig) (ctrl : Controller σ) (op : ControllerOp σ) (i : Nat) :
    (op.step k ctrl).channels[i]? = ctrl.channels[i]?.map fun ch =>
      exec (ChannelOp.step k) ch (op.channelOps k ctrl i ch) := by
  cases op with
  | setOperatingMode mode =>
    simp only [ControllerOp.channelOps, ControllerOp.calls, List.append_nil]
    exact getElem?_setOperatingMode k ctrl mode i
  | setSystemConfig cfg =>
    simp only [ControllerOp.channelOps, ControllerOp.calls, List.append_nil]
    exact getElem?_setSystemConfig k ctrl cfg i
  | setSystemField field value =>
    simp only [ControllerOp.channelOps, ControllerOp.calls, List.append_nil]
    cases field
    case operatingMode => exact getElem?_setOperatingMode k ctrl _ i
    case startupChannelPolicy => exact getElem?_setSystemConfig k ctrl _ i
    all_goals exact (Option.map_id' ..).symm
  | calExit =>
    simp only [ControllerOp.channelOps, ControllerOp.calls, List.append_nil]
    by_cases hmode : ctrl.operatingMode = .calibration
    · simp only [ControllerOp.movesTo, ControllerOp.request, if_pos hmode]
      exact getElem?_calExit k ctrl i hmode
    · simp only [ControllerOp.movesTo, ControllerOp.request, if_neg hmode]
      refine Eq.trans ?_ (Option.map_id' ..).symm
      show (calExit k ctrl).2.channels[i]? = _
      rw [calExit, if_pos hmode]
  | tick dtMs => exact getElem?_tick k ctrl dtMs i
  | systemParamAction action =>
    simp only [ControllerOp.channelOps, ControllerOp.calls, List.append_nil]
    exact getElem?_systemParamAction k ctrl action i
  | calibrationUnlock value =>
    refine Eq.trans ?_ (Option.map_id' ..).symm
    show (calibrationUnlock ctrl value).2.channels[i]? = _
    unfold calibrationUnlock
    split
    · rfl
    · split <;> rfl
  | calHeartbeat =>
    refine Eq.trans ?_ (Option.map_id' ..).symm
    show (calHeartbeat k ctrl).channels[i]? = _
    unfold calHeartbeat
    split <;> rfl
  | setStorageBackend backend => exact (Option.map_id' ..).symm
  | channelSetField j field value =>
    refine (getElem?_onChannel ctrl j _ i).trans (Option.map_congr fun ch _ => ?_)
    simp only [ControllerOp.channelOps, ControllerOp.calls]
    by_cases hij : j ≠ i
    · rw [if_pos hij, if_pos hij]
      rfl
    · rw [if_neg hij, if_neg hij]
      split <;> rfl
  | channelOutputAction j action =>
    refine (getElem?_onChannel ctrl j _ i).trans (Option.map_congr fun ch _ => ?_)
    simp only [ControllerOp.channelOps, ControllerOp.calls]
    by_cases hij : j ≠ i
    · rw [if_pos hij, if_pos (.inl hij)]
      rfl
    · by_cases hmode : ctrl.operatingMode = .calibration
      · rw [if_neg hij, if_pos hmode, if_pos (.inr hmode)]
        rfl
      · rw [if_neg hij, if_neg hmode, if_neg (not_or.mpr ⟨hij, hmode⟩)]
        rfl
  | channelFaultCommand j cmd => exact getElem?_oneCall k ctrl (fun _ => rfl) i
  | channelSetCalField j field value => exact getElem?_oneSessionCall k ctrl (fun _ => rfl) i
  | channelParamAction j action =>
    show (channelParamAction k ctrl j action).2.channels[i]? = _
    simp only [ControllerOp.channelOps, ControllerOp.calls]
    by_cases hij : j ≠ i
    · simp only [if_pos hij]
      rw [getElem?_channelParamAction_ne k ctrl i j action hij]
      exact (Option.map_id' ..).symm
    · obtain rfl : j = i := by simpa using hij
      simp only [if_neg hij]
      cases hch : ctrl.channels[j]? with
      | none => simp [channelParamAction, hch]
      | some ch => exact getElem?_channelParamAction k ctrl j action ch hch
  | channelCalOutputEnable j enable =>
    refine (getElem?_inSession k ctrl j _ i).trans (Option.map_congr fun ch _ => ?_)
    simp only [ControllerOp.channelOps, ControllerOp.calls]
    by_cases hsession : j ≠ i ∨ ctrl.operatingMode ≠ .calibration
    · rw [if_pos hsession, if_pos (by rw [← or_assoc]; exact .inl hsession)]
      rfl
    · obtain rfl : j = i := by simpa using (not_or.mp hsession).1
      by_cases hdriven : enable ∧ otherChannelDriven ctrl j
      · rw [if_neg hsession, if_pos hdriven, if_pos (.inr (.inr hdriven))]
        rfl
      · rw [if_neg hsession, if_neg hdriven, if_neg (by grind)]
        rfl
  | channelCalRawDac j code => exact getElem?_oneSessionCall k ctrl (fun _ => rfl) i
  | channelCalSample j => exact getElem?_oneSessionCall k ctrl (fun _ => rfl) i
  | channelCalCommit j =>
    have hsame : (channelCalCommit k ctrl j).2.channels[i]? = ctrl.channels[i]? := by
      have h := getElem?_inSession k ctrl j (fun ch => (calCommit ch, ch)) i
      simp only [ite_self, Option.map_id'] at h
      unfold channelCalCommit
      dsimp only
      split
      · exact h
      · split <;> exact h
    exact hsame.trans (Option.map_id' ..).symm
  | publishVoltage j raw ts => exact getElem?_oneCall k ctrl (fun _ => rfl) i
  | publishCurrent j raw ts => exact getElem?_oneCall k ctrl (fun _ => rfl) i
  | consumeFault j cause => exact getElem?_oneCall k ctrl (fun _ => rfl) i

/-! ## Which operation makes which call -/

/-- The calls that an operation makes on channel `i` outside a transition, and when. -/
inductive MadeBy (ctrl : Controller σ) (i : Nat) : ControllerOp σ → ChannelOp → Prop where
  | run (dtMs : UInt32) (c : ChannelOp) (hmode : ctrl.operatingMode ≠ .calibration)
      (hc : c ∈ runOps ctrl.sysCfg dtMs) : MadeBy ctrl i (.tick dtMs) c
  | setField (field : ConfigField) (value : UInt16) :
      MadeBy ctrl i (.channelSetField i field value) (.setField field value)
  | autoEnable (value : UInt16) (hmode : ctrl.operatingMode = .automatic)
      (hvalue : value.toInt16 ≠ 0) :
      MadeBy ctrl i (.channelSetField i .configuredTargetVoltage value) (.outputAction .enable)
  | outputAction (action : OutputAction) (hmode : ctrl.operatingMode ≠ .calibration) :
      MadeBy ctrl i (.channelOutputAction i action) (.outputAction action)
  | faultCommand (cmd : ChannelFaultCommand) :
      MadeBy ctrl i (.channelFaultCommand i cmd) (.faultCommand cmd)
  | paramConfig (action : ParamAction) (cfg : ChannelConfig) :
      MadeBy ctrl i (.channelParamAction i action) (.setConfig cfg)
  | paramCal (action : ParamAction) (cal : ChannelCalConfig) :
      MadeBy ctrl i (.channelParamAction i action) (.loadCal cal)
  | setCalField (field : CalField) (value : UInt16) (hmode : ctrl.operatingMode = .calibration) :
      MadeBy ctrl i (.channelSetCalField i field value) (.setCalField field value)
  | calOutputEnable (enable : Bool) (hmode : ctrl.operatingMode = .calibration)
      (hother : enable → otherChannelDriven ctrl i = false) :
      MadeBy ctrl i (.channelCalOutputEnable i enable) (.calSetOutputEnable enable)
  | calRawDac (code : UInt32) (hmode : ctrl.operatingMode = .calibration) :
      MadeBy ctrl i (.channelCalRawDac i code) (.calSetRawDac code)
  | calSample (hmode : ctrl.operatingMode = .calibration) :
      MadeBy ctrl i (.channelCalSample i) .calSample
  | publishVoltage (raw : Int32) (ts : UInt32) :
      MadeBy ctrl i (.publishVoltage i raw ts) (.publishVoltage raw ts)
  | publishCurrent (raw : Int32) (ts : UInt32) :
      MadeBy ctrl i (.publishCurrent i raw ts) (.publishCurrent raw ts)
  | consumeFault (cause : UInt16) : MadeBy ctrl i (.consumeFault i cause) (.consumeFault cause)

theorem mem_storedCalOps {ctrl : Controller σ} {i : Nat} {ch : Channel} {c : ChannelOp}
    (h : c ∈ storedCalOps ctrl i ch) : ∃ cal, c = .loadCal cal := by
  unfold storedCalOps at h
  split at h
  · cases h
  · dsimp only at h
    split at h
    · exact ⟨_, List.mem_singleton.mp h⟩
    · cases h

theorem mem_paramOps {k : Kconfig} {ctrl : Controller σ} {i : Nat} {ch : Channel}
    {action : ParamAction} {c : ChannelOp} (h : c ∈ paramOps k ctrl i ch action) :
    (∃ cfg, c = .setConfig cfg) ∨ ∃ cal, c = .loadCal cal := by
  unfold paramOps at h
  split at h
  · split at h
    · cases h
    dsimp only at h
    split at h
    · cases h
    split at h
    · cases h
    rcases List.mem_append.mp h with h | h
    · split at h
      · exact .inl ⟨_, List.mem_singleton.mp h⟩
      · cases h
    · exact .inr (mem_storedCalOps h)
  · split at h
    · cases h
    rcases List.mem_cons.mp h with h | h
    · exact .inl ⟨_, h⟩
    · exact .inr (mem_storedCalOps h)
  · cases h

theorem mem_oneCall {i j : Nat} {c d : ChannelOp} (h : c ∈ if j ≠ i then [] else [d]) :
    j = i ∧ c = d := by
  split at h
  · cases h
  next hij => exact ⟨Decidable.not_not.mp hij, List.mem_singleton.mp h⟩

theorem mem_oneSessionCall {mode : OperatingMode} {i j : Nat} {c d : ChannelOp}
    (h : c ∈ if j ≠ i ∨ mode ≠ .calibration then [] else [d]) :
    j = i ∧ mode = .calibration ∧ c = d := by
  split at h
  · cases h
  next hij =>
    obtain ⟨hij, hmode⟩ := not_or.mp hij
    exact ⟨Decidable.not_not.mp hij, Decidable.not_not.mp hmode, List.mem_singleton.mp h⟩

theorem madeBy_of_mem {k : Kconfig} {ctrl : Controller σ} {op : ControllerOp σ} {i : Nat}
    {ch : Channel} {c : ChannelOp} (h : c ∈ op.calls k ctrl i ch) : MadeBy ctrl i op c := by
  cases op <;> simp only [ControllerOp.calls] at h
  case tick dtMs =>
    split at h
    · cases h
    next hmode => exact .run dtMs c hmode h
  case channelSetField j field value =>
    split at h
    · cases h
    next hij =>
    obtain rfl : j = i := Decidable.not_not.mp hij
    split at h
    next hauto =>
      obtain ⟨-, rfl, hmode, hvalue, -⟩ := hauto
      rcases List.mem_cons.mp h with rfl | h
      · exact .setField _ _
      · obtain rfl := List.mem_singleton.mp h
        exact .autoEnable value hmode hvalue
    · obtain rfl := List.mem_singleton.mp h
      exact .setField _ _
  case channelOutputAction j action =>
    split at h
    · cases h
    next hij =>
    obtain ⟨hij, hmode⟩ := not_or.mp hij
    obtain rfl : j = i := Decidable.not_not.mp hij
    obtain rfl := List.mem_singleton.mp h
    exact .outputAction action hmode
  case channelParamAction j action =>
    split at h
    · cases h
    next hij =>
    obtain rfl : j = i := Decidable.not_not.mp hij
    rcases mem_paramOps h with ⟨cfg, rfl⟩ | ⟨cal, rfl⟩
    · exact .paramConfig action cfg
    · exact .paramCal action cal
  case channelCalOutputEnable j enable =>
    split at h
    · cases h
    next hij =>
    simp only [not_or, Decidable.not_not] at hij
    obtain ⟨rfl, hmode, hother⟩ := hij
    obtain rfl := List.mem_singleton.mp h
    exact .calOutputEnable enable hmode fun he => by simpa [he] using hother
  case channelFaultCommand j cmd =>
    obtain ⟨rfl, rfl⟩ := mem_oneCall h
    exact .faultCommand cmd
  case channelSetCalField j field value =>
    obtain ⟨rfl, hmode, rfl⟩ := mem_oneSessionCall h
    exact .setCalField field value hmode
  case channelCalRawDac j code =>
    obtain ⟨rfl, hmode, rfl⟩ := mem_oneSessionCall h
    exact .calRawDac code hmode
  case channelCalSample j =>
    obtain ⟨rfl, hmode, rfl⟩ := mem_oneSessionCall h
    exact .calSample hmode
  case publishVoltage j raw ts =>
    obtain ⟨rfl, rfl⟩ := mem_oneCall h
    exact .publishVoltage raw ts
  case publishCurrent j raw ts =>
    obtain ⟨rfl, rfl⟩ := mem_oneCall h
    exact .publishCurrent raw ts
  case consumeFault j cause =>
    obtain ⟨rfl, rfl⟩ := mem_oneCall h
    exact .consumeFault cause
  all_goals cases h

theorem mem_transitionOps {old new : OperatingMode} {ch : Channel} {c : ChannelOp}
    (h : c ∈ transitionOps old new ch) :
    (∃ entering, c = .resetCalibration entering) ∨
      c = .outputAction .disableGraceful ∧ old = .automatic ∧ new = .normal ∨
      c = .outputAction .enable ∧ new = .automatic := by
  simp only [transitionOps, List.mem_append] at h
  rcases h with ((h | h) | h) | h
  · split at h
    · exact .inl ⟨false, List.mem_singleton.mp h⟩
    · cases h
  · split at h
    next hmode => exact .inr (.inl ⟨List.mem_singleton.mp h, hmode.2, hmode.1⟩)
    · cases h
  · split at h
    next hmode => exact .inr (.inr ⟨List.mem_singleton.mp h, hmode.1⟩)
    · cases h
  · split at h
    · exact .inl ⟨true, List.mem_singleton.mp h⟩
    · cases h

/-- A call is one of a transition or one that the operation makes itself. -/
theorem mem_channelOps {k : Kconfig} {ctrl : Controller σ} {op : ControllerOp σ} {i : Nat}
    {ch : Channel} {c : ChannelOp} (h : c ∈ op.channelOps k ctrl i ch) :
    (∃ mode, op.movesTo ctrl = some mode ∧ c ∈ transitionOps ctrl.operatingMode mode ch) ∨
      MadeBy ctrl i op c := by
  rcases List.mem_append.mp h with h | h
  · cases hmoves : op.movesTo ctrl with
    | none =>
      rw [hmoves] at h
      cases h
    | some mode =>
      rw [hmoves] at h
      exact .inl ⟨mode, rfl, h⟩
  · exact .inr (madeBy_of_mem h)

/-- Only a tick makes recovery calls, with the stored configuration. -/
theorem tickRecovery_mem {k : Kconfig} {ctrl : Controller σ} {op : ControllerOp σ} {i : Nat}
    {ch : Channel} {sysCfg : SystemConfig} {dtMs : UInt32}
    (h : .tickRecovery sysCfg dtMs ∈ op.channelOps k ctrl i ch) :
    sysCfg = ctrl.sysCfg ∧ ctrl.operatingMode ≠ .calibration := by
  rcases mem_channelOps h with ⟨mode, -, h⟩ | h
  · rcases mem_transitionOps h with ⟨_, h⟩ | ⟨h, -⟩ | ⟨h, -⟩ <;> cases h
  · cases h with
    | run dt c hmode hrun =>
      simp only [runOps, List.mem_cons, List.not_mem_nil, or_false] at hrun
      rcases hrun with h | h | h | h | h <;> cases h
      exact ⟨rfl, hmode⟩

/-! ## The live mode after a step -/

theorem canMove_of_movesTo {ctrl : Controller σ} {op : ControllerOp σ} {mode : OperatingMode}
    (h : op.movesTo ctrl = some mode) : canMove ctrl mode :=
  (Option.filter_eq_some_iff.mp h).2

theorem movesTo_ne {ctrl : Controller σ} {op : ControllerOp σ} {mode : OperatingMode}
    (h : op.movesTo ctrl = some mode) : mode ≠ ctrl.operatingMode := by
  have hmove := canMove_of_movesTo h
  simp only [canMove, Bool.and_eq_true, bne_iff_ne] at hmove
  exact hmove.1.1.2

theorem movesTo_known {ctrl : Controller σ} {op : ControllerOp σ} {mode : OperatingMode}
    (h : op.movesTo ctrl = some mode) :
    mode = .normal ∨ mode = .automatic ∨ mode = .calibration := by
  have hmove := canMove_of_movesTo h
  simp only [canMove, Bool.and_eq_true] at hmove
  have hknown := hmove.1.1.1
  cases mode <;> simp [isKnownMode] at hknown ⊢

/-- NORMAL is left for AUTOMATIC only with every channel free of faults. -/
theorem movesTo_automatic {ctrl : Controller σ} {op : ControllerOp σ}
    (h : op.movesTo ctrl = some .automatic) (hmode : ctrl.operatingMode = .normal) :
    ∀ ch ∈ ctrl.channels, ch.activeFaultCause = 0 := by
  have hmove := canMove_of_movesTo h
  simp only [canMove, hmode, beq_self_eq_true, Bool.true_and, Bool.and_eq_true,
    Bool.not_eq_true', List.any_eq_false, bne_iff_ne] at hmove
  exact fun ch hch => Decidable.not_not.mp (hmove.2 ch hch)

/-- A record whose mode write is carried out. -/
theorem setSystemConfig_of_moves {k : Kconfig} {ctrl : Controller σ} {cfg : SystemConfig}
    {mode : OperatingMode}
    (h : ((some cfg).bind fun cfg => if cfg.operatingMode ≠ ctrl.operatingMode then
      some cfg.operatingMode else none).filter (canMove ctrl) = some mode) :
    setSystemConfig k ctrl cfg =
      (.ok, transition k { ctrl with sysCfg := storedConfig ctrl cfg } mode) := by
  obtain ⟨hrequest, hmove⟩ := Option.filter_eq_some_iff.mp h
  by_cases hmode : cfg.operatingMode ≠ ctrl.operatingMode
  · simp only [Option.bind_some, if_pos hmode, Option.some.injEq] at hrequest
    obtain rfl := hrequest
    unfold setSystemConfig
    dsimp only
    rw [if_pos hmode]
    exact setOperatingMode_of_canMove k { ctrl with sysCfg := storedConfig ctrl cfg } _ hmove
  · simp [hmode] at hrequest

/-- An operation that carries out a transition is accepted, and the transition is all it does
beside storing its record. -/
theorem call_of_movesTo {k : Kconfig} {ctrl : Controller σ} {op : ControllerOp σ}
    {mode : OperatingMode} (h : op.movesTo ctrl = some mode) :
    ∃ cfg store, op.call k ctrl =
      (.ok, transition k { ctrl with sysCfg := cfg, store := store } mode) := by
  have hset : ∀ mode', (some mode').filter (canMove ctrl) = some mode →
      setOperatingMode k ctrl mode' = (.ok, transition k ctrl mode) := by
    intro mode' h
    obtain ⟨hmode, hmove⟩ := Option.filter_eq_some_iff.mp h
    obtain rfl := Option.some.inj hmode
    exact setOperatingMode_of_canMove k ctrl _ hmove
  cases op with
  | setOperatingMode mode' => exact ⟨ctrl.sysCfg, ctrl.store, hset mode' h⟩
  | setSystemConfig cfg => exact ⟨_, ctrl.store, setSystemConfig_of_moves h⟩
  | setSystemField field value =>
    cases field
    case operatingMode => exact ⟨ctrl.sysCfg, ctrl.store, hset _ h⟩
    case startupChannelPolicy => exact ⟨_, ctrl.store, setSystemConfig_of_moves h⟩
    all_goals cases h
  | calExit =>
    by_cases hcal : ctrl.operatingMode = .calibration
    · simp only [ControllerOp.movesTo, ControllerOp.request, if_pos hcal] at h
      refine ⟨ctrl.sysCfg, ctrl.store, ?_⟩
      show calExit k ctrl = _
      rw [calExit, if_neg (by simpa using hcal)]
      exact hset _ h
    · simp [ControllerOp.movesTo, ControllerOp.request, hcal] at h
  | tick dtMs =>
    by_cases hdue : ctrl.operatingMode = .calibration ∧ dtMs ≥ ctrl.calWatchdogMs
    · simp only [ControllerOp.movesTo, ControllerOp.request, if_pos hdue] at h
      refine ⟨ctrl.sysCfg, ctrl.store, ?_⟩
      show (VcStatus.ok, tick k ctrl dtMs) = _
      rw [tick, if_pos hdue.1, if_pos hdue.2, calExit, if_neg (by simpa using hdue.1), hset _ h]
    · simp only [ControllerOp.movesTo, ControllerOp.request, if_neg hdue] at h
      cases h
  | systemParamAction action =>
    cases action
    case load =>
      simp only [ControllerOp.movesTo, ControllerOp.request, ControllerOp.record] at h
      cases hload : ctrl.storage.bind (·.loadSystemConfig) with
      | none => simp [hload] at h
      | some load =>
        simp only [hload] at h
        by_cases hneg : (load ctrl.store).1 < 0
        · simp [hneg] at h
        · have hent := ne_errNoEnt hneg
          simp only [if_neg hneg] at h
          refine ⟨storedConfig ctrl (load ctrl.store).2.1, (load ctrl.store).2.2, ?_⟩
          show systemParamAction k ctrl .load = _
          simp only [systemParamAction, hload, if_neg hneg, if_neg hent]
          let loaded : Controller σ := { ctrl with store := (load ctrl.store).2.2 }
          have hset : setSystemConfig k loaded (load ctrl.store).2.1 = _ :=
            setSystemConfig_of_moves h
          exact hset
    all_goals cases h
  | _ => cases h

def ControllerOp.isFactoryReset : ControllerOp σ → Bool
  | .systemParamAction .factoryReset => true
  | _ => false

theorem mode_recorded_moved (c : Control) (record : Option SystemConfig)
    (mode : Option OperatingMode) :
    ((c.recorded record).moved mode).mode = mode.getD c.mode := by
  cases mode with
  | none => cases record <;> rfl
  | some mode =>
    simp only [Control.moved, Control.enter, Option.getD_some]
    split <;> rfl

theorem operatingMode_step (k : Kconfig) (ctrl : Controller σ) (op : ControllerOp σ) :
    (op.step k ctrl).operatingMode =
      if op.isFactoryReset then .normal else (op.movesTo ctrl).getD ctrl.operatingMode := by
  have hmode : (op.step k ctrl).operatingMode = (op.controlAfter k ctrl).mode :=
    congrArg Control.mode (control_step k ctrl op)
  rw [hmode]
  cases op
  case calibrationUnlock value =>
    show ((control ctrl).unlock value).mode = _
    unfold Control.unlock
    split
    · rfl
    · split <;> rfl
  case systemParamAction action =>
    cases action
    case factoryReset => rfl
    all_goals exact mode_recorded_moved _ _ _
  all_goals exact mode_recorded_moved _ _ _

/-- A session runs after an operation that has entered it, or after one that has not left it. -/
theorem inCalibration_step {k : Kconfig} {ctrl : Controller σ} {op : ControllerOp σ}
    (h : (op.step k ctrl).operatingMode = .calibration) :
    op.movesTo ctrl = some .calibration ∨
      ctrl.operatingMode = .calibration ∧ op.movesTo ctrl = none := by
  rw [operatingMode_step] at h
  cases hreset : op.isFactoryReset with
  | true => simp [hreset] at h
  | false =>
    cases hmoves : op.movesTo ctrl with
    | none =>
      simp only [hreset, hmoves] at h
      exact .inr ⟨h, rfl⟩
    | some mode =>
      simp only [hreset, hmoves] at h
      have h : mode = .calibration := h
      rw [h]
      exact .inl rfl

/-- The operation ends the running session. -/
def leavesSession (ctrl : Controller σ) (op : ControllerOp σ) : Bool :=
  ctrl.operatingMode = .calibration ∧ (op.isFactoryReset ∨ (op.movesTo ctrl).isSome)

theorem leavesSession_iff (k : Kconfig) (ctrl : Controller σ) (op : ControllerOp σ) :
    leavesSession ctrl op ↔
      ctrl.operatingMode = .calibration ∧ (op.step k ctrl).operatingMode ≠ .calibration := by
  simp only [leavesSession, decide_eq_true_eq, operatingMode_step, and_congr_right_iff]
  intro hmode
  cases hreset : op.isFactoryReset with
  | true => simp
  | false =>
    cases hmoves : op.movesTo ctrl with
    | none => simp [hmode]
    | some mode =>
      have hne := movesTo_ne hmoves
      rw [hmode] at hne
      simp [hne]

/-- An operation that carries out a transition makes no other calls. -/
theorem calls_of_movesTo {k : Kconfig} {ctrl : Controller σ} {op : ControllerOp σ}
    {mode : OperatingMode} (h : op.movesTo ctrl = some mode) (i : Nat) (ch : Channel) :
    op.calls k ctrl i ch = [] := by
  have hrequest : op.request ctrl ≠ none := by
    intro hnone
    simp [ControllerOp.movesTo, hnone] at h
  cases op <;> simp_all [ControllerOp.calls, ControllerOp.request, ControllerOp.record]

theorem channelOps_of_movesTo {k : Kconfig} {ctrl : Controller σ} {op : ControllerOp σ}
    {mode : OperatingMode} (h : op.movesTo ctrl = some mode) (i : Nat) (ch : Channel) :
    op.channelOps k ctrl i ch = transitionOps ctrl.operatingMode mode ch := by
  rw [ControllerOp.channelOps, h, calls_of_movesTo h, List.append_nil]
  rfl

theorem channelOps_of_stays {k : Kconfig} {ctrl : Controller σ} {op : ControllerOp σ}
    (h : op.movesTo ctrl = none) (i : Nat) (ch : Channel) :
    op.channelOps k ctrl i ch = op.calls k ctrl i ch := by
  rw [ControllerOp.channelOps, h]
  rfl

/-! ## Runs of public calls -/

/-- A call on the controller or a call on one of its channels behind its back. -/
inductive PublicOp (σ : Type) where
  | controller (op : ControllerOp σ)
  | channel (i : Nat) (op : ChannelOp)

def PublicOp.step (k : Kconfig) (ctrl : Controller σ) : PublicOp σ → Controller σ
  | .controller op => op.step k ctrl
  | .channel i op => (onChannel ctrl i fun ch => (.ok, op.step k ch)).2

def PublicOp.channelOps (k : Kconfig) (ctrl : Controller σ) (op : PublicOp σ) (i : Nat)
    (ch : Channel) : List ChannelOp :=
  match op with
  | .controller op => op.channelOps k ctrl i ch
  | .channel j op => if j ≠ i then [] else [op]

theorem getElem?_publicStep (k : Kconfig) (ctrl : Controller σ) (op : PublicOp σ) (i : Nat) :
    (op.step k ctrl).channels[i]? = ctrl.channels[i]?.map fun ch =>
      exec (ChannelOp.step k) ch (op.channelOps k ctrl i ch) := by
  cases op with
  | controller op => exact getElem?_step k ctrl op i
  | channel j op =>
    refine (getElem?_onChannel ctrl j _ i).trans (Option.map_congr fun ch _ => ?_)
    simp only [PublicOp.channelOps]
    split <;> rfl

theorem channels_publicStep (k : Kconfig) (ctrl : Controller σ) (op : PublicOp σ) :
    (op.step k ctrl).channels = ctrl.channels.mapIdx fun i ch =>
      exec (ChannelOp.step k) ch (op.channelOps k ctrl i ch) := by
  refine List.ext_getElem? fun i => ?_
  rw [getElem?_publicStep, List.getElem?_mapIdx]

/-- A board keeps its channels. -/
theorem length_publicRun (k : Kconfig) (ctrl : Controller σ) (ops : List (PublicOp σ)) :
    (exec (PublicOp.step k) ctrl ops).channels.length = ctrl.channels.length := by
  induction ops generalizing ctrl with
  | nil => rfl
  | cons op ops ih =>
    refine (ih (op.step k ctrl)).trans ?_
    rw [channels_publicStep, List.length_mapIdx]

/-- Every call that is made on a channel meets `Q` in the state it is made in. -/
def EachCall (k : Kconfig) (Q : Channel → ChannelOp → Prop) (ctrl : Controller σ)
    (ops : Nat → Channel → List ChannelOp) : Prop :=
  ∀ p ∈ ctrl.channels.zipIdx, Along (ChannelOp.step k) Q p.1 (ops p.2 p.1)

instance (k : Kconfig) (Q : Channel → ChannelOp → Prop) [∀ ch op, Decidable (Q ch op)]
    (ctrl : Controller σ) (ops : Nat → Channel → List ChannelOp) :
    Decidable (EachCall k Q ctrl ops) :=
  inferInstanceAs (Decidable (∀ p ∈ ctrl.channels.zipIdx, _))

theorem EachCall.along {k : Kconfig} {Q : Channel → ChannelOp → Prop} {ctrl : Controller σ}
    {ops : Nat → Channel → List ChannelOp} (h : EachCall k Q ctrl ops) {i : Nat} {ch : Channel}
    (hch : ctrl.channels[i]? = some ch) : Along (ChannelOp.step k) Q ch (ops i ch) :=
  h (ch, i) (List.mem_zipIdx_iff_getElem?.mpr hch)

/-- What every call that meets `Q` preserves in a channel, every operation whose calls meet
`Q` preserves in all channels. -/
theorem channels_invariant {k : Kconfig} {I : Channel → Prop} {Q : Channel → ChannelOp → Prop}
    (hcall : ∀ ch op, I ch → Q ch op → I (op.step k ch))
    {ctrl ctrl' : Controller σ} {ops : Nat → Channel → List ChannelOp}
    (hstep : ∀ i, ctrl'.channels[i]? = ctrl.channels[i]?.map fun ch =>
      exec (ChannelOp.step k) ch (ops i ch))
    (hI : ∀ ch ∈ ctrl.channels, I ch) (hQ : EachCall k Q ctrl ops) :
    ∀ ch ∈ ctrl'.channels, I ch := by
  intro ch hch
  obtain ⟨i, hi⟩ := List.mem_iff_getElem?.mp hch
  rw [hstep i] at hi
  obtain ⟨ch₀, h₀, rfl⟩ := Option.map_eq_some_iff.mp hi
  exact exec_invariant hcall (hI ch₀ (List.mem_of_getElem? h₀)) (hQ.along h₀)

theorem mem_init {k : Kconfig} {nodes : List Node} {store : σ} {ch : Channel}
    (h : ch ∈ (VcController.init k nodes store).channels) : ∃ node, ch = VcChannel.init k node := by
  obtain ⟨node, -, hnode⟩ := List.mem_map.mp h
  exact ⟨node, hnode.symm⟩

theorem forall_mem_init {k : Kconfig} {I : Channel → Prop}
    (h : ∀ node, I (VcChannel.init k node)) (nodes : List Node) (store : σ) :
    ∀ ch ∈ (VcController.init k nodes store).channels, I ch := by
  intro ch hch
  obtain ⟨node, rfl⟩ := mem_init hch
  exact h node

theorem forall_getElem?_init {k : Kconfig} {I : Channel → Prop}
    (h : ∀ node, I (VcChannel.init k node)) (nodes : List Node) (store : σ) (i : Nat) :
    ∀ ch ∈ (VcController.init k nodes store).channels[i]?, I ch :=
  fun ch hch => forall_mem_init h nodes store ch (List.mem_of_getElem? hch)

/-- What holds of every channel after `vc_channel_init`, and every call that meets `Q` preserves,
holds in every run of public calls whose calls on the channels meet `Q`. -/
theorem publicRun_invariant {k : Kconfig} {I : Channel → Prop} {Q : Channel → ChannelOp → Prop}
    (hinit : ∀ node, I (VcChannel.init k node))
    (hcall : ∀ ch op, I ch → Q ch op → I (op.step k ch)) {nodes : List Node} {store : σ}
    {ops : List (PublicOp σ)}
    (hops : Along (PublicOp.step k) (fun ctrl op => EachCall k Q ctrl (op.channelOps k ctrl))
      (VcController.init k nodes store) ops) :
    ∀ ch ∈ (exec (PublicOp.step k) (VcController.init k nodes store) ops).channels, I ch := by
  have hstep : ∀ (ctrl : Controller σ) op, (∀ ch ∈ ctrl.channels, I ch) →
      EachCall k Q ctrl (op.channelOps k ctrl) → ∀ ch ∈ (PublicOp.step k ctrl op).channels, I ch :=
    fun ctrl op hI hQ => channels_invariant hcall (getElem?_publicStep k ctrl op) hI hQ
  exact exec_invariant hstep (forall_mem_init hinit nodes store) hops

/-- Every call that an operation makes on channel `i` meets `Q` in the state it is made in. -/
def EachCallOn (k : Kconfig) (i : Nat) (Q : Channel → ChannelOp → Prop) (ctrl : Controller σ)
    (op : PublicOp σ) : Prop :=
  ∀ ch ∈ ctrl.channels[i]?, Along (ChannelOp.step k) Q ch (op.channelOps k ctrl i ch)

instance (k : Kconfig) (i : Nat) (Q : Channel → ChannelOp → Prop) [∀ ch op, Decidable (Q ch op)]
    (ctrl : Controller σ) (op : PublicOp σ) : Decidable (EachCallOn k i Q ctrl op) :=
  inferInstanceAs (Decidable (∀ ch ∈ ctrl.channels[i]?, _))

theorem publicStep_channel {k : Kconfig} {i : Nat} {I : Channel → Prop}
    {Q : Channel → ChannelOp → Prop} (hcall : ∀ ch op, I ch → Q ch op → I (op.step k ch))
    {ctrl : Controller σ} {op : PublicOp σ} (hI : ∀ ch ∈ ctrl.channels[i]?, I ch)
    (hQ : EachCallOn k i Q ctrl op) : ∀ ch ∈ (op.step k ctrl).channels[i]?, I ch := by
  intro ch hch
  rw [Option.mem_def, getElem?_publicStep] at hch
  obtain ⟨ch₀, hch₀, rfl⟩ := Option.map_eq_some_iff.mp hch
  exact exec_invariant hcall (hI ch₀ hch₀) (hQ ch₀ hch₀)

/-- What every call preserves in a channel, every run preserves in each channel. -/
theorem publicRun_channel {k : Kconfig} {I : Channel → Prop}
    (hcall : ∀ ch op, I ch → I (ChannelOp.step k ch op)) {ctrl : Controller σ} {i : Nat}
    (hI : ∀ ch ∈ ctrl.channels[i]?, I ch) (ops : List (PublicOp σ)) :
    ∀ ch ∈ (exec (PublicOp.step k) ctrl ops).channels[i]?, I ch :=
  exec_invariant (I := fun ctrl : Controller σ => ∀ ch ∈ ctrl.channels[i]?, I ch)
    (Q := EachCallOn k i fun _ _ => True)
    (fun _ _ hI hQ => publicStep_channel (fun ch op h _ => hcall ch op h) hI hQ) hI
    (along_of_forall (fun _ _ _ _ _ => along_of_forall (fun _ _ _ => trivial) _) _)

/-- Along a run, two properties of the calls on channel `i` that agree under an invariant of the
channel. -/
theorem publicRun_along_congr {k : Kconfig} {i : Nat} {I : Channel → Prop}
    {Q R : Channel → ChannelOp → Prop} (hcall : ∀ ch op, I ch → Q ch op → I (op.step k ch))
    (hR : ∀ ch op, I ch → (R ch op ↔ Q ch op)) {ctrl : Controller σ} {ops : List (PublicOp σ)}
    (hI : ∀ ch ∈ ctrl.channels[i]?, I ch) :
    Along (PublicOp.step k) (EachCallOn k i R) ctrl ops ↔
      Along (PublicOp.step k) (EachCallOn k i Q) ctrl ops :=
  along_congr (I := fun ctrl : Controller σ => ∀ ch ∈ ctrl.channels[i]?, I ch)
    (fun _ _ hI hQ => publicStep_channel hcall hI hQ)
    (fun _ _ hI => forall₂_congr fun ch hch => along_congr hcall hR (hI ch hch)) hI

/-! ## The history of one channel -/

/-- A history variable of channel `i`, kept up call by call. -/
def callHistory {G : Type} (k : Kconfig) (i : Nat) (upd : Channel → ChannelOp → G → G)
    (ctrl : Controller σ) (op : ControllerOp σ) (history : G) : G :=
  match ctrl.channels[i]? with
  | none => history
  | some ch => (exec (watched (ChannelOp.step k) upd) (ch, history) (op.channelOps k ctrl i ch)).2

/-- The history after the calls of an operation, for any list of calls on each channel. -/
def historyAfter {G : Type} (k : Kconfig) (i : Nat) (upd : Channel → ChannelOp → G → G)
    (ctrl : Controller σ) (ops : Nat → Channel → List ChannelOp) (history : G) : G :=
  match ctrl.channels[i]? with
  | none => history
  | some ch => (exec (watched (ChannelOp.step k) upd) (ch, history) (ops i ch)).2

def publicHistory {G : Type} (k : Kconfig) (i : Nat) (upd : Channel → ChannelOp → G → G)
    (ctrl : Controller σ) (op : PublicOp σ) (history : G) : G :=
  historyAfter k i upd ctrl (op.channelOps k ctrl) history

/-- What every call that meets `Q` preserves in a channel and its history, an operation whose
calls on the channel meet `Q` preserves. -/
theorem historyAfter_invariant {G : Type} {k : Kconfig} {i : Nat}
    {upd : Channel → ChannelOp → G → G} {I : Channel × G → Prop}
    {Q : Channel × G → ChannelOp → Prop}
    (hcall : ∀ p c, I p → Q p c → I (watched (ChannelOp.step k) upd p c))
    {ctrl ctrl' : Controller σ} {ops : Nat → Channel → List ChannelOp} {history : G}
    (hstep : ctrl'.channels[i]? = ctrl.channels[i]?.map fun ch =>
      exec (ChannelOp.step k) ch (ops i ch))
    (hI : ∀ ch ∈ ctrl.channels[i]?, I (ch, history))
    (hQ : ∀ ch ∈ ctrl.channels[i]?, Along (watched (ChannelOp.step k) upd) Q (ch, history)
      (ops i ch)) :
    ∀ ch ∈ ctrl'.channels[i]?, I (ch, historyAfter k i upd ctrl ops history) := by
  intro ch' hch'
  rw [Option.mem_def, hstep] at hch'
  obtain ⟨ch, hch, rfl⟩ := Option.map_eq_some_iff.mp hch'
  have hrun := exec_invariant hcall (hI ch hch) (hQ ch hch)
  have hfst := exec_watched_fst (ChannelOp.step k) upd (ch, history) (ops i ch)
  rw [historyAfter, hch, ← hfst]
  exact hrun

theorem callHistory_invariant {G : Type} {k : Kconfig} {i : Nat}
    {upd : Channel → ChannelOp → G → G} {I : Channel × G → Prop}
    {Q : Channel × G → ChannelOp → Prop}
    (hcall : ∀ p c, I p → Q p c → I (watched (ChannelOp.step k) upd p c))
    {ctrl : Controller σ} {op : ControllerOp σ} {history : G}
    (hI : ∀ ch ∈ ctrl.channels[i]?, I (ch, history))
    (hQ : ∀ ch ∈ ctrl.channels[i]?, Along (watched (ChannelOp.step k) upd) Q (ch, history)
      (op.channelOps k ctrl i ch)) :
    ∀ ch ∈ (op.step k ctrl).channels[i]?, I (ch, callHistory k i upd ctrl op history) :=
  historyAfter_invariant hcall (getElem?_step k ctrl op i) hI hQ

/-- What holds of every channel after `vc_channel_init`, and every call that meets `Q` preserves in
a channel and its history, holds of channel `i` in every run of public calls that meet `Q`. -/
theorem publicHistory_invariant {G : Type} {k : Kconfig} {i : Nat}
    {upd : Channel → ChannelOp → G → G} {I : Channel × G → Prop}
    {Q : Channel × G → ChannelOp → Prop}
    (hcall : ∀ p c, I p → Q p c → I (watched (ChannelOp.step k) upd p c)) {nodes : List Node}
    {store : σ} {history : G} (hinit : ∀ node, I (VcChannel.init k node, history))
    {ops : List (PublicOp σ)}
    (hops : Along (watched (PublicOp.step k) (publicHistory k i upd))
      (fun p op => ∀ ch ∈ p.1.channels[i]?, Along (watched (ChannelOp.step k) upd) Q (ch, p.2)
        (op.channelOps k p.1 i ch)) (VcController.init k nodes store, history) ops) :
    let p := exec (watched (PublicOp.step k) (publicHistory k i upd))
      (VcController.init k nodes store, history) ops
    ∀ ch ∈ p.1.channels[i]?, I (ch, p.2) := by
  have hstart : ∀ ch ∈ (VcController.init k nodes store).channels[i]?, I (ch, history) :=
    forall_getElem?_init (I := fun ch => I (ch, history)) hinit nodes store i
  exact exec_invariant (I := fun p : Controller σ × G => ∀ ch ∈ p.1.channels[i]?, I (ch, p.2))
    (fun p op hI hQ => historyAfter_invariant hcall (getElem?_publicStep k p.1 op i) hI hQ)
    hstart hops

/-- Along a run of public calls, a property of every call on channel `i` that an invariant of the
channel and its history gives. -/
theorem publicHistory_along {G : Type} {k : Kconfig} {i : Nat}
    {upd : Channel → ChannelOp → G → G} {I : Channel × G → Prop}
    {Q R : Channel × G → ChannelOp → Prop}
    (hcall : ∀ p c, I p → Q p c → I (watched (ChannelOp.step k) upd p c))
    (hR : ∀ p c, I p → Q p c → R p c) {nodes : List Node} {store : σ} {history : G}
    (hinit : ∀ node, I (VcChannel.init k node, history)) {ops : List (PublicOp σ)}
    (hops : Along (watched (PublicOp.step k) (publicHistory k i upd))
      (fun p op => ∀ ch ∈ p.1.channels[i]?, Along (watched (ChannelOp.step k) upd) Q (ch, p.2)
        (op.channelOps k p.1 i ch)) (VcController.init k nodes store, history) ops) :
    Along (watched (PublicOp.step k) (publicHistory k i upd))
      (fun p op => ∀ ch ∈ p.1.channels[i]?, Along (watched (ChannelOp.step k) upd) R (ch, p.2)
        (op.channelOps k p.1 i ch)) (VcController.init k nodes store, history) ops := by
  have hstart : ∀ ch ∈ (VcController.init k nodes store).channels[i]?, I (ch, history) :=
    forall_getElem?_init (I := fun ch => I (ch, history)) hinit nodes store i
  refine Along.of_invariant
    (I := fun p : Controller σ × G => ∀ ch ∈ p.1.channels[i]?, I (ch, p.2))
    (fun p op hI hQ => historyAfter_invariant hcall (getElem?_publicStep k p.1 op i) hI hQ)
    (fun p op hI hQ ch hch => ?_) hstart hops
  exact Along.of_invariant hcall hR (hI ch hch) (hQ ch hch)

/-- Along a run of public calls, two properties of the calls on channel `i` that agree under an
invariant of the channel and its history. -/
theorem publicHistory_along_congr {G : Type} {k : Kconfig} {i : Nat}
    {upd : Channel → ChannelOp → G → G} {I : Channel × G → Prop}
    {Q R : Channel × G → ChannelOp → Prop}
    (hcall : ∀ p c, I p → Q p c → I (watched (ChannelOp.step k) upd p c))
    (hR : ∀ p c, I p → (R p c ↔ Q p c)) {nodes : List Node} {store : σ} {history : G}
    (hinit : ∀ node, I (VcChannel.init k node, history)) {ops : List (PublicOp σ)} :
    Along (watched (PublicOp.step k) (publicHistory k i upd))
      (fun p op => ∀ ch ∈ p.1.channels[i]?, Along (watched (ChannelOp.step k) upd) R (ch, p.2)
        (op.channelOps k p.1 i ch)) (VcController.init k nodes store, history) ops ↔
    Along (watched (PublicOp.step k) (publicHistory k i upd))
      (fun p op => ∀ ch ∈ p.1.channels[i]?, Along (watched (ChannelOp.step k) upd) Q (ch, p.2)
        (op.channelOps k p.1 i ch)) (VcController.init k nodes store, history) ops := by
  have hstart : ∀ ch ∈ (VcController.init k nodes store).channels[i]?, I (ch, history) :=
    forall_getElem?_init (I := fun ch => I (ch, history)) hinit nodes store i
  refine along_congr (I := fun p : Controller σ × G => ∀ ch ∈ p.1.channels[i]?, I (ch, p.2))
    (fun p op hI hQ => historyAfter_invariant hcall (getElem?_publicStep k p.1 op i) hI hQ)
    (fun p op hI => ?_) hstart
  exact forall₂_congr fun ch hch => along_congr hcall hR (hI ch hch)

/-- A DAC channel with every capability, both driver hooks and a measurement buffer. -/
def dacNode : Node where
  capabilities := capOutputEnable ||| capRawOutputDrive ||| capVoltageMeasurement |||
    capCurrentMeasurement
  dev := some ⟨some fun _ => true, true⟩
  hasMeas := true
  dtDefaults := none

end VcController
