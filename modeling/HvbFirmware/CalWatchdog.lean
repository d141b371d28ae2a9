import Mathlib.Algebra.Ring.Nat
import HvbFirmware.Calibration

/-!
# The calibration watchdog

A session lives as long as the ticks since the last restart of its watchdog add up to less than
the timeout. The tick that reaches the timeout goes back to the mode before the session, which a
mode write out of CALIBRATION never refuses.
-/
namespace CalWatchdog

open VcTypes VcChannel VcController Runs Calibration

variable {σ : Type}

/-- `VC_CAL_WATCHDOG_MS`. -/
def vcCalWatchdogMs (k : Kconfig) : UInt32 := k.calWatchdogTimeoutS * 1000

theorem toNat_vcCalWatchdogMs (k : Kconfig) :
    (vcCalWatchdogMs k).toNat = k.calWatchdogTimeoutS.toNat * 1000 ∧
      0 < (vcCalWatchdogMs k).toNat := by
  obtain ⟨hlow, hhigh⟩ := k.calWatchdogTimeoutS_range
  have hlow := UInt32.le_iff_toNat_le.mp hlow
  have hhigh := UInt32.le_iff_toNat_le.mp hhigh
  have hmul : (vcCalWatchdogMs k).toNat = k.calWatchdogTimeoutS.toNat * 1000 % 2 ^ 32 :=
    UInt32.toNat_mul _ _
  simp at hlow hhigh
  omega

/-! ## What restarts the watchdog -/

/-- The events inside a session that restart the watchdog: a mode write of CALIBRATION, the
heartbeat, an accepted calibration command, and a commit that has passed its safety check. -/
def restartsInside (k : Kconfig) (ctrl : Controller σ) : ControllerOp σ → Bool
  | .setOperatingMode mode => mode = .calibration
  | .setSystemField .operatingMode value => OperatingMode.ofValue value = .calibration
  | .calHeartbeat => true
  | .channelSetCalField i field value => (channelSetCalField k ctrl i field value).1 = .ok
  | .channelCalOutputEnable i enable => (channelCalOutputEnable k ctrl i enable).1 = .ok
  | .channelCalRawDac i code => (channelCalRawDac k ctrl i code).1 = .ok
  | .channelCalSample i => (channelCalSample k ctrl i).1 = .ok
  | .channelCalCommit i => ctrl.channels[i]?.any fun ch => calCommit ch == .ok
  | _ => false

/-- The events that restart the watchdog, session entry included. -/
def restarts (k : Kconfig) (ctrl : Controller σ) (op : ControllerOp σ) : Bool :=
  op.movesTo ctrl = some .calibration ||
    ctrl.operatingMode = .calibration && restartsInside k ctrl op

/-- The mode that was live when the last session was entered. -/
def enteredFrom (ctrl : Controller σ) (op : ControllerOp σ) (mode : OperatingMode) :
    OperatingMode :=
  if op.movesTo ctrl = some .calibration then ctrl.operatingMode else mode

/-! ## The watchdog after one operation -/

theorem watchdog_transition (k : Kconfig) (ctrl : Controller σ) (mode : OperatingMode) :
    (transition k ctrl mode).calWatchdogMs =
      if mode = .calibration then vcCalWatchdogMs k else ctrl.calWatchdogMs := by
  unfold transition
  dsimp only
  split <;> rfl

theorem watchdog_setOperatingMode (k : Kconfig) (ctrl : Controller σ) (mode : OperatingMode) :
    (setOperatingMode k ctrl mode).2.calWatchdogMs = vcCalWatchdogMs k ∨
      (setOperatingMode k ctrl mode).2.calWatchdogMs = ctrl.calWatchdogMs := by
  cases h : canMove ctrl mode with
  | true =>
    rw [setOperatingMode_of_canMove k ctrl mode h, watchdog_transition]
    split
    · exact .inl rfl
    · exact .inr rfl
  | false =>
    rcases setOperatingMode_of_not_canMove k ctrl mode h with h | h <;> rw [h]
    · exact .inr rfl
    · exact .inl rfl

theorem watchdog_setSystemConfig (k : Kconfig) (ctrl : Controller σ) (cfg : SystemConfig) :
    (setSystemConfig k ctrl cfg).2.calWatchdogMs = vcCalWatchdogMs k ∨
      (setSystemConfig k ctrl cfg).2.calWatchdogMs = ctrl.calWatchdogMs := by
  unfold setSystemConfig
  dsimp only
  split
  · exact watchdog_setOperatingMode k { ctrl with sysCfg := storedConfig ctrl cfg } _
  · exact .inr rfl

theorem watchdog_onChannel (ctrl : Controller σ) (i : Nat) (call : Channel → VcStatus × Channel) :
    (onChannel ctrl i call).2.calWatchdogMs = ctrl.calWatchdogMs := by
  unfold onChannel
  split <;> rfl

theorem watchdog_inSession (k : Kconfig) (ctrl : Controller σ) (i : Nat)
    (call : Channel → VcStatus × Channel) :
    (inSession k ctrl i call).2.calWatchdogMs =
      if (inSession k ctrl i call).1 = .ok then vcCalWatchdogMs k else ctrl.calWatchdogMs := by
  by_cases hok : (onChannel ctrl i (sessionCall ctrl call)).1 = .ok
  · simp only [inSession, if_pos hok]
    rfl
  · simp only [inSession, if_neg hok]
    exact watchdog_onChannel ctrl i _

theorem watchdog_channelParamAction (k : Kconfig) (ctrl : Controller σ) (i : Nat)
    (action : ParamAction) :
    (channelParamAction k ctrl i action).2.calWatchdogMs = ctrl.calWatchdogMs := by
  have hback : ∀ (ctrl : Controller σ) s, (putBack ctrl i s).2.calWatchdogMs =
      ctrl.calWatchdogMs := by
    intro ctrl s
    unfold putBack
    split
    · rfl
    · split <;> rfl
  unfold channelParamAction
  split
  · rfl
  split
  · rfl
  · split <;> rfl
  · split
    · rfl
    dsimp only
    split
    · rfl
    · exact hback _ _
  · exact hback _ _
  · rfl

theorem watchdog_systemParamAction (k : Kconfig) (ctrl : Controller σ) (action : ParamAction) :
    (systemParamAction k ctrl action).2.calWatchdogMs = vcCalWatchdogMs k ∨
      (systemParamAction k ctrl action).2.calWatchdogMs = ctrl.calWatchdogMs := by
  unfold systemParamAction
  cases action with
  | none => exact .inr rfl
  | other value => exact .inr rfl
  | factoryReset => exact .inr rfl
  | save =>
    dsimp only
    split <;> exact .inr rfl
  | load =>
    dsimp only
    split
    · exact .inr rfl
    · split
      · exact .inr rfl
      split
      · exact .inr rfl
      · exact watchdog_setSystemConfig k { ctrl with store := _ } _

/-- A commit that passes its check restarts the watchdog, whatever the save answers. -/
theorem watchdog_channelCalCommit (k : Kconfig) (ctrl : Controller σ) (i : Nat) :
    (channelCalCommit k ctrl i).2.calWatchdogMs =
      if (inSession k ctrl i fun ch => (calCommit ch, ch)).1 = .ok then vcCalWatchdogMs k
      else ctrl.calWatchdogMs := by
  rw [← watchdog_inSession]
  unfold channelCalCommit
  dsimp only
  split
  · rfl
  · split <;> rfl

/-- What one operation may make of the watchdog: it restarts it, leaves it, or is a tick of the
session that does not reach the timeout. -/
def WatchdogAfter (k : Kconfig) (ctrl : Controller σ) (wd : UInt32) : Prop :=
  wd = vcCalWatchdogMs k ∨ wd = ctrl.calWatchdogMs ∨
    ∃ dtMs, ctrl.operatingMode = .calibration ∧ dtMs < ctrl.calWatchdogMs ∧
      wd = ctrl.calWatchdogMs - dtMs

theorem watchdog_step (k : Kconfig) (ctrl : Controller σ) (op : ControllerOp σ) :
    WatchdogAfter k ctrl (op.step k ctrl).calWatchdogMs := by
  have hsame : ∀ {wd}, wd = ctrl.calWatchdogMs → WatchdogAfter k ctrl wd := fun h => .inr (.inl h)
  have hmaybe : ∀ {wd}, wd = vcCalWatchdogMs k ∨ wd = ctrl.calWatchdogMs →
      WatchdogAfter k ctrl wd := fun h => h.imp_right .inl
  have hsession : ∀ i call, (inSession k ctrl i call).2.calWatchdogMs = vcCalWatchdogMs k ∨
      (inSession k ctrl i call).2.calWatchdogMs = ctrl.calWatchdogMs := by
    intro i call
    rw [watchdog_inSession]
    split
    · exact .inl rfl
    · exact .inr rfl
  cases op with
  | setOperatingMode mode => exact hmaybe (watchdog_setOperatingMode k ctrl mode)
  | calibrationUnlock value =>
    show WatchdogAfter k ctrl (calibrationUnlock ctrl value).2.calWatchdogMs
    unfold calibrationUnlock
    split
    · exact hsame rfl
    · split <;> exact hsame rfl
  | calExit =>
    show WatchdogAfter k ctrl (calExit k ctrl).2.calWatchdogMs
    unfold calExit
    split
    · exact hsame rfl
    · exact hmaybe (watchdog_setOperatingMode k ctrl _)
  | calHeartbeat =>
    show WatchdogAfter k ctrl (calHeartbeat k ctrl).calWatchdogMs
    unfold calHeartbeat
    split
    · exact .inl rfl
    · exact hsame rfl
  | setSystemConfig cfg => exact hmaybe (watchdog_setSystemConfig k ctrl cfg)
  | setSystemField field value =>
    cases field
    case operatingMode => exact hmaybe (watchdog_setOperatingMode k ctrl _)
    case startupChannelPolicy => exact hmaybe (watchdog_setSystemConfig k ctrl _)
    all_goals exact hsame rfl
  | tick dtMs =>
    show WatchdogAfter k ctrl (tick k ctrl dtMs).calWatchdogMs
    unfold tick calExit
    split
    next hmode =>
      split
      · rw [if_neg (by simpa using hmode)]
        exact hmaybe (watchdog_setOperatingMode k ctrl _)
      next hlive => exact .inr (.inr ⟨dtMs, hmode, UInt32.not_le.mp hlive, rfl⟩)
    · exact hsame rfl
  | systemParamAction action => exact hmaybe (watchdog_systemParamAction k ctrl action)
  | setStorageBackend backend => exact hsame rfl
  | channelSetField i field value => exact hsame (watchdog_onChannel ctrl i _)
  | channelOutputAction i action => exact hsame (watchdog_onChannel ctrl i _)
  | channelFaultCommand i cmd => exact hsame (watchdog_onChannel ctrl i _)
  | channelSetCalField i field value => exact hmaybe (hsession i _)
  | channelParamAction i action => exact hsame (watchdog_channelParamAction k ctrl i action)
  | channelCalOutputEnable i enable => exact hmaybe (hsession i _)
  | channelCalRawDac i code => exact hmaybe (hsession i _)
  | channelCalSample i => exact hmaybe (hsession i _)
  | channelCalCommit i =>
    have hcommit := watchdog_channelCalCommit k ctrl i
    rw [← watchdog_inSession] at hcommit
    exact hmaybe (hcommit ▸ hsession i _)
  | publishVoltage i raw ts => exact hsame (watchdog_onChannel ctrl i _)
  | publishCurrent i raw ts => exact hsame (watchdog_onChannel ctrl i _)
  | consumeFault i cause => exact hsame (watchdog_onChannel ctrl i _)

/-- Session entry restarts the watchdog. -/
theorem watchdog_entered {k : Kconfig} {ctrl : Controller σ} {op : ControllerOp σ}
    (h : op.movesTo ctrl = some .calibration) :
    (op.step k ctrl).calWatchdogMs = vcCalWatchdogMs k := by
  obtain ⟨cfg, store, hcall⟩ := call_of_movesTo (k := k) h
  rw [ControllerOp.step, hcall, watchdog_transition, if_pos rfl]

/-- After an event that restarts it, the session is live with the whole timeout ahead. -/
theorem watchdog_restarted {k : Kconfig} {ctrl : Controller σ} {op : ControllerOp σ}
    (h : restarts k ctrl op) :
    (op.step k ctrl).calWatchdogMs = vcCalWatchdogMs k ∧
      (op.step k ctrl).operatingMode = .calibration := by
  simp only [restarts, Bool.or_eq_true, decide_eq_true_eq, Bool.and_eq_true] at h
  rcases h with hmoves | ⟨hmode, hinside⟩
  · refine ⟨watchdog_entered hmoves, ?_⟩
    have hreset : op.isFactoryReset = false := by
      cases op with
      | systemParamAction action => cases action <;> first | rfl | cases hmoves
      | _ => rfl
    rw [operatingMode_step, hmoves, hreset]
    rfl
  have hsession : ∀ i call, (inSession k ctrl i call).1 = .ok →
      (inSession k ctrl i call).2.calWatchdogMs = vcCalWatchdogMs k ∧
        (inSession k ctrl i call).2.operatingMode = .calibration := by
    intro i call hok
    have hcontrol := congrArg Control.mode (control_inSession k ctrl i call)
    exact ⟨by rw [watchdog_inSession, if_pos hok], hcontrol.trans hmode⟩
  have hwrite : (setOperatingMode k ctrl .calibration).2 = calWatchdogReset k ctrl := by
    simp [setOperatingMode, isKnownMode, hmode]
  cases op <;> simp only [restartsInside, decide_eq_true_eq, Bool.false_eq_true] at hinside
  case setOperatingMode mode =>
    obtain rfl := hinside
    show (setOperatingMode k ctrl .calibration).2.calWatchdogMs = _ ∧
      (setOperatingMode k ctrl .calibration).2.operatingMode = _
    rw [hwrite]
    exact ⟨rfl, hmode⟩
  case setSystemField field value =>
    cases field <;> simp only [decide_eq_true_eq, Bool.false_eq_true] at hinside
    show (setOperatingMode k ctrl (.ofValue value)).2.calWatchdogMs = _ ∧
      (setOperatingMode k ctrl (.ofValue value)).2.operatingMode = _
    rw [hinside, hwrite]
    exact ⟨rfl, hmode⟩
  case calHeartbeat =>
    show (calHeartbeat k ctrl).calWatchdogMs = _ ∧ (calHeartbeat k ctrl).operatingMode = _
    rw [calHeartbeat, if_pos hmode]
    exact ⟨rfl, hmode⟩
  case channelSetCalField i field value => exact hsession i _ hinside
  case channelCalOutputEnable i enable => exact hsession i _ hinside
  case channelCalRawDac i code => exact hsession i _ hinside
  case channelCalSample i => exact hsession i _ hinside
  case channelCalCommit i =>
    have hcheck : (inSession k ctrl i fun ch => (calCommit ch, ch)).1 = .ok := by
      cases hch : ctrl.channels[i]? with
      | none => simp [hch] at hinside
      | some ch =>
        have hok : calCommit ch = .ok := by simpa [hch] using hinside
        simp [inSession, onChannel, sessionCall, hch, hmode, hok]
    refine ⟨?_, ?_⟩
    · show (channelCalCommit k ctrl i).2.calWatchdogMs = _
      rw [watchdog_channelCalCommit, if_pos hcheck]
    · exact (congrArg Control.mode (control_channelCalCommit k ctrl i)).trans hmode

/-! ## Reachable states -/

/-- What holds in every state: a live session has time left, and the mode it goes back to is the
one it was entered from. -/
structure Watched (k : Kconfig) (p : Controller σ × OperatingMode) : Prop where
  left : p.1.operatingMode = .calibration →
    0 < p.1.calWatchdogMs ∧ p.1.calWatchdogMs ≤ vcCalWatchdogMs k
  known : p.1.operatingMode = .normal ∨ p.1.operatingMode = .automatic ∨
    p.1.operatingMode = .calibration
  back : p.1.preCalMode = p.2
  outside : p.2 = .normal ∨ p.2 = .automatic

theorem preCal_step (k : Kconfig) (ctrl : Controller σ) (op : ControllerOp σ) :
    (op.step k ctrl).preCalMode = enteredFrom ctrl op ctrl.preCalMode := by
  have hpre : (op.step k ctrl).preCalMode = (op.controlAfter k ctrl).preCal :=
    congrArg Control.preCal (control_step k ctrl op)
  have hmoved : ∀ record mode, (((control ctrl).recorded record).moved mode).preCal =
      if mode = some .calibration then ctrl.operatingMode else ctrl.preCalMode := by
    intro record mode
    have hrecorded : ((control ctrl).recorded record).preCal = ctrl.preCalMode ∧
        ((control ctrl).recorded record).mode = ctrl.operatingMode := by
      cases record <;> exact ⟨rfl, rfl⟩
    cases mode with
    | none => simpa [Control.moved] using hrecorded.1
    | some mode =>
      by_cases hcal : mode = .calibration
      · simpa [Control.moved, Control.enter, hcal] using hrecorded.2
      · simpa [Control.moved, Control.enter, hcal] using hrecorded.1
  rw [hpre]
  unfold enteredFrom
  cases op
  case calibrationUnlock value =>
    show ((control ctrl).unlock value).preCal = _
    unfold Control.unlock
    split
    · rfl
    · split <;> rfl
  case systemParamAction action =>
    cases action
    case factoryReset => rfl
    all_goals exact hmoved _ _
  all_goals exact hmoved _ _

theorem watched_step {k : Kconfig} {p : Controller σ × OperatingMode} {op : ControllerOp σ}
    (h : Watched k p) : Watched k (watched (ControllerOp.step k) enteredFrom p op) := by
  obtain ⟨ctrl, mode⟩ := p
  obtain ⟨hleft, hknown, hback, houtside⟩ := h
  have hfull : 0 < vcCalWatchdogMs k := UInt32.lt_iff_toNat_lt.mpr (toNat_vcCalWatchdogMs k).2
  refine ⟨fun hmode => ?_, ?_, ?_, ?_⟩
  · have hmode : (op.step k ctrl).operatingMode = .calibration := hmode
    show 0 < (op.step k ctrl).calWatchdogMs ∧ (op.step k ctrl).calWatchdogMs ≤ _
    rcases inCalibration_step hmode with hmoves | ⟨hlive, -⟩
    · rw [watchdog_entered hmoves]
      exact ⟨hfull, UInt32.le_refl _⟩
    obtain ⟨hpos, hle⟩ : 0 < ctrl.calWatchdogMs ∧ ctrl.calWatchdogMs ≤ vcCalWatchdogMs k :=
      hleft hlive
    rcases watchdog_step k ctrl op with h | h | ⟨dtMs, -, hlt, h⟩ <;> rw [h]
    · exact ⟨hfull, UInt32.le_refl _⟩
    · exact ⟨hpos, hle⟩
    · have hsub := UInt32.toNat_sub_of_le _ _ (UInt32.le_of_lt hlt)
      rw [UInt32.lt_iff_toNat_lt] at hlt ⊢
      rw [UInt32.le_iff_toNat_le] at hle ⊢
      refine ⟨?_, ?_⟩ <;> rw [hsub]
      · have hzero : (0 : UInt32).toNat = 0 := rfl
        omega
      · omega
  · have hknown : ctrl.operatingMode = .normal ∨ ctrl.operatingMode = .automatic ∨
        ctrl.operatingMode = .calibration := hknown
    show (op.step k ctrl).operatingMode = _ ∨ (op.step k ctrl).operatingMode = _ ∨
      (op.step k ctrl).operatingMode = _
    rw [operatingMode_step]
    split
    · exact .inl rfl
    · cases hmoves : op.movesTo ctrl with
      | none => exact hknown
      | some mode => exact movesTo_known hmoves
  · show (op.step k ctrl).preCalMode = enteredFrom ctrl op mode
    rw [preCal_step]
    exact congrArg (enteredFrom ctrl op) hback
  · show enteredFrom ctrl op mode = _ ∨ enteredFrom ctrl op mode = _
    unfold enteredFrom
    split
    next hmoves =>
      -- a session is not entered from CALIBRATION
      have hne := movesTo_ne hmoves
      rcases hknown with h | h | h
      · exact .inl h
      · exact .inr h
      · exact absurd h.symm hne
    · exact houtside

/-! ## Ticks of a session -/

def tickOps (ds : List UInt32) : List (ControllerOp σ) := ds.map .tick

/-- The time that a list of ticks takes, in milliseconds. -/
def elapsed (ds : List UInt32) : Nat := (ds.map UInt32.toNat).sum

theorem elapsed_concat (ds : List UInt32) (d : UInt32) :
    elapsed (ds ++ [d]) = elapsed ds + d.toNat := by simp [elapsed]

theorem tick_within {k : Kconfig} {ctrl : Controller σ} {d : UInt32}
    (hmode : ctrl.operatingMode = .calibration) (hd : d.toNat < ctrl.calWatchdogMs.toNat) :
    tick k ctrl d = { ctrl with calWatchdogMs := ctrl.calWatchdogMs - d } ∧
      (ctrl.calWatchdogMs - d).toNat = ctrl.calWatchdogMs.toNat - d.toNat := by
  have hlt : d < ctrl.calWatchdogMs := UInt32.lt_iff_toNat_lt.mpr hd
  refine ⟨?_, UInt32.toNat_sub_of_le _ _ (UInt32.le_of_lt hlt)⟩
  rw [tick, if_pos hmode, if_neg (UInt32.not_le.mpr hlt)]

/-- Ticks that stay below the time left only take it down. -/
theorem ticks_within {k : Kconfig} {ds : List UInt32} {ctrl : Controller σ}
    (hmode : ctrl.operatingMode = .calibration) (hds : elapsed ds < ctrl.calWatchdogMs.toNat) :
    ∃ wd, exec (ControllerOp.step k) ctrl (tickOps ds) = { ctrl with calWatchdogMs := wd } ∧
      wd.toNat = ctrl.calWatchdogMs.toNat - elapsed ds := by
  induction ds generalizing ctrl with
  | nil => exact ⟨ctrl.calWatchdogMs, rfl, rfl⟩
  | cons d ds ih =>
    have hsum : elapsed (d :: ds) = d.toNat + elapsed ds := by simp [elapsed]
    obtain ⟨htick, hleft⟩ := tick_within (k := k) (d := d) hmode (by omega)
    let next : Controller σ := { ctrl with calWatchdogMs := ctrl.calWatchdogMs - d }
    have hnext : next.calWatchdogMs.toNat = ctrl.calWatchdogMs.toNat - d.toNat := hleft
    have hmode' : next.operatingMode = .calibration := hmode
    obtain ⟨wd, hrun, hwd⟩ := ih hmode' (by omega)
    refine ⟨wd, ?_, by omega⟩
    show exec (ControllerOp.step k) (tick k ctrl d) (tickOps ds) = _
    rw [htick, hrun]

/-- The tick that reaches the timeout carries out the transition back. -/
theorem tick_expires {k : Kconfig} {p : Controller σ × OperatingMode} {d : UInt32}
    (h : Watched k p) (hmode : p.1.operatingMode = .calibration)
    (hd : p.1.calWatchdogMs.toNat ≤ d.toNat) : tick k p.1 d = transition k p.1 p.2 := by
  have hmove : canMove p.1 p.2 := by
    rcases h.outside with hout | hout <;> simp [canMove, isKnownMode, hout, hmode]
  rw [tick, if_pos hmode, if_pos (UInt32.le_iff_toNat_le.mpr hd), calExit,
    if_neg (by simpa using hmode), h.back, setOperatingMode_of_canMove k p.1 p.2 hmove]

theorem rawOff_expired {k : Kconfig} {ctrl : Controller σ} {mode : OperatingMode}
    (hmode : ctrl.operatingMode = .calibration) :
    ∀ ch ∈ (transition k ctrl mode).channels, RawOff ch := by
  intro ch hch
  obtain ⟨i, hi⟩ := List.mem_iff_getElem?.mp hch
  rw [getElem?_transition, hmode] at hi
  obtain ⟨ch₀, -, rfl⟩ := Option.map_eq_some_iff.mp hi
  exact rawOff_leave k mode ch₀

theorem operatingMode_transition (k : Kconfig) (ctrl : Controller σ) (mode : OperatingMode) :
    (transition k ctrl mode).operatingMode = mode := by
  unfold transition
  dsimp only
  split <;> rfl

/-- Outside a session no tick enters one. -/
theorem ticks_outside {k : Kconfig} {ds : List UInt32} {ctrl : Controller σ}
    (hmode : ctrl.operatingMode ≠ .calibration) :
    (exec (ControllerOp.step k) ctrl (tickOps ds)).operatingMode ≠ .calibration := by
  induction ds generalizing ctrl with
  | nil => exact hmode
  | cons d ds ih =>
    refine ih ?_
    show (tick k ctrl d).operatingMode ≠ _
    rw [tick, if_neg hmode]
    exact hmode

/-- Ticks that reach the timeout end the session. -/
theorem ticks_expired {k : Kconfig} {ds : List UInt32} {p : Controller σ × OperatingMode}
    (h : Watched k p) (hmode : p.1.operatingMode = .calibration)
    (hds : p.1.calWatchdogMs.toNat ≤ elapsed ds) :
    (exec (ControllerOp.step k) p.1 (tickOps ds)).operatingMode ≠ .calibration := by
  induction ds generalizing p with
  | nil =>
    have hpos := UInt32.lt_iff_toNat_lt.mp (h.left hmode).1
    have hzero : elapsed [] = 0 := rfl
    omega
  | cons d ds ih =>
    show (exec (ControllerOp.step k) (tick k p.1 d) (tickOps ds)).operatingMode ≠ _
    by_cases hd : p.1.calWatchdogMs.toNat ≤ d.toNat
    · refine ticks_outside ?_
      rw [tick_expires h hmode hd, operatingMode_transition]
      rcases h.outside with hout | hout <;> rw [hout] <;> decide
    · obtain ⟨htick, hleft⟩ := tick_within (k := k) (d := d) hmode (by omega)
      have hsum : elapsed (d :: ds) = d.toNat + elapsed ds := by simp [elapsed]
      have hwatched : Watched k (watched (ControllerOp.step k) enteredFrom p (.tick d)) :=
        watched_step h
      have hnext := ih hwatched
      have hstep : (watched (ControllerOp.step k) enteredFrom p (.tick d)).1 = tick k p.1 d := rfl
      rw [hstep, htick] at hnext
      rw [htick]
      exact hnext hmode (by simp only [hleft]; omega)

/-- The session stays watched while ticks only take its time down. -/
theorem Watched.ticked {k : Kconfig} {p : Controller σ × OperatingMode} (h : Watched k p)
    (hmode : p.1.operatingMode = .calibration) {wd : UInt32} (hpos : 0 < wd.toNat)
    (hle : wd.toNat ≤ p.1.calWatchdogMs.toNat) :
    Watched k ({ p.1 with calWatchdogMs := wd }, p.2) := by
  have hfull := UInt32.le_iff_toNat_le.mp (h.left hmode).2
  refine ⟨fun _ => ⟨UInt32.lt_iff_toNat_lt.mpr hpos, UInt32.le_iff_toNat_le.mpr ?_⟩, h.known,
    h.back, h.outside⟩
  exact Nat.le_trans hle hfull

/-- The tick that reaches the timeout restores the mode and shuts every channel. -/
theorem ticks_expire {k : Kconfig} {p : Controller σ × OperatingMode} {ds : List UInt32}
    {d : UInt32} (h : Watched k p) (hmode : p.1.operatingMode = .calibration)
    (hds : elapsed ds < p.1.calWatchdogMs.toNat)
    (hd : p.1.calWatchdogMs.toNat ≤ elapsed (ds ++ [d])) :
    exec (ControllerOp.step k) p.1 (tickOps (ds ++ [d])) =
      transition k (exec (ControllerOp.step k) p.1 (tickOps ds)) p.2 := by
  obtain ⟨wd, hafter, hwd⟩ := ticks_within (k := k) hmode hds
  rw [elapsed_concat] at hd
  have hticked : Watched k ({ p.1 with calWatchdogMs := wd }, p.2) :=
    h.ticked hmode (by omega) (by omega)
  have hexpires := tick_expires (d := d) hticked hmode (by simp only [hwd]; omega)
  have hlast : exec (ControllerOp.step k) p.1 (tickOps (ds ++ [d])) =
      tick k (exec (ControllerOp.step k) p.1 (tickOps ds)) d := by
    simp only [tickOps, List.map_append, exec_append]
    rfl
  rw [hlast, hafter]
  exact hexpires

/-- In every reachable session the watchdog is between one and the timeout. After an event that
restarts it the session outlives a list of ticks exactly if they add up to less than the timeout,
and the tick that reaches it restores the mode the session was entered from, with every channel
shut. -/
theorem watchdog_exact (k : Kconfig) (nodes : List Node) (store : σ)
    (ops : List (ControllerOp σ)) :
    let p := exec (watched (ControllerOp.step k) enteredFrom)
      (VcController.init k nodes store, .normal) ops
    (p.1.operatingMode = .calibration →
      0 < p.1.calWatchdogMs ∧ p.1.calWatchdogMs ≤ vcCalWatchdogMs k) ∧
    ∀ op, restarts k p.1 op →
      let q := watched (ControllerOp.step k) enteredFrom p op
      let after := fun ds => exec (ControllerOp.step k) q.1 (tickOps ds)
      (∀ ds, (after ds).operatingMode = .calibration ↔ elapsed ds < (vcCalWatchdogMs k).toNat) ∧
      (∀ ds, elapsed ds < (vcCalWatchdogMs k).toNat →
        (after ds).calWatchdogMs.toNat = (vcCalWatchdogMs k).toNat - elapsed ds) ∧
      ∀ ds d, elapsed ds < (vcCalWatchdogMs k).toNat →
        (vcCalWatchdogMs k).toNat ≤ elapsed (ds ++ [d]) →
          (q.2 = .normal ∨ q.2 = .automatic) ∧ (after (ds ++ [d])).operatingMode = q.2 ∧
            ∀ ch ∈ (after (ds ++ [d])).channels,
              ch.calOutputEnabled = 0 ∧ ch.rawDacReadback = 0 := by
  intro p
  have hinit : Watched k (VcController.init k nodes store, .normal) :=
    ⟨nofun, .inl rfl, rfl, .inl rfl⟩
  have hp : Watched k p := exec_invariant (Q := fun _ _ => True)
    (fun _ _ h _ => watched_step h) hinit (along_of_forall (fun _ _ _ => trivial) _)
  refine ⟨hp.left, fun op hop => ?_⟩
  have hq : Watched k (watched (ControllerOp.step k) enteredFrom p op) := watched_step hp
  obtain ⟨hfull, hmode⟩ := watchdog_restarted hop
  intro q after
  have hfull : q.1.calWatchdogMs = vcCalWatchdogMs k := hfull
  have hmode : q.1.operatingMode = .calibration := hmode
  have hwithin : ∀ ds, elapsed ds < (vcCalWatchdogMs k).toNat → ∃ wd,
      after ds = { q.1 with calWatchdogMs := wd } ∧
        wd.toNat = (vcCalWatchdogMs k).toNat - elapsed ds := by
    intro ds hds
    rw [← hfull] at hds ⊢
    exact ticks_within hmode hds
  refine ⟨fun ds => ⟨fun hlive => ?_, fun hds => ?_⟩, fun ds hds => ?_, fun ds d hds hd => ?_⟩
  · refine Nat.lt_of_not_le fun hds => ?_
    rw [← hfull] at hds
    exact ticks_expired hq hmode hds hlive
  · obtain ⟨wd, hafter, -⟩ := hwithin ds hds
    rw [hafter]
    exact hmode
  · obtain ⟨wd, hafter, hwd⟩ := hwithin ds hds
    rw [hafter]
    exact hwd
  · obtain ⟨wd, hafter, -⟩ := hwithin ds hds
    have hcal : (after ds).operatingMode = .calibration := by
      rw [hafter]
      exact hmode
    rw [← hfull] at hds hd
    have hexpires : after (ds ++ [d]) = transition k (after ds) q.2 := ticks_expire hq hmode hds hd
    rw [hexpires]
    exact ⟨hq.outside, operatingMode_transition k _ _, rawOff_expired hcal⟩

/-- A heartbeat in a session that was entered from AUTOMATIC, and the ticks after it. -/
theorem watchdog_exact_example :
    let ctrl := exec (ControllerOp.step Kconfig.hvb) (VcController.init Kconfig.hvb [dacNode] ())
      [.setOperatingMode .automatic, .calibrationUnlock calUnlockStep1,
        .calibrationUnlock calUnlockStep2, .setOperatingMode .calibration, .tick 250000,
        .calHeartbeat, .tick 200000, .tick 99999]
    ctrl.operatingMode = .calibration ∧ ctrl.calWatchdogMs.toNat = 1 ∧
      (ctrl.channels.length = 1 ∧ (tick Kconfig.hvb ctrl 1).operatingMode = .automatic) := by
  have hlive := watchdog_exact Kconfig.hvb [dacNode] () [.setOperatingMode .automatic,
    .calibrationUnlock calUnlockStep1, .calibrationUnlock calUnlockStep2,
    .setOperatingMode .calibration, .tick 250000]
  obtain ⟨hiff, hleft, hexpires⟩ := hlive.2 .calHeartbeat (by decide +kernel)
  refine ⟨(hiff [200000, 99999]).mpr (by decide), hleft [200000, 99999] (by decide), ?_, ?_⟩
  · decide +kernel
  · exact (hexpires [200000, 99999] 1 (by decide) (by decide)).2.1

end CalWatchdog
