import HvbFirmware.VcControllerRuns

/-!
# What a refused operation leaves

An operation that answers with an error should leave the controller as it was, whatever became of
the storage. Two do not: a system record is stored before the transition it asks for is checked,
and a commit restarts the watchdog before the calibration is saved.
-/
namespace Atomicity

open VcTypes VcChannel VcController Runs

variable {σ : Type}

/-! ## Refused calls on a channel -/

/-- A call is accepted or returns the channel it was given. -/
def Atomic (call : Channel → VcStatus × Channel) : Prop :=
  ∀ ch, (call ch).1 = .ok ∨ (call ch).2 = ch

theorem atomic_outputAction (action : OutputAction) : Atomic (outputAction · action) := by
  intro ch
  dsimp only
  unfold outputAction
  split
  · exact .inr rfl
  split
  · exact .inr rfl
  split
  · split
    · exact .inr rfl
    · exact .inl rfl
  · exact .inl rfl
  · exact .inl rfl
  · exact .inl rfl
  · exact .inl rfl

theorem atomic_faultCommand (cmd : ChannelFaultCommand) : Atomic (faultCommand · cmd) := by
  intro ch
  dsimp only
  unfold faultCommand
  split
  · exact .inr rfl
  split
  · split
    · exact .inl rfl
    split
    · exact .inr rfl
    · exact .inl rfl
  · exact .inl rfl
  · exact .inl rfl

theorem atomic_setField (k : Kconfig) (field : ConfigField) (value : UInt16) :
    Atomic (VcChannel.setField k · field value) := by
  intro ch
  dsimp only [VcChannel.setField]
  split
  · exact .inr rfl
  · exact .inl rfl

theorem atomic_setCalField (field : CalField) (value : UInt16) :
    Atomic (setCalField · field value) := by
  intro ch
  dsimp only [setCalField]
  split
  · exact .inr rfl
  · exact .inl rfl

theorem atomic_calSetOutputEnable (enable : Bool) : Atomic (calSetOutputEnable · enable) := by
  intro ch
  dsimp only [calSetOutputEnable]
  split
  · exact .inr rfl
  split
  · split
    · exact .inr rfl
    · exact .inl rfl
  · exact .inl rfl

theorem atomic_calSetRawDac (k : Kconfig) (code : UInt32) : Atomic (calSetRawDac k · code) := by
  intro ch
  dsimp only [calSetRawDac]
  split
  · exact .inr rfl
  split
  · exact .inr rfl
  split
  · exact .inr rfl
  split
  · exact .inr rfl
  · exact .inl rfl

theorem atomic_calSample : Atomic calSample := by
  intro ch
  dsimp only [calSample]
  split
  · exact .inr rfl
  · exact .inl rfl

/-- A write of a target that is refused is not followed by an enable. -/
theorem atomic_channelSetField (k : Kconfig) (ctrl : Controller σ) (field : ConfigField)
    (value : UInt16) :
    Atomic fun ch =>
      let r := VcChannel.setField k ch field value
      if r.1 = .ok ∧ field = .configuredTargetVoltage ∧ ctrl.operatingMode = .automatic ∧
          value.toInt16 ≠ 0 ∧ r.2.activeFaultCause = 0 then
        (r.1, (outputAction r.2 .enable).2)
      else r := by
  intro ch
  dsimp only
  split
  next h => exact .inl h.1
  · exact atomic_setField k field value ch

theorem atomic_sessionCall {ctrl : Controller σ} {call : Channel → VcStatus × Channel}
    (h : Atomic call) : Atomic (sessionCall ctrl call) := by
  intro ch
  dsimp only [sessionCall]
  split
  · exact .inr rfl
  · exact h ch

/-! ## Refused operations -/

theorem refused_onChannel {ctrl : Controller σ} {i : Nat} {call : Channel → VcStatus × Channel}
    (hcall : Atomic call) (h : (onChannel ctrl i call).1 ≠ .ok) :
    (onChannel ctrl i call).2 = ctrl := by
  unfold onChannel at h ⊢
  cases hch : ctrl.channels[i]? with
  | none => rfl
  | some ch =>
    simp only [hch] at h ⊢
    obtain ⟨hlt, rfl⟩ := List.getElem?_eq_some_iff.mp hch
    rw [(hcall _).resolve_left h, List.set_getElem_self]

theorem refused_inSession {k : Kconfig} {ctrl : Controller σ} {i : Nat}
    {call : Channel → VcStatus × Channel} (hcall : Atomic call)
    (h : (inSession k ctrl i call).1 ≠ .ok) : (inSession k ctrl i call).2 = ctrl := by
  unfold inSession at h ⊢
  dsimp only at h ⊢
  split at h
  next hok => exact absurd hok h
  next hrefused =>
    rw [if_neg hrefused]
    exact refused_onChannel (atomic_sessionCall hcall) hrefused

theorem refused_setOperatingMode {k : Kconfig} {ctrl : Controller σ} {mode : OperatingMode}
    (h : (setOperatingMode k ctrl mode).1 ≠ .ok) : (setOperatingMode k ctrl mode).2 = ctrl := by
  unfold setOperatingMode at h ⊢
  grind

/-- A refused record stays stored. -/
theorem refused_setSystemConfig {k : Kconfig} {ctrl : Controller σ} {cfg : SystemConfig}
    (h : (setSystemConfig k ctrl cfg).1 ≠ .ok) :
    (setSystemConfig k ctrl cfg).2 = { ctrl with sysCfg := storedConfig ctrl cfg } := by
  unfold setSystemConfig at h ⊢
  dsimp only at h ⊢
  split at h
  next hmode =>
    rw [if_pos hmode]
    exact refused_setOperatingMode h
  · exact absurd rfl h

/-- A commit that gets past the checks of its channel. -/
def commitPasses (ctrl : Controller σ) (i : Nat) : Bool :=
  ctrl.operatingMode = .calibration ∧ ctrl.channels[i]?.any fun ch => calCommit ch = .ok

/-- The session call of a commit, which restarts the watchdog when it passes. -/
theorem inSession_commit (k : Kconfig) (ctrl : Controller σ) (i : Nat) :
    let r := inSession k ctrl i fun ch => (calCommit ch, ch)
    if commitPasses ctrl i then r = (.ok, calWatchdogReset k ctrl) else r.1 ≠ .ok ∧ r.2 = ctrl := by
  intro r
  have hsame : (onChannel ctrl i (sessionCall ctrl fun ch => (calCommit ch, ch))).2 = ctrl := by
    unfold onChannel
    cases hch : ctrl.channels[i]? with
    | none => rfl
    | some ch =>
      obtain ⟨hlt, rfl⟩ := List.getElem?_eq_some_iff.mp hch
      simp only [sessionCall]
      split <;> rw [List.set_getElem_self]
  have hstatus : (onChannel ctrl i (sessionCall ctrl fun ch => (calCommit ch, ch))).1 = .ok ↔
      commitPasses ctrl i := by
    unfold onChannel commitPasses
    cases hch : ctrl.channels[i]? with
    | none => simp
    | some ch =>
      by_cases hmode : ctrl.operatingMode = .calibration <;> simp [sessionCall, hmode]
  split
  next hpasses =>
    show inSession k ctrl i _ = _
    unfold inSession
    dsimp only
    rw [if_pos (hstatus.mpr hpasses), hsame, hstatus.mpr hpasses]
  next hfails =>
    have hr : r = onChannel ctrl i (sessionCall ctrl fun ch => (calCommit ch, ch)) := by
      show inSession k ctrl i _ = _
      unfold inSession
      dsimp only
      rw [if_neg (mt hstatus.mp hfails)]
    rw [hr]
    exact ⟨mt hstatus.mp hfails, hsame⟩

/-- What a refused operation may leave changed: the stored record, and after a commit the
watchdog. -/
def remainder (k : Kconfig) (ctrl : Controller σ) (op : ControllerOp σ) : Controller σ :=
  { ctrl with
    sysCfg := ((op.record ctrl).map (storedConfig ctrl)).getD ctrl.sysCfg
    calWatchdogMs := match op with
      | .channelCalCommit i =>
        if commitPasses ctrl i then k.calWatchdogTimeoutS * 1000 else ctrl.calWatchdogMs
      | _ => ctrl.calWatchdogMs }

/-- The controller without the store of its backend, which a storage call may have changed. -/
def withStore (ctrl : Controller σ) (store : σ) : Controller σ := { ctrl with store := store }

theorem refused_systemParamAction {k : Kconfig} {ctrl : Controller σ} {action : ParamAction}
    (h : (systemParamAction k ctrl action).1 ≠ .ok) :
    withStore (systemParamAction k ctrl action).2 ctrl.store =
      remainder k ctrl (.systemParamAction action) := by
  cases action with
  | none => exact absurd rfl h
  | factoryReset => exact absurd rfl h
  | other value => rfl
  | save =>
    unfold systemParamAction
    dsimp only
    split <;> rfl
  | load =>
    cases hload : ctrl.storage.bind (·.loadSystemConfig) with
    | none => simp [systemParamAction, remainder, ControllerOp.record, withStore, hload]
    | some load =>
      simp only [systemParamAction, hload] at h ⊢
      have hrecord : (ControllerOp.systemParamAction (σ := σ) .load).record ctrl =
          if (load ctrl.store).1 < 0 then none else some (load ctrl.store).2.1 := by
        simp only [ControllerOp.record, hload]
      split at h
      · exact absurd rfl h
      next hent =>
      rw [if_neg hent]
      split at h
      next hneg =>
        simp [remainder, hrecord, hneg, withStore]
      next hneg =>
        rw [if_neg hneg, refused_setSystemConfig h]
        simp only [remainder, hrecord, if_neg hneg]
        rfl

theorem refused_putBack {ctrl : Controller σ} {i : Nat} {s : VcStatus × Channel}
    (h : (putBack ctrl i s).1 ≠ .ok) : (putBack ctrl i s).2 = ctrl := by
  unfold putBack at h ⊢
  split at h
  next hs => rw [if_pos hs]
  · split at h <;> exact absurd rfl h

theorem refused_channelParamAction {k : Kconfig} {ctrl : Controller σ} {i : Nat}
    {action : ParamAction} (h : (channelParamAction k ctrl i action).1 ≠ .ok) :
    withStore (channelParamAction k ctrl i action).2 ctrl.store = ctrl := by
  unfold channelParamAction at h ⊢
  cases hch : ctrl.channels[i]? with
  | none => rfl
  | some ch =>
    simp only [hch] at h ⊢
    cases action with
    | none => rfl
    | other value => rfl
    | save =>
      dsimp only
      split <;> rfl
    | factoryReset =>
      rw [refused_putBack h]
      rfl
    | load =>
      cases hload : ctrl.storage.bind (·.loadChannelConfig) with
      | none => rfl
      | some load =>
        simp only [hload] at h ⊢
        split at h
        next hneg =>
          rw [if_pos hneg]
          rfl
        next hneg =>
          rw [if_neg hneg, refused_putBack h]
          rfl

theorem refused_channelCalCommit {k : Kconfig} {ctrl : Controller σ} {i : Nat} :
    withStore (channelCalCommit k ctrl i).2 ctrl.store =
      remainder k ctrl (.channelCalCommit i) := by
  have hsession := inSession_commit k ctrl i
  unfold channelCalCommit
  dsimp only at hsession ⊢
  generalize inSession k ctrl i (fun ch => (calCommit ch, ch)) = r at hsession
  by_cases hpasses : commitPasses ctrl i
  · rw [if_pos hpasses] at hsession
    subst hsession
    simp only [remainder, ControllerOp.record, if_pos hpasses]
    split
    · rfl
    · split <;> rfl
  · rw [if_neg hpasses] at hsession
    simp only [remainder, ControllerOp.record, if_neg hpasses]
    rw [if_pos hsession.1, hsession.2]
    rfl

theorem refused_call {k : Kconfig} {ctrl : Controller σ} {op : ControllerOp σ}
    (hop : ∀ value, op ≠ .calibrationUnlock value) (h : (op.call k ctrl).1 ≠ .ok) :
    withStore (op.call k ctrl).2 ctrl.store = remainder k ctrl op := by
  -- the operations that leave nothing behind
  have hnothing : ∀ {ctrl'}, ctrl' = ctrl → withStore ctrl' ctrl.store = ctrl := by
    rintro _ rfl
    rfl
  cases op with
  | calibrationUnlock value => exact absurd rfl (hop value)
  | setOperatingMode mode => exact hnothing (refused_setOperatingMode h)
  | setSystemConfig cfg =>
    show withStore (setSystemConfig k ctrl cfg).2 ctrl.store = _
    rw [refused_setSystemConfig h]
    rfl
  | setSystemField field value =>
    cases field
    case operatingMode => exact hnothing (refused_setOperatingMode h)
    case startupChannelPolicy =>
      show withStore (setSystemConfig k ctrl _).2 ctrl.store = _
      rw [refused_setSystemConfig h]
      rfl
    all_goals rfl
  | calExit =>
    refine hnothing ?_
    show (calExit k ctrl).2 = ctrl
    have h : (calExit k ctrl).1 ≠ .ok := h
    unfold calExit at h ⊢
    split at h
    next hmode => rw [if_pos hmode]
    next hmode =>
      rw [if_neg hmode]
      exact refused_setOperatingMode h
  | systemParamAction action => exact refused_systemParamAction h
  | channelParamAction i action => exact refused_channelParamAction h
  | channelSetField i field value =>
    exact hnothing (refused_onChannel (atomic_channelSetField k ctrl field value) h)
  | channelOutputAction i action =>
    refine hnothing (refused_onChannel (fun ch => ?_) h)
    split
    · exact .inr rfl
    · exact atomic_outputAction action ch
  | channelFaultCommand i cmd => exact hnothing (refused_onChannel (atomic_faultCommand cmd) h)
  | channelSetCalField i field value =>
    exact hnothing (refused_inSession (atomic_setCalField field value) h)
  | channelCalOutputEnable i enable =>
    refine hnothing (refused_inSession (fun ch => ?_) h)
    split
    · exact .inr rfl
    · exact atomic_calSetOutputEnable enable ch
  | channelCalRawDac i code => exact hnothing (refused_inSession (atomic_calSetRawDac k code) h)
  | channelCalSample i => exact hnothing (refused_inSession atomic_calSample h)
  | channelCalCommit i => exact refused_channelCalCommit
  | publishVoltage i raw ts => exact hnothing (refused_onChannel (fun _ => .inl rfl) h)
  | publishCurrent i raw ts => exact hnothing (refused_onChannel (fun _ => .inl rfl) h)
  | consumeFault i cause => exact hnothing (refused_onChannel (fun _ => .inl rfl) h)
  | calHeartbeat => exact absurd rfl h
  | tick dtMs => exact absurd rfl h
  | setStorageBackend backend => exact absurd rfl h

/-- In every state an operation that is refused leaves the controller as it was, exactly if the
record it hands over is the stored one already, and a commit that passes its checks finds the
watchdog full. A wrong unlock value, which resets the unlock by design, is left out. -/
theorem refused_unchanged (k : Kconfig) (nodes : List Node) (store : σ)
    (ops : List (ControllerOp σ)) (op : ControllerOp σ)
    (hop : ∀ value, op ≠ .calibrationUnlock value) :
    let ctrl := exec (ControllerOp.step k) (VcController.init k nodes store) ops
    (op.call k ctrl).1 ≠ .ok →
      (withStore (op.call k ctrl).2 ctrl.store = ctrl ↔
        (∀ cfg ∈ op.record ctrl, storedConfig ctrl cfg = ctrl.sysCfg) ∧
        ∀ i, op = .channelCalCommit i → commitPasses ctrl i →
          ctrl.calWatchdogMs = k.calWatchdogTimeoutS * 1000) := by
  intro ctrl h
  rw [refused_call hop h]
  constructor
  · intro hsame
    have hcfg := congrArg Controller.sysCfg hsame
    have hwatchdog := congrArg Controller.calWatchdogMs hsame
    refine ⟨fun cfg hrecord => ?_, ?_⟩
    · have hrecord : op.record ctrl = some cfg := hrecord
      simpa [remainder, hrecord] using hcfg
    · rintro i rfl hpasses
      simpa [remainder, hpasses] using hwatchdog.symm
  · rintro ⟨hcfg, hwatchdog⟩
    have hstored : ((op.record ctrl).map (storedConfig ctrl)).getD ctrl.sysCfg = ctrl.sysCfg := by
      cases hrecord : op.record ctrl with
      | none => rfl
      | some cfg => exact hcfg cfg hrecord
    unfold remainder
    rw [hstored]
    cases op with
    | channelCalCommit i =>
      by_cases hpasses : commitPasses ctrl i
      · simp only [if_pos hpasses]
        rw [← hwatchdog i rfl hpasses]
      · simp only [if_neg hpasses]
    | _ => rfl

/-- A mode write that an active fault refuses. -/
theorem refused_unchanged_example :
    let ctrl := exec (ControllerOp.step Kconfig.hvb) (VcController.init Kconfig.hvb [dacNode] ())
      [.consumeFault 0 faultHardware]
    withStore ((ControllerOp.setOperatingMode .automatic).call Kconfig.hvb ctrl).2 ctrl.store =
      ctrl :=
  (refused_unchanged Kconfig.hvb [dacNode] () [.consumeFault 0 faultHardware]
    (.setOperatingMode .automatic) nofun (by decide +kernel)).mpr ⟨nofun, nofun⟩

/-- A record that asks for the same transition is refused too, but stays stored. -/
theorem refused_changed :
    ¬ ∀ (ops : List (ControllerOp Unit)) (op : ControllerOp Unit),
      (∀ value, op ≠ .calibrationUnlock value) →
      let ctrl := exec (ControllerOp.step Kconfig.hvb)
        (VcController.init Kconfig.hvb [dacNode] ()) ops
      (op.call Kconfig.hvb ctrl).1 ≠ .ok →
        withStore (op.call Kconfig.hvb ctrl).2 ctrl.store = ctrl := by
  intro h
  have hrun := congrArg Controller.sysCfg (h [.consumeFault 0 faultHardware]
    (.setSystemConfig ⟨.automatic, 0⟩) nofun (by decide +kernel))
  revert hrun
  decide +kernel

end Atomicity
