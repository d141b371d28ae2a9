import HvbFirmware.VcControllerRuns
import HvbFirmware.VcRuntime

/-!
# The stored operating mode

`sys_cfg.operating_mode` is the mode that the next boot starts in, and it need not be the live one.
The first part follows it through runs with power cycles and records what is saved; the second
part is the write of the startup policy, which hands the stored mode to the mode check again.
-/
namespace StoredMode

open VcTypes VcChannel VcController VcRuntime Runs

variable {σ : Type}

/-! ## Booting from any backend -/

/-- The record that a boot reads, if the backend has one. -/
def bootRecord (backend : StorageBackend σ) (store : σ) : Option SystemConfig :=
  match backend.loadSystemConfig with
  | none => none
  | some load => if (load store).1 < 0 then none else some (load store).2.1

/-- The store after a boot has read the record. -/
def bootStore (backend : StorageBackend σ) (store : σ) : σ :=
  match backend.loadSystemConfig with
  | none => store
  | some load => (load store).2.2

/-- The channels as a boot loads them, by the startup policy of `cfg`. -/
def loadChannels (k : Kconfig) (backend : StorageBackend σ) (ctrl : Controller σ)
    (cfg : SystemConfig) : Controller σ :=
  let opAction := if cfg.startupChannelPolicy ≠ 0 then .factoryReset else .load
  (List.range ctrl.channels.length).foldl
    (fun ctrl i => (channelParamAction k ctrl i opAction).2)
    { setStorageBackend ctrl (some backend) with store := bootStore backend ctrl.store }

/-- `vc_runtime_auto_load` for a backend that the model leaves open. -/
def autoLoad (k : Kconfig) (backend : StorageBackend σ) (ctrl : Controller σ) : Controller σ :=
  let cfg := (bootRecord backend ctrl.store).getD ctrl.sysCfg
  (setSystemConfig k (loadChannels k backend ctrl cfg) cfg).2

theorem autoLoad_settings (k : Kconfig) (ctrl : Controller Settings) :
    autoLoad k vcSettingsStorage ctrl = vcRuntimeAutoLoad k ctrl := by
  have hrecord : (bootRecord vcSettingsStorage ctrl.store).getD ctrl.sysCfg =
      (settingsLoadKey ctrl.store.sys ctrl.sysCfg).2 := by
    cases hsys : ctrl.store.sys <;>
      simp [bootRecord, vcSettingsStorage, settingsLoadKey, errNoEnt, hsys]
  unfold autoLoad vcRuntimeAutoLoad
  dsimp only [setStorageBackend]
  rw [hrecord]
  rfl

theorem control_loadChannels (k : Kconfig) (backend : StorageBackend σ) (ctrl : Controller σ)
    (cfg : SystemConfig) : control (loadChannels k backend ctrl cfg) = control ctrl := by
  have hloads : ∀ (action : ParamAction) (is : List Nat) (ctrl : Controller σ),
      control (is.foldl (fun ctrl i => (channelParamAction k ctrl i action).2) ctrl) =
        control ctrl := by
    intro action is
    induction is with
    | nil => exact fun _ => rfl
    | cons i is ih =>
      exact fun ctrl => (ih _).trans (control_channelParamAction k ctrl i action)
  exact hloads _ _ _

/-- A boot stores the record that it has read and may go to the mode of that record. -/
theorem control_autoLoad (k : Kconfig) (backend : StorageBackend σ) (ctrl : Controller σ) :
    let cfg := (bootRecord backend ctrl.store).getD ctrl.sysCfg
    control (autoLoad k backend ctrl) = (control ctrl).store cfg ∨
      control (autoLoad k backend ctrl) =
        ((control ctrl).store cfg).enter cfg.operatingMode := by
  intro cfg
  have hcontrol := control_setSystemConfig k (loadChannels k backend ctrl cfg) cfg
  rw [control_loadChannels] at hcontrol
  split at hcontrol
  · exact .inr hcontrol
  · exact .inl hcontrol

/-! ## Runs with power cycles -/

inductive Event (σ : Type) where
  | call (op : ControllerOp σ)
  | reboot

/-- A reboot keeps the store and nothing else. -/
def Event.step (k : Kconfig) (nodes : List Node) (backend : StorageBackend σ)
    (ctrl : Controller σ) : Event σ → Controller σ
  | .call op => op.step k ctrl
  | .reboot => autoLoad k backend (VcController.init k nodes ctrl.store)

/-- With the settings backend a reboot is the boot of the runtime. -/
theorem reboot_settings (k : Kconfig) (nodes : List Node) (ctrl : Controller Settings) :
    Event.step k nodes vcSettingsStorage ctrl .reboot = boot k nodes ctrl.store :=
  autoLoad_settings k _

/-- The record that an event hands to `save_system_config`. -/
def Event.saves (ctrl : Controller σ) : Event σ → Option SystemConfig
  | .call (.systemParamAction .save) =>
    if (ctrl.storage.bind (·.saveSystemConfig)).isSome then some ctrl.sysCfg else none
  | _ => none

/-- The record that an event gets from `load_system_config`. -/
def Event.loads (backend : StorageBackend σ) (ctrl : Controller σ) : Event σ → Option SystemConfig
  | .call (.systemParamAction .load) =>
    (ControllerOp.systemParamAction .load : ControllerOp σ).record ctrl
  | .reboot => bootRecord backend ctrl.store
  | _ => none

/-- The records handed to `save_system_config` so far. -/
def savedAfter (ctrl : Controller σ) (event : Event σ) (saved : List SystemConfig) :
    List SystemConfig :=
  saved ++ (event.saves ctrl).toList

/-- The store returns a record that was saved before. -/
def ReturnsSaved (backend : StorageBackend σ) (p : Controller σ × List SystemConfig)
    (event : Event σ) : Prop :=
  ∀ cfg ∈ event.loads backend p.1, cfg ∈ p.2

instance (backend : StorageBackend σ) (p : Controller σ × List SystemConfig) (event : Event σ) :
    Decidable (ReturnsSaved backend p event) :=
  inferInstanceAs (Decidable (∀ cfg ∈ event.loads backend p.1, cfg ∈ p.2))

/-- A record that is handed to `vc_controller_set_system_config` has one of the three modes. -/
def Event.recordKnown : Event σ → Bool
  | .call (.setSystemConfig cfg) => isKnownMode cfg.operatingMode
  | _ => true

def isBootMode (mode : OperatingMode) : Bool := mode = .normal ∨ mode = .automatic

/-- The stored record and all records that were saved have a mode to boot in. -/
structure Bootable (p : Controller σ × List SystemConfig) : Prop where
  stored : isBootMode p.1.sysCfg.operatingMode
  saved : ∀ cfg ∈ p.2, isBootMode cfg.operatingMode

/-- After the event every record is bootable, and a boot has not ended in CALIBRATION. -/
def KeepsBootable (k : Kconfig) (nodes : List Node) (backend : StorageBackend σ)
    (p : Controller σ × List SystemConfig) (event : Event σ) : Prop :=
  let p' := watched (Event.step k nodes backend) savedAfter p event
  Bootable p' ∧ (event matches .reboot → p'.1.operatingMode ≠ .calibration)

theorem isKnownMode_of_isBootMode {mode : OperatingMode} (h : isBootMode mode) :
    isKnownMode mode := by
  rcases of_decide_eq_true h with h | h <;> rw [h] <;> rfl

theorem isBootMode_of_known {mode : OperatingMode} (h : isKnownMode mode)
    (hcal : mode ≠ .calibration) : isBootMode mode := by
  cases mode with
  | calibration => exact absurd rfl hcal
  | other value => cases h
  | _ => rfl

theorem isBootMode_default {k : Kconfig} (h : k.defaultOperatingMode ≠ .calibration) :
    isBootMode k.defaultOperatingMode := by
  rcases k.operatingMode_range with hmode | hmode | hmode
  · rw [hmode]
    rfl
  · rw [hmode]
    rfl
  · exact absurd hmode h

theorem isBootMode_recorded {c : Control} (record : Option SystemConfig)
    (h : isBootMode c.sysCfg.operatingMode)
    (hrecord : ∀ cfg ∈ record, isKnownMode cfg.operatingMode) :
    isBootMode (c.recorded record).sysCfg.operatingMode := by
  cases record with
  | none => exact h
  | some cfg =>
    unfold Control.recorded Control.store
    dsimp only
    split
    · exact h
    next hcal => exact isBootMode_of_known (hrecord cfg rfl) hcal

theorem isBootMode_moved {c : Control} {mode : Option OperatingMode}
    (h : isBootMode c.sysCfg.operatingMode) (hmode : ∀ m ∈ mode, isKnownMode m) :
    isBootMode (c.moved mode).sysCfg.operatingMode := by
  cases mode with
  | none => exact h
  | some mode =>
    unfold Control.moved Control.enter
    dsimp only
    split
    · exact h
    next hcal => exact isBootMode_of_known (hmode mode rfl) hcal

theorem isKnownMode_of_movesTo {ctrl : Controller σ} {op : ControllerOp σ} {mode : OperatingMode}
    (h : mode ∈ op.movesTo ctrl) : isKnownMode mode := by
  rcases movesTo_known h with h | h | h <;> rw [h] <;> rfl

/-- The records that reach `vc_controller_set_system_config` keep the stored mode, save it back or
were saved before; only the caller of the function can bring in another mode. -/
theorem record_known {backend : StorageBackend σ} {p : Controller σ × List SystemConfig}
    {op : ControllerOp σ} (h : Bootable p) (hstore : ReturnsSaved backend p (.call op))
    (hop : (Event.call op).recordKnown) :
    ∀ cfg ∈ op.record p.1, isKnownMode cfg.operatingMode := by
  intro cfg hcfg
  cases op
  case setSystemConfig cfg' =>
    obtain rfl : cfg' = cfg := Option.some.inj hcfg
    exact hop
  case setSystemField field value =>
    cases field
    case startupChannelPolicy =>
      obtain rfl := Option.some.inj hcfg
      exact isKnownMode_of_isBootMode h.stored
    all_goals cases hcfg
  case systemParamAction action =>
    cases action
    case load => exact isKnownMode_of_isBootMode (h.saved cfg (hstore cfg hcfg))
    all_goals cases hcfg
  all_goals cases hcfg

theorem stored_call {k : Kconfig} (hdefault : k.defaultOperatingMode ≠ .calibration)
    {backend : StorageBackend σ} {p : Controller σ × List SystemConfig} {op : ControllerOp σ}
    (h : Bootable p) (hstore : ReturnsSaved backend p (.call op))
    (hop : (Event.call op).recordKnown) :
    isBootMode (op.step k p.1).sysCfg.operatingMode := by
  have hafter : isBootMode (((control p.1).recorded (op.record p.1)).moved
      (op.movesTo p.1)).sysCfg.operatingMode :=
    isBootMode_moved (isBootMode_recorded _ h.stored (record_known h hstore hop))
      fun _ => isKnownMode_of_movesTo
  show isBootMode (control (op.step k p.1)).sysCfg.operatingMode
  rw [control_step]
  cases op
  case calibrationUnlock value =>
    show isBootMode ((control p.1).unlock value).sysCfg.operatingMode
    unfold Control.unlock
    split
    · exact h.stored
    · split <;> exact h.stored
  case systemParamAction action =>
    cases action
    case factoryReset => exact isBootMode_default hdefault
    all_goals exact hafter
  all_goals exact hafter

theorem booted {k : Kconfig} (hdefault : k.defaultOperatingMode ≠ .calibration)
    (nodes : List Node) {backend : StorageBackend σ} {p : Controller σ × List SystemConfig}
    (h : Bootable p) (hstore : ReturnsSaved backend p .reboot) :
    let ctrl := Event.step k nodes backend p.1 .reboot
    isBootMode ctrl.sysCfg.operatingMode ∧ ctrl.operatingMode ≠ .calibration := by
  intro ctrl
  have hcfg : isBootMode ((bootRecord backend p.1.store).getD
      (defaultSystemConfig k)).operatingMode := by
    cases hrecord : bootRecord backend p.1.store with
    | none => exact isBootMode_default hdefault
    | some cfg => exact h.saved cfg (hstore cfg hrecord)
  generalize hrecord : (bootRecord backend p.1.store).getD (defaultSystemConfig k) = cfg at hcfg
  have hstored : isBootMode (((control (VcController.init k nodes p.1.store)).store
      cfg).sysCfg.operatingMode) :=
    isBootMode_recorded (some cfg) (isBootMode_default hdefault) fun cfg' h => by
      obtain rfl := Option.some.inj h
      exact isKnownMode_of_isBootMode hcfg
  have hcontrol := control_autoLoad k backend (VcController.init k nodes p.1.store)
  show isBootMode (control ctrl).sysCfg.operatingMode ∧ (control ctrl).mode ≠ .calibration
  rcases hcontrol with hcontrol | hcontrol
  · have hcontrol : control ctrl = _ := hcontrol.trans (congrArg _ hrecord)
    rw [hcontrol]
    exact ⟨hstored, nofun⟩
  · have hcontrol : control ctrl = ((control (VcController.init k nodes p.1.store)).store
        cfg).enter cfg.operatingMode := by
      rw [← hrecord]
      exact hcontrol
    have hcal : cfg.operatingMode ≠ .calibration := by
      rintro hcal
      rw [hcal] at hcfg
      cases hcfg
    rw [hcontrol, Control.enter, if_neg hcal]
    exact ⟨hcfg, hcal⟩

theorem saved_step {p : Controller σ × List SystemConfig} (h : Bootable p) (event : Event σ) :
    ∀ cfg ∈ savedAfter p.1 event p.2, isBootMode cfg.operatingMode := by
  intro cfg hcfg
  rcases List.mem_append.mp hcfg with hcfg | hcfg
  · exact h.saved cfg hcfg
  · rw [Option.mem_toList] at hcfg
    unfold Event.saves at hcfg
    split at hcfg
    · split at hcfg
      · obtain rfl := Option.some.inj hcfg
        exact h.stored
      · cases hcfg
    · cases hcfg

theorem keepsBootable_of_known {k : Kconfig} (hdefault : k.defaultOperatingMode ≠ .calibration)
    (nodes : List Node) {backend : StorageBackend σ} {p : Controller σ × List SystemConfig}
    {event : Event σ} (h : Bootable p) (hstore : ReturnsSaved backend p event)
    (hevent : event.recordKnown) : KeepsBootable k nodes backend p event := by
  cases event with
  | call op => exact ⟨⟨stored_call hdefault h hstore hevent, saved_step h _⟩, nofun⟩
  | reboot =>
    obtain ⟨hstored, hmode⟩ := booted hdefault nodes h hstore
    exact ⟨⟨hstored, saved_step h _⟩, fun _ => hmode⟩

/-- A record with an unknown mode is stored before the mode is refused. -/
theorem recordKnown_of_keepsBootable {k : Kconfig} {nodes : List Node}
    {backend : StorageBackend σ} {p : Controller σ × List SystemConfig} {event : Event σ}
    (h : KeepsBootable k nodes backend p event) : event.recordKnown := by
  unfold Event.recordKnown
  split
  next cfg =>
    cases hcfg : cfg.operatingMode with
    | other value =>
      have hstored : isBootMode
          (control (setSystemConfig k p.1 cfg).2).sysCfg.operatingMode := h.1.stored
      have hrefused : canMove p.1 cfg.operatingMode = false := by simp [canMove, isKnownMode, hcfg]
      rw [control_setSystemConfig, if_neg (by simp [hrefused]), Control.store,
        if_neg (by simp [hcfg]), hcfg] at hstored
      cases hstored
    | _ => rfl
  · rfl

/-- In a run whose store returns saved records only, CALIBRATION and unknown modes stay out of
every stored and saved record and no boot ends in CALIBRATION, exactly if no record with an
unknown mode is handed to `vc_controller_set_system_config`. -/
theorem keepsBootable_iff (k : Kconfig) (hdefault : k.defaultOperatingMode ≠ .calibration)
    (nodes : List Node) (backend : StorageBackend σ) (store : σ) (events : List (Event σ))
    (hstore : Along (watched (Event.step k nodes backend) savedAfter) (ReturnsSaved backend)
      (VcController.init k nodes store, []) events) :
    Along (watched (Event.step k nodes backend) savedAfter) (KeepsBootable k nodes backend)
      (VcController.init k nodes store, []) events ↔ ∀ event ∈ events, event.recordKnown := by
  have hinit : Bootable (VcController.init k nodes store, []) :=
    ⟨isBootMode_default hdefault, nofun⟩
  generalize (VcController.init k nodes store, ([] : List SystemConfig)) = p at hinit hstore ⊢
  induction events generalizing p with
  | nil => simp [Along]
  | cons event events ih =>
    simp only [Along, List.forall_mem_cons]
    constructor
    · intro h
      exact ⟨recordKnown_of_keepsBootable h.1, (ih _ h.1.1 hstore.2).mp h.2⟩
    · intro h
      have hstep := keepsBootable_of_known hdefault nodes hinit hstore.1 h.1
      exact ⟨hstep, (ih _ hstep.1 hstore.2).mpr h.2⟩

/-- Unlock, a session with a save in it, and a power cycle that reads the record back. -/
theorem keepsBootable_example :
    Along (watched (Event.step Kconfig.hvb [dacNode] vcSettingsStorage) savedAfter)
      (KeepsBootable Kconfig.hvb [dacNode] vcSettingsStorage)
      (VcController.init Kconfig.hvb [dacNode] .empty, [])
      [.reboot, .call (.setOperatingMode .automatic), .call (.calibrationUnlock calUnlockStep1),
        .call (.calibrationUnlock calUnlockStep2), .call (.setOperatingMode .calibration),
        .call (.systemParamAction .save), .reboot, .call (.systemParamAction .load)] :=
  (keepsBootable_iff Kconfig.hvb (by decide) [dacNode] vcSettingsStorage .empty _
    (by decide +kernel)).mpr (by decide)

/-- A refused record with the mode 7 is what the next save and the next boot take. -/
theorem not_keepsBootable :
    ¬ ∀ events : List (Event Settings),
      Along (watched (Event.step Kconfig.hvb [dacNode] vcSettingsStorage) savedAfter)
        (ReturnsSaved vcSettingsStorage) (VcController.init Kconfig.hvb [dacNode] .empty, [])
        events →
      Along (watched (Event.step Kconfig.hvb [dacNode] vcSettingsStorage) savedAfter)
        (KeepsBootable Kconfig.hvb [dacNode] vcSettingsStorage)
        (VcController.init Kconfig.hvb [dacNode] .empty, []) events := by
  intro h
  have hrun := h [.call (.setSystemConfig ⟨.other 7, 0⟩), .call (.systemParamAction .save)]
    (by decide +kernel)
  have hstored := hrun.1.1.stored
  revert hstored
  decide +kernel

/-! ## The startup policy -/

theorem setOperatingMode_refused (k : Kconfig) (ctrl : Controller σ) {mode : OperatingMode}
    (hmode : mode ≠ ctrl.operatingMode) (h : canMove ctrl mode = false) :
    (setOperatingMode k ctrl mode).2 = ctrl := by
  unfold canMove at h
  unfold setOperatingMode
  grind

/-- A write of the startup policy changes the policy and nothing else, exactly if the stored mode
is not another mode that the live one could go to. -/
theorem policyWrite_iff (k : Kconfig) (ctrl : Controller σ) (value : UInt16) :
    (setSystemField k ctrl .startupChannelPolicy value).2 =
        { ctrl with sysCfg := { ctrl.sysCfg with startupChannelPolicy := value } } ↔
      canMove ctrl ctrl.sysCfg.operatingMode = false := by
  have hstored : storedConfig ctrl { ctrl.sysCfg with startupChannelPolicy := value } =
      { ctrl.sysCfg with startupChannelPolicy := value } := by
    unfold storedConfig
    split <;> rfl
  constructor
  · intro hsame
    cases hmove : canMove ctrl ctrl.sysCfg.operatingMode with
    | false => rfl
    | true =>
      have hmoves : (ControllerOp.setSystemField .startupChannelPolicy value :
          ControllerOp σ).movesTo ctrl = some ctrl.sysCfg.operatingMode := by
        have hne : ctrl.sysCfg.operatingMode ≠ ctrl.operatingMode := by
          rintro hmode
          simp [canMove, hmode] at hmove
        simp [ControllerOp.movesTo, ControllerOp.request, ControllerOp.record, hne, hmove,
          Option.filter]
      have hmode := operatingMode_step k ctrl (.setSystemField .startupChannelPolicy value)
      rw [hmoves] at hmode
      have hlive : ctrl.operatingMode = ctrl.sysCfg.operatingMode :=
        (congrArg Controller.operatingMode hsame).symm.trans hmode
      exact absurd hlive.symm (movesTo_ne hmoves)
  · intro hmove
    show (setSystemConfig k ctrl _).2 = _
    unfold setSystemConfig
    dsimp only
    rw [hstored]
    split
    next hmode =>
      exact setOperatingMode_refused k
        { ctrl with sysCfg := { ctrl.sysCfg with startupChannelPolicy := value } } hmode hmove
    · rfl

/-- In a session the stored mode is the one before it, and the write goes back to it. -/
theorem policyWrite_leavesSession :
    ¬ ∀ (ops : List (ControllerOp Unit)) (value : UInt16),
      let ctrl := exec (ControllerOp.step Kconfig.hvb)
        (VcController.init Kconfig.hvb [dacNode] ()) ops
      (setSystemField Kconfig.hvb ctrl .startupChannelPolicy value).2 =
        { ctrl with sysCfg := { ctrl.sysCfg with startupChannelPolicy := value } } := by
  intro h
  have hmode := congrArg Controller.operatingMode (h [.calibrationUnlock calUnlockStep1,
    .calibrationUnlock calUnlockStep2, .setOperatingMode .calibration] 1)
  revert hmode
  decide +kernel

end StoredMode
