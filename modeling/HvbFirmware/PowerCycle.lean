import HvbFirmware.VcChannelFrame
import HvbFirmware.VcControllerRuns
import HvbFirmware.VcRuntime

/-!
# A power cycle

With every record saved, a reboot should bring back what was configured. The loads of the boot go
through the checks of a fresh channel, so the configuration of a channel has to pass them at any
time: `Kept` is the invariant that says so.
-/
namespace PowerCycle

open VcTypes VcChannel VcController VcRuntime Runs

variable {σ : Type}

/-! ## Configurations that a fresh channel accepts -/

/-- What `validate_capability_config` asks of a configuration beside the one it replaces. -/
structure Gated (capabilities : UInt16) (old new : ChannelConfig) : Prop where
  dac : capabilities &&& capRawOutputDrive ≠ capRawOutputDrive →
    new.configuredTargetVoltage = 0 ∧ new.rampUpStep = old.rampUpStep ∧
      new.rampUpInterval = old.rampUpInterval ∧ new.rampDownStep = old.rampDownStep ∧
      new.rampDownInterval = old.rampDownInterval
  output : capabilities &&& capRawOutputDrive = capRawOutputDrive ∨
    capabilities &&& capOutputEnable ≠ capOutputEnable →
      new.configuredOutputEnabled = old.configuredOutputEnabled
  current : capabilities &&& capCurrentMeasurement ≠ capCurrentMeasurement →
    new.currentProtectionMode = .disabled ∧
      new.currentProtectionOutputAction = old.currentProtectionOutputAction ∧
      new.currentLimitThreshold = old.currentLimitThreshold
  derate : capabilities &&& capRawOutputDrive ≠ capRawOutputDrive ∨
    capabilities &&& capVoltageMeasurement ≠ capVoltageMeasurement →
      new.autoDerateStep = old.autoDerateStep

theorem validate_iff (ch : Channel) (old new : ChannelConfig) :
    validateCapabilityConfig ch old new = .ok ↔ Gated ch.capabilities old new := by
  unfold validateCapabilityConfig hasCap
  constructor
  · intro h
    constructor <;> grind
  · rintro ⟨hdac, houtput, hcurrent, hderate⟩
    grind

/-- The values that `vc_channel_set_config` takes on any channel. -/
structure InRange (k : Kconfig) (cfg : ChannelConfig) : Prop where
  target : 0 ≤ cfg.configuredTargetVoltage ∧ cfg.configuredTargetVoltage ≤ k.maxTargetVoltage
  threshold : 0 ≤ cfg.currentLimitThreshold
  mode : isValidProtectionMode cfg.currentProtectionMode
  action : isValidProtectionOutputAction cfg.currentProtectionOutputAction

theorem setConfig_ok_iff (k : Kconfig) (ch : Channel) (cfg : ChannelConfig) :
    (setConfig k ch cfg).1 = .ok ↔ Gated ch.capabilities ch.config cfg ∧ InRange k cfg := by
  rw [← validate_iff]
  unfold setConfig
  dsimp only
  constructor
  · intro h
    split at h
    · exact absurd h ‹_›
    next hgated =>
    split at h
    · cases h
    next htarget =>
    split at h
    · cases h
    next hthreshold =>
    split at h
    · cases h
    next hvalid =>
    simp only [not_or, Int16.not_lt, Bool.not_eq_true, Bool.not_eq_false'] at *
    exact ⟨Decidable.not_not.mp hgated, ⟨htarget.2, htarget.1⟩, hthreshold, hvalid.1, hvalid.2⟩
  · rintro ⟨hgated, htarget, hthreshold, hmode, haction⟩
    rw [if_neg (by simpa using hgated), if_neg (by simpa using ⟨htarget.2, htarget.1⟩),
      if_neg (by simpa using hthreshold), if_neg (by simp [hmode, haction])]

theorem setConfig_of_ok {k : Kconfig} {ch : Channel} {cfg : ChannelConfig}
    (h : (setConfig k ch cfg).1 = .ok) :
    setConfig k ch cfg = (.ok, refresh { ch with config := cfg }) := by
  unfold setConfig at h ⊢
  grind

theorem Gated.trans {capabilities : UInt16} {a b c : ChannelConfig}
    (hab : Gated capabilities a b) (hbc : Gated capabilities b c) : Gated capabilities a c where
  dac h := by
    obtain ⟨-, hup, hupInterval, hdown, hdownInterval⟩ := hab.dac h
    obtain ⟨htarget, hup', hupInterval', hdown', hdownInterval'⟩ := hbc.dac h
    exact ⟨htarget, hup'.trans hup, hupInterval'.trans hupInterval, hdown'.trans hdown,
      hdownInterval'.trans hdownInterval⟩
  output h := (hbc.output h).trans (hab.output h)
  current h := by
    obtain ⟨-, haction, hthreshold⟩ := hab.current h
    obtain ⟨hmode, haction', hthreshold'⟩ := hbc.current h
    exact ⟨hmode, haction'.trans haction, hthreshold'.trans hthreshold⟩
  derate h := (hbc.derate h).trans (hab.derate h)

/-- What a rule compares is the same in two configurations of one channel: what it was fresh. -/
theorem Gated.back {capabilities : UInt16} {fresh old new : ChannelConfig}
    (hold : Gated capabilities fresh old) (hnew : Gated capabilities fresh new) :
    Gated capabilities old new where
  dac h := by
    obtain ⟨-, hup, hupInterval, hdown, hdownInterval⟩ := hold.dac h
    obtain ⟨htarget, hup', hupInterval', hdown', hdownInterval'⟩ := hnew.dac h
    exact ⟨htarget, hup'.trans hup.symm, hupInterval'.trans hupInterval.symm,
      hdown'.trans hdown.symm, hdownInterval'.trans hdownInterval.symm⟩
  output h := (hnew.output h).trans (hold.output h).symm
  current h := by
    obtain ⟨-, haction, hthreshold⟩ := hold.current h
    obtain ⟨hmode, haction', hthreshold'⟩ := hnew.current h
    exact ⟨hmode, haction'.trans haction.symm, hthreshold'.trans hthreshold.symm⟩
  derate h := (hnew.derate h).trans (hold.derate h).symm

/-- A field write passes the same checks as a whole record, for the one field that it changes. -/
theorem writeField_gated {k : Kconfig} {ch : Channel} {field : ConfigField} {value : UInt16}
    {cfg old : ChannelConfig} (hwrite : writeField k ch field value = .ok cfg)
    (hgated : Gated ch.capabilities old ch.config) (hrange : InRange k ch.config) :
    Gated ch.capabilities old cfg ∧ InRange k cfg := by
  obtain ⟨hdac, houtput, hcurrent, hderate⟩ := hgated
  obtain ⟨htarget, hthreshold, hmode, haction⟩ := hrange
  cases field <;> simp only [writeField, hasCap] at hwrite
  all_goals
    refine ⟨⟨?_, ?_, ?_, ?_⟩, ⟨?_, ?_, ?_, ?_⟩⟩ <;> grind

/-! ## Every reachable configuration is accepted -/

/-- The channel is one of this node, and its configuration one that the node's fresh channel
takes. -/
structure Kept (k : Kconfig) (node : Node) (ch : Channel) : Prop where
  capabilities : ch.capabilities = node.capabilities
  gated : Gated node.capabilities (VcChannel.init k node).config ch.config
  inRange : InRange k ch.config

/-- The devicetree defaults change a flag only, which no check compares with a constant. -/
theorem kept_init (k : Kconfig) (node : Node) : Kept k node (VcChannel.init k node) := by
  have hconfig : (VcChannel.init k node).config = defaultConfig k ∨
      (VcChannel.init k node).config =
        { defaultConfig k with configuredOutputEnabled := false } := by
    unfold VcChannel.init lvbGetDtDefaults
    dsimp only
    split
    · split
      · exact .inr rfl
      · exact .inl rfl
    · exact .inl rfl
  have hlimit := k.currentLimit_range
  have hmax := k.maxTargetVoltage_range
  refine ⟨rfl, ⟨fun _ => ⟨?_, rfl, rfl, rfl, rfl⟩, fun _ => rfl, fun _ => ⟨?_, rfl, rfl⟩,
    fun _ => rfl⟩, ⟨?_, ?_⟩, ?_, ?_, ?_⟩
  all_goals
    rcases hconfig with h | h <;> rw [h] <;> simp only [defaultConfig] <;> first | rfl | grind

theorem Kept.step {k : Kconfig} {node : Node} {ch : Channel} (hkept : Kept k node ch)
    (op : ChannelOp) : Kept k node (op.step k ch) := by
  obtain ⟨hcaps, hgated, hrange⟩ := hkept
  suffices hframe : ∀ f, FrameStep k ch op f → f.capabilities = node.capabilities ∧
      Gated node.capabilities (VcChannel.init k node).config f.config ∧ InRange k f.config by
    obtain ⟨hcaps', hgated', hrange'⟩ := hframe _ (frame_step k ch op)
    exact ⟨hcaps', hgated', hrange'⟩
  intro f hstep
  cases hstep with
  | same _ _ _ => exact ⟨hcaps, hgated, hrange⟩
  | advance dtMs => exact ⟨hcaps, hgated, hrange⟩
  | retry sysCfg dtMs _ =>
    unfold recordRetryAttempt
    split <;> exact ⟨hcaps, hgated, hrange⟩
  | setField field value cfg hcfg =>
    rw [← hcaps] at hgated
    obtain ⟨hgated, hrange⟩ := writeField_gated hcfg hgated hrange
    rw [hcaps] at hgated
    exact ⟨hcaps, hgated, hrange⟩
  | setConfig cfg hok =>
    obtain ⟨hnew, hrange⟩ := (setConfig_ok_iff k ch cfg).mp hok
    rw [hcaps] at hnew
    exact ⟨hcaps, hgated.trans hnew, hrange⟩

/-- The channels of a board, one for each of its nodes. -/
structure Fits (k : Kconfig) (nodes : List Node) (channels : List Channel) : Prop where
  length : channels.length = nodes.length
  kept : ∀ (i : Nat) node ch, nodes[i]? = some node → channels[i]? = some ch → Kept k node ch

theorem Fits.channel {k : Kconfig} {nodes : List Node} {channels : List Channel} {i : Nat}
    {node : Node} (h : Fits k nodes channels) (hnode : nodes[i]? = some node) :
    ∃ ch, channels[i]? = some ch ∧ Kept k node ch := by
  obtain ⟨hlt, -⟩ := List.getElem?_eq_some_iff.mp hnode
  rw [← h.length] at hlt
  have hch := List.getElem?_eq_getElem hlt
  exact ⟨_, hch, h.kept i node _ hnode hch⟩

theorem fits_init (k : Kconfig) (nodes : List Node) (store : σ) :
    Fits k nodes (VcController.init k nodes store).channels := by
  refine ⟨List.length_map _, fun i node ch hnode hch => ?_⟩
  rw [VcController.init, List.getElem?_map, hnode] at hch
  obtain rfl := Option.some.inj hch
  exact kept_init k node

theorem fits_publicStep {k : Kconfig} {nodes : List Node} {ctrl : Controller σ}
    (h : Fits k nodes ctrl.channels) (op : PublicOp σ) :
    Fits k nodes (op.step k ctrl).channels := by
  rw [channels_publicStep]
  refine ⟨(List.length_mapIdx).trans h.length, fun i node ch hnode hch => ?_⟩
  rw [List.getElem?_mapIdx] at hch
  obtain ⟨ch₀, hch₀, rfl⟩ := Option.map_eq_some_iff.mp hch
  exact exec_invariant (I := Kept k node) (Q := fun _ _ => True)
    (fun ch op hkept _ => hkept.step op) (h.kept i node ch₀ hnode hch₀)
    (along_of_forall (fun _ _ _ => trivial) _)

/-! ## What the backend has been given -/

/-- The records that a backend holds after an operation that answered with success, whatever it
does with them. -/
def recordsAfter (k : Kconfig) (ctrl : Controller σ) (op : PublicOp σ) (saved : Settings) :
    Settings :=
  match op with
  | .controller (.systemParamAction .save) =>
    if (systemParamAction k ctrl .save).1 = .ok then saved.saveSys ctrl.sysCfg else saved
  | .controller (.systemParamAction .factoryReset) =>
    match ctrl.storage.bind (·.eraseAll) with
    | some erase => if (erase ctrl.store).1 < 0 then saved else .empty
    | none => saved
  | .controller (.channelParamAction i .save) =>
    match ctrl.channels[i]? with
    | some ch =>
      if (channelParamAction k ctrl i .save).1 = .ok then saved.saveConfig i ch.config else saved
    | none => saved
  | .controller (.channelCalCommit i) =>
    match ctrl.storage.bind (·.saveChannelCal), ctrl.channels[i]? with
    | some _, some ch =>
      if (channelCalCommit k ctrl i).1 = .ok then saved.saveCal i ch.calConfig else saved
    | _, _ => saved
  | _ => saved

/-! ## Saving everything -/

def isSave : ControllerOp σ → Bool
  | .systemParamAction .save | .channelParamAction _ .save => true
  | _ => false

theorem eq_of_isSave {op : ControllerOp σ} (h : isSave op) :
    op = .systemParamAction .save ∨ ∃ i, op = .channelParamAction i .save := by
  unfold isSave at h
  split at h
  · exact .inl rfl
  · exact .inr ⟨_, rfl⟩
  · cases h

/-- A SAVE changes the store only. -/
theorem step_save (k : Kconfig) (ctrl : Controller σ) {op : ControllerOp σ} (h : isSave op) :
    ∃ store, op.step k ctrl = { ctrl with store := store } := by
  rcases eq_of_isSave h with rfl | ⟨i, rfl⟩
  · show ∃ store, (systemParamAction k ctrl .save).2 = { ctrl with store := store }
    unfold systemParamAction
    dsimp only
    split
    · exact ⟨ctrl.store, rfl⟩
    · exact ⟨_, rfl⟩
  · show ∃ store, (channelParamAction k ctrl i .save).2 = { ctrl with store := store }
    unfold channelParamAction
    dsimp only
    split
    · exact ⟨ctrl.store, rfl⟩
    split
    · exact ⟨ctrl.store, rfl⟩
    · exact ⟨_, rfl⟩

/-- The records hold the configuration of a controller, but for the SAVE operations still to be
made. -/
structure Covers (ctrl : Controller σ) (todo : List (ControllerOp σ)) (saved : Settings) :
    Prop where
  sys : .systemParamAction .save ∈ todo ∨ saved.sys = some ctrl.sysCfg
  config : ∀ (i : Nat) ch, ctrl.channels[i]? = some ch →
    .channelParamAction i .save ∈ todo ∨ saved.config i = some ch.config

theorem Covers.step {k : Kconfig} {ctrl : Controller σ} {op : ControllerOp σ}
    {todo : List (ControllerOp σ)} {saved : Settings} (h : Covers ctrl (op :: todo) saved)
    (hsave : isSave op) (hok : (op.call k ctrl).1 = .ok) :
    Covers ctrl todo (recordsAfter k ctrl (.controller op) saved) := by
  rcases eq_of_isSave hsave with rfl | ⟨i, rfl⟩
  · have hrecords : recordsAfter k ctrl (.controller (.systemParamAction .save)) saved =
        saved.saveSys ctrl.sysCfg := if_pos hok
    rw [hrecords]
    refine ⟨.inr rfl, fun i ch hch => ?_⟩
    simpa [Settings.saveSys] using h.config i ch hch
  · cases hch : ctrl.channels[i]? with
    | none =>
      have hrefused : (channelParamAction k ctrl i .save).1 = .ok := hok
      rw [channelParamAction, hch] at hrefused
      cases hrefused
    | some ch =>
      have hrecords : recordsAfter k ctrl (.controller (.channelParamAction i .save)) saved =
          saved.saveConfig i ch.config := by
        simp only [recordsAfter, hch]
        exact if_pos hok
      rw [hrecords]
      refine ⟨by simpa [Settings.saveConfig] using h.sys, fun j ch' hch' => ?_⟩
      by_cases hij : j = i
      · subst hij
        rw [hch] at hch'
        obtain rfl := Option.some.inj hch'
        exact .inr (Settings.saveConfig_self saved j ch.config)
      · rw [Settings.saveConfig_other saved ch.config hij]
        simpa [hij] using h.config j ch' hch'

theorem cal_save (k : Kconfig) (ctrl : Controller σ) {op : ControllerOp σ} (saved : Settings)
    (h : isSave op) : (recordsAfter k ctrl (.controller op) saved).cal = saved.cal := by
  rcases eq_of_isSave h with rfl | ⟨i, rfl⟩
  · unfold recordsAfter
    dsimp only
    split <;> rfl
  · unfold recordsAfter
    dsimp only
    split
    · split <;> rfl
    · rfl

/-- The SAVE operations of a list, carried out with their records. -/
def saveAll (k : Kconfig) (p : Controller σ × Settings) (saves : List (ControllerOp σ)) :
    Controller σ × Settings :=
  exec (watched (PublicOp.step k) (recordsAfter k)) p (saves.map .controller)

/-- Every SAVE of the list is accepted. -/
def AllSaved (k : Kconfig) (ctrl : Controller σ) (saves : List (ControllerOp σ)) : Prop :=
  Along (ControllerOp.step k) (fun ctrl op => isSave op ∧ (op.call k ctrl).1 = .ok) ctrl saves

instance (k : Kconfig) (ctrl : Controller σ) (saves : List (ControllerOp σ)) :
    Decidable (AllSaved k ctrl saves) :=
  inferInstanceAs (Decidable (Along (ControllerOp.step k) _ ctrl saves))

theorem saveAll_covers {k : Kconfig} {ctrl : Controller σ} {saved : Settings}
    {saves : List (ControllerOp σ)} (hsaves : AllSaved k ctrl saves)
    (h : Covers ctrl saves saved) :
    Covers ctrl [] (saveAll k (ctrl, saved) saves).2 ∧
      (saveAll k (ctrl, saved) saves).2.cal = saved.cal := by
  induction saves generalizing ctrl saved with
  | nil => exact ⟨h, rfl⟩
  | cons op saves ih =>
    obtain ⟨⟨hsave, hok⟩, hrest⟩ := hsaves
    have hcovers := h.step hsave hok
    have hcal := cal_save k ctrl saved hsave
    obtain ⟨store, hstep⟩ := step_save k ctrl hsave
    rw [hstep] at hrest
    have hrun : saveAll k (ctrl, saved) (op :: saves) =
        saveAll k ({ ctrl with store := store }, recordsAfter k ctrl (.controller op) saved)
          saves := by
      rw [← hstep]
      rfl
    rw [hrun]
    obtain ⟨hall, hcal'⟩ := ih hrest ⟨hcovers.sys, hcovers.config⟩
    exact ⟨⟨hall.sys, hall.config⟩, hcal'.trans hcal⟩

/-! ## Booting -/

/-- What LOAD makes of a fresh channel whose record it accepts. -/
def restored (ch : Channel) (cfg : ChannelConfig) (cal : Option ChannelCalConfig) : Channel :=
  match cal with
  | some cal => loadCal (refresh { ch with config := cfg }) cal
  | none => refresh { ch with config := cfg }

theorem load_accepted {k : Kconfig} {ctrl : Controller Settings} {i : Nat} {ch : Channel}
    {cfg : ChannelConfig} (hstorage : ctrl.storage = some vcSettingsStorage)
    (hch : ctrl.channels[i]? = some ch) (hcfg : ctrl.store.config i = some cfg)
    (hok : (setConfig k ch cfg).1 = .ok) :
    (channelParamAction k ctrl i .load).2 =
      { ctrl with channels := ctrl.channels.set i (restored ch cfg (ctrl.store.cal i)) } := by
  have hload : channelParamAction k ctrl i .load =
      putBack ctrl i (.ok, refresh { ch with config := cfg }) := by
    rcases ctrl with ⟨channels, mode, preCal, watchdog, step, unlocked, storage, sysCfg, settings⟩
    obtain rfl : storage = some vcSettingsStorage := hstorage
    have hch : channels[i]? = some ch := hch
    have hcfg : settings.config i = some cfg := hcfg
    simp only [channelParamAction, hch, Option.bind_some, vcSettingsStorage, hcfg, settingsLoadKey,
      applyLoaded, setConfig_of_ok hok]
    rw [if_neg (by decide), if_pos trivial]
  rw [hload]
  unfold putBack
  simp only [hstorage, Option.bind_some, vcSettingsStorage]
  unfold restored
  cases ctrl.store.cal i with
  | none => rfl
  | some cal => rfl

/-- The records of a board that a boot accepts one and all. -/
def Accepted (k : Kconfig) (settings : Settings) (channels : List Channel) : Prop :=
  ∀ (i : Nat) ch, channels[i]? = some ch →
    ∃ cfg, settings.config i = some cfg ∧ (setConfig k ch cfg).1 = .ok

/-- Channel `i` after the boot has loaded it. -/
def loadedChannel (settings : Settings) (i : Nat) (ch : Channel) : Channel :=
  restored ch ((settings.config i).getD ch.config) (settings.cal i)

def loadedBelow (ctrl : Controller Settings) (n : Nat) : Controller Settings :=
  { ctrl with channels := ctrl.channels.mapIdx fun i ch =>
      if i < n then loadedChannel ctrl.store i ch else ch }

theorem getElem?_loadedBelow (ctrl : Controller Settings) (n i : Nat) :
    (loadedBelow ctrl n).channels[i]? = ctrl.channels[i]?.map fun ch =>
      if i < n then loadedChannel ctrl.store i ch else ch :=
  List.getElem?_mapIdx

theorem set_loadedBelow {ctrl : Controller Settings} {n : Nat} {ch : Channel}
    (hch : ctrl.channels[n]? = some ch) :
    (loadedBelow ctrl n).channels.set n (loadedChannel ctrl.store n ch) =
      (loadedBelow ctrl (n + 1)).channels := by
  refine List.ext_getElem? fun i => ?_
  rw [List.getElem?_set, getElem?_loadedBelow, getElem?_loadedBelow]
  split
  next hni =>
    subst hni
    obtain ⟨hlt, -⟩ := List.getElem?_eq_some_iff.mp hch
    have hlength : n < (loadedBelow ctrl n).channels.length := by
      rw [loadedBelow, List.length_mapIdx]
      exact hlt
    simp [hch, hlength]
  next hni =>
    have hlt : i < n + 1 ↔ i < n := by omega
    simp only [hlt]

/-- The loads of the boot, by induction on how many channels are done. -/
theorem loads_accepted {k : Kconfig} {ctrl : Controller Settings}
    (hstorage : ctrl.storage = some vcSettingsStorage)
    (haccepted : Accepted k ctrl.store ctrl.channels) (n : Nat) (hn : n ≤ ctrl.channels.length) :
    (List.range n).foldl (fun ctrl i => (channelParamAction k ctrl i .load).2) ctrl =
      loadedBelow ctrl n := by
  induction n with
  | zero =>
    have hnone : (loadedBelow ctrl 0).channels = ctrl.channels := by
      refine List.ext_getElem? fun i => ?_
      simp [getElem?_loadedBelow]
    rw [List.range_zero, List.foldl_nil]
    exact congrArg (fun channels => { ctrl with channels := channels }) hnone.symm
  | succ n ih =>
    rw [List.range_succ, List.foldl_append, ih (by omega), List.foldl_cons, List.foldl_nil]
    have hch : ctrl.channels[n]? = some ctrl.channels[n] := List.getElem?_eq_getElem hn
    obtain ⟨cfg, hcfg, hok⟩ := haccepted n _ hch
    have hfresh : (loadedBelow ctrl n).channels[n]? = some ctrl.channels[n] := by
      rw [getElem?_loadedBelow, hch]
      simp
    have hload : restored ctrl.channels[n] cfg (ctrl.store.cal n) =
        loadedChannel ctrl.store n ctrl.channels[n] := by
      rw [loadedChannel, hcfg]
      rfl
    have hbelow : (loadedBelow ctrl n).storage = some vcSettingsStorage := hstorage
    refine (load_accepted hbelow hfresh hcfg hok).trans ?_
    exact congrArg (fun channels => { ctrl with channels := channels })
      ((congrArg _ hload).trans (set_loadedBelow hch))

/-- The controller before the last step of the boot. -/
def loaded (k : Kconfig) (nodes : List Node) (settings : Settings) : Controller Settings :=
  loadedBelow (setStorageBackend (VcController.init k nodes settings) (some vcSettingsStorage))
    nodes.length

/-- What the boot hands to `vc_controller_set_system_config`: all channels loaded. -/
theorem boot_eq {k : Kconfig} {nodes : List Node} {settings : Settings} {sysCfg : SystemConfig}
    (hsys : settings.sys = some sysCfg) (hpolicy : sysCfg.startupChannelPolicy = 0)
    (haccepted : Accepted k settings (VcController.init k nodes settings).channels) :
    boot k nodes settings = (setSystemConfig k (loaded k nodes settings) sysCfg).2 := by
  let fresh := setStorageBackend (VcController.init k nodes settings) (some vcSettingsStorage)
  have hlength : fresh.channels.length = nodes.length := List.length_map _
  have hstorage : fresh.storage = some vcSettingsStorage := rfl
  have hloads := loads_accepted hstorage haccepted nodes.length (Nat.le_of_eq hlength.symm)
  have hboot : boot k nodes settings = (setSystemConfig k ((List.range fresh.channels.length).foldl
      (fun ctrl i => (channelParamAction k ctrl i .load).2) fresh) sysCfg).2 := by
    unfold boot vcRuntimeAutoLoad
    simp only [settingsLoadKey, setStorageBackend, VcController.init, hsys, hpolicy, ne_eq,
      not_true_eq_false, if_false]
    rfl
  rw [hboot, hlength, hloads]
  rfl

/-- What the records and the mode of a boot decide of a channel. -/
structure Restored (node : Node) (cfg : ChannelConfig) (cal : ChannelCalConfig) (on : Bool)
    (ch : Channel) : Prop where
  config : ch.config = cfg
  calConfig : ch.calConfig = cal
  capabilities : ch.capabilities = node.capabilities
  active : ch.activeFaultCause = 0
  outputEnabled : ch.outputEnabled = on

namespace Restored

variable {node : Node} {cfg : ChannelConfig} {cal : ChannelCalConfig} {on : Bool} {ch : Channel}

theorem applyHw (h : Restored node cfg cal on ch) : Restored node cfg cal on (applyHw ch) := by
  unfold VcChannel.applyHw
  split
  · exact h
  · exact ⟨h.config, h.calConfig, h.capabilities, h.active, h.outputEnabled⟩

theorem refresh (h : Restored node cfg cal on ch) : Restored node cfg cal on (refresh ch) :=
  ⟨h.applyHw.config, h.applyHw.calConfig, h.applyHw.capabilities, h.applyHw.active,
    h.applyHw.outputEnabled⟩

theorem load (h : Restored node cfg cal on ch) (newCfg : ChannelConfig)
    (newCal : Option ChannelCalConfig) :
    Restored node newCfg (newCal.getD cal) on (restored ch newCfg newCal) := by
  have hset : Restored node newCfg cal on { ch with config := newCfg } :=
    ⟨rfl, h.calConfig, h.capabilities, h.active, h.outputEnabled⟩
  cases newCal with
  | none => exact hset.refresh
  | some newCal =>
    have hcal : Restored node newCfg newCal on
        { VcChannel.refresh { ch with config := newCfg } with calConfig := newCal } :=
      ⟨hset.refresh.config, rfl, hset.refresh.capabilities, hset.refresh.active,
        hset.refresh.outputEnabled⟩
    exact hcal.applyHw

/-- AUTOMATIC switches on the channels that want output, and changes no record. -/
theorem enableWanting (h : Restored node cfg cal false ch) :
    Restored node cfg cal (wantsOutput ch) (enableWanting .automatic ch) := by
  unfold VcController.enableWanting
  split
  next hwants =>
    have hstart : Restored node cfg cal true (startRamp ch) :=
      ⟨h.config, h.calConfig, h.capabilities, h.active, rfl⟩
    rw [outputAction_enable h.active, hwants.2.1]
    exact hstart.refresh
  next hwants =>
    have hnot : wantsOutput ch ≠ true := fun hw => hwants ⟨rfl, hw, h.active⟩
    rw [eq_false_of_ne_true hnot]
    exact h

end Restored

theorem loaded_channel {k : Kconfig} {nodes : List Node} {settings : Settings} {i : Nat}
    {node : Node} {cfg : ChannelConfig} (hnode : nodes[i]? = some node)
    (hcfg : settings.config i = some cfg) :
    ∃ ch, (loaded k nodes settings).channels[i]? = some ch ∧
      Restored node cfg ((settings.cal i).getD (VcChannel.init k node).calConfig) false ch := by
  have hfresh : Restored node (VcChannel.init k node).config (VcChannel.init k node).calConfig
      false (VcChannel.init k node) := ⟨rfl, rfl, rfl, rfl, rfl⟩
  obtain ⟨hlt, -⟩ := List.getElem?_eq_some_iff.mp hnode
  have hinit : (VcController.init k nodes settings).channels[i]? =
      some (VcChannel.init k node) := by
    rw [VcController.init, List.getElem?_map, hnode]
    rfl
  refine ⟨loadedChannel settings i (VcChannel.init k node), ?_, ?_⟩
  · rw [loaded, getElem?_loadedBelow]
    have hinit : (setStorageBackend (VcController.init k nodes settings)
        (some vcSettingsStorage)).channels[i]? = some (VcChannel.init k node) := hinit
    rw [hinit, Option.map_some, if_pos hlt]
    rfl
  · rw [loadedChannel, hcfg]
    exact hfresh.load cfg (settings.cal i)

/-- Of the saved modes only AUTOMATIC is moved to. -/
theorem loaded_moves {k : Kconfig} {nodes : List Node} {settings : Settings}
    (hactive : ∀ ch ∈ (loaded k nodes settings).channels, ch.activeFaultCause = 0)
    (sysCfg : SystemConfig) :
    ((some sysCfg).bind fun cfg =>
        if cfg.operatingMode ≠ (loaded k nodes settings).operatingMode then
          some cfg.operatingMode else none).filter (canMove (loaded k nodes settings)) =
      if sysCfg.operatingMode = .automatic then some .automatic else none := by
  have hmode : (loaded k nodes settings).operatingMode = .normal := rfl
  have hunlocked : (loaded k nodes settings).calUnlocked = false := rfl
  have hany : (loaded k nodes settings).channels.any (fun ch => ch.activeFaultCause != 0) =
      false := by
    rw [List.any_eq_false]
    intro ch hch
    simp [hactive ch hch]
  cases hsaved : sysCfg.operatingMode <;>
    simp [hsaved, hmode, canMove, hunlocked, hany, isKnownMode, Option.filter]

theorem accepted_of_fits {k : Kconfig} {nodes : List Node} {settings : Settings}
    {channels : List Channel} (hfits : Fits k nodes channels)
    (hcfg : ∀ (i : Nat) ch, channels[i]? = some ch → settings.config i = some ch.config) :
    Accepted k settings (VcController.init k nodes settings).channels := by
  intro i fresh hfresh
  rw [VcController.init, List.getElem?_map] at hfresh
  obtain ⟨node, hnode, rfl⟩ := Option.map_eq_some_iff.mp hfresh
  obtain ⟨ch, hch, hkept⟩ := hfits.channel hnode
  exact ⟨_, hcfg i _ hch, (setConfig_ok_iff k _ _).mpr ⟨hkept.gated, hkept.inRange⟩⟩

theorem length_loaded (k : Kconfig) (nodes : List Node) (settings : Settings) :
    (loaded k nodes settings).channels.length = nodes.length := by
  simp [loaded, loadedBelow, setStorageBackend, VcController.init]

theorem loaded_active {k : Kconfig} {nodes : List Node} {settings : Settings}
    {channels : List Channel} (hfits : Fits k nodes channels)
    (hcfg : ∀ (i : Nat) ch, channels[i]? = some ch → settings.config i = some ch.config) :
    ∀ ch ∈ (loaded k nodes settings).channels, ch.activeFaultCause = 0 := by
  intro ch hch
  obtain ⟨i, hi⟩ := List.mem_iff_getElem?.mp hch
  obtain ⟨hlt, -⟩ := List.getElem?_eq_some_iff.mp hi
  rw [length_loaded] at hlt
  have hnode := List.getElem?_eq_getElem hlt
  obtain ⟨saved, hsaved, -⟩ := hfits.channel hnode
  obtain ⟨ch', hch', hrestored⟩ := loaded_channel (k := k) hnode (hcfg i saved hsaved)
  rw [hi] at hch'
  obtain rfl := Option.some.inj hch'
  exact hrestored.active

/-- The last step of the boot on one channel. -/
def applyMode (mode : OperatingMode) (ch : Channel) : Channel :=
  if mode = .automatic then enableWanting .automatic ch else ch

/-- A boot from the records of a board whose channels fit its nodes. -/
theorem boot_applied {k : Kconfig} {nodes : List Node} {settings : Settings}
    {sysCfg : SystemConfig} {channels : List Channel} (hsys : settings.sys = some sysCfg)
    (hpolicy : sysCfg.startupChannelPolicy = 0) (hfits : Fits k nodes channels)
    (hcfg : ∀ (i : Nat) ch, channels[i]? = some ch → settings.config i = some ch.config) :
    (boot k nodes settings).operatingMode =
        (if sysCfg.operatingMode = .automatic then .automatic else .normal) ∧
      (boot k nodes settings).channels =
        (loaded k nodes settings).channels.map (applyMode sysCfg.operatingMode) := by
  have hmoves := loaded_moves (loaded_active hfits hcfg) sysCfg
  rw [boot_eq hsys hpolicy (accepted_of_fits hfits hcfg)]
  constructor
  · have hcontrol := congrArg Control.mode (control_recorded k (loaded k nodes settings) sysCfg)
    rw [mode_recorded_moved, hmoves] at hcontrol
    refine hcontrol.trans ?_
    split <;> rfl
  · refine List.ext_getElem? fun i => ?_
    rw [getElem?_setSystemConfig, hmoves, List.getElem?_map]
    refine Option.map_congr fun ch _ => ?_
    unfold applyMode
    split
    · exact exec_transitionOps k .normal .automatic ch
    · rfl

theorem boot_restored {k : Kconfig} {nodes : List Node} {settings : Settings}
    {sysCfg : SystemConfig} {channels : List Channel} (hsys : settings.sys = some sysCfg)
    (hpolicy : sysCfg.startupChannelPolicy = 0) (hfits : Fits k nodes channels)
    (hcfg : ∀ (i : Nat) ch, channels[i]? = some ch → settings.config i = some ch.config)
    {i : Nat} {node : Node} {ch : Channel} (hnode : nodes[i]? = some node)
    (hch : channels[i]? = some ch) :
    ∃ ch', (boot k nodes settings).channels[i]? = some ch' ∧
      Restored node ch.config ((settings.cal i).getD (VcChannel.init k node).calConfig)
        (sysCfg.operatingMode = .automatic ∧ wantsOutput ch) ch' := by
  obtain ⟨fresh, hfresh, hrestored⟩ := loaded_channel (k := k) hnode (hcfg i ch hch)
  have hkept := hfits.kept i node ch hnode hch
  have hwants : wantsOutput fresh = wantsOutput ch :=
    wantsOutput_congr (hrestored.capabilities.trans hkept.capabilities.symm) hrestored.config
  refine ⟨applyMode sysCfg.operatingMode fresh, ?_, ?_⟩
  · rw [(boot_applied hsys hpolicy hfits hcfg).2, List.getElem?_map, hfresh]
    rfl
  · unfold applyMode
    split
    next hmode => simpa [hmode, hwants] using hrestored.enableWanting
    next hmode => simpa [hmode] using hrestored

/-! ## The power cycle -/

/-- What a board has after a reboot of what it was before: `ctrl` is the controller whose records
were saved, and `cal` the calibration records. A saved CALIBRATION is not gone back to, as a
session needs its unlock. -/
structure BroughtBack (k : Kconfig) (nodes : List Node) (ctrl : Controller σ)
    (cal : Nat → Option ChannelCalConfig) (booted : Controller Settings) : Prop where
  config : booted.channels.map (·.config) = ctrl.channels.map (·.config)
  calConfig : booted.channels.map (·.calConfig) =
    nodes.mapIdx fun i node => (cal i).getD (VcChannel.init k node).calConfig
  normal : ctrl.sysCfg.operatingMode = .normal → booted.operatingMode = .normal ∧
    ∀ ch ∈ booted.channels, ch.outputEnabled = false
  automatic : ctrl.sysCfg.operatingMode = .automatic → booted.operatingMode = .automatic ∧
    booted.channels.map (·.outputEnabled) = ctrl.channels.map wantsOutput
  calibration : ctrl.sysCfg.operatingMode = .calibration → booted.operatingMode = .normal ∧
    ∀ ch ∈ booted.channels, ch.outputEnabled = false

/-- A view of all channels, from what a boot restores of each. -/
theorem boot_view {k : Kconfig} {nodes : List Node} {settings : Settings}
    {sysCfg : SystemConfig} {channels : List Channel} (hsys : settings.sys = some sysCfg)
    (hpolicy : sysCfg.startupChannelPolicy = 0) (hfits : Fits k nodes channels)
    (hcfg : ∀ (i : Nat) ch, channels[i]? = some ch → settings.config i = some ch.config)
    {α : Type} {f : Channel → α} {view : List α} (hlength : view.length = nodes.length)
    (hview : ∀ (i : Nat) node ch ch', nodes[i]? = some node → channels[i]? = some ch →
      Restored node ch.config ((settings.cal i).getD (VcChannel.init k node).calConfig)
        (sysCfg.operatingMode = .automatic ∧ wantsOutput ch) ch' → view[i]? = some (f ch')) :
    (boot k nodes settings).channels.map f = view := by
  refine List.ext_getElem? fun i => ?_
  rw [List.getElem?_map]
  by_cases hi : i < nodes.length
  · have hnode := List.getElem?_eq_getElem hi
    obtain ⟨ch, hch, -⟩ := hfits.channel hnode
    obtain ⟨ch', hch', hrestored⟩ := boot_restored hsys hpolicy hfits hcfg hnode hch
    rw [hch', hview i _ ch ch' hnode hch hrestored]
    rfl
  · have hbooted : (boot k nodes settings).channels.length = nodes.length := by
      rw [(boot_applied hsys hpolicy hfits hcfg).2, List.length_map, length_loaded]
    rw [List.getElem?_eq_none (by omega), List.getElem?_eq_none (by omega)]
    rfl

theorem boot_broughtBack {k : Kconfig} {nodes : List Node} {settings : Settings}
    {ctrl : Controller σ} (hsys : settings.sys = some ctrl.sysCfg)
    (hpolicy : ctrl.sysCfg.startupChannelPolicy = 0) (hfits : Fits k nodes ctrl.channels)
    (hcfg : ∀ (i : Nat) ch, ctrl.channels[i]? = some ch → settings.config i = some ch.config) :
    BroughtBack k nodes ctrl settings.cal (boot k nodes settings) := by
  obtain ⟨hmode, -⟩ := boot_applied hsys hpolicy hfits hcfg
  have hoff : ctrl.sysCfg.operatingMode ≠ .automatic →
      ∀ ch ∈ (boot k nodes settings).channels, ch.outputEnabled = false := by
    intro hne
    have hview : (boot k nodes settings).channels.map (·.outputEnabled) =
        nodes.map fun _ => false := by
      refine boot_view hsys hpolicy hfits hcfg (List.length_map _) ?_
      intro i node ch ch' hnode _ hrestored
      rw [List.getElem?_map, hnode, hrestored.outputEnabled]
      simp [hne]
    intro ch hch
    have hmem := List.mem_map_of_mem (f := fun ch : Channel => ch.outputEnabled) hch
    rw [hview] at hmem
    obtain ⟨_, -, h⟩ := List.mem_map.mp hmem
    exact h.symm
  refine ⟨?_, ?_, fun h => ?_, fun h => ?_, fun h => ?_⟩
  · refine boot_view hsys hpolicy hfits hcfg ((List.length_map _).trans hfits.length) ?_
    intro i node ch ch' _ hch hrestored
    rw [List.getElem?_map, hch, hrestored.config]
    rfl
  · refine boot_view hsys hpolicy hfits hcfg List.length_mapIdx ?_
    intro i node ch ch' hnode _ hrestored
    rw [List.getElem?_mapIdx, hnode, hrestored.calConfig]
    rfl
  · exact ⟨by simp [hmode, h], hoff (by simp [h])⟩
  · refine ⟨by simp [hmode, h],
      boot_view hsys hpolicy hfits hcfg ((List.length_map _).trans hfits.length) ?_⟩
    intro i node ch ch' _ hch hrestored
    rw [List.getElem?_map, hch, hrestored.outputEnabled]
    simp [h]
  · exact ⟨by simp [hmode, h], hoff (by simp [h])⟩

/-- After any run in which every SAVE of a list that has them all is accepted, a reboot from the
records brings everything back. -/
theorem powerCycle_restores (k : Kconfig) {nodes : List Node} {store : σ} {found : Settings}
    {ops : List (PublicOp σ)} {saves : List (ControllerOp σ)}
    {reached saved : Controller σ × Settings}
    (hreached : reached = exec (watched (PublicOp.step k) (recordsAfter k))
      (VcController.init k nodes store, found) ops)
    (hsaves : AllSaved k reached.1 saves) (hsys : .systemParamAction .save ∈ saves)
    (hchannels : ∀ i < nodes.length, .channelParamAction i .save ∈ saves)
    (hsaved : saved = saveAll k reached saves)
    (hpolicy : reached.1.sysCfg.startupChannelPolicy = 0) :
    BroughtBack k nodes reached.1 reached.2.cal (boot k nodes saved.2) := by
  have hfits : Fits k nodes reached.1.channels := by
    rw [hreached, exec_watched_fst]
    exact exec_invariant (I := fun ctrl : Controller σ => Fits k nodes ctrl.channels)
      (Q := fun _ _ => True) (fun ctrl op h _ => fits_publicStep h op) (fits_init k nodes store)
      (along_of_forall (fun _ _ _ => trivial) _)
  have hstart : Covers reached.1 saves reached.2 := by
    refine ⟨.inl hsys, fun i ch hch => .inl (hchannels i ?_)⟩
    obtain ⟨hlt, -⟩ := List.getElem?_eq_some_iff.mp hch
    exact hfits.length ▸ hlt
  obtain ⟨hcovers, hcal⟩ := saveAll_covers hsaves hstart
  have hrecords : saveAll k (reached.1, reached.2) saves = saved := hsaved.symm
  rw [hrecords] at hcovers hcal
  rw [← hcal]
  exact boot_broughtBack (by simpa using hcovers.sys) hpolicy hfits
    (fun i ch hch => by simpa using hcovers.config i ch hch)

/-- A channel with a target, in AUTOMATIC. -/
def driven : Controller Settings × Settings :=
  exec (watched (PublicOp.step .hvb) (recordsAfter .hvb))
    (VcController.init .hvb [dacNode] .empty, .empty)
    [.controller (.setStorageBackend (some vcSettingsStorage)),
      .controller (.channelSetField 0 .configuredTargetVoltage 500),
      .controller (.setOperatingMode .automatic)]

def everySave : List (ControllerOp Settings) :=
  [.systemParamAction .save, .channelParamAction 0 .save]

theorem powerCycle_restores_example :
    BroughtBack .hvb [dacNode] driven.1 driven.2.cal
        (boot .hvb [dacNode] (saveAll .hvb driven everySave).2) ∧
      driven.1.sysCfg.operatingMode = .automatic ∧
      driven.1.channels.map wantsOutput = [true] := by
  have hsaves : AllSaved .hvb driven.1 everySave := by decide
  have hchannels : ∀ i < [dacNode].length, .channelParamAction i .save ∈ everySave := by
    intro i hi
    obtain rfl : i = 0 := by simpa using hi
    exact .tail _ (.head _)
  exact ⟨powerCycle_restores .hvb rfl hsaves (.head _) hchannels rfl rfl, by decide, by decide⟩

/-! A board may be built to start in CALIBRATION. -/

def calibrationBoard : Kconfig :=
  { Kconfig.hvb with
    defaultOperatingMode := .calibration
    operatingMode_range := .inr (.inr rfl) }

def atRest : Controller Settings × Settings :=
  exec (watched (PublicOp.step calibrationBoard) (recordsAfter calibrationBoard))
    (VcController.init calibrationBoard [dacNode] .empty, .empty)
    [.controller (.setStorageBackend (some vcSettingsStorage))]

theorem calibration_notRestored :
    (AllSaved calibrationBoard atRest.1 everySave ∧
      atRest.1.sysCfg.startupChannelPolicy = 0) ∧
      (boot calibrationBoard [dacNode] (saveAll calibrationBoard atRest everySave).2).operatingMode
        ≠ atRest.1.sysCfg.operatingMode := by
  decide

end PowerCycle
