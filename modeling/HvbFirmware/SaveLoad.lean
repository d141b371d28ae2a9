import HvbFirmware.PowerCycle

/-!
# SAVE and LOAD of a channel

A LOAD checks the stored record against the configuration that it replaces, and the capability
rules forbid some differences. Two configurations that one channel can have differ in nothing
that the rules compare, so a LOAD brings back what a SAVE has stored, whatever was written between.
-/
namespace SaveLoad

open VcTypes VcChannel VcController VcRuntime PowerCycle Runs

variable {σ : Type}

/-! ## A faithful store -/

/-- A backend with a record of the configuration under a key for each channel, where `view` reads
it: an accepted save puts it there, a load returns it, and nothing else touches it but an erase. -/
structure Faithful (view : σ → Nat → Option ChannelConfig) (backend : StorageBackend σ) : Prop where
  saveConfig : ∀ save ∈ backend.saveChannelConfig, ∀ i cfg store,
    (0 ≤ (save i cfg store).1 → view (save i cfg store).2 i = some cfg) ∧
      ∀ j ≠ i, view (save i cfg store).2 j = view store j
  loadConfig : ∃ load, backend.loadChannelConfig = some load ∧ ∀ i buffer store,
    (∀ cfg ∈ view store i, (load i buffer store).1 = 0 ∧ (load i buffer store).2.1 = cfg) ∧
      view (load i buffer store).2.2 = view store
  saveCal : ∀ save ∈ backend.saveChannelCal, ∀ i cal store,
    view (save i cal store).2 = view store
  loadCal : ∀ load ∈ backend.loadChannelCal, ∀ i cal store,
    view (load i cal store).2.2 = view store
  saveSystem : ∀ save ∈ backend.saveSystemConfig, ∀ cfg store, view (save cfg store).2 = view store
  loadSystem : ∀ load ∈ backend.loadSystemConfig, ∀ store, view (load store).2.2 = view store

theorem faithful_settings : Faithful Settings.config vcSettingsStorage where
  saveConfig save hsave i cfg store := by
    obtain rfl := Option.some.inj hsave
    exact ⟨fun _ => Settings.saveConfig_self store i cfg,
      fun j hj => Settings.saveConfig_other store cfg hj⟩
  loadConfig := by
    refine ⟨_, rfl, fun i buffer store => ⟨fun cfg hcfg => ?_, rfl⟩⟩
    have hcfg : store.config i = some cfg := hcfg
    simp only [settingsLoadKey, hcfg, and_self]
  saveCal save hsave i cal store := by
    obtain rfl := Option.some.inj hsave
    rfl
  loadCal load hload i cal store := by
    obtain rfl := Option.some.inj hload
    rfl
  saveSystem save hsave cfg store := by
    obtain rfl := Option.some.inj hsave
    rfl
  loadSystem load hload store := by
    obtain rfl := Option.some.inj hload
    rfl

/-! ## Operations that leave a record -/

/-- No further SAVE of the channel and no erase; the store stays a faithful one. -/
structure Keeps (view : σ → Nat → Option ChannelConfig) (i : Nat) (ctrl : Controller σ)
    (op : PublicOp σ) : Prop where
  save : op ≠ .controller (.channelParamAction i .save)
  erase : op = .controller (.systemParamAction .factoryReset) →
    ctrl.storage.bind (·.eraseAll) = none
  backend : ∀ backend, op = .controller (.setStorageBackend backend) →
    ∃ b ∈ backend, Faithful view b

/-- The backend and its record of channel `i` are left. -/
structure Undisturbed (view : σ → Nat → Option ChannelConfig) (i : Nat)
    (ctrl ctrl' : Controller σ) : Prop where
  storage : ctrl'.storage = ctrl.storage
  record : view ctrl'.store i = view ctrl.store i

section Operations

variable {view : σ → Nat → Option ChannelConfig} {i : Nat} (k : Kconfig) (ctrl : Controller σ)

theorem Undisturbed.refl : Undisturbed view i ctrl ctrl := ⟨rfl, rfl⟩

theorem undisturbed_setOperatingMode (mode : OperatingMode) :
    Undisturbed view i ctrl (setOperatingMode k ctrl mode).2 := by
  cases h : canMove ctrl mode with
  | true =>
    rw [setOperatingMode_of_canMove k ctrl mode h]
    show Undisturbed view i ctrl (transition k ctrl mode)
    unfold transition
    dsimp only
    split <;> exact ⟨rfl, rfl⟩
  | false =>
    rcases setOperatingMode_of_not_canMove k ctrl mode h with h | h <;> rw [h]
    · exact .refl ctrl
    · exact ⟨rfl, rfl⟩

theorem undisturbed_setSystemConfig (cfg : SystemConfig) :
    Undisturbed view i ctrl (setSystemConfig k ctrl cfg).2 := by
  unfold setSystemConfig
  dsimp only
  split
  · have hmode : Undisturbed view i { ctrl with sysCfg := storedConfig ctrl cfg } _ :=
      undisturbed_setOperatingMode k _ cfg.operatingMode
    exact ⟨hmode.storage, hmode.record⟩
  · exact ⟨rfl, rfl⟩

theorem undisturbed_onChannel (j : Nat) (call : Channel → VcStatus × Channel) :
    Undisturbed view i ctrl (onChannel ctrl j call).2 := by
  unfold onChannel
  split <;> exact ⟨rfl, rfl⟩

theorem undisturbed_inSession (j : Nat) (call : Channel → VcStatus × Channel) :
    Undisturbed view i ctrl (inSession k ctrl j call).2 := by
  have hcall : Undisturbed view i ctrl _ := undisturbed_onChannel ctrl j (sessionCall ctrl call)
  unfold inSession
  dsimp only
  split <;> exact ⟨hcall.storage, hcall.record⟩

theorem undisturbed_calExit : Undisturbed view i ctrl (calExit k ctrl).2 := by
  unfold calExit
  split
  · exact .refl ctrl
  · exact undisturbed_setOperatingMode k ctrl _

variable (hfaithful : ∀ backend ∈ ctrl.storage, Faithful view backend)

include hfaithful

theorem undisturbed_systemParamAction {action : ParamAction}
    (herase : action = .factoryReset → ctrl.storage.bind (·.eraseAll) = none) :
    Undisturbed view i ctrl (systemParamAction k ctrl action).2 := by
  unfold systemParamAction
  cases action with
  | none => exact .refl ctrl
  | other value => exact .refl ctrl
  | save =>
    dsimp only
    split
    · exact .refl ctrl
    next save hsave =>
      obtain ⟨backend, hbackend, hsave⟩ := Option.bind_eq_some_iff.mp hsave
      exact ⟨rfl, congrFun ((hfaithful backend hbackend).saveSystem save hsave _ _) i⟩
  | load =>
    dsimp only
    split
    · exact .refl ctrl
    next load hload =>
      obtain ⟨backend, hbackend, hload⟩ := Option.bind_eq_some_iff.mp hload
      have hview := congrFun ((hfaithful backend hbackend).loadSystem load hload ctrl.store) i
      split
      · exact ⟨rfl, hview⟩
      split
      · exact ⟨rfl, hview⟩
      · have hset : Undisturbed view i { ctrl with store := (load ctrl.store).2.2 } _ :=
          undisturbed_setSystemConfig k _ (load ctrl.store).2.1
        exact ⟨hset.storage, hset.record.trans hview⟩
  | factoryReset =>
    refine ⟨rfl, ?_⟩
    dsimp only
    rw [herase rfl]

theorem undisturbed_putBack (j : Nat) (s : VcStatus × Channel) :
    Undisturbed view i ctrl (putBack ctrl j s).2 := by
  unfold putBack
  split
  · exact .refl ctrl
  split
  · exact ⟨rfl, rfl⟩
  next load hload =>
    obtain ⟨backend, hbackend, hload⟩ := Option.bind_eq_some_iff.mp hload
    exact ⟨rfl, congrFun ((hfaithful backend hbackend).loadCal load hload _ _ _) i⟩

theorem undisturbed_channelParamAction {j : Nat} {action : ParamAction}
    (hsave : action = .save → j ≠ i) :
    Undisturbed view i ctrl (channelParamAction k ctrl j action).2 := by
  unfold channelParamAction
  split
  · exact .refl ctrl
  next ch hch =>
  cases action with
  | none => exact .refl ctrl
  | other value => exact .refl ctrl
  | save =>
    dsimp only
    split
    · exact .refl ctrl
    next save hbound =>
      obtain ⟨backend, hbackend, hbound⟩ := Option.bind_eq_some_iff.mp hbound
      exact ⟨rfl, ((hfaithful backend hbackend).saveConfig save hbound j ch.config ctrl.store).2 i
        (hsave rfl).symm⟩
  | load =>
    dsimp only
    split
    · exact .refl ctrl
    next load hload =>
      obtain ⟨backend, hbackend, hload⟩ := Option.bind_eq_some_iff.mp hload
      obtain ⟨load', hload', hspec⟩ := (hfaithful backend hbackend).loadConfig
      obtain rfl : load' = load := Option.some.inj (hload'.symm.trans hload)
      have hview := congrFun (hspec j ch.config ctrl.store).2 i
      split
      · exact ⟨rfl, hview⟩
      · obtain ⟨hstorage, hrecord⟩ := undisturbed_putBack (i := i)
          { ctrl with store := (load' j ch.config ctrl.store).2.2 } hfaithful j
          (applyLoaded k ch (load' j ch.config ctrl.store).1 (load' j ch.config ctrl.store).2.1)
        exact ⟨hstorage, hrecord.trans hview⟩
  | factoryReset => exact undisturbed_putBack ctrl hfaithful j _

theorem undisturbed_channelCalCommit (j : Nat) :
    Undisturbed view i ctrl (channelCalCommit k ctrl j).2 := by
  have hsession : Undisturbed view i ctrl _ :=
    undisturbed_inSession k ctrl j fun ch => (calCommit ch, ch)
  unfold channelCalCommit
  dsimp only
  split
  · exact hsession
  split
  next save ch hsave hch =>
    obtain ⟨backend, hbackend, hsave⟩ := Option.bind_eq_some_iff.mp hsave
    exact ⟨hsession.storage, congrFun ((hfaithful backend hbackend).saveCal save hsave _ _ _) i⟩
  · exact hsession

theorem undisturbed_step {op : PublicOp σ} (hkeeps : Keeps view i ctrl op)
    (hbackend : ∀ backend, op ≠ .controller (.setStorageBackend backend)) :
    Undisturbed view i ctrl (op.step k ctrl) := by
  cases op with
  | channel j op => exact undisturbed_onChannel ctrl j _
  | controller op =>
  cases op with
  | setOperatingMode mode => exact undisturbed_setOperatingMode k ctrl mode
  | calibrationUnlock value =>
    show Undisturbed view i ctrl (calibrationUnlock ctrl value).2
    unfold calibrationUnlock
    split
    · exact ⟨rfl, rfl⟩
    · split <;> exact ⟨rfl, rfl⟩
  | calExit => exact undisturbed_calExit k ctrl
  | calHeartbeat =>
    show Undisturbed view i ctrl (calHeartbeat k ctrl)
    unfold calHeartbeat
    split <;> exact ⟨rfl, rfl⟩
  | setSystemConfig cfg => exact undisturbed_setSystemConfig k ctrl cfg
  | setSystemField field value =>
    cases field
    case operatingMode => exact undisturbed_setOperatingMode k ctrl _
    case startupChannelPolicy => exact undisturbed_setSystemConfig k ctrl _
    all_goals exact .refl ctrl
  | tick dtMs =>
    show Undisturbed view i ctrl (tick k ctrl dtMs)
    unfold tick
    split
    · split
      · exact undisturbed_calExit k ctrl
      · exact ⟨rfl, rfl⟩
    · exact ⟨rfl, rfl⟩
  | setStorageBackend backend => exact absurd rfl (hbackend backend)
  | systemParamAction action =>
    exact undisturbed_systemParamAction k ctrl hfaithful fun h => hkeeps.erase (by rw [h])
  | channelParamAction j action =>
    refine undisturbed_channelParamAction k ctrl hfaithful ?_
    rintro rfl rfl
    exact hkeeps.save rfl
  | channelCalCommit j => exact undisturbed_channelCalCommit k ctrl hfaithful j
  | channelSetField j field value => exact undisturbed_onChannel ctrl j _
  | channelOutputAction j action => exact undisturbed_onChannel ctrl j _
  | channelFaultCommand j cmd => exact undisturbed_onChannel ctrl j _
  | channelSetCalField j field value => exact undisturbed_inSession k ctrl j _
  | channelCalOutputEnable j enable => exact undisturbed_inSession k ctrl j _
  | channelCalRawDac j code => exact undisturbed_inSession k ctrl j _
  | channelCalSample j => exact undisturbed_inSession k ctrl j _
  | publishVoltage j raw ts => exact undisturbed_onChannel ctrl j _
  | publishCurrent j raw ts => exact undisturbed_onChannel ctrl j _
  | consumeFault j cause => exact undisturbed_onChannel ctrl j _

end Operations

/-! ## A stored record -/

/-- The store holds `cfg` as the record of channel `i`, behind a faithful backend. -/
structure Stored (view : σ → Nat → Option ChannelConfig) (i : Nat) (cfg : ChannelConfig)
    (ctrl : Controller σ) : Prop where
  backend : ∃ backend, ctrl.storage = some backend ∧ Faithful view backend
  record : view ctrl.store i = some cfg

theorem Stored.step {view : σ → Nat → Option ChannelConfig} {i : Nat} {cfg : ChannelConfig}
    {ctrl : Controller σ} (h : Stored view i cfg ctrl) (k : Kconfig) {op : PublicOp σ}
    (hkeeps : Keeps view i ctrl op) : Stored view i cfg (op.step k ctrl) := by
  by_cases hset : ∃ backend, op = .controller (.setStorageBackend backend)
  · obtain ⟨backend, rfl⟩ := hset
    obtain ⟨b, hb, hfaithful⟩ := hkeeps.backend backend rfl
    exact ⟨⟨b, hb, hfaithful⟩, h.record⟩
  · obtain ⟨backend, hstorage, hfaithful⟩ := h.backend
    have hall : ∀ b ∈ ctrl.storage, Faithful view b := by
      intro b hb
      obtain rfl := Option.some.inj (hstorage.symm.trans hb)
      exact hfaithful
    obtain ⟨hsame, hrecord⟩ :=
      undisturbed_step k ctrl hall hkeeps fun backend hop => hset ⟨backend, hop⟩
    exact ⟨⟨backend, hsame.trans hstorage, hfaithful⟩, hrecord.trans h.record⟩

/-- An accepted SAVE stores the configuration and leaves the channels. -/
theorem stored_save {view : σ → Nat → Option ChannelConfig} {k : Kconfig} {ctrl : Controller σ}
    {i : Nat} (hfaithful : ∀ backend ∈ ctrl.storage, Faithful view backend)
    (hsave : (channelParamAction k ctrl i .save).1 = .ok) :
    ∃ ch, ctrl.channels[i]? = some ch ∧
      (channelParamAction k ctrl i .save).2.channels = ctrl.channels ∧
      Stored view i ch.config (channelParamAction k ctrl i .save).2 := by
  unfold channelParamAction at hsave ⊢
  cases hch : ctrl.channels[i]? with
  | none =>
    rw [hch] at hsave
    cases hsave
  | some ch =>
    simp only [hch] at hsave ⊢
    cases hbound : ctrl.storage.bind (·.saveChannelConfig) with
    | none =>
      rw [hbound] at hsave
      cases hsave
    | some save =>
      simp only [hbound] at hsave ⊢
      obtain ⟨backend, hbackend, hbound⟩ := Option.bind_eq_some_iff.mp hbound
      have hspec := hfaithful backend hbackend
      have hret : 0 ≤ (save i ch.config ctrl.store).1 := by
        split at hsave
        · cases hsave
        · omega
      exact ⟨ch, rfl, trivial, ⟨backend, hbackend, hspec⟩,
        (hspec.saveConfig save hbound i ch.config ctrl.store).1 hret⟩

/-! ## Every configuration of a channel can be put back -/

theorem config_applyStoredCal (ch : Channel) (ret : Int) (cal : ChannelCalConfig) :
    (applyStoredCal ch ret cal).config = ch.config := by
  unfold applyStoredCal
  split
  · exact applyHw_config _
  · rfl

/-- A LOAD of a record that the channel takes. -/
theorem load_stored {view : σ → Nat → Option ChannelConfig} {k : Kconfig} {ctrl : Controller σ}
    {i : Nat} {ch : Channel} {cfg : ChannelConfig} (hstored : Stored view i cfg ctrl)
    (hch : ctrl.channels[i]? = some ch) (haccept : (setConfig k ch cfg).1 = .ok) :
    (channelParamAction k ctrl i .load).1 = .ok ∧
      (channelParamAction k ctrl i .load).2.channels[i]?.map (·.config) = some cfg := by
  obtain ⟨⟨backend, hstorage, hfaithful⟩, hrecord⟩ := hstored
  obtain ⟨load, hload, hspec⟩ := hfaithful.loadConfig
  obtain ⟨hret, hcfg⟩ := (hspec i ch.config ctrl.store).1 cfg hrecord
  have hbind : ctrl.storage.bind (·.loadChannelConfig) = some load := by
    rw [hstorage]
    exact hload
  have happlied : applyLoaded k ch (load i ch.config ctrl.store).1
      (load i ch.config ctrl.store).2.1 = (.ok, refresh { ch with config := cfg }) := by
    rw [hret, hcfg, applyLoaded, if_pos rfl]
    exact setConfig_of_ok haccept
  have hlt : i < ctrl.channels.length := (List.getElem?_eq_some_iff.mp hch).1
  have hrefresh : (refresh { ch with config := cfg }).config = cfg := applyHw_config _
  unfold channelParamAction
  simp only [hch, hbind, happlied]
  rw [if_neg (by simp [hret])]
  unfold putBack
  rw [if_neg (by simp)]
  split
  · exact ⟨rfl, by simp [List.getElem?_set_self hlt, hrefresh]⟩
  · exact ⟨rfl, by simp [List.getElem?_set_self hlt, config_applyStoredCal, hrefresh]⟩

/-! ## The round trip -/

/-- A reachable controller, its store and its backends being any. -/
def reached (k : Kconfig) (nodes : List Node) (store : σ) (ops : List (PublicOp σ)) :
    Controller σ :=
  exec (PublicOp.step k) (VcController.init k nodes store) ops

/-- Whatever happens between an accepted SAVE and a LOAD, short of another SAVE of the channel and
of an erase: the LOAD is accepted and brings the configuration back. -/
theorem save_load (k : Kconfig) (nodes : List Node) (store : σ)
    (view : σ → Nat → Option ChannelConfig) (ops between : List (PublicOp σ)) (i : Nat)
    (hfaithful : ∀ backend ∈ (reached k nodes store ops).storage, Faithful view backend)
    (hsave : (channelParamAction k (reached k nodes store ops) i .save).1 = .ok)
    (hbetween : Along (PublicOp.step k) (Keeps view i)
      (channelParamAction k (reached k nodes store ops) i .save).2 between) :
    let later := exec (PublicOp.step k)
      (channelParamAction k (reached k nodes store ops) i .save).2 between
    (channelParamAction k later i .load).1 = .ok ∧
      (channelParamAction k later i .load).2.channels[i]?.map (·.config) =
        (reached k nodes store ops).channels[i]?.map (·.config) := by
  intro later
  have hruns : ∀ (ctrl : Controller σ) ops, Fits k nodes ctrl.channels →
      Fits k nodes (exec (PublicOp.step k) ctrl ops).channels := fun ctrl ops h =>
    exec_invariant (I := fun ctrl : Controller σ => Fits k nodes ctrl.channels)
      (fun _ op h _ => fits_publicStep h op) h (along_of_forall (fun _ _ _ => trivial) _)
  have hfits : Fits k nodes (reached k nodes store ops).channels :=
    hruns _ ops (fits_init k nodes store)
  obtain ⟨ch, hch, hchannels, hstored⟩ := stored_save hfaithful hsave
  have hstored : Stored view i ch.config later :=
    exec_invariant (fun _ _ h hkeeps => h.step k hkeeps) hstored hbetween
  have hlater : Fits k nodes later.channels := hruns _ between (by rwa [hchannels])
  -- both configurations come from the same fresh channel
  obtain ⟨hlt, -⟩ := List.getElem?_eq_some_iff.mp hch
  rw [hfits.length] at hlt
  have hnode := List.getElem?_eq_getElem hlt
  obtain ⟨ch', hch', hkept'⟩ := hlater.channel hnode
  have hkept := hfits.kept i _ ch hnode hch
  have haccept : (setConfig k ch' ch.config).1 = .ok := by
    rw [setConfig_ok_iff, hkept'.capabilities]
    exact ⟨Gated.back hkept'.gated hkept.gated, hkept.inRange⟩
  obtain ⟨hok, hloaded⟩ := load_stored hstored hch' haccept
  exact ⟨hok, by rw [hloaded, hch]; rfl⟩

def savedRun : List (PublicOp Settings) :=
  [.controller (.setStorageBackend (some vcSettingsStorage)),
    .controller (.channelSetField 0 .configuredTargetVoltage 500)]

def betweenRun : List (PublicOp Settings) :=
  [.controller (.channelSetField 0 .configuredTargetVoltage 700), .controller (.tick 100)]

theorem storage_savedRun :
    (reached .hvb [dacNode] Settings.empty savedRun).storage = some vcSettingsStorage := by
  unfold reached savedRun
  rfl

theorem save_load_example :
    let later := exec (PublicOp.step .hvb)
      (channelParamAction .hvb (reached .hvb [dacNode] .empty savedRun) 0 .save).2 betweenRun
    (channelParamAction .hvb later 0 .load).1 = .ok ∧
      (channelParamAction .hvb later 0 .load).2.channels[0]?.map (·.config) =
        (reached .hvb [dacNode] .empty savedRun).channels[0]?.map (·.config) := by
  have hfaithful : ∀ backend ∈ (reached .hvb [dacNode] Settings.empty savedRun).storage,
      Faithful Settings.config backend := by
    rw [storage_savedRun]
    rintro backend ⟨⟩
    exact faithful_settings
  have hbetween : ∀ op ∈ betweenRun, ∀ ctrl, Keeps Settings.config 0 ctrl op := by
    simp only [betweenRun, List.mem_cons, List.not_mem_nil, or_false]
    rintro op (rfl | rfl) ctrl <;> exact ⟨by simp, by simp, by simp⟩
  exact save_load .hvb [dacNode] Settings.empty Settings.config savedRun betweenRun 0 hfaithful
    (by decide +kernel) (along_of_forall hbetween _)

end SaveLoad
