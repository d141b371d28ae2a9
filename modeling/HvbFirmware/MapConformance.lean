import HvbFirmware.AddressMap

/-!
# Conformance to the address map

`Follows` is what the register reference promises of one read and one write. `Deviates` are the
requests that break the promise: the reserved registers outside the extension block, the session
registers outside a session, a few values that are not checked, and the rejected writes that leave
something behind. `map_follows_iff` says that there are no others.
-/
namespace MapConformance

open VcTypes VcChannel VcController RegCatalog ModbusRegister MbAdapter VcCatalog MbServer
open CommConfig ParamActions Atomicity Runs AddressMap
open WordCoherence (off_lt)

variable {σ : Type}

/-! ## Refused commands -/

/-- A storage call that fails, and any load, leaves the store. -/
structure KeepsStore (backend : StorageBackend σ) : Prop extends FailsClean backend where
  loadChannel : ∀ load ∈ backend.loadChannelConfig, ∀ i cfg store, (load i cfg store).2.2 = store
  saveChannel : ∀ save ∈ backend.saveChannelConfig, ∀ i cfg store,
    (save i cfg store).1 < 0 → (save i cfg store).2 = store
  saveCal : ∀ save ∈ backend.saveChannelCal, ∀ i cal store,
    (save i cal store).1 < 0 → (save i cal store).2 = store

/-- The commands that the registers of a channel, the mode and the exit submit. -/
inductive Registered : ControllerOp σ → Prop where
  | mode (mode : OperatingMode) : Registered (.setOperatingMode mode)
  | exit : Registered .calExit
  | field (i : Nat) (field : ConfigField) (val : UInt16) : Registered (.channelSetField i field val)
  | calField (i : Nat) (field : CalField) (val : UInt16) :
      Registered (.channelSetCalField i field val)
  | outputAction (i : Nat) (action : OutputAction) : Registered (.channelOutputAction i action)
  | faultCommand (i : Nat) (cmd : ChannelFaultCommand) : Registered (.channelFaultCommand i cmd)
  | paramAction (i : Nat) (action : ParamAction) : Registered (.channelParamAction i action)
  | calOutput (i : Nat) (enable : Bool) : Registered (.channelCalOutputEnable i enable)
  | rawDac (i : Nat) (code : UInt32) : Registered (.channelCalRawDac i code)
  | calSample (i : Nat) : Registered (.channelCalSample i)
  | calCommit (i : Nat) : Registered (.channelCalCommit i)

theorem store_onChannel (ctrl : Controller σ) (i : Nat) (call : Channel → VcStatus × Channel) :
    (onChannel ctrl i call).2.store = ctrl.store := by
  unfold onChannel
  split <;> rfl

theorem store_inSession (k : Kconfig) (ctrl : Controller σ) (i : Nat)
    (call : Channel → VcStatus × Channel) : (inSession k ctrl i call).2.store = ctrl.store := by
  unfold inSession
  dsimp only
  split <;> exact store_onChannel ctrl i _

/-- The backend fails to save the coefficients of channel `i`. -/
def commitFails (ctrl : Controller σ) (i : Nat) : Bool :=
  match ctrl.storage.bind (·.saveChannelCal), ctrl.channels[i]? with
  | some save, some ch => (save i ch.calConfig ctrl.store).1 < 0
  | _, _ => false

/-- A commit that only the storage refuses has restarted the watchdog. -/
def commitLeaves (k : Kconfig) (ctrl : Controller σ) (i : Nat) : Bool :=
  commitPasses ctrl i && commitFails ctrl i &&
    ctrl.calWatchdogMs != k.calWatchdogTimeoutS * 1000

theorem commit_refused (k : Kconfig) {ctrl : Controller σ} {i : Nat} (h : commitPasses ctrl i) :
    (channelCalCommit k ctrl i).1 ≠ .ok ↔ commitFails ctrl i := by
  have hsession := inSession_commit k ctrl i
  dsimp only at hsession
  rw [if_pos h] at hsession
  unfold channelCalCommit commitFails
  rw [hsession]
  dsimp only
  rw [if_neg (by simp)]
  cases ctrl.storage.bind (·.saveChannelCal) with
  | none => simp
  | some save =>
    cases ctrl.channels[i]? with
    | none => simp
    | some ch => simp

section Refused

variable {k : Kconfig} {ctrl : Controller σ}
  (hstore : ∀ backend ∈ ctrl.storage, KeepsStore backend)

include hstore

theorem store_channelParamAction {i : Nat} {action : ParamAction}
    (h : (channelParamAction k ctrl i action).1 ≠ .ok) :
    (channelParamAction k ctrl i action).2.store = ctrl.store := by
  unfold channelParamAction at h ⊢
  cases hc : ctrl.channels[i]? with
  | none => rfl
  | some ch =>
    simp only [hc] at h ⊢
    cases action with
    | none => rfl
    | other value => rfl
    | save =>
      cases hsave : ctrl.storage.bind (·.saveChannelConfig) with
      | none => rfl
      | some save =>
        simp only [hsave] at h ⊢
        obtain ⟨backend, hbackend, hsave⟩ := Option.bind_eq_some_iff.mp hsave
        refine (hstore backend hbackend).saveChannel save hsave _ _ _ ?_
        exact Decidable.not_not.mp fun hnot => h (if_neg hnot)
    | factoryReset => rw [refused_putBack h]
    | load =>
      cases hload : ctrl.storage.bind (·.loadChannelConfig) with
      | none => rfl
      | some load =>
        simp only [hload] at h ⊢
        obtain ⟨backend, hbackend, hload⟩ := Option.bind_eq_some_iff.mp hload
        have hclean := (hstore backend hbackend).loadChannel load hload i ch.config ctrl.store
        split at h
        next hneg =>
          rw [if_pos hneg]
          exact hclean
        next hneg =>
          rw [if_neg hneg, refused_putBack h]
          exact hclean

theorem store_channelCalCommit {i : Nat} (h : (channelCalCommit k ctrl i).1 ≠ .ok) :
    (channelCalCommit k ctrl i).2.store = ctrl.store := by
  have hsession := store_inSession k ctrl i fun ch => (calCommit ch, ch)
  unfold channelCalCommit at h ⊢
  dsimp only at h ⊢
  split at h
  next hst =>
    rw [if_pos hst]
    exact hsession
  next hst =>
    rw [if_neg hst]
    cases hsave : ctrl.storage.bind (·.saveChannelCal) with
    | none => exact hsession
    | some save =>
      cases hc : ctrl.channels[i]? with
      | none => exact hsession
      | some ch =>
        simp only [hsave, hc] at h ⊢
        obtain ⟨backend, hbackend, hsave⟩ := Option.bind_eq_some_iff.mp hsave
        refine (hstore backend hbackend).saveCal save hsave _ _ _ ?_
        exact Decidable.not_not.mp fun hnot => h (if_neg hnot)

theorem store_refused {op : ControllerOp σ} (hop : Registered op) (h : (op.call k ctrl).1 ≠ .ok) :
    (op.call k ctrl).2.store = ctrl.store := by
  cases hop with
  | mode mode => exact congrArg Controller.store (refused_setOperatingMode h)
  | exit =>
    show (calExit k ctrl).2.store = _
    have h : (calExit k ctrl).1 ≠ .ok := h
    unfold calExit at h ⊢
    split at h
    next hmode => rw [if_pos hmode]
    next hmode =>
      rw [if_neg hmode]
      exact congrArg Controller.store (refused_setOperatingMode h)
  | field i field val => exact store_onChannel ctrl i _
  | calField i field val => exact store_inSession k ctrl i _
  | outputAction i action => exact store_onChannel ctrl i _
  | faultCommand i cmd => exact store_onChannel ctrl i _
  | paramAction i action => exact store_channelParamAction hstore h
  | calOutput i enable => exact store_inSession k ctrl i _
  | rawDac i code => exact store_inSession k ctrl i _
  | calSample i => exact store_inSession k ctrl i _
  | calCommit i => exact store_channelCalCommit hstore h

/-- A refused command leaves the controller, unless it is a commit that restarts the watchdog. -/
theorem refused_registered {op : ControllerOp σ} (hop : Registered op)
    (hcommit : ∀ i, op = .channelCalCommit i → commitLeaves k ctrl i = false)
    (h : (op.call k ctrl).1 ≠ .ok) : (op.call k ctrl).2 = ctrl := by
  have hsame := store_refused hstore hop h
  have hunlock : ∀ value, op ≠ .calibrationUnlock value := by
    rintro value rfl
    cases hop
  have hremainder : remainder k ctrl op = ctrl := by
    cases hop with
    | calCommit i =>
      have hleaves := hcommit i rfl
      unfold commitLeaves at hleaves
      cases hpasses : commitPasses ctrl i with
      | false => simp [remainder, ControllerOp.record, hpasses]
      | true =>
        have hsaved : ctrl.calWatchdogMs = k.calWatchdogTimeoutS * 1000 := by
          simpa [hpasses, (commit_refused k hpasses).mp h] using hleaves
        simp [remainder, ControllerOp.record, hpasses, ← hsaved]
    | _ => rfl
  calc (op.call k ctrl).2
      = withStore (op.call k ctrl).2 ctrl.store := by rw [← hsame]; rfl
    _ = remainder k ctrl op := refused_call hunlock h
    _ = ctrl := hremainder

end Refused

theorem channelRequest_registered {i : Nat} {reg : VcReg} {val : UInt16} {op : ControllerOp σ}
    (h : channelRequest i reg val = .submit op) :
    Registered op ∧ ∀ j, op = .channelCalCommit j → j = i ∧ reg = .calCommitCmd ∧ val = 1 := by
  have hcommand : ∀ {op' : ControllerOp σ}, calCommand val op' = .submit op →
      op' = op ∧ val = 1 := by
    intro op' h
    unfold calCommand at h
    split at h
    · cases h
    split at h
    · cases h
    · exact ⟨Request.submit.inj h, by grind⟩
  cases reg
  case calOutputEnable =>
    simp only [channelRequest, vcCatalogField, vcCatalogCalField, channelCommand] at h
    split at h
    · cases h
    · cases h
      refine ⟨.calOutput _ _, fun j hj => ?_⟩
      cases hj
  case calSampleCmd =>
    obtain ⟨rfl, -⟩ := hcommand h
    refine ⟨.calSample _, fun j hj => ?_⟩
    cases hj
  case calCommitCmd =>
    obtain ⟨rfl, rfl⟩ := hcommand h
    exact ⟨.calCommit _, fun j hj => ⟨(ControllerOp.channelCalCommit.inj hj).symm, rfl, rfl⟩⟩
  all_goals
    cases h
    all_goals
      refine ⟨by constructor, fun j hj => ?_⟩
      cases hj

/-! ## What a rejected write leaves -/

/-- A refused policy is stored all the same. -/
def policyLeaves (ctrl : Controller σ) (val : UInt16) : Bool :=
  refusesMode ctrl ctrl.sysCfg.operatingMode ∧ val ≠ ctrl.sysCfg.startupChannelPolicy

/-- A wrong step takes the unlock back to its start. -/
def unlockLeaves (ctrl : Controller σ) (val : UInt16) : Bool :=
  badExtValue ctrl 0 val ∧ (ctrl.calUnlockStep ≠ 0 ∨ ctrl.calUnlocked)

/-- A FACTORY_RESET whose command is not taken has reset the adapter, and a LOAD whose mode is
refused has stored the record. -/
def paramActionLeaves (bd : Board) (e : Env) (w : World σ) (val : UInt16) : Bool :=
  val = paramActionFactoryReset ∧ e.outcomes.save.toBool ∧ e.adm.admitted = false ∧
      w.mb.adapter.bootCfg ≠ adapterDefaultConfig bd.mb ∨
    val = paramActionLoad ∧ e.outcomes.load.toBool ∧ e.adm.admitted ∧
      ((ControllerOp.systemParamAction (σ := σ) .load).record w.ctrl).any fun cfg =>
        refusesMode w.ctrl cfg.operatingMode ∧ storedConfig w.ctrl cfg ≠ w.ctrl.sysCfg

/-- The rejected writes that leave something behind. -/
def leavesTrace (bd : Board) (e : Env) (w : World σ) (addr val : UInt16) : Bool :=
  if isExtension addr then addr = 680 ∧ e.adm.admitted ∧ unlockLeaves w.ctrl val
  else
    match addrDecode addr with
    | some (.sys 1) => e.adm.admitted ∧ policyLeaves w.ctrl val
    | some (.sys 39) => paramActionLeaves bd e w val
    | some (.channel ch 33) => val = 1 ∧ e.adm.admitted ∧ ch < bd.vc.maxChannels ∧
        holdingGuard (capsOf w.ctrl.channels[ch.toNat]?) 33 ∧ commitLeaves bd.k w.ctrl ch.toNat
    | _ => false

section Commands

variable {k : Kconfig} {adm : Admission} {ctrl : Controller σ}

/-- A rejected request leaves the controller, exactly if the command does so once it is taken. -/
theorem serve_clean_iff (op : ControllerOp σ) :
    ((serve k adm ctrl (.submit op)).1 ≠ .ok → (serve k adm ctrl (.submit op)).2 = ctrl) ↔
      (adm.admitted → (op.call k ctrl).1 ≠ .ok → (op.call k ctrl).2 = ctrl) := by
  have hok : ∀ st, vcStatusToReg st ≠ .ok ↔ st ≠ .ok := by
    intro st
    cases st <;> simp [vcStatusToReg]
  unfold serve submitCommand
  cases adm.admitted with
  | false => simp
  | true => simp [hok]

theorem storedConfig_policy (ctrl : Controller σ) (val : UInt16) :
    storedConfig ctrl { ctrl.sysCfg with startupChannelPolicy := val } =
      { ctrl.sysCfg with startupChannelPolicy := val } := by
  unfold storedConfig
  split <;> rfl

theorem refused_iff (k : Kconfig) (ctrl : Controller σ) (cfg : SystemConfig) :
    (setSystemConfig k ctrl cfg).1 ≠ .ok ↔ refusesMode ctrl cfg.operatingMode := by
  have hanswer := setSystemConfig_answer k ctrl cfg
  cases hst : (setSystemConfig k ctrl cfg).1 <;>
    cases hmode : refusesMode ctrl cfg.operatingMode <;> simp_all [vcStatusToReg]

theorem policy_clean_iff (val : UInt16) :
    ((setSystemField k ctrl .startupChannelPolicy val).1 ≠ .ok →
      (setSystemField k ctrl .startupChannelPolicy val).2 = ctrl) ↔
      policyLeaves ctrl val = false := by
  have hrefused := refused_iff k ctrl { ctrl.sysCfg with startupChannelPolicy := val }
  show ((setSystemConfig k ctrl _).1 ≠ .ok → (setSystemConfig k ctrl _).2 = ctrl) ↔ _
  rw [hrefused]
  unfold policyLeaves
  constructor
  · intro h
    refine decide_eq_false fun hleaves => hleaves.2 ?_
    have hsame := h hleaves.1
    rw [refused_setSystemConfig (hrefused.mpr hleaves.1), storedConfig_policy] at hsame
    exact congrArg (·.sysCfg.startupChannelPolicy) hsame
  · intro h hmode
    have hval : val = ctrl.sysCfg.startupChannelPolicy :=
      Decidable.not_not.mp fun hne => of_decide_eq_false h ⟨hmode, hne⟩
    rw [refused_setSystemConfig (hrefused.mpr hmode), storedConfig_policy, hval]

theorem unlock_clean_iff (val : UInt16) :
    ((calibrationUnlock ctrl val).1 ≠ .ok → (calibrationUnlock ctrl val).2 = ctrl) ↔
      unlockLeaves ctrl val = false := by
  unfold calibrationUnlock unlockLeaves badExtValue
  split
  next hone => simp [hone]
  split
  next hone htwo => simp [htwo]
  next hone htwo =>
    constructor
    · intro h
      have hsame := h nofun
      have hstep : 0 = ctrl.calUnlockStep := congrArg Controller.calUnlockStep hsame
      have hlocked : false = ctrl.calUnlocked := congrArg Controller.calUnlocked hsame
      simp [← hstep, ← hlocked]
    · intro h _
      have hbad : val ≠ calUnlockStep1 ∧ (val ≠ calUnlockStep2 ∨ ctrl.calUnlockStep ≠ 1) :=
        ⟨hone, Decidable.not_and_iff_or_not.mp htwo⟩
      have hstart : ¬ (ctrl.calUnlockStep ≠ 0 ∨ ctrl.calUnlocked) :=
        fun hchanged => of_decide_eq_false h ⟨decide_eq_true hbad, hchanged⟩
      obtain ⟨hstep, hlocked⟩ := not_or.mp hstart
      simp only [Bool.not_eq_true, Decidable.not_not] at hstep hlocked
      rw [← hstep, ← hlocked]

theorem commit_clean_iff (hstore : ∀ backend ∈ ctrl.storage, KeepsStore backend) (i : Nat) :
    ((channelCalCommit k ctrl i).1 ≠ .ok → (channelCalCommit k ctrl i).2 = ctrl) ↔
      commitLeaves k ctrl i = false := by
  constructor
  · intro h
    refine Bool.eq_false_iff.mpr fun hleaves => ?_
    unfold commitLeaves at hleaves
    simp only [Bool.and_eq_true, bne_iff_ne] at hleaves
    obtain ⟨⟨hpasses, hfails⟩, hwatchdog⟩ := hleaves
    have hsame := h ((commit_refused k hpasses).mpr hfails)
    have hrest : (channelCalCommit k ctrl i).2.calWatchdogMs = k.calWatchdogTimeoutS * 1000 :=
      (congrArg Controller.calWatchdogMs
        (refused_channelCalCommit : withStore (channelCalCommit k ctrl i).2 _ = _)).trans
        (if_pos hpasses)
    exact hwatchdog ((congrArg Controller.calWatchdogMs hsame.symm).trans hrest)
  · intro hleaves
    refine refused_registered hstore (.calCommit i) fun j hj => ?_
    obtain rfl := ControllerOp.channelCalCommit.inj hj
    exact hleaves

end Commands

/-! ## The Param Action -/

section ParamAction

variable {bd : Board} {e : Env} {w : World σ}

/-- The status of a LOAD that brings a record is that of the record. -/
theorem load_refused {k : Kconfig} {ctrl : Controller σ} {cfg : SystemConfig}
    (h : cfg ∈ (ControllerOp.systemParamAction (σ := σ) .load).record ctrl) :
    (systemParamAction k ctrl .load).1 ≠ .ok ↔ refusesMode ctrl cfg.operatingMode := by
  unfold systemParamAction
  simp only [ControllerOp.record] at h
  cases hload : ctrl.storage.bind (·.loadSystemConfig) with
  | none => simp [hload] at h
  | some load =>
    rw [hload] at h
    dsimp only at h ⊢
    split at h
    · cases h
    next hneg =>
      obtain rfl := Option.some.inj h
      have hent : (load ctrl.store).1 ≠ errNoEnt := by
        intro hent
        rw [hent] at hneg
        exact hneg (by decide)
      rw [if_neg hent, if_neg hneg]
      exact refused_iff k _ _

theorem latch_paramAction (hrun : e.adm.running) (val : UInt16) :
    (paramAction bd e w val).2.latch = w.latch := by
  unfold paramAction handleSysParamAction
  split
  · rfl
  dsimp only
  split
  · rfl
  rw [writeParamAction, hrun]
  cases e.adm.admitted <;> rfl

theorem paramAction_same (hrun : e.adm.running) (val : UInt16) :
    Same (paramAction bd e w val).2 w ↔ (paramAction bd e w val).2 = w := by
  have hlatch : (paramAction bd e w val).2.latch = w.latch := latch_paramAction hrun val
  generalize (paramAction bd e w val).2 = w' at hlatch
  obtain ⟨ctrl', mb', latch'⟩ := w'
  obtain rfl : latch' = w.latch := hlatch
  constructor
  · rintro ⟨rfl, rfl⟩
    rfl
  · intro h
    exact ⟨congrArg World.ctrl h, congrArg World.mb h⟩

/-- Once the adapter has done its half, the answer is that of the controller. -/
theorem paramAction_answer {val : UInt16} (hreset : val ≠ paramActionSoftwareReset)
    (hhalf : (adapterParamAction bd.mb e.outcomes val w.mb).1) :
    (paramAction bd e w val).1 =
      regStToMbResult (MbServer.vcRegWriteSysHolding bd e w 39 val).1 := by
  unfold paramAction handleSysParamAction
  rw [if_neg hreset]
  dsimp only
  rw [hhalf]
  rfl

theorem reaches_running (hrun : e.adm.running) : reaches e = e.adm.admitted := by
  rw [reaches, hrun, Bool.true_and]

theorem load_clean_iff (hmb : Intact w.mb) (hstore : ∀ backend ∈ w.ctrl.storage, FailsClean backend)
    (hrun : e.adm.running) :
    ((paramAction bd e w paramActionLoad).1 ≠ .ok → (paramAction bd e w paramActionLoad).2 = w) ↔
      paramActionLeaves bd e w paramActionLoad = false := by
  have hanswer : e.outcomes.load.toBool → e.adm.admitted →
      ((paramAction bd e w paramActionLoad).1 ≠ .ok ↔
        (systemParamAction bd.k w.ctrl .load).1 ≠ .ok) := by
    intro hload hadmitted
    have hhalf : (adapterParamAction bd.mb e.outcomes paramActionLoad w.mb).1 :=
      (congrArg Prod.fst (adapterParamAction_load bd.mb e.outcomes hmb)).trans hload
    rw [paramAction_answer (by decide) hhalf, writeParamAction, hrun, hadmitted]
    show regStToMbResult (vcStatusToReg (systemParamAction bd.k w.ctrl .load).1) ≠ .ok ↔ _
    cases (systemParamAction bd.k w.ctrl .load).1 <;> simp [vcStatusToReg, regStToMbResult]
  constructor
  · intro h
    refine decide_eq_false fun hleaves => ?_
    obtain ⟨-, hload, hadmitted, hany⟩ := hleaves.resolve_left (by rintro ⟨hval, -⟩; cases hval)
    obtain ⟨cfg, hcfg, hmode⟩ := (Option.any_eq_true _ _).mp hany
    obtain ⟨hrefuses, hne⟩ := of_decide_eq_true hmode
    have hrejected := (hanswer hload hadmitted).mpr ((load_refused hcfg).mpr hrefuses)
    have hquiet := (rejected_load hmb hstore hrejected).mp (h hrejected)
    exact hne (hquiet ((toBool_iff _).mp hload) ((reaches_running hrun).trans hadmitted) cfg hcfg)
  · intro h hrejected
    refine (rejected_load hmb hstore hrejected).mpr fun hload hreaches cfg hcfg => ?_
    have hload := (toBool_iff _).mpr hload
    have hadmitted : e.adm.admitted := (reaches_running hrun).symm.trans hreaches
    have hrefuses := (load_refused hcfg).mp ((hanswer hload hadmitted).mp hrejected)
    refine Decidable.not_not.mp fun hne => of_decide_eq_false h (.inr ⟨rfl, hload, hadmitted, ?_⟩)
    exact (Option.any_eq_true _ _).mpr ⟨cfg, hcfg, decide_eq_true ⟨hrefuses, hne⟩⟩

theorem factory_clean_iff (hmb : Intact w.mb) (hrun : e.adm.running) :
    ((paramAction bd e w paramActionFactoryReset).1 ≠ .ok →
      (paramAction bd e w paramActionFactoryReset).2 = w) ↔
      paramActionLeaves bd e w paramActionFactoryReset = false := by
  constructor
  · intro h
    refine decide_eq_false fun hleaves => ?_
    obtain ⟨-, hsave, hadmitted, hne⟩ := hleaves.resolve_right (by rintro ⟨hval, -⟩; cases hval)
    have hrejected : (paramAction bd e w paramActionFactoryReset).1 ≠ .ok := by
      have hhalf : (adapterParamAction bd.mb e.outcomes paramActionFactoryReset w.mb).1 := by
        rw [adapterParamAction_factory, if_pos hsave]
      rw [paramAction_answer (by decide) hhalf, writeParamAction, hrun, hadmitted]
      exact nofun
    have hquiet := (rejected_factory hmb hrejected).mp (h hrejected)
    exact hne (hquiet ((toBool_iff _).mp hsave) ((reaches_running hrun).trans hadmitted))
  · intro h hrejected
    refine (rejected_factory hmb hrejected).mpr fun hsave hreaches => ?_
    refine Decidable.not_not.mp fun hne => of_decide_eq_false h (.inl ⟨rfl, ?_, ?_, hne⟩)
    · exact (toBool_iff _).mpr hsave
    · exact (reaches_running hrun).symm.trans hreaches

theorem paramAction_clean_iff (hmb : Intact w.mb)
    (hstore : ∀ backend ∈ w.ctrl.storage, FailsClean backend) (hrun : e.adm.running)
    (val : UInt16) :
    ((paramAction bd e w val).1 ≠ .ok → Same (paramAction bd e w val).2 w) ↔
      paramActionLeaves bd e w val = false := by
  rw [paramAction_same hrun]
  by_cases hload : val = paramActionLoad
  · subst hload
    exact load_clean_iff hmb hstore hrun
  by_cases hfactory : val = paramActionFactoryReset
  · subst hfactory
    exact factory_clean_iff hmb hrun
  · refine iff_of_true (fun h => rejected_other hload hfactory hstore h) ?_
    simp [paramActionLeaves, hload, hfactory]

end ParamAction

/-! ## One write -/

section Write

variable {bd : Board} {e : Env} {w : World σ}

/-- A write is accepted, or leaves the board as it was. -/
def Clean (bd : Board) (e : Env) (w : World σ) (addr val : UInt16) : Prop :=
  (holdingWr bd e w addr val).1 ≠ .ok → Same (holdingWr bd e w addr val).2 w

theorem mbAnswer_ok_iff (r : RegStatus × World σ) : (mbAnswer r).1 = .ok ↔ r.1 = .ok := by
  obtain ⟨st, w⟩ := r
  cases st <;> simp [mbAnswer, regStToMbResult]

theorem clean_of_answer {addr val : UInt16} {r : RegStatus × World σ}
    (h : holdingWr bd e w addr val = mbAnswer r) :
    Clean bd e w addr val ↔ (r.1 ≠ .ok → Same r.2 w) := by
  unfold Clean
  rw [h]
  exact imp_congr_left (not_congr (mbAnswer_ok_iff r))

/-- A write that the board passes on to the controller. -/
theorem clean_of_serve {addr val : UInt16} {request : Request σ}
    (h : holdingWr bd e w addr val = mbAnswer (serveBoard bd e w request)) :
    Clean bd e w addr val ↔ ((serve bd.k e.adm w.ctrl request).1 ≠ .ok →
      (serve bd.k e.adm w.ctrl request).2 = w.ctrl) := by
  rw [clean_of_answer h]
  exact imp_congr_right fun _ => and_iff_left rfl

/-- A write to a channel. -/
theorem clean_of_served {addr val : UInt16} {r : RegStatus × Controller σ} {latch : WordLatch}
    (h : holdingWr bd e w addr val = mbAnswer (w.served r latch)) :
    Clean bd e w addr val ↔ (r.1 ≠ .ok → r.2 = w.ctrl) := by
  rw [clean_of_answer h]
  exact imp_congr_right fun _ => and_iff_left rfl

theorem serve_rejected {k : Kconfig} {adm : Admission} {ctrl : Controller σ} {request : Request σ}
    (hcall : ∀ op, request = .submit op → adm.admitted → (op.call k ctrl).1 ≠ .ok →
      (op.call k ctrl).2 = ctrl)
    (h : (serve k adm ctrl request).1 ≠ .ok) : (serve k adm ctrl request).2 = ctrl := by
  cases request with
  | answer st => rfl
  | submit op =>
    unfold serve submitCommand at h ⊢
    dsimp only at h ⊢
    cases hadmitted : adm.admitted with
    | false => rfl
    | true =>
      simp only [hadmitted, Bool.not_true, Bool.false_eq_true, if_false] at h ⊢
      refine hcall op rfl hadmitted ?_
      intro hok
      rw [hok] at h
      exact h rfl

theorem nextBoot_rejected {s : MbState} (o : Outcomes) (field : UInt16) {val : UInt16}
    (h : errnoToRegStatus (adapterWriteNextBootField o field val s).1 ≠ .ok) :
    (adapterWriteNextBootField o field val s).2 = s := by
  unfold adapterWriteNextBootField at h ⊢
  split
  · rfl
  next hcreated =>
    rw [if_neg hcreated] at h
    cases hfield : nextBootCandidate field val s.adapter.bootCfg with
    | none => rfl
    | some candidate =>
      simp only [hfield] at h ⊢
      split
      · rfl
      next hvalid =>
        rw [if_neg hvalid] at h
        rcases save_cases o candidate s with ⟨e, hsave⟩ | hsave
        · simp only [hsave]
        · simp only [hsave] at h
          exact absurd rfl h

/-- The writes of the system block. -/
theorem sys_clean_iff (hmb : Intact w.mb) (hstore : ∀ backend ∈ w.ctrl.storage, KeepsStore backend)
    (hrun : e.adm.running) {addr val : UInt16} {off : Nat} (hext : isExtension addr = false)
    (haddr : addrDecode addr = some (.sys off)) :
    Clean bd e w addr val ↔ leavesTrace bd e w addr val = false := by
  unfold leavesTrace
  rw [hext, if_neg nofun, haddr]
  have hwrite : off ≠ 39 → holdingWr bd e w addr val =
      mbAnswer (MbServer.vcRegWriteSysHolding bd e w off val) := by
    intro hne
    unfold holdingWr
    rw [hext, haddr, if_neg nofun]
    exact if_neg hne
  by_cases h39 : off = 39
  · subst h39
    have haction : holdingWr bd e w addr val = paramAction bd e w val := by
      unfold holdingWr
      rw [hext, haddr]
      rfl
    unfold Clean
    rw [haction]
    exact paramAction_clean_iff hmb (fun b hb => (hstore b hb).toFailsClean) hrun val
  have hcases : off = 0 ∨ off = 1 ∨ off = 2 ∨ off = 3 ∨ 4 ≤ off := by omega
  rcases hcases with rfl | rfl | rfl | rfl | hlow
  · have hmode : MbServer.vcRegWriteSysHolding bd e w 0 val =
        serveBoard bd e w (globalRequest .operatingMode val) :=
      ownerWrite_running hrun .operatingMode val
    rw [clean_of_serve ((hwrite h39).trans (congrArg mbAnswer hmode))]
    exact iff_of_true ((serve_clean_iff _).mpr fun _ => refused_setOperatingMode) rfl
  · have hpolicy : MbServer.vcRegWriteSysHolding bd e w 1 val =
        serveBoard bd e w (globalRequest .startupChannelPolicy val) :=
      ownerWrite_running hrun .startupChannelPolicy val
    rw [clean_of_serve ((hwrite h39).trans (congrArg mbAnswer hpolicy))]
    refine (serve_clean_iff _).trans ((imp_congr_right fun _ => policy_clean_iff val).trans ?_)
    simp
  · rw [clean_of_answer (hwrite h39)]
    exact iff_of_true (fun h => ⟨rfl, nextBoot_rejected e.outcomes _ h⟩) rfl
  · rw [clean_of_answer (hwrite h39)]
    exact iff_of_true (fun h => ⟨rfl, nextBoot_rejected e.outcomes _ h⟩) rfl
  · have hreserved : MbServer.vcRegWriteSysHolding bd e w off val = (.invalidValue, w) := by
      unfold MbServer.vcRegWriteSysHolding
      rw [if_neg (Nat.not_le.mpr (off_lt haddr)), sysHoldingView_reserved hlow h39]
      rfl
    rw [clean_of_answer ((hwrite h39).trans (congrArg mbAnswer hreserved))]
    refine iff_of_true (fun _ => ⟨rfl, rfl⟩) ?_
    split
    · simp_all
    · simp_all
    · simp_all
    · rfl

/-- The writes of the extension block. -/
theorem ext_clean_iff (hstore : ∀ backend ∈ w.ctrl.storage, KeepsStore backend)
    (hrun : e.adm.running) {addr val : UInt16} (hext : isExtension addr) :
    Clean bd e w addr val ↔ leavesTrace bd e w addr val = false := by
  have hlow : 680 ≤ addr.toNat := (of_decide_eq_true hext).1
  have hwrite : holdingWr bd e w addr val =
      mbAnswer (MbServer.vcRegWriteExt bd e w (addr.toNat - 680) val) := by
    unfold holdingWr
    rw [hext, if_pos rfl]
  unfold leavesTrace
  rw [hext, if_pos rfl]
  by_cases hunlock : addr = 680
  · subst hunlock
    have hserve : MbServer.vcRegWriteExt bd e w 0 val =
        serveBoard bd e w (globalRequest .calUnlock val) :=
      regWrite_running bd w hrun .calUnlock nofun val
    rw [clean_of_serve (hwrite.trans (congrArg mbAnswer hserve))]
    refine (serve_clean_iff _).trans ((imp_congr_right fun _ => unlock_clean_iff val).trans ?_)
    simp
  have hzero : addr.toNat - 680 ≠ 0 := by
    intro hzero
    exact hunlock (UInt16.toNat_inj.mp (Nat.le_antisymm (Nat.le_of_sub_eq_zero hzero) hlow))
  refine iff_of_true ?_ (by simp [hunlock])
  by_cases hexit : addr.toNat - 680 = 1
  · have hserve : MbServer.vcRegWriteExt bd e w (addr.toNat - 680) val =
        serveBoard bd e w (globalRequest .calExit val) := by
      rw [hexit]
      exact regWrite_running bd w hrun .calExit nofun val
    rw [clean_of_serve (hwrite.trans (congrArg mbAnswer hserve))]
    refine serve_rejected fun op hop _ hst => ?_
    unfold globalRequest at hop
    dsimp only at hop
    split at hop
    · cases hop
    · cases hop
      exact refused_registered hstore .exit nofun hst
  · have hreserved : MbServer.vcRegWriteExt bd e w (addr.toNat - 680) val = (.unsupported, w) := by
      unfold MbServer.vcRegWriteExt
      rw [if_neg hzero, if_neg hexit]
    rw [clean_of_answer (hwrite.trans (congrArg mbAnswer hreserved))]
    exact fun _ => ⟨rfl, rfl⟩

theorem chHoldingReg_commit {off : Nat} (h : chHoldingReg off = some .calCommitCmd) : off = 33 := by
  unfold chHoldingReg at h
  split at h <;> first | rfl | cases h

theorem holdingWritten_rejected (hstore : ∀ backend ∈ w.ctrl.storage, KeepsStore backend)
    {ch : UInt8} {off : Nat} {val : UInt16}
    (hcommit : off = 33 → val = 1 → e.adm.admitted → ch < bd.vc.maxChannels →
      holdingGuard (capsOf w.ctrl.channels[ch.toNat]?) off →
      commitLeaves bd.k w.ctrl ch.toNat = false)
    (h : (holdingWritten bd e w.ctrl ch off val).1 ≠ .ok) :
    (holdingWritten bd e w.ctrl ch off val).2 = w.ctrl := by
  unfold holdingWritten at h ⊢
  split
  · rfl
  next hgate =>
    rw [if_neg hgate] at h
    cases hreg : chHoldingReg off with
    | none => rfl
    | some reg =>
      rw [hreg] at h
      dsimp only at h ⊢
      unfold registerWritten at h ⊢
      cases hc : w.ctrl.channels[ch.toNat]? with
      | none => rfl
      | some c =>
        rw [hc] at h
        dsimp only at h ⊢
        split
        · rfl
        next hcatalog =>
          rw [if_neg hcatalog] at h
          refine serve_rejected (fun op hrequest hadmitted hst => ?_) h
          obtain ⟨hop, hcommitOp⟩ := channelRequest_registered hrequest
          refine refused_registered hstore hop (fun j hj => ?_) hst
          obtain ⟨rfl, rfl, rfl⟩ := hcommitOp j hj
          obtain ⟨hch, hrest⟩ := not_or.mp hgate
          obtain ⟨hsupported, -⟩ := not_or.mp hrest
          have hguard : holdingGuard (capsOf (some c)) off := by
            rw [← holdingGuard_iff hreg]
            simpa [hc, capsOf] using And.intro hsupported hcatalog
          exact hcommit (chHoldingReg_commit hreg) rfl hadmitted (UInt8.not_le.mp hch)
            (hc.symm ▸ hguard)

theorem channel_of_guard {ctrl : Controller σ} {i : Nat}
    (h : holdingGuard (capsOf ctrl.channels[i]?) 33) : ∃ c, ctrl.channels[i]? = some c := by
  cases hc : ctrl.channels[i]? with
  | none =>
    rw [hc] at h
    exact absurd h (by decide)
  | some c => exact ⟨c, rfl⟩

/-- The writes to the channels. -/
theorem channel_clean_iff (hstore : ∀ backend ∈ w.ctrl.storage, KeepsStore backend)
    (hrun : e.adm.running) {addr val : UInt16} {ch : UInt8} {off : Nat}
    (haddr : addrDecode addr = some (.channel ch off)) :
    Clean bd e w addr val ↔ leavesTrace bd e w addr val = false := by
  obtain ⟨latch, hwrite⟩ := holdingWr_channel bd w hrun haddr val
  rw [clean_of_served hwrite]
  unfold leavesTrace
  rw [isExtension_of_channel haddr, if_neg nofun, haddr]
  by_cases h33 : off = 33
  · subst h33
    refine Iff.trans ?_ decide_eq_false_iff_not.symm
    constructor
    · rintro h ⟨rfl, hadmitted, hch, hguard, hleaves⟩
      obtain ⟨c, hc⟩ := channel_of_guard hguard
      have hpasses : commitPasses w.ctrl ch.toNat := by
        simp only [commitLeaves, Bool.and_eq_true] at hleaves
        exact hleaves.1.1
      have hmode : w.ctrl.operatingMode = .calibration := (of_decide_eq_true hpasses).1
      rw [holdingWritten_present rfl hch hc (by rwa [hc] at hguard) fun _ => hmode] at h
      have hclean := (serve_clean_iff (.channelCalCommit ch.toNat)).mp h hadmitted
      exact Bool.eq_false_iff.mp ((commit_clean_iff hstore ch.toNat).mp hclean) hleaves
    · intro hnot
      refine holdingWritten_rejected hstore fun _ hval hadmitted hch hguard => ?_
      exact Bool.eq_false_iff.mpr fun hleaves => hnot ⟨hval, hadmitted, hch, hguard, hleaves⟩
  · refine iff_of_true (holdingWritten_rejected hstore fun hoff => absurd hoff h33) ?_
    split
    · simp_all
    · simp_all
    · simp_all
    · rfl

/-- Every rejected write but these leaves the board as it was. -/
theorem clean_iff (hmb : Intact w.mb) (hstore : ∀ backend ∈ w.ctrl.storage, KeepsStore backend)
    (hrun : e.adm.running) (addr val : UInt16) :
    Clean bd e w addr val ↔ leavesTrace bd e w addr val = false := by
  cases hext : isExtension addr with
  | true => exact ext_clean_iff hstore hrun hext
  | false =>
    cases haddr : addrDecode addr with
    | none =>
      have hwrite : holdingWr bd e w addr val = (.illegalAddress, w) := by
        unfold holdingWr
        rw [hext, haddr]
        rfl
      refine iff_of_true ?_ ?_
      · unfold Clean
        rw [hwrite]
        exact fun _ => ⟨rfl, rfl⟩
      · unfold leavesTrace
        rw [hext, haddr]
        rfl
    | some place =>
      cases place with
      | sys off => exact sys_clean_iff hmb hstore hrun hext haddr
      | channel ch off => exact channel_clean_iff hstore hrun haddr

end Write

/-! ## Conformance -/

/-- What the map promises of a read of `addr` and of a write of `val` to it. -/
structure Follows (bd : Board) (e : Env) (w : World σ) (addr val : UInt16) : Prop where
  input_reserved : reservedInput bd.vc.toBuild addr → (inputRd bd e w addr).1 = .ok 0
  input_absent : absentInput bd.vc.toBuild w.ctrl addr →
    (inputRd bd e w addr).1 = .error .illegalAddress
  holding_reserved : reservedHolding bd.vc.toBuild addr → (holdingRd bd e w addr).1 = .ok 0
  holding_absent : absentHolding bd.vc.toBuild w.ctrl addr →
    (holdingRd bd e w addr).1 = .error .illegalAddress
  write_reserved : reservedHolding bd.vc.toBuild addr →
    (holdingWr bd e w addr val).1 = .illegalAddress
  write_absent : absentHolding bd.vc.toBuild w.ctrl addr →
    (holdingWr bd e w addr val).1 = .illegalAddress
  write_value : absentHolding bd.vc.toBuild w.ctrl addr = false → badValue bd w.ctrl addr val →
    (holdingWr bd e w addr val).1 = .illegalValue
  write_rejected : (holdingWr bd e w addr val).1 ≠ .ok → Same (holdingWr bd e w addr val).2 w

/-- A bad value for a register that is there, and that does not refuse it as a value: a session
register outside a session, or a value that is not checked. -/
def badTaken (bd : Board) (e : Env) (w : World σ) (addr val : UInt16) : Bool :=
  absentHolding bd.vc.toBuild w.ctrl addr = false ∧ badValue bd w.ctrl addr val ∧
    (sessionRegister addr ∧ w.ctrl.operatingMode ≠ .calibration ∨
      e.adm.admitted ∧ takesValue w.ctrl addr val)

/-- The requests that break the map. -/
def deviates (bd : Board) (e : Env) (w : World σ) (addr val : UInt16) : Bool :=
  reservedHolding bd.vc.toBuild addr && !isExtension addr || badTaken bd e w addr val ||
    leavesTrace bd e w addr val

/-- Every mode that the controller comes to is a known one. -/
theorem mode_exec (k : Kconfig) (nodes : List Node) (store : σ) (ops : List (ControllerOp σ)) :
    isKnownMode
      (exec (ControllerOp.step k) (VcController.init k nodes store) ops).operatingMode := by
  refine exec_invariant (I := fun ctrl : Controller σ => isKnownMode ctrl.operatingMode)
    (Q := fun _ _ => True) (fun ctrl op h _ => ?_) ?_ (along_of_forall (by simp) _)
  · rw [operatingMode_step]
    split
    · rfl
    · cases hmove : op.movesTo ctrl with
      | none => exact h
      | some mode => rcases movesTo_known hmove with rfl | rfl | rfl <;> rfl
  · rfl

theorem eq_calibration {mode : OperatingMode} (hknown : isKnownMode mode)
    (h : mode.toValue = calibrationMode) : mode = .calibration := by
  cases mode with
  | calibration => rfl
  | normal => cases h
  | automatic => cases h
  | other value => cases hknown

section Answers

variable {bd : Board} {e : Env} {w : World σ} {addr val : UInt16}

/-- A reserved register is refused as an address in the extension block only. -/
theorem write_reserved_iff (hrun : e.adm.running) :
    (reservedHolding bd.vc.toBuild addr → (holdingWr bd e w addr val).1 = .illegalAddress) ↔
      ¬ (reservedHolding bd.vc.toBuild addr && !isExtension addr) := by
  cases hreserved : reservedHolding bd.vc.toBuild addr with
  | false => simp
  | true =>
    rw [holdingWr_reserved hrun hreserved val]
    cases isExtension addr <;> simp

/-- A bad value is refused as a value, unless the register is not there for the request or takes
the value. -/
theorem write_value_iff (hrun : e.adm.running) (hcreated : w.mb.created)
    (hknown : isKnownMode w.ctrl.operatingMode) :
    (absentHolding bd.vc.toBuild w.ctrl addr = false → badValue bd w.ctrl addr val →
      (holdingWr bd e w addr val).1 = .illegalValue) ↔ ¬ badTaken bd e w addr val := by
  constructor
  · intro h htaken
    obtain ⟨hpresent, hbad, hcases⟩ := of_decide_eq_true htaken
    have hanswer := h hpresent hbad
    rcases hcases with ⟨hsession, hmode⟩ | ⟨hadmitted, htakes⟩
    · have haddress : (holdingWr bd e w addr val).1 = .illegalAddress :=
        holdingWr_session hrun (fun hcal => hmode (eq_calibration hknown hcal)) hsession val
      exact nomatch haddress.symm.trans hanswer
    · exact holdingWr_takesValue hrun hadmitted hpresent htakes hbad hanswer
  · intro hnot hpresent hbad
    refine holdingWr_badValue hrun hcreated hpresent (fun hsession => ?_) (fun hadmitted => ?_) hbad
    · exact Decidable.not_not.mp fun hmode =>
        hnot (decide_eq_true ⟨hpresent, hbad, .inl ⟨hsession, hmode⟩⟩)
    · exact Bool.eq_false_iff.mpr fun htakes =>
        hnot (decide_eq_true ⟨hpresent, hbad, .inr ⟨hadmitted, htakes⟩⟩)

end Answers

/-- With the catalog up, in every state of the board, a request follows the map exactly if it is
none of those that break it. -/
theorem map_follows_iff (bd : Board) (nodes : List Node) (store : σ) (ops : List (ControllerOp σ))
    (o : Outcomes) (s : MbState) (hcreate : (vcMbAdapterCreate bd.mb o s).1) (mbOps : List MbOp)
    (latch : WordLatch) (e : Env) (hrun : e.adm.running) :
    let w : World σ := ⟨exec (ControllerOp.step bd.k) (VcController.init bd.k nodes store) ops,
      exec (MbOp.step bd.mb) (vcMbAdapterCreate bd.mb o s).2 mbOps, latch⟩
    (∀ backend ∈ w.ctrl.storage, KeepsStore backend) → ∀ addr val : UInt16,
      Follows bd e w addr val ↔ ¬ deviates bd e w addr val := by
  intro w hstore addr val
  have hmb : Intact w.mb := intact_exec bd.mb (intact_create hcreate) mbOps
  have hknown : isKnownMode w.ctrl.operatingMode := mode_exec bd.k nodes store ops
  have hreserved : (reservedHolding bd.vc.toBuild addr →
      (holdingWr bd e w addr val).1 = .illegalAddress) ↔ _ := write_reserved_iff hrun
  unfold deviates
  rw [Bool.or_eq_true, Bool.or_eq_true, not_or, not_or, ← hreserved,
    ← write_value_iff hrun hmb.created hknown, Bool.not_eq_true, ← clean_iff hmb hstore hrun]
  constructor
  · intro h
    exact ⟨⟨h.write_reserved, h.write_value⟩, h.write_rejected⟩
  · rintro ⟨⟨hreserved, hvalue⟩, hclean⟩
    exact {
      input_reserved := inputRd_reserved hrun
      input_absent := inputRd_absent hrun
      holding_reserved := holdingRd_reserved hrun
      holding_absent := holdingRd_absent hrun
      write_reserved := hreserved
      write_absent := fun h => holdingWr_absent hrun h val
      write_value := hvalue
      write_rejected := hclean }

theorem keepsStore_settings : KeepsStore VcRuntime.vcSettingsStorage where
  toFailsClean := failsClean_settings
  loadChannel load h i cfg store := by
    obtain rfl := Option.some.inj h
    rfl
  saveChannel save h i cfg store hneg := by
    obtain rfl := Option.some.inj h
    exact absurd hneg (Int.lt_irrefl 0)
  saveCal save h i cal store hneg := by
    obtain rfl := Option.some.inj h
    exact absurd hneg (Int.lt_irrefl 0)

def storedOps : List (ControllerOp VcRuntime.Settings) :=
  [.setStorageBackend (some VcRuntime.vcSettingsStorage)]

theorem keepsStore_stored :
    ∀ backend ∈ (exec (ControllerOp.step boardHvb.k) (VcController.init boardHvb.k [dacNode] .empty)
      storedOps).storage, KeepsStore backend := by
  rintro backend ⟨rfl⟩
  exact keepsStore_settings

/-- A target that is out of range, on a board that keeps its records in the settings. -/
theorem map_follows_example :
    Follows boardHvb (envWith true)
      ⟨exec (ControllerOp.step boardHvb.k) (VcController.init boardHvb.k [dacNode] .empty)
          storedOps,
        exec (MbOp.step boardHvb.mb) (vcMbAdapterCreate boardHvb.mb .fine unconfigured).2 [],
        .initial⟩ 43 40000 :=
  (map_follows_iff boardHvb [dacNode] .empty storedOps .fine unconfigured (by decide) [] .initial
    (envWith true) rfl keepsStore_stored 43 40000).mpr (by decide +kernel)

/-- A write to a reserved register of the system block is refused as a value. -/
theorem reserved_notAddress :
    ¬ ∀ (ops : List (ControllerOp Unit)) (addr val : UInt16),
      Follows boardHvb (envWith true)
        ⟨exec (ControllerOp.step .hvb) (VcController.init .hvb [dacNode] ()) ops,
          (vcMbAdapterCreate boardHvb.mb .fine unconfigured).2, .initial⟩ addr val := by
  intro h
  exact absurd ((h [] 4 1).write_reserved (by decide +kernel)) (by decide +kernel)

end MapConformance
