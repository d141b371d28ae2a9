import HvbFirmware.Atomicity
import HvbFirmware.CommConfig
import HvbFirmware.MbServer
import HvbFirmware.VcRuntime

/-!
# A rejected system Param Action

One write of the register drives the adapter and then the controller. It should leave both as they
were when it is rejected. Two rejections do not: a FACTORY_RESET has written the communication
defaults when the command is not taken, and a LOAD has stored a record when its mode is refused.
-/
namespace ParamActions

open VcTypes VcController VcRuntime MbAdapter VcCatalog MbServer CommConfig Atomicity Runs
open RegCatalog ModbusRegister

variable {σ : Type}

def sysParamAction : UInt16 := 39

/-- A storage call that fails, and any load, leaves the store. -/
structure FailsClean (backend : StorageBackend σ) : Prop where
  load : ∀ load ∈ backend.loadSystemConfig, ∀ store, (load store).2.2 = store
  save : ∀ save ∈ backend.saveSystemConfig, ∀ cfg store,
    (save cfg store).1 < 0 → (save cfg store).2 = store

theorem failsClean_settings : FailsClean vcSettingsStorage where
  load load h store := by
    obtain rfl := Option.some.inj h
    rfl
  save save h cfg store hneg := by
    obtain rfl := Option.some.inj h
    exact absurd hneg (Int.lt_irrefl 0)

/-! ## The controller's half -/

theorem store_systemParamAction {k : Kconfig} {ctrl : Controller σ} {action : ParamAction}
    (hstore : ∀ backend ∈ ctrl.storage, FailsClean backend)
    (h : (systemParamAction k ctrl action).1 ≠ .ok) :
    (systemParamAction k ctrl action).2.store = ctrl.store := by
  cases action with
  | none => rfl
  | factoryReset => exact absurd rfl h
  | other value => rfl
  | save =>
    unfold systemParamAction at h ⊢
    cases hsave : ctrl.storage.bind (·.saveSystemConfig) with
    | none => rfl
    | some save =>
      simp only [hsave] at h ⊢
      obtain ⟨backend, hbackend, hsave⟩ := Option.bind_eq_some_iff.mp hsave
      refine (hstore backend hbackend).save save hsave _ _ ?_
      exact Decidable.not_not.mp fun hnot => h (if_neg hnot)
  | load =>
    unfold systemParamAction at h ⊢
    cases hload : ctrl.storage.bind (·.loadSystemConfig) with
    | none => rfl
    | some load =>
      simp only [hload] at h ⊢
      obtain ⟨backend, hbackend, hload⟩ := Option.bind_eq_some_iff.mp hload
      have hclean := (hstore backend hbackend).load load hload ctrl.store
      split
      · exact hclean
      split
      · exact hclean
      next hent hneg =>
        rw [if_neg hent, if_neg hneg] at h
        rw [refused_setSystemConfig h]
        exact hclean

/-- The record that a refused action leaves behind is that of a LOAD. -/
theorem refused_paramAction {k : Kconfig} {ctrl : Controller σ} {action : ParamAction}
    (hstore : ∀ backend ∈ ctrl.storage, FailsClean backend)
    (h : (systemParamAction k ctrl action).1 ≠ .ok) :
    (systemParamAction k ctrl action).2 = { ctrl with
      sysCfg := (((ControllerOp.systemParamAction (σ := σ) action).record ctrl).map
        (storedConfig ctrl)).getD ctrl.sysCfg } := by
  have hrest := refused_systemParamAction h
  have hsame := store_systemParamAction hstore h
  calc (systemParamAction k ctrl action).2
      = withStore (systemParamAction k ctrl action).2 ctrl.store := by rw [← hsame]; rfl
    _ = remainder k ctrl (.systemParamAction action) := hrest
    _ = _ := rfl

/-- The write of the register reaches the controller if the catalog is up and takes the command. -/
theorem writeParamAction (bd : Board) (e : Env) (w : World σ) (val : UInt16) :
    vcRegWriteSysHolding bd e w 39 val =
      if !e.adm.running then (.busy, w)
      else if !e.adm.admitted then (.invalidValue, w)
      else
        let r := systemParamAction bd.k w.ctrl (.ofValue val)
        (vcStatusToReg r.1, { w with ctrl := r.2 }) := by
  have hwrite : vcRegWriteSysHolding bd e w 39 val =
      ownerWrite bd e w GlobalReg.paramAction.descriptor val := rfl
  rw [hwrite, ownerWrite_global]
  cases e.adm.running with
  | false => rfl
  | true =>
    unfold serveBoard globalRequest serve submitCommand
    cases e.adm.admitted <;> rfl

/-! ## Both halves -/

/-- The command of the register reaches the controller. -/
def reaches (e : Env) : Bool := e.adm.running && e.adm.admitted

/-- A rejected action leaves nothing behind: a FACTORY_RESET whose command is not taken finds the
communication defaults already, and a LOAD hands over the stored record. -/
def LeavesNothing (bd : Board) (e : Env) (w : World σ) (val : UInt16) : Prop :=
  (val = paramActionFactoryReset → e.outcomes.save = .ok () → reaches e = false →
    w.mb.adapter.bootCfg = adapterDefaultConfig bd.mb) ∧
  (val = paramActionLoad → e.outcomes.load = .ok () → reaches e →
    ∀ cfg ∈ (ControllerOp.systemParamAction (σ := σ) .load).record w.ctrl,
      storedConfig w.ctrl cfg = w.ctrl.sysCfg)

theorem vcStatusToReg_ne_ok {st : VcStatus} (h : regStToMbResult (vcStatusToReg st) ≠ .ok) :
    st ≠ .ok := by
  rintro rfl
  exact h rfl

theorem holdingWr_sysParamAction (bd : Board) (e : Env) (w : World σ) (val : UInt16) :
    holdingWr bd e w sysParamAction val = paramAction bd e w val := rfl

/-- What the controller's half leaves when the write is rejected. -/
theorem rejected_write {bd : Board} {e : Env} {w : World σ} {val : UInt16}
    (hstore : ∀ backend ∈ w.ctrl.storage, FailsClean backend)
    (h : regStToMbResult (vcRegWriteSysHolding bd e w 39 val).1 ≠ .ok) :
    (vcRegWriteSysHolding bd e w 39 val).2 =
      if reaches e then
        { w with ctrl := { w.ctrl with
          sysCfg := (((ControllerOp.systemParamAction (σ := σ) (.ofValue val)).record w.ctrl).map
            (storedConfig w.ctrl)).getD w.ctrl.sysCfg } }
      else w := by
  rw [writeParamAction] at h ⊢
  unfold reaches
  cases hrunning : e.adm.running with
  | false => rfl
  | true =>
    cases hadmitted : e.adm.admitted with
    | false => rfl
    | true =>
      simp only [hrunning, hadmitted] at h
      exact congrArg (fun ctrl => { w with ctrl := ctrl })
        (refused_paramAction hstore (vcStatusToReg_ne_ok h))

/-- A write that does not reach the controller leaves everything. -/
theorem unreached_write {bd : Board} {e : Env} {w : World σ} {val : UInt16}
    (h : reaches e = false) : (vcRegWriteSysHolding bd e w 39 val).2 = w := by
  rw [writeParamAction]
  unfold reaches at h
  cases hrunning : e.adm.running with
  | false => rfl
  | true =>
    rw [hrunning, Bool.true_and] at h
    simp [h]

/-- A reset that does is carried out. -/
theorem reached_reset {bd : Board} {e : Env} {w : World σ} (h : reaches e) :
    (vcRegWriteSysHolding bd e w 39 paramActionFactoryReset).1 = .ok := by
  obtain ⟨hrunning, hadmitted⟩ : e.adm.running ∧ e.adm.admitted := by
    simpa [reaches] using h
  rw [writeParamAction, hrunning, hadmitted]
  rfl

/-- Only a LOAD has a record to hand over. -/
theorem record_systemParamAction {ctrl : Controller σ} {action : ParamAction}
    (h : action ≠ .load) : (ControllerOp.systemParamAction (σ := σ) action).record ctrl = none := by
  cases action <;> first | rfl | exact absurd rfl h

theorem withSysCfg_eq_iff (w : World σ) (cfg : SystemConfig) :
    { w with ctrl := { w.ctrl with sysCfg := cfg } } = w ↔ cfg = w.ctrl.sysCfg := by
  constructor
  · intro h
    exact congrArg (fun w => w.ctrl.sysCfg) h
  · rintro rfl
    rfl

theorem withMb_eq_iff (w : World σ) (mb : MbState) : { w with mb := mb } = w ↔ mb = w.mb := by
  constructor
  · intro h
    exact congrArg World.mb h
  · rintro rfl
    rfl

theorem getD_map_eq {α β : Type} {f : α → β} {a : Option α} {b : β} :
    (a.map f).getD b = b ↔ ∀ x ∈ a, f x = b := by
  cases a <;> simp

/-! ## The adapter's half -/

theorem toBool_iff (r : Ret) : r.toBool ↔ r = .ok () := by
  cases r <;> simp [Except.toBool]

theorem adapterParamAction_load {s : MbState} (b : MbBuild) (o : Outcomes) (h : Intact s) :
    adapterParamAction b o paramActionLoad s = (o.load.toBool, s) := by
  have hboot : ¬ !adapterConfigValid s.adapter.bootCfg := by rw [h.boot]; decide
  have hload : adapterLoadConfig o s = o.load.map fun _ => s.adapter.bootCfg := by
    unfold adapterLoadConfig
    rw [h.stored]
    cases o.load <;> rfl
  unfold adapterParamAction
  rw [if_pos rfl, hload]
  cases o.load with
  | error e => rfl
  | ok => exact if_neg hboot

theorem adapterParamAction_factory (b : MbBuild) (o : Outcomes) (s : MbState) :
    adapterParamAction b o paramActionFactoryReset s =
      if o.save.toBool then
        (true, { s with
          stored := some (adapterDefaultConfig b), adapter.bootCfg := adapterDefaultConfig b })
      else (false, s) := by
  unfold adapterParamAction adapterSaveConfig
  rw [if_neg (by decide), if_pos rfl]
  cases o.save <;> rfl

theorem adapterParamAction_other {b : MbBuild} {o : Outcomes} {s : MbState} {val : UInt16}
    (hload : val ≠ paramActionLoad) (hfactory : val ≠ paramActionFactoryReset) :
    adapterParamAction b o val s = (true, s) := by
  unfold adapterParamAction
  rw [if_neg hload, if_neg hfactory]

/-- The defaults are there already, exactly if the configuration of the next boot is they. -/
theorem defaults_eq_iff {b : MbBuild} {s : MbState} (h : Intact s) :
    { s with stored := some (adapterDefaultConfig b), adapter.bootCfg := adapterDefaultConfig b }
      = s ↔ s.adapter.bootCfg = adapterDefaultConfig b := by
  obtain ⟨⟨active, boot⟩, created, ready, server, stored⟩ := s
  obtain rfl : stored = some boot := h.stored
  simp [eq_comm]

/-! ## One rejected write -/

section Rejected

variable {bd : Board} {e : Env} {w : World σ}

theorem rejected_load (hmb : Intact w.mb)
    (hstore : ∀ backend ∈ w.ctrl.storage, FailsClean backend)
    (h : (paramAction bd e w paramActionLoad).1 ≠ .ok) :
    (paramAction bd e w paramActionLoad).2 = w ↔
      (e.outcomes.load = .ok () → reaches e →
        ∀ cfg ∈ (ControllerOp.systemParamAction (σ := σ) .load).record w.ctrl,
          storedConfig w.ctrl cfg = w.ctrl.sysCfg) := by
  unfold paramAction handleSysParamAction at h ⊢
  rw [if_neg (by decide), adapterParamAction_load bd.mb e.outcomes hmb] at h ⊢
  rw [← toBool_iff]
  cases hload : e.outcomes.load.toBool with
  | false => simp
  | true =>
    simp only [hload, Bool.not_true, Bool.false_eq_true, if_false] at h ⊢
    rw [rejected_write hstore h]
    cases reaches e with
    | false => simp
    | true =>
      simp only [if_true, forall_const, ← getD_map_eq]
      exact withSysCfg_eq_iff w _

theorem rejected_factory (hmb : Intact w.mb)
    (h : (paramAction bd e w paramActionFactoryReset).1 ≠ .ok) :
    (paramAction bd e w paramActionFactoryReset).2 = w ↔
      (e.outcomes.save = .ok () → reaches e = false →
        w.mb.adapter.bootCfg = adapterDefaultConfig bd.mb) := by
  unfold paramAction handleSysParamAction at h ⊢
  rw [if_neg (by decide), adapterParamAction_factory] at h ⊢
  rw [← toBool_iff]
  cases hsave : e.outcomes.save.toBool with
  | false => simp
  | true =>
    simp only [hsave, if_true, Bool.not_true, Bool.false_eq_true, if_false] at h ⊢
    cases hreach : reaches e with
    | false =>
      simp only [unreached_write hreach, forall_const]
      exact (withMb_eq_iff w _).trans (defaults_eq_iff hmb)
    | true => exact absurd (congrArg regStToMbResult (reached_reset hreach)) h

theorem rejected_other {val : UInt16} (hload : val ≠ paramActionLoad)
    (hfactory : val ≠ paramActionFactoryReset)
    (hstore : ∀ backend ∈ w.ctrl.storage, FailsClean backend)
    (h : (paramAction bd e w val).1 ≠ .ok) : (paramAction bd e w val).2 = w := by
  have haction : ParamAction.ofValue val ≠ .load := by
    unfold ParamAction.ofValue
    grind [paramActionLoad]
  unfold paramAction handleSysParamAction at h ⊢
  split
  · rfl
  next hreset =>
    rw [if_neg hreset, adapterParamAction_other hload hfactory] at h
    simp only [adapterParamAction_other hload hfactory] at h ⊢
    show { (MbServer.vcRegWriteSysHolding bd e w 39 val).2 with mb := w.mb } = w
    rw [rejected_write hstore h, record_systemParamAction haction]
    split <;> rfl

theorem rejected_paramAction {val : UInt16} (hmb : Intact w.mb)
    (hstore : ∀ backend ∈ w.ctrl.storage, FailsClean backend)
    (h : (paramAction bd e w val).1 ≠ .ok) :
    (paramAction bd e w val).2 = w ↔ LeavesNothing bd e w val := by
  unfold LeavesNothing
  by_cases hload : val = paramActionLoad
  · subst hload
    rw [rejected_load hmb hstore h]
    simp [paramActionLoad, paramActionFactoryReset]
  by_cases hfactory : val = paramActionFactoryReset
  · subst hfactory
    rw [rejected_factory hmb h]
    simp [paramActionLoad, paramActionFactoryReset]
  · simp [rejected_other hload hfactory hstore h, hload, hfactory]

end Rejected

/-- A rejected write of the register leaves the board as it was, exactly if it leaves nothing behind
in the sense above. The adapter is at any point of its life; the settings subsystem may fail
whenever it is called. -/
theorem rejected_unchanged (bd : Board) (e : Env) (ctrl : Controller σ) (latch : WordLatch)
    (hstore : ∀ backend ∈ ctrl.storage, FailsClean backend) (o : Outcomes) (s : MbState)
    (hcreate : (vcMbAdapterCreate bd.mb o s).1) (ops : List MbOp) (val : UInt16) :
    let w : World σ := ⟨ctrl, exec (MbOp.step bd.mb) (vcMbAdapterCreate bd.mb o s).2 ops, latch⟩
    (holdingWr bd e w sysParamAction val).1 ≠ .ok →
      ((holdingWr bd e w sysParamAction val).2 = w ↔ LeavesNothing bd e w val) := by
  intro w h
  have hmb : Intact w.mb := intact_exec bd.mb (intact_create hcreate) ops
  rw [holdingWr_sysParamAction] at h ⊢
  exact rejected_paramAction hmb hstore h

/-! A board that boots for the first time, for the runs below. -/

def hvbCtrl (ops : List (ControllerOp Settings)) : Controller Settings :=
  exec (ControllerOp.step .hvb) (boot .hvb [dacNode] .empty) ops

theorem failsClean_hvbCtrl : ∀ backend ∈ (hvbCtrl []).storage, FailsClean backend := by
  intro backend h
  obtain rfl := Option.some.inj h
  exact failsClean_settings

/-- A reset that finds the queue full, on a board with its defaults. -/
theorem rejected_unchanged_example :
    let w : World Settings := ⟨hvbCtrl [],
      exec (MbOp.step boardHvb.mb) (vcMbAdapterCreate boardHvb.mb .fine unconfigured).2 [],
      .initial⟩
    (holdingWr boardHvb (envWith false) w sysParamAction paramActionFactoryReset).2 = w :=
  (rejected_unchanged boardHvb (envWith false) (hvbCtrl []) .initial failsClean_hvbCtrl .fine
    unconfigured (by decide) [] paramActionFactoryReset (by decide +kernel)).mpr
    ⟨fun _ _ _ => by decide, nofun⟩

/-- A LOAD whose record asks for AUTOMATIC while a fault is active. -/
theorem rejected_changed :
    ¬ ∀ (ctrlOps : List (ControllerOp Settings)) (ops : List MbOp) (val : UInt16),
      let w : World Settings := ⟨hvbCtrl ctrlOps,
        exec (MbOp.step boardHvb.mb) (vcMbAdapterCreate boardHvb.mb .fine unconfigured).2 ops,
        .initial⟩
      (holdingWr boardHvb (envWith true) w sysParamAction val).1 ≠ .ok →
        (holdingWr boardHvb (envWith true) w sysParamAction val).2 = w := by
  intro h
  have hrun := h [.setOperatingMode .automatic, .systemParamAction .save,
    .setOperatingMode .normal, .consumeFault 0 faultHardware] [] paramActionLoad
    (by decide +kernel)
  have hstored := congrArg (fun w : World Settings => w.ctrl.sysCfg) hrun
  revert hstored
  decide +kernel

end ParamActions
