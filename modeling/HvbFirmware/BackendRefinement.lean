import HvbFirmware.StoredMode

/-!
# Controllers over two backends

A controller touches its store through its backend alone. So where one backend answers as another
one does, over stores in a relation that the calls keep, the controllers cannot be told apart: every
operation and every power cycle answers the same and leaves them alike.
-/
namespace BackendRefinement

open VcTypes VcChannel VcController StoredMode Runs

variable {σ τ : Type}

/-! ## One controller over another store -/

def onto (ctrl : Controller σ) (storage : Option (StorageBackend τ)) (store : τ) :
    Controller τ where
  channels := ctrl.channels
  operatingMode := ctrl.operatingMode
  preCalMode := ctrl.preCalMode
  calWatchdogMs := ctrl.calWatchdogMs
  calUnlockStep := ctrl.calUnlockStep
  calUnlocked := ctrl.calUnlocked
  storage := storage
  sysCfg := ctrl.sysCfg
  store := store

/-- An answer and the controller, over another store. -/
def carry (r : VcStatus × Controller σ) (storage : Option (StorageBackend τ)) (store : τ) :
    VcStatus × Controller τ :=
  (r.1, onto r.2 storage store)

section Silent

variable (k : Kconfig) (ctrl : Controller σ) (storage : Option (StorageBackend τ)) (store : τ)

theorem over_ite (c : Prop) [Decidable c] (x y : Controller σ) :
    onto (if c then x else y) storage store =
      if c then onto x storage store else onto y storage store :=
  apply_ite (onto · storage store) c x y

theorem carry_ite (c : Prop) [Decidable c] (x y : VcStatus × Controller σ) :
    carry (if c then x else y) storage store =
      if c then carry x storage store else carry y storage store :=
  apply_ite (carry · storage store) c x y

theorem onChannel_over (i : Nat) (call : Channel → VcStatus × Channel) :
    onChannel (onto ctrl storage store) i call = carry (onChannel ctrl i call) storage store := by
  unfold onChannel
  cases h : ctrl.channels[i]? <;> simp only [onto, h] <;> rfl

theorem transition_over (mode : OperatingMode) :
    transition k (onto ctrl storage store) mode =
      onto (transition k ctrl mode) storage store := by
  unfold transition
  rw [over_ite]
  rfl

theorem setOperatingMode_over (mode : OperatingMode) :
    setOperatingMode k (onto ctrl storage store) mode =
      carry (setOperatingMode k ctrl mode) storage store := by
  unfold setOperatingMode
  rw [transition_over]
  simp only [carry_ite]
  simp only [carry, over_ite]
  rfl

theorem calibrationUnlock_over (value : UInt16) :
    calibrationUnlock (onto ctrl storage store) value =
      carry (calibrationUnlock ctrl value) storage store := by
  unfold calibrationUnlock
  simp only [carry_ite]
  rfl

theorem calExit_over :
    calExit k (onto ctrl storage store) = carry (calExit k ctrl) storage store := by
  unfold calExit
  rw [carry_ite, setOperatingMode_over]
  rfl

theorem calHeartbeat_over :
    calHeartbeat k (onto ctrl storage store) = onto (calHeartbeat k ctrl) storage store := by
  unfold calHeartbeat
  rw [over_ite]
  rfl

theorem setSystemConfig_over (cfg : SystemConfig) :
    setSystemConfig k (onto ctrl storage store) cfg =
      carry (setSystemConfig k ctrl cfg) storage store := by
  unfold setSystemConfig
  dsimp only
  rw [carry_ite, ← setOperatingMode_over]
  rfl

theorem setSystemField_over (field : ConfigField) (value : UInt16) :
    setSystemField k (onto ctrl storage store) field value =
      carry (setSystemField k ctrl field value) storage store := by
  unfold setSystemField
  split
  · exact setOperatingMode_over k ctrl storage store _
  · exact setSystemConfig_over k ctrl storage store _
  · rfl

theorem tick_over (dtMs : UInt32) :
    tick k (onto ctrl storage store) dtMs = onto (tick k ctrl dtMs) storage store := by
  unfold tick
  rw [calExit_over]
  simp only [over_ite]
  rfl

theorem inSession_over (i : Nat) (call : Channel → VcStatus × Channel) :
    inSession k (onto ctrl storage store) i call =
      carry (inSession k ctrl i call) storage store := by
  have hcall : sessionCall (onto ctrl storage store) call = sessionCall ctrl call := rfl
  unfold inSession
  rw [hcall, onChannel_over, carry_ite]
  rfl

/-- The operations that leave the backend alone. -/
def isSilent : ControllerOp σ → Bool
  | .setStorageBackend _ | .systemParamAction _ | .channelParamAction _ _ | .channelCalCommit _ =>
    false
  | _ => true

/-- The same operation on a controller with the other backend. -/
def opOver (backend : StorageBackend τ) : ControllerOp σ → ControllerOp τ
  | .setOperatingMode mode => .setOperatingMode mode
  | .calibrationUnlock value => .calibrationUnlock value
  | .calExit => .calExit
  | .calHeartbeat => .calHeartbeat
  | .setSystemConfig cfg => .setSystemConfig cfg
  | .setSystemField field value => .setSystemField field value
  | .tick dtMs => .tick dtMs
  | .channelSetField i field value => .channelSetField i field value
  | .channelOutputAction i action => .channelOutputAction i action
  | .channelFaultCommand i cmd => .channelFaultCommand i cmd
  | .channelSetCalField i field value => .channelSetCalField i field value
  | .setStorageBackend given => .setStorageBackend (given.map fun _ => backend)
  | .systemParamAction action => .systemParamAction action
  | .channelParamAction i action => .channelParamAction i action
  | .channelCalOutputEnable i enable => .channelCalOutputEnable i enable
  | .channelCalRawDac i code => .channelCalRawDac i code
  | .channelCalSample i => .channelCalSample i
  | .channelCalCommit i => .channelCalCommit i
  | .publishVoltage i raw timestampMs => .publishVoltage i raw timestampMs
  | .publishCurrent i raw timestampMs => .publishCurrent i raw timestampMs
  | .consumeFault i cause => .consumeFault i cause

/-- An operation that leaves the backend alone does not see it. -/
theorem call_over (backend : StorageBackend τ) {op : ControllerOp σ} (h : isSilent op) :
    (opOver backend op).call k (onto ctrl storage store) =
      carry (op.call k ctrl) storage store := by
  cases op with
  | setStorageBackend | systemParamAction | channelParamAction | channelCalCommit =>
    exact absurd h Bool.false_ne_true
  | setOperatingMode mode => exact setOperatingMode_over k ctrl storage store mode
  | calibrationUnlock value => exact calibrationUnlock_over ctrl storage store value
  | calExit => exact calExit_over k ctrl storage store
  | calHeartbeat => exact congrArg (Prod.mk _) (calHeartbeat_over k ctrl storage store)
  | setSystemConfig cfg => exact setSystemConfig_over k ctrl storage store cfg
  | setSystemField field value => exact setSystemField_over k ctrl storage store field value
  | tick dtMs => exact congrArg (Prod.mk _) (tick_over k ctrl storage store dtMs)
  | channelSetCalField i field value => exact inSession_over k ctrl storage store i _
  | channelCalOutputEnable i enable => exact inSession_over k ctrl storage store i _
  | channelCalRawDac i code => exact inSession_over k ctrl storage store i _
  | channelCalSample i => exact inSession_over k ctrl storage store i _
  | channelSetField i | channelOutputAction i | channelFaultCommand i | publishVoltage i
  | publishCurrent i | consumeFault i => exact onChannel_over ctrl storage store i _

end Silent

/-! ## Backends that answer alike -/

def Saved (R : σ → τ → Prop) (x : Int × σ) (y : Int × τ) : Prop := x.1 = y.1 ∧ R x.2 y.2

def Loaded {α : Type} (R : σ → τ → Prop) (x : Int × α × σ) (y : Int × α × τ) : Prop :=
  x.1 = y.1 ∧ x.2.1 = y.2.1 ∧ R x.2.2 y.2.2

/-- Entry for entry both backends have a function or neither has, and the functions answer alike
for the channels below `n`. -/
structure Refines (R : σ → τ → Prop) (n : Nat) (A : StorageBackend σ) (B : StorageBackend τ) :
    Prop where
  saveSystemConfig : Option.Rel (fun f g => ∀ cfg s t, R s t → Saved R (f cfg s) (g cfg t))
    A.saveSystemConfig B.saveSystemConfig
  loadSystemConfig : Option.Rel (fun f g => ∀ s t, R s t → Loaded R (f s) (g t))
    A.loadSystemConfig B.loadSystemConfig
  saveChannelConfig : Option.Rel (fun f g => ∀ i < n, ∀ cfg s t, R s t →
    Saved R (f i cfg s) (g i cfg t)) A.saveChannelConfig B.saveChannelConfig
  loadChannelConfig : Option.Rel (fun f g => ∀ i < n, ∀ buffer s t, R s t →
    Loaded R (f i buffer s) (g i buffer t)) A.loadChannelConfig B.loadChannelConfig
  saveChannelCal : Option.Rel (fun f g => ∀ i < n, ∀ cal s t, R s t →
    Saved R (f i cal s) (g i cal t)) A.saveChannelCal B.saveChannelCal
  loadChannelCal : Option.Rel (fun f g => ∀ i < n, ∀ buffer s t, R s t →
    Loaded R (f i buffer s) (g i buffer t)) A.loadChannelCal B.loadChannelCal
  eraseAll : Option.Rel (fun f g => ∀ s t, R s t → R (f s).2 (g t).2) A.eraseAll B.eraseAll

variable {R : σ → τ → Prop} {n : Nat} {A : StorageBackend σ} {B : StorageBackend τ}

/-- Both controllers have their backend, or neither has one. -/
def Plugged (A : StorageBackend σ) (B : StorageBackend τ) (a : Option (StorageBackend σ))
    (b : Option (StorageBackend τ)) : Prop :=
  (a = none ∧ b = none) ∨ (a = some A ∧ b = some B)

/-- The controllers differ in their stores alone, and these are related. -/
structure Related (R : σ → τ → Prop) (n : Nat) (A : StorageBackend σ) (B : StorageBackend τ)
    (ctrl : Controller σ) (ctrl' : Controller τ) : Prop where
  same : onto ctrl ctrl'.storage ctrl'.store = ctrl'
  channels : ctrl.channels.length ≤ n
  storage : Plugged A B ctrl.storage ctrl'.storage
  store : R ctrl.store ctrl'.store

/-- The same answer, and controllers alike. -/
def Alike (R : σ → τ → Prop) (n : Nat) (A : StorageBackend σ) (B : StorageBackend τ)
    (x : VcStatus × Controller σ) (y : VcStatus × Controller τ) : Prop :=
  x.1 = y.1 ∧ Related R n A B x.2 y.2

theorem Plugged.entry {α β : Type} {φ : StorageBackend σ → Option α}
    {ψ : StorageBackend τ → Option β} {r : α → β → Prop} {a : Option (StorageBackend σ)}
    {b : Option (StorageBackend τ)} (h : Plugged A B a b) (hentry : Option.Rel r (φ A) (ψ B)) :
    Option.Rel r (a.bind φ) (b.bind ψ) := by
  rcases h with ⟨rfl, rfl⟩ | ⟨rfl, rfl⟩
  · exact .none
  · exact hentry

section Related

variable {ctrl : Controller σ} {ctrl' : Controller τ}

theorem Related.withStore (h : Related R n A B ctrl ctrl') {Q : σ → τ → Prop} {s : σ} {t : τ}
    (hst : Q s t) : Related Q n A B { ctrl with store := s } { ctrl' with store := t } where
  same := by
    rw [← h.same]
    rfl
  channels := h.channels
  storage := h.storage
  store := hst

theorem Related.withChannel (h : Related R n A B ctrl ctrl') (i : Nat) (ch : Channel) :
    Related R n A B { ctrl with channels := ctrl.channels.set i ch }
      { ctrl' with channels := ctrl'.channels.set i ch } where
  same := by
    rw [← h.same]
    rfl
  channels := by
    rw [List.length_set]
    exact h.channels
  storage := h.storage
  store := h.store

/-- A controller whose backend, if it has one, is another one. -/
def rewire (backend : StorageBackend σ) (ctrl : Controller σ) : Controller σ :=
  { ctrl with storage := ctrl.storage.map fun _ => backend }

theorem Related.rewire (h : Related R n A B ctrl ctrl') (A' : StorageBackend σ)
    (B' : StorageBackend τ) :
    Related R n A' B' (rewire A' ctrl) (rewire B' ctrl') where
  same := by
    rw [← h.same]
    rfl
  channels := h.channels
  storage := by
    rcases h.storage with ⟨hself, hother⟩ | ⟨hself, hother⟩
    · exact .inl ⟨by simp [BackendRefinement.rewire, hself],
        by simp [BackendRefinement.rewire, hother]⟩
    · exact .inr ⟨by simp [BackendRefinement.rewire, hself],
        by simp [BackendRefinement.rewire, hother]⟩
  store := h.store

theorem Related.exists_over (h : Related R n A B ctrl ctrl') :
    ∃ storage store, ctrl' = onto ctrl storage store := ⟨_, _, h.same.symm⟩

theorem length_call (k : Kconfig) (ctrl : Controller σ) (op : ControllerOp σ) :
    (op.call k ctrl).2.channels.length ≤ ctrl.channels.length := by
  have hnone : ctrl.channels[ctrl.channels.length]? = none := List.getElem?_eq_none (Nat.le_refl _)
  have hstep := getElem?_step k ctrl op ctrl.channels.length
  rw [hnone] at hstep
  exact List.getElem?_eq_none_iff.mp hstep

theorem opOver_self (backend : StorageBackend σ) {op : ControllerOp σ} (h : isSilent op) :
    opOver backend op = op := by
  cases op <;> first | rfl | exact absurd h Bool.false_ne_true

theorem opOver_opOver {ρ : Type} (A : StorageBackend σ) (B : StorageBackend τ)
    (op : ControllerOp ρ) : opOver B (opOver A op) = opOver B op := by
  cases op with
  | setStorageBackend given => cases given <;> rfl
  | _ => rfl

theorem length_inSession (k : Kconfig) (ctrl : Controller σ) (i : Nat)
    (call : Channel → VcStatus × Channel) :
    (inSession k ctrl i call).2.channels.length = ctrl.channels.length := by
  have hon : ∀ call, (onChannel ctrl i call).2.channels.length = ctrl.channels.length := by
    intro call
    unfold onChannel
    split
    · rfl
    · exact List.length_set
  unfold inSession
  dsimp only
  split <;> exact hon _

/-- A result that neither controller's backend had a part in. -/
theorem Related.alike (h : Related R n A B ctrl ctrl') {r : VcStatus × Controller σ}
    {r' : VcStatus × Controller τ} (hself : r = carry r ctrl.storage ctrl.store)
    (hother : r' = carry r ctrl'.storage ctrl'.store)
    (hlength : r.2.channels.length ≤ ctrl.channels.length) : Alike R n A B r r' := by
  have hstorage : r.2.storage = ctrl.storage := congrArg (fun r => r.2.storage) hself
  have hstore : r.2.store = ctrl.store := congrArg (fun r => r.2.store) hself
  rw [hother]
  refine ⟨rfl, rfl, Nat.le_trans hlength h.channels, ?_, ?_⟩
  · exact hstorage ▸ h.storage
  · exact hstore ▸ h.store

/-- An operation that leaves the backend alone keeps the controllers alike. -/
theorem Related.silent (k : Kconfig) (h : Related R n A B ctrl ctrl') {op : ControllerOp σ}
    (hop : isSilent op) : Alike R n A B (op.call k ctrl) ((opOver B op).call k ctrl') := by
  have hself := call_over k ctrl ctrl.storage ctrl.store A hop
  rw [opOver_self A hop] at hself
  have hother := call_over k ctrl ctrl'.storage ctrl'.store B hop
  rw [h.same] at hother
  exact h.alike hself hother (length_call k ctrl op)

theorem Related.setSystemConfig (k : Kconfig) (h : Related R n A B ctrl ctrl')
    (cfg : SystemConfig) : Alike R n A B (setSystemConfig k ctrl cfg)
      (setSystemConfig k ctrl' cfg) :=
  h.silent k (show isSilent (.setSystemConfig cfg) from rfl)

variable (hAB : Refines R n A B)

include hAB

theorem Related.systemParamAction (k : Kconfig) (h : Related R n A B ctrl ctrl')
    (action : ParamAction) : Alike R n A B (systemParamAction k ctrl action)
      (systemParamAction k ctrl' action) := by
  obtain ⟨storage, store, rfl⟩ := h.exists_over
  cases action with
  | none => exact ⟨rfl, h⟩
  | save =>
    have hentry := h.storage.entry hAB.saveSystemConfig
    unfold VcController.systemParamAction
    generalize ctrl.storage.bind (·.saveSystemConfig) = f at hentry
    generalize (onto ctrl storage store).storage.bind (·.saveSystemConfig) = g at hentry
    cases hentry with
    | none => exact ⟨rfl, h⟩
    | some hfg =>
      obtain ⟨hret, hst⟩ := hfg ctrl.sysCfg ctrl.store store h.store
      exact ⟨congrArg (fun ret => if ret < 0 then _ else _) hret, h.withStore hst⟩
  | load =>
    have hentry := h.storage.entry hAB.loadSystemConfig
    unfold VcController.systemParamAction
    generalize ctrl.storage.bind (·.loadSystemConfig) = f at hentry
    generalize (onto ctrl storage store).storage.bind (·.loadSystemConfig) = g at hentry
    cases hentry with
    | none => exact ⟨rfl, h⟩
    | @some load load' hfg =>
      obtain ⟨hret, hcfg, hst⟩ := hfg ctrl.store store h.store
      have hread := h.withStore hst
      dsimp only
      rw [show (load' (onto ctrl storage store).store).1 = _ from hret.symm,
        show (load' (onto ctrl storage store).store).2.1 = _ from hcfg.symm]
      split
      · exact ⟨rfl, hread⟩
      split
      · exact ⟨rfl, hread⟩
      · exact hread.setSystemConfig k _
  | factoryReset =>
    have hentry := h.storage.entry hAB.eraseAll
    unfold VcController.systemParamAction
    generalize ctrl.storage.bind (·.eraseAll) = f at hentry
    generalize (onto ctrl storage store).storage.bind (·.eraseAll) = g at hentry
    cases hentry with
    | none => exact ⟨rfl, rfl, h.channels, h.storage, h.store⟩
    | some hfg => exact ⟨rfl, rfl, h.channels, h.storage, hfg _ _ h.store⟩
  | other value => exact ⟨rfl, h⟩

theorem Related.putBack (h : Related R n A B ctrl ctrl') {i : Nat} (hi : i < n)
    (s : VcStatus × Channel) : Alike R n A B (putBack ctrl i s) (putBack ctrl' i s) := by
  obtain ⟨storage, store, rfl⟩ := h.exists_over
  have hentry := h.storage.entry hAB.loadChannelCal
  unfold VcController.putBack
  generalize ctrl.storage.bind (·.loadChannelCal) = f at hentry
  generalize (onto ctrl storage store).storage.bind (·.loadChannelCal) = g at hentry
  split
  · exact ⟨rfl, h⟩
  cases hentry with
  | none => exact ⟨rfl, h.withChannel i s.2⟩
  | @some load load' hfg =>
    obtain ⟨hret, hcal, hst⟩ := hfg i hi s.2.calConfig ctrl.store store h.store
    dsimp only
    rw [show (load' i s.2.calConfig (onto ctrl storage store).store).1 = _ from hret.symm,
      show (load' i s.2.calConfig (onto ctrl storage store).store).2.1 = _ from hcal.symm]
    exact ⟨rfl, (h.withStore hst).withChannel i _⟩

theorem Related.channelParamAction (k : Kconfig) (h : Related R n A B ctrl ctrl') (i : Nat)
    (action : ParamAction) : Alike R n A B (channelParamAction k ctrl i action)
      (channelParamAction k ctrl' i action) := by
  obtain ⟨storage, store, rfl⟩ := h.exists_over
  unfold VcController.channelParamAction
  rw [show (onto ctrl storage store).channels = ctrl.channels from rfl]
  cases hch : ctrl.channels[i]? with
  | none => exact ⟨rfl, h⟩
  | some ch =>
    have hi : i < n := Nat.lt_of_lt_of_le (List.getElem?_eq_some_iff.mp hch).1 h.channels
    cases action with
    | none => exact ⟨rfl, h⟩
    | save =>
      have hentry := h.storage.entry hAB.saveChannelConfig
      generalize ctrl.storage.bind (·.saveChannelConfig) = f at hentry
      generalize (onto ctrl storage store).storage.bind (·.saveChannelConfig) = g at hentry
      cases hentry with
      | none => exact ⟨rfl, h⟩
      | some hfg =>
        obtain ⟨hret, hst⟩ := hfg i hi ch.config ctrl.store store h.store
        exact ⟨congrArg (fun ret => if ret < 0 then _ else _) hret, h.withStore hst⟩
    | load =>
      have hentry := h.storage.entry hAB.loadChannelConfig
      generalize ctrl.storage.bind (·.loadChannelConfig) = f at hentry
      generalize (onto ctrl storage store).storage.bind (·.loadChannelConfig) = g at hentry
      cases hentry with
      | none => exact ⟨rfl, h⟩
      | @some load load' hfg =>
        obtain ⟨hret, hcfg, hst⟩ := hfg i hi ch.config ctrl.store store h.store
        have hread := h.withStore hst
        dsimp only
        rw [show (load' i ch.config (onto ctrl storage store).store).1 = _ from hret.symm,
          show (load' i ch.config (onto ctrl storage store).store).2.1 = _ from hcfg.symm]
        split
        · exact ⟨rfl, hread⟩
        · exact hread.putBack hAB hi _
    | factoryReset => exact h.putBack hAB hi _
    | other value => exact ⟨rfl, h⟩

theorem Related.channelCalCommit (k : Kconfig) (h : Related R n A B ctrl ctrl') (i : Nat) :
    Alike R n A B (channelCalCommit k ctrl i) (channelCalCommit k ctrl' i) := by
  have hsession : Alike R n A B (inSession k ctrl i fun ch => (calCommit ch, ch))
      (inSession k ctrl' i fun ch => (calCommit ch, ch)) := by
    have hother := inSession_over k ctrl ctrl'.storage ctrl'.store i fun ch => (calCommit ch, ch)
    rw [h.same] at hother
    exact h.alike (inSession_over k ctrl ctrl.storage ctrl.store i _) hother
      (Nat.le_of_eq (length_inSession k ctrl i _))
  obtain ⟨storage, store, rfl⟩ := h.exists_over
  have hentry := h.storage.entry hAB.saveChannelCal
  unfold VcController.channelCalCommit
  generalize ctrl.storage.bind (·.saveChannelCal) = f at hentry
  generalize (onto ctrl storage store).storage.bind (·.saveChannelCal) = g at hentry
  generalize inSession k ctrl i _ = r at hsession ⊢
  generalize inSession k (onto ctrl storage store) i _ = r' at hsession ⊢
  rw [show (onto ctrl storage store).channels = ctrl.channels from rfl]
  dsimp only
  rw [← hsession.1]
  split
  · exact hsession
  cases hentry with
  | none => exact hsession
  | some hfg =>
    cases hch : ctrl.channels[i]? with
    | none => exact hsession
    | some ch =>
      have hi : i < n := Nat.lt_of_lt_of_le (List.getElem?_eq_some_iff.mp hch).1 h.channels
      obtain ⟨hret, hst⟩ := hfg i hi ch.calConfig ctrl.store store h.store
      exact ⟨congrArg (fun ret => if ret < 0 then _ else _) hret, hsession.2.withStore hst⟩

/-- One operation on both controllers. -/
theorem Related.call (k : Kconfig) (h : Related R n A B ctrl ctrl') (op : ControllerOp σ)
    (hop : ∀ backend, op = .setStorageBackend (some backend) → backend = A) :
    Alike R n A B (op.call k ctrl) ((opOver B op).call k ctrl') := by
  by_cases hsilent : isSilent op
  · exact h.silent k hsilent
  cases op with
  | setStorageBackend given =>
    obtain ⟨storage, store, rfl⟩ := h.exists_over
    cases given with
    | none => exact ⟨rfl, rfl, h.channels, .inl ⟨rfl, rfl⟩, h.store⟩
    | some backend =>
      obtain rfl := hop backend rfl
      exact ⟨rfl, rfl, h.channels, .inr ⟨rfl, rfl⟩, h.store⟩
  | systemParamAction action => exact h.systemParamAction hAB k action
  | channelParamAction i action => exact h.channelParamAction hAB k i action
  | channelCalCommit i => exact h.channelCalCommit hAB k i
  | _ => exact absurd rfl hsilent

/-! ## Power cycles -/

/-- A boot over both backends. -/
theorem related_boot (k : Kconfig) {nodes : List Node} (hnodes : nodes.length ≤ n) {s : σ} {t : τ}
    (hst : R s t) : Related R n A B (autoLoad k A (VcController.init k nodes s))
      (autoLoad k B (VcController.init k nodes t)) := by
  have hrecord : bootRecord A s = bootRecord B t ∧ R (bootStore A s) (bootStore B t) := by
    have hentry := hAB.loadSystemConfig
    unfold bootRecord bootStore
    generalize A.loadSystemConfig = f at hentry
    generalize B.loadSystemConfig = g at hentry
    cases hentry with
    | none => exact ⟨rfl, hst⟩
    | @some load load' hfg =>
      obtain ⟨hret, hcfg, hst'⟩ := hfg s t hst
      dsimp only
      rw [hret, hcfg]
      exact ⟨rfl, hst'⟩
  have hloads : ∀ (action : ParamAction) (is : List Nat) (ctrl : Controller σ)
      (ctrl' : Controller τ), Related R n A B ctrl ctrl' →
      Related R n A B (is.foldl (fun ctrl i => (channelParamAction k ctrl i action).2) ctrl)
        (is.foldl (fun ctrl i => (channelParamAction k ctrl i action).2) ctrl') := by
    intro action is
    induction is with
    | nil => exact fun _ _ h => h
    | cons i is ih =>
      exact fun _ _ h => ih _ _ (h.channelParamAction hAB k i action).2
  have hfresh : Related R n A B
      { setStorageBackend (VcController.init k nodes s) (some A) with store := bootStore A s }
      { setStorageBackend (VcController.init k nodes t) (some B) with store := bootStore B t } :=
    ⟨rfl, Nat.le_trans (Nat.le_of_eq (List.length_map _)) hnodes, .inr ⟨rfl, rfl⟩, hrecord.2⟩
  have hstored : (bootRecord A s).getD (defaultSystemConfig k) =
      (bootRecord B t).getD (defaultSystemConfig k) := by rw [hrecord.1]
  unfold autoLoad
  dsimp only
  rw [show (bootRecord A (VcController.init k nodes s).store).getD
    (VcController.init k nodes s).sysCfg = _ from hstored]
  exact ((hloads _ _ _ _ hfresh).setSystemConfig k _).2

end Related

end BackendRefinement
