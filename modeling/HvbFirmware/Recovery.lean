import HvbFirmware.Calibration

/-!
# Automatic recovery and the operating mode

`tick_recovery` looks at the stored operating mode. The two parts show when the stored mode and
the live one come apart in NORMAL, and that a current fault which latched in NORMAL is cleared
by no recovery as long as they agree and no session is left for AUTOMATIC.
-/
namespace Recovery

open VcTypes VcChannel VcController Runs Calibration

variable {σ : Type}

/-! ## The stored and the live mode -/

/-- Whether AUTOMATIC may be stored while the live mode is NORMAL. A reset to an AUTOMATIC
default and a refused AUTOMATIC record bring this about, a transition ends it. -/
def splitAfter (k : Kconfig) (ctrl : Controller σ) (op : ControllerOp σ) (split : Bool) : Bool :=
  if op.isFactoryReset then k.defaultOperatingMode = .automatic
  else if (op.movesTo ctrl).isSome then false
  else
    match op.record ctrl with
    | none => split
    | some cfg =>
      if cfg.operatingMode = .calibration then split
      else cfg.operatingMode = .automatic ∧ ctrl.operatingMode = .normal

/-- The stored mode is AUTOMATIC in live NORMAL only while the two are split. -/
def Agrees (c : Control) (split : Bool) : Prop :=
  c.mode = .normal → c.sysCfg.operatingMode = .automatic → split

theorem agrees_of_movesTo (c : Control) (mode : OperatingMode) (split : Bool) :
    Agrees (c.enter mode) split := by
  unfold Agrees Control.enter
  split
  next hcal => simp [hcal]
  next => simp_all

theorem agrees_store {c : Control} {cfg : SystemConfig} {split : Bool} (h : Agrees c split) :
    Agrees (c.store cfg) (if cfg.operatingMode = .calibration then split
      else cfg.operatingMode = .automatic ∧ c.mode = .normal) := by
  intro hmode hstored
  have hmode : c.mode = .normal := hmode
  unfold Control.store at hstored
  by_cases hcal : cfg.operatingMode = .calibration
  · rw [if_pos hcal] at hstored ⊢
    exact h hmode hstored
  · rw [if_neg hcal] at hstored ⊢
    have hstored : cfg.operatingMode = .automatic := hstored
    simp [hstored, hmode]

theorem agrees_moved {k : Kconfig} {ctrl : Controller σ} {op : ControllerOp σ} {split : Bool}
    (h : Agrees (control ctrl) split) (hreset : op.isFactoryReset = false) :
    Agrees (((control ctrl).recorded (op.record ctrl)).moved (op.movesTo ctrl))
      (splitAfter k ctrl op split) := by
  unfold splitAfter
  rw [hreset]
  cases op.movesTo ctrl with
  | some mode => exact agrees_of_movesTo _ mode _
  | none =>
    cases op.record ctrl with
    | none => exact h
    | some cfg => exact agrees_store h

theorem agrees_step {k : Kconfig} {ctrl : Controller σ} {op : ControllerOp σ} {split : Bool}
    (h : Agrees (control ctrl) split) :
    Agrees (control (op.step k ctrl)) (splitAfter k ctrl op split) := by
  rw [control_step]
  cases op
  case calibrationUnlock value =>
    show Agrees ((control ctrl).unlock value) split
    unfold Control.unlock
    split
    · exact h
    · split <;> exact h
  case systemParamAction action =>
    cases action
    case factoryReset =>
      intro _ hstored
      have hstored : k.defaultOperatingMode = .automatic := hstored
      simp [splitAfter, ControllerOp.isFactoryReset, hstored]
    all_goals exact agrees_moved h rfl
  all_goals exact agrees_moved h rfl

/-! ## No recovery in NORMAL -/

/-- A `tick_recovery` that gets past its first checks. -/
def recovers (ch : Channel) : ChannelOp → Bool
  | .tickRecovery sysCfg _ => retryable ch sysCfg
  | _ => false

theorem tickRecovery_eq_self {k : Kconfig} {ch : Channel} {sysCfg : SystemConfig} {dtMs : UInt32}
    (h : retryable ch sysCfg = false) : tickRecovery k ch sysCfg dtMs = ch := by
  have hstep := tickRecovery_step k ch sysCfg dtMs
  generalize tickRecovery k ch sysCfg dtMs = ch' at hstep
  have hnot : ¬ retryable ch sysCfg := by simp [h]
  cases hstep with
  | idle => rfl
  | cooling hretry => exact absurd hretry hnot
  | exhausted hretry => exact absurd hretry hnot
  | retry hdue => exact absurd (of_decide_eq_true hdue).1 hnot

/-- What is asked of a `tick_recovery` in NORMAL. -/
def startsNoRecovery (k : Kconfig) (ch : Channel) : ChannelOp → Bool
  | .tickRecovery sysCfg dtMs =>
    let ch' := tickRecovery k ch sysCfg dtMs
    (ch'.smf = .retryCooldown → ch.smf = .retryCooldown) ∧
      (ch'.activeFaultCause = 0 → ch.activeFaultCause = 0) ∧
      (ch'.outputEnabled → ch.outputEnabled)
  | _ => true

theorem startsNoRecovery_of_not_recovers {k : Kconfig} {ch : Channel} {op : ChannelOp}
    (h : recovers ch op = false) : startsNoRecovery k ch op := by
  cases op with
  | tickRecovery sysCfg dtMs =>
    simp only [startsNoRecovery, tickRecovery_eq_self h]
    simp
  | _ => rfl

/-- An operation in live NORMAL with the stored mode split off finds no channel whose
`tick_recovery` would go on. -/
def QuietWhileSplit (k : Kconfig) (p : Controller σ × Bool) (op : ControllerOp σ) : Prop :=
  p.2 → p.1.operatingMode = .normal →
    EachCall k (fun ch op => recovers ch op = false) p.1 (op.channelOps k p.1)

instance (k : Kconfig) (p : Controller σ × Bool) (op : ControllerOp σ) :
    Decidable (QuietWhileSplit k p op) := inferInstanceAs (Decidable (_ → _ → _))

/-- An operation in live NORMAL, a tick included, starts no recovery on any channel. -/
def NoRecoveryInNormal (k : Kconfig) (ctrl : Controller σ) (op : ControllerOp σ) : Prop :=
  ctrl.operatingMode = .normal →
    EachCall k (fun ch op => startsNoRecovery k ch op) ctrl (op.channelOps k ctrl)

instance (k : Kconfig) (ctrl : Controller σ) (op : ControllerOp σ) :
    Decidable (NoRecoveryInNormal k ctrl op) := inferInstanceAs (Decidable (_ → _))

/-- With another mode stored no recovery goes on. -/
theorem not_recovers_of_stored {k : Kconfig} {ctrl : Controller σ} {op : ControllerOp σ}
    (hstored : ctrl.sysCfg.operatingMode ≠ .automatic) :
    EachCall k (fun ch op => recovers ch op = false) ctrl (op.channelOps k ctrl) := by
  intro p _
  have hcalls : ∀ c ∈ op.channelOps k ctrl p.2 p.1, ∀ ch, recovers ch c = false := by
    intro c hc ch
    cases c with
    | tickRecovery sysCfg dtMs =>
      obtain ⟨rfl, -⟩ := tickRecovery_mem hc
      simp [recovers, retryable, hstored]
    | _ => rfl
  exact along_of_forall hcalls p.1

theorem not_recovers_in_normal {k : Kconfig} {p : Controller σ × Bool} {op : ControllerOp σ}
    (h : Agrees (control p.1) p.2) (hquiet : QuietWhileSplit k p op)
    (hmode : p.1.operatingMode = .normal) :
    EachCall k (fun ch op => recovers ch op = false) p.1 (op.channelOps k p.1) := by
  by_cases hstored : p.1.sysCfg.operatingMode = .automatic
  · exact hquiet (h hmode hstored) hmode
  · exact not_recovers_of_stored hstored

theorem agrees_init (k : Kconfig) (nodes : List Node) (store : σ) :
    Agrees (control (VcController.init k nodes store))
      (decide (k.defaultOperatingMode = .automatic)) := by
  intro _ hstored
  have hstored : k.defaultOperatingMode = .automatic := hstored
  simp [hstored]

/-- In every run that finds no retryable channel in live NORMAL while the stored mode is split
off, no operation in NORMAL starts a recovery, whatever the storage returns. -/
theorem normal_startsNoRecovery (k : Kconfig) (nodes : List Node) (store : σ)
    (ops : List (ControllerOp σ))
    (hops : Along (watched (ControllerOp.step k) (splitAfter k)) (QuietWhileSplit k)
      (VcController.init k nodes store, decide (k.defaultOperatingMode = .automatic)) ops) :
    Along (ControllerOp.step k) (NoRecoveryInNormal k) (VcController.init k nodes store) ops := by
  have hinit := agrees_init k nodes store
  have hstep : ∀ (p : Controller σ × Bool) op, Agrees (control p.1) p.2 → QuietWhileSplit k p op →
      Agrees (control (op.step k p.1)) (splitAfter k p.1 op p.2) := fun _ _ h _ => agrees_step h
  have hnormal : ∀ (p : Controller σ × Bool) op, Agrees (control p.1) p.2 →
      QuietWhileSplit k p op → NoRecoveryInNormal k p.1 op := by
    intro p op h hquiet hmode q hq
    have hcalls := not_recovers_in_normal h hquiet hmode q hq
    exact Along.mono (fun _ _ => startsNoRecovery_of_not_recovers) hcalls
  have hrun := Along.of_invariant (I := fun p => Agrees (control p.1) p.2) hstep hnormal hinit hops
  exact along_watched.mp hrun

/-- A backend that keeps the system configuration and answers `-ENOENT` before the first SAVE. -/
def systemStorage : StorageBackend (Option SystemConfig) where
  saveSystemConfig := some fun cfg _ => (0, some cfg)
  loadSystemConfig := some fun saved =>
    match saved with
    | none => (errNoEnt, ⟨.normal, 0⟩, saved)
    | some cfg => (0, cfg, saved)
  saveChannelConfig := none
  loadChannelConfig := none
  saveChannelCal := none
  loadChannelCal := none
  eraseAll := none

/-- Operations in NORMAL after which channel 0, with the AUTO_RETRY policy, has a current fault
and no current. -/
def tripOps (σ : Type) : List (ControllerOp σ) :=
  [.channelSetField 0 .configuredTargetVoltage 300, .channelSetField 0 .recoveryPolicyMode 1,
    .channelSetField 0 .autoRetryMaxCount 3, .channelSetField 0 .currentProtectionMode 2,
    .channelSetField 0 .currentLimitThreshold 100, .channelOutputAction 0 .enable, .tick 5000,
    .publishCurrent 0 200000000 1, .tick 1000, .publishCurrent 0 0 2]

/-- A current fault in NORMAL, with AUTOMATIC stored and NORMAL stored again before. -/
theorem normal_startsNoRecovery_example :
    Along (ControllerOp.step Kconfig.hvb) (NoRecoveryInNormal Kconfig.hvb)
      (VcController.init Kconfig.hvb [dacNode] none)
      ([.setStorageBackend (some systemStorage), .setOperatingMode .automatic,
        .systemParamAction .save, .setOperatingMode .normal, .tick 1000] ++
        tripOps (Option SystemConfig) ++ [.tick 1000]) :=
  normal_startsNoRecovery Kconfig.hvb [dacNode] none _ (by decide +kernel)

/-- A LOAD of a saved AUTOMATIC record after the fault is refused, but stores the record, and
the next tick in NORMAL retries. -/
theorem normal_startsRecovery :
    ¬ ∀ ops : List (ControllerOp (Option SystemConfig)),
      Along (ControllerOp.step Kconfig.hvb) (NoRecoveryInNormal Kconfig.hvb)
        (VcController.init Kconfig.hvb [dacNode] none) ops := by
  intro h
  have hrun := h ([.setStorageBackend (some systemStorage), .setOperatingMode .automatic,
    .systemParamAction .save, .setOperatingMode .normal, .tick 1000] ++
    tripOps (Option SystemConfig) ++ [.systemParamAction .load, .tick 1000])
  revert hrun
  decide +kernel

/-! ## Faults of NORMAL -/

def hasCurrentFault (ch : Channel) : Bool := ch.activeFaultCause &&& faultCurrent != 0

def currentFault (d : Drive) : Bool := d.active &&& faultCurrent != 0

theorem currentFault_of_current {d : Drive} (h : d.active = faultCurrent) : currentFault d := by
  rw [currentFault, h]
  decide

theorem currentFault_of_exhausted {d : Drive}
    (h : d.active = faultCurrent ||| faultRetryExhaust) : currentFault d := by
  rw [currentFault, h]
  decide

theorem currentFault_finish (d : Drive) : currentFault d.finish = currentFault d := by
  simp [currentFault]

theorem currentFault_or {d d' : Drive} {cause : UInt16} (h : d'.active = d.active ||| cause)
    (hfault : currentFault d) : currentFault d' := by
  have hsplit : d'.active &&& faultCurrent =
      d.active &&& faultCurrent ||| cause &&& faultCurrent := by
    rw [h]
    exact UInt16.toBitVec_inj.mp BitVec.and_or_distrib_right
  simp only [currentFault, bne_iff_ne] at hfault ⊢
  rw [hsplit]
  exact fun hzero => hfault (UInt16.or_eq_zero_iff.mp hzero).1

/-- A CLEAR_ACTIVE that is carried out. -/
def clearsActive (ch : Channel) : ChannelOp → Bool
  | .faultCommand .clearActive => isSafeToClearActive ch
  | _ => false

/-- A call latches a current fault. -/
def latches (k : Kconfig) (ch : Channel) (op : ChannelOp) : Bool :=
  !hasCurrentFault ch && hasCurrentFault (op.step k ch)

/-- Whether a current fault that latched in NORMAL waits for its CLEAR_ACTIVE. -/
def waitingAfter (k : Kconfig) (normal : Bool) (ch : Channel) (op : ChannelOp)
    (waiting : Bool) : Bool :=
  if clearsActive ch op then false else waiting || normal && latches k ch op

/-- Only a CLEAR_ACTIVE that is carried out and a recovery remove a current fault. -/
theorem hasCurrentFault_step {k : Kconfig} {ch : Channel} {op : ChannelOp}
    (h : hasCurrentFault ch) (hclear : clearsActive ch op = false)
    (hrecovers : recovers ch op = false) : hasCurrentFault (op.step k ch) := by
  have heff := step_effect k ch op
  have h : currentFault (drive ch) := h
  show currentFault (drive (op.step k ch))
  generalize drive (op.step k ch) = d' at heff
  cases heff with
  | clearActive hactive hsafe => exact absurd (hsafe.symm.trans hclear) (by decide)
  | tripGraceful => exact currentFault_of_current rfl
  | tripCleared => exact currentFault_of_current rfl
  | tripOnly => exact currentFault_of_current rfl
  | exhausted => exact currentFault_of_exhausted rfl
  | retry sysCfg dtMs code hdue =>
    simp only [retryDue, decide_eq_true_eq] at hdue
    exact absurd (hdue.1.symm.trans hrecovers) (by decide)
  | fault => exact currentFault_or rfl h
  | hold => exact (currentFault_finish _).trans h
  | arrive => exact (currentFault_finish _).trans h
  | _ => exact h

/-- The calls of a transition latch nothing. -/
theorem hasCurrentFault_transition {k : Kconfig} {ch : Channel} {old new : OperatingMode}
    {ch₀ : Channel} {op : ChannelOp} (hop : op ∈ transitionOps old new ch₀) :
    hasCurrentFault (op.step k ch) = hasCurrentFault ch := by
  have heff := step_effect k ch op
  show currentFault (drive (op.step k ch)) = currentFault (drive ch)
  generalize drive (op.step k ch) = d' at heff
  rcases mem_transitionOps hop with ⟨entering, rfl⟩ | ⟨rfl, -⟩ | ⟨rfl, -⟩
  all_goals
    cases heff with
    | tripGraceful op code htrip => cases htrip
    | tripCleared op code smf htrip => cases htrip
    | tripOnly op code htrip => cases htrip
    | _ => rfl

section Waiting

variable {k : Kconfig} {ch : Channel} {ops : List ChannelOp} {normal waiting : Bool}

/-- Without a recovery a waiting fault stays active. -/
theorem waiting_exec (h : waiting → hasCurrentFault ch)
    (hops : Along (ChannelOp.step k) (fun ch op => recovers ch op = false) ch ops) :
    let p := exec (watched (ChannelOp.step k) (waitingAfter k normal)) (ch, waiting) ops
    p.2 → hasCurrentFault p.1 := by
  have hstep : ∀ p op, (p.2 → hasCurrentFault p.1) → recovers p.1 op = false →
      (watched (ChannelOp.step k) (waitingAfter k normal) p op).2 →
        hasCurrentFault (watched (ChannelOp.step k) (waitingAfter k normal) p op).1 := by
    intro p op hp hrecovers hwaiting
    have hwaiting : waitingAfter k normal p.1 op p.2 := hwaiting
    show hasCurrentFault (op.step k p.1)
    unfold waitingAfter at hwaiting
    split at hwaiting
    · cases hwaiting
    next hclear =>
    rcases (Bool.or_eq_true _ _).mp hwaiting with hbefore | hlatches
    · exact hasCurrentFault_step (hp hbefore) (by simpa using hclear) hrecovers
    · simp only [latches, Bool.and_eq_true] at hlatches
      exact hlatches.2.2
  exact exec_invariant hstep h
    ((along_watched (Q := fun ch op => recovers ch op = false)).mpr hops)

/-- Outside NORMAL no fault starts to wait. -/
theorem not_waiting_outside :
    (exec (watched (ChannelOp.step k) (waitingAfter k false)) (ch, false) ops).2 = false := by
  have hstep : ∀ p op, p.2 = false → True →
      (watched (ChannelOp.step k) (waitingAfter k false) p op).2 = false := by
    intro p op hp _
    show waitingAfter k false p.1 op p.2 = false
    simp [waitingAfter, hp]
  exact exec_invariant hstep rfl (along_of_forall (fun _ _ _ => trivial) _)

/-- No fault starts to wait in a transition. -/
theorem not_waiting_transition {old new : OperatingMode} {ch₀ : Channel}
    (h : hasCurrentFault ch = false) :
    (exec (watched (ChannelOp.step k) (waitingAfter k normal)) (ch, false)
      (transitionOps old new ch₀)).2 = false := by
  let clean (p : Channel × Bool) : Prop := hasCurrentFault p.1 = false ∧ p.2 = false
  have hstep : ∀ p op, clean p → op ∈ transitionOps old new ch₀ →
      clean (watched (ChannelOp.step k) (waitingAfter k normal) p op) := by
    intro p op hp hop
    have hsame : hasCurrentFault (op.step k p.1) = hasCurrentFault p.1 :=
      hasCurrentFault_transition hop
    refine ⟨hsame.trans hp.1, ?_⟩
    show waitingAfter k normal p.1 op p.2 = false
    simp [waitingAfter, latches, hsame, hp.1, hp.2]
  have hops : Along (watched (ChannelOp.step k) (waitingAfter k normal))
      (fun _ op => op ∈ transitionOps old new ch₀) (ch, false) (transitionOps old new ch₀) :=
    along_of_forall (fun op hop _ => hop) _
  exact (exec_invariant hstep ⟨h, rfl⟩ hops).2

end Waiting

/-- The two histories for channel `i`: the split modes, and its fault that waits. -/
def faultHistory (k : Kconfig) (i : Nat) (ctrl : Controller σ) (op : ControllerOp σ)
    (history : Bool × Bool) : Bool × Bool :=
  (splitAfter k ctrl op history.1,
    callHistory k i (waitingAfter k (ctrl.operatingMode = .normal)) ctrl op history.2)

/-- No session is left for AUTOMATIC with a fault of NORMAL waiting, and a split stored mode
finds the channel not retryable in NORMAL. -/
def KeepsNormalFault (k : Kconfig) (i : Nat) (p : Controller σ × Bool × Bool)
    (op : ControllerOp σ) : Prop :=
  (p.2.2 → p.1.operatingMode = .calibration → op.movesTo p.1 ≠ some .automatic) ∧
    (p.2.1 → p.1.operatingMode = .normal → ∀ ch ∈ p.1.channels[i]?,
      Along (ChannelOp.step k) (fun ch op => recovers ch op = false) ch (op.channelOps k p.1 i ch))

instance (k : Kconfig) (i : Nat) (p : Controller σ × Bool × Bool) (op : ControllerOp σ) :
    Decidable (KeepsNormalFault k i p op) := inferInstanceAs (Decidable ((_ → _ → _) ∧ (_ → _ → _)))

/-- What holds of channel `i` along a run that keeps the faults of NORMAL. -/
structure FaultKept (i : Nat) (p : Controller σ × Bool × Bool) : Prop where
  agrees : Agrees (control p.1) p.2.1
  active : p.2.2 → ∃ ch, p.1.channels[i]? = some ch ∧ hasCurrentFault ch
  mode : p.2.2 → p.1.operatingMode = .normal ∨ p.1.operatingMode = .calibration

theorem mode_of_not_automatic {k : Kconfig} {ctrl : Controller σ} {op : ControllerOp σ}
    (hmode : ctrl.operatingMode = .normal ∨ ctrl.operatingMode = .calibration)
    (hop : op.movesTo ctrl ≠ some .automatic) :
    (op.step k ctrl).operatingMode = .normal ∨ (op.step k ctrl).operatingMode = .calibration := by
  rw [operatingMode_step]
  split
  · exact .inl rfl
  cases hmoves : op.movesTo ctrl with
  | none => exact hmode
  | some mode =>
    rcases movesTo_known hmoves with rfl | rfl | rfl
    · exact .inl rfl
    · exact absurd hmoves hop
    · exact .inr rfl

theorem not_recovers_in_calibration {k : Kconfig} {ctrl : Controller σ} {op : ControllerOp σ}
    {i : Nat} {ch : Channel} (hmode : ctrl.operatingMode = .calibration) :
    Along (ChannelOp.step k) (fun ch op => recovers ch op = false) ch
      (op.channelOps k ctrl i ch) := by
  refine along_of_forall (fun c hc ch => ?_) ch
  cases c with
  | tickRecovery sysCfg dtMs => exact absurd hmode (tickRecovery_mem hc).2
  | _ => rfl

/-- A fault of NORMAL that waits after an operation is active, in NORMAL or in a session. -/
theorem waiting_step {k : Kconfig} {i : Nat} {p : Controller σ × Bool × Bool}
    {op : ControllerOp σ} {ch : Channel} (h : FaultKept i p) (hop : KeepsNormalFault k i p op)
    (hch : p.1.channels[i]? = some ch) :
    let q := exec (watched (ChannelOp.step k)
      (waitingAfter k (p.1.operatingMode = .normal))) (ch, p.2.2) (op.channelOps k p.1 i ch)
    q.2 → hasCurrentFault q.1 ∧ ((op.step k p.1).operatingMode = .normal ∨
      (op.step k p.1).operatingMode = .calibration) := by
  obtain ⟨ctrl, split, waiting⟩ := p
  obtain ⟨hagrees, hactive, hmode⟩ := h
  obtain ⟨hleave, hsplit⟩ := hop
  have hfault : waiting → hasCurrentFault ch := by
    intro hwaiting
    obtain ⟨ch', hch', hfault⟩ := hactive hwaiting
    obtain rfl := Option.some.inj (hch.symm.trans hch')
    exact hfault
  intro q hq
  by_cases hnormal : ctrl.operatingMode = .normal
  · have hquiet : Along (ChannelOp.step k) (fun ch op => recovers ch op = false) ch
        (op.channelOps k ctrl i ch) := by
      by_cases hstored : ctrl.sysCfg.operatingMode = .automatic
      · exact hsplit (hagrees hnormal hstored) hnormal ch hch
      · exact (not_recovers_of_stored hstored).along hch
    refine ⟨waiting_exec hfault hquiet hq, mode_of_not_automatic (.inl hnormal) fun hauto => ?_⟩
    -- NORMAL is left for AUTOMATIC with no fault active, so none waits
    have hnone : hasCurrentFault ch = false := by
      simp [hasCurrentFault, movesTo_automatic hauto hnormal ch (List.mem_of_getElem? hch)]
    have hidle : waiting = false := Bool.eq_false_iff.mpr fun hwaiting => by
      simp [hfault hwaiting] at hnone
    have hlast : q.2 = false := by
      simp only [q, hidle, channelOps_of_movesTo hauto]
      exact not_waiting_transition hnone
    exact absurd (hlast.symm.trans hq) (by decide)
  · cases waiting with
    | false =>
      have hlast : q.2 = false := by
        simp only [q, hnormal, decide_false]
        exact not_waiting_outside
      exact absurd (hlast.symm.trans hq) (by decide)
    | true =>
      have hcal : ctrl.operatingMode = .calibration := (hmode rfl).resolve_left hnormal
      exact ⟨waiting_exec hfault (not_recovers_in_calibration hcal) hq,
        mode_of_not_automatic (.inr hcal) (hleave rfl hcal)⟩

theorem faultKept_step {k : Kconfig} {i : Nat} {p : Controller σ × Bool × Bool}
    {op : ControllerOp σ} (h : FaultKept i p) (hop : KeepsNormalFault k i p op) :
    FaultKept i (watched (ControllerOp.step k) (faultHistory k i) p op) := by
  have hchannel := getElem?_step k p.1 op i
  have hwaiting : (faultHistory k i p.1 op p.2).2 → ∃ ch, p.1.channels[i]? = some ch ∧
      hasCurrentFault (exec (ChannelOp.step k) ch (op.channelOps k p.1 i ch)) ∧
        ((op.step k p.1).operatingMode = .normal ∨
          (op.step k p.1).operatingMode = .calibration) := by
    unfold faultHistory callHistory
    cases hch : p.1.channels[i]? with
    | none =>
      intro hwaiting
      obtain ⟨ch, hsome, -⟩ := h.active hwaiting
      rw [hch] at hsome
      cases hsome
    | some ch =>
      intro hwaiting
      have hstep := waiting_step h hop hch hwaiting
      rw [exec_watched_fst] at hstep
      exact ⟨ch, rfl, hstep⟩
  refine ⟨agrees_step h.agrees, fun hafter => ?_, fun hafter => ?_⟩
  · obtain ⟨ch, hch, hfault, -⟩ := hwaiting hafter
    rw [hch] at hchannel
    exact ⟨_, hchannel, hfault⟩
  · obtain ⟨ch, -, -, hmode⟩ := hwaiting hafter
    exact hmode

/-- In every run that leaves no session for AUTOMATIC with a fault of NORMAL waiting on channel
`i`, and finds the channel not retryable in NORMAL while the stored mode is split off, a current
fault that latched in NORMAL is active until a CLEAR_ACTIVE is carried out. -/
theorem normalFault_kept (k : Kconfig) (nodes : List Node) (store : σ) (i : Nat)
    (ops : List (ControllerOp σ))
    (hops : Along (watched (ControllerOp.step k) (faultHistory k i)) (KeepsNormalFault k i)
      (VcController.init k nodes store, decide (k.defaultOperatingMode = .automatic), false)
      ops) :
    let p := exec (watched (ControllerOp.step k) (faultHistory k i))
      (VcController.init k nodes store, decide (k.defaultOperatingMode = .automatic), false) ops
    p.2.2 → p.1.channels[i]?.any hasCurrentFault := by
  have hinit : FaultKept i (VcController.init k nodes store,
      decide (k.defaultOperatingMode = .automatic), false) :=
    ⟨agrees_init k nodes store, by simp, by simp⟩
  intro p hwaiting
  obtain ⟨ch, hch, hfault⟩ :=
    (exec_invariant (fun _ _ => faultKept_step) hinit hops).active hwaiting
  rw [hch]
  exact hfault

/-- A fault of NORMAL through a session that is left for NORMAL. -/
theorem normalFault_kept_example :
    let p := exec (watched (ControllerOp.step Kconfig.hvb) (faultHistory Kconfig.hvb 0))
      (VcController.init Kconfig.hvb [dacNode] (), false, false)
      (tripOps Unit ++ [.calibrationUnlock calUnlockStep1, .calibrationUnlock calUnlockStep2,
        .setOperatingMode .calibration, .calExit, .tick 1000])
    p.1.channels[0]?.any hasCurrentFault :=
  normalFault_kept Kconfig.hvb [dacNode] () 0 _ (by decide +kernel) (by decide +kernel)

/-- A session that is left for AUTOMATIC makes a fault of NORMAL retryable. -/
theorem normalFault_not_kept :
    ¬ ∀ ops : List (ControllerOp Unit),
      let p := exec (watched (ControllerOp.step Kconfig.hvb) (faultHistory Kconfig.hvb 0))
        (VcController.init Kconfig.hvb [dacNode] (), false, false) ops
      p.2.2 → p.1.channels[0]?.any hasCurrentFault := by
  intro h
  have hrun := h (tripOps Unit ++ [.calibrationUnlock calUnlockStep1,
    .calibrationUnlock calUnlockStep2, .setOperatingMode .calibration,
    .setOperatingMode .automatic, .tick 1000])
  revert hrun
  decide +kernel

end Recovery
