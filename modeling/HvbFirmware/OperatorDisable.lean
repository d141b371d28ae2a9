import HvbFirmware.VcControllerRuns

/-!
# The operator's disable

After a host disable the output should stay off until the operator asks for it again. Three
calls switch it on without being asked: a recovery, a current trip whose action is
DISABLE_GRACEFUL, and a DISABLE_GRACEFUL of a channel that is off. In a run without them on the
disabled channel its output stays off.
-/
namespace OperatorDisable

open VcTypes VcChannel VcController Runs

variable {σ : Type}

/-! ## The history of a disable -/

/-- How far the disable of a channel has got. -/
inductive Disable where
  | none | requested | off
  deriving DecidableEq, Repr

def isHostDisable : OutputAction → Bool
  | .disableGraceful | .disableImmediate | .disableForce => true
  | _ => false

/-- A host disable of channel `i` that is accepted. -/
def disables (ctrl : Controller σ) (i : Nat) : ControllerOp σ → Bool
  | .channelOutputAction j action =>
    j = i ∧ isHostDisable action ∧ (channelOutputAction ctrl i action).1 = .ok
  | _ => false

/-- The host asks for the output of channel `i`: by ENABLE, or by a non-zero target in AUTOMATIC. -/
def asksFor (ctrl : Controller σ) (i : Nat) : ControllerOp σ → Bool
  | .channelOutputAction j .enable => j = i
  | .channelSetField j .configuredTargetVoltage value =>
    j = i ∧ ctrl.operatingMode = .automatic ∧ value.toInt16 ≠ 0
  | _ => false

def lifts (ctrl : Controller σ) (i : Nat) (op : ControllerOp σ) : Bool :=
  asksFor ctrl i op || op.movesTo ctrl = some .automatic

def offAfter (k : Kconfig) (ch : Channel) (op : ChannelOp) : Disable → Disable
  | .none => .none
  | .requested => if (op.step k ch).outputEnabled then .requested else .off
  | .off => .off

/-- The disable of channel `i` as the calls of an operation find it. -/
def disableBefore (ctrl : Controller σ) (i : Nat) (op : ControllerOp σ) (disable : Disable) :
    Disable :=
  if disables ctrl i op ∧ disable = .none then .requested else disable

def disableAfter (k : Kconfig) (i : Nat) (ctrl : Controller σ) (op : ControllerOp σ)
    (disable : Disable) : Disable :=
  if lifts ctrl i op then .none
  else callHistory k i (offAfter k) ctrl op (disableBefore ctrl i op disable)

/-! ## The calls that switch on -/

/-- The calls that switch an output on without a request for it. -/
def switchesOn (ch : Channel) : ChannelOp → Bool
  | .tickRecovery sysCfg dtMs => retryDue ch sysCfg dtMs
  | .outputAction .disableGraceful => hasCap ch capRawOutputDrive && hasCap ch capOutputEnable
  | op => tripsOn ch op &&
      protectionAction ch ch.config.currentProtectionOutputAction == .disableGraceful

theorem switchesOn_of_trip {ch : Channel} {op : ChannelOp} (h : tripsOn ch op)
    (haction : protectionAction ch ch.config.currentProtectionOutputAction = .disableGraceful) :
    switchesOn ch op := by
  cases op with
  | consumeCurrent raw =>
    simp only [switchesOn, h, haction]
    rfl
  | sampleCurrent =>
    simp only [switchesOn, h, haction]
    rfl
  | _ => cases h

theorem outputOff_step {k : Kconfig} {ch : Channel} {op : ChannelOp}
    (h : ch.outputEnabled = false) (hop : switchesOn ch op = false)
    (henable : op ≠ .outputAction .enable) : (op.step k ch).outputEnabled = false := by
  have heff := step_effect k ch op
  have h : (drive ch).outputEnabled = false := h
  show (drive (op.step k ch)).outputEnabled = false
  generalize drive (op.step k ch) = d' at heff
  cases heff with
  | enable => exact absurd rfl henable
  | graceful code hdac hcap => simp [switchesOn, hdac, hcap] at hop
  | tripGraceful op code htrip hactive haction =>
    have hon := switchesOn_of_trip htrip haction
    exact absurd (hop.symm.trans hon) (by decide)
  | retry sysCfg dtMs code hdue => exact absurd (hop.symm.trans hdue) (by decide)
  | immediate => rfl
  | force => rfl
  | tripCleared => rfl
  | fault => rfl
  | calReset => rfl
  | hold => exact Drive.finish_outputEnabled h
  | arrive => exact Drive.finish_outputEnabled h
  | _ => exact h

/-- An operation that does not lift the disable makes no ENABLE call on the channel. -/
theorem ne_enable_of_not_lifts {k : Kconfig} {ctrl : Controller σ} {op : ControllerOp σ} {i : Nat}
    {ch : Channel} (hop : lifts ctrl i op = false) :
    ∀ c ∈ op.channelOps k ctrl i ch, c ≠ .outputAction .enable := by
  rintro c hc rfl
  simp only [lifts, Bool.or_eq_false_iff, decide_eq_false_iff_not] at hop
  obtain ⟨hasks, hmoves⟩ := hop
  rcases mem_channelOps hc with ⟨mode, hmode, hc⟩ | hc
  · rcases mem_transitionOps hc with ⟨_, hc⟩ | ⟨hc, -⟩ | ⟨-, hauto⟩
    · cases hc
    · cases hc
    · exact hmoves (hmode.trans (congrArg some hauto))
  · cases hc with
    | run dt c hmode hrun => simp [runOps] at hrun
    | autoEnable value hmode hvalue => simp [asksFor, hmode, hvalue] at hasks
    | outputAction action hmode => simp [asksFor] at hasks

/-! ## Runs -/

/-- While channel `i` is off by the disable, no call on it switches it on. -/
def KeepsOff (k : Kconfig) (i : Nat) (p : Controller σ × Disable) (op : ControllerOp σ) : Prop :=
  lifts p.1 i op = false → ∀ ch ∈ p.1.channels[i]?,
    Along (watched (ChannelOp.step k) (offAfter k))
      (fun q c => q.2 = .off → switchesOn q.1 c = false) (ch, disableBefore p.1 i op p.2)
      (op.channelOps k p.1 i ch)

instance (k : Kconfig) (i : Nat) (p : Controller σ × Disable) (op : ControllerOp σ) :
    Decidable (KeepsOff k i p op) := inferInstanceAs (Decidable (_ → _))

def StaysOff (p : Channel × Disable) : Prop := p.2 = .off → p.1.outputEnabled = false

theorem staysOff_call {k : Kconfig} {p : Channel × Disable} {c : ChannelOp} (h : StaysOff p)
    (hc : (p.2 = .off → switchesOn p.1 c = false) ∧ c ≠ .outputAction .enable) :
    StaysOff (watched (ChannelOp.step k) (offAfter k) p c) := by
  obtain ⟨ch, disable⟩ := p
  intro hoff
  have hoff : offAfter k ch c disable = .off := hoff
  show (c.step k ch).outputEnabled = false
  cases disable with
  | none => cases hoff
  | requested => simpa [offAfter] using hoff
  | off => exact outputOff_step (h rfl) (hc.1 rfl) hc.2

theorem staysOff_before {ctrl : Controller σ} {i : Nat} {op : ControllerOp σ} {disable : Disable}
    {ch : Channel} (h : StaysOff (ch, disable)) :
    StaysOff (ch, disableBefore ctrl i op disable) := by
  intro hoff
  have hoff : disableBefore ctrl i op disable = .off := hoff
  unfold disableBefore at hoff
  split at hoff
  · cases hoff
  · exact h hoff

theorem staysOff_step {k : Kconfig} {i : Nat} {p : Controller σ × Disable} {op : ControllerOp σ}
    (h : ∀ ch ∈ p.1.channels[i]?, StaysOff (ch, p.2)) (hop : KeepsOff k i p op) :
    ∀ ch ∈ (op.step k p.1).channels[i]?, StaysOff (ch, disableAfter k i p.1 op p.2) := by
  unfold disableAfter
  cases hlifts : lifts p.1 i op with
  | true =>
    intro ch _ hoff
    cases hoff
  | false =>
    refine callHistory_invariant (fun p c => staysOff_call)
      (fun ch hch => staysOff_before (h ch hch)) fun ch hch => ?_
    exact (hop hlifts ch hch).and
      (along_of_forall (fun c hc _ => ne_enable_of_not_lifts hlifts c hc) _)

/-- In every run in which no call switches channel `i` on while it is off by a host disable, its
output stays off until the host asks for it or AUTOMATIC is entered. -/
theorem disable_sticky (k : Kconfig) (nodes : List Node) (store : σ) (i : Nat)
    (ops : List (ControllerOp σ))
    (hops : Along (watched (ControllerOp.step k) (disableAfter k i)) (KeepsOff k i)
      (VcController.init k nodes store, .none) ops) :
    let p := exec (watched (ControllerOp.step k) (disableAfter k i))
      (VcController.init k nodes store, .none) ops
    p.2 = .off → ∀ ch ∈ p.1.channels[i]?, ch.outputEnabled = false := by
  have hinit : ∀ ch ∈ (VcController.init k nodes store).channels[i]?,
      StaysOff (ch, Disable.none) := by
    intro ch _ hoff
    cases hoff
  have hrun := exec_invariant
    (I := fun p : Controller σ × Disable => ∀ ch ∈ p.1.channels[i]?, StaysOff (ch, p.2))
    (fun p op => staysOff_step) hinit hops
  exact fun hoff ch hch => hrun ch hch hoff

/-- A graceful disable in AUTOMATIC, followed by a hardware fault. -/
theorem disable_sticky_example :
    let p := exec (watched (ControllerOp.step Kconfig.hvb) (disableAfter Kconfig.hvb 0))
      (VcController.init Kconfig.hvb [dacNode] (), .none)
      [.setOperatingMode .automatic, .channelSetField 0 .configuredTargetVoltage 300,
        .tick 5000, .channelOutputAction 0 .disableGraceful, .tick 5000, .tick 1000,
        .consumeFault 0 faultHardware, .tick 1000]
    ∀ ch ∈ p.1.channels[0]?, ch.outputEnabled = false :=
  disable_sticky Kconfig.hvb [dacNode] () 0 _ (by decide +kernel) (by decide +kernel)

/-- A channel that the operator has forced off after a current trip is retried. -/
theorem disable_not_sticky :
    ¬ ∀ ops : List (ControllerOp Unit),
      let p := exec (watched (ControllerOp.step Kconfig.hvb) (disableAfter Kconfig.hvb 0))
        (VcController.init Kconfig.hvb [dacNode] (), .none) ops
      p.2 = .off → ∀ ch ∈ p.1.channels[0]?, ch.outputEnabled = false := by
  intro h
  have hrun := h [.channelSetField 0 .recoveryPolicyMode 1,
    .channelSetField 0 .autoRetryMaxCount 3, .channelSetField 0 .currentProtectionMode 2,
    .channelSetField 0 .currentLimitThreshold 100, .setOperatingMode .automatic,
    .channelSetField 0 .configuredTargetVoltage 300, .tick 5000,
    .publishCurrent 0 200000000 1, .tick 1000, .channelOutputAction 0 .disableForce,
    .publishCurrent 0 0 2, .tick 1000]
  revert hrun
  decide +kernel

end OperatorDisable
