import HvbFirmware.Ramp

/-!
# The state and its flags

What a channel does is recorded three times, in its SMF state, in its flags and in its fault
mask. Every call keeps the three in step, except a ramp tick that leaves a held target without
reaching the next one, a retry, and a fault or a calibration reset that finds a graceful disable
under way.
-/
namespace Coherence

open VcTypes VcChannel VcController Runs

variable {σ : Type}

/-- The SMF state, the flags and the fault mask agree. -/
structure Coherent (d : Drive) : Prop where
  fault : d.smf = .faultLatched ∨ d.smf = .retryCooldown → d.active ≠ 0
  ramp : d.smf = .ramping → d.ramping ∧ d.outputEnabled
  hold : d.smf = .enabledHolding → d.outputEnabled ∧ d.ramping = false
  enabled : d.ramping → d.outputEnabled
  graceful : d.rampToDisable → d.ramping ∧ d.outputEnabled

/-- The calls after which they still agree. -/
def keepsCoherent (ch : Channel) : ChannelOp → Bool
  | .tickRamp dtMs =>
    !(ch.smf == .enabledHolding && rampRuns ch &&
      ch.operationalTargetVoltage != selectedTarget ch && !rampArrives ch dtMs)
  | .tickRecovery sysCfg dtMs => !retryDue ch sysCfg dtMs
  | .consumeFault _ | .resetCalibration _ => !ch.rampToDisable
  | _ => true

/-! ## States without anything to agree on -/

/-- With no ramp under way and nothing held, only a fault state asks for more. -/
theorem Coherent.off {d : Drive} (hramp : d.ramping = false) (hto : d.rampToDisable = false)
    (hsmf : d.smf ≠ .ramping) (hsmf' : d.smf ≠ .enabledHolding)
    (hfault : d.smf = .faultLatched ∨ d.smf = .retryCooldown → d.active ≠ 0) : Coherent d where
  fault := hfault
  ramp h := absurd h hsmf
  hold h := absurd h hsmf'
  enabled h := absurd (hramp.symm.trans h) (by decide)
  graceful h := absurd (hto.symm.trans h) (by decide)

/-- An output at rest. -/
theorem Coherent.rest {d : Drive} (hramp : d.ramping = false) (hto : d.rampToDisable = false)
    (hsmf : d.smf = .disabledHvOn ∨ d.smf = .disabledSafe) : Coherent d := by
  rcases hsmf with hsmf | hsmf <;>
    exact .off hramp hto (by simp [hsmf]) (by simp [hsmf]) (by simp [hsmf])

/-- A change of the SMF state to one that asks nothing of the flags. -/
theorem Coherent.enter {d d' : Drive} (h : Coherent d)
    (hflags : d'.outputEnabled = d.outputEnabled ∧ d'.ramping = d.ramping ∧
      d'.rampToDisable = d.rampToDisable)
    (hsmf : d'.smf ≠ .ramping) (hsmf' : d'.smf ≠ .enabledHolding)
    (hfault : d'.smf = .faultLatched ∨ d'.smf = .retryCooldown → d'.active ≠ 0) :
    Coherent d' := by
  obtain ⟨hout, hramp, hto⟩ := hflags
  refine ⟨hfault, fun hs => absurd hs hsmf, fun hs => absurd hs hsmf', ?_, ?_⟩
  · rw [hout, hramp]
    exact h.enabled
  · rw [hout, hramp, hto]
    exact h.graceful

theorem Coherent.finish {d : Drive} (hout : d.outputEnabled) : Coherent d.finish := by
  unfold Drive.finish
  split
  · exact .off rfl rfl (by simp) (by simp) (by simp)
  next hto =>
    have hto : d.rampToDisable = false := by simpa using hto
    exact ⟨by simp, by simp, fun _ => ⟨hout, rfl⟩, nofun, fun h => by simp [hto] at h⟩

/-- What a call settles on the hardware is not a flag. -/
theorem Coherent.settle {d : Drive} (h : Coherent d) (code : UInt16) : Coherent (d.settle code) :=
  ⟨h.fault, h.ramp, h.hold, h.enabled, h.graceful⟩

/-! ## The ramp tick -/

theorem ramping_refresh (ch : Channel) : (refresh ch).ramping = ch.ramping :=
  congrArg Drive.ramping (drive_refresh ch)

theorem ramping_finishRamp (ch : Channel) : (finishRamp ch).ramping = false := by
  unfold finishRamp
  split <;> rfl

/-- A tick that ends its ramp leaves the channel not ramping. -/
theorem ramping_of_arrives {ch : Channel} {dtMs : UInt32} (hruns : rampRuns ch)
    (hdiffers : ch.operationalTargetVoltage ≠ selectedTarget ch) (harrives : rampArrives ch dtMs) :
    (tickRamp ch dtMs).ramping = false := by
  simp only [rampArrives, if_neg hdiffers, decide_eq_true_eq] at harrives
  have hended : ∀ c : Channel, (refresh (finishRamp c)).ramping = false := fun c =>
    (ramping_refresh _).trans (ramping_finishRamp c)
  have hstep := Ramp.tickRamp_step ch dtMs
  generalize tickRamp ch dtMs = ch' at hstep
  cases hstep with
  | idle hidle =>
    rcases hidle with hoff | ⟨hthere, -⟩
    · exact absurd hruns (by simp [hoff])
    · exact absurd hthere hdiffers
  | hold _ hthere => exact absurd hthere hdiffers
  | off _ hthere => exact absurd hthere hdiffers
  | jump => exact hended _
  | arrive => exact hended _
  | move hmoves hmoving =>
    simp only [Ramp.rampMoves, decide_eq_true_eq] at hmoves
    obtain ⟨-, -, hstepReg, hinterval⟩ := hmoves
    exact absurd ((harrives.resolve_left hstepReg).resolve_left hinterval) hmoving

/-! ## Calls -/

theorem coherent_step {k : Kconfig} {ch : Channel} {op : ChannelOp} (h : Coherent (drive ch))
    (hkeeps : keepsCoherent ch op) : Coherent (drive (op.step k ch)) := by
  have heff := step_effect k ch op
  generalize hd : drive (op.step k ch) = d' at heff
  cases heff with
  | quiet => exact h
  | configure => exact ⟨h.fault, h.ramp, h.hold, h.enabled, h.graceful⟩
  | calOn => exact ⟨h.fault, h.ramp, h.hold, h.enabled, h.graceful⟩
  | calOff => exact ⟨h.fault, h.ramp, h.hold, h.enabled, h.graceful⟩
  | rawDac => exact ⟨h.fault, h.ramp, h.hold, h.enabled, h.graceful⟩
  | enable code hactive =>
    exact Coherent.settle ⟨by simp, fun _ => ⟨rfl, rfl⟩, by simp, fun _ => rfl, by simp⟩ code
  | graceful code =>
    have hgraceful : Coherent (drive ch).graceful :=
      ⟨by simp [Drive.graceful], fun _ => ⟨rfl, rfl⟩, by simp [Drive.graceful], fun _ => rfl,
        fun _ => ⟨rfl, rfl⟩⟩
    exact hgraceful.settle code
  | immediate => exact .rest rfl rfl (.inl rfl)
  | force => exact .rest rfl rfl (.inr rfl)
  | clearActive => exact h.enter ⟨rfl, rfl, rfl⟩ (by simp) (by simp) (by simp)
  | tripGraceful =>
    exact ⟨fun _ => (by decide : faultCurrent ≠ 0), by simp, (by simp), fun _ => rfl,
      fun _ => ⟨rfl, rfl⟩⟩
  | tripCleared =>
    exact .off rfl rfl (by simp) (by simp) fun _ => (by decide : faultCurrent ≠ 0)
  | tripOnly =>
    exact h.enter ⟨rfl, rfl, rfl⟩ (by simp) (by simp) fun _ => (by decide : faultCurrent ≠ 0)
  | hold dtMs hruns =>
    simp only [rampRuns, decide_eq_true_eq] at hruns
    exact Coherent.finish hruns.1
  | arrive dtMs code hruns =>
    simp only [rampRuns, decide_eq_true_eq] at hruns
    have hfinish : Coherent { drive ch with operational := selectedTarget ch }.finish :=
      Coherent.finish hruns.1
    exact ⟨hfinish.fault, hfinish.ramp, hfinish.hold, hfinish.enabled, hfinish.graceful⟩
  | moving dtMs code hruns hdiffers =>
    have harrives : rampArrives ch dtMs = false := Bool.eq_false_iff.mpr fun harrives => by
      have hnot : (drive (tickRamp ch dtMs)).ramping = false :=
        ramping_of_arrives hruns hdiffers harrives
      have hd : drive (tickRamp ch dtMs) = _ := hd
      rw [hd] at hnot
      cases hnot
    have hsmf : ch.smf ≠ .enabledHolding := by
      simpa [keepsCoherent, hruns, hdiffers, harrives] using hkeeps
    simp only [rampRuns, decide_eq_true_eq] at hruns
    have hout : (drive ch).outputEnabled := hruns.1
    exact ⟨h.fault, fun _ => ⟨rfl, hout⟩, fun hs => absurd hs hsmf, fun _ => hout,
      fun _ => ⟨rfl, hout⟩⟩
  | cooldown sysCfg dtMs hretry hactive =>
    refine h.enter ⟨rfl, rfl, rfl⟩ (by simp) (by simp) fun _ => ?_
    have hcurrent : (drive ch).active = faultCurrent := hactive
    show (drive ch).active ≠ 0
    rw [hcurrent]
    decide
  | exhausted =>
    exact h.enter ⟨rfl, rfl, rfl⟩ (by simp) (by simp) fun _ =>
      (by decide : faultCurrent ||| faultRetryExhaust ≠ 0)
  | retry sysCfg dtMs code hdue =>
    simp [keepsCoherent, hdue] at hkeeps
  | fault cause code =>
    have hto : ch.rampToDisable = false := by simpa [keepsCoherent] using hkeeps
    exact .rest rfl hto (.inr rfl)
  | calReset entering code =>
    have hto : ch.rampToDisable = false := by simpa [keepsCoherent] using hkeeps
    cases entering
    · exact .rest rfl hto (.inr rfl)
    · exact Coherent.settle (.off rfl hto (by simp) (by simp) (by simp)) code

/-! ## Runs -/

/-- The operations whose calls keep state and flags in step. -/
def KeepsCoherent (k : Kconfig) (ctrl : Controller σ) (op : PublicOp σ) : Prop :=
  EachCall k (fun ch op => keepsCoherent ch op) ctrl (op.channelOps k ctrl)

instance (k : Kconfig) (ctrl : Controller σ) (op : PublicOp σ) :
    Decidable (KeepsCoherent k ctrl op) :=
  inferInstanceAs (Decidable (EachCall k _ ctrl _))

/-- What the SMF state, the flags and the fault mask of a channel say of each other. -/
def SmfCoherent (ch : Channel) : Prop :=
  (ch.smf = .faultLatched ∨ ch.smf = .retryCooldown → ch.activeFaultCause ≠ 0) ∧
    (ch.smf = .ramping → ch.ramping ∧ ch.outputEnabled) ∧
    (ch.smf = .enabledHolding → ch.outputEnabled ∧ ch.ramping = false) ∧
    (ch.ramping → ch.outputEnabled) ∧
    (ch.rampToDisable → ch.ramping ∧ ch.outputEnabled)

instance (ch : Channel) : Decidable (SmfCoherent ch) := inferInstanceAs (Decidable (_ ∧ _))

/-- In every run whose operations all keep state and flags in step, they agree in every state. -/
theorem smf_coherent (k : Kconfig) (nodes : List Node) (store : σ) (ops : List (PublicOp σ))
    (hops : Along (PublicOp.step k) (KeepsCoherent k) (VcController.init k nodes store) ops) :
    ∀ ch ∈ (exec (PublicOp.step k) (VcController.init k nodes store) ops).channels,
      SmfCoherent ch := by
  have hinit : ∀ node, Coherent (drive (VcChannel.init k node)) := fun node =>
    .rest rfl rfl (.inr rfl)
  have hcall : ∀ ch op, Coherent (drive ch) → keepsCoherent ch op →
      Coherent (drive (op.step k ch)) := fun ch op => coherent_step
  have hrun := publicRun_invariant hinit hcall hops
  intro ch hch
  have h := hrun ch hch
  exact ⟨h.fault, h.ramp, h.hold, h.enabled, h.graceful⟩

/-- A ramp to the target, an overcurrent trip with its CLEAR_ACTIVE, and a second ramp that a
graceful disable ends. -/
theorem smf_coherent_example :
    let ops : List (PublicOp Unit) :=
      [.controller (.channelSetField 0 .configuredTargetVoltage 300),
        .controller (.channelSetField 0 .currentProtectionMode 2),
        .controller (.channelSetField 0 .currentLimitThreshold 100),
        .controller (.channelOutputAction 0 .enable), .controller (.tick 1000),
        .controller (.tick 5000), .controller (.publishCurrent 0 200000000 1),
        .controller (.tick 1000), .controller (.publishCurrent 0 0 2), .controller (.tick 1000),
        .controller (.channelFaultCommand 0 .clearActive),
        .controller (.channelOutputAction 0 .enable), .controller (.tick 1000),
        .controller (.channelOutputAction 0 .disableGraceful), .controller (.tick 5000)]
    ∀ ch ∈ (exec (PublicOp.step Kconfig.hvb)
        (VcController.init Kconfig.hvb [dacNode] ()) ops).channels, SmfCoherent ch :=
  smf_coherent Kconfig.hvb [dacNode] () _ (by decide +kernel)

/-- A target written while the channel holds another one starts a ramp in ENABLED_HOLDING. -/
theorem smf_incoherent :
    ¬ ∀ ops : List (PublicOp Unit), ∀ ch ∈ (exec (PublicOp.step Kconfig.hvb)
        (VcController.init Kconfig.hvb [dacNode] ()) ops).channels, SmfCoherent ch := by
  intro h
  have hrun := h [.controller (.channelSetField 0 .configuredTargetVoltage 300),
    .controller (.channelOutputAction 0 .enable), .controller (.tick 5000),
    .controller (.channelSetField 0 .configuredTargetVoltage 3000), .controller (.tick 1000)]
  revert hrun
  decide +kernel

end Coherence
