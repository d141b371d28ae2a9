import HvbFirmware.VcControllerRuns

/-!
# When a channel is de-energised

A channel with a hardware or interlock fault, and a channel in DISABLED_SAFE, should have
`(0, false)` as its last hardware command. Both invariants are proved over the effects of the
calls, and so hold over every run of public calls in which the calls that break them stay out.
-/
namespace DeEnergised

open VcTypes VcChannel VcController Runs

variable {σ : Type}

/-- A hook that is absent has left its half of the command as it was. -/
def Wired (d : Drive) : Prop :=
  (d.hasOutput = false → d.hw.code = 0) ∧ (d.hasEnable = false → d.hw.enable = false)

theorem Wired.settle {d : Drive} (h : Wired d) (code : UInt16) : Wired (d.settle code) := by
  refine ⟨fun hout => ?_, fun hen => ?_⟩
  · have hout : d.hasOutput = false := hout
    simpa [Drive.settle, hout] using h.1 hout
  · have hen : d.hasEnable = false := hen
    simpa [Drive.settle, hen] using h.2 hen

theorem Wired.finish {d : Drive} (h : Wired d) : Wired d.finish := by
  unfold Drive.finish
  split <;> exact h

theorem Wired.of_effect {k : Kconfig} {ch : Channel} {op : ChannelOp} {d' : Drive}
    (heff : Effect k ch op d') (h : Wired (drive ch)) : Wired d' := by
  cases heff with
  | quiet => exact h
  | clearActive => exact h
  | cooldown => exact h
  | exhausted => exact h
  | hold => exact h.finish
  | arrive =>
    refine Wired.settle (Wired.finish ?_) _
    exact h
  | tripGraceful op code =>
    have hgraceful : Wired (drive ch).graceful := h
    exact hgraceful.settle code
  | tripCleared op code smf =>
    have hcleared : Wired ((drive ch).cleared smf) := h
    exact hcleared.settle code
  | tripOnly op code => exact h.settle code
  | _ =>
    refine Wired.settle ?_ _
    exact h

theorem wired_init (k : Kconfig) (node : Node) : Wired (drive (VcChannel.init k node)) :=
  ⟨fun _ => rfl, fun _ => rfl⟩

/-- With the calibration gate and the output off, and not in DISABLED_HV_ON, the command is off. -/
theorem settle_off {d : Drive} (h : Wired d) (hcal : d.cal = 0) (hout : d.outputEnabled = false)
    (hsmf : d.smf ≠ .disabledHvOn) (code : UInt16) : (d.settle code).hw = .off := by
  have hcommand : d.command code = .off := by simp [Drive.command, hcal, hout, hsmf]
  have hcode : (d.settle code).hw.code = 0 := by
    cases hb : d.hasOutput with
    | true => simp [Drive.settle, hb, hcommand, HwCommand.off]
    | false => simpa [Drive.settle, hb] using h.1 hb
  have hen : (d.settle code).hw.enable = false := by
    cases hb : d.hasEnable with
    | true => simp [Drive.settle, hb, hcommand, HwCommand.off]
    | false => simpa [Drive.settle, hb] using h.2 hb
  exact HwCommand.eq_off hcode hen

/-! ## Hard faults -/

/-- A host DISABLE_GRACEFUL or DISABLE_IMMEDIATE that is carried out as such. -/
def hostDisable (ch : Channel) : ChannelOp → Bool
  | .outputAction action =>
    (action == .disableGraceful || action == .disableImmediate) &&
      hasCap ch capRawOutputDrive && hasCap ch capOutputEnable
  | _ => false

def keepsHardFault (ch : Channel) (op : ChannelOp) : Bool :=
  !(hasHardSafetyFault ch && hostDisable ch op)

/-- Everything that could make `apply_hw` drive a channel is off while a hard fault is active. -/
def HardFaultOff (d : Drive) : Prop :=
  Wired d ∧ (d.hardFault →
    d.outputEnabled = false ∧ d.cal = 0 ∧ d.smf ≠ .disabledHvOn ∧ d.hw = .off)

theorem HardFaultOff.settle {d : Drive} (hwired : Wired d)
    (h : d.hardFault → d.outputEnabled = false ∧ d.cal = 0 ∧ d.smf ≠ .disabledHvOn)
    (code : UInt16) : HardFaultOff (d.settle code) := by
  refine ⟨hwired.settle code, fun hhard => ?_⟩
  obtain ⟨hout, hcal, hsmf⟩ := h hhard
  exact ⟨hout, hcal, hsmf, settle_off hwired hcal hout hsmf code⟩

/-- Without a hard fault nothing is asked of the channel. -/
theorem HardFaultOff.of_not_hard {d : Drive} (hwired : Wired d) (h : d.hardFault = false) :
    HardFaultOff d :=
  ⟨hwired, fun hhard => absurd (h.symm.trans hhard) (by decide)⟩

theorem hardFault_of_none {d : Drive} (h : d.active = 0) : d.hardFault = false := by
  simp [Drive.hardFault, h]

theorem hardFault_of_current {d : Drive} (h : d.active = faultCurrent) : d.hardFault = false := by
  rw [Drive.hardFault, h]
  decide

theorem hardFault_of_exhausted {d : Drive} (h : d.active = faultCurrent ||| faultRetryExhaust) :
    d.hardFault = false := by
  rw [Drive.hardFault, h]
  decide

theorem hardFault_finish (d : Drive) : d.finish.hardFault = d.hardFault := by
  simp [Drive.hardFault]

theorem hardFaultOff_of_effect {k : Kconfig} {ch : Channel} {op : ChannelOp} {d' : Drive}
    (heff : Effect k ch op d') (h : HardFaultOff (drive ch)) (hkeeps : keepsHardFault ch op) :
    HardFaultOff d' := by
  obtain ⟨hwired, hoff⟩ := h
  have hwired' := hwired.of_effect heff
  -- a ramp tick needs the output on, which a hard fault excludes
  have hidle : rampRuns ch → (drive ch).hardFault = false := fun hruns =>
    Bool.eq_false_iff.mpr fun hhard => by
      have hout : ch.outputEnabled = false := (hoff hhard).1
      simp [rampRuns, hout] at hruns
  cases heff with
  | quiet => exact ⟨hwired, hoff⟩
  | enable code hactive => exact .of_not_hard hwired' (hardFault_of_none hactive)
  | graceful code hdac hcap =>
    have hnot : hasHardSafetyFault ch = false := by
      simpa [keepsHardFault, hostDisable, hdac, hcap] using hkeeps
    exact .of_not_hard hwired' hnot
  | immediate code hdac hcap =>
    have hnot : hasHardSafetyFault ch = false := by
      simpa [keepsHardFault, hostDisable, hdac, hcap] using hkeeps
    exact .of_not_hard hwired' hnot
  | force action code =>
    refine .settle ?_ (fun hhard => ⟨rfl, ?_, by simp [Drive.cleared]⟩) code
    · exact hwired
    · exact (hoff hhard).2.1
  | clearActive => exact .of_not_hard hwired' (hardFault_of_none rfl)
  | configure op code target =>
    refine .settle ?_ (fun hhard => ?_) code
    · exact hwired
    · exact ⟨(hoff hhard).1, (hoff hhard).2.1, (hoff hhard).2.2.1⟩
  -- a trip leaves the current fault alone, which is not a hard one
  | tripGraceful => exact .of_not_hard hwired' (hardFault_of_current rfl)
  | tripCleared => exact .of_not_hard hwired' (hardFault_of_current rfl)
  | tripOnly => exact .of_not_hard hwired' (hardFault_of_current rfl)
  | hold dtMs hruns => exact .of_not_hard hwired' ((hardFault_finish _).trans (hidle hruns))
  | arrive dtMs code hruns => exact .of_not_hard hwired' ((hardFault_finish _).trans (hidle hruns))
  | moving dtMs code hruns => exact .of_not_hard hwired' (hidle hruns)
  | cooldown sysCfg dtMs hretry hactive =>
    exact .of_not_hard hwired' (hardFault_of_current hactive)
  | exhausted => exact .of_not_hard hwired' (hardFault_of_exhausted rfl)
  | retry => exact .of_not_hard hwired' (hardFault_of_none rfl)
  | fault cause code =>
    refine .settle ?_ (fun _ => ⟨rfl, rfl, by simp⟩) code
    exact hwired
  | calReset entering code =>
    refine .settle ?_ (fun _ => ⟨rfl, rfl, by cases entering <;> simp⟩) code
    exact hwired
  | calOn code hhard => exact .of_not_hard hwired' hhard
  | calOff code =>
    refine .settle ?_ (fun hhard => ⟨?_, rfl, ?_⟩) code
    · exact hwired
    · exact (hoff hhard).1
    · exact (hoff hhard).2.2.1
  | rawDac value code =>
    refine .settle ?_ (fun hhard => ?_) code
    · exact hwired
    · exact ⟨(hoff hhard).1, (hoff hhard).2.1, (hoff hhard).2.2.1⟩

/-- The operations that make no host disable on a channel with a hard fault, a change from
AUTOMATIC to NORMAL included, which disables every channel. -/
def KeepsHardFaults (k : Kconfig) (ctrl : Controller σ) (op : PublicOp σ) : Prop :=
  EachCall k (fun ch op => keepsHardFault ch op) ctrl (op.channelOps k ctrl)

instance (k : Kconfig) (ctrl : Controller σ) (op : PublicOp σ) :
    Decidable (KeepsHardFaults k ctrl op) :=
  inferInstanceAs (Decidable (EachCall k _ ctrl _))

/-- In every run whose operations make no host disable on a channel with a hard fault, a channel
with a hard fault is de-energised in every state. -/
theorem hardFault_deEnergised (k : Kconfig) (nodes : List Node) (store : σ)
    (ops : List (PublicOp σ))
    (hops : Along (PublicOp.step k) (KeepsHardFaults k) (VcController.init k nodes store) ops) :
    ∀ ch ∈ (exec (PublicOp.step k) (VcController.init k nodes store) ops).channels,
      hasHardSafetyFault ch → ch.hw = .off := by
  have hinit : ∀ node, HardFaultOff (drive (VcChannel.init k node)) := fun node =>
    .of_not_hard (wired_init k node) (hardFault_of_none rfl)
  have hcall : ∀ ch op, HardFaultOff (drive ch) → keepsHardFault ch op →
      HardFaultOff (drive (op.step k ch)) :=
    fun ch op => hardFaultOff_of_effect (step_effect k ch op)
  have hrun := publicRun_invariant hinit hcall hops
  intro ch hch hhard
  exact ((hrun ch hch).2 hhard).2.2.2

/-- An interlock fault on a ramping channel, answered by an ENABLE and a DISABLE_FORCE. -/
theorem hardFault_deEnergised_example :
    let ops : List (PublicOp Unit) :=
      [.controller (.channelOutputAction 0 .enable), .controller (.tick 1000),
        .controller (.consumeFault 0 faultInterlock), .controller (.channelOutputAction 0 .enable),
        .controller (.channelOutputAction 0 .disableForce)]
    ∀ ch ∈ (exec (PublicOp.step Kconfig.hvb)
        (VcController.init Kconfig.hvb [dacNode] ()) ops).channels,
      hasHardSafetyFault ch → ch.hw = .off :=
  hardFault_deEnergised Kconfig.hvb [dacNode] () _ (by decide +kernel)

/-- A host DISABLE_IMMEDIATE after a hardware fault switches the output stage on again. -/
theorem hardFault_reEnergised :
    ¬ ∀ ops : List (PublicOp Unit), ∀ ch ∈ (exec (PublicOp.step Kconfig.hvb)
        (VcController.init Kconfig.hvb [dacNode] ()) ops).channels,
      hasHardSafetyFault ch → ch.hw = .off := by
  intro h
  have hrun := h [.controller (.consumeFault 0 faultHardware),
    .controller (.channelOutputAction 0 .disableImmediate)]
  revert hrun
  decide +kernel

/-! ## DISABLED_SAFE -/

def deEnergised (ch : Channel) : Bool :=
  !ch.outputEnabled && !ch.ramping && ch.calOutputEnabled == 0 && ch.hw == .off

/-- The calls that enter DISABLED_SAFE by clearing a fault do so on a de-energised channel, and
the calibration gate is neither open on the way in nor opened inside. -/
def keepsSafe (ch : Channel) : ChannelOp → Bool
  | .faultCommand .clearActive =>
    ch.activeFaultCause == 0 || !isSafeToClearActive ch || deEnergised ch
  | .outputAction action =>
    !(hostAction ch action == .disableForce && hasCap ch capOutputEnable) ||
      ch.calOutputEnabled == 0
  | .tickRamp dtMs =>
    !(rampRuns ch && ch.rampToDisable && rampArrives ch dtMs) || ch.calOutputEnabled == 0
  | .calSetOutputEnable true =>
    !hasCap ch capRawOutputDrive || hasHardSafetyFault ch || ch.smf != .disabledSafe
  | _ => true

/-- Everything that could make `apply_hw` drive a channel is off in DISABLED_SAFE. -/
def SafeOff (d : Drive) : Prop :=
  Wired d ∧ (d.smf = .disabledSafe →
    d.outputEnabled = false ∧ d.ramping = false ∧ d.cal = 0 ∧ d.hw = .off)

theorem SafeOff.settle {d : Drive} (hwired : Wired d)
    (h : d.smf = .disabledSafe → d.outputEnabled = false ∧ d.ramping = false ∧ d.cal = 0)
    (code : UInt16) : SafeOff (d.settle code) := by
  refine ⟨hwired.settle code, fun hsmf => ?_⟩
  have hsmf : d.smf = .disabledSafe := hsmf
  obtain ⟨hout, hramping, hcal⟩ := h hsmf
  exact ⟨hout, hramping, hcal, settle_off hwired hcal hout (by simp [hsmf]) code⟩

/-- In any other state nothing is asked of the channel. -/
theorem SafeOff.of_ne {d : Drive} (hwired : Wired d) (h : d.smf ≠ .disabledSafe) : SafeOff d :=
  ⟨hwired, fun hsmf => absurd hsmf h⟩

theorem safeOff_of_effect {k : Kconfig} {ch : Channel} {op : ChannelOp} {d' : Drive}
    (heff : Effect k ch op d') (h : SafeOff (drive ch)) (hkeeps : keepsSafe ch op) :
    SafeOff d' := by
  obtain ⟨hwired, hoff⟩ := h
  have hwired' := hwired.of_effect heff
  cases heff with
  | quiet => exact ⟨hwired, hoff⟩
  | enable => exact .of_ne hwired' (by simp [Drive.settle])
  | graceful => exact .of_ne hwired' (by simp [Drive.settle, Drive.graceful])
  | immediate => exact .of_ne hwired' (by simp [Drive.settle, Drive.cleared])
  | force action code haction hcap =>
    refine .settle ?_ (fun _ => ⟨rfl, rfl, ?_⟩) code
    · exact hwired
    · have hkeeps : !(hostAction ch action == .disableForce && hasCap ch capOutputEnable) ||
          ch.calOutputEnabled == 0 := hkeeps
      have hcal : ch.calOutputEnabled = 0 := by simpa [haction, hcap] using hkeeps
      exact hcal
  | clearActive hactive hsafe =>
    have hkeeps : ch.activeFaultCause == 0 || !isSafeToClearActive ch || deEnergised ch := hkeeps
    have hde : deEnergised ch := by simpa [hactive, hsafe] using hkeeps
    simp only [deEnergised, Bool.and_eq_true, Bool.not_eq_true', beq_iff_eq] at hde
    exact ⟨hwired, fun _ => ⟨hde.1.1.1, hde.1.1.2, hde.1.2, hde.2⟩⟩
  | configure op code target =>
    refine .settle ?_ (fun hsmf => ?_) code
    · exact hwired
    · exact ⟨(hoff hsmf).1, (hoff hsmf).2.1, (hoff hsmf).2.2.1⟩
  | tripGraceful => exact .of_ne hwired' (by simp)
  | tripCleared => exact .of_ne hwired' (by simp)
  | tripOnly => exact .of_ne hwired' (by simp)
  | hold dtMs hruns hto =>
    have hto : (drive ch).rampToDisable = false := hto
    exact .of_ne hwired' (by simp [Drive.finish, hto])
  | arrive dtMs code hruns harrives =>
    cases hto : ch.rampToDisable with
    | false =>
      have hto : (drive ch).rampToDisable = false := hto
      exact .of_ne hwired' (by simp [Drive.finish, Drive.settle, hto])
    | true =>
      have hkeeps : !(rampRuns ch && ch.rampToDisable && rampArrives ch dtMs) ||
          ch.calOutputEnabled == 0 := hkeeps
      have hcal : ch.calOutputEnabled = 0 := by simpa [hruns, hto, harrives] using hkeeps
      have hto : (drive ch).rampToDisable = true := hto
      simp only [Drive.finish, hto, if_true]
      refine .settle ?_ (fun _ => ⟨rfl, rfl, hcal⟩) code
      exact hwired
  | moving dtMs code hruns =>
    refine .settle ?_ (fun hsmf => ?_) code
    · exact hwired
    · have hout : ch.outputEnabled = false := (hoff hsmf).1
      simp [rampRuns, hout] at hruns
  | cooldown => exact .of_ne hwired' (by simp)
  | exhausted => exact .of_ne hwired' (by simp)
  | retry => exact .of_ne hwired' (by simp [Drive.settle])
  | fault cause code =>
    refine .settle ?_ (fun _ => ⟨rfl, rfl, rfl⟩) code
    exact hwired
  | calReset entering code =>
    refine .settle ?_ (fun _ => ⟨rfl, rfl, rfl⟩) code
    exact hwired
  | calOn code hhard hdac =>
    have hkeeps : !hasCap ch capRawOutputDrive || hasHardSafetyFault ch ||
        ch.smf != .disabledSafe := hkeeps
    have hsmf : ch.smf ≠ .disabledSafe := by simpa [hhard, hdac] using hkeeps
    exact .of_ne hwired' hsmf
  | calOff code =>
    refine .settle ?_ (fun hsmf => ⟨?_, ?_, rfl⟩) code
    · exact hwired
    · exact (hoff hsmf).1
    · exact (hoff hsmf).2.1
  | rawDac value code =>
    refine .settle ?_ (fun hsmf => ?_) code
    · exact hwired
    · exact ⟨(hoff hsmf).1, (hoff hsmf).2.1, (hoff hsmf).2.2.1⟩

/-- The operations whose calls enter DISABLED_SAFE with the channel off and keep the gate shut. -/
def KeepsSafe (k : Kconfig) (ctrl : Controller σ) (op : PublicOp σ) : Prop :=
  EachCall k (fun ch op => keepsSafe ch op) ctrl (op.channelOps k ctrl)

instance (k : Kconfig) (ctrl : Controller σ) (op : PublicOp σ) :
    Decidable (KeepsSafe k ctrl op) :=
  inferInstanceAs (Decidable (EachCall k _ ctrl _))

/-- In every run whose operations all keep DISABLED_SAFE, a channel in that state is off in its
flags and in its last hardware command. -/
theorem disabledSafe_deEnergised (k : Kconfig) (nodes : List Node) (store : σ)
    (ops : List (PublicOp σ))
    (hops : Along (PublicOp.step k) (KeepsSafe k) (VcController.init k nodes store) ops) :
    ∀ ch ∈ (exec (PublicOp.step k) (VcController.init k nodes store) ops).channels,
      ch.smf = .disabledSafe →
        ch.outputEnabled = false ∧ ch.ramping = false ∧ ch.hw = .off := by
  have hinit : ∀ node, SafeOff (drive (VcChannel.init k node)) := fun node =>
    ⟨wired_init k node, fun _ => ⟨rfl, rfl, rfl, rfl⟩⟩
  have hcall : ∀ ch op, SafeOff (drive ch) → keepsSafe ch op → SafeOff (drive (op.step k ch)) :=
    fun ch op => safeOff_of_effect (step_effect k ch op)
  have hrun := publicRun_invariant hinit hcall hops
  intro ch hch hsmf
  obtain ⟨hout, hramping, -, hhw⟩ := (hrun ch hch).2 hsmf
  exact ⟨hout, hramping, hhw⟩

/-- A graceful disable, a hardware fault and its CLEAR_ACTIVE. -/
theorem disabledSafe_deEnergised_example :
    let ops : List (PublicOp Unit) :=
      [.controller (.channelSetField 0 .configuredTargetVoltage 300),
        .controller (.channelOutputAction 0 .enable), .controller (.tick 5000),
        .controller (.channelOutputAction 0 .disableGraceful), .controller (.tick 5000),
        .controller (.consumeFault 0 faultHardware),
        .controller (.channelFaultCommand 0 .clearActive)]
    ∀ ch ∈ (exec (PublicOp.step Kconfig.hvb)
        (VcController.init Kconfig.hvb [dacNode] ()) ops).channels,
      ch.smf = .disabledSafe →
        ch.outputEnabled = false ∧ ch.ramping = false ∧ ch.hw = .off :=
  disabledSafe_deEnergised Kconfig.hvb [dacNode] () _ (by decide +kernel)

/-- A current trip with DISABLE_IMMEDIATE leaves the output stage on, and the CLEAR_ACTIVE that
follows enters DISABLED_SAFE without switching it off. -/
theorem disabledSafe_energised :
    ¬ ∀ ops : List (PublicOp Unit), ∀ ch ∈ (exec (PublicOp.step Kconfig.hvb)
        (VcController.init Kconfig.hvb [dacNode] ()) ops).channels,
      ch.smf = .disabledSafe →
        ch.outputEnabled = false ∧ ch.ramping = false ∧ ch.hw = .off := by
  intro h
  have hrun := h [.controller (.channelSetField 0 .configuredTargetVoltage 300),
    .controller (.channelSetField 0 .currentProtectionMode 2),
    .controller (.channelSetField 0 .currentLimitThreshold 100),
    .controller (.channelOutputAction 0 .enable), .controller (.tick 5000),
    .controller (.publishCurrent 0 200000000 1), .controller (.tick 1000),
    .controller (.publishCurrent 0 0 2), .controller (.tick 1000),
    .controller (.channelFaultCommand 0 .clearActive)]
  revert hrun
  decide +kernel

end DeEnergised
