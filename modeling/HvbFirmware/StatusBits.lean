import HvbFirmware.RetryBudget

/-!
# The status bits

`status_bits` is a word that `update_status_bits` derives and each function has to refresh after its
last change. It reads the state of the SMF where the host wants to know of a ramp and of a fault, so
it tells the truth as long as the state agrees with the two, and as long as it is refreshed.
-/
namespace StatusBits

open VcTypes VcChannel VcController Runs Ramp

variable {σ : Type}

def isSet (bits mask : UInt16) : Bool := bits &&& mask != 0

/-- What the bits tell the host. -/
def Truthful (ch : Channel) : Prop :=
  isSet ch.statusBits 0x0002 = ch.outputEnabled ∧
    isSet ch.statusBits 0x0004 = ch.ramping ∧
    isSet ch.statusBits 0x0008 = decide (ch.activeFaultCause ≠ 0) ∧
    isSet ch.statusBits 0x0010 = decide (ch.faultHistoryCause ≠ 0) ∧
    isSet ch.statusBits 0x0020 = decide (ch.smf = .retryCooldown)

instance (ch : Channel) : Decidable (Truthful ch) := inferInstanceAs (Decidable (_ ∧ _))

/-! ## The word and the state it is derived from -/

/-- The status word beside what `update_status_bits` derives its upper bits from. -/
structure Panel where
  smf : SmfState
  outputEnabled : Bool
  faultHistoryCause : UInt16
  statusBits : UInt16

def panel (ch : Channel) : Panel where
  smf := ch.smf
  outputEnabled := ch.outputEnabled
  faultHistoryCause := ch.faultHistoryCause
  statusBits := ch.statusBits

/-- The word is up to date. -/
structure Shown (p : Panel) : Prop where
  output : isSet p.statusBits 0x0002 = p.outputEnabled
  ramping : isSet p.statusBits 0x0004 = decide (p.smf = .ramping)
  fault : isSet p.statusBits 0x0008 = decide (p.smf = .faultLatched ∨ p.smf = .retryCooldown)
  history : isSet p.statusBits 0x0010 = decide (p.faultHistoryCause ≠ 0)
  cooldown : isSet p.statusBits 0x0020 = decide (p.smf = .retryCooldown)

/-- The SMF state agrees with the flags of the channel. -/
structure Agrees (d : Drive) : Prop where
  ramping : d.smf = .ramping ↔ d.ramping
  fault : d.smf = .faultLatched ∨ d.smf = .retryCooldown ↔ d.active ≠ 0

theorem Agrees.truthful {ch : Channel} (h : Agrees (drive ch)) (hshown : Shown (panel ch)) :
    Truthful ch := by
  have hramping : decide (ch.smf = .ramping) = ch.ramping :=
    Bool.eq_iff_iff.mpr (decide_eq_true_iff.trans h.ramping)
  have hfault : decide (ch.smf = .faultLatched ∨ ch.smf = .retryCooldown) =
      decide (ch.activeFaultCause ≠ 0) := decide_eq_decide.mpr h.fault
  exact ⟨hshown.output, hshown.ramping.trans hramping, hshown.fault.trans hfault, hshown.history,
    hshown.cooldown⟩

/-- A word put together from six flags. -/
def word (level output ramping fault history cooldown : Bool) : UInt16 :=
  (if level then 0x0001 else 0) ||| (if output then 0x0002 else 0) |||
    (if ramping then 0x0004 else 0) ||| (if fault then 0x0008 else 0) |||
    (if history then 0x0010 else 0) ||| (if cooldown then 0x0020 else 0)

theorem isSet_word : ∀ level output ramping fault history cooldown : Bool,
    isSet (word level output ramping fault history cooldown) 0x0002 = output ∧
    isSet (word level output ramping fault history cooldown) 0x0004 = ramping ∧
    isSet (word level output ramping fault history cooldown) 0x0008 = fault ∧
    isSet (word level output ramping fault history cooldown) 0x0010 = history ∧
    isSet (word level output ramping fault history cooldown) 0x0020 = cooldown := by
  decide

theorem statusBitsOf_eq (ch : Channel) : ∃ level, statusBitsOf ch =
    word level ch.outputEnabled (decide (ch.smf = .ramping))
      (decide (ch.smf = .faultLatched ∨ ch.smf = .retryCooldown))
      (decide (ch.faultHistoryCause ≠ 0)) (decide (ch.smf = .retryCooldown)) := by
  by_cases hon : ch.smf = .enabledHolding ∨ ch.smf = .ramping
  · refine ⟨true, ?_⟩
    simp only [statusBitsOf, word, if_pos hon, decide_eq_true_eq, if_true]
  · refine ⟨decide (ch.operationalTargetVoltage ≠ 0 ∨ ch.measuredVoltage ≠ 0), ?_⟩
    simp only [statusBitsOf, word, if_neg hon, decide_eq_true_eq]

theorem shown_updateStatusBits (ch : Channel) : Shown (panel (updateStatusBits ch)) := by
  obtain ⟨level, hword⟩ := statusBitsOf_eq ch
  have hbits := isSet_word level ch.outputEnabled (decide (ch.smf = .ramping))
    (decide (ch.smf = .faultLatched ∨ ch.smf = .retryCooldown))
    (decide (ch.faultHistoryCause ≠ 0)) (decide (ch.smf = .retryCooldown))
  rw [← hword] at hbits
  exact ⟨hbits.1, hbits.2.1, hbits.2.2.1, hbits.2.2.2.1, hbits.2.2.2.2⟩

@[simp] theorem panel_applyHw (ch : Channel) : panel (applyHw ch) = panel ch := by
  unfold applyHw
  split <;> rfl

theorem shown_refresh (ch : Channel) : Shown (panel (refresh ch)) :=
  shown_updateStatusBits (applyHw ch)

/-! ## Which call leaves the word behind -/

/-- A ramp tick that finds a ramp at its target: it holds without a refresh. -/
def holdsOn (ch : Channel) : ChannelOp → Bool
  | .tickRamp _ =>
    rampRuns ch && ch.operationalTargetVoltage == selectedTarget ch && ch.ramping &&
      !ch.rampToDisable
  | _ => false

section Shown

variable {k : Kconfig} {ch : Channel}

theorem shown_request {op : ChannelOp} {ch' : Channel} (h : Shown (panel ch))
    (hstep : RequestStep k ch op ch') : Shown (panel ch') := by
  have happlied : ∀ {c : Channel}, Shown (panel c) → Shown (panel (applyHw c)) := by
    intro c hc
    rwa [panel_applyHw]
  cases hstep with
  | unchanged => exact h
  | calOn => exact happlied h
  | calOff => exact happlied h
  | rawDac => exact happlied h
  | sampled => exact h
  | setCalField => exact happlied h
  | _ => first | exact shown_refresh _ | exact shown_updateStatusBits _

theorem shown_sampleVoltage (h : Shown (panel ch)) : Shown (panel (sampleVoltage ch)) := by
  unfold sampleVoltage
  split
  · exact h
  split
  · exact shown_updateStatusBits _
  · exact h

theorem shown_sampleCurrent (h : Shown (panel ch)) : Shown (panel (sampleCurrent ch)) := by
  unfold sampleCurrent
  split
  · exact h
  split
  · exact shown_updateStatusBits _
  · exact h

theorem shown_tickRamp (h : Shown (panel ch)) (dtMs : UInt32)
    (hhold : holdsOn ch (.tickRamp dtMs) = false) : Shown (panel (tickRamp ch dtMs)) := by
  have hstep := tickRamp_step ch dtMs
  generalize tickRamp ch dtMs = ch' at hstep
  cases hstep with
  | idle => exact h
  | hold hruns hthere hramping hto => simp [holdsOn, hruns, hthere, hramping, hto] at hhold
  | off => exact shown_refresh _
  | jump => exact shown_refresh _
  | arrive => exact shown_refresh _
  | move => exact shown_refresh _

theorem shown_enterCooldown (h : Shown (panel ch)) : Shown (panel (enterCooldown ch)) := by
  unfold enterCooldown
  split
  · exact shown_updateStatusBits _
  · exact h

theorem shown_attemptRetry : Shown (panel (attemptRetry k ch)) := by
  unfold attemptRetry
  split
  · exact shown_updateStatusBits _
  split
  · exact shown_updateStatusBits _
  · exact shown_updateStatusBits _

theorem shown_tickRecovery (h : Shown (panel ch)) (sysCfg : SystemConfig) (dtMs : UInt32) :
    Shown (panel (tickRecovery k ch sysCfg dtMs)) := by
  rcases tickRecovery_cases k ch sysCfg dtMs with ⟨-, h'⟩ | ⟨-, -, h'⟩ | ⟨-, -, -, h'⟩ |
    ⟨-, -, -, h'⟩ <;> rw [h']
  · exact h
  · exact shown_enterCooldown h
  · exact shown_enterCooldown h
  · exact shown_attemptRetry

/-- Every call but the hold at the end of a ramp leaves the word up to date. -/
theorem shown_step {op : ChannelOp} (h : Shown (panel ch)) (hhold : holdsOn ch op = false) :
    Shown (panel (op.step k ch)) := by
  have hsame : ∀ {ch' : Channel}, panel ch' = panel ch → Shown (panel ch') := by
    intro ch' hpanel
    rwa [hpanel]
  cases op with
  | outputAction action => exact shown_request h (outputAction_step k ch action)
  | faultCommand cmd => exact shown_request h (faultCommand_step k ch cmd)
  | setField field value => exact shown_request h (setField_step k ch field value)
  | setConfig cfg => exact shown_request h (setConfig_step k ch cfg)
  | advance dtMs => exact h
  | sampleVoltage => exact shown_sampleVoltage h
  | sampleCurrent => exact shown_sampleCurrent h
  | tickRamp dtMs => exact shown_tickRamp h dtMs hhold
  | tickRecovery sysCfg dtMs => exact shown_tickRecovery h sysCfg dtMs
  | consumeVoltage raw => exact shown_updateStatusBits _
  | consumeCurrent raw => exact shown_updateStatusBits _
  | consumeFault cause => exact shown_updateStatusBits _
  | resetCalibration entering => exact shown_refresh _
  | calSetOutputEnable enable => exact shown_request h (calSetOutputEnable_step k ch enable)
  | calSetRawDac code => exact shown_request h (calSetRawDac_step k ch code)
  | calSample => exact shown_request h (calSample_step k ch)
  | setCalField field value => exact shown_request h (setCalField_step k ch field value)
  | loadCal cal => exact hsame (panel_applyHw _)
  | publishVoltage raw ts => exact h
  | publishCurrent raw ts => exact h

end Shown

/-! ## Which call brings the state and the flags apart -/

/-- A host disable that is accepted. -/
def acceptsDisable (ch : Channel) (action : OutputAction) : Bool :=
  (action == .disableGraceful || action == .disableImmediate || action == .disableForce) &&
    hasCap ch capOutputEnable

/-- The trip leaves the output on for a graceful ramp. -/
def tripsGracefully (ch : Channel) (op : ChannelOp) : Bool :=
  tripsOn ch op &&
    protectionAction ch ch.config.currentProtectionOutputAction == .disableGraceful

/-- The calls that leave state and flags in agreement and the word up to date. -/
def staysTruthful (ch : Channel) : ChannelOp → Bool
  | .outputAction action => !acceptsDisable ch action || ch.activeFaultCause == 0
  | .sampleCurrent => !tripsGracefully ch .sampleCurrent
  | .consumeCurrent raw => !tripsGracefully ch (.consumeCurrent raw)
  | .tickRamp dtMs =>
    !rampRuns ch ||
      if rampArrives ch dtMs then
        if ch.rampToDisable then ch.activeFaultCause == 0
        else ch.operationalTargetVoltage != selectedTarget ch
      else ch.operationalTargetVoltage == selectedTarget ch || ch.ramping
  | .tickRecovery sysCfg dtMs => !retryDue ch sysCfg dtMs
  | .consumeFault cause => ch.activeFaultCause ||| cause == 0
  | .resetCalibration _ => ch.activeFaultCause == 0
  | _ => true

theorem not_holdsOn {ch : Channel} {op : ChannelOp} (h : staysTruthful ch op) :
    holdsOn ch op = false := by
  cases op with
  | tickRamp dtMs =>
    refine Bool.eq_false_iff.mpr fun hhold => ?_
    simp only [holdsOn, Bool.and_eq_true, beq_iff_eq, Bool.not_eq_true'] at hhold
    obtain ⟨⟨⟨hruns, hthere⟩, hramping⟩, hto⟩ := hhold
    have harrives : rampArrives ch dtMs := by simp [rampArrives, hthere, hramping]
    simp [staysTruthful, hruns, harrives, hto, hthere] at h
  | _ => rfl

theorem agrees_off {d : Drive} (hsmf : d.smf = .disabledSafe ∨ d.smf = .disabledHvOn ∨
    d.smf = .calibrationOutput ∨ d.smf = .enabledHolding) (hramping : d.ramping = false)
    (hactive : d.active = 0) : Agrees d := by
  rcases hsmf with hsmf | hsmf | hsmf | hsmf <;>
    exact ⟨by simp [hsmf, hramping], by simp [hsmf, hactive]⟩

theorem agrees_fault {d : Drive} (hsmf : d.smf = .faultLatched ∨ d.smf = .retryCooldown)
    (hramping : d.ramping = false) (hactive : d.active ≠ 0) : Agrees d := by
  rcases hsmf with hsmf | hsmf <;> exact ⟨by simp [hsmf, hramping], by simp [hsmf, hactive]⟩

theorem agrees_ramping {d : Drive} (hsmf : d.smf = .ramping) (hramping : d.ramping)
    (hactive : d.active = 0) : Agrees d := ⟨by simp [hsmf, hramping], by simp [hsmf, hactive]⟩

theorem Agrees.settle {d : Drive} (h : Agrees d) (code : UInt16) : Agrees (d.settle code) :=
  ⟨h.ramping, h.fault⟩

theorem agrees_finish {d : Drive} (hactive : d.active = 0) : Agrees d.finish := by
  unfold Drive.finish
  split
  · exact agrees_off (.inl rfl) rfl hactive
  · exact agrees_off (.inr (.inr (.inr rfl))) rfl hactive

theorem active_of_rampRuns {ch : Channel} (hruns : rampRuns ch) (hto : ch.rampToDisable = false) :
    ch.activeFaultCause = 0 := by
  simp only [rampRuns, hto, decide_eq_true_eq] at hruns
  simpa using hruns.2

theorem agrees_tickRamp {ch : Channel} {dtMs : UInt32} (h : Agrees (drive ch))
    (hstays : staysTruthful ch (.tickRamp dtMs)) : Agrees (drive (tickRamp ch dtMs)) := by
  -- a ramp that arrives finds no fault
  have hactive : rampRuns ch → rampArrives ch dtMs → ch.activeFaultCause = 0 := by
    intro hruns harrives
    cases hto : ch.rampToDisable with
    | false => exact active_of_rampRuns hruns hto
    | true => simpa [staysTruthful, hruns, harrives, hto] using hstays
  have hstep := tickRamp_step ch dtMs
  generalize tickRamp ch dtMs = ch' at hstep
  cases hstep with
  | idle => exact h
  | hold hruns hthere hramping hto =>
    rw [drive_finishRamp]
    exact agrees_finish (active_of_rampRuns hruns hto)
  | off hruns hthere hramping hto =>
    rw [drive_refresh, drive_finishRamp]
    exact (agrees_finish (hactive hruns (by simp [rampArrives, hthere, hramping]))).settle _
  | jump hruns hdiffers hzero =>
    have harrives : rampArrives ch dtMs := by
      rcases hzero with hzero | hzero <;> simp [rampArrives, hdiffers, hzero]
    rw [drive_refresh, drive_finishRamp]
    exact (agrees_finish (hactive hruns harrives)).settle _
  | arrive hmoves harrives =>
    simp only [rampMoves, decide_eq_true_eq] at hmoves
    rw [drive_refresh, drive_finishRamp]
    exact (agrees_finish (hactive hmoves.1 (by simp [rampArrives, hmoves.2.1, harrives]))).settle _
  | move hmoves hmoving =>
    simp only [rampMoves, decide_eq_true_eq] at hmoves
    obtain ⟨hruns, hdiffers, hstep, hinterval⟩ := hmoves
    have hnot : rampArrives ch dtMs = false := by
      simp [rampArrives, hdiffers, hstep, hinterval, hmoving]
    have hramping : ch.ramping := by simpa [staysTruthful, hruns, hnot, hdiffers] using hstays
    have hsmf : ch.smf = .ramping := h.ramping.mpr hramping
    rw [drive_refresh]
    exact ⟨⟨fun _ => rfl, fun _ => hsmf⟩, h.fault⟩

theorem not_graceful {ch : Channel} {op : ChannelOp} (hstays : staysTruthful ch op)
    (htrip : tripsOn ch op) (haction : protectionAction ch
      ch.config.currentProtectionOutputAction = .disableGraceful) : False := by
  cases op with
  | sampleCurrent => simp [staysTruthful, tripsGracefully, htrip, haction] at hstays
  | consumeCurrent raw => simp [staysTruthful, tripsGracefully, htrip, haction] at hstays
  | _ => cases htrip

theorem ramping_of_retryable {ch : Channel} {sysCfg : SystemConfig} (h : retryable ch sysCfg) :
    ch.ramping = false := by
  simp only [retryable, decide_eq_true_eq] at h
  simpa using h.2.2.2

theorem active_of_acceptsDisable {ch : Channel} {action : OutputAction}
    (hstays : staysTruthful ch (.outputAction action)) (h : acceptsDisable ch action) :
    ch.activeFaultCause = 0 := by
  simpa [staysTruthful, h] using hstays

theorem agrees_step {k : Kconfig} {ch : Channel} {op : ChannelOp} (h : Agrees (drive ch))
    (hstays : staysTruthful ch op) : Agrees (drive (op.step k ch)) := by
  have heff := step_effect k ch op
  have hcurrent : faultCurrent ≠ 0 := by decide
  have hexhausted : faultCurrent ||| faultRetryExhaust ≠ 0 := by decide
  generalize hd : drive (op.step k ch) = d' at heff
  cases heff with
  | quiet => exact h
  | enable code hactive => exact agrees_ramping rfl rfl hactive
  | graceful code hdac hcap =>
    have hactive := active_of_acceptsDisable hstays (by simp [acceptsDisable, hcap])
    exact agrees_ramping rfl rfl hactive
  | immediate code hdac hcap =>
    have hactive := active_of_acceptsDisable hstays (by simp [acceptsDisable, hcap])
    exact agrees_off (.inr (.inl rfl)) rfl hactive
  | force action code haction hcap =>
    have haccepts : acceptsDisable ch action := by
      unfold hostAction at haction
      cases action <;> simp_all [acceptsDisable]
    exact agrees_off (.inl rfl) rfl (active_of_acceptsDisable hstays haccepts)
  | clearActive hactive hsafe =>
    have hsmf := h.fault.mpr hactive
    have hramping : ch.ramping = false := Bool.eq_false_iff.mpr fun hramping => by
      have := h.ramping.mpr hramping
      rcases hsmf with h' | h' <;> simp [h'] at this
    exact agrees_off (.inl rfl) hramping rfl
  | configure => exact ⟨h.ramping, h.fault⟩
  | tripGraceful op code htrip hactive haction => exact (not_graceful hstays htrip haction).elim
  | tripCleared => exact agrees_fault (.inl rfl) rfl hcurrent
  | tripOnly op code htrip => exact agrees_fault (.inl rfl) (ramping_of_tripsOn htrip) hcurrent
  | cooldown sysCfg dtMs hretry hactive =>
    have hne : ch.activeFaultCause ≠ 0 := by
      rw [hactive]
      exact hcurrent
    exact agrees_fault (.inr rfl) (ramping_of_retryable hretry) hne
  | exhausted sysCfg dtMs hretry =>
    exact agrees_fault (.inl rfl) (ramping_of_retryable hretry) hexhausted
  | retry sysCfg dtMs code hdue => simp [staysTruthful, hdue] at hstays
  | fault cause code =>
    have hactive : ch.activeFaultCause ||| cause = 0 := by simpa [staysTruthful] using hstays
    exact agrees_off (.inl rfl) rfl hactive
  | calReset entering code =>
    have hactive : ch.activeFaultCause = 0 := by simpa [staysTruthful] using hstays
    cases entering with
    | true => exact agrees_off (.inr (.inr (.inl rfl))) rfl hactive
    | false => exact agrees_off (.inl rfl) rfl hactive
  | calOn => exact ⟨h.ramping, h.fault⟩
  | calOff => exact ⟨h.ramping, h.fault⟩
  | rawDac => exact ⟨h.ramping, h.fault⟩
  | hold dtMs =>
    rw [← hd]
    exact agrees_tickRamp h hstays
  | arrive dtMs =>
    rw [← hd]
    exact agrees_tickRamp h hstays
  | moving dtMs =>
    rw [← hd]
    exact agrees_tickRamp h hstays

/-! ## Runs -/

theorem shown_init (k : Kconfig) (node : Node) : Shown (panel (VcChannel.init k node)) where
  output := by simp [panel, VcChannel.init, isSet]
  ramping := by simp [panel, VcChannel.init, isSet]
  fault := by simp [panel, VcChannel.init, isSet]
  history := by simp [panel, VcChannel.init, isSet]
  cooldown := by simp [panel, VcChannel.init, isSet]

/-- The operations each call of which stays truthful. -/
def StaysTruthful (k : Kconfig) (ctrl : Controller σ) (op : PublicOp σ) : Prop :=
  EachCall k (fun ch op => staysTruthful ch op) ctrl (op.channelOps k ctrl)

instance (k : Kconfig) (ctrl : Controller σ) (op : PublicOp σ) :
    Decidable (StaysTruthful k ctrl op) := inferInstanceAs (Decidable (EachCall k _ ctrl _))

/-- In every run whose calls keep the SMF state in agreement with the flags and refresh the word,
the status bits of every channel are truthful. -/
theorem statusBits_truthful (k : Kconfig) (nodes : List Node) (store : σ)
    (ops : List (PublicOp σ))
    (hops : Along (PublicOp.step k) (StaysTruthful k) (VcController.init k nodes store) ops) :
    ∀ ch ∈ (exec (PublicOp.step k) (VcController.init k nodes store) ops).channels,
      Truthful ch := by
  have hinit : ∀ node, Agrees (drive (VcChannel.init k node)) ∧
      Shown (panel (VcChannel.init k node)) := fun node =>
    ⟨agrees_off (.inl rfl) rfl rfl, shown_init k node⟩
  have hrun := publicRun_invariant (I := fun ch => Agrees (drive ch) ∧ Shown (panel ch)) hinit
    (fun ch op h hstays => ⟨agrees_step h.1 hstays, shown_step h.2 (not_holdsOn hstays)⟩) hops
  exact fun ch hch => (hrun ch hch).1.truthful (hrun ch hch).2

/-- A ramp to the target, a trip with DISABLE_FORCE and the cooldown after it. -/
theorem statusBits_truthful_example :
    let ops : List (PublicOp Unit) :=
      (RetryBudget.retryOps Unit ++
        [ControllerOp.publishCurrent 0 200000000 1, .tick 1000]).map .controller
    ∀ ch ∈ (exec (PublicOp.step Kconfig.hvb)
      (VcController.init Kconfig.hvb [dacNode] ()) ops).channels, Truthful ch :=
  statusBits_truthful Kconfig.hvb [dacNode] () _ (by decide +kernel)

/-- A hardware fault is active, and the bit of it is clear. -/
theorem statusBits_untruthful :
    ¬ ∀ ops : List (PublicOp Unit), ∀ ch ∈ (exec (PublicOp.step Kconfig.hvb)
        (VcController.init Kconfig.hvb [dacNode] ()) ops).channels, Truthful ch := by
  intro h
  have hrun := h [.controller (.consumeFault 0 faultHardware)]
  revert hrun
  decide +kernel

end StatusBits
