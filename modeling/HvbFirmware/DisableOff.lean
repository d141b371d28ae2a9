import HvbFirmware.DeEnergised

/-!
# A disable of a channel that is off

The disables are written for a channel that is on: DISABLE_GRACEFUL starts a ramp with the output
on, and DISABLE_IMMEDIATE keeps the stage on in DISABLED_HV_ON. On a channel whose last command was
off both of them switch the stage on, and so does a retry that a disable leaves pending.
-/
namespace DisableOff

open VcTypes VcChannel VcController Runs DeEnergised

variable {σ : Type}

/-! ## The watch on a channel that was disabled -/

/-- The last enable that the channel has sent out, or the one it starts with, is off. -/
def commandedOff (ch : Channel) : Bool := hasSetEnable ch && !ch.hw.enable

/-- A disable that the channel accepts, of the host or of a change from AUTOMATIC to NORMAL, which
sends one to every channel, or a protection action. -/
def disables (ch : Channel) (op : ChannelOp) : Bool :=
  match op with
  | .outputAction action =>
    (action == .disableGraceful || action == .disableImmediate || action == .disableForce) &&
      (outputAction ch action).1 == .ok
  | _ => tripsOn ch op

def isHostCall : ChannelOp → Bool
  | .outputAction _ | .faultCommand _ | .setField _ _ | .setConfig _ | .resetCalibration _
  | .calSetOutputEnable _ | .calSetRawDac _ | .calSample | .setCalField _ _ | .loadCal _ => true
  | _ => false

/-- The code before the accepted disable of a channel that was off, until the next call of the
host. A disable that the channel refuses is such a call, and starts no watch. -/
def watchAfter (ch : Channel) (op : ChannelOp) (watch : Option UInt16) : Option UInt16 :=
  if disables ch op then if commandedOff ch then some ch.hw.code else none
  else if isHostCall op then none
  else watch

/-- What is asked of every call from the disable on. -/
def staysOff (k : Kconfig) (p : Channel × Option UInt16) (op : ChannelOp) : Prop :=
  ∀ code ∈ watchAfter p.1 op p.2,
    (op.step k p.1).hw.enable = false ∧ (op.step k p.1).hw.code ≤ code

instance (k : Kconfig) (p : Channel × Option UInt16) (op : ChannelOp) :
    Decidable (staysOff k p op) := inferInstanceAs (Decidable (∀ code ∈ watchAfter p.1 op p.2, _))

/-- The protection action of the channel leaves the stage on. -/
def tripEnergises (ch : Channel) : Bool :=
  protectionAction ch ch.config.currentProtectionOutputAction == .disableGraceful ||
    protectionAction ch ch.config.currentProtectionOutputAction == .disableImmediate

/-- The calls that switch on the stage of a channel that is off, ENABLE and calibration apart. -/
def energises (ch : Channel) (op : ChannelOp) : Bool :=
  hostDisable ch op || tripsOn ch op && tripEnergises ch ||
    match op with
    | .tickRecovery sysCfg dtMs => retryDue ch sysCfg dtMs
    | _ => false

/-- A watched channel is not switched on. -/
def keepsOff (p : Channel × Option UInt16) (op : ChannelOp) : Bool :=
  (watchAfter p.1 op p.2).isNone || !energises p.1 op

/-! ## A command that is off -/

/-- Everything that makes `apply_hw` switch the stage on. -/
def energised (d : Drive) : Bool := d.cal != 0 || d.outputEnabled || d.smf == .disabledHvOn

theorem enable_command (d : Drive) (code : UInt16) : (d.command code).enable = energised d := by
  unfold Drive.command energised
  split
  next hcal => simp [hcal]
  next hcal =>
  split
  next hout => simp [hout]
  next hout =>
  split
  next hsmf => simp [hsmf]
  next hsmf =>
    have hcal : d.cal = 0 := Decidable.not_not.mp hcal
    simp [hcal, hout, hsmf, HwCommand.off]

theorem enable_settle {d : Drive} (h : d.hasEnable) (code : UInt16) :
    (d.settle code).hw.enable = energised d := by
  rw [← enable_command d code]
  exact if_pos h

/-- A command with its enable off comes from a channel that is off, and has the code 0. -/
def OffCommand (d : Drive) : Prop :=
  Wired d ∧ (d.hasEnable → d.hw.enable = false → energised d = false ∧ d.hw = .off)

theorem off_of_energised {d : Drive} (h : energised d = false) :
    d.cal = 0 ∧ d.outputEnabled = false ∧ d.smf ≠ .disabledHvOn := by
  simpa [energised, and_assoc] using h

theorem OffCommand.settle {d : Drive} (h : Wired d) (code : UInt16) :
    OffCommand (d.settle code) := by
  refine ⟨h.settle code, fun hhook henable => ?_⟩
  have hhook : d.hasEnable := hhook
  rw [enable_settle hhook] at henable
  obtain ⟨hcal, hout, hsmf⟩ := off_of_energised henable
  exact ⟨henable, settle_off h hcal hout hsmf code⟩

/-- Another fault and another SMF state than DISABLED_HV_ON leave a command off. -/
theorem OffCommand.leave {d : Drive} (h : OffCommand d) (active : UInt16) {smf : SmfState}
    (hsmf : smf ≠ .disabledHvOn) : OffCommand { d with active := active, smf := smf } := by
  refine ⟨h.1, fun hhook henable => ?_⟩
  obtain ⟨hoff, hhw⟩ := h.2 hhook henable
  obtain ⟨hcal, hout, -⟩ := off_of_energised hoff
  exact ⟨by simp [energised, hcal, hout, hsmf], hhw⟩

theorem OffCommand.of_effect {k : Kconfig} {ch : Channel} {op : ChannelOp} {d' : Drive}
    (heff : Effect k ch op d') (h : OffCommand (drive ch)) : OffCommand d' := by
  have hwired := h.1
  cases heff with
  | quiet => exact h
  | clearActive => exact h.leave 0 (by simp)
  | cooldown => exact h.leave ch.activeFaultCause (by simp)
  | exhausted => exact h.leave _ (by simp)
  | tripGraceful op code =>
    have hgraceful : Wired (drive ch).graceful := hwired
    exact (OffCommand.settle hgraceful code).leave _ (by simp)
  | tripCleared op code smf =>
    have hcleared : Wired ((drive ch).cleared smf) := hwired
    exact (OffCommand.settle hcleared code).leave _ (by simp)
  | tripOnly op code => exact (OffCommand.settle hwired code).leave _ (by simp)
  | hold dtMs hruns hto =>
    have hfinish : (drive ch).finish =
        { drive ch with ramping := false, recovering := false, smf := .enabledHolding } :=
      if_neg (by simp [drive, hto])
    rw [hfinish]
    exact h.leave ch.activeFaultCause (by simp)
  | arrive =>
    refine OffCommand.settle (Wired.finish ?_) _
    exact hwired
  | _ =>
    refine OffCommand.settle ?_ _
    exact hwired

theorem hasEnable_of_effect {k : Kconfig} {ch : Channel} {op : ChannelOp} {d' : Drive}
    (heff : Effect k ch op d') : d'.hasEnable = hasSetEnable ch := by
  have hfinish : ∀ d : Drive, d.finish.hasEnable = d.hasEnable := by
    intro d
    unfold Drive.finish
    split <;> rfl
  cases heff with
  | hold => exact hfinish _
  | arrive => exact hfinish _
  | _ => rfl

theorem offCommand_init (k : Kconfig) (node : Node) : OffCommand (drive (VcChannel.init k node)) :=
  ⟨wired_init k node, fun _ _ => ⟨rfl, rfl⟩⟩

/-! ## The calls that switch the stage on -/

section Calls

variable {k : Kconfig} {ch : Channel}

theorem enable_applyHw (h : hasSetEnable ch) : (applyHw ch).hw.enable = energised (drive ch) := by
  have hdrive := congrArg (fun d : Drive => d.hw.enable) (drive_applyHw ch)
  exact hdrive.trans (enable_settle h _)

/-- A channel whose command is off is off. -/
theorem off_of_commandedOff (h : OffCommand (drive ch)) (hoff : commandedOff ch) :
    energised (drive ch) = false := by
  simp only [commandedOff, Bool.and_eq_true, Bool.not_eq_true'] at hoff
  exact (h.2 hoff.1 hoff.2).1

/-- Protection actions on a channel that is off. -/
theorem enable_applyProtectionAction {action : OutputAction} (hhook : hasSetEnable ch)
    (hoff : energised (drive ch) = false) :
    (applyProtectionAction ch action).hw.enable =
      (protectionAction ch action == .disableGraceful ||
        protectionAction ch action == .disableImmediate) := by
  obtain ⟨hcal, hout, hsmf⟩ := off_of_energised hoff
  have hcal : ch.calOutputEnabled = 0 := hcal
  have hout : ch.outputEnabled = false := hout
  unfold applyProtectionAction
  rw [enable_applyHw (by cases protectionAction ch action <;> exact hhook)]
  cases protectionAction ch action with
  | disableGraceful => exact (Bool.or_eq_true _ _).mpr (.inl (Bool.or_true _))
  | disableImmediate => exact Bool.or_true _
  | disableForce => simp [energised, drive, noteProtection, clearDrive, hcal]; rfl
  | _ => exact hoff

theorem enable_trip (hhook : hasSetEnable ch) (hoff : energised (drive ch) = false)
    (h : trips ch) : (tickCurrentProtection ch).hw.enable = tripEnergises ch := by
  have hlatched : energised (drive (latchCurrentFault (recordCurrentFault ch))) = false := hoff
  rw [tickCurrentProtection_trips h]
  exact enable_applyProtectionAction hhook hlatched

theorem enable_consumeCurrent {raw : Int32} (hhook : hasSetEnable ch)
    (hoff : energised (drive ch) = false) (h : trips (measureCurrent ch raw)) :
    (consumeCurrent ch raw).hw.enable = tripEnergises ch := by
  have hramping : (measureCurrent ch raw).ramping = false := by
    simp only [trips, decide_eq_true_eq] at h
    simpa using h.2.1
  show (if !(measureCurrent ch raw).ramping then tickCurrentProtection (measureCurrent ch raw)
    else measureCurrent ch raw).hw.enable = tripEnergises ch
  rw [if_pos (by simp [hramping])]
  exact enable_trip hhook hoff h

theorem enable_tripsOn {op : ChannelOp} (hhook : hasSetEnable ch)
    (hoff : energised (drive ch) = false) (h : tripsOn ch op) :
    (op.step k ch).hw.enable = tripEnergises ch := by
  obtain ⟨raw, htaken, htrip⟩ := tripsOn_iff.mp h
  cases op with
  | consumeCurrent raw' =>
    obtain rfl : raw' = raw := Option.some.inj htaken
    exact enable_consumeCurrent hhook hoff htrip
  | sampleCurrent =>
    show (sampleCurrent ch).hw.enable = tripEnergises ch
    rcases sampleCurrent_cases ch with ⟨hnone, -⟩ | ⟨raw', ts, hsome, hstep⟩
    · exact absurd htaken (by simp [hnone])
    · obtain rfl : raw' = raw := Option.some.inj (hsome.symm.trans htaken)
      rw [hstep]
      exact enable_consumeCurrent hhook hoff htrip
  | _ => cases h

/-- DISABLE_GRACEFUL and DISABLE_IMMEDIATE switch the stage on. -/
theorem enable_hostDisable {op : ChannelOp} (hhook : hasSetEnable ch) (h : hostDisable ch op) :
    (op.step k ch).hw.enable = true := by
  cases op with
  | outputAction action =>
    simp only [hostDisable, Bool.and_eq_true, Bool.or_eq_true, beq_iff_eq] at h
    obtain ⟨⟨haction, hdac⟩, hcap⟩ := h
    show (outputAction ch action).2.hw.enable = true
    rcases haction with rfl | rfl
    · rw [outputAction_graceful hdac hcap]
      have hstart : hasSetEnable { startGracefulRamp ch with cooldownRemainingMs := 0 } := hhook
      refine (enable_applyHw hstart).trans ?_
      simp [energised, drive, startGracefulRamp]
    · rw [outputAction_immediate hdac hcap]
      have hclear : hasSetEnable (clearDrive ch .disabledHvOn) := hhook
      refine (enable_applyHw hclear).trans ?_
      simp [energised, drive, clearDrive]
  | _ => cases h

/-- A retry switches the stage on. -/
theorem enable_retry {sysCfg : SystemConfig} {dtMs : UInt32} (hhook : hasSetEnable ch)
    (h : retryDue ch sysCfg dtMs) : (tickRecovery k ch sysCfg dtMs).hw.enable = true := by
  have hstep := tickRecovery_step k ch sysCfg dtMs
  generalize tickRecovery k ch sysCfg dtMs = ch' at hstep
  cases hstep with
  | idle hretry => exact absurd h (by simp [retryDue, hretry])
  | cooling _ hdue => exact absurd h (by simp [hdue])
  | exhausted _ hdue => exact absurd h (by simp [hdue])
  | retry =>
    have hwaited : hasSetEnable (waited ch) = hasSetEnable ch :=
      congrArg Drive.hasEnable (drive_enterCooldown ch)
    obtain ⟨code, hstart⟩ := drive_startRecovery (recordRetryAttempt k (waited ch))
      (Int16.ofInt (retryTarget ch))
    rw [drive_recordRetryAttempt] at hstart
    have henable := congrArg (fun d : Drive => d.hw.enable) hstart
    dsimp only at henable
    rw [enable_settle (hwaited.trans hhook)] at henable
    refine henable.trans ?_
    simp [energised]

/-- The other calls that a watched channel sees leave the stage off. -/
theorem off_of_effect {op : ChannelOp} {d' : Drive} (heff : Effect k ch op d')
    (h : OffCommand (drive ch)) (hoff : commandedOff ch)
    (hop : disables ch op ∨ isHostCall op = false) (htrip : tripsOn ch op = false)
    (hnot : energises ch op = false) : d'.hw.enable = false := by
  obtain ⟨hcal, hout, hsmf⟩ := off_of_energised (off_of_commandedOff h hoff)
  have hout' : ch.outputEnabled = false := hout
  simp only [commandedOff, Bool.and_eq_true, Bool.not_eq_true'] at hoff
  obtain ⟨hhook, henable⟩ := hoff
  simp only [energises, Bool.or_eq_false_iff] at hnot
  obtain ⟨⟨hdisable, -⟩, hretry⟩ := hnot
  have hidle : rampRuns ch = false := by simp [rampRuns, hout']
  have hseen : disables ch op = false → isHostCall op = true → False := by
    intro hother hhost
    simp [hother, hhost] at hop
  cases heff with
  | quiet => exact henable
  | clearActive => exact henable
  | cooldown => exact henable
  | exhausted => exact henable
  | graceful code hdac hcap => simp [hostDisable, hdac, hcap] at hdisable
  | immediate code hdac hcap => simp [hostDisable, hdac, hcap] at hdisable
  | force action code =>
    rw [enable_settle hhook]
    simp [energised, Drive.cleared, hcal]
  | configure op code target =>
    rw [enable_settle hhook]
    simp [energised, hcal, hout, hsmf]
  | tripGraceful op code h => exact absurd h (by simp [htrip])
  | tripCleared op code smf h => exact absurd h (by simp [htrip])
  | tripOnly op code h => exact absurd h (by simp [htrip])
  | hold dtMs hruns => exact absurd hruns (by simp [hidle])
  | arrive dtMs code hruns => exact absurd hruns (by simp [hidle])
  | moving dtMs code hruns => exact absurd hruns (by simp [hidle])
  | retry sysCfg dtMs code hdue => exact absurd hdue (by simp [hretry])
  | fault cause code =>
    rw [enable_settle hhook]
    simp [energised]
  | enable => exact (hseen rfl rfl).elim
  | calReset => exact (hseen rfl rfl).elim
  | calOn => exact (hseen rfl rfl).elim
  | calOff => exact (hseen rfl rfl).elim
  | rawDac => exact (hseen rfl rfl).elim

/-- A channel that is off is switched on by the calls of `energises`, and by no other call that a
watch sees. -/
theorem enable_step {op : ChannelOp} (h : OffCommand (drive ch)) (hoff : commandedOff ch)
    (hop : disables ch op ∨ isHostCall op = false) :
    (op.step k ch).hw.enable = energises ch op := by
  have henergised := off_of_commandedOff h hoff
  have hhook : hasSetEnable ch := by
    simp only [commandedOff, Bool.and_eq_true] at hoff
    exact hoff.1
  by_cases htrip : tripsOn ch op
  · rw [enable_tripsOn hhook henergised htrip]
    cases op with
    | sampleCurrent => simp [energises, hostDisable, htrip]
    | consumeCurrent raw => simp [energises, hostDisable, htrip]
    | _ => cases htrip
  have htrip : tripsOn ch op = false := Bool.eq_false_iff.mpr htrip
  cases hcase : energises ch op with
  | false => exact off_of_effect (step_effect k ch op) h hoff hop htrip hcase
  | true =>
    simp only [energises, htrip, Bool.false_and, Bool.or_false, Bool.or_eq_true] at hcase
    rcases hcase with hdisable | hretry
    · exact enable_hostDisable hhook hdisable
    · cases op with
      | tickRecovery sysCfg dtMs => exact enable_retry hhook hretry
      | _ => cases hretry

end Calls

/-! ## Runs -/

/-- The command of a watched channel is off, with a code no higher than before the disable. -/
def Watched (p : Channel × Option UInt16) : Prop :=
  OffCommand (drive p.1) ∧ ∀ code ∈ p.2, commandedOff p.1 ∧ p.1.hw.code ≤ code

theorem commandedOff_of_watchAfter {ch : Channel} {op : ChannelOp} {watch : Option UInt16}
    {code : UInt16} (h : Watched (ch, watch)) (hcode : code ∈ watchAfter ch op watch) :
    (commandedOff ch ∧ (disables ch op ∨ isHostCall op = false)) ∧ ch.hw.code ≤ code := by
  unfold watchAfter at hcode
  split at hcode
  next hdisables =>
    split at hcode
    next hoff =>
      obtain rfl := Option.mem_some_iff.mp hcode
      exact ⟨⟨hoff, .inl hdisables⟩, UInt16.le_refl _⟩
    · cases hcode
  split at hcode
  · cases hcode
  next hhost =>
    obtain ⟨hoff, hle⟩ := h.2 code hcode
    exact ⟨⟨hoff, .inr (by simpa using hhost)⟩, hle⟩

/-- A call leaves a watched channel off exactly if it is none of those that switch it on. -/
theorem staysOff_iff {k : Kconfig} {p : Channel × Option UInt16} {op : ChannelOp}
    (h : Watched p) : staysOff k p op ↔ keepsOff p op := by
  obtain ⟨ch, watch⟩ := p
  unfold staysOff keepsOff
  dsimp only
  cases hwatch : watchAfter ch op watch with
  | none => simp
  | some code =>
    obtain ⟨⟨hoff, hop⟩, hle⟩ := commandedOff_of_watchAfter h hwatch
    have henable := enable_step (k := k) h.1 hoff hop
    have hafter := h.1.of_effect (step_effect k ch op)
    have hhook : (drive (op.step k ch)).hasEnable := by
      simp only [commandedOff, Bool.and_eq_true] at hoff
      exact (hasEnable_of_effect (step_effect k ch op)).trans hoff.1
    rw [henable]
    refine ⟨fun hstays => ?_, fun hkeeps code' _ => ?_⟩
    · have hnot := (hstays code rfl).1
      simp [hnot]
    · have hnot : energises ch op = false := by simpa using hkeeps
      have hhw : (op.step k ch).hw = .off := (hafter.2 hhook (henable.trans hnot)).2
      rw [hhw]
      exact ⟨hnot, UInt16.zero_le⟩

theorem watched_call {k : Kconfig} {p : Channel × Option UInt16} {op : ChannelOp}
    (h : Watched p) (hkeeps : keepsOff p op) :
    Watched (watched (ChannelOp.step k) watchAfter p op) := by
  obtain ⟨ch, watch⟩ := p
  have heff := step_effect k ch op
  refine ⟨h.1.of_effect heff, fun code hcode => ?_⟩
  obtain ⟨⟨hoff, -⟩, -⟩ := commandedOff_of_watchAfter h hcode
  obtain ⟨henable, hle⟩ := (staysOff_iff h).mpr hkeeps code hcode
  have hhook : hasSetEnable (op.step k ch) = hasSetEnable ch := hasEnable_of_effect heff
  have henable : (op.step k ch).hw.enable = false := henable
  simp only [commandedOff, Bool.and_eq_true] at hoff
  exact ⟨by simp [commandedOff, watched, hhook, hoff.1, henable], hle⟩

/-- The controller beside the watch on channel `i`. -/
def watchDisabled (k : Kconfig) (i : Nat) (p : Controller σ × Option UInt16) (op : PublicOp σ) :
    Controller σ × Option UInt16 :=
  watched (PublicOp.step k) (publicHistory k i watchAfter) p op

/-- Every call that an operation makes on channel `i` meets `Q`, with the watch before it. -/
def EachDisabled (k : Kconfig) (i : Nat) (Q : Channel × Option UInt16 → ChannelOp → Prop)
    (p : Controller σ × Option UInt16) (op : PublicOp σ) : Prop :=
  ∀ ch ∈ p.1.channels[i]?, Along (watched (ChannelOp.step k) watchAfter) Q (ch, p.2)
    (op.channelOps k p.1 i ch)

instance (k : Kconfig) (i : Nat) (Q : Channel × Option UInt16 → ChannelOp → Prop)
    [∀ p op, Decidable (Q p op)] (p : Controller σ × Option UInt16) (op : PublicOp σ) :
    Decidable (EachDisabled k i Q p op) :=
  inferInstanceAs (Decidable (∀ ch ∈ p.1.channels[i]?, _))

/-- In every run, an accepted disable of channel `i` while its last command is off leaves it off,
with a code no higher, in that call and in all that follow up to the next call of the host, exactly
if none of these calls carries out a DISABLE_GRACEFUL or a DISABLE_IMMEDIATE, trips into one of
them, or retries. -/
theorem disable_off (k : Kconfig) (nodes : List Node) (store : σ) (i : Nat)
    (ops : List (PublicOp σ)) :
    Along (watchDisabled k i) (EachDisabled k i (staysOff k))
        (VcController.init k nodes store, none) ops ↔
      Along (watchDisabled k i) (EachDisabled k i fun p op => keepsOff p op)
        (VcController.init k nodes store, none) ops :=
  publicHistory_along_congr (I := Watched) (fun _ _ => watched_call) (fun _ _ => staysOff_iff)
    fun node => ⟨offCommand_init k node, by simp⟩

/-- A DISABLE_IMMEDIATE switches on the stage of a channel that has just booted. -/
theorem disable_energises :
    ¬ ∀ ops : List (PublicOp Unit), Along (watchDisabled Kconfig.hvb 0)
      (EachDisabled Kconfig.hvb 0 (staysOff Kconfig.hvb))
      (VcController.init Kconfig.hvb [dacNode] (), none) ops := by
  intro h
  have hrun := h [.controller (.channelOutputAction 0 .disableImmediate)]
  revert hrun
  decide +kernel

end DisableOff
