import HvbFirmware.RampLaw
import HvbFirmware.RetryDelay
import HvbFirmware.VcCatalog

/-!
# The register of the cooldown

AUTO_COOLDOWN_REMAINING serves `cooldown_remaining_ms`, which `tick_recovery` loads and counts down.
A graceful disable, a hardware fault and a calibration reset clear it, a disable without a ramp
and a clear command leave it at what was left, and the register shows that until the next cooldown.
-/
namespace CooldownRegister

open VcTypes VcChannel VcController VcCatalog Runs RampLaw

variable {σ : Type}

/-! ## The time to a retry -/

/-- The channel at the `tick_recovery` of a tick. -/
def atRecovery (ch : Channel) (dtMs : UInt32) : Channel :=
  tickRamp (sampleCurrent (sampleVoltage (advance ch dtMs))) dtMs

theorem run_eq (k : Kconfig) (ch : Channel) (dtMs : UInt32) (sysCfg : SystemConfig) :
    run k ch dtMs sysCfg = tickRecovery k (atRecovery ch dtMs) sysCfg dtMs := rfl

/-- The `tick_recovery` of a tick finds its wait over. -/
def mayRetry (sysCfg : SystemConfig) (ch : Channel) (dtMs : UInt32) : Bool :=
  retryable (atRecovery ch dtMs) sysCfg ∧ retryWaitMs (atRecovery ch dtMs) ≤ dtMs

def mayRetryWithin (k : Kconfig) (sysCfg : SystemConfig) (ch : Channel) : List UInt32 → Bool
  | [] => false
  | dtMs :: dts => mayRetry sysCfg ch dtMs || mayRetryWithin k sysCfg (run k ch dtMs sysCfg) dts

/-- Ticks lead to a retry exactly if they take `leftMs` or more. -/
def LeftToElapse (k : Kconfig) (sysCfg : SystemConfig) (ch : Channel) (leftMs : Nat) : Prop :=
  ∀ dtMs dts, mayRetryWithin k sysCfg ch (dtMs :: dts) ↔ leftMs ≤ totalMs (dtMs :: dts)

/-- What the register tells the host. In RETRY_COOLDOWN without a fault the retry has been made. -/
structure Truthful (k : Kconfig) (ch : Channel) : Prop where
  elsewhere : ch.smf ≠ .retryCooldown → channelValue ch .autoCooldownRemaining = (.ok, 0)
  waiting : ch.smf = .retryCooldown → ch.activeFaultCause ≠ 0 →
    isRetryPolicy ch.config.recoveryPolicyMode → ∀ sysCfg : SystemConfig,
      sysCfg.operatingMode = .automatic → ∃ (c : UInt32) (leftMs : Nat),
        channelValue ch .autoCooldownRemaining = (.ok, c) ∧ LeftToElapse k sysCfg ch leftMs ∧
          c.toNat * 1000 ≤ leftMs ∧ leftMs < (c.toNat + 1) * 1000

/-! ## What holds in every run -/

/-- A cooldown waits for the one fault that is retried, with the ramp at rest. A ramp to 0 that was
broken off has its target reached. -/
structure Halted (d : Drive) : Prop where
  dest : d.gracefulRampDest = 0
  broken : d.rampToDisable → d.ramping = false → d.operational = 0
  fault : d.smf = .retryCooldown → d.active ≠ 0 → d.active = faultCurrent ∧ d.ramping = false

/-- A cooldown is over when its fault is gone, and has at most the longest delay left. -/
structure Sound (ch : Channel) : Prop where
  halted : Halted (drive ch)
  retried : ch.smf = .retryCooldown → ch.activeFaultCause = 0 → ch.cooldownRemainingMs = 0
  range : ch.cooldownRemainingMs.toNat ≤ 65535000

/-- Outside of RETRY_COOLDOWN less than a second is left. -/
def Cleared (ch : Channel) : Prop :=
  ch.smf ≠ .retryCooldown → ch.cooldownRemainingMs < 1000

theorem sound_init (k : Kconfig) (node : Node) : Sound (VcChannel.init k node) where
  halted := ⟨rfl, fun _ _ => rfl, fun _ h => absurd rfl h⟩
  retried := fun _ _ => rfl
  range := Nat.zero_le _

section Steps

variable {k : Kconfig} {ch : Channel}

/-- In RETRY_COOLDOWN a fault keeps the ramp from running, also one that was broken off. -/
theorem Halted.there (h : Halted (drive ch)) (hsmf : ch.smf = .retryCooldown)
    (hactive : ch.activeFaultCause ≠ 0) (hruns : rampRuns ch) :
    ch.ramping = false ∧ ch.operationalTargetVoltage = selectedTarget ch := by
  have hdest : ch.gracefulRampDest = 0 := h.dest
  have hramping : ch.ramping = false := (h.fault hsmf hactive).2
  simp only [rampRuns, decide_eq_true_eq] at hruns
  have hto : ch.rampToDisable := hruns.2.resolve_left hactive
  have hzero : ch.operationalTargetVoltage = 0 := h.broken hto hramping
  refine ⟨hramping, ?_⟩
  rw [hzero, selectedTarget, if_pos hto, hdest]

/-- Elsewhere only the ramp counts. -/
theorem Halted.elsewhere {d : Drive} (hdest : d.gracefulRampDest = 0)
    (hbroken : d.rampToDisable → d.ramping = false → d.operational = 0)
    (hsmf : d.smf ≠ .retryCooldown) : Halted d :=
  ⟨hdest, hbroken, fun h => absurd h hsmf⟩

theorem Halted.finish {d : Drive} (hdest : d.gracefulRampDest = 0) : Halted d.finish := by
  refine .elsewhere ((Drive.finish_gracefulRampDest d).trans hdest) (fun hto => ?_)
    (RetryDelay.finish_smf_ne d)
  unfold Drive.finish at hto
  split at hto
  · cases hto
  next hnot => exact absurd hto hnot

theorem Halted.settle {d : Drive} (h : Halted d) (code : UInt16) : Halted (d.settle code) :=
  ⟨h.dest, h.broken, h.fault⟩

theorem halted_step (h : Halted (drive ch)) (op : ChannelOp) :
    Halted (drive (op.step k ch)) := by
  have heff := step_effect k ch op
  generalize drive (op.step k ch) = d' at heff
  cases heff with
  | enable => exact .elsewhere h.dest (fun hto => by cases hto) fun hsmf => by cases hsmf
  | graceful =>
    exact .elsewhere rfl (fun _ hramping => by cases hramping) fun hsmf => by cases hsmf
  | immediate => exact .elsewhere h.dest (fun hto => by cases hto) fun hsmf => by cases hsmf
  | force => exact .elsewhere h.dest (fun hto => by cases hto) fun hsmf => by cases hsmf
  | clearActive => exact .elsewhere h.dest h.broken fun hsmf => by cases hsmf
  | tripGraceful =>
    exact .elsewhere rfl (fun _ hramping => by cases hramping) fun hsmf => by cases hsmf
  | tripCleared => exact .elsewhere h.dest (fun hto => by cases hto) fun hsmf => by cases hsmf
  | tripOnly => exact .elsewhere h.dest h.broken fun hsmf => by cases hsmf
  | hold => exact .finish h.dest
  | arrive =>
    have hdest : { drive ch with operational := selectedTarget ch }.gracefulRampDest = 0 := h.dest
    exact (Halted.finish hdest).settle _
  | moving dtMs code hruns hdiffers =>
    refine ⟨h.dest, fun _ hramping => ?_, fun hsmf hactive => ?_⟩
    · cases hramping
    · exact absurd (h.there hsmf hactive hruns).2 hdiffers
  | cooldown sysCfg dtMs hretry hactive =>
    simp only [retryable, decide_eq_true_eq] at hretry
    have hramping : ch.ramping = false := by simpa using hretry.2.2.2
    exact ⟨h.dest, h.broken, fun _ _ => ⟨hactive, hramping⟩⟩
  | exhausted => exact .elsewhere h.dest h.broken fun hsmf => by cases hsmf
  | retry => exact ⟨h.dest, h.broken, fun _ hactive => absurd rfl hactive⟩
  | fault => exact .elsewhere h.dest (fun _ _ => rfl) fun hsmf => by cases hsmf
  | calReset entering =>
    refine .elsewhere h.dest (fun _ _ => rfl) fun hsmf => ?_
    cases entering <;> cases hsmf
  | _ => exact ⟨h.dest, h.broken, h.fault⟩

theorem cooldown_le (k : Kconfig) (ch : Channel) {op : ChannelOp}
    (hop : ∀ sysCfg dtMs, op ≠ .tickRecovery sysCfg dtMs) :
    (op.step k ch).cooldownRemainingMs ≤ ch.cooldownRemainingMs := by
  rw [cooldownRemainingMs_step k ch hop]
  split
  · exact UInt32.zero_le
  · exact UInt32.le_refl _

theorem sound_call (h : Sound ch) {op : ChannelOp}
    (hop : ∀ sysCfg dtMs, op ≠ .tickRecovery sysCfg dtMs) : Sound (op.step k ch) where
  halted := halted_step h.halted op
  retried := fun hsmf hactive => by
    obtain ⟨hbefore, hsame⟩ := RetryDelay.cooldown_of_effect (step_effect k ch op) hop hsmf
    have hzero := h.retried hbefore (hsame.symm.trans hactive)
    have hle := cooldown_le k ch hop
    rw [hzero] at hle
    exact UInt32.le_zero_iff.mp hle
  range := by
    have hle := UInt32.le_iff_toNat_le.mp (cooldown_le k ch hop)
    exact Nat.le_trans hle h.range

/-! ## The recovery -/

theorem retryWaitMs_le (h : Sound ch) : (retryWaitMs ch).toNat ≤ 65535000 := by
  have hdelay : ch.config.autoRetryDelay.toNat < 65536 := ch.config.autoRetryDelay.toNat_lt
  rw [RetryDelay.retryWaitMs_toNat]
  split
  · show ch.config.autoRetryDelay.toNat * 1000 ≤ _
    omega
  · exact h.range

theorem smf_enterCooldown (ch : Channel) : (enterCooldown ch).smf = .retryCooldown :=
  congrArg Drive.smf (drive_enterCooldown ch)

/-- What `tick_recovery` leaves of the cooldown. -/
theorem tickRecovery_cooldown (sysCfg : SystemConfig) (dtMs : UInt32) :
    tickRecovery k ch sysCfg dtMs = ch ∨
      (tickRecovery k ch sysCfg dtMs).cooldownRemainingMs = 0 ∨
        retryable ch sysCfg ∧ dtMs < retryWaitMs ch ∧ tickRecovery k ch sysCfg dtMs =
          { enterCooldown ch with cooldownRemainingMs := retryWaitMs ch - dtMs } := by
  rcases tickRecovery_cases k ch sysCfg dtMs with ⟨-, h⟩ | ⟨hretry, hwait, h⟩ | ⟨-, -, -, h⟩ |
    ⟨-, -, -, h⟩
  · exact .inl h
  · exact .inr (.inr ⟨hretry, hwait, h⟩)
  · rw [h]
    exact .inr (.inl rfl)
  · have hledger := (ledger_attemptRetry k (waited ch)).trans (ledger_waited ch)
    rw [h]
    exact .inr (.inl (congrArg Ledger.cooldownRemainingMs hledger))

theorem sound_tickRecovery (h : Sound ch) (sysCfg : SystemConfig) (dtMs : UInt32) :
    Sound (tickRecovery k ch sysCfg dtMs) := by
  have hhalted : Halted (drive (tickRecovery k ch sysCfg dtMs)) :=
    halted_step h.halted (.tickRecovery sysCfg dtMs)
  rcases tickRecovery_cooldown (k := k) sysCfg dtMs with hsame | hzero | ⟨hretry, hwait, heq⟩
  · rwa [hsame]
  · exact ⟨hhalted, fun _ _ => hzero, by rw [hzero]; exact Nat.zero_le _⟩
  · have hle := retryWaitMs_le h
    have hsub := UInt32.toNat_sub_of_le _ _ (UInt32.le_of_lt hwait)
    rw [heq] at hhalted ⊢
    refine ⟨hhalted, fun _ hactive => ?_, ?_⟩
    · have hcool : (enterCooldown ch).activeFaultCause = ch.activeFaultCause :=
        congrArg Drive.active (drive_enterCooldown ch)
      have hcurrent : ch.activeFaultCause = faultCurrent := by
        simp only [retryable, currentFaultOnly, decide_eq_true_eq, beq_iff_eq] at hretry
        exact hretry.2.1
      rw [← hcool, show (enterCooldown ch).activeFaultCause = 0 from hactive] at hcurrent
      cases hcurrent
    · show (retryWaitMs ch - dtMs).toNat ≤ 65535000
      omega

theorem sound_step (h : Sound ch) (op : ChannelOp) : Sound (op.step k ch) := by
  by_cases hop : ∃ sysCfg dtMs, op = .tickRecovery sysCfg dtMs
  · obtain ⟨sysCfg, dtMs, rfl⟩ := hop
    exact sound_tickRecovery h sysCfg dtMs
  · exact sound_call h fun sysCfg dtMs heq => hop ⟨sysCfg, dtMs, heq⟩

/-! ## Which call leaves a cooldown behind -/

/-- The calls that do not: a disable without a ramp and a clear command do, unless the register is
at 0 already. -/
def clears (ch : Channel) : ChannelOp → Bool
  | .outputAction action =>
    hostAction ch action = .disableImmediate ∨ hostAction ch action = .disableForce →
      hasCap ch capOutputEnable → ch.smf = .retryCooldown → ch.cooldownRemainingMs < 1000
  | .faultCommand .clearActive =>
    ch.activeFaultCause ≠ 0 → isSafeToClearActive ch → ch.smf = .retryCooldown →
      ch.cooldownRemainingMs < 1000
  | _ => true

/-- A call that does not touch the rest of a cooldown that it leaves. -/
theorem cleared_iff (h : Cleared ch) {m : Channel} (hsmf : m.smf ≠ .retryCooldown)
    (hremaining : m.cooldownRemainingMs = ch.cooldownRemainingMs) :
    Cleared m ↔ (ch.smf = .retryCooldown → ch.cooldownRemainingMs < 1000) := by
  unfold Cleared
  rw [hremaining]
  refine ⟨fun hm _ => hm hsmf, fun hch _ => ?_⟩
  by_cases hcool : ch.smf = .retryCooldown
  · exact hch hcool
  · exact h hcool

/-- The calls that can end a cooldown. -/
def ends : ChannelOp → Bool
  | .outputAction _ | .faultCommand _ | .tickRecovery _ _ | .consumeFault _
  | .resetCalibration _ => true
  | _ => false

theorem stays_step (h : Halted (drive ch)) {op : ChannelOp} (hop : ends op = false)
    (hsmf : ch.smf = .retryCooldown) (hactive : ch.activeFaultCause ≠ 0) :
    (op.step k ch).smf = .retryCooldown := by
  have heff := step_effect k ch op
  show (drive (op.step k ch)).smf = .retryCooldown
  generalize drive (op.step k ch) = d' at heff
  cases heff with
  | quiet | configure | calOn | calOff | rawDac | moving => exact hsmf
  | tripGraceful op code htrip hnone => exact absurd hnone hactive
  | tripCleared op code smf htrip hnone => exact absurd hnone hactive
  | tripOnly op code htrip hnone => exact absurd hnone hactive
  | hold dtMs hruns hto hnone => exact absurd hnone hactive
  | arrive dtMs code hruns harrives =>
    obtain ⟨hramping, hthere⟩ := h.there hsmf hactive hruns
    simp [rampArrives, hthere, hramping] at harrives
  | _ => cases hop

/-- A call after which a cooldown goes on, or which finds its fault gone, or clears it. -/
theorem cleared_call (hsound : Sound ch) (h : Cleared ch) {op : ChannelOp}
    (hop : ∀ sysCfg dtMs, op ≠ .tickRecovery sysCfg dtMs)
    (hstays : ch.smf = .retryCooldown → ch.activeFaultCause ≠ 0 →
      (op.step k ch).smf = .retryCooldown ∨ (op.step k ch).cooldownRemainingMs = 0) :
    Cleared (op.step k ch) := by
  intro hsmf
  have hle := cooldown_le k ch hop
  by_cases hcool : ch.smf = .retryCooldown
  · by_cases hactive : ch.activeFaultCause = 0
    · rw [hsound.retried hcool hactive] at hle
      exact UInt32.lt_of_le_of_lt hle (by decide)
    · rcases hstays hcool hactive with hstay | hzero
      · exact absurd hstay hsmf
      · rw [hzero]
        decide
  · exact UInt32.lt_of_le_of_lt hle (h hcool)

theorem outputAction_off {action : OutputAction}
    (hhost : hostAction ch action = .disableImmediate ∨ hostAction ch action = .disableForce)
    (hcap : hasCap ch capOutputEnable) : ∃ smf, smf ≠ .retryCooldown ∧
      (outputAction ch action).2 = refresh (clearDrive ch smf) := by
  have hvalid : isValidHostOutputAction action := by
    cases action with
    | other value => simp [hostAction] at hhost
    | _ => rfl
  unfold outputAction
  rw [if_neg (by simp [hvalid]), if_neg (by simp [hcap])]
  rcases hhost with hhost | hhost <;> rw [hhost]
  · exact ⟨.disabledHvOn, by decide, rfl⟩
  · exact ⟨.disabledSafe, by decide, rfl⟩

theorem cleared_outputAction (hsound : Sound ch) (h : Cleared ch) (action : OutputAction) :
    Cleared ((ChannelOp.outputAction action).step k ch) ↔ clears ch (.outputAction action) := by
  simp only [clears, decide_eq_true_eq]
  by_cases hoff : (hostAction ch action = .disableImmediate ∨
      hostAction ch action = .disableForce) ∧ hasCap ch capOutputEnable
  · obtain ⟨smf, hsmf, hstep⟩ := outputAction_off hoff.1 hoff.2
    have hleft : (refresh (clearDrive ch smf)).smf = smf := congrArg Drive.smf (drive_refresh _)
    have hledger : ledger (refresh (clearDrive ch smf)) = ledger ch := ledger_refresh _
    show Cleared (outputAction ch action).2 ↔ _
    rw [hstep, cleared_iff h (by rwa [hleft]) (congrArg Ledger.cooldownRemainingMs hledger)]
    exact ⟨fun hch _ _ => hch, fun hch => hch hoff.1 hoff.2⟩
  · refine iff_of_true ?_ fun hhost hcap => absurd ⟨hhost, hcap⟩ hoff
    refine cleared_call hsound h nofun fun hsmf hactive => ?_
    have hstep := outputAction_step k ch action
    show (outputAction ch action).2.smf = .retryCooldown ∨
      (outputAction ch action).2.cooldownRemainingMs = 0
    generalize (outputAction ch action).2 = ch' at hstep
    cases hstep with
    | unchanged => exact .inl hsmf
    | enable hnone => exact absurd hnone hactive
    | graceful =>
      exact .inr (congrArg Ledger.cooldownRemainingMs (ledger_refresh _))
    | immediate hdac hcap =>
      exact absurd ⟨.inl (by simp [hostAction, hdac]), hcap⟩ hoff
    | force _ haction hcap => exact absurd ⟨.inr haction, hcap⟩ hoff

theorem cleared_faultCommand (hsound : Sound ch) (h : Cleared ch) (cmd : ChannelFaultCommand) :
    Cleared ((ChannelOp.faultCommand cmd).step k ch) ↔ clears ch (.faultCommand cmd) := by
  by_cases hclear : cmd = .clearActive ∧ ch.activeFaultCause ≠ 0 ∧ isSafeToClearActive ch
  · obtain ⟨rfl, hactive, hsafe⟩ := hclear
    have hstep : (faultCommand ch .clearActive).2 =
        updateStatusBits { ch with activeFaultCause := 0, smf := .disabledSafe } := by
      simp [faultCommand, isValidChannelFaultCommand, hactive, hsafe]
    have hleft : (faultCommand ch .clearActive).2.smf ≠ .retryCooldown := by
      rw [hstep]
      nofun
    have hkept : (faultCommand ch .clearActive).2.cooldownRemainingMs = ch.cooldownRemainingMs := by
      rw [hstep]
      rfl
    refine (cleared_iff h hleft hkept).trans ?_
    simp only [clears, decide_eq_true_eq]
    exact ⟨fun hch _ _ => hch, fun hch => hch hactive hsafe⟩
  · refine iff_of_true ?_ ?_
    · refine cleared_call hsound h nofun fun hsmf _ => .inl ?_
      have hstep := faultCommand_step k ch cmd
      show (faultCommand ch cmd).2.smf = .retryCooldown
      generalize (faultCommand ch cmd).2 = ch' at hstep
      cases hstep with
      | clearActive hactive hsafe => exact absurd ⟨rfl, hactive, hsafe⟩ hclear
      | _ => exact hsmf
    · cases cmd with
      | clearActive =>
        simp only [clears, decide_eq_true_eq]
        exact fun hactive hsafe => absurd ⟨rfl, hactive, hsafe⟩ hclear
      | _ => rfl

theorem cleared_tickRecovery (h : Cleared ch) (sysCfg : SystemConfig) (dtMs : UInt32) :
    Cleared (tickRecovery k ch sysCfg dtMs) := by
  rcases tickRecovery_cooldown (k := k) sysCfg dtMs with hsame | hzero | ⟨-, -, heq⟩
  · rwa [hsame]
  · intro _
    rw [hzero]
    decide
  · intro hsmf
    rw [heq] at hsmf
    exact absurd (smf_enterCooldown ch) hsmf

theorem cleared_step (hsound : Sound ch) (h : Cleared ch) (op : ChannelOp) :
    Cleared (op.step k ch) ↔ clears ch op := by
  have hzeroed : ∀ {ch'}, ch'.cooldownRemainingMs = 0 → Cleared ch' := by
    intro ch' hzero _
    rw [hzero]
    decide
  cases op with
  | outputAction action => exact cleared_outputAction hsound h action
  | faultCommand cmd => exact cleared_faultCommand hsound h cmd
  | tickRecovery sysCfg dtMs => exact iff_of_true (cleared_tickRecovery h sysCfg dtMs) rfl
  | consumeFault cause =>
    have hledger := ledger_step k ch (.consumeFault cause)
    exact iff_of_true (hzeroed (congrArg Ledger.cooldownRemainingMs hledger)) rfl
  | resetCalibration entering =>
    have hledger := ledger_step k ch (.resetCalibration entering)
    exact iff_of_true (hzeroed (congrArg Ledger.cooldownRemainingMs hledger)) rfl
  | _ =>
    refine iff_of_true (cleared_call hsound h nofun fun hsmf hactive => .inl ?_) rfl
    exact stays_step hsound.halted rfl hsmf hactive

theorem sound_cleared_step (h : Sound ch ∧ Cleared ch) (op : ChannelOp) :
    Sound (op.step k ch) ∧ Cleared (op.step k ch) ↔ clears ch op :=
  (and_iff_right (sound_step h.1 op)).trans (cleared_step h.1 h.2 op)

end Steps

/-! ## The wait -/

/-- A cooldown with a fault to retry, under a policy that retries. -/
structure Waiting (ch : Channel) : Prop where
  halted : Halted (drive ch)
  smf : ch.smf = .retryCooldown
  active : ch.activeFaultCause ≠ 0
  policy : isRetryPolicy ch.config.recoveryPolicyMode

section Wait

variable {k : Kconfig} {ch : Channel}

theorem tickRamp_waiting (h : Halted (drive ch)) (hsmf : ch.smf = .retryCooldown)
    (hactive : ch.activeFaultCause ≠ 0) (dtMs : UInt32) : tickRamp ch dtMs = ch := by
  have hstep := Ramp.tickRamp_step ch dtMs
  generalize tickRamp ch dtMs = ch' at hstep
  cases hstep with
  | idle => rfl
  | hold hruns _ hramping =>
    exact absurd ((h.there hsmf hactive hruns).1.symm.trans hramping) (by decide)
  | off hruns _ hramping =>
    exact absurd ((h.there hsmf hactive hruns).1.symm.trans hramping) (by decide)
  | jump hruns hdiffers => exact absurd (h.there hsmf hactive hruns).2 hdiffers
  | arrive hmoves | move hmoves =>
    simp only [Ramp.rampMoves, decide_eq_true_eq] at hmoves
    exact absurd (h.there hsmf hactive hmoves.1).2 hmoves.2.1

/-- Up to its `tick_recovery` a tick leaves a cooldown alone. -/
theorem atRecovery_kept (h : Waiting ch) (dtMs : UInt32) :
    drive (atRecovery ch dtMs) = drive ch ∧ (atRecovery ch dtMs).config = ch.config ∧
      (atRecovery ch dtMs).cooldownRemainingMs = ch.cooldownRemainingMs := by
  have hvoltage : drive (sampleVoltage (advance ch dtMs)) = drive ch := drive_sampleVoltage _
  have hactive : (drive (sampleVoltage (advance ch dtMs))).active ≠ 0 := by
    rw [hvoltage]
    exact h.active
  have htrip : tripsOn (sampleVoltage (advance ch dtMs)) .sampleCurrent = false :=
    Bool.eq_false_iff.mpr fun htrip => hactive (active_of_tripsOn htrip)
  have hdrive := (drive_sampleCurrent _ htrip).trans hvoltage
  have hledger : (ledger (sampleCurrent (sampleVoltage (advance ch dtMs)))).cooldownRemainingMs =
      (ledger (sampleVoltage (advance ch dtMs))).cooldownRemainingMs := by
    rw [ledger_sampleCurrent]
    rfl
  rw [ledger_sampleVoltage] at hledger
  have hframe : frame (sampleCurrent (sampleVoltage (advance ch dtMs))) =
      frame (advance ch dtMs) := (frame_sampleCurrent _).trans (frame_sampleVoltage _)
  unfold atRecovery
  generalize sampleCurrent (sampleVoltage (advance ch dtMs)) = m at *
  rw [tickRamp_waiting (hdrive ▸ h.halted) ((congrArg Drive.smf hdrive).trans h.smf) ?_]
  · exact ⟨hdrive, congrArg Frame.config hframe, hledger⟩
  · show (drive m).active ≠ 0
    rw [hdrive]
    exact h.active

theorem Waiting.kept (h : Waiting ch) (dtMs : UInt32) : Waiting (atRecovery ch dtMs) := by
  obtain ⟨hdrive, hconfig, -⟩ := atRecovery_kept h dtMs
  refine ⟨hdrive ▸ h.halted, (congrArg Drive.smf hdrive).trans h.smf, ?_, hconfig ▸ h.policy⟩
  show (drive (atRecovery ch dtMs)).active ≠ 0
  rw [hdrive]
  exact h.active

theorem Waiting.retryable (h : Waiting ch) {sysCfg : SystemConfig}
    (hmode : sysCfg.operatingMode = .automatic) : retryable ch sysCfg := by
  obtain ⟨hcurrent, hramping⟩ := h.halted.fault h.smf h.active
  have hcurrent : ch.activeFaultCause = faultCurrent := hcurrent
  have hramping : ch.ramping = false := hramping
  simp [VcChannel.retryable, hmode, currentFaultOnly, hcurrent, h.policy, hramping]

theorem Waiting.retryWaitMs (h : Waiting ch) : retryWaitMs ch = ch.cooldownRemainingMs :=
  if_neg (by simp [h.smf])

theorem mayRetry_iff (h : Waiting ch) {sysCfg : SystemConfig}
    (hmode : sysCfg.operatingMode = .automatic) (dtMs : UInt32) :
    mayRetry sysCfg ch dtMs ↔ ch.cooldownRemainingMs ≤ dtMs := by
  have hthere := h.kept dtMs
  rw [mayRetry, decide_eq_true_iff, and_iff_right (hthere.retryable hmode), hthere.retryWaitMs,
    (atRecovery_kept h dtMs).2.2]

/-- A tick that is too short takes its time off the cooldown. -/
theorem waiting_run (h : Waiting ch) {sysCfg : SystemConfig}
    (hmode : sysCfg.operatingMode = .automatic) {dtMs : UInt32}
    (hwait : dtMs < ch.cooldownRemainingMs) :
    Waiting (run k ch dtMs sysCfg) ∧
      (run k ch dtMs sysCfg).cooldownRemainingMs = ch.cooldownRemainingMs - dtMs := by
  have hthere := h.kept dtMs
  have hkept := (atRecovery_kept h dtMs).2.2
  have hcool : enterCooldown (atRecovery ch dtMs) = atRecovery ch dtMs :=
    if_neg (by simp [hthere.smf])
  have hrun : run k ch dtMs sysCfg =
      { atRecovery ch dtMs with cooldownRemainingMs := ch.cooldownRemainingMs - dtMs } := by
    rw [← hkept, ← hthere.retryWaitMs] at hwait ⊢
    have hnot := UInt32.not_le.mpr hwait
    rw [run_eq]
    rcases tickRecovery_cases k (atRecovery ch dtMs) sysCfg dtMs with ⟨hretry, -⟩ | ⟨-, -, heq⟩ |
      ⟨-, hover, -⟩ | ⟨-, hover, -⟩
    · exact absurd (hretry.symm.trans (hthere.retryable hmode)) (by decide)
    · rw [heq, hcool]
    · exact absurd hover hnot
    · exact absurd hover hnot
  rw [hrun]
  exact ⟨⟨hthere.halted, hthere.smf, hthere.active, hthere.policy⟩, rfl⟩

/-- The ticks lead to a retry when they have taken the rest of the cooldown, and no sooner. -/
theorem leftToElapse (h : Waiting ch) {sysCfg : SystemConfig}
    (hmode : sysCfg.operatingMode = .automatic) :
    LeftToElapse k sysCfg ch ch.cooldownRemainingMs.toNat := by
  intro dtMs dts
  induction dts generalizing ch dtMs with
  | nil =>
    rw [mayRetryWithin, mayRetryWithin, Bool.or_false, mayRetry_iff h hmode, UInt32.le_iff_toNat_le]
    simp [totalMs]
  | cons next dts ih =>
    rw [mayRetryWithin, Bool.or_eq_true, mayRetry_iff h hmode, totalMs_cons]
    by_cases hwait : ch.cooldownRemainingMs ≤ dtMs
    · have hle := UInt32.le_iff_toNat_le.mp hwait
      exact iff_of_true (.inl hwait) (by omega)
    · have hlt := UInt32.not_le.mp hwait
      obtain ⟨hwaiting, hleft⟩ := waiting_run (k := k) h hmode hlt
      have hsub := UInt32.toNat_sub_of_le _ _ (UInt32.le_of_lt hlt)
      have hlt := UInt32.lt_iff_toNat_lt.mp hlt
      rw [or_iff_right hwait, ih hwaiting, hleft, hsub]
      omega

end Wait

/-! ## The register -/

theorem cooldownReg_eq (ch : Channel) : channelValue ch .autoCooldownRemaining =
    (.ok, u16 (ch.cooldownRemainingMs / 1000).toUInt16) := rfl

/-- The register has the seconds that are left, all of them. -/
theorem cooldownReg_toNat {ch : Channel} (h : ch.cooldownRemainingMs.toNat ≤ 65535000) :
    (u16 (ch.cooldownRemainingMs / 1000).toUInt16).toNat =
      ch.cooldownRemainingMs.toNat / 1000 := by
  have hdiv : (ch.cooldownRemainingMs / 1000).toNat = ch.cooldownRemainingMs.toNat / 1000 := rfl
  have hlow : (u16 (ch.cooldownRemainingMs / 1000).toUInt16).toNat =
      (ch.cooldownRemainingMs / 1000).toNat % 65536 := rfl
  rw [hlow, hdiv]
  omega

theorem truthful_iff (k : Kconfig) {ch : Channel} (h : Sound ch) :
    Truthful k ch ↔ Cleared ch := by
  have hreg := cooldownReg_toNat h.range
  constructor
  · intro htruth hsmf
    have hzero : u16 (ch.cooldownRemainingMs / 1000).toUInt16 = 0 :=
      congrArg Prod.snd (htruth.elsewhere hsmf)
    rw [hzero] at hreg
    have hless : ch.cooldownRemainingMs.toNat < 1000 := by
      have hsecond : 0 = ch.cooldownRemainingMs.toNat / 1000 := hreg
      omega
    exact UInt32.lt_iff_toNat_lt.mpr hless
  · intro hcleared
    refine ⟨fun hsmf => ?_, fun hsmf hactive hpolicy sysCfg hmode => ?_⟩
    · have hless := UInt32.lt_iff_toNat_lt.mp (hcleared hsmf)
      have hzero : u16 (ch.cooldownRemainingMs / 1000).toUInt16 = 0 :=
        UInt32.toNat_inj.mp (hreg.trans (Nat.div_eq_of_lt hless))
      rw [cooldownReg_eq, hzero]
    · refine ⟨_, _, cooldownReg_eq ch, leftToElapse ⟨h.halted, hsmf, hactive, hpolicy⟩ hmode, ?_⟩
      rw [hreg]
      omega

/-! ## Every run -/

theorem clears_enable (ch : Channel) : clears ch (.outputAction .enable) := by
  have hhost : hostAction ch .enable = .enable := if_neg (by simp)
  simp [clears, hhost]

/-- A call that can leave a cooldown behind is the only one of its operation. -/
theorem clears_alone (k : Kconfig) (ctrl : Controller σ) (op : PublicOp σ) (i : Nat)
    (ch : Channel) : ∀ c ∈ op.channelOps k ctrl i ch,
      (∀ ch, clears ch c) ∨ op.channelOps k ctrl i ch = [c] := by
  intro c hc
  cases op with
  | channel j op =>
    simp only [PublicOp.channelOps] at hc ⊢
    split at hc
    · cases hc
    next hij =>
      rw [if_neg hij, List.mem_singleton.mp hc]
      exact .inr rfl
  | controller op =>
    rcases mem_channelOps hc with ⟨mode, hmode, hc⟩ | hmade
    · rcases mem_transitionOps hc with ⟨entering, rfl⟩ | ⟨rfl, hold, rfl⟩ | ⟨rfl, -⟩
      · exact .inl fun _ => rfl
      · refine .inr ((channelOps_of_movesTo hmode i ch).trans ?_)
        simp [transitionOps, hold]
      · exact .inl clears_enable
    · cases hmade with
      | outputAction action hrun =>
        right
        have hcalls : (ControllerOp.channelOutputAction i action).channelOps k ctrl i ch =
            (ControllerOp.channelOutputAction i action).calls k ctrl i ch :=
          channelOps_of_stays rfl i ch
        rw [PublicOp.channelOps, hcalls]
        simp [ControllerOp.calls, hrun]
      | faultCommand cmd =>
        right
        have hcalls : (ControllerOp.channelFaultCommand i cmd).channelOps k ctrl i ch =
            (ControllerOp.channelFaultCommand i cmd).calls k ctrl i ch :=
          channelOps_of_stays rfl i ch
        rw [PublicOp.channelOps, hcalls]
        simp [ControllerOp.calls]
      | autoEnable => exact .inl clears_enable
      | run dtMs c hrun hc =>
        simp only [runOps, List.mem_cons, List.not_mem_nil, or_false] at hc
        rcases hc with rfl | rfl | rfl | rfl | rfl <;> exact .inl fun _ => rfl
      | _ => exact .inl fun _ => rfl

theorem truthful_publicStep (k : Kconfig) (i : Nat) {ctrl : Controller σ}
    (h : ∀ ch ∈ ctrl.channels[i]?, Sound ch ∧ Cleared ch) (op : PublicOp σ) :
    (∀ ch ∈ (op.step k ctrl).channels[i]?, Truthful k ch) ↔
      EachCallOn k i (fun ch c => clears ch c) ctrl op := by
  have hstep := getElem?_publicStep k ctrl op i
  unfold EachCallOn
  cases hch : ctrl.channels[i]? with
  | none =>
    rw [hch] at hstep
    rw [hstep]
    simp
  | some ch =>
    rw [hch] at hstep
    rw [hstep]
    obtain ⟨hsound, hcleared⟩ := h ch hch
    have hafter : Sound (exec (ChannelOp.step k) ch (op.channelOps k ctrl i ch)) :=
      exec_invariant (I := Sound) (fun _ op h _ => sound_step h op) hsound
        (along_of_forall (fun _ _ _ => trivial) _)
    have hcalls := exec_invariant_iff (I := fun ch => Sound ch ∧ Cleared ch)
      (fun ch c hI => sound_cleared_step (k := k) hI c) (clears_alone k ctrl op i ch)
      ⟨hsound, hcleared⟩
    rw [and_iff_right hafter, ← truthful_iff k hafter] at hcalls
    simpa using hcalls

/-- In every state of a run the register tells the truth exactly if no call takes a channel out of
RETRY_COOLDOWN, without a ramp or by clearing its fault, with a second or more left. -/
theorem cooldown_truthful_iff (k : Kconfig) (nodes : List Node) (store : σ) (i : Nat)
    (ops : List (PublicOp σ)) :
    Along (PublicOp.step k) (fun ctrl op => ∀ ch ∈ (op.step k ctrl).channels[i]?, Truthful k ch)
        (VcController.init k nodes store) ops ↔
      Along (PublicOp.step k) (EachCallOn k i fun ch c => clears ch c)
        (VcController.init k nodes store) ops := by
  refine along_congr (I := fun ctrl : Controller σ => ∀ ch ∈ ctrl.channels[i]?,
    Sound ch ∧ Cleared ch) (fun ctrl op hI hQ => ?_)
    (fun ctrl op hI => truthful_publicStep k i hI op)
    (forall_getElem?_init (fun node => ?_) nodes store i)
  · exact publicStep_channel (I := fun ch => Sound ch ∧ Cleared ch)
      (fun ch c h hc => (sound_cleared_step h c).mpr hc) hI hQ
  · exact ⟨sound_init k node, fun _ => (by decide : (0 : UInt32) < 1000)⟩

/-- A trip, a cooldown of 5 s, and a forced disable after the first second. -/
def disabledRun : List (PublicOp Unit) :=
  [.channelSetField 0 .recoveryPolicyMode 1, .channelSetField 0 .autoRetryMaxCount 3,
    .channelSetField 0 .autoRetryDelay 5, .channelSetField 0 .currentProtectionMode 2,
    .channelSetField 0 .currentLimitThreshold 100, .setOperatingMode .automatic,
    .channelSetField 0 .configuredTargetVoltage 300, .tick 5000,
    .publishCurrent 0 200000000 1, .tick 1000, .channelOutputAction 0 .disableForce].map
    .controller

/-- The channel is in DISABLED_SAFE, and the register has 4 s left. -/
theorem cooldown_stale :
    (exec (PublicOp.step .hvb) (VcController.init .hvb [dacNode] ()) disabledRun).channels.map
        (fun ch => (ch.smf, channelValue ch .autoCooldownRemaining)) =
      [(.disabledSafe, (.ok, 4))] ∧
      ¬ Along (PublicOp.step .hvb)
        (fun ctrl op => ∀ ch ∈ (op.step .hvb ctrl).channels[0]?, Truthful .hvb ch)
        (VcController.init .hvb [dacNode] ()) disabledRun := by
  refine ⟨by decide +kernel, fun h => ?_⟩
  have hrun := h.mono (fun _ _ htruth => fun ch hch => (htruth ch hch).elsewhere)
  revert hrun
  decide +kernel

end CooldownRegister
