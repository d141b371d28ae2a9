import HvbFirmware.RetryBudget
import HvbFirmware.VcChannelLedger

/-!
# The retry delay

A retry is to come at least `auto_retry_delay` seconds after the fault. The cooldown is loaded and
counted down in one tick, so the tick that latches a fault counts its whole time step towards the
wait. The clock below has the true time since the fault was stamped.
-/
namespace RetryDelay

open VcTypes VcChannel VcController Runs Derate RetryBudget SlidingWindow

variable {σ : Type}

/-! ## The time since a fault -/

/-- The time since `last_fault_timestamp` was written, and the part of it that no `tick_recovery`
has seen. -/
structure Clock where
  elapsed : Nat
  pending : Nat
  deriving DecidableEq, Repr

def clockAfter (ch : Channel) (op : ChannelOp) (clock : Clock) : Clock :=
  match op with
  | .advance dtMs => ⟨clock.elapsed + dtMs.toNat, clock.pending + dtMs.toNat⟩
  | .tickRecovery _ _ => { clock with pending := 0 }
  | op => if tripsOn ch op then { clock with elapsed := 0 } else clock

def delayMs (ch : Channel) : Nat := ch.config.autoRetryDelay.toNat * 1000

/-- A cooldown that counts for an active fault. -/
def cooling (d : Drive) : Prop := d.smf = .retryCooldown ∧ d.active ≠ 0

instance (d : Drive) : Decidable (cooling d) := inferInstanceAs (Decidable (_ ∧ _))

/-- The first `tick_recovery` of a fault comes no earlier than its time step after the fault; a
retry comes before the 32-bit clock has gone round; and the delay is not raised in a cooldown. -/
def keepsDelay (p : Channel × Clock) : ChannelOp → Bool
  | .tickRecovery sysCfg dtMs =>
    (!retryable p.1 sysCfg || p.1.smf == .retryCooldown || p.1.config.autoRetryDelay == 0 ||
      decide (dtMs.toNat ≤ p.2.elapsed)) &&
    (!retryDue p.1 sysCfg dtMs || decide (p.2.elapsed < 4294967296))
  | .setField .autoRetryDelay value =>
    !decide (cooling (drive p.1)) || decide (value ≤ p.1.config.autoRetryDelay)
  | .setConfig cfg =>
    !decide (cooling (drive p.1)) || decide (cfg.autoRetryDelay ≤ p.1.config.autoRetryDelay)
  | _ => true

/-- At a retry: the delay has passed since `last_fault_timestamp`, on the clock of the channel. -/
def honoursDelay (k : Kconfig) (p : Channel × Clock) (op : ChannelOp) : Bool :=
  !recoversNow k p.1 op ||
    decide (p.1.config.autoRetryDelay.toUInt32 * 1000 ≤ p.1.uptimeRef - p.1.lastFaultTimestamp)

/-- The recovery sees no more time than has passed. -/
def paced (p : Channel × Clock) : ChannelOp → Bool
  | .tickRecovery _ dtMs => decide (dtMs.toNat ≤ p.2.pending)
  | _ => true

/-- The channel shows the time since the fault, and a cooldown has the rest of the delay left. -/
structure Timed (p : Channel × Clock) : Prop where
  uptime : p.1.uptimeRef = p.1.lastFaultTimestamp + UInt32.ofNat p.2.elapsed
  waits : cooling (drive p.1) →
    delayMs p.1 + p.2.pending ≤ p.2.elapsed + p.1.cooldownRemainingMs.toNat

theorem timed_init (k : Kconfig) (node : Node) : Timed (VcChannel.init k node, ⟨0, 0⟩) where
  uptime := rfl
  waits := fun h => absurd h.1 (by simp [drive, VcChannel.init])

/-! ## What a call does to a cooldown -/

theorem finish_smf_ne (d : Drive) : d.finish.smf ≠ .retryCooldown := by
  unfold Drive.finish
  split <;> simp

/-- A call but the recovery is in RETRY_COOLDOWN only where it was, with the same fault. -/
theorem cooldown_of_effect {k : Kconfig} {ch : Channel} {op : ChannelOp} {d' : Drive}
    (heff : Effect k ch op d') (hop : ∀ sysCfg dtMs, op ≠ .tickRecovery sysCfg dtMs)
    (hsmf : d'.smf = .retryCooldown) :
    (drive ch).smf = .retryCooldown ∧ d'.active = (drive ch).active := by
  cases heff with
  | quiet | configure | calOn | calOff | rawDac | moving => exact ⟨hsmf, rfl⟩
  | hold => exact absurd hsmf (finish_smf_ne _)
  | arrive => exact absurd hsmf (finish_smf_ne _)
  | cooldown sysCfg dtMs => exact absurd rfl (hop sysCfg dtMs)
  | retry sysCfg dtMs => exact absurd rfl (hop sysCfg dtMs)
  | calReset entering => cases entering <;> cases hsmf
  | _ => cases hsmf

/-- A call but the recovery leaves a cooldown only where there was one. -/
theorem cooling_of_effect {k : Kconfig} {ch : Channel} {op : ChannelOp} {d' : Drive}
    (heff : Effect k ch op d') (hop : ∀ sysCfg dtMs, op ≠ .tickRecovery sysCfg dtMs)
    (h : cooling d') : cooling (drive ch) := by
  obtain ⟨hsmf, hactive⟩ := cooldown_of_effect heff hop h.1
  exact ⟨hsmf, hactive ▸ h.2⟩

theorem smf_gracefulDisable {ch : Channel} {action : OutputAction}
    (h : gracefulDisable ch action) : (outputAction ch action).2.smf = .ramping := by
  simp only [gracefulDisable, Bool.and_eq_true, beq_iff_eq] at h
  obtain ⟨⟨rfl, hdac⟩, hcap⟩ := h
  rw [outputAction_graceful hdac hcap]
  exact congrArg Drive.smf (drive_refresh _)

/-- A call that clears a cooldown ends it. -/
theorem smf_ne_of_clears {k : Kconfig} {ch : Channel} {op : ChannelOp}
    (h : clearsCooldown ch op) : (op.step k ch).smf ≠ .retryCooldown := by
  cases op with
  | outputAction action =>
    intro hsmf
    cases (smf_gracefulDisable h).symm.trans hsmf
  | consumeFault cause =>
    have hsmf : (drive (consumeFault ch cause)).smf = .disabledSafe := by
      rw [consumeFault, forceSafeState, drive_updateStatusBits, drive_applyHw]
      rfl
    exact fun hcool => by cases hsmf.symm.trans hcool
  | resetCalibration entering =>
    have hsmf : (drive (resetCalibration ch entering)).smf ≠ .retryCooldown := by
      rw [resetCalibration, drive_refresh]
      cases entering <;> simp [Drive.settle, drive]
    exact hsmf
  | _ => cases h

/-- A call but the recovery that leaves a cooldown leaves the rest of it. -/
theorem cooldown_kept {k : Kconfig} {ch : Channel} {op : ChannelOp}
    (hop : ∀ sysCfg dtMs, op ≠ .tickRecovery sysCfg dtMs) (h : cooling (drive (op.step k ch))) :
    (op.step k ch).cooldownRemainingMs = ch.cooldownRemainingMs := by
  rw [cooldownRemainingMs_step k ch hop, if_neg fun hclears => smf_ne_of_clears hclears h.1]

theorem writeField_delay {k : Kconfig} {ch : Channel} {field : ConfigField} {value : UInt16}
    {cfg : ChannelConfig} (h : writeField k ch field value = .ok cfg) :
    cfg.autoRetryDelay = if field = .autoRetryDelay then value else ch.config.autoRetryDelay := by
  cases field <;> simp only [writeField] at h
  all_goals
    repeat' split at h
    all_goals first | cases h; rfl | cases h

/-- The delay of a channel in a cooldown is not raised. -/
theorem delay_kept {k : Kconfig} {p : Channel × Clock} {op : ChannelOp}
    (hcooling : cooling (drive p.1)) (hkeeps : keepsDelay p op) :
    delayMs (op.step k p.1) ≤ delayMs p.1 := by
  obtain ⟨ch, clock⟩ := p
  have hstep := frame_step k ch op
  suffices hle : (frame (op.step k ch)).config.autoRetryDelay ≤ ch.config.autoRetryDelay from
    Nat.mul_le_mul_right _ hle
  generalize frame (op.step k ch) = f at hstep
  have hrefl : ch.config.autoRetryDelay ≤ ch.config.autoRetryDelay := UInt16.le_refl _
  have hcooling : decide (cooling (drive ch)) = true := decide_eq_true hcooling
  cases hstep with
  | same => exact hrefl
  | advance => exact hrefl
  | retry sysCfg dtMs =>
    show (recordRetryAttempt k ch).config.autoRetryDelay ≤ _
    unfold recordRetryAttempt
    split <;> exact hrefl
  | setField field value cfg hcfg =>
    show cfg.autoRetryDelay ≤ _
    rw [writeField_delay hcfg]
    split
    next hfield =>
      subst hfield
      simpa [keepsDelay, hcooling] using hkeeps
    · exact hrefl
  | setConfig cfg => simpa [keepsDelay, hcooling] using hkeeps

/-! ## The recovery -/

theorem retryWaitMs_toNat (ch : Channel) : (retryWaitMs ch).toNat =
    if ch.smf ≠ .retryCooldown then delayMs ch else ch.cooldownRemainingMs.toNat := by
  unfold retryWaitMs
  split
  · exact windowMs_toNat _
  · rfl

theorem cooling_of_retryable {ch : Channel} {sysCfg : SystemConfig} (h : retryable ch sysCfg)
    (hsmf : ch.smf = .retryCooldown) : cooling (drive ch) := by
  simp only [retryable, currentFaultOnly, decide_eq_true_eq, beq_iff_eq] at h
  refine ⟨hsmf, ?_⟩
  show ch.activeFaultCause ≠ 0
  rw [h.2.1]
  decide

/-- What is left to wait for before a tick of the recovery, with the time since the fault. -/
theorem delay_le_wait {ch : Channel} {clock : Clock} {sysCfg : SystemConfig} {dtMs : UInt32}
    (h : Timed (ch, clock)) (hpaced : paced (ch, clock) (.tickRecovery sysCfg dtMs))
    (hkeeps : keepsDelay (ch, clock) (.tickRecovery sysCfg dtMs)) (hretry : retryable ch sysCfg) :
    delayMs ch = 0 ∨ delayMs ch + dtMs.toNat ≤ clock.elapsed + (retryWaitMs ch).toNat := by
  rw [retryWaitMs_toNat]
  by_cases hsmf : ch.smf = .retryCooldown
  · have hwaits : delayMs ch + clock.pending ≤ clock.elapsed + ch.cooldownRemainingMs.toNat :=
      h.waits (cooling_of_retryable hretry hsmf)
    have hpaced : dtMs.toNat ≤ clock.pending := by simpa [paced] using hpaced
    rw [if_neg (by simp [hsmf])]
    omega
  · rw [if_pos hsmf]
    simp only [keepsDelay, hretry, Bool.and_eq_true, Bool.or_eq_true, Bool.not_true,
      Bool.false_eq_true, false_or, beq_iff_eq, hsmf, decide_eq_true_eq] at hkeeps
    rcases hkeeps.1 with hzero | helapsed
    · exact .inl (by simp [delayMs, hzero])
    · omega

theorem delay_le_elapsed {ch : Channel} {clock : Clock} {sysCfg : SystemConfig} {dtMs : UInt32}
    (h : Timed (ch, clock)) (hpaced : paced (ch, clock) (.tickRecovery sysCfg dtMs))
    (hkeeps : keepsDelay (ch, clock) (.tickRecovery sysCfg dtMs)) (hretry : retryable ch sysCfg)
    (hwait : retryWaitMs ch ≤ dtMs) : delayMs ch ≤ clock.elapsed := by
  have hwait := UInt32.le_iff_toNat_le.mp hwait
  have hdelay := delay_le_wait h hpaced hkeeps hretry
  omega

theorem attemptRetry_not_cooling (k : Kconfig) (ch : Channel) :
    ¬cooling (drive (attemptRetry k ch)) := by
  unfold attemptRetry
  split
  · exact fun h => absurd h.1 (by simp [retriesExhausted, updateStatusBits, drive])
  split
  · exact fun h => absurd h.1 (by simp [retriesExhausted, updateStatusBits, drive])
  · obtain ⟨code, hdrive⟩ := drive_startRecovery (recordRetryAttempt k ch)
      (Int16.ofInt (retryTarget ch))
    rw [hdrive]
    exact fun h => h.2 rfl

theorem waits_tickRecovery {k : Kconfig} {ch : Channel} {clock : Clock} {sysCfg : SystemConfig}
    {dtMs : UInt32} (h : Timed (ch, clock))
    (hpaced : paced (ch, clock) (.tickRecovery sysCfg dtMs))
    (hkeeps : keepsDelay (ch, clock) (.tickRecovery sysCfg dtMs))
    (hcooling : cooling (drive (tickRecovery k ch sysCfg dtMs))) :
    delayMs (tickRecovery k ch sysCfg dtMs) ≤
      clock.elapsed + (tickRecovery k ch sysCfg dtMs).cooldownRemainingMs.toNat := by
  have hdelay : delayMs (enterCooldown ch) = delayMs ch := by
    unfold enterCooldown
    split <;> rfl
  rcases tickRecovery_cases k ch sysCfg dtMs with ⟨-, heq⟩ | ⟨hretry, hwait, heq⟩ |
    ⟨hretry, hwait, -, heq⟩ | ⟨-, -, -, heq⟩ <;> rw [heq] at hcooling ⊢
  · exact Nat.le_trans (Nat.le_add_right _ _) (h.waits hcooling)
  · have hle := delay_le_wait h hpaced hkeeps hretry
    have hsub := UInt32.toNat_sub_of_le _ _ (UInt32.le_of_lt hwait)
    have hlt := UInt32.lt_iff_toNat_lt.mp hwait
    show delayMs (enterCooldown ch) ≤ clock.elapsed + (retryWaitMs ch - dtMs).toNat
    rw [hdelay, hsub]
    omega
  · have hle := delay_le_elapsed h hpaced hkeeps hretry hwait
    show delayMs (enterCooldown ch) ≤ clock.elapsed + 0
    rwa [hdelay]
  · exact absurd hcooling (attemptRetry_not_cooling k _)

/-! ## Every call -/

/-- The clock of a call that is neither of the two that count time. -/
theorem clockAfter_eq {ch : Channel} {op : ChannelOp} (huntimed : op.untimed) (clock : Clock) :
    clockAfter ch op clock = if tripsOn ch op then { clock with elapsed := 0 } else clock := by
  cases op with
  | advance dtMs => cases huntimed
  | tickRecovery sysCfg dtMs => cases huntimed
  | _ => rfl

theorem timed_untimed {k : Kconfig} {ch : Channel} {clock : Clock} {op : ChannelOp}
    (huntimed : op.untimed) (h : Timed (ch, clock)) (hkeeps : keepsDelay (ch, clock) op) :
    Timed (op.step k ch, clockAfter ch op clock) := by
  have hop : ∀ sysCfg dtMs, op ≠ .tickRecovery sysCfg dtMs := by
    rintro sysCfg dtMs rfl
    cases huntimed
  have huptime : (op.step k ch).uptimeRef = ch.uptimeRef := by
    rw [uptimeRef_step]
    cases op with
    | advance dtMs => cases huntimed
    | _ => rfl
  rw [clockAfter_eq huntimed]
  refine ⟨?_, fun hcooling => ?_⟩
  · show (op.step k ch).uptimeRef = _
    rw [huptime, lastFaultTimestamp_step]
    split
    · exact (UInt32.add_zero _).symm
    · exact h.uptime
  · have hbefore := cooling_of_effect (step_effect k ch op) hop hcooling
    have hnot : tripsOn ch op = false := Bool.eq_false_iff.mpr fun htrip =>
      hbefore.2 (active_of_tripsOn htrip)
    have hwaits : delayMs ch + clock.pending ≤ clock.elapsed + ch.cooldownRemainingMs.toNat :=
      h.waits hbefore
    have hdelay : delayMs (op.step k ch) ≤ delayMs ch :=
      delay_kept (p := (ch, clock)) hbefore hkeeps
    rw [if_neg (by simp [hnot])]
    show delayMs (op.step k ch) + clock.pending ≤
      clock.elapsed + (op.step k ch).cooldownRemainingMs.toNat
    rw [cooldown_kept hop hcooling]
    omega

theorem timed_call {k : Kconfig} {p : Channel × Clock} {op : ChannelOp} (h : Timed p)
    (hop : paced p op ∧ keepsDelay p op) :
    Timed (watched (ChannelOp.step k) clockAfter p op) := by
  obtain ⟨ch, clock⟩ := p
  obtain ⟨hpaced, hkeeps⟩ := hop
  show Timed (op.step k ch, clockAfter ch op clock)
  by_cases huntimed : op.untimed
  · exact timed_untimed huntimed h hkeeps
  cases op with
  | advance dtMs =>
    refine ⟨?_, fun hcooling => ?_⟩
    · have huptime : ch.uptimeRef = ch.lastFaultTimestamp + UInt32.ofNat clock.elapsed := h.uptime
      show ch.uptimeRef + dtMs = ch.lastFaultTimestamp + UInt32.ofNat (clock.elapsed + dtMs.toNat)
      rw [ofNat_add_toNat, huptime, UInt32.add_assoc]
    · have hwaits : delayMs ch + clock.pending ≤ clock.elapsed + ch.cooldownRemainingMs.toNat :=
        h.waits hcooling
      show delayMs ch + (clock.pending + dtMs.toNat) ≤
        clock.elapsed + dtMs.toNat + ch.cooldownRemainingMs.toNat
      omega
  | tickRecovery sysCfg dtMs =>
    refine ⟨?_, fun hcooling => ?_⟩
    · show (ChannelOp.step k ch (.tickRecovery sysCfg dtMs)).uptimeRef = _
      rw [uptimeRef_step, lastFaultTimestamp_step]
      exact h.uptime
    · show delayMs (tickRecovery k ch sysCfg dtMs) + 0 ≤
        clock.elapsed + (tickRecovery k ch sysCfg dtMs).cooldownRemainingMs.toNat
      rw [Nat.add_zero]
      exact waits_tickRecovery h hpaced hkeeps hcooling
  | _ => exact absurd rfl huntimed

theorem honoursDelay_of_timed {k : Kconfig} {p : Channel × Clock} {op : ChannelOp} (h : Timed p)
    (hop : paced p op ∧ keepsDelay p op) : honoursDelay k p op := by
  obtain ⟨ch, clock⟩ := p
  obtain ⟨hpaced, hkeeps⟩ := hop
  cases hrecovers : recoversNow k ch op with
  | false => simp [honoursDelay, hrecovers]
  | true =>
    obtain ⟨sysCfg, dtMs, rfl, hdue, -⟩ := recoversNow_drive hrecovers
    have hcounts : clock.elapsed < 4294967296 := by
      simp only [keepsDelay, hdue, Bool.and_eq_true, Bool.not_true, Bool.false_or,
        decide_eq_true_eq] at hkeeps
      exact hkeeps.2
    simp only [retryDue, decide_eq_true_eq] at hdue
    have hle := delay_le_elapsed h hpaced hkeeps hdue.1 hdue.2.1
    have huptime : ch.uptimeRef = ch.lastFaultTimestamp + UInt32.ofNat clock.elapsed := h.uptime
    have hsince : ch.uptimeRef - ch.lastFaultTimestamp = UInt32.ofNat clock.elapsed := by
      rw [huptime, UInt32.add_comm, UInt32.add_sub_cancel]
    have hdelay : ch.config.autoRetryDelay.toUInt32 * 1000 ≤ UInt32.ofNat clock.elapsed := by
      rw [UInt32.le_iff_toNat_le, windowMs_toNat, UInt32.toNat_ofNat_of_lt' hcounts]
      exact hle
    simp [honoursDelay, hsince, hdelay]

/-! ## Runs -/

theorem pending_untimed (k : Kconfig) {op : ChannelOp} (huntimed : op.untimed)
    (p : Channel × Clock) :
    (watched (ChannelOp.step k) clockAfter p op).2.pending = p.2.pending := by
  show (clockAfter p.1 op p.2).pending = p.2.pending
  rw [clockAfter_eq huntimed]
  split <;> rfl

/-- A tick hands the recovery the time step that the clock has just been given. -/
theorem paced_runOps (k : Kconfig) (sysCfg : SystemConfig) (dtMs : UInt32) (p : Channel × Clock) :
    Along (watched (ChannelOp.step k) clockAfter) (fun q c => paced q c) p
      (runOps sysCfg dtMs) := by
  refine ⟨rfl, rfl, rfl, rfl, decide_eq_true ?_, trivial⟩
  rw [pending_untimed k rfl, pending_untimed k rfl, pending_untimed k rfl]
  exact Nat.le_add_left _ _

theorem paced_channelOps (k : Kconfig) (ctrl : Controller σ) (i : Nat) (op : ControllerOp σ)
    (ch : Channel) (clock : Clock) :
    Along (watched (ChannelOp.step k) clockAfter) (fun p c => paced p c) (ch, clock)
      (op.channelOps k ctrl i ch) := by
  -- no other operation makes a recovery call
  have hother : ∀ {cs : List ChannelOp} {p : Channel × Clock},
      (∀ c ∈ cs, ∀ sysCfg dtMs, c ≠ .tickRecovery sysCfg dtMs) →
        Along (watched (ChannelOp.step k) clockAfter) (fun p c => paced p c) p cs := by
    intro cs p hcs
    refine along_of_forall (fun c hc q => ?_) p
    cases c with
    | tickRecovery sysCfg dtMs => exact absurd rfl (hcs _ hc sysCfg dtMs)
    | _ => rfl
  refine along_append.mpr ⟨hother ?_, ?_⟩
  · rintro c hc sysCfg dtMs rfl
    cases hmoves : op.movesTo ctrl with
    | none =>
      rw [hmoves] at hc
      cases hc
    | some mode =>
      rw [hmoves] at hc
      rcases mem_transitionOps hc with ⟨_, h⟩ | ⟨h, -⟩ | ⟨h, -⟩ <;> cases h
  · cases op with
    | tick dtMs =>
      simp only [ControllerOp.calls]
      split
      · trivial
      · exact paced_runOps k ctrl.sysCfg dtMs _
    | _ =>
      refine hother ?_
      rintro c hc sysCfg dtMs rfl
      cases madeBy_of_mem hc

/-- The calls that an operation makes on channel `i` keep the delay. -/
def KeepsDelay (k : Kconfig) (i : Nat) (p : Controller σ × Clock) (op : ControllerOp σ) : Prop :=
  ∀ ch ∈ p.1.channels[i]?, Along (watched (ChannelOp.step k) clockAfter)
    (fun q c => keepsDelay q c) (ch, p.2) (op.channelOps k p.1 i ch)

instance (k : Kconfig) (i : Nat) (p : Controller σ × Clock) (op : ControllerOp σ) :
    Decidable (KeepsDelay k i p op) := inferInstanceAs (Decidable (∀ ch ∈ p.1.channels[i]?, _))

/-- Every retry that an operation makes on channel `i` honours the delay. -/
def HonoursDelay (k : Kconfig) (i : Nat) (p : Controller σ × Clock) (op : ControllerOp σ) : Prop :=
  ∀ ch ∈ p.1.channels[i]?, Along (watched (ChannelOp.step k) clockAfter)
    (fun q c => honoursDelay k q c) (ch, p.2) (op.channelOps k p.1 i ch)

instance (k : Kconfig) (i : Nat) (p : Controller σ × Clock) (op : ControllerOp σ) :
    Decidable (HonoursDelay k i p op) := inferInstanceAs (Decidable (∀ ch ∈ p.1.channels[i]?, _))

/-- The controller beside the time since the last fault of channel `i`. -/
def watchClock (k : Kconfig) (i : Nat) (p : Controller σ × Clock) (op : ControllerOp σ) :
    Controller σ × Clock :=
  watched (ControllerOp.step k) (callHistory k i clockAfter) p op

theorem timed_init_channels (k : Kconfig) (nodes : List Node) (store : σ) (i : Nat) :
    ∀ ch ∈ (VcController.init k nodes store).channels[i]?, Timed (ch, ⟨0, 0⟩) :=
  forall_getElem?_init (timed_init k) nodes store i

/-- In every run in which no first tick of a recovery on channel `i` counts time from before the
fault, a retry comes no earlier than the configured delay after the time stamp of the fault. -/
theorem retries_delayed (k : Kconfig) (nodes : List Node) (store : σ) (i : Nat)
    (ops : List (ControllerOp σ))
    (hops : Along (watchClock k i) (KeepsDelay k i)
      (VcController.init k nodes store, ⟨0, 0⟩) ops) :
    Along (watchClock k i) (HonoursDelay k i) (VcController.init k nodes store, ⟨0, 0⟩) ops := by
  have hboth : ∀ (p : Controller σ × Clock) (op : ControllerOp σ), KeepsDelay k i p op →
      ∀ ch ∈ p.1.channels[i]?, Along (watched (ChannelOp.step k) clockAfter)
        (fun q c => paced q c ∧ keepsDelay q c) (ch, p.2) (op.channelOps k p.1 i ch) :=
    fun p op hkeeps ch hch => (paced_channelOps k p.1 i op ch p.2).and (hkeeps ch hch)
  refine Along.of_invariant
    (I := fun p : Controller σ × Clock => ∀ ch ∈ p.1.channels[i]?, Timed (ch, p.2))
    (fun p op hI hQ => callHistory_invariant (fun q c => timed_call) hI (hboth p op hQ))
    (fun p op hI hQ ch hch => ?_) (timed_init_channels k nodes store i) hops
  exact Along.of_invariant (fun q c => timed_call) (fun q c => honoursDelay_of_timed) (hI ch hch)
    (hboth p op hQ ch hch)

/-- A delay of 5 s, counted from the tick after the one that latches the fault, in which the time
step is zero. -/
theorem retries_delayed_example :
    let ops : List (ControllerOp Unit) := retryOps Unit ++
      [.channelSetField 0 .autoRetryDelay 5, .publishCurrent 0 200000000 1, .tick 0,
        .publishCurrent 0 0 2, .tick 3000, .tick 3000]
    Along (watchClock Kconfig.hvb 0) (HonoursDelay Kconfig.hvb 0)
      (VcController.init Kconfig.hvb [dacNode] (), ⟨0, 0⟩) ops :=
  retries_delayed Kconfig.hvb [dacNode] () 0 _ (by decide +kernel)

/-- With a delay of 5 s, a fault that is latched in a tick of 4900 ms is retried 100 ms later. -/
theorem retries_early :
    ¬ ∀ ops : List (ControllerOp Unit), Along (watchClock Kconfig.hvb 0)
      (HonoursDelay Kconfig.hvb 0) (VcController.init Kconfig.hvb [dacNode] (), ⟨0, 0⟩) ops := by
  intro h
  have hrun := h (retryOps Unit ++
    [.channelSetField 0 .autoRetryDelay 5, .publishCurrent 0 200000000 1, .tick 4900,
      .publishCurrent 0 0 2, .tick 100])
  revert hrun
  decide +kernel

end RetryDelay
