import HvbFirmware.Ramp

/-!
# A derated recovery

An AUTO_DERATE_RETRY recovery ramps to a target below the configured one, which the running
value should not exceed as long as nobody asks for more. The arrival at that target clears
`recovering`, and the next tick ramps on to the configured target. In a run without such a tick
the running value keeps the limit.
-/
namespace Derate

open VcTypes VcChannel VcController Runs Ramp

variable {σ : Type}

/-! ## The history of a limit -/

/-- A `tick_recovery` that clears the fault and starts a recovery. -/
def recoversNow (k : Kconfig) (ch : Channel) : ChannelOp → Bool
  | .tickRecovery sysCfg dtMs =>
    ch.activeFaultCause ≠ 0 ∧ (tickRecovery k ch sysCfg dtMs).activeFaultCause = 0
  | _ => false

/-- The limit that a recovery from `ch` to `ch'` sets. -/
def recoveryLimit (ch ch' : Channel) : Option Int16 :=
  if ch.config.recoveryPolicyMode = .autoDerateRetry ∧
      ch'.recoveryTarget < ch.config.configuredTargetVoltage then some ch'.recoveryTarget
  else none

def limitAfter (k : Kconfig) (ch : Channel) (op : ChannelOp) (limit : Option Int16) :
    Option Int16 :=
  if recoversNow k ch op then recoveryLimit ch (op.step k ch) else limit

/-- The limit on channel `i` is lifted by a mode change, a host ENABLE, a host configuration
write that is accepted, and a parameter load. -/
def lifts (k : Kconfig) (ctrl : Controller σ) (i : Nat) (op : ControllerOp σ) : Bool :=
  (op.movesTo ctrl).isSome || op.isFactoryReset && ctrl.operatingMode != .normal ||
    match op with
    | .channelOutputAction j .enable => j == i
    | .channelSetField j field value => j == i && (channelSetField k ctrl i field value).1 == .ok
    | .channelParamAction j .load | .channelParamAction j .factoryReset => j == i
    | _ => false

def limitHistory (k : Kconfig) (i : Nat) (ctrl : Controller σ) (op : ControllerOp σ)
    (limit : Option Int16) : Option Int16 :=
  if lifts k ctrl i op then none else callHistory k i (limitAfter k) ctrl op limit

/-! ## The ramp under a limit -/

theorem rampLoop_le {intervalMs : UInt32} {step target : Int16} {fuel : Nat} {accum : UInt32}
    {current : Int16} (h : current ≤ target) :
    (rampLoop intervalMs step target fuel accum current).2 ≤ target := by
  induction fuel generalizing accum current with
  | zero => exact h
  | succ fuel ih =>
    rw [rampLoop]
    split
    next hgoes =>
      have hlt : current < target := Int16.lt_of_le_of_ne h hgoes.2
      refine ih ?_
      rw [rampStep, if_pos hlt]
      split
      · exact Int16.le_refl target
      next hover => exact Int16.not_lt.mp hover
    · exact h

theorem rampResult_le {ch : Channel} {dtMs : UInt32}
    (h : ch.operationalTargetVoltage ≤ selectedTarget ch) :
    (rampResult ch dtMs).2 ≤ selectedTarget ch := rampLoop_le h

theorem rampResult_of_no_turns {ch : Channel} {dtMs : UInt32} (h : rampTurns ch dtMs = 0) :
    (rampResult ch dtMs).2 = ch.operationalTargetVoltage := by
  have hloop : rampResult ch dtMs = rampLoop (rampIntervalMs ch) (rampStepReg ch).toInt16
    (selectedTarget ch) (rampTurns ch dtMs) (ch.rampAccumMs + dtMs)
    ch.operationalTargetVoltage := rfl
  rw [hloop, h]
  rfl

/-- A ramp down to a target that is not negative, with a step register that is an `int16_t`,
does not raise the running value. -/
theorem rampResult_le_self {ch : Channel} {dtMs : UInt32} (hinterval : rampIntervalReg ch ≠ 0)
    (hstep : (rampStepReg ch).toNat ≤ 32767) (htarget : 0 ≤ (selectedTarget ch).toInt)
    (hdown : selectedTarget ch ≤ ch.operationalTargetVoltage) :
    (rampResult ch dtMs).2 ≤ ch.operationalTargetVoltage := by
  have hup : upFits (rampStepReg ch) (selectedTarget ch) ch.operationalTargetVoltage
      (rampTurns ch dtMs) := fun hlt => absurd hlt (Int16.not_lt.mpr hdown)
  have hfits : tickFits ch dtMs := .inr ⟨hstep, hup⟩
  have hmem := rampResult_mem_uIcc hinterval (tickLoopFits_of_tickFits hfits htarget)
  have hdown := Int16.le_iff_toInt_le.mp hdown
  rw [Set.mem_uIcc] at hmem
  exact Int16.le_iff_toInt_le.mpr (by omega)

/-! ## Calls under a limit -/

/-- A ramp tick keeps the running value under a limit: it does not move, it ramps down with a
step register that is an `int16_t`, or it ramps to the recovery target. -/
def rampKeeps (ch : Channel) (dtMs : UInt32) : Bool :=
  !rampRuns ch || ch.operationalTargetVoltage == selectedTarget ch ||
    rampMoves ch && rampTurns ch dtMs == 0 ||
    if ch.rampToDisable then !rampMoves ch || decide ((rampStepReg ch).toNat ≤ 32767)
    else ch.recovering

/-- A recovery to a target below the configured one. -/
def derates (ch : Channel) : Bool :=
  ch.config.recoveryPolicyMode = .autoDerateRetry ∧
    retryTarget ch < ch.config.configuredTargetVoltage.toInt

def keepsLimit (limit : Option Int16) (ch : Channel) : ChannelOp → Bool
  | .tickRamp dtMs => limit.isNone || rampKeeps ch dtMs
  | .tickRecovery sysCfg dtMs => !(retryDue ch sysCfg dtMs && derates ch) ||
      decide (ch.operationalTargetVoltage.toInt ≤ retryTarget ch)
  | _ => true

/-- The running value is under the limit, and a recovery under way ends at the limit. -/
structure UnderLimit (limit : Int16) (d : Drive) : Prop where
  nonneg : 0 ≤ limit
  below : d.operational ≤ limit
  recovery : d.recovering → d.recoveryTarget = limit

theorem UnderLimit.finish {limit : Int16} {d : Drive} (h : UnderLimit limit d) :
    UnderLimit limit d.finish := by
  unfold Drive.finish
  split
  · exact ⟨h.nonneg, h.below, h.recovery⟩
  · exact ⟨h.nonneg, h.below, nofun⟩

theorem selectedTarget_of_graceful {ch : Channel} (hdest : ch.gracefulRampDest = 0)
    (h : ch.rampToDisable) : selectedTarget ch = 0 := by
  simp [selectedTarget, h, hdest]

theorem selectedTarget_of_recovering {ch : Channel} (hto : ch.rampToDisable = false)
    (h : ch.recovering) : selectedTarget ch = ch.recoveryTarget := by
  simp [selectedTarget, hto, h]

/-- The targets of the ramp ticks that keep the limit are not above it. -/
theorem arrive_le {ch : Channel} {dtMs : UInt32} {limit : Int16} (hdest : ch.gracefulRampDest = 0)
    (h : UnderLimit limit (drive ch)) (hkeeps : rampKeeps ch dtMs) (hruns : rampRuns ch)
    (harrives : rampArrives ch dtMs) : selectedTarget ch ≤ limit := by
  have hbelow : ch.operationalTargetVoltage ≤ limit := h.below
  by_cases hsame : ch.operationalTargetVoltage = selectedTarget ch
  · rw [← hsame]
    exact hbelow
  simp only [rampArrives, if_neg hsame, decide_eq_true_eq] at harrives
  by_cases hidle : rampMoves ch ∧ rampTurns ch dtMs = 0
  · obtain ⟨hmoves, hturns⟩ := hidle
    simp only [rampMoves, decide_eq_true_eq] at hmoves
    rcases harrives with hstep | hinterval | hresult
    · exact absurd hstep hmoves.2.2.1
    · exact absurd hinterval hmoves.2.2.2
    · rw [rampResult_of_no_turns hturns] at hresult
      exact absurd hresult hsame
  cases hto : ch.rampToDisable with
  | true =>
    rw [selectedTarget_of_graceful hdest hto]
    exact h.nonneg
  | false =>
    have hcases : (rampMoves ch ∧ rampTurns ch dtMs = 0) ∨ ch.recovering := by
      simpa [rampKeeps, hruns, hsame, hto] using hkeeps
    have hrecovering := hcases.resolve_left hidle
    have htarget : ch.recoveryTarget = limit := h.recovery hrecovering
    rw [selectedTarget_of_recovering hto hrecovering, htarget]
    exact Int16.le_refl limit

theorem moving_le {ch : Channel} {dtMs : UInt32} {limit : Int16} (hdest : ch.gracefulRampDest = 0)
    (h : UnderLimit limit (drive ch)) (hkeeps : rampKeeps ch dtMs) (hmoves : rampMoves ch) :
    (rampResult ch dtMs).2 ≤ limit := by
  have hbelow : ch.operationalTargetVoltage ≤ limit := h.below
  by_cases hturns : rampTurns ch dtMs = 0
  · rw [rampResult_of_no_turns hturns]
    exact hbelow
  have hmove := hmoves
  simp only [rampMoves, decide_eq_true_eq] at hmove
  obtain ⟨hruns, hdiffers, -, hinterval⟩ := hmove
  cases hto : ch.rampToDisable with
  | true =>
    have htarget := selectedTarget_of_graceful hdest hto
    have hstep : (rampStepReg ch).toNat ≤ 32767 := by
      simpa [rampKeeps, hruns, hdiffers, hmoves, hturns, hto] using hkeeps
    by_cases hup : ch.operationalTargetVoltage < selectedTarget ch
    · refine Int16.le_trans (rampResult_le (Int16.le_of_lt hup)) ?_
      rw [htarget]
      exact h.nonneg
    · have hdown : (rampResult ch dtMs).2 ≤ ch.operationalTargetVoltage :=
        rampResult_le_self hinterval hstep (by rw [htarget]; decide) (Int16.not_lt.mp hup)
      exact Int16.le_trans hdown hbelow
  | false =>
    have hrecovering : ch.recovering := by
      simpa [rampKeeps, hruns, hdiffers, hmoves, hturns, hto] using hkeeps
    have htarget : selectedTarget ch = limit :=
      (selectedTarget_of_recovering hto hrecovering).trans (h.recovery hrecovering)
    rw [← htarget] at hbelow ⊢
    exact rampResult_le hbelow

theorem dest_step {k : Kconfig} {ch : Channel} {op : ChannelOp} (h : ch.gracefulRampDest = 0) :
    (op.step k ch).gracefulRampDest = 0 := by
  have heff := step_effect k ch op
  have h : (drive ch).gracefulRampDest = 0 := h
  show (drive (op.step k ch)).gracefulRampDest = 0
  generalize drive (op.step k ch) = d' at heff
  cases heff with
  | graceful => rfl
  | tripGraceful => rfl
  | hold => exact (Drive.finish_gracefulRampDest _).trans h
  | arrive => exact (Drive.finish_gracefulRampDest _).trans h
  | _ => exact h

/-- A call that starts no recovery keeps the running value under the limit. -/
theorem underLimit_step {k : Kconfig} {ch : Channel} {op : ChannelOp} {limit : Int16}
    (hdest : ch.gracefulRampDest = 0) (h : UnderLimit limit (drive ch))
    (hkeeps : keepsLimit (some limit) ch op) (hnot : recoversNow k ch op = false) :
    UnderLimit limit (drive (op.step k ch)) := by
  have heff := step_effect k ch op
  obtain ⟨hnonneg, hbelow, hrecovery⟩ := h
  generalize hd : drive (op.step k ch) = d' at heff
  cases heff with
  | immediate => exact ⟨hnonneg, hnonneg, hrecovery⟩
  | force => exact ⟨hnonneg, hnonneg, hrecovery⟩
  | tripCleared => exact ⟨hnonneg, hnonneg, hrecovery⟩
  | calReset => exact ⟨hnonneg, hnonneg, hrecovery⟩
  | fault => exact ⟨hnonneg, hnonneg, nofun⟩
  | hold => exact UnderLimit.finish ⟨hnonneg, hbelow, hrecovery⟩
  | arrive dtMs code hruns harrives =>
    have hkeeps : rampKeeps ch dtMs := hkeeps
    have hle := arrive_le hdest ⟨hnonneg, hbelow, hrecovery⟩ hkeeps hruns harrives
    have hfinish : UnderLimit limit { drive ch with operational := selectedTarget ch }.finish :=
      UnderLimit.finish ⟨hnonneg, hle, hrecovery⟩
    exact ⟨hfinish.nonneg, hfinish.below, hfinish.recovery⟩
  | moving dtMs code hruns hdiffers hstep hinterval =>
    have hkeeps : rampKeeps ch dtMs := hkeeps
    have hmoves : rampMoves ch := by simp [rampMoves, hruns, hdiffers, hstep, hinterval]
    exact ⟨hnonneg, moving_le hdest ⟨hnonneg, hbelow, hrecovery⟩ hkeeps hmoves, hrecovery⟩
  | retry sysCfg dtMs code hdue hactive =>
    have hcleared : (tickRecovery k ch sysCfg dtMs).activeFaultCause = 0 := congrArg Drive.active hd
    have hne : ch.activeFaultCause ≠ 0 := by
      rw [hactive]
      decide
    simp [recoversNow, hcleared, hne] at hnot
  | _ => exact ⟨hnonneg, hbelow, hrecovery⟩

/-- What a recovery does to the drive. -/
theorem recoversNow_drive {k : Kconfig} {ch : Channel} {op : ChannelOp}
    (h : recoversNow k ch op) : ∃ sysCfg dtMs, op = .tickRecovery sysCfg dtMs ∧
      retryDue ch sysCfg dtMs ∧ (op.step k ch).recoveryTarget = Int16.ofInt (retryTarget ch) ∧
      (op.step k ch).operationalTargetVoltage = ch.operationalTargetVoltage := by
  cases op with
  | tickRecovery sysCfg dtMs =>
    simp only [recoversNow, decide_eq_true_eq] at h
    obtain ⟨hne, hcleared⟩ := h
    have hcleared : (drive (tickRecovery k ch sysCfg dtMs)).active = 0 := hcleared
    refine ⟨sysCfg, dtMs, rfl, ?_⟩
    have heff := tickRecovery_effect k ch sysCfg dtMs
    suffices hdrive : retryDue ch sysCfg dtMs ∧
        (drive (tickRecovery k ch sysCfg dtMs)).recoveryTarget = Int16.ofInt (retryTarget ch) ∧
        (drive (tickRecovery k ch sysCfg dtMs)).operational = (drive ch).operational from hdrive
    generalize drive (tickRecovery k ch sysCfg dtMs) = d' at heff hcleared
    cases heff with
    | retry _ _ code hdue => exact ⟨hdue, rfl, rfl⟩
    | quiet => exact absurd hcleared hne
    | configure => exact absurd hcleared hne
    | cooldown => exact absurd hcleared hne
    | exhausted =>
      have hfault : faultCurrent ||| faultRetryExhaust ≠ 0 := by decide
      exact absurd hcleared hfault
    | tripGraceful op code htrip => cases htrip
    | tripCleared op code smf htrip => cases htrip
    | tripOnly op code htrip => cases htrip
  | _ => cases h

/-- A derated recovery that finds the running value under its target sets it as the limit. -/
theorem underLimit_recovery {k : Kconfig} {ch : Channel} {op : ChannelOp} {limit : Int16}
    {before : Option Int16} (hrecovers : recoversNow k ch op)
    (hlimit : recoveryLimit ch (op.step k ch) = some limit)
    (hkeeps : keepsLimit before ch op) : UnderLimit limit (drive (op.step k ch)) := by
  obtain ⟨sysCfg, dtMs, rfl, hdue, htarget, hsame⟩ := recoversNow_drive hrecovers
  unfold recoveryLimit at hlimit
  split at hlimit
  next hderate =>
    obtain ⟨hpolicy, hlt⟩ := hderate
    obtain rfl := Option.some.inj hlimit
    have hpos : 0 < retryTarget ch := by
      simp only [retryDue, decide_eq_true_eq] at hdue
      exact hdue.2.2.2.2 hpolicy
    have htoInt : (Int16.ofInt (retryTarget ch)).toInt = retryTarget ch :=
      toInt_ofInt_retryTarget (by omega)
    rw [htarget] at hlt ⊢
    have hlt := Int16.lt_iff_toInt_lt.mp hlt
    rw [htoInt] at hlt
    have hderates : derates ch := by simp [derates, hpolicy, hlt]
    have hle : ch.operationalTargetVoltage.toInt ≤ retryTarget ch := by
      simpa [keepsLimit, hdue, hderates] using hkeeps
    refine ⟨?_, ?_, fun _ => htarget⟩
    · have hzero : (0 : Int16).toInt = 0 := rfl
      exact Int16.le_iff_toInt_le.mpr (by omega)
    · show (ChannelOp.step k ch (.tickRecovery sysCfg dtMs)).operationalTargetVoltage ≤ _
      rw [hsame]
      exact Int16.le_iff_toInt_le.mpr (by omega)
  · cases hlimit

/-! ## Runs -/

def Limited (p : Channel × Option Int16) : Prop :=
  p.1.gracefulRampDest = 0 ∧ ∀ limit ∈ p.2, UnderLimit limit (drive p.1)

theorem limited_call {k : Kconfig} {p : Channel × Option Int16} {op : ChannelOp} (h : Limited p)
    (hkeeps : keepsLimit p.2 p.1 op) :
    Limited (watched (ChannelOp.step k) (limitAfter k) p op) := by
  obtain ⟨ch, before⟩ := p
  obtain ⟨hdest, hbefore⟩ := h
  refine ⟨dest_step hdest, fun limit hlimit => ?_⟩
  have hlimit : limitAfter k ch op before = some limit := hlimit
  unfold limitAfter at hlimit
  split at hlimit
  next hrecovers => exact underLimit_recovery hrecovers hlimit hkeeps
  next hnot =>
    have hkeeps : keepsLimit before ch op := hkeeps
    rw [hlimit] at hkeeps
    exact underLimit_step hdest (hbefore limit hlimit) hkeeps (by simpa using hnot)

/-- On channel `i` no ramp tick leaves the limit, and a derated recovery finds the running value
under its target. -/
def KeepsLimit (k : Kconfig) (i : Nat) (p : Controller σ × Option Int16) (op : ControllerOp σ) :
    Prop :=
  ∀ ch ∈ p.1.channels[i]?, Along (watched (ChannelOp.step k) (limitAfter k))
    (fun q c => keepsLimit q.2 q.1 c) (ch, p.2) (op.channelOps k p.1 i ch)

instance (k : Kconfig) (i : Nat) (p : Controller σ × Option Int16) (op : ControllerOp σ) :
    Decidable (KeepsLimit k i p op) := inferInstanceAs (Decidable (∀ ch ∈ p.1.channels[i]?, _))

theorem limited_step {k : Kconfig} {i : Nat} {p : Controller σ × Option Int16}
    {op : ControllerOp σ} (h : ∀ ch ∈ p.1.channels[i]?, Limited (ch, p.2))
    (hop : KeepsLimit k i p op) :
    ∀ ch ∈ (op.step k p.1).channels[i]?, Limited (ch, limitHistory k i p.1 op p.2) := by
  have hcalls := callHistory_invariant (fun p c => limited_call) h hop
  intro ch hch
  unfold limitHistory
  split
  · exact ⟨(hcalls ch hch).1, nofun⟩
  · exact hcalls ch hch

/-- In every run in which no ramp tick of channel `i` leaves a limit, the running value does not
exceed the target of a derated recovery until the limit is lifted. -/
theorem derate_respected (k : Kconfig) (nodes : List Node) (store : σ) (i : Nat)
    (ops : List (ControllerOp σ))
    (hops : Along (watched (ControllerOp.step k) (limitHistory k i)) (KeepsLimit k i)
      (VcController.init k nodes store, none) ops) :
    let p := exec (watched (ControllerOp.step k) (limitHistory k i))
      (VcController.init k nodes store, none) ops
    ∀ limit ∈ p.2, ∀ ch ∈ p.1.channels[i]?, ch.operationalTargetVoltage ≤ limit := by
  have hinit : ∀ ch ∈ (VcController.init k nodes store).channels[i]?,
      Limited (ch, (none : Option Int16)) :=
    forall_getElem?_init (fun _ => ⟨rfl, nofun⟩) nodes store i
  have hrun := exec_invariant
    (I := fun p : Controller σ × Option Int16 => ∀ ch ∈ p.1.channels[i]?, Limited (ch, p.2))
    (fun p op => limited_step) hinit hops
  exact fun limit hlimit ch hch => ((hrun ch hch).2 limit hlimit).below

/-- Operations after which channel 0, with a target of 1000, ramps to 900 in a recovery. -/
def derateOps (σ : Type) : List (ControllerOp σ) :=
  [.channelSetField 0 .recoveryPolicyMode 2, .channelSetField 0 .autoRetryMaxCount 3,
    .channelSetField 0 .autoRetryWindow 600, .channelSetField 0 .autoDerateStep 100,
    .channelSetField 0 .currentProtectionMode 2, .channelSetField 0 .currentLimitThreshold 100,
    .channelSetField 0 .rampUpStep 300, .setOperatingMode .automatic,
    .channelSetField 0 .configuredTargetVoltage 1000, .tick 5000,
    .publishCurrent 0 200000000 1, .tick 1000, .publishCurrent 0 0 2, .tick 1000, .tick 1000]

/-- The derated ramp before it arrives. -/
theorem derate_respected_example :
    let p := exec (watched (ControllerOp.step Kconfig.hvb) (limitHistory Kconfig.hvb 0))
      (VcController.init Kconfig.hvb [dacNode] (), none) (derateOps Unit ++ [.tick 1000])
    ∀ limit ∈ p.2, ∀ ch ∈ p.1.channels[0]?, ch.operationalTargetVoltage ≤ limit :=
  derate_respected Kconfig.hvb [dacNode] () 0 _ (by decide +kernel)

/-- The tick after the arrival ramps on to the configured target. -/
theorem derate_exceeded :
    ¬ ∀ ops : List (ControllerOp Unit),
      let p := exec (watched (ControllerOp.step Kconfig.hvb) (limitHistory Kconfig.hvb 0))
        (VcController.init Kconfig.hvb [dacNode] (), none) ops
      ∀ limit ∈ p.2, ∀ ch ∈ p.1.channels[0]?, ch.operationalTargetVoltage ≤ limit := by
  intro h
  have hrun := h (derateOps Unit ++ [.tick 3000, .tick 1000])
  revert hrun
  decide +kernel

end Derate
