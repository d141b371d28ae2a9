import HvbFirmware.RampLaw
import HvbFirmware.VcChannelLedger

/-!
# The rate of a ramp

A ramp is to make one step for each interval that has passed since it was commanded. The time that
`ramp_accum_ms` has saved up before the command counts as well, and the commands do not clear it.
-/
namespace RampRate

open VcTypes VcChannel VcController Runs Approach Ramp RampLaw

variable {σ : Type}

/-! ## The watch on a ramp -/

/-- The ramp ticks since the last command of a ramp: the time they took, and the way they moved the
running value, forwards and backwards. -/
structure Watch where
  elapsed : Nat
  moved : Nat
  deriving DecidableEq, Repr

/-- An ENABLE or a DISABLE_GRACEFUL that is accepted, or a retry. -/
def startsRamp (ch : Channel) : ChannelOp → Bool
  | .outputAction .enable => ch.activeFaultCause == 0
  | .outputAction .disableGraceful => hasCap ch capOutputEnable
  | .tickRecovery sysCfg dtMs => retryDue ch sysCfg dtMs
  | _ => false

def movedBy (ch : Channel) (dtMs : UInt32) : Nat :=
  ((tickRamp ch dtMs).operationalTargetVoltage.toInt - ch.operationalTargetVoltage.toInt).natAbs

def watchAfter (ch : Channel) (op : ChannelOp) (watch : Option Watch) : Option Watch :=
  if startsRamp ch op then some ⟨0, 0⟩
  else
    match op with
    | .tickRamp dtMs => watch.map fun w => ⟨w.elapsed + dtMs.toNat, w.moved + movedBy ch dtMs⟩
    | _ => watch

/-- A ramp tick that has to move the value. -/
def rampPending (ch : Channel) : Bool :=
  rampRuns ch && ch.operationalTargetVoltage != selectedTarget ch

/-- The registers of the ramp, while one is watched: a step up to `step`, and an interval of
`interval` seconds at least. -/
def configuredRamp (step interval : Nat) (p : Channel × Option Watch) : ChannelOp → Bool
  | .tickRamp _ => p.2.isNone || !rampPending p.1 ||
      decide ((rampStepReg p.1).toNat ≤ step ∧ interval ≤ (rampIntervalReg p.1).toNat)
  | _ => true

/-- The command of a ramp finds no time saved up; the ticks of a watched ramp have a step to make,
and their additions stay in range. -/
def keepsRate (p : Channel × Option Watch) (op : ChannelOp) : Bool :=
  (!startsRamp p.1 op || p.1.rampAccumMs == 0) &&
    match op with
    | .tickRamp dtMs => p.2.isNone || !rampPending p.1 ||
        rampStepReg p.1 != 0 && decide (tickFits p.1 dtMs)
    | _ => true

/-- Every way moved and every time saved up is paid for with time that has passed. -/
def Rated (step interval : Nat) (p : Channel × Option Watch) : Prop :=
  ∀ w ∈ p.2, ∃ turns, w.moved ≤ step * turns ∧
    1000 * interval * turns + p.1.rampAccumMs.toNat ≤ w.elapsed

theorem Rated.limit {step interval : Nat} {p : Channel × Option Watch} (h : Rated step interval p)
    (hinterval : 1 ≤ interval) : ∀ w ∈ p.2, w.moved ≤ step * (w.elapsed / (1000 * interval)) := by
  intro w hw
  obtain ⟨turns, hmoved, hpaid⟩ := h w hw
  have hturns : turns ≤ w.elapsed / (1000 * interval) := by
    rw [Nat.le_div_iff_mul_le (by omega), Nat.mul_comm]
    omega
  exact Nat.le_trans hmoved (Nat.mul_le_mul_left _ hturns)

/-! ## One tick -/

theorem natAbs_approach_sub_le (width : Nat) (target current : Int) :
    (approach (width : Int) target current - current).natAbs ≤ width := by
  unfold approach
  split <;> omega

/-- Each turn of the loop takes an interval from the accumulator and moves by one step at most. -/
theorem rampLoop_paid {intervalMs : UInt32} {step : UInt16} {target : Int16} {fuel : Nat}
    {accum : UInt32} {current : Int16} (h : loopFits intervalMs step target fuel accum current) :
    ∃ turns, intervalMs.toNat * turns +
        (rampLoop intervalMs step.toInt16 target fuel accum current).1.toNat = accum.toNat ∧
      ((rampLoop intervalMs step.toInt16 target fuel accum current).2.toInt -
        current.toInt).natAbs ≤ step.toNat * turns := by
  induction fuel generalizing accum current with
  | zero => exact ⟨0, by simp [rampLoop]⟩
  | succ fuel ih =>
    rw [rampLoop]
    by_cases hturn : intervalMs ≤ accum ∧ current ≠ target
    · rw [if_pos hturn]
      obtain ⟨hfits, hrest⟩ := h hturn
      obtain ⟨turns, hpaid, hmoved⟩ := ih hrest
      have hsub : (accum - intervalMs).toNat = accum.toNat - intervalMs.toNat :=
        UInt32.toNat_sub_of_le _ _ hturn.1
      have hle : intervalMs.toNat ≤ accum.toNat := UInt32.le_iff_toNat_le.mp hturn.1
      have hone := natAbs_approach_sub_le step.toNat target.toInt current.toInt
      rw [← rampStep_eq hfits] at hone
      refine ⟨turns + 1, ?_, ?_⟩
      · rw [Nat.mul_add, Nat.mul_one]
        omega
      · rw [Nat.mul_add, Nat.mul_one]
        omega
    · rw [if_neg hturn]
      exact ⟨0, by simp⟩

theorem rampPending_of_moves {ch : Channel} (h : rampMoves ch) : rampPending ch := by
  simp only [rampMoves, decide_eq_true_eq] at h
  simp [rampPending, h.1, h.2.1]

/-- A tick with nothing to move leaves the value and the accumulator. -/
theorem tick_idle {ch : Channel} (h : rampPending ch = false) (dtMs : UInt32) :
    movedBy ch dtMs = 0 ∧ (tickRamp ch dtMs).rampAccumMs = ch.rampAccumMs := by
  have hmoves : rampMoves ch = false := Bool.eq_false_iff.mpr fun hmoves =>
    absurd (rampPending_of_moves hmoves) (by simp [h])
  have hledger := ledger_tickRamp ch dtMs
  rw [ledgerAfter, if_neg (by simp [hmoves])] at hledger
  refine ⟨?_, congrArg Ledger.rampAccumMs hledger⟩
  have hsame : (tickRamp ch dtMs).operationalTargetVoltage = ch.operationalTargetVoltage := by
    have hstep := tickRamp_step ch dtMs
    generalize tickRamp ch dtMs = ch' at hstep
    cases hstep with
    | idle => rfl
    | hold => exact operational_finishRamp ch
    | off => exact (operational_refresh _).trans (operational_finishRamp ch)
    | jump hruns hdiffers => simp [rampPending, hruns, hdiffers] at h
    | arrive hmoves' => exact absurd hmoves' (by simp [hmoves])
    | move hmoves' => exact absurd hmoves' (by simp [hmoves])
  simp [movedBy, hsame]

/-- A tick that moves pays for its steps with its time and with what was saved up. -/
theorem tick_paid {ch : Channel} {dtMs : UInt32} (h : rampMoves ch) (hfits : tickFits ch dtMs)
    (htarget : 0 ≤ (selectedTarget ch).toInt) :
    ∃ turns, movedBy ch dtMs ≤ (rampStepReg ch).toNat * turns ∧
      1000 * (rampIntervalReg ch).toNat * turns + (tickRamp ch dtMs).rampAccumMs.toNat ≤
        ch.rampAccumMs.toNat + dtMs.toNat := by
  obtain ⟨turns, hpaid, hmoved⟩ := rampLoop_paid (tickLoopFits_of_tickFits hfits htarget)
  have hsum : (ch.rampAccumMs + dtMs).toNat ≤ ch.rampAccumMs.toNat + dtMs.toNat := by
    rw [UInt32.toNat_add]
    exact Nat.mod_le _ _
  have hledger := ledger_tickRamp ch dtMs
  rw [ledgerAfter, if_pos h] at hledger
  have haccum : (tickRamp ch dtMs).rampAccumMs = (rampResult ch dtMs).1 :=
    congrArg Ledger.rampAccumMs hledger
  have hvalue : (tickRamp ch dtMs).operationalTargetVoltage = (rampResult ch dtMs).2 := by
    have hmoves := h
    simp only [rampMoves, decide_eq_true_eq] at hmoves
    have hstep := tickRamp_step ch dtMs
    generalize tickRamp ch dtMs = ch' at hstep
    cases hstep with
    | idle hidle => simp [hmoves] at hidle
    | hold _ hthere => exact absurd hthere hmoves.2.1
    | off _ hthere => exact absurd hthere hmoves.2.1
    | jump _ _ hzero => simp [hmoves] at hzero
    | arrive => rw [operational_refresh, operational_finishRamp]; rfl
    | move => rw [operational_refresh]; rfl
  refine ⟨turns, ?_, ?_⟩
  · rw [movedBy, hvalue]
    exact hmoved
  · rw [haccum, ← rampIntervalMs_toNat]
    exact Nat.le_trans (Nat.le_of_eq hpaid) hsum

/-! ## Every call -/

/-- A call that is no ramp tick saves up no time. -/
theorem accum_le {k : Kconfig} {ch : Channel} {op : ChannelOp}
    (hop : ∀ dtMs, op ≠ .tickRamp dtMs) :
    (op.step k ch).rampAccumMs.toNat ≤ ch.rampAccumMs.toNat := by
  show (ledger (op.step k ch)).rampAccumMs.toNat ≤ _
  rw [ledger_step]
  have hrefl : ch.rampAccumMs.toNat ≤ ch.rampAccumMs.toNat := Nat.le_refl _
  cases op with
  | tickRamp dtMs => exact absurd rfl (hop dtMs)
  | resetCalibration entering => exact Nat.zero_le _
  | faultCommand cmd => cases cmd <;> exact hrefl
  | outputAction action =>
    rw [ledgerAfter]
    split <;> exact hrefl
  | tickRecovery sysCfg dtMs =>
    rw [ledgerAfter]
    split <;> exact hrefl
  | _ => exact hrefl

section Rated

variable {k : Kconfig} {step interval : Nat} {ch : Channel} {watch : Option Watch}

theorem rated_start {op : ChannelOp} (hstarts : startsRamp ch op)
    (hkeeps : keepsRate (ch, watch) op) : Rated step interval (op.step k ch, some ⟨0, 0⟩) := by
  have haccum : ch.rampAccumMs = 0 := by
    simp only [keepsRate, hstarts, Bool.and_eq_true, Bool.not_true, Bool.false_or,
      beq_iff_eq] at hkeeps
    exact hkeeps.1
  have hle : (op.step k ch).rampAccumMs.toNat ≤ ch.rampAccumMs.toNat := by
    refine accum_le ?_
    rintro dtMs rfl
    cases hstarts
  rw [haccum] at hle
  intro w hw
  obtain rfl := Option.mem_some_iff.mp hw
  exact ⟨0, Nat.zero_le _, by simpa using hle⟩

theorem rated_tick {dtMs : UInt32} (h : Rated step interval (ch, watch))
    (hchecked : Checked k (drive ch)) (hinterval : 1 ≤ interval)
    (hconfig : configuredRamp step interval (ch, watch) (.tickRamp dtMs))
    (hkeeps : keepsRate (ch, watch) (.tickRamp dtMs)) :
    Rated step interval (tickRamp ch dtMs,
      watch.map fun w => ⟨w.elapsed + dtMs.toNat, w.moved + movedBy ch dtMs⟩) := by
  intro w' hw'
  obtain ⟨w, hw, rfl⟩ := Option.map_eq_some_iff.mp hw'
  obtain ⟨turns, hmoved, hpaid⟩ := h w hw
  dsimp only at hmoved hpaid ⊢
  have hsome : watch.isNone = false := by
    have hw : watch = some w := hw
    rw [hw]
    rfl
  cases hpending : rampPending ch with
  | false =>
    obtain ⟨hnone, hsame⟩ := tick_idle hpending dtMs
    rw [hnone, hsame]
    exact ⟨turns, by simpa using hmoved, by omega⟩
  | true =>
    simp only [configuredRamp, hsome, hpending, Bool.not_true, Bool.false_or,
      decide_eq_true_eq] at hconfig
    obtain ⟨hstep, hreg⟩ := hconfig
    simp only [keepsRate, hsome, hpending, Bool.and_eq_true, Bool.not_true, Bool.false_or,
      bne_iff_ne, ne_eq, decide_eq_true_eq] at hkeeps
    obtain ⟨-, hzero, hfits⟩ := hkeeps
    simp only [rampPending, Bool.and_eq_true, bne_iff_ne, ne_eq] at hpending
    have hmoves : rampMoves ch := by
      have hreg : rampIntervalReg ch ≠ 0 := ne_zero_of_one_le (Nat.le_trans hinterval hreg)
      simp [rampMoves, hpending, hzero, hreg]
    obtain ⟨made, hmade, htime⟩ := tick_paid hmoves hfits hchecked.selected.1
    have hway : (rampStepReg ch).toNat * made ≤ step * made := Nat.mul_le_mul_right _ hstep
    have hcost : 1000 * interval * made ≤ 1000 * (rampIntervalReg ch).toNat * made :=
      Nat.mul_le_mul_right _ (Nat.mul_le_mul_left _ hreg)
    refine ⟨turns + made, ?_, ?_⟩
    · rw [Nat.mul_add]
      omega
    · rw [Nat.mul_add]
      omega

/-- The ghost and the accumulator after one call. -/
theorem rated_call {op : ChannelOp} (h : Rated step interval (ch, watch))
    (hchecked : Checked k (drive ch)) (hinterval : 1 ≤ interval)
    (hconfig : configuredRamp step interval (ch, watch) op)
    (hkeeps : keepsRate (ch, watch) op) :
    Rated step interval (op.step k ch, watchAfter ch op watch) := by
  unfold watchAfter
  split
  next hstarts => exact rated_start hstarts hkeeps
  cases op with
  | tickRamp dtMs => exact rated_tick h hchecked hinterval hconfig hkeeps
  | _ =>
    intro w hw
    obtain ⟨turns, hmoved, hpaid⟩ := h w hw
    refine ⟨turns, hmoved, Nat.le_trans (Nat.add_le_add_left (accum_le ?_) _) hpaid⟩
    exact fun _ => nofun

end Rated

/-! ## Runs -/

/-- The controller beside the watch on the ramp of channel `i`. -/
def watchRamp (k : Kconfig) (i : Nat) (p : Controller σ × Option Watch) (op : PublicOp σ) :
    Controller σ × Option Watch :=
  watched (PublicOp.step k) (publicHistory k i watchAfter) p op

/-- Every call that an operation makes on channel `i` meets `Q`, with the watch before it. -/
def EachWatched (k : Kconfig) (i : Nat) (Q : Channel × Option Watch → ChannelOp → Bool)
    (p : Controller σ × Option Watch) (op : PublicOp σ) : Prop :=
  ∀ ch ∈ p.1.channels[i]?, Along (watched (ChannelOp.step k) watchAfter) (fun q c => Q q c)
    (ch, p.2) (op.channelOps k p.1 i ch)

instance (k : Kconfig) (i : Nat) (Q : Channel × Option Watch → ChannelOp → Bool)
    (p : Controller σ × Option Watch) (op : PublicOp σ) : Decidable (EachWatched k i Q p op) :=
  inferInstanceAs (Decidable (∀ ch ∈ p.1.channels[i]?, _))

/-- In every run whose ramps have steps up to `step` and intervals of `interval` seconds at least,
and whose commands find no time saved up, the ticks since a command move the running value of
channel `i` by one step at most for each full interval that they took. -/
theorem ramp_rate (k : Kconfig) (nodes : List Node) (store : σ) (i step interval : Nat)
    (hinterval : 1 ≤ interval) (ops : List (PublicOp σ))
    (hconfig : Along (watchRamp k i) (EachWatched k i (configuredRamp step interval))
      (VcController.init k nodes store, none) ops)
    (hops : Along (watchRamp k i) (EachWatched k i keepsRate)
      (VcController.init k nodes store, none) ops) :
    let p := exec (watchRamp k i) (VcController.init k nodes store, none) ops
    ∀ ch ∈ p.1.channels[i]?, ∀ w ∈ p.2, w.moved ≤ step * (w.elapsed / (1000 * interval)) := by
  have hinit : ∀ node, Checked k (drive (VcChannel.init k node)) ∧
      Rated step interval (VcChannel.init k node, none) := fun node =>
    ⟨checked_init k node, nofun⟩
  have hrun := publicHistory_invariant
    (I := fun p : Channel × Option Watch => Checked k (drive p.1) ∧ Rated step interval p)
    (Q := fun p c => configuredRamp step interval p c ∧ keepsRate p c)
    (fun p c h hQ => ⟨checked_of_effect (step_effect k p.1 c) h.1,
      rated_call h.2 h.1 hinterval hQ.1 hQ.2⟩)
    hinit (Along.mono (fun p op h ch hch => (h.1 ch hch).and (h.2 ch hch)) (hconfig.and hops))
  exact fun ch hch => (hrun ch hch).2.limit hinterval

/-- A ramp in steps of 300 that is on its way to 1000. -/
theorem ramp_rate_example :
    let ops : List (PublicOp Unit) :=
      [.controller (.channelSetField 0 .configuredTargetVoltage 1000),
        .controller (.channelSetField 0 .rampUpStep 300),
        .controller (.channelOutputAction 0 .enable), .controller (.tick 2500)]
    let p := exec (watchRamp Kconfig.hvb 0) (VcController.init Kconfig.hvb [dacNode] (), none) ops
    ∀ ch ∈ p.1.channels[0]?, ∀ w ∈ p.2, w.moved ≤ 300 * (w.elapsed / (1000 * 1)) :=
  ramp_rate Kconfig.hvb [dacNode] () 0 300 1 (by decide) _ (by decide +kernel) (by decide +kernel)

/-- The time left over from a ramp of 3 steps makes 7 more in a tick of no time, after the next
ENABLE. -/
theorem ramp_rate_exceeded :
    ¬ ∀ ops : List (PublicOp Unit),
      Along (watchRamp Kconfig.hvb 0) (EachWatched Kconfig.hvb 0 (configuredRamp 1 1))
        (VcController.init Kconfig.hvb [dacNode] (), none) ops →
      let p := exec (watchRamp Kconfig.hvb 0)
        (VcController.init Kconfig.hvb [dacNode] (), none) ops
      ∀ ch ∈ p.1.channels[0]?, ∀ w ∈ p.2, w.moved ≤ 1 * (w.elapsed / (1000 * 1)) := by
  intro h
  have hrun := h [.controller (.channelSetField 0 .configuredTargetVoltage 3),
    .controller (.channelSetField 0 .rampUpStep 1),
    .controller (.channelOutputAction 0 .enable), .controller (.tick 10000),
    .controller (.channelSetField 0 .configuredTargetVoltage 10),
    .controller (.channelOutputAction 0 .enable), .controller (.tick 0)] (by decide +kernel)
  revert hrun
  decide +kernel

end RampRate
