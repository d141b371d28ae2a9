import HvbFirmware.FaultHistory
import HvbFirmware.VcCatalog

/-!
# The time of the last fault

LAST_FAULT_TIMESTAMP is to be the uptime of the board, in seconds, when a cause was last written
into one of the fault masks. Only a trip stamps the channel, with the channel's own clock in
milliseconds. A run is given here with the uptime of the board at each of its operations.
-/
namespace FaultTimestamp

open VcTypes VcChannel VcController VcCatalog Runs FaultHistory RetryBudget

variable {σ : Type}

/-! ## What a call records -/

/-- The bits that a call sets in the history. -/
def newlyInHistory (k : Kconfig) (ch : Channel) (c : ChannelOp) : UInt16 :=
  (c.step k ch).faultHistoryCause &&& ~~~ch.faultHistoryCause

theorem newlyInHistory_within (k : Kconfig) (ch : Channel) (c : ChannelOp) :
    Within (newlyInHistory k ch c) (recordedCauses ch c) := by
  have hledger : (c.step k ch).faultHistoryCause = (ledgerAfter ch c).faultHistoryCause :=
    congrArg Ledger.faultHistoryCause (ledger_step k ch c)
  have hsame : (ledgerAfter ch c).faultHistoryCause = ch.faultHistoryCause →
      Within (newlyInHistory k ch c) (recordedCauses ch c) := by
    intro h
    rw [newlyInHistory, hledger, h, UInt16.and_not_self]
    exact within_zero _
  have hsampled : (ledgerAfter ch c).faultHistoryCause =
      (if overLimitOn ch c then ch.faultHistoryCause ||| faultCurrent else ch.faultHistoryCause) →
      Within (newlyInHistory k ch c) (recordedCauses ch c) := by
    intro h
    cases hover : overLimitOn ch c with
    | false => exact hsame (by rw [h, hover]; rfl)
    | true =>
      rw [newlyInHistory, hledger, h, hover, recordedCauses_of_overLimit hover]
      exact within_added _ _
  cases c with
  | sampleCurrent => exact hsampled rfl
  | consumeCurrent raw => exact hsampled rfl
  | consumeFault cause =>
    rw [newlyInHistory, hledger]
    exact within_added _ _
  | faultCommand cmd =>
    cases cmd with
    | clearHistory =>
      have hcleared : newlyInHistory k ch (.faultCommand .clearHistory) = 0 := by
        rw [newlyInHistory, hledger]
        exact UInt16.zero_and
      rw [hcleared]
      exact within_zero _
    | _ => exact hsame rfl
  | outputAction action => exact hsame (by rw [ledgerAfter]; split <;> rfl)
  | tickRamp dtMs => exact hsame (by rw [ledgerAfter]; split <;> rfl)
  | tickRecovery sysCfg dtMs => exact hsame (by rw [ledgerAfter]; split <;> rfl)
  | _ => exact hsame rfl

theorem tickRecovery_givesUp (k : Kconfig) {ch : Channel} {sysCfg : SystemConfig} {dtMs : UInt32}
    (h : givesUp ch sysCfg dtMs) :
    tickRecovery k ch sysCfg dtMs = retriesExhausted (waited ch) := by
  simp only [givesUp, decide_eq_true_eq] at h
  obtain ⟨hretry, hwait, hsafe, hdue⟩ := h
  rcases tickRecovery_cases k ch sysCfg dtMs with ⟨hnot, -⟩ | ⟨-, hnot, -⟩ | ⟨-, -, hnot, -⟩ |
    ⟨-, -, -, heq⟩
  · exact absurd (hnot.symm.trans hretry) (by decide)
  · exact absurd hwait (UInt32.not_le.mpr hnot)
  · exact absurd (hnot.symm.trans hsafe) (by decide)
  · obtain ⟨-, hcount, htarget, hconfig⟩ := waited_reads ch
    rw [heq, attemptRetry, hcount, htarget, hconfig]
    split
    · rfl
    next hbudget =>
    rw [if_pos]
    simp only [retryDue, decide_eq_false_iff_not, not_and, Classical.not_imp] at hdue
    obtain ⟨hpolicy, hpositive⟩ := hdue hretry hwait hsafe (Nat.lt_of_not_le hbudget)
    exact ⟨hpolicy, Int.not_lt.mp hpositive⟩

/-- What a call records stands in one of the masks afterwards. -/
theorem recorded_shown (k : Kconfig) (ch : Channel) (c : ChannelOp) :
    Within (recordedCauses ch c)
      ((c.step k ch).activeFaultCause ||| (c.step k ch).faultHistoryCause) := by
  by_cases hrecords : recordsRaise ch c
  · have hledger : (c.step k ch).faultHistoryCause = (ledgerAfter ch c).faultHistoryCause :=
      congrArg Ledger.faultHistoryCause (ledger_step k ch c)
    rw [hledger]
    exact (recorded_history hrecords).trans (within_or_right _ _)
  · cases c with
    | tickRecovery sysCfg dtMs =>
      have hgivesUp : givesUp ch sysCfg dtMs := by
        cases hgivesUp : givesUp ch sysCfg dtMs with
        | true => rfl
        | false => exact absurd (by simp [recordsRaise, hgivesUp]) hrecords
      have hactive : (tickRecovery k ch sysCfg dtMs).activeFaultCause =
          (waited ch).activeFaultCause ||| faultRetryExhaust := by
        rw [tickRecovery_givesUp k hgivesUp]
        rfl
      show Within (recordedCauses ch (.tickRecovery sysCfg dtMs))
        ((tickRecovery k ch sysCfg dtMs).activeFaultCause ||| _)
      rw [recordedCauses, if_pos hgivesUp, hactive]
      exact (within_or_right _ _).trans (within_or_left _ _)
    | _ => exact absurd rfl hrecords

/-! ## Runs on the clock of the board -/

/-- A public call, and the uptime of the board in ms when it is made. -/
structure TimedOp (σ : Type) where
  uptimeMs : Nat
  op : PublicOp σ

def timedStep (k : Kconfig) (ctrl : Controller σ) (o : TimedOp σ) : Controller σ := o.op.step k ctrl

/-- When the last cause bit was recorded. -/
def recordedAt (uptimeMs : Nat) (ch : Channel) (c : ChannelOp) (last : Option Nat) : Option Nat :=
  if recordedCauses ch c = 0 then last else some uptimeMs

/-- The controller beside the time at which channel `i` recorded a cause bit last. -/
def watchRecorded (k : Kconfig) (i : Nat) : Controller σ × Option Nat → TimedOp σ →
    Controller σ × Option Nat :=
  watched (timedStep k) fun ctrl o last =>
    historyAfter k i (recordedAt o.uptimeMs) ctrl (o.op.channelOps k ctrl) last

/-- `sys_uptime_reg_read`: the uptime of the board in whole seconds. -/
def uptimeReg (uptimeMs : Nat) : UInt32 := UInt32.ofNat (uptimeMs / 1000)

/-- The register has the uptime at the last record, and 0 before the first one. -/
def Truthful (ch : Channel) (last : Option Nat) : Prop :=
  channelValue ch .lastFaultTimestamp = (.ok, (last.map uptimeReg).getD 0)

instance (ch : Channel) (last : Option Nat) : Decidable (Truthful ch last) :=
  inferInstanceAs (Decidable (_ = _))

/-- A call that records a cause bit does it when the stamp is right: a trip when the clock of the
channel has the seconds of the board, another call when the stamp has them already. -/
def stampsRight (uptimeMs : Nat) (ch : Channel) (c : ChannelOp) : Bool :=
  recordedCauses ch c = 0 ∨
    (if tripsOn ch c then ch.uptimeRef else ch.lastFaultTimestamp) = uptimeReg uptimeMs

/-! ## One call -/

theorem truthful_iff (ch : Channel) (last : Option Nat) :
    Truthful ch last ↔ ch.lastFaultTimestamp = (last.map uptimeReg).getD 0 := by
  have hvalue : channelValue ch .lastFaultTimestamp = (.ok, ch.lastFaultTimestamp) := rfl
  rw [Truthful, hvalue]
  simp

section Calls

variable {k : Kconfig} {uptimeMs : Nat}

theorem truthful_call {p : Channel × Option Nat} (h : Truthful p.1 p.2) (c : ChannelOp) :
    Truthful (watched (ChannelOp.step k) (recordedAt uptimeMs) p c).1
        (watched (ChannelOp.step k) (recordedAt uptimeMs) p c).2 ↔
      stampsRight uptimeMs p.1 c := by
  obtain ⟨ch, last⟩ := p
  show Truthful (c.step k ch) (recordedAt uptimeMs ch c last) ↔ _
  have h : ch.lastFaultTimestamp = (last.map uptimeReg).getD 0 := (truthful_iff ch last).mp h
  rw [truthful_iff, lastFaultTimestamp_step, recordedAt, stampsRight, decide_eq_true_eq]
  by_cases hrecorded : recordedCauses ch c = 0
  · have htrip : tripsOn ch c = false := by
      refine Bool.eq_false_iff.mpr fun htrip => ?_
      rw [recordedCauses_of_tripsOn htrip] at hrecorded
      cases hrecorded
    simp [hrecorded, htrip, h]
  · simp [hrecorded]

/-- The calls that may stamp. -/
def samples : ChannelOp → Bool
  | .sampleCurrent | .consumeCurrent _ => true
  | _ => false

theorem tripsOn_of_not_samples {c : ChannelOp} (h : samples c = false) (ch : Channel) :
    tripsOn ch c = false := by
  cases c with
  | sampleCurrent => cases h
  | consumeCurrent raw => cases h
  | _ => rfl

/-- A record at this time that the stamp does not show. -/
def Missed (uptimeMs : Nat) (p : Channel × Option Nat) : Prop :=
  p.2 = some uptimeMs ∧ p.1.lastFaultTimestamp ≠ uptimeReg uptimeMs

theorem missed_call {p : Channel × Option Nat} {c : ChannelOp}
    (hnot : ¬ stampsRight uptimeMs p.1 c) :
    Missed uptimeMs (watched (ChannelOp.step k) (recordedAt uptimeMs) p c) := by
  simp only [stampsRight, decide_eq_true_eq, not_or] at hnot
  exact ⟨if_neg hnot.1, (lastFaultTimestamp_step k p.1 c) ▸ hnot.2⟩

theorem Missed.kept {p : Channel × Option Nat} (h : Missed uptimeMs p) {c : ChannelOp}
    (hquiet : samples c = false) :
    Missed uptimeMs (watched (ChannelOp.step k) (recordedAt uptimeMs) p c) := by
  refine ⟨?_, ?_⟩
  · show recordedAt uptimeMs p.1 c p.2 = some uptimeMs
    rw [recordedAt, h.1, ite_self]
  · show (c.step k p.1).lastFaultTimestamp ≠ _
    rw [lastFaultTimestamp_step, tripsOn_of_not_samples hquiet]
    exact h.2

theorem Missed.not_truthful {p : Channel × Option Nat} (h : Missed uptimeMs p) :
    ¬ Truthful p.1 p.2 := by
  rw [truthful_iff, h.1]
  exact h.2

end Calls

/-! ## Runs -/

/-- In an operation, no call that may stamp comes after one that may record. -/
theorem pairwise_channelOps (k : Kconfig) (uptimeMs : Nat) (ctrl : Controller σ) (op : PublicOp σ)
    (i : Nat) (ch : Channel) : (op.channelOps k ctrl i ch).Pairwise fun c d =>
      (∀ ch, stampsRight uptimeMs ch c) ∨ samples d = false := by
  have hquiet : (∀ d ∈ op.channelOps k ctrl i ch, samples d = false) →
      (op.channelOps k ctrl i ch).Pairwise fun c d =>
        (∀ ch, stampsRight uptimeMs ch c) ∨ samples d = false := fun hall =>
    List.pairwise_of_forall_mem_list fun _ _ d hd => .inr (hall d hd)
  cases op with
  | channel j op =>
    simp only [PublicOp.channelOps]
    split
    · exact List.Pairwise.nil
    · exact List.pairwise_singleton _ _
  | controller op =>
    by_cases hrun : ∃ dtMs, op = .tick dtMs ∧ ctrl.operatingMode ≠ .calibration
    · obtain ⟨dtMs, rfl, hmode⟩ := hrun
      have hmoves : (ControllerOp.tick dtMs).movesTo ctrl = none := by
        simp [ControllerOp.movesTo, ControllerOp.request, hmode]
      have hcalls : (ControllerOp.tick dtMs).channelOps k ctrl i ch = runOps ctrl.sysCfg dtMs :=
        (channelOps_of_stays hmoves i ch).trans (if_neg hmode)
      rw [PublicOp.channelOps, hcalls, runOps]
      simp [samples, stampsRight, recordedCauses]
    · refine hquiet fun d hd => ?_
      rcases mem_channelOps hd with ⟨mode, -, hd⟩ | hmade
      · rcases mem_transitionOps hd with ⟨entering, rfl⟩ | ⟨rfl, -⟩ | ⟨rfl, -⟩ <;> rfl
      · cases hmade with
        | run dtMs _ hmode => exact absurd ⟨dtMs, rfl, hmode⟩ hrun
        | _ => rfl

/-- Every call on channel `i` that records a cause bit does it when the stamp is right. -/
def StampsRight (k : Kconfig) (i : Nat) (ctrl : Controller σ) (o : TimedOp σ) : Prop :=
  EachCallOn k i (fun ch c => stampsRight o.uptimeMs ch c) ctrl o.op

theorem truthful_timedStep (k : Kconfig) (i : Nat) {p : Controller σ × Option Nat}
    (h : ∀ ch ∈ p.1.channels[i]?, Truthful ch p.2) (o : TimedOp σ) :
    (∀ ch ∈ (watchRecorded k i p o).1.channels[i]?, Truthful ch (watchRecorded k i p o).2) ↔
      StampsRight k i p.1 o := by
  obtain ⟨ctrl, last⟩ := p
  show (∀ ch ∈ (o.op.step k ctrl).channels[i]?, Truthful ch (historyAfter k i
    (recordedAt o.uptimeMs) ctrl (o.op.channelOps k ctrl) last)) ↔ _
  unfold StampsRight EachCallOn historyAfter
  rw [getElem?_publicStep]
  dsimp only at h ⊢
  cases hch : ctrl.channels[i]? with
  | none => simp
  | some ch =>
    let run := exec (watched (ChannelOp.step k) (recordedAt o.uptimeMs)) (ch, last)
      (o.op.channelOps k ctrl i ch)
    have hrun : Truthful run.1 run.2 ↔
        Along (watched (ChannelOp.step k) (recordedAt o.uptimeMs))
          (fun p c => stampsRight o.uptimeMs p.1 c) (ch, last) (o.op.channelOps k ctrl i ch) :=
      exec_invariant_iff_of_lost (I := fun p : Channel × Option Nat => Truthful p.1 p.2)
        (R := fun c => samples c = false) (fun p c hp => truthful_call hp c)
        (fun p c _ hnot => missed_call hnot) (fun p c hquiet hmissed => hmissed.kept hquiet)
        (fun p hmissed => hmissed.not_truthful)
        ((pairwise_channelOps k o.uptimeMs ctrl o.op i ch).imp
          fun hcd => hcd.imp_left fun hall p => hall p.1) (h ch hch)
    have hfst : run.1 = exec (ChannelOp.step k) ch (o.op.channelOps k ctrl i ch) :=
      exec_watched_fst _ _ _ _
    rw [hfst, along_watched (Q := fun ch c => stampsRight o.uptimeMs ch c)] at hrun
    simpa using hrun

/-- After every operation of a run the register has the time of the last record exactly if every
call on the channel that records a cause bit does it when the stamp is right. -/
theorem timestamp_truthful_iff (k : Kconfig) (nodes : List Node) (store : σ) (i : Nat)
    (ops : List (TimedOp σ)) :
    Along (watchRecorded k i) (fun p o => ∀ ch ∈ (watchRecorded k i p o).1.channels[i]?,
        Truthful ch (watchRecorded k i p o).2) (VcController.init k nodes store, none) ops ↔
      Along (timedStep k) (StampsRight k i) (VcController.init k nodes store) ops := by
  have hstart : ∀ ch ∈ (VcController.init k nodes store).channels[i]?, Truthful ch none :=
    forall_getElem?_init (fun _ => rfl) nodes store i
  refine (along_invariant_iff (I := fun p : Controller σ × Option Nat =>
    ∀ ch ∈ p.1.channels[i]?, Truthful ch p.2) (Q := fun p o => StampsRight k i p.1 o)
    (fun p o hp => truthful_timedStep k i hp o) hstart).trans ?_
  exact along_watched

/-- A trip of a channel that has been run since the boot, 6 s after it. -/
def tripRun : List (TimedOp Unit) :=
  [⟨0, .controller (.channelSetField 0 .currentProtectionMode 2)⟩,
    ⟨0, .controller (.channelSetField 0 .currentLimitThreshold 100)⟩,
    ⟨1000, .controller (.tick 1000)⟩, ⟨5500, .controller (.publishCurrent 0 200000000 1)⟩,
    ⟨6000, .controller (.tick 5000)⟩]

/-- The register has 6000 after a fault at 6 s. -/
theorem timestamp_milliseconds :
    (exec (watchRecorded .hvb 0) (VcController.init .hvb [dacNode] (), none) tripRun).2 =
        some 6000 ∧
      (exec (timedStep .hvb) (VcController.init .hvb [dacNode] ()) tripRun).channels.map
        (fun ch => channelValue ch .lastFaultTimestamp) = [(.ok, 6000)] ∧
      ¬ Along (watchRecorded .hvb 0) (fun p o => ∀ ch ∈ (watchRecorded .hvb 0 p o).1.channels[0]?,
        Truthful ch (watchRecorded .hvb 0 p o).2)
        (VcController.init .hvb [dacNode] (), none) tripRun := by
  decide +kernel

end FaultTimestamp
