import HvbFirmware.RetryBudget
import HvbFirmware.VcChannelLedger

/-!
# The fault history

`fault_history_cause` is to keep every cause that became active until a CLEAR_HISTORY. A trip and a
reported fault set both masks. A recovery that gives up sets the active bit of RETRY_EXHAUST only.
-/
namespace FaultHistory

open VcTypes VcChannel VcController Runs RetryBudget

variable {σ : Type}

/-! ## Masks -/

/-- Every bit of one mask is set in the other. -/
def Within (mask mask' : UInt16) : Prop := mask ||| mask' = mask'

instance (mask mask' : UInt16) : Decidable (Within mask mask') :=
  inferInstanceAs (Decidable (_ = _))

variable {a b c : UInt16}

theorem within_refl (a : UInt16) : Within a a := UInt16.or_self

theorem within_zero (a : UInt16) : Within 0 a := UInt16.zero_or

theorem within_or_left (a b : UInt16) : Within a (a ||| b) := by
  rw [Within, ← UInt16.or_assoc, UInt16.or_self]

theorem within_or_right (a b : UInt16) : Within b (a ||| b) := by
  rw [UInt16.or_comm]
  exact within_or_left b a

theorem Within.trans (hab : Within a b) (hbc : Within b c) : Within a c := by
  have h : a ||| b ||| c = c := by rw [hab, hbc]
  rwa [UInt16.or_assoc, hbc] at h

theorem Within.or (hac : Within a c) (hbc : Within b c) : Within (a ||| b) c := by
  rw [Within, UInt16.or_assoc, hbc, hac]

theorem within_added (a b : UInt16) : Within ((a ||| b) &&& ~~~a) b := by
  refine UInt16.toBitVec_inj.mp ?_
  ext i hi
  simp
  cases a.toBitVec[i] <;> cases b.toBitVec[i] <;> simp

/-! ## What a call raises -/

/-- The bits of `active_fault_cause` that a call sets. -/
def newlyActive (k : Kconfig) (ch : Channel) (c : ChannelOp) : UInt16 :=
  (c.step k ch).activeFaultCause &&& ~~~ch.activeFaultCause

def clearsHistory : ChannelOp → Bool
  | .faultCommand .clearHistory => true
  | _ => false

/-- The bits that a call has set since the last CLEAR_HISTORY. -/
def raisedAfter (k : Kconfig) (ch : Channel) (c : ChannelOp) (raised : UInt16) : UInt16 :=
  if clearsHistory c then 0 else raised ||| newlyActive k ch c

/-- A `tick_recovery` that finds the wait over and the current safe, but starts no retry: the
budget is used up, or the derated target is not positive. -/
def givesUp (ch : Channel) (sysCfg : SystemConfig) (dtMs : UInt32) : Bool :=
  retryable ch sysCfg ∧ retryWaitMs ch ≤ dtMs ∧ isSafeToClearActive ch ∧
    retryDue ch sysCfg dtMs = false

/-- The call does not give up, or RETRY_EXHAUST is in the history already. -/
def recordsRaise (ch : Channel) : ChannelOp → Bool
  | .tickRecovery sysCfg dtMs =>
    !givesUp ch sysCfg dtMs || decide (Within faultRetryExhaust ch.faultHistoryCause)
  | _ => true

theorem active_attemptRetry (k : Kconfig) (ch : Channel) (sysCfg : SystemConfig) (dtMs : UInt32) :
    (attemptRetry k (waited ch)).activeFaultCause = 0 ∨
      retryDue ch sysCfg dtMs = false ∧ (attemptRetry k (waited ch)).activeFaultCause =
        (waited ch).activeFaultCause ||| faultRetryExhaust := by
  obtain ⟨-, hcount, htarget, hconfig⟩ := waited_reads ch
  unfold attemptRetry
  rw [hcount, htarget, hconfig]
  split
  next h => exact .inr ⟨by simp [retryDue]; omega, rfl⟩
  split
  next h => exact .inr ⟨by simp [retryDue, h.1]; omega, rfl⟩
  · obtain ⟨code, hdrive⟩ := drive_startRecovery (recordRetryAttempt k (waited ch))
      (Int16.ofInt (retryTarget ch))
    exact .inl (congrArg Drive.active hdrive)

/-- Only a recovery that gives up sets a bit, RETRY_EXHAUST. -/
theorem active_tickRecovery (k : Kconfig) (ch : Channel) (sysCfg : SystemConfig) (dtMs : UInt32) :
    (tickRecovery k ch sysCfg dtMs).activeFaultCause = ch.activeFaultCause ∨
      (tickRecovery k ch sysCfg dtMs).activeFaultCause = 0 ∨
      givesUp ch sysCfg dtMs ∧ (tickRecovery k ch sysCfg dtMs).activeFaultCause =
        ch.activeFaultCause ||| faultRetryExhaust := by
  have hcool : (enterCooldown ch).activeFaultCause = ch.activeFaultCause :=
    congrArg Drive.active (drive_enterCooldown ch)
  rcases tickRecovery_cases k ch sysCfg dtMs with ⟨-, h⟩ | ⟨-, -, h⟩ | ⟨-, -, -, h⟩ |
    ⟨hretry, hwait, hsafe, h⟩ <;> rw [h]
  · exact .inl rfl
  · exact .inl hcool
  · exact .inl hcool
  · rcases active_attemptRetry k ch sysCfg dtMs with hcleared | ⟨hdue, hexhausted⟩
    · exact .inr (.inl hcleared)
    · have hwaited : (waited ch).activeFaultCause = ch.activeFaultCause := hcool
      rw [hwaited] at hexhausted
      exact .inr (.inr ⟨by simp [givesUp, hretry, hwait, hsafe, hdue], hexhausted⟩)

/-! ## What a call records -/

theorem overLimitOn_of_tripsOn {ch : Channel} {c : ChannelOp} (h : tripsOn ch c) :
    overLimitOn ch c := by
  obtain ⟨raw, htaken, htrip⟩ := tripsOn_iff.mp h
  simp only [trips, decide_eq_true_eq] at htrip
  exact (Option.any_eq_true _ _).mpr ⟨raw, htaken, by simp [overLimit, htrip]⟩

/-- The cause bits that a call writes into the history or into the active mask. -/
def recordedCauses (ch : Channel) : ChannelOp → UInt16
  | .sampleCurrent => if overLimitOn ch .sampleCurrent then faultCurrent else 0
  | .consumeCurrent raw => if overLimitOn ch (.consumeCurrent raw) then faultCurrent else 0
  | .consumeFault cause => cause
  | .tickRecovery sysCfg dtMs => if givesUp ch sysCfg dtMs then faultRetryExhaust else 0
  | _ => 0

theorem recordedCauses_of_overLimit {ch : Channel} {c : ChannelOp} (h : overLimitOn ch c) :
    recordedCauses ch c = faultCurrent := by
  cases c with
  | sampleCurrent => exact if_pos h
  | consumeCurrent raw => exact if_pos h
  | _ => cases h

theorem recordedCauses_of_tripsOn {ch : Channel} {c : ChannelOp} (h : tripsOn ch c) :
    recordedCauses ch c = faultCurrent :=
  recordedCauses_of_overLimit (overLimitOn_of_tripsOn h)

/-- A call raises nothing that it does not record. -/
theorem newlyActive_recorded (k : Kconfig) (ch : Channel) (c : ChannelOp) :
    Within (newlyActive k ch c) (recordedCauses ch c) := by
  have heff := step_effect k ch c
  have htripped : tripsOn ch c → ch.activeFaultCause = 0 →
      (drive (c.step k ch)).active = faultCurrent →
        Within (newlyActive k ch c) (recordedCauses ch c) := by
    intro htrip hactive hcurrent
    have hnew : newlyActive k ch c = faultCurrent &&& ~~~0 := by
      rw [← hcurrent, ← hactive]
      rfl
    rw [hnew, recordedCauses_of_tripsOn htrip]
    exact within_refl _
  generalize hd : drive (c.step k ch) = d' at heff htripped
  have hnew : newlyActive k ch c = d'.active &&& ~~~ch.activeFaultCause := by
    rw [← hd]
    rfl
  have hsame : d'.active = ch.activeFaultCause →
      Within (newlyActive k ch c) (recordedCauses ch c) := by
    intro hactive
    rw [hnew, hactive, UInt16.and_not_self]
    exact within_zero _
  have hcleared : d'.active = 0 → Within (newlyActive k ch c) (recordedCauses ch c) := by
    intro hactive
    rw [hnew, hactive, UInt16.zero_and]
    exact within_zero _
  cases heff with
  | tripGraceful op code htrip hactive => exact htripped htrip hactive rfl
  | tripCleared op code smf htrip hactive => exact htripped htrip hactive rfl
  | tripOnly op code htrip hactive => exact htripped htrip hactive rfl
  | fault cause code =>
    rw [hnew]
    exact within_added _ _
  | hold => exact hsame (Drive.finish_active _)
  | arrive => exact hsame (Drive.finish_active _)
  | clearActive => exact hcleared rfl
  | retry => exact hcleared rfl
  | exhausted sysCfg dtMs hretry hactive =>
    have hactive : (tickRecovery k ch sysCfg dtMs).activeFaultCause =
        faultCurrent ||| faultRetryExhaust := congrArg Drive.active hd
    rcases active_tickRecovery k ch sysCfg dtMs with h' | h' | ⟨hgivesUp, h'⟩
    · exact hsame (hactive.symm.trans h')
    · exact hcleared (hactive.symm.trans h')
    · have hrecorded : recordedCauses ch (.tickRecovery sysCfg dtMs) = faultRetryExhaust :=
        if_pos hgivesUp
      rw [hnew, ← hactive, h', hrecorded]
      exact within_added _ _
  | _ => exact hsame rfl

/-! ## What a call writes into the history -/

/-- Only CLEAR_HISTORY takes a bit out of the history. -/
theorem history_kept {ch : Channel} {c : ChannelOp} (h : clearsHistory c = false) :
    Within ch.faultHistoryCause (ledgerAfter ch c).faultHistoryCause := by
  cases c with
  | outputAction action =>
    rw [ledgerAfter]
    split <;> exact within_refl _
  | faultCommand cmd =>
    cases cmd with
    | clearHistory => cases h
    | _ => exact within_refl _
  | sampleCurrent =>
    rw [ledgerAfter, sampledLedger]
    dsimp only
    split
    · exact within_or_left _ _
    · exact within_refl _
  | consumeCurrent raw =>
    rw [ledgerAfter, sampledLedger]
    dsimp only
    split
    · exact within_or_left _ _
    · exact within_refl _
  | consumeFault cause => exact within_or_left _ _
  | tickRamp dtMs =>
    rw [ledgerAfter]
    split <;> exact within_refl _
  | tickRecovery sysCfg dtMs =>
    rw [ledgerAfter]
    split <;> exact within_refl _
  | _ => exact within_refl _

/-- What a call records is in the history afterwards, where it does not give up. -/
theorem recorded_history {ch : Channel} {c : ChannelOp} (h : recordsRaise ch c) :
    Within (recordedCauses ch c) (ledgerAfter ch c).faultHistoryCause := by
  have hsampled : (ledgerAfter ch c).faultHistoryCause =
      (if overLimitOn ch c then ch.faultHistoryCause ||| faultCurrent else ch.faultHistoryCause) →
      recordedCauses ch c = (if overLimitOn ch c then faultCurrent else 0) →
      Within (recordedCauses ch c) (ledgerAfter ch c).faultHistoryCause := by
    intro hhistory hrecorded
    rw [hhistory, hrecorded]
    split
    · exact within_or_right _ _
    · exact within_zero _
  cases c with
  | sampleCurrent => exact hsampled rfl rfl
  | consumeCurrent raw => exact hsampled rfl rfl
  | consumeFault cause => exact within_or_right _ _
  | tickRecovery sysCfg dtMs =>
    rw [recordedCauses]
    split
    next hgivesUp =>
      have hrecorded : Within faultRetryExhaust ch.faultHistoryCause := by
        simpa [recordsRaise, hgivesUp] using h
      exact hrecorded.trans (history_kept rfl)
    · exact within_zero _
  | _ => exact within_zero _

/-- A call that records what it raises has it in the history afterwards. -/
theorem newlyActive_within {k : Kconfig} {ch : Channel} {c : ChannelOp} (h : recordsRaise ch c) :
    Within (newlyActive k ch c) (ledgerAfter ch c).faultHistoryCause :=
  (newlyActive_recorded k ch c).trans (recorded_history h)

/-! ## Runs -/

theorem within_call {k : Kconfig} {p : Channel × UInt16} {c : ChannelOp}
    (h : Within p.2 p.1.faultHistoryCause) (hrecords : recordsRaise p.1 c) :
    Within (watched (ChannelOp.step k) (raisedAfter k) p c).2
      (watched (ChannelOp.step k) (raisedAfter k) p c).1.faultHistoryCause := by
  obtain ⟨ch, raised⟩ := p
  show Within (raisedAfter k ch c raised) (ledger (c.step k ch)).faultHistoryCause
  rw [ledger_step, raisedAfter]
  cases hclears : clearsHistory c with
  | true => exact within_zero _
  | false => exact (Within.trans h (history_kept hclears)).or (newlyActive_within hrecords)

/-- The operations in which no recovery of channel `i` gives up while RETRY_EXHAUST is not in the
history. -/
def RecordsRaises (k : Kconfig) (i : Nat) (ctrl : Controller σ) (op : PublicOp σ) : Prop :=
  ∀ ch ∈ ctrl.channels[i]?, Along (ChannelOp.step k) (fun ch c => recordsRaise ch c) ch
    (op.channelOps k ctrl i ch)

instance (k : Kconfig) (i : Nat) (ctrl : Controller σ) (op : PublicOp σ) :
    Decidable (RecordsRaises k i ctrl op) :=
  inferInstanceAs (Decidable (∀ ch ∈ ctrl.channels[i]?, _))

/-- The controller beside the bits of channel `i` that were set since the last CLEAR_HISTORY. -/
def watchRaised (k : Kconfig) (i : Nat) (p : Controller σ × UInt16) (op : PublicOp σ) :
    Controller σ × UInt16 :=
  watched (PublicOp.step k) (publicHistory k i (raisedAfter k)) p op

/-- In every run of public calls in which no recovery of channel `i` gives up while RETRY_EXHAUST
is not in the history, the history has every bit that became active since it was cleared. -/
theorem history_complete (k : Kconfig) (nodes : List Node) (store : σ) (i : Nat)
    (ops : List (PublicOp σ))
    (hops : Along (PublicOp.step k) (RecordsRaises k i) (VcController.init k nodes store) ops) :
    let p := exec (watchRaised k i) (VcController.init k nodes store, 0) ops
    ∀ ch ∈ p.1.channels[i]?, Within p.2 ch.faultHistoryCause := by
  refine publicHistory_invariant (I := fun p : Channel × UInt16 => Within p.2 p.1.faultHistoryCause)
    (Q := fun p c => recordsRaise p.1 c) (fun p c => within_call) (fun node => within_zero _) ?_
  refine Along.mono (fun p op hop ch hch => ?_) (along_watched.mpr hops)
  exact (along_watched (Q := fun ch c => recordsRaise ch c)).mpr (hop ch hch)

/-- A trip, its retry and a CLEAR_HISTORY. -/
theorem history_complete_example :
    let ops : List (PublicOp Unit) := (retryOps Unit ++
      tripAndRetry Unit 1 ++ [ControllerOp.channelFaultCommand 0 .clearHistory]).map .controller
    let p := exec (watchRaised Kconfig.hvb 0) (VcController.init Kconfig.hvb [dacNode] (), 0) ops
    ∀ ch ∈ p.1.channels[0]?, Within p.2 ch.faultHistoryCause :=
  history_complete Kconfig.hvb [dacNode] () 0 _ (by decide +kernel)

/-- A trip of a channel with a budget of no retries leaves RETRY_EXHAUST active, and out of the
history. -/
theorem history_incomplete :
    ¬ ∀ ops : List (PublicOp Unit),
      let p := exec (watchRaised Kconfig.hvb 0) (VcController.init Kconfig.hvb [dacNode] (), 0) ops
      ∀ ch ∈ p.1.channels[0]?, Within p.2 ch.faultHistoryCause := by
  intro h
  have hrun := h ((retryOps Unit ++ [ControllerOp.channelSetField 0 .autoRetryMaxCount 0] ++
    tripAndRetry Unit 1).map .controller)
  revert hrun
  decide +kernel

end FaultHistory
