import HvbFirmware.VcChannelFrame
import HvbFirmware.Ramp

/-!
# What a call books

The fault history, the time of the last fault, the rest of the cooldown and the time that a ramp
has saved up are written by a few calls each. `ledgerAfter` says which call writes which of them,
and what.
-/
namespace VcChannel

open VcTypes Ramp

structure Ledger where
  faultHistoryCause : UInt16
  lastFaultTimestamp : UInt32
  cooldownRemainingMs : UInt32
  rampAccumMs : UInt32
  deriving DecidableEq, Repr

def ledger (ch : Channel) : Ledger where
  faultHistoryCause := ch.faultHistoryCause
  lastFaultTimestamp := ch.lastFaultTimestamp
  cooldownRemainingMs := ch.cooldownRemainingMs
  rampAccumMs := ch.rampAccumMs

@[simp] theorem ledger_updateStatusBits (ch : Channel) :
    ledger (updateStatusBits ch) = ledger ch := rfl

@[simp] theorem ledger_applyHw (ch : Channel) : ledger (applyHw ch) = ledger ch := by
  unfold applyHw
  split <;> rfl

@[simp] theorem ledger_refresh (ch : Channel) : ledger (refresh ch) = ledger ch := ledger_applyHw ch

@[simp] theorem ledger_finishRamp (ch : Channel) : ledger (finishRamp ch) = ledger ch := by
  unfold finishRamp
  split <;> rfl

/-- The condition under which `tick_current_protection` writes the history. -/
def overLimit (ch : Channel) : Bool :=
  ch.activeFaultCause = 0 ∧ !ch.ramping ∧ ch.config.currentProtectionMode ≠ .disabled ∧
    ch.config.currentLimitThreshold < ch.measuredCurrent

/-- Whether a call takes in a current sample that the protection writes into the history. -/
def overLimitOn (ch : Channel) (op : ChannelOp) : Bool :=
  (takenIn ch op).any fun raw => overLimit (measureCurrent ch raw)

/-- A host action that is carried out as DISABLE_GRACEFUL. -/
def gracefulDisable (ch : Channel) (action : OutputAction) : Bool :=
  action == .disableGraceful && hasCap ch capRawOutputDrive && hasCap ch capOutputEnable

/-- The cooldown after a tick of the recovery. -/
def cooldownAfter (ch : Channel) (dtMs : UInt32) : UInt32 :=
  if retryWaitMs ch > dtMs then retryWaitMs ch - dtMs else 0

/-- The ledger after a current sample. -/
def sampledLedger (ch : Channel) (exceeds trip : Bool) : Ledger :=
  { ledger ch with
    faultHistoryCause :=
      if exceeds then ch.faultHistoryCause ||| faultCurrent else ch.faultHistoryCause
    lastFaultTimestamp := if trip then ch.uptimeRef else ch.lastFaultTimestamp }

/-- The ledger that a call leaves. -/
def ledgerAfter (ch : Channel) : ChannelOp → Ledger
  | .outputAction action =>
    if gracefulDisable ch action then { ledger ch with cooldownRemainingMs := 0 } else ledger ch
  | .faultCommand .clearHistory => { ledger ch with faultHistoryCause := 0 }
  | .sampleCurrent => sampledLedger ch (overLimitOn ch .sampleCurrent) (tripsOn ch .sampleCurrent)
  | .consumeCurrent raw =>
    sampledLedger ch (overLimitOn ch (.consumeCurrent raw)) (tripsOn ch (.consumeCurrent raw))
  | .consumeFault cause =>
    { ledger ch with
      faultHistoryCause := ch.faultHistoryCause ||| cause
      cooldownRemainingMs := 0 }
  | .resetCalibration _ => { ledger ch with rampAccumMs := 0, cooldownRemainingMs := 0 }
  | .tickRamp dtMs =>
    if rampMoves ch then { ledger ch with rampAccumMs := (rampResult ch dtMs).1 } else ledger ch
  | .tickRecovery sysCfg dtMs =>
    if retryable ch sysCfg then { ledger ch with cooldownRemainingMs := cooldownAfter ch dtMs }
    else ledger ch
  | _ => ledger ch

section Calls

variable (k : Kconfig) (ch : Channel)

/-- Two requests change the ledger. -/
theorem ledger_request {op : ChannelOp} {ch' : Channel} (h : RequestStep k ch op ch')
    (hgraceful : ∀ action, op = .outputAction action → gracefulDisable ch action = false)
    (hclear : op ≠ .faultCommand .clearHistory) : ledger ch' = ledger ch := by
  cases h with
  | graceful hdac hcap =>
    have hnot := hgraceful _ rfl
    simp [gracefulDisable, hdac, hcap] at hnot
  | clearHistory => exact absurd rfl hclear
  | _ => first | exact ledger_refresh _ | exact ledger_applyHw _ | rfl

theorem ledger_outputAction (k : Kconfig) (ch : Channel) (action : OutputAction) :
    ledger (outputAction ch action).2 = ledgerAfter ch (.outputAction action) := by
  rw [ledgerAfter]
  split
  next h =>
    simp only [gracefulDisable, Bool.and_eq_true, beq_iff_eq] at h
    obtain ⟨⟨rfl, hdac⟩, hcap⟩ := h
    rw [outputAction_graceful hdac hcap, ledger_refresh]
    rfl
  next h =>
    refine ledger_request k ch (outputAction_step k ch action) ?_ (by simp)
    rintro _ ⟨⟩
    simpa using h

theorem ledger_faultCommand (k : Kconfig) (ch : Channel) (cmd : ChannelFaultCommand) :
    ledger (faultCommand ch cmd).2 = ledgerAfter ch (.faultCommand cmd) := by
  cases cmd with
  | clearHistory => rfl
  | _ => exact ledger_request k ch (faultCommand_step k ch _) (by simp) (by simp)

theorem ledger_applyProtectionAction (action : OutputAction) :
    ledger (applyProtectionAction ch action) = ledger ch := by
  unfold applyProtectionAction
  dsimp only
  rw [ledger_applyHw]
  split <;> rfl

theorem ledger_tickCurrentProtection :
    ledger (tickCurrentProtection ch) = sampledLedger ch (overLimit ch) (trips ch) := by
  have hquiet : overLimit ch = false → trips ch = false →
      ledger ch = sampledLedger ch (overLimit ch) (trips ch) := by
    intro hover htrip
    rw [hover, htrip]
    rfl
  unfold tickCurrentProtection
  split
  next h => exact hquiet (by simp [overLimit, h]) (by simp [trips, h])
  next hactive =>
  split
  next h => exact hquiet (by simp [overLimit, h]) (by simp [trips, h])
  next hramping =>
  split
  next h => exact hquiet (by simp [overLimit, h]) (by simp [trips, h])
  next hmode =>
  split
  next h =>
    have h := Int16.not_lt.mpr h
    exact hquiet (by simp [overLimit, h]) (by simp [trips, h])
  next hlimit =>
  have hlimit := Int16.not_le.mp hlimit
  have hover : overLimit ch := by simp_all [overLimit]
  dsimp only
  split
  next hflag =>
    have hflag : ch.config.currentProtectionMode ≠ .applyOutputAction := hflag
    have htrip : trips ch = false := by simp [trips, hflag]
    rw [hover, htrip]
    rfl
  next happly =>
    have happly : ch.config.currentProtectionMode = .applyOutputAction :=
      Decidable.not_not.mp happly
    have htrip : trips ch := by simp_all [trips]
    rw [hover, htrip]
    exact ledger_applyProtectionAction _ _

theorem ledger_consumeCurrent (raw : Int32) :
    ledger (consumeCurrent ch raw) = ledgerAfter ch (.consumeCurrent raw) := by
  show ledger (if !(measureCurrent ch raw).ramping then
    tickCurrentProtection (measureCurrent ch raw) else measureCurrent ch raw) = _
  split
  · exact ledger_tickCurrentProtection (measureCurrent ch raw)
  next hramping =>
    have hramping : (measureCurrent ch raw).ramping := by simpa using hramping
    have hover : overLimit (measureCurrent ch raw) = false := by simp [overLimit, hramping]
    have htrip : trips (measureCurrent ch raw) = false := by simp [trips, hramping]
    show ledger ch = sampledLedger ch (overLimit (measureCurrent ch raw))
      (trips (measureCurrent ch raw))
    rw [hover, htrip]
    rfl

theorem ledger_sampleCurrent :
    ledger (sampleCurrent ch) = ledgerAfter ch .sampleCurrent := by
  rw [ledgerAfter, overLimitOn, tripsOn_eq]
  rcases sampleCurrent_cases ch with ⟨htaken, h⟩ | ⟨raw, ts, htaken, h⟩ <;> rw [h, htaken]
  · rfl
  · exact ledger_consumeCurrent ch raw

theorem ledger_sampleVoltage : ledger (sampleVoltage ch) = ledger ch := by
  unfold sampleVoltage
  split
  · rfl
  · split <;> rfl

theorem ledger_tickRamp (dtMs : UInt32) :
    ledger (tickRamp ch dtMs) = ledgerAfter ch (.tickRamp dtMs) := by
  have hquiet : rampMoves ch = false → ledgerAfter ch (.tickRamp dtMs) = ledger ch := fun h =>
    if_neg (by simp [h])
  have hstep := tickRamp_step ch dtMs
  generalize tickRamp ch dtMs = ch' at hstep
  cases hstep with
  | idle h => rw [hquiet (by rcases h with h | h <;> simp [rampMoves, h])]
  | hold hruns hthere => rw [hquiet (by simp [rampMoves, hthere]), ledger_finishRamp]
  | off hruns hthere => rw [hquiet (by simp [rampMoves, hthere]), ledger_refresh, ledger_finishRamp]
  | jump hruns hdiffers hzero =>
    rw [hquiet (by rcases hzero with h | h <;> simp [rampMoves, h]), ledger_refresh,
      ledger_finishRamp]
    rfl
  | arrive hmoves =>
    rw [ledgerAfter, if_pos hmoves, ledger_refresh, ledger_finishRamp]
    rfl
  | move hmoves =>
    rw [ledgerAfter, if_pos hmoves, ledger_refresh]
    rfl

theorem ledger_waited : ledger (waited ch) = { ledger ch with cooldownRemainingMs := 0 } := by
  unfold waited enterCooldown
  split <;> rfl

theorem ledger_recordRetryAttempt : ledger (recordRetryAttempt k ch) = ledger ch := by
  unfold recordRetryAttempt
  split <;> rfl

theorem ledger_attemptRetry : ledger (attemptRetry k ch) = ledger ch := by
  unfold attemptRetry
  split
  · rfl
  split
  · rfl
  · rw [startRecovery, ledger_updateStatusBits, ledger_applyHw]
    exact ledger_recordRetryAttempt k ch

theorem ledger_tickRecovery (sysCfg : SystemConfig) (dtMs : UInt32) :
    ledger (tickRecovery k ch sysCfg dtMs) = ledgerAfter ch (.tickRecovery sysCfg dtMs) := by
  rw [ledgerAfter, cooldownAfter]
  rcases tickRecovery_cases k ch sysCfg dtMs with ⟨hretry, h⟩ | ⟨hretry, hwait, h⟩ |
    ⟨hretry, hwait, -, h⟩ | ⟨hretry, hwait, -, h⟩ <;> rw [h, hretry]
  · rfl
  · rw [if_pos rfl, if_pos hwait]
    unfold enterCooldown
    split <;> rfl
  · rw [if_pos rfl, if_neg (UInt32.not_lt.mpr hwait)]
    exact ledger_waited ch
  · rw [if_pos rfl, if_neg (UInt32.not_lt.mpr hwait)]
    exact (ledger_attemptRetry k (waited ch)).trans (ledger_waited ch)

/-- Every call leaves its ledger. -/
theorem ledger_step (op : ChannelOp) : ledger (op.step k ch) = ledgerAfter ch op := by
  have hother := @ledger_request k ch
  cases op with
  | outputAction action => exact ledger_outputAction k ch action
  | faultCommand cmd => exact ledger_faultCommand k ch cmd
  | setField field value => exact hother (setField_step k ch field value) (by simp) (by simp)
  | setConfig cfg => exact hother (setConfig_step k ch cfg) (by simp) (by simp)
  | advance dtMs => rfl
  | sampleVoltage => exact ledger_sampleVoltage ch
  | sampleCurrent => exact ledger_sampleCurrent ch
  | tickRamp dtMs => exact ledger_tickRamp ch dtMs
  | tickRecovery sysCfg dtMs => exact ledger_tickRecovery k ch sysCfg dtMs
  | consumeVoltage raw => rfl
  | consumeCurrent raw => exact ledger_consumeCurrent ch raw
  | consumeFault cause => exact ledger_applyHw _
  | resetCalibration entering => exact ledger_refresh _
  | calSetOutputEnable enable =>
    exact hother (calSetOutputEnable_step k ch enable) (by simp) (by simp)
  | calSetRawDac code => exact hother (calSetRawDac_step k ch code) (by simp) (by simp)
  | calSample => exact hother (calSample_step k ch) (by simp) (by simp)
  | setCalField field value => exact hother (setCalField_step k ch field value) (by simp) (by simp)
  | loadCal cal => exact ledger_applyHw _
  | publishVoltage raw ts => rfl
  | publishCurrent raw ts => rfl

/-- The calls that clear a cooldown. -/
def clearsCooldown : ChannelOp → Bool
  | .outputAction action => gracefulDisable ch action
  | .consumeFault _ | .resetCalibration _ => true
  | _ => false

/-- Only the recovery loads a cooldown. -/
theorem cooldownRemainingMs_step {op : ChannelOp}
    (hop : ∀ sysCfg dtMs, op ≠ .tickRecovery sysCfg dtMs) : (op.step k ch).cooldownRemainingMs =
      if clearsCooldown ch op then 0 else ch.cooldownRemainingMs := by
  show (ledger (op.step k ch)).cooldownRemainingMs = _
  rw [ledger_step]
  cases op with
  | outputAction action =>
    rw [ledgerAfter, clearsCooldown]
    split <;> rfl
  | faultCommand cmd => cases cmd <;> rfl
  | tickRamp dtMs =>
    rw [ledgerAfter]
    split <;> rfl
  | tickRecovery sysCfg dtMs => exact absurd rfl (hop sysCfg dtMs)
  | _ => rfl

/-- Only a trip stamps a fault. -/
theorem lastFaultTimestamp_step (op : ChannelOp) : (op.step k ch).lastFaultTimestamp =
    if tripsOn ch op then ch.uptimeRef else ch.lastFaultTimestamp := by
  show (ledger (op.step k ch)).lastFaultTimestamp = _
  rw [ledger_step]
  cases op with
  | faultCommand cmd => cases cmd <;> rfl
  | sampleCurrent => rfl
  | consumeCurrent raw => rfl
  | outputAction action =>
    rw [ledgerAfter]
    split <;> rfl
  | tickRamp dtMs =>
    rw [ledgerAfter]
    split <;> rfl
  | tickRecovery sysCfg dtMs =>
    rw [ledgerAfter]
    split <;> rfl
  | _ => rfl

/-- Only the clock moves the time. -/
theorem uptimeRef_step (op : ChannelOp) : (op.step k ch).uptimeRef =
    match op with
    | .advance dtMs => ch.uptimeRef + dtMs
    | _ => ch.uptimeRef := by
  show (frame (op.step k ch)).uptimeRef = _
  have hstep := frame_step k ch op
  generalize frame (op.step k ch) = f at hstep
  cases hstep with
  | advance dtMs => rfl
  | setField => rfl
  | setConfig => rfl
  | retry sysCfg dtMs hdue =>
    show (recordRetryAttempt k ch).uptimeRef = ch.uptimeRef
    unfold recordRetryAttempt
    split <;> rfl
  | same op hadvance =>
    cases op with
    | advance dtMs => exact absurd rfl (hadvance dtMs)
    | _ => rfl

end Calls

end VcChannel
