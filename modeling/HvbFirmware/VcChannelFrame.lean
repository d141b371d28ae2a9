import HvbFirmware.VcChannelDrive

/-!
# What most calls leave alone

The drive of a channel changes with almost every call. Its capabilities, its configuration, its
clock and its retry history change with four of them only: the two configuration writes, the
advance of the clock and a retry. Its driver never changes, its measurement buffer changes with a
publication, and its calibration with the two writes of coefficients.
-/
namespace VcChannel

open VcTypes

/-- What only a configuration write, the clock or a retry changes. -/
structure Frame where
  capabilities : UInt16
  config : ChannelConfig
  uptimeRef : UInt32
  retryTimestampsMs : List UInt32
  deriving DecidableEq, Repr

def frame (ch : Channel) : Frame where
  capabilities := ch.capabilities
  config := ch.config
  uptimeRef := ch.uptimeRef
  retryTimestampsMs := ch.retryTimestampsMs

/-- What only a publication or a write of coefficients changes. -/
structure Gear where
  dev : Option ChannelApi
  meas : Option ChannelBuffer
  calConfig : ChannelCalConfig

def gear (ch : Channel) : Gear where
  dev := ch.dev
  meas := ch.meas
  calConfig := ch.calConfig

/-! ## The functions below the calls -/

/-- Writing to the hardware changes neither. -/
theorem kept_applyHw (ch : Channel) :
    frame (applyHw ch) = frame ch ∧ gear (applyHw ch) = gear ch := by
  unfold applyHw
  split <;> exact ⟨rfl, rfl⟩

theorem kept_finishRamp (ch : Channel) :
    frame (finishRamp ch) = frame ch ∧ gear (finishRamp ch) = gear ch := by
  unfold finishRamp
  split <;> exact ⟨rfl, rfl⟩

@[simp] theorem frame_updateStatusBits (ch : Channel) : frame (updateStatusBits ch) = frame ch :=
  rfl

@[simp] theorem gear_updateStatusBits (ch : Channel) : gear (updateStatusBits ch) = gear ch := rfl

@[simp] theorem frame_applyHw (ch : Channel) : frame (applyHw ch) = frame ch := (kept_applyHw ch).1

@[simp] theorem gear_applyHw (ch : Channel) : gear (applyHw ch) = gear ch := (kept_applyHw ch).2

@[simp] theorem frame_refresh (ch : Channel) : frame (refresh ch) = frame ch := frame_applyHw ch

@[simp] theorem gear_refresh (ch : Channel) : gear (refresh ch) = gear ch := gear_applyHw ch

@[simp] theorem frame_finishRamp (ch : Channel) : frame (finishRamp ch) = frame ch :=
  (kept_finishRamp ch).1

@[simp] theorem gear_finishRamp (ch : Channel) : gear (finishRamp ch) = gear ch :=
  (kept_finishRamp ch).2

theorem applyHw_config (ch : Channel) : (applyHw ch).config = ch.config :=
  congrArg Frame.config (frame_applyHw ch)

theorem applyHw_calConfig (ch : Channel) : (applyHw ch).calConfig = ch.calConfig :=
  congrArg Gear.calConfig (gear_applyHw ch)

/-- The requests but the two configuration writes leave the frame. -/
theorem frame_request {k : Kconfig} {ch ch' : Channel} {op : ChannelOp}
    (h : RequestStep k ch op ch') (hfield : ∀ field value, op ≠ .setField field value)
    (hconfig : ∀ cfg, op ≠ .setConfig cfg) : frame ch' = frame ch := by
  cases h with
  | setField field value => exact absurd rfl (hfield field value)
  | setConfig cfg => exact absurd rfl (hconfig cfg)
  | _ => first | exact frame_refresh _ | exact frame_applyHw _ | rfl

/-- The requests but a write of a coefficient leave the gear. -/
theorem gear_request {k : Kconfig} {ch ch' : Channel} {op : ChannelOp}
    (h : RequestStep k ch op ch') (hcal : ∀ field value, op ≠ .setCalField field value) :
    gear ch' = gear ch := by
  cases h with
  | setCalField field value => exact absurd rfl (hcal field value)
  | _ => first | exact gear_refresh _ | exact gear_applyHw _ | rfl

theorem kept_applyProtectionAction (ch : Channel) (action : OutputAction) :
    frame (applyProtectionAction ch action) = frame ch ∧
      gear (applyProtectionAction ch action) = gear ch := by
  unfold applyProtectionAction
  dsimp only
  rw [frame_applyHw, gear_applyHw]
  split <;> exact ⟨rfl, rfl⟩

/-- A trip changes the drive only. -/
theorem kept_consumeCurrent (ch : Channel) (raw : Int32) :
    frame (consumeCurrent ch raw) = frame ch ∧ gear (consumeCurrent ch raw) = gear ch := by
  have htick : ∀ m, frame (tickCurrentProtection m) = frame m ∧
      gear (tickCurrentProtection m) = gear m := by
    intro m
    rcases tickCurrentProtection_cases m with h | h | ⟨-, h⟩ <;> rw [h]
    · exact ⟨rfl, rfl⟩
    · exact ⟨rfl, rfl⟩
    · exact kept_applyProtectionAction _ _
  unfold consumeCurrent
  dsimp only
  rw [frame_updateStatusBits, gear_updateStatusBits]
  split
  · exact htick (measureCurrent ch raw)
  · exact ⟨rfl, rfl⟩

theorem frame_consumeCurrent (ch : Channel) (raw : Int32) :
    frame (consumeCurrent ch raw) = frame ch := (kept_consumeCurrent ch raw).1

theorem gear_consumeCurrent (ch : Channel) (raw : Int32) :
    gear (consumeCurrent ch raw) = gear ch := (kept_consumeCurrent ch raw).2

theorem kept_sampleVoltage (ch : Channel) :
    frame (sampleVoltage ch) = frame ch ∧ gear (sampleVoltage ch) = gear ch := by
  unfold sampleVoltage
  split
  · exact ⟨rfl, rfl⟩
  · split <;> exact ⟨rfl, rfl⟩

theorem frame_sampleVoltage (ch : Channel) : frame (sampleVoltage ch) = frame ch :=
  (kept_sampleVoltage ch).1

theorem kept_sampleCurrent (ch : Channel) :
    frame (sampleCurrent ch) = frame ch ∧ gear (sampleCurrent ch) = gear ch := by
  rcases sampleCurrent_cases ch with ⟨-, h⟩ | ⟨raw, ts, -, h⟩ <;> rw [h]
  · exact ⟨rfl, rfl⟩
  · exact kept_consumeCurrent ch raw

theorem frame_sampleCurrent (ch : Channel) : frame (sampleCurrent ch) = frame ch :=
  (kept_sampleCurrent ch).1

/-- A ramp tick changes the drive only, however it ends. -/
theorem kept_tickRamp (ch : Channel) (dtMs : UInt32) :
    frame (tickRamp ch dtMs) = frame ch ∧ gear (tickRamp ch dtMs) = gear ch := by
  have hended : ∀ m : Channel, frame (refresh (finishRamp m)) = frame m ∧
      gear (refresh (finishRamp m)) = gear m := by simp
  unfold tickRamp
  dsimp only
  split
  · exact ⟨rfl, rfl⟩
  split
  · exact ⟨rfl, rfl⟩
  split
  · split
    · exact ⟨rfl, rfl⟩
    split
    · exact hended ch
    · exact kept_finishRamp ch
  split
  · exact hended _
  split
  · exact hended _
  · exact ⟨frame_refresh _, gear_refresh _⟩

theorem frame_tickRamp (ch : Channel) (dtMs : UInt32) : frame (tickRamp ch dtMs) = frame ch :=
  (kept_tickRamp ch dtMs).1

theorem kept_enterCooldown (ch : Channel) :
    frame (enterCooldown ch) = frame ch ∧ gear (enterCooldown ch) = gear ch := by
  unfold enterCooldown
  split <;> exact ⟨rfl, rfl⟩

theorem frame_waited (ch : Channel) : frame (waited ch) = frame ch := (kept_enterCooldown ch).1

/-- A retry is recorded by the frame alone. -/
theorem frame_recordRetryAttempt (k : Kconfig) {ch ch' : Channel} (h : frame ch' = frame ch) :
    frame (recordRetryAttempt k ch') = frame (recordRetryAttempt k ch) := by
  have huptime : ch'.uptimeRef = ch.uptimeRef := congrArg Frame.uptimeRef h
  have hhistory : ch'.retryTimestampsMs = ch.retryTimestampsMs :=
    congrArg Frame.retryTimestampsMs h
  have hcaps : ch'.capabilities = ch.capabilities := congrArg Frame.capabilities h
  have hconfig : ch'.config = ch.config := congrArg Frame.config h
  unfold recordRetryAttempt
  rw [hhistory, huptime]
  split <;> simp [frame, hcaps, hconfig]

/-- The history grows exactly when a retry is due. -/
theorem frame_tickRecovery (k : Kconfig) (ch : Channel) (sysCfg : SystemConfig) (dtMs : UInt32) :
    frame (tickRecovery k ch sysCfg dtMs) =
      if retryDue ch sysCfg dtMs then frame (recordRetryAttempt k ch) else frame ch := by
  have hstep := tickRecovery_step k ch sysCfg dtMs
  generalize tickRecovery k ch sysCfg dtMs = ch' at hstep
  cases hstep with
  | idle hretry =>
    have hdue : retryDue ch sysCfg dtMs = false := by simp [retryDue, hretry]
    simp [hdue]
  | cooling _ hdue =>
    simp only [hdue]
    exact frame_waited ch
  | exhausted _ hdue =>
    simp only [hdue]
    exact frame_waited ch
  | retry hdue =>
    rw [if_pos hdue, startRecovery, frame_updateStatusBits, frame_applyHw]
    exact frame_recordRetryAttempt k (frame_waited ch)

theorem gear_recordRetryAttempt (k : Kconfig) (ch : Channel) :
    gear (recordRetryAttempt k ch) = gear ch := by
  unfold recordRetryAttempt
  split <;> rfl

theorem gear_tickRecovery (k : Kconfig) (ch : Channel) (sysCfg : SystemConfig) (dtMs : UInt32) :
    gear (tickRecovery k ch sysCfg dtMs) = gear ch := by
  have hcool : gear (enterCooldown ch) = gear ch := (kept_enterCooldown ch).2
  have hstep := tickRecovery_step k ch sysCfg dtMs
  generalize tickRecovery k ch sysCfg dtMs = ch' at hstep
  cases hstep with
  | idle => rfl
  | cooling => exact hcool
  | exhausted => exact hcool
  | retry =>
    rw [startRecovery, gear_updateStatusBits, gear_applyHw]
    exact (gear_recordRetryAttempt k (waited ch)).trans hcool

/-! ## Every call -/

/-- What a call does to the frame. -/
inductive FrameStep (k : Kconfig) (ch : Channel) : ChannelOp → Frame → Prop where
  | same (op : ChannelOp) (hadvance : ∀ dtMs, op ≠ .advance dtMs)
      (hretry : ∀ sysCfg dtMs, op = .tickRecovery sysCfg dtMs → retryDue ch sysCfg dtMs = false) :
      FrameStep k ch op (frame ch)
  | advance (dtMs : UInt32) :
      FrameStep k ch (.advance dtMs) { frame ch with uptimeRef := ch.uptimeRef + dtMs }
  | retry (sysCfg : SystemConfig) (dtMs : UInt32) (hdue : retryDue ch sysCfg dtMs) :
      FrameStep k ch (.tickRecovery sysCfg dtMs) (frame (recordRetryAttempt k ch))
  | setField (field : ConfigField) (value : UInt16) (cfg : ChannelConfig)
      (hcfg : writeField k ch field value = .ok cfg) :
      FrameStep k ch (.setField field value) { frame ch with config := cfg }
  | setConfig (cfg : ChannelConfig) (hok : (VcChannel.setConfig k ch cfg).1 = .ok) :
      FrameStep k ch (.setConfig cfg) { frame ch with config := cfg }

/-- Neither the clock nor the recovery tick. -/
def ChannelOp.untimed : ChannelOp → Bool
  | .advance _ | .tickRecovery _ _ => false
  | _ => true

/-- A call that leaves the frame. -/
theorem FrameStep.of_eq {k : Kconfig} {ch : Channel} {op : ChannelOp} {f : Frame}
    (h : f = frame ch) (huntimed : op.untimed) : FrameStep k ch op f := by
  rw [h]
  refine .same op ?_ ?_
  · rintro dtMs rfl
    cases huntimed
  · rintro sysCfg dtMs rfl
    cases huntimed

/-- A request changes the frame by its configuration write, if at all. -/
theorem frame_requestStep {k : Kconfig} {ch ch' : Channel} {op : ChannelOp}
    (h : RequestStep k ch op ch') (huntimed : op.untimed) : FrameStep k ch op (frame ch') := by
  cases h with
  | setField field value cfg hcfg =>
    rw [frame_refresh]
    exact .setField field value cfg hcfg
  | setConfig cfg hok =>
    rw [frame_refresh]
    exact .setConfig cfg hok
  | _ => first
    | exact .of_eq (frame_refresh _) huntimed
    | exact .of_eq (frame_applyHw _) huntimed
    | exact .of_eq rfl huntimed

/-- Every call changes the frame in one of these ways. -/
theorem frame_step (k : Kconfig) (ch : Channel) (op : ChannelOp) :
    FrameStep k ch op (frame (op.step k ch)) := by
  cases op with
  | advance dtMs => exact .advance dtMs
  | tickRecovery sysCfg dtMs =>
    rw [ChannelOp.step, frame_tickRecovery]
    split
    next hdue => exact .retry sysCfg dtMs hdue
    next hdue =>
      refine .same _ (by simp) fun sysCfg' dtMs' hop => ?_
      cases hop
      simpa using hdue
  | outputAction action => exact frame_requestStep (outputAction_step k ch action) rfl
  | faultCommand cmd => exact frame_requestStep (faultCommand_step k ch cmd) rfl
  | setField field value => exact frame_requestStep (setField_step k ch field value) rfl
  | setConfig cfg => exact frame_requestStep (setConfig_step k ch cfg) rfl
  | sampleVoltage => exact .of_eq (frame_sampleVoltage ch) rfl
  | sampleCurrent => exact .of_eq (frame_sampleCurrent ch) rfl
  | tickRamp dtMs => exact .of_eq (frame_tickRamp ch dtMs) rfl
  | consumeVoltage raw => exact .of_eq rfl rfl
  | consumeCurrent raw => exact .of_eq (frame_consumeCurrent ch raw) rfl
  | consumeFault cause => exact .of_eq (frame_applyHw _) rfl
  | resetCalibration entering => exact .of_eq (frame_refresh _) rfl
  | calSetOutputEnable enable => exact frame_requestStep (calSetOutputEnable_step k ch enable) rfl
  | calSetRawDac code => exact frame_requestStep (calSetRawDac_step k ch code) rfl
  | calSample => exact frame_requestStep (calSample_step k ch) rfl
  | setCalField field value => exact frame_requestStep (setCalField_step k ch field value) rfl
  | loadCal cal => exact .of_eq (frame_applyHw _) rfl
  | publishVoltage raw ts => exact .of_eq rfl rfl
  | publishCurrent raw ts => exact .of_eq rfl rfl

/-- The calls that change the gear. -/
def ChannelOp.refits : ChannelOp → Bool
  | .publishVoltage _ _ | .publishCurrent _ _ | .setCalField _ _ | .loadCal _ => true
  | _ => false

/-- Every call that does not refit the channel leaves its gear. -/
theorem gear_step (k : Kconfig) (ch : Channel) {op : ChannelOp} (hop : op.refits = false) :
    gear (op.step k ch) = gear ch := by
  cases op with
  | outputAction action => exact gear_request (outputAction_step k ch action) nofun
  | faultCommand cmd => exact gear_request (faultCommand_step k ch cmd) nofun
  | setField field value => exact gear_request (setField_step k ch field value) nofun
  | setConfig cfg => exact gear_request (setConfig_step k ch cfg) nofun
  | sampleVoltage => exact (kept_sampleVoltage ch).2
  | sampleCurrent => exact (kept_sampleCurrent ch).2
  | tickRamp dtMs => exact (kept_tickRamp ch dtMs).2
  | tickRecovery sysCfg dtMs => exact gear_tickRecovery k ch sysCfg dtMs
  | consumeCurrent raw => exact gear_consumeCurrent ch raw
  | consumeFault cause => exact gear_applyHw _
  | resetCalibration entering => exact gear_refresh _
  | calSetOutputEnable enable => exact gear_request (calSetOutputEnable_step k ch enable) nofun
  | calSetRawDac code => exact gear_request (calSetRawDac_step k ch code) nofun
  | calSample => exact gear_request (calSample_step k ch) nofun
  | advance | consumeVoltage => rfl
  | publishVoltage | publishCurrent | setCalField | loadCal => cases hop

end VcChannel
