import HvbFirmware.HwMirror
import HvbFirmware.OperatorDisable

/-!
# The ceiling of the DAC

`hvb_vc_set_output` refuses a code above `max_raw_dac`, and `apply_hw` drops its answer, so that the
DAC keeps an older code. Neither the clamp of `raw_drive_from_target` nor
`CONFIG_VC_CAL_MAX_RAW_DAC` knows that ceiling.
-/
namespace DacCeiling

open VcTypes VcChannel VcController Runs HwMirror

variable {σ : Type}

/-! ## What the DAC holds -/

/-- The hooks of `hvb_vc_channel.c`, with DAC and GPIO writes that succeed. -/
def hvbApi (maxRawDac : UInt16) : ChannelApi := ⟨some fun code => code ≤ maxRawDac, true⟩

/-- The code last written, and the code last accepted. -/
structure Follows (maxRawDac : UInt16) (o : Output) : Prop where
  dev : o.dev = some (hvbApi maxRawDac)
  asked : o.hw.code = o.command.code
  held : o.command.code ≤ maxRawDac → o.dacCode = o.command.code
  ceiling : o.dacCode ≤ maxRawDac

/-- The output after a call: written out, or as it was, and then perhaps out of DISABLED_HV_ON. -/
inductive Wrote (ch : Channel) : Output → Prop where
  | kept : Wrote ch (output ch)
  | settled (m : Channel) (hdev : m.dev = ch.dev) (hdac : m.dacCode = ch.dacCode) :
      Wrote ch (output m).settle
  | left {o : Output} (h : Wrote ch o) : Wrote ch { o with hvOn := false }

/-- A write to a DAC within its ceiling leaves the DAC following. -/
theorem follows_settle {maxRawDac : UInt16} {o : Output} (hdev : o.dev = some (hvbApi maxRawDac))
    (hceiling : o.dacCode ≤ maxRawDac) : Follows maxRawDac o.settle := by
  rw [Output.settle_some hdev]
  have hcommand : (o.write (hvbApi maxRawDac)).command = o.command := rfl
  refine ⟨hdev, rfl, fun hle => ?_, ?_⟩
  · rw [hcommand] at hle ⊢
    exact if_pos (decide_eq_true hle)
  · show (if decide (o.command.code ≤ maxRawDac) then o.command.code else o.dacCode) ≤ maxRawDac
    split
    next hle => exact of_decide_eq_true hle
    · exact hceiling

/-- In DISABLED_HV_ON the code is 0, as it is in the other states with the output off. -/
theorem code_left (o : Output) : { o with hvOn := false }.command.code = o.command.code := by
  unfold Output.command
  split
  · rfl
  · split <;> rfl

theorem Follows.wrote {maxRawDac : UInt16} {ch : Channel} {o : Output}
    (h : Follows maxRawDac (output ch)) (hwrote : Wrote ch o) : Follows maxRawDac o := by
  induction hwrote with
  | kept => exact h
  | settled m hdev hdac =>
    have hceiling : m.dacCode ≤ maxRawDac := hdac ▸ h.ceiling
    exact follows_settle (hdev.trans h.dev) hceiling
  | @left o _ ih =>
    refine ⟨ih.dev, ih.asked.trans (code_left o).symm, fun hle => ?_, ih.ceiling⟩
    rw [code_left] at hle ⊢
    exact ih.held hle

/-! ## What a call writes -/

section Calls

variable {k : Kconfig} {ch : Channel}

theorem wrote_applyHw {m : Channel} (hdev : m.dev = ch.dev) (hdac : m.dacCode = ch.dacCode) :
    Wrote ch (output (applyHw m)) := by
  rw [output_applyHw]
  exact .settled m hdev hdac

theorem wrote_request {op : ChannelOp} {ch' : Channel} (h : RequestStep k ch op ch') :
    Wrote ch (output ch') := by
  cases h with
  | clearActive => exact .left .kept
  | _ => first | exact .kept | exact wrote_applyHw rfl rfl

theorem wrote_applyProtectionAction {m : Channel} (action : OutputAction) (hdev : m.dev = ch.dev)
    (hdac : m.dacCode = ch.dacCode) : Wrote ch (output (applyProtectionAction m action)) := by
  unfold applyProtectionAction
  cases protectionAction m action <;> exact wrote_applyHw hdev hdac

theorem wrote_tickCurrentProtection {m : Channel} (houtput : output m = output ch) :
    Wrote ch (output (tickCurrentProtection m)) := by
  rcases tickCurrentProtection_cases m with h | h | ⟨-, h⟩ <;> rw [h]
  · rw [houtput]
    exact .kept
  · show Wrote ch (output m)
    rw [houtput]
    exact .kept
  · refine .left (wrote_applyProtectionAction _ ?_ ?_)
    · exact congrArg Output.dev houtput
    · exact congrArg Output.dacCode houtput

theorem wrote_consumeCurrent (raw : Int32) : Wrote ch (output (consumeCurrent ch raw)) := by
  show Wrote ch (output (if !(measureCurrent ch raw).ramping then
    tickCurrentProtection (measureCurrent ch raw) else measureCurrent ch raw))
  split
  · exact wrote_tickCurrentProtection rfl
  · exact .kept

theorem wrote_refresh_finishRamp {m : Channel} (hdev : m.dev = ch.dev)
    (hdac : m.dacCode = ch.dacCode) : Wrote ch (output (refresh (finishRamp m))) := by
  unfold finishRamp
  split <;> exact wrote_applyHw hdev hdac

theorem wrote_tickRamp (dtMs : UInt32) : Wrote ch (output (tickRamp ch dtMs)) := by
  have hstep := Ramp.tickRamp_step ch dtMs
  generalize tickRamp ch dtMs = ch' at hstep
  cases hstep with
  | idle => exact .kept
  | hold _ _ _ hto =>
    have hfinish : output (finishRamp ch) = { output ch with hvOn := false } := by
      unfold finishRamp
      rw [if_neg (by simp [hto])]
      rfl
    rw [hfinish]
    exact .left .kept
  | off => exact wrote_refresh_finishRamp rfl rfl
  | jump => exact wrote_refresh_finishRamp rfl rfl
  | arrive => exact wrote_refresh_finishRamp rfl rfl
  | move => exact wrote_applyHw rfl rfl

theorem wrote_enterCooldown : Wrote ch (output (enterCooldown ch)) := by
  rw [output_enterCooldown]
  exact .left .kept

theorem wrote_tickRecovery (sysCfg : SystemConfig) (dtMs : UInt32) :
    Wrote ch (output (tickRecovery k ch sysCfg dtMs)) := by
  have hstep := tickRecovery_step k ch sysCfg dtMs
  generalize tickRecovery k ch sysCfg dtMs = ch' at hstep
  cases hstep with
  | idle => exact .kept
  | cooling => exact wrote_enterCooldown
  | exhausted => exact .left wrote_enterCooldown
  | retry =>
    have hwaited : (waited ch).dev = ch.dev ∧ (waited ch).dacCode = ch.dacCode := by
      unfold waited enterCooldown
      split <;> exact ⟨rfl, rfl⟩
    unfold recordRetryAttempt
    split <;> exact wrote_applyHw hwaited.1 hwaited.2

theorem wrote_sampleCurrent : Wrote ch (output (sampleCurrent ch)) := by
  rcases sampleCurrent_cases ch with ⟨-, h⟩ | ⟨raw, ts, -, h⟩ <;> rw [h]
  · exact .kept
  · exact wrote_consumeCurrent raw

theorem wrote_sampleVoltage : Wrote ch (output (sampleVoltage ch)) := by
  unfold sampleVoltage
  split
  · exact .kept
  · split <;> exact .kept

/-- Every call has one of these outcomes. -/
theorem wrote_step (op : ChannelOp) : Wrote ch (output (op.step k ch)) := by
  cases op with
  | outputAction action => exact wrote_request (outputAction_step k ch action)
  | faultCommand cmd => exact wrote_request (faultCommand_step k ch cmd)
  | setField field value => exact wrote_request (setField_step k ch field value)
  | setConfig cfg => exact wrote_request (setConfig_step k ch cfg)
  | sampleVoltage => exact wrote_sampleVoltage
  | sampleCurrent => exact wrote_sampleCurrent
  | tickRamp dtMs => exact wrote_tickRamp dtMs
  | tickRecovery sysCfg dtMs => exact wrote_tickRecovery sysCfg dtMs
  | consumeCurrent raw => exact wrote_consumeCurrent raw
  | consumeFault cause => exact wrote_applyHw rfl rfl
  | resetCalibration entering => exact wrote_applyHw rfl rfl
  | calSetOutputEnable enable => exact wrote_request (calSetOutputEnable_step k ch enable)
  | calSetRawDac code => exact wrote_request (calSetRawDac_step k ch code)
  | calSample => exact wrote_request (calSample_step k ch)
  | setCalField field value => exact wrote_request (setCalField_step k ch field value)
  | loadCal cal => exact wrote_applyHw rfl rfl
  | _ => exact .kept

theorem follows_step {maxRawDac : UInt16} (h : Follows maxRawDac (output ch)) (op : ChannelOp) :
    Follows maxRawDac (output (op.step k ch)) := h.wrote (wrote_step op)

end Calls

/-! ## The codes within the ceiling -/

/-- The code of a voltage before the clamp. -/
def calibrated (cal : ChannelCalConfig) (voltage : Int16) : Int :=
  applyGain voltage.toInt cal.outputCalibK cal.outputCalibKExp + cal.outputCalibB.toInt

/-- The clamp keeps every voltage below the largest ceiling. -/
def inDac (maxRawDac : UInt16) (cal : ChannelCalConfig) (voltage : Int16) : Prop :=
  maxRawDac = 65535 ∨ calibrated cal voltage ≤ maxRawDac.toNat

instance (maxRawDac : UInt16) (cal : ChannelCalConfig) (voltage : Int16) :
    Decidable (inDac maxRawDac cal voltage) := inferInstanceAs (Decidable (_ ∨ _))

/-- The raw code while the calibration gate is open, and the running value while the output is on
otherwise. -/
structure Within (maxRawDac : UInt16) (ch : Channel) : Prop where
  raw : ch.calOutputEnabled ≠ 0 → ch.rawDacReadback ≤ maxRawDac
  voltage : ch.calOutputEnabled = 0 → ch.outputEnabled →
    inDac maxRawDac ch.calConfig ch.operationalTargetVoltage

/-- The code of a voltage is within the ceiling exactly for a voltage that the DAC reaches. -/
theorem rawDrive_le_iff {maxRawDac : UInt16} (ch : Channel) (voltage : Int16) :
    rawDriveFromTarget ch voltage ≤ maxRawDac ↔ inDac maxRawDac ch.calConfig voltage := by
  have hmax : maxRawDac.toNat < 65536 := maxRawDac.toNat_lt
  have hfull : maxRawDac = 65535 ↔ maxRawDac.toNat = 65535 := by
    rw [← UInt16.toNat_inj]
    rfl
  rw [inDac, hfull, UInt16.le_iff_toNat_le]
  show (if calibrated ch.calConfig voltage ≤ 0 then (0 : UInt16)
    else if calibrated ch.calConfig voltage > 65535 then 65535
    else UInt16.ofNat (calibrated ch.calConfig voltage).toNat).toNat ≤ maxRawDac.toNat ↔ _
  generalize calibrated ch.calConfig voltage = raw
  split
  · exact iff_of_true (Nat.zero_le _) (.inr (by omega))
  split
  · show 65535 ≤ maxRawDac.toNat ↔ _
    omega
  · rw [UInt16.toNat_ofNat_of_lt' (by show raw.toNat < 65536; omega)]
    omega

theorem code_le_iff {maxRawDac : UInt16} (ch : Channel) :
    (output ch).command.code ≤ maxRawDac ↔ Within maxRawDac ch := by
  have hdrive : rawDriveFromTarget ch ch.operationalTargetVoltage ≤ maxRawDac ↔ _ :=
    rawDrive_le_iff ch ch.operationalTargetVoltage
  rw [command_output, hwCommand]
  constructor
  · intro hle
    refine ⟨fun hcal => ?_, fun hcal hon => ?_⟩
    · rwa [if_pos hcal] at hle
    · rw [if_neg (by simpa using hcal), if_pos hon] at hle
      exact hdrive.mp hle
  · intro h
    split
    next hcal => exact h.raw hcal
    next hcal =>
    split
    next hon => exact hdrive.mpr (h.voltage (by simpa using hcal) hon)
    · split <;> exact UInt16.zero_le

/-! ## The calls that stay within it -/

/-- The value at which a ramp tick leaves the output on. -/
def rampedTo (ch : Channel) (dtMs : UInt32) : Option Int16 :=
  if !rampRuns ch ∨ ch.operationalTargetVoltage = selectedTarget ch then none
  else
    let value := if rampStepReg ch = 0 ∨ rampIntervalReg ch = 0 then selectedTarget ch
      else (rampResult ch dtMs).2
    if value = selectedTarget ch ∧ ch.rampToDisable then none else some value

/-- The calls that bring no code above the ceiling to a DAC that is within it. -/
def keepsCeiling (k : Kconfig) (maxRawDac : UInt16) (ch : Channel) (op : ChannelOp) : Bool :=
  match op with
  | .calSetRawDac code =>
    hasCap ch capRawOutputDrive → code ≤ k.calMaxRawDac → hasHardSafetyFault ch = false →
      ch.calOutputEnabled ≠ 0 → code.toUInt16 ≤ maxRawDac
  | .calSetOutputEnable enable =>
    enable = false → hasCap ch capRawOutputDrive → ch.outputEnabled →
      inDac maxRawDac ch.calConfig ch.operationalTargetVoltage
  | .setCalField field value =>
    match writeCalField ch.calConfig field value with
    | .ok cal => ch.calOutputEnabled = 0 → ch.outputEnabled →
        inDac maxRawDac cal ch.operationalTargetVoltage
    | .error _ => true
  | .loadCal cal => ch.calOutputEnabled = 0 → ch.outputEnabled →
      inDac maxRawDac cal ch.operationalTargetVoltage
  | .tickRamp dtMs => ch.calOutputEnabled = 0 →
      (rampedTo ch dtMs).all fun value => inDac maxRawDac ch.calConfig value
  | .outputAction .enable => ch.activeFaultCause = 0 → ch.calOutputEnabled = 0 →
      inDac maxRawDac ch.calConfig ch.operationalTargetVoltage
  | op => OperatorDisable.switchesOn ch op → ch.calOutputEnabled = 0 →
      inDac maxRawDac ch.calConfig ch.operationalTargetVoltage

/-- A channel with the driver of the high voltage board whose DAC follows it. -/
structure Fits (maxRawDac : UInt16) (ch : Channel) : Prop where
  follows : Follows maxRawDac (output ch)
  within : Within maxRawDac ch
  shut : ch.calOutputEnabled = 0 → ch.rawDacReadback = 0

section Steps

variable {k : Kconfig} {maxRawDac : UInt16} {ch : Channel}

theorem shut_finish {d : Drive} (h : d.cal = 0 → d.raw = 0) :
    d.finish.cal = 0 → d.finish.raw = 0 := by
  rw [Drive.finish_cal, Drive.finish_raw]
  exact h

/-- Without the gate a raw code other than 0 is refused. -/
theorem shut_step (h : ch.calOutputEnabled = 0 → ch.rawDacReadback = 0) (op : ChannelOp) :
    (op.step k ch).calOutputEnabled = 0 → (op.step k ch).rawDacReadback = 0 := by
  have heff := step_effect k ch op
  have h : (drive ch).cal = 0 → (drive ch).raw = 0 := h
  show (drive (op.step k ch)).cal = 0 → (drive (op.step k ch)).raw = 0
  generalize drive (op.step k ch) = d' at heff
  cases heff with
  | hold => exact shut_finish h
  | arrive => exact shut_finish (d := { drive ch with operational := selectedTarget ch }) h
  | fault => exact fun _ => rfl
  | calReset => exact fun _ => rfl
  | calOn => exact fun hcal => absurd hcal (by simp [Drive.settle])
  | calOff => exact fun _ => rfl
  | rawDac value code hvalue =>
    intro hcal
    have hzero : value = 0 := Decidable.not_not.mp fun hne => (hvalue hne).2 hcal
    show value.toUInt16 = 0
    rw [hzero]
    rfl
  | _ => exact h

theorem within_applyHw (m : Channel) : Within maxRawDac (applyHw m) ↔ Within maxRawDac m := by
  unfold applyHw
  cases m.dev <;> exact ⟨fun h => ⟨h.raw, h.voltage⟩, fun h => ⟨h.raw, h.voltage⟩⟩

theorem within_refresh (m : Channel) : Within maxRawDac (refresh m) ↔ Within maxRawDac m := by
  rw [← within_applyHw m]
  exact ⟨fun h => ⟨h.raw, h.voltage⟩, fun h => ⟨h.raw, h.voltage⟩⟩

/-- An output that is off has only its raw code to keep. -/
theorem within_off (h : Within maxRawDac ch) {m : Channel}
    (hcal : m.calOutputEnabled = ch.calOutputEnabled) (hraw : m.rawDacReadback = ch.rawDacReadback)
    (hoff : m.outputEnabled = false) : Within maxRawDac m :=
  ⟨fun hopen => hraw ▸ h.raw (hcal ▸ hopen), fun _ hon => by simp [hoff] at hon⟩

theorem within_on (h : Within maxRawDac ch) {m : Channel}
    (hcal : m.calOutputEnabled = ch.calOutputEnabled) (hraw : m.rawDacReadback = ch.rawDacReadback)
    (hon : m.outputEnabled) : Within maxRawDac m ↔ (ch.calOutputEnabled = 0 →
      inDac maxRawDac m.calConfig m.operationalTargetVoltage) := by
  refine ⟨fun hm hshut => hm.voltage (hcal.trans hshut) hon, fun hin => ⟨fun hopen => ?_, ?_⟩⟩
  · exact hraw ▸ h.raw (hcal ▸ hopen)
  · exact fun hshut _ => hin (hcal.symm.trans hshut)

/-- The requests that give the DAC no new code. -/
def keepsCode : ChannelOp → Bool
  | .outputAction action => action ≠ .enable ∧ action ≠ .disableGraceful
  | .faultCommand _ | .setField _ _ | .setConfig _ | .calSample => true
  | _ => false

theorem within_request (h : Within maxRawDac ch) {op : ChannelOp} {ch' : Channel}
    (hstep : RequestStep k ch op ch') (hop : keepsCode op) : Within maxRawDac ch' := by
  cases hstep with
  | enable => simp [keepsCode] at hop
  | graceful => simp [keepsCode] at hop
  | immediate =>
    exact (within_refresh _).mpr (within_off h (m := clearDrive ch .disabledHvOn) rfl rfl rfl)
  | force =>
    exact (within_refresh _).mpr (within_off h (m := clearDrive ch .disabledSafe) rfl rfl rfl)
  | setField => exact (within_refresh _).mpr ⟨h.raw, h.voltage⟩
  | setConfig => exact (within_refresh _).mpr ⟨h.raw, h.voltage⟩
  | calOn => cases hop
  | calOff => cases hop
  | rawDac => cases hop
  | setCalField => cases hop
  | _ => exact ⟨h.raw, h.voltage⟩

theorem within_enable (h : Within maxRawDac ch) :
    Within maxRawDac (outputAction ch .enable).2 ↔
      keepsCeiling k maxRawDac ch (.outputAction .enable) := by
  refine Iff.trans ?_ decide_eq_true_iff.symm
  by_cases hactive : ch.activeFaultCause = 0
  · rw [outputAction_enable hactive, within_refresh]
    refine (within_on h (m := startRamp ch) rfl rfl rfl).trans ?_
    exact ⟨fun hin _ => hin, fun hin => hin hactive⟩
  · have hrefused : outputAction ch .enable = (.errUnsafeState, ch) := by
      have hhost : hostAction ch .enable = .enable := if_neg (by simp)
      unfold outputAction
      rw [hhost]
      simp [isValidHostOutputAction, hactive]
    rw [hrefused]
    exact iff_of_true h fun hnone => absurd hnone hactive

theorem within_graceful (h : Within maxRawDac ch) :
    Within maxRawDac (outputAction ch .disableGraceful).2 ↔
      keepsCeiling k maxRawDac ch (.outputAction .disableGraceful) := by
  refine Iff.trans ?_ decide_eq_true_iff.symm
  change _ ↔ ((hasCap ch capRawOutputDrive && hasCap ch capOutputEnable) = true → _)
  rw [Bool.and_eq_true]
  by_cases hcaps : hasCap ch capRawOutputDrive ∧ hasCap ch capOutputEnable
  · rw [outputAction_graceful hcaps.1 hcaps.2, within_refresh]
    refine (within_on h (m := { startGracefulRamp ch with cooldownRemainingMs := 0 })
      rfl rfl rfl).trans ?_
    exact ⟨fun hin _ => hin, fun hin => hin hcaps⟩
  · refine iff_of_true ?_ fun hboth => absurd hboth hcaps
    have hstep := outputAction_step k ch .disableGraceful
    generalize (outputAction ch .disableGraceful).2 = ch' at hstep
    cases hstep with
    | unchanged => exact h
    | graceful hdac hcap => exact absurd ⟨hdac, hcap⟩ hcaps
    | force =>
      exact (within_refresh _).mpr (within_off h (m := clearDrive ch .disabledSafe) rfl rfl rfl)

/-! ## Ramp -/

theorem on_of_runs (h : rampRuns ch) : ch.outputEnabled := by
  simp only [rampRuns, decide_eq_true_eq] at h
  exact h.1

theorem on_of_moves (h : Ramp.rampMoves ch) : ch.outputEnabled := by
  simp only [Ramp.rampMoves, decide_eq_true_eq] at h
  exact on_of_runs h.1

theorem rampedTo_idle {dtMs : UInt32}
    (h : rampRuns ch = false ∨ ch.operationalTargetVoltage = selectedTarget ch) :
    rampedTo ch dtMs = none := by
  unfold rampedTo
  rw [if_pos (by simpa using h)]

theorem rampedTo_jump {dtMs : UInt32} (hruns : rampRuns ch)
    (hdiffers : ch.operationalTargetVoltage ≠ selectedTarget ch)
    (hzero : rampStepReg ch = 0 ∨ rampIntervalReg ch = 0) :
    rampedTo ch dtMs = if ch.rampToDisable then none else some (selectedTarget ch) := by
  unfold rampedTo
  rw [if_neg (by simp [hruns, hdiffers])]
  simp [hzero]

theorem rampedTo_moves {dtMs : UInt32} (hmoves : Ramp.rampMoves ch) :
    rampedTo ch dtMs =
      if (rampResult ch dtMs).2 = selectedTarget ch ∧ ch.rampToDisable then none
      else some (rampResult ch dtMs).2 := by
  simp only [Ramp.rampMoves, decide_eq_true_eq] at hmoves
  obtain ⟨hruns, hdiffers, hstep, hinterval⟩ := hmoves
  unfold rampedTo
  rw [if_neg (by simp [hruns, hdiffers])]
  simp [hstep, hinterval]

/-- The end of a ramp at `m`. -/
theorem within_finishRamp (h : Within maxRawDac ch) {m : Channel}
    (hcal : m.calOutputEnabled = ch.calOutputEnabled) (hraw : m.rawDacReadback = ch.rawDacReadback)
    (hon : m.outputEnabled) : Within maxRawDac (refresh (finishRamp m)) ↔
      (ch.calOutputEnabled = 0 → m.rampToDisable = false →
        inDac maxRawDac m.calConfig m.operationalTargetVoltage) := by
  rw [within_refresh]
  unfold finishRamp
  split
  next hto => exact iff_of_true (within_off h hcal hraw rfl) fun _ hfalse => by simp [hto] at hfalse
  next hto =>
    refine (within_on h (m := { m with
      ramping := false
      recovering := false
      smf := .enabledHolding }) hcal hraw hon).trans ?_
    exact ⟨fun hin hshut _ => hin hshut, fun hin hshut => hin hshut (by simpa using hto)⟩

/-- A ramp tick keeps the ceiling exactly when its next voltage does. -/
theorem within_tickRamp (h : Within maxRawDac ch) (dtMs : UInt32) :
    Within maxRawDac (tickRamp ch dtMs) ↔ keepsCeiling k maxRawDac ch (.tickRamp dtMs) := by
  refine Iff.trans ?_ decide_eq_true_iff.symm
  have hnone : ch.calOutputEnabled = 0 →
      (none : Option Int16).all fun value => inDac maxRawDac ch.calConfig value := fun _ => rfl
  have hstep := Ramp.tickRamp_step ch dtMs
  generalize tickRamp ch dtMs = ch' at hstep
  cases hstep with
  | idle hidle =>
    rw [rampedTo_idle (hidle.imp_right And.left)]
    exact iff_of_true h hnone
  | hold hruns hthere hramping hto =>
    rw [rampedTo_idle (.inr hthere)]
    unfold finishRamp
    rw [if_neg (by simp [hto])]
    exact iff_of_true ⟨h.raw, h.voltage⟩ hnone
  | off hruns hthere hramping hto =>
    rw [rampedTo_idle (.inr hthere), within_finishRamp h rfl rfl (on_of_runs hruns)]
    exact iff_of_true (fun _ hfalse => absurd (hto.symm.trans hfalse) (by decide)) hnone
  | jump hruns hdiffers hzero =>
    rw [rampedTo_jump hruns hdiffers hzero]
    refine (within_finishRamp h (m := { ch with operationalTargetVoltage := selectedTarget ch })
      rfl rfl (on_of_runs hruns)).trans ?_
    cases hto : ch.rampToDisable <;> simp
  | arrive hmoves harrives =>
    have hon := on_of_moves hmoves
    rw [rampedTo_moves hmoves, harrives]
    refine (within_finishRamp h (m := moveRamp ch (rampResult ch dtMs)) rfl rfl hon).trans ?_
    show (_ → ch.rampToDisable = false →
      inDac maxRawDac ch.calConfig (rampResult ch dtMs).2) ↔ _
    rw [harrives]
    cases hto : ch.rampToDisable <;> simp
  | move hmoves hmoving =>
    have hon := on_of_moves hmoves
    rw [rampedTo_moves hmoves, if_neg (fun hboth => hmoving hboth.1), within_refresh]
    refine (within_on h (m := moveRamp ch (rampResult ch dtMs)) rfl rfl hon).trans ?_
    exact ⟨fun hin hshut => decide_eq_true (hin hshut),
      fun hin hshut => of_decide_eq_true (hin hshut)⟩

/-! ## Protection and recovery -/

/-- Of the protection actions only a graceful ramp keeps the output driven. -/
theorem within_applyProtectionAction (h : Within maxRawDac ch) (action : OutputAction) :
    Within maxRawDac (applyProtectionAction ch action) ↔
      (protectionAction ch action = .disableGraceful → ch.calOutputEnabled = 0 →
        inDac maxRawDac ch.calConfig ch.operationalTargetVoltage) := by
  unfold applyProtectionAction
  rw [within_applyHw]
  cases protectionAction ch action with
  | disableGraceful =>
    refine (within_on h (m := startGracefulRamp (noteProtection ch action)) rfl rfl rfl).trans ?_
    exact ⟨fun hin _ => hin, fun hin => hin rfl⟩
  | disableImmediate | disableForce =>
    exact iff_of_true (within_off h (m := clearDrive (noteProtection ch action) _) rfl rfl rfl)
      fun hgraceful => by cases hgraceful
  | none | enable | other =>
    exact iff_of_true ⟨h.raw, h.voltage⟩ fun hgraceful => by cases hgraceful

theorem within_tickCurrentProtection (h : Within maxRawDac ch) :
    Within maxRawDac (tickCurrentProtection ch) ↔ (trips ch →
      protectionAction ch ch.config.currentProtectionOutputAction = .disableGraceful →
        ch.calOutputEnabled = 0 →
          inDac maxRawDac ch.calConfig ch.operationalTargetVoltage) := by
  by_cases htrip : trips ch
  · have hlatched : Within maxRawDac (latchCurrentFault (recordCurrentFault ch)) :=
      ⟨h.raw, h.voltage⟩
    have haction := within_applyProtectionAction hlatched
      ch.config.currentProtectionOutputAction
    rw [tickCurrentProtection_trips htrip]
    refine Iff.trans ?_ (haction.trans ⟨fun hin _ => hin, fun hin => hin htrip⟩)
    exact ⟨fun hm => ⟨hm.raw, hm.voltage⟩, fun hm => ⟨hm.raw, hm.voltage⟩⟩
  · refine iff_of_true ?_ fun hyes => absurd hyes htrip
    rcases tickCurrentProtection_cases ch with hsame | hsame | ⟨hyes, -⟩
    · rwa [hsame]
    · rw [hsame]
      exact ⟨h.raw, h.voltage⟩
    · exact absurd hyes htrip

theorem within_consumeCurrent (h : Within maxRawDac ch) (raw : Int32) :
    Within maxRawDac (consumeCurrent ch raw) ↔ (trips (measureCurrent ch raw) →
      protectionAction ch ch.config.currentProtectionOutputAction = .disableGraceful →
        ch.calOutputEnabled = 0 →
          inDac maxRawDac ch.calConfig ch.operationalTargetVoltage) := by
  have hmeasured : Within maxRawDac (measureCurrent ch raw) := ⟨h.raw, h.voltage⟩
  have hstatus : Within maxRawDac (consumeCurrent ch raw) ↔
      Within maxRawDac (if !(measureCurrent ch raw).ramping then
        tickCurrentProtection (measureCurrent ch raw) else measureCurrent ch raw) :=
    ⟨fun hm => ⟨hm.raw, hm.voltage⟩, fun hm => ⟨hm.raw, hm.voltage⟩⟩
  rw [hstatus]
  split
  · exact within_tickCurrentProtection hmeasured
  next hramping =>
    refine iff_of_true hmeasured fun htrip => ?_
    simp only [trips, decide_eq_true_eq] at htrip
    exact absurd htrip.2.1 hramping

theorem within_sampleCurrent (h : Within maxRawDac ch) :
    Within maxRawDac (sampleCurrent ch) ↔ keepsCeiling k maxRawDac ch .sampleCurrent := by
  refine Iff.trans ?_ decide_eq_true_iff.symm
  rcases sampleCurrent_cases ch with ⟨htaken, hsame⟩ | ⟨raw, ts, htaken, hsame⟩
  · rw [hsame]
    refine iff_of_true h fun hon => ?_
    simp [OperatorDisable.switchesOn, tripsOn_eq, htaken] at hon
  · have hmark : Within maxRawDac (sampleCurrent ch) ↔
        Within maxRawDac (consumeCurrent ch raw) := by
      rw [hsame]
      exact ⟨fun hm => ⟨hm.raw, hm.voltage⟩, fun hm => ⟨hm.raw, hm.voltage⟩⟩
    rw [hmark, within_consumeCurrent h]
    simp [OperatorDisable.switchesOn, tripsOn_eq, htaken]

theorem waited_reads (ch : Channel) : (waited ch).calOutputEnabled = ch.calOutputEnabled ∧
    (waited ch).rawDacReadback = ch.rawDacReadback ∧ (waited ch).calConfig = ch.calConfig ∧
    (waited ch).operationalTargetVoltage = ch.operationalTargetVoltage := by
  unfold waited enterCooldown
  split <;> exact ⟨rfl, rfl, rfl, rfl⟩

theorem within_enterCooldown (h : Within maxRawDac ch) : Within maxRawDac (enterCooldown ch) := by
  unfold enterCooldown
  split <;> exact ⟨h.raw, h.voltage⟩

theorem within_startRecovery (h : Within maxRawDac ch) {m : Channel} (target : Int16)
    (hcal : m.calOutputEnabled = ch.calOutputEnabled)
    (hraw : m.rawDacReadback = ch.rawDacReadback) (hconfig : m.calConfig = ch.calConfig)
    (hvalue : m.operationalTargetVoltage = ch.operationalTargetVoltage) :
    Within maxRawDac (startRecovery (recordRetryAttempt k m) target) ↔
      (ch.calOutputEnabled = 0 → inDac maxRawDac ch.calConfig ch.operationalTargetVoltage) := by
  rw [← hconfig, ← hvalue]
  refine (within_refresh _).trans ?_
  unfold recordRetryAttempt
  split <;> exact within_on h hcal hraw rfl

theorem within_tickRecovery (h : Within maxRawDac ch) (sysCfg : SystemConfig) (dtMs : UInt32) :
    Within maxRawDac (tickRecovery k ch sysCfg dtMs) ↔
      keepsCeiling k maxRawDac ch (.tickRecovery sysCfg dtMs) := by
  have hcool := within_enterCooldown h
  refine Iff.trans ?_ decide_eq_true_iff.symm
  change _ ↔ (retryDue ch sysCfg dtMs → _)
  have hstep := tickRecovery_step k ch sysCfg dtMs
  generalize tickRecovery k ch sysCfg dtMs = ch' at hstep
  cases hstep with
  | idle hretry =>
    refine iff_of_true h fun hdue => ?_
    simp [retryDue, hretry] at hdue
  | cooling _ hdue =>
    exact iff_of_true ⟨hcool.raw, hcool.voltage⟩ fun hyes =>
      absurd (hyes.symm.trans hdue) (by decide)
  | exhausted _ hdue =>
    exact iff_of_true ⟨hcool.raw, hcool.voltage⟩ fun hyes =>
      absurd (hyes.symm.trans hdue) (by decide)
  | retry hdue =>
    obtain ⟨hcal, hraw, hconfig, hvalue⟩ := waited_reads ch
    refine (within_startRecovery h _ hcal hraw hconfig hvalue).trans ?_
    exact ⟨fun hin _ => hin, fun hin => hin hdue⟩

/-! ## Calibration -/

theorem within_calSetOutputEnable (h : Within maxRawDac ch)
    (hshut : ch.calOutputEnabled = 0 → ch.rawDacReadback = 0) (enable : Bool) :
    Within maxRawDac (calSetOutputEnable ch enable).2 ↔
      keepsCeiling k maxRawDac ch (.calSetOutputEnable enable) := by
  refine Iff.trans ?_ decide_eq_true_iff.symm
  have hraw : ch.rawDacReadback ≤ maxRawDac := by
    by_cases hcal : ch.calOutputEnabled = 0
    · rw [hshut hcal]
      exact UInt16.zero_le
    · exact h.raw hcal
  unfold calSetOutputEnable
  split
  next hcap => exact iff_of_true h fun _ hyes => by simp [hyes] at hcap
  next hcap =>
  cases enable with
  | true =>
    refine iff_of_true ?_ fun hfalse => by cases hfalse
    rw [if_pos rfl]
    split
    · exact h
    · exact (within_applyHw _).mpr ⟨fun _ => hraw, fun hclosed => by cases hclosed⟩
  | false =>
    refine (within_applyHw _).trans ⟨fun hm _ _ => hm.voltage rfl, fun hin => ⟨?_, fun _ => ?_⟩⟩
    · exact fun hopen => absurd rfl hopen
    · exact hin rfl (by simpa using hcap)

theorem within_calSetRawDac (h : Within maxRawDac ch) (code : UInt32) :
    Within maxRawDac (calSetRawDac k ch code).2 ↔
      keepsCeiling k maxRawDac ch (.calSetRawDac code) := by
  refine Iff.trans ?_ decide_eq_true_iff.symm
  unfold calSetRawDac
  split
  next hcap => exact iff_of_true h fun hyes => by simp [hyes] at hcap
  next hcap =>
  split
  next hmax => exact iff_of_true h fun _ hle => absurd hmax (UInt32.not_lt.mpr hle)
  next hmax =>
  split
  next hhard => exact iff_of_true h fun _ _ hno => by simp [hno] at hhard
  next hhard =>
  split
  next hgate => exact iff_of_true h fun _ _ _ hopen => absurd hgate.2 hopen
  next hgate =>
  refine (within_applyHw _).trans ⟨fun hm _ _ _ hopen => hm.raw hopen, fun hin => ⟨?_, h.voltage⟩⟩
  intro hopen
  show code.toUInt16 ≤ maxRawDac
  by_cases hcode : code = 0
  · rw [hcode]
    exact UInt16.zero_le
  · exact hin (by simpa using hcap) (UInt32.not_lt.mp hmax) (by simpa [hcode] using hhard) hopen

theorem within_setCalField (h : Within maxRawDac ch) (field : CalField) (value : UInt16) :
    Within maxRawDac (setCalField ch field value).2 ↔
      keepsCeiling k maxRawDac ch (.setCalField field value) := by
  show _ ↔ (match writeCalField ch.calConfig field value with
    | .ok cal => decide (ch.calOutputEnabled = 0 → ch.outputEnabled →
        inDac maxRawDac cal ch.operationalTargetVoltage)
    | .error _ => true) = true
  unfold setCalField
  cases writeCalField ch.calConfig field value with
  | error st => exact iff_of_true h rfl
  | ok cal =>
    refine Iff.trans (within_applyHw _) (Iff.trans ?_ decide_eq_true_iff.symm)
    exact ⟨fun hm => hm.voltage, fun hin => ⟨h.raw, hin⟩⟩

/-- One call keeps the ceiling exactly when the condition on it holds. -/
theorem within_step (h : Fits maxRawDac ch) (op : ChannelOp) :
    Within maxRawDac (op.step k ch) ↔ keepsCeiling k maxRawDac ch op := by
  have hin := h.within
  cases op with
  | outputAction action =>
    cases action with
    | enable => exact within_enable hin
    | disableGraceful => exact within_graceful hin
    | _ => exact iff_of_true (within_request hin (outputAction_step k ch _) rfl) rfl
  | faultCommand cmd => exact iff_of_true (within_request hin (faultCommand_step k ch cmd) rfl) rfl
  | setField field value =>
    exact iff_of_true (within_request hin (setField_step k ch field value) rfl) rfl
  | setConfig cfg => exact iff_of_true (within_request hin (setConfig_step k ch cfg) rfl) rfl
  | calSample => exact iff_of_true (within_request hin (calSample_step k ch) rfl) rfl
  | tickRamp dtMs => exact within_tickRamp hin dtMs
  | tickRecovery sysCfg dtMs => exact within_tickRecovery hin sysCfg dtMs
  | calSetOutputEnable enable => exact within_calSetOutputEnable hin h.shut enable
  | calSetRawDac code => exact within_calSetRawDac hin code
  | setCalField field value => exact within_setCalField hin field value
  | consumeCurrent raw =>
    refine (within_consumeCurrent hin raw).trans (Iff.trans ?_ decide_eq_true_iff.symm)
    change _ ↔ ((trips (measureCurrent ch raw) && protectionAction ch
      ch.config.currentProtectionOutputAction == .disableGraceful) = true → _)
    rw [Bool.and_eq_true, beq_iff_eq, and_imp]
  | sampleCurrent => exact within_sampleCurrent hin
  | sampleVoltage =>
    refine iff_of_true ?_ rfl
    show Within maxRawDac (sampleVoltage ch)
    unfold sampleVoltage
    split
    · exact hin
    · split <;> exact ⟨hin.raw, hin.voltage⟩
  | loadCal cal =>
    refine Iff.trans (within_applyHw _) (Iff.trans ?_ decide_eq_true_iff.symm)
    exact ⟨fun hm => hm.voltage, fun hcal => ⟨hin.raw, hcal⟩⟩
  | consumeFault cause =>
    refine iff_of_true ((within_refresh _).mpr ⟨fun hopen => ?_, fun _ hon => ?_⟩) rfl
    · exact absurd rfl hopen
    · cases hon
  | resetCalibration entering =>
    refine iff_of_true ((within_refresh _).mpr ⟨fun hopen => ?_, fun _ hon => ?_⟩) rfl
    · exact absurd rfl hopen
    · cases hon
  | _ => exact iff_of_true ⟨hin.raw, hin.voltage⟩ rfl

theorem fits_step (h : Fits maxRawDac ch) {op : ChannelOp}
    (hop : keepsCeiling k maxRawDac ch op) : Fits maxRawDac (op.step k ch) :=
  ⟨follows_step h.follows op, (within_step h op).mpr hop, shut_step h.shut op⟩

end Steps

/-! ## Every run -/

/-- The DAC holds the code of an output that is on, and the raw code while the gate is open. The
last code was not refused, whatever the call answered. -/
structure Outputs (maxRawDac : UInt16) (ch : Channel) : Prop where
  enabled : ch.outputEnabled → ch.dacCode = (hwCommand ch).code
  raw : ch.calOutputEnabled ≠ 0 → ch.rawDacReadback = ch.dacCode
  accepted : ch.hw.code ≤ maxRawDac

theorem outputs_iff (maxRawDac : UInt16) (ch : Channel) : Outputs maxRawDac ch ↔
    (ch.outputEnabled → ch.dacCode = (hwCommand ch).code) ∧
      (ch.calOutputEnabled ≠ 0 → ch.rawDacReadback = ch.dacCode) ∧ ch.hw.code ≤ maxRawDac :=
  ⟨fun h => ⟨h.enabled, h.raw, h.accepted⟩, fun h => ⟨h.1, h.2.1, h.2.2⟩⟩

instance (maxRawDac : UInt16) (ch : Channel) : Decidable (Outputs maxRawDac ch) :=
  decidable_of_iff' _ (outputs_iff maxRawDac ch)

/-- A DAC that follows the channel is right exactly on the codes within its ceiling. -/
theorem outputs_iff_within {maxRawDac : UInt16} {ch : Channel}
    (h : Follows maxRawDac (output ch)) : Outputs maxRawDac ch ↔ Within maxRawDac ch := by
  rw [← code_le_iff]
  constructor
  · intro hout
    rw [← h.asked]
    exact hout.accepted
  · intro hle
    have hheld : ch.dacCode = (hwCommand ch).code := by
      rw [← command_output]
      exact h.held hle
    refine ⟨fun _ => hheld, fun hopen => ?_, ?_⟩
    · rw [hheld, hwCommand, if_pos hopen]
    · rw [← h.asked] at hle
      exact hle

theorem fits_init (k : Kconfig) {maxRawDac : UInt16} {node : Node}
    (hdev : node.dev = some (hvbApi maxRawDac)) : Fits maxRawDac (VcChannel.init k node) where
  follows := ⟨hdev, rfl, fun _ => rfl, UInt16.zero_le⟩
  within := ⟨fun _ => UInt16.zero_le, fun _ hon => by cases hon⟩
  shut := fun _ => rfl

/-- After every call of a run on a channel of the high voltage board the DAC holds the code of the
channel exactly if no call brings it one above the ceiling. -/
theorem codes_output_iff (k : Kconfig) (nodes : List Node) (store : σ) {i : Nat} {node : Node}
    (maxRawDac : UInt16) (hnode : nodes[i]? = some node)
    (hdev : node.dev = some (hvbApi maxRawDac)) (ops : List (PublicOp σ)) :
    Along (PublicOp.step k) (EachCallOn k i fun ch op => Outputs maxRawDac (op.step k ch))
        (VcController.init k nodes store) ops ↔
      Along (PublicOp.step k) (EachCallOn k i fun ch op => keepsCeiling k maxRawDac ch op)
        (VcController.init k nodes store) ops := by
  refine publicRun_along_congr (I := Fits maxRawDac) (fun ch op h hop => fits_step h hop)
    (fun ch op h => ?_) fun ch hch => ?_
  · exact (outputs_iff_within (follows_step h.follows op)).trans (within_step h op)
  · have hinit : (VcController.init k nodes store).channels[i]? =
        some (VcChannel.init k node) := by
      show (nodes.map (VcChannel.init k))[i]? = _
      rw [List.getElem?_map, hnode]
      rfl
    obtain rfl := Option.some.inj (hinit.symm.trans hch)
    exact fits_init k hdev

/-- A board whose DAC takes codes up to 1000. -/
def lowNode : Node := { dacNode with dev := some (hvbApi 1000) }

def rawCode (code : UInt32) : List (PublicOp Unit) :=
  [.calibrationUnlock calUnlockStep1, .calibrationUnlock calUnlockStep2,
    .setOperatingMode .calibration, .channelCalOutputEnable 0 true,
    .channelCalRawDac 0 code].map .controller

theorem codes_output_example :
    Along (PublicOp.step .hvb) (EachCallOn .hvb 0 fun ch op => Outputs 1000 (op.step .hvb ch))
        (VcController.init .hvb [lowNode] ()) (rawCode 900) ↔
      Along (PublicOp.step .hvb) (EachCallOn .hvb 0 fun ch op => keepsCeiling .hvb 1000 ch op)
        (VcController.init .hvb [lowNode] ()) (rawCode 900) :=
  codes_output_iff .hvb [lowNode] () 1000 rfl rfl (rawCode 900)

/-- The code 1500 is answered with OK and read back, and the DAC stays at 0. -/
theorem codes_refused :
    let ctrl := exec (PublicOp.step .hvb) (VcController.init .hvb [lowNode] ())
      (rawCode 1500).dropLast
    let answer := channelCalRawDac .hvb ctrl 0 1500
    answer.1 = .ok ∧
      answer.2.channels.map (fun ch => (ch.calOutputEnabled, ch.rawDacReadback, ch.dacCode)) =
        [(1, 1500, 0)] ∧
      ¬ Along (PublicOp.step .hvb)
        (EachCallOn .hvb 0 fun ch op => Outputs 1000 (op.step .hvb ch))
        (VcController.init .hvb [lowNode] ()) (rawCode 1500) := by
  decide +kernel

end DacCeiling
