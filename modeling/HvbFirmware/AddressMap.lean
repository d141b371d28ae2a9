import HvbFirmware.ParamActions
import HvbFirmware.RunningBoard
import HvbFirmware.WordCoherence

/-!
# The published address map

The map of the register reference: which offsets are reserved, which capability guards a register,
and which values a register takes. Two tables of the firmware, one in the adapter and one in the
catalog, decide the guards together. The answers of the board to the requests that the map speaks
of are computed here.
-/
namespace AddressMap

open VcTypes VcChannel VcController RegCatalog ModbusRegister MbAdapter VcCatalog MbServer
open CommConfig ParamActions Atomicity Runs
open WordCoherence (off_lt inputRd_sys inputRd_channel)

variable {σ : Type}

/-! ## Guards -/

/-- A bit of the capability flags. -/
def has (caps bit : UInt16) : Bool := caps &&& bit != 0

/-- The guard column of the channel holding block. -/
def holdingGuard (caps : UInt16) : Nat → Bool
  | 3 | 4 | 5 | 6 | 7 | 20 | 21 | 26 | 30 | 31 => has caps capRawOutputDrive
  | 13 | 14 | 15 | 24 | 25 | 28 => has caps capCurrentMeasurement
  | 22 | 23 | 27 => has caps capVoltageMeasurement
  | 16 => has caps capRawOutputDrive && has caps capVoltageMeasurement
  | 17 => has caps capOutputEnable && !has caps capRawOutputDrive
  | 32 => has caps capVoltageMeasurement || has caps capCurrentMeasurement
  | 33 => has caps capRawOutputDrive || has caps capVoltageMeasurement ||
      has caps capCurrentMeasurement
  | _ => true

/-- The guard column of the channel input block. -/
def inputGuard (caps : UInt16) : Nat → Bool
  | 10 | 12 | 13 => has caps capVoltageMeasurement
  | 11 | 14 | 15 => has caps capCurrentMeasurement
  | _ => true

theorem and_bit (caps bit : UInt16) (i : Nat) (h : bit.toBitVec = BitVec.twoPow 16 i) :
    caps &&& bit = 0 ∨ caps &&& bit = bit := by
  have hand := BitVec.and_twoPow caps.toBitVec i
  rw [← h] at hand
  rcases Bool.eq_false_or_eq_true (caps.toBitVec.getLsbD i) with hi | hi
  · right
    rw [hi] at hand
    exact UInt16.toBitVec_inj.mp hand
  · left
    rw [hi] at hand
    exact UInt16.toBitVec_inj.mp hand

/-- For a single bit the two ways to test it agree. -/
theorem capsAll_bit {caps bit : UInt16} (i : Nat) (h : bit.toBitVec = BitVec.twoPow 16 i)
    (hne : bit ≠ 0) : capsAll caps bit = has caps bit := by
  unfold capsAll has
  rcases and_bit caps bit i h with hand | hand <;> rw [hand]
  · simpa using hne.symm
  · simpa using hne

theorem capsAll_raw (caps : UInt16) : capsAll caps capRawOutputDrive = has caps capRawOutputDrive :=
  capsAll_bit 1 rfl (by decide)

theorem capsAll_voltage (caps : UInt16) :
    capsAll caps capVoltageMeasurement = has caps capVoltageMeasurement :=
  capsAll_bit 2 rfl (by decide)

theorem capsAll_current (caps : UInt16) :
    capsAll caps capCurrentMeasurement = has caps capCurrentMeasurement :=
  capsAll_bit 3 rfl (by decide)

theorem and_or (caps a b : UInt16) : caps &&& (a ||| b) = (caps &&& a) ||| (caps &&& b) :=
  UInt16.toBitVec_inj.mp BitVec.and_or_distrib_left

theorem has_or (caps a b : UInt16) : has caps (a ||| b) = (has caps a || has caps b) := by
  rw [Bool.eq_iff_iff]
  simp only [has, and_or, bne_iff_ne, Bool.or_eq_true, ne_eq, UInt16.or_eq_zero_iff]
  exact Decidable.not_and_iff_or_not

theorem capsAll_derate (caps : UInt16) :
    capsAll caps (capRawOutputDrive ||| capVoltageMeasurement) =
      (has caps capRawOutputDrive && has caps capVoltageMeasurement) := by
  unfold capsAll has
  rw [and_or]
  rcases and_bit caps capRawOutputDrive 1 rfl with hraw | hraw <;>
    rcases and_bit caps capVoltageMeasurement 2 rfl with hv | hv <;>
    rw [hraw, hv] <;> rfl

/-- The two tables of the firmware together are the guard column. -/
theorem holdingGuard_iff {off : Nat} {reg : VcReg} (hreg : chHoldingReg off = some reg)
    (caps : UInt16) :
    (chHoldingSupported caps off && vcCatalogSupported reg caps) = holdingGuard caps off := by
  have hhas : ∀ mask, (caps &&& mask != 0) = has caps mask := fun _ => rfl
  have hall : ∀ mask, (caps &&& mask == mask) = capsAll caps mask := fun _ => rfl
  have hany : ∀ mask, capsAny caps mask = has caps mask := fun _ => rfl
  have hnot : ∀ mask, (caps &&& mask == 0) = !has caps mask := by simp [has, bne]
  unfold chHoldingReg at hreg
  split at hreg <;> cases hreg <;>
    simp only [chHoldingSupported, chHoldingReg, vcCatalogSupported, holdingGuard, hhas, hall, hany,
      hnot, capsAll_raw, capsAll_voltage, capsAll_current, capsAll_derate, has_or, Bool.and_self,
      chBlockSize, Nat.reduceLT, decide_true, Bool.true_and]
  exact Bool.and_comm _ _

/-! ## Places -/

def reservedOffset (off : Nat) : Bool := off = 18 ∨ off = 19 ∨ off = 29 ∨ 34 ≤ off

theorem chHoldingReg_isNone : ∀ off < chBlockSize,
    (chHoldingReg off).isNone = reservedOffset off := by
  decide

theorem chHoldingReg_reserved {off : Nat} (hlt : off < chBlockSize) :
    chHoldingReg off = none ↔ reservedOffset off := by
  rw [← chHoldingReg_isNone off hlt, Option.isNone_iff_eq_none]

/-- The reserved input registers of the blocks that are there. -/
def reservedInput (b : Build) (addr : UInt16) : Bool :=
  match addrDecode addr with
  | some (.sys off) => 17 ≤ off
  | some (.channel ch off) => ch < b.maxChannels ∧ 16 ≤ off
  | none => false

def reservedHolding (b : Build) (addr : UInt16) : Bool :=
  if isExtension addr then 682 ≤ addr.toNat
  else
    match addrDecode addr with
    | some (.sys off) => 4 ≤ off ∧ off ≠ 39
    | some (.channel ch off) => ch < b.maxChannels ∧ reservedOffset off
    | none => false

/-- No block, no such channel, or a register that the channel lacks. -/
def absentInput (b : Build) (ctrl : Controller σ) (addr : UInt16) : Bool :=
  match addrDecode addr with
  | some (.sys _) => false
  | some (.channel ch off) =>
    b.maxChannels ≤ ch ∨ inputGuard (capsOf ctrl.channels[ch.toNat]?) off = false
  | none => true

def absentHolding (b : Build) (ctrl : Controller σ) (addr : UInt16) : Bool :=
  if isExtension addr then false
  else
    match addrDecode addr with
    | some (.sys _) => false
    | some (.channel ch off) =>
      b.maxChannels ≤ ch ∨ holdingGuard (capsOf ctrl.channels[ch.toNat]?) off = false
    | none => true

/-! ## Values -/

/-- The values outside the range or the enumeration of a register of the system holding block. -/
def badSysValue (off : Nat) (val : UInt16) : Bool :=
  match off with
  | 0 => val > 2
  | 1 => val > 1
  | 2 => val < 1 ∨ val > 247
  | 3 => val > 3
  | 39 => val > 3 ∧ val ≠ 255
  | _ => false

/-- The unlock takes its two steps in order, the exit the value 1 in a session. -/
def badExtValue (ctrl : Controller σ) (off : Nat) (val : UInt16) : Bool :=
  match off with
  | 0 => val ≠ calUnlockStep1 ∧ (val ≠ calUnlockStep2 ∨ ctrl.calUnlockStep ≠ 1)
  | 1 => val ≠ 1 ∨ ctrl.operatingMode ≠ .calibration
  | _ => false

/-- The values that a register of a channel has no room for. Force Output Zero, 4, is an action of
the protection only; an enable is unsafe with an active fault, as is the clearing of a fault that
persists; the coefficients and the session registers are written in a session only. -/
def badChValue (k : Kconfig) (mode : OperatingMode) (c : Channel) (off : Nat) (val : UInt16) :
    Bool :=
  match off with
  | 0 => mode = .calibration ∨ val > 3 ∨ val = 1 ∧ c.activeFaultCause ≠ 0
  | 1 => val > 2 ∨ val = 1 ∧ c.activeFaultCause ≠ 0 ∧ isSafeToClearActive c = false
  | 2 => val > 3
  | 3 => val.toInt16 > k.maxTargetVoltage ∨ val.toInt16 < 0
  | 8 => val > 3
  | 10 => val.toNat > k.maxRetryHistory
  | 13 => val > 2
  | 14 => val = 1 ∨ val > 4
  | 15 => val.toInt16 < 0
  | 20 | 21 | 22 | 23 | 24 | 25 => mode ≠ .calibration
  | 26 | 27 | 28 => mode ≠ .calibration ∨ calKExpInRange val.toInt16 = false
  | 30 | 32 | 33 => mode ≠ .calibration ∨ val > 1
  | 31 => mode ≠ .calibration ∨ val.toUInt32 > k.calMaxRawDac
  | _ => false

/-- The bad values that a register of a channel does not refuse. -/
def takesChValue (mode : OperatingMode) (off : Nat) (val : UInt16) : Bool :=
  match off with
  | 0 => mode ≠ .calibration ∧ val = 4
  | 8 => val > 3
  | _ => false

def badValue (bd : Board) (ctrl : Controller σ) (addr val : UInt16) : Bool :=
  if isExtension addr then badExtValue ctrl (addr.toNat - 680) val
  else
    match addrDecode addr with
    | some (.sys off) => badSysValue off val
    | some (.channel ch off) =>
      ctrl.channels[ch.toNat]?.any fun c => badChValue bd.k ctrl.operatingMode c off val
    | none => false

/-- A change of mode that the controller does not make. -/
def refusesMode (ctrl : Controller σ) (mode : OperatingMode) : Bool :=
  mode ≠ ctrl.operatingMode ∧ canMove ctrl mode = false

/-- The bad values that a register does not refuse. -/
def takesValue (ctrl : Controller σ) (addr val : UInt16) : Bool :=
  match addrDecode addr with
  | some (.sys off) => off = 1 ∧ refusesMode ctrl ctrl.sysCfg.operatingMode = false
  | some (.channel _ off) => takesChValue ctrl.operatingMode off val
  | none => false

/-- A session register of a channel that has it. -/
def sessionRegister (addr : UInt16) : Bool :=
  match addrDecode addr with
  | some (.channel _ off) => isChCalHoldingReg off
  | _ => false

/-! ## Refused values -/

theorem outputAction_ofValue {val : UInt16} (h : val > 4) :
    OutputAction.ofValue val = .other val := by
  unfold OutputAction.ofValue
  grind

theorem protectionMode_ofValue {val : UInt16} (h : val > 2) :
    ProtectionMode.ofValue val = .other val := by
  unfold ProtectionMode.ofValue
  grind

theorem paramAction_ofValue {val : UInt16} (h : val > 3) :
    ParamAction.ofValue val = .other val := by
  unfold ParamAction.ofValue
  grind

theorem faultCommand_ofValue {val : UInt16} (h : val > 2) :
    ChannelFaultCommand.ofValue val = .other val := by
  unfold ChannelFaultCommand.ofValue
  grind

theorem operatingMode_ofValue {val : UInt16} (h : val > 2) :
    OperatingMode.ofValue val = .other val := by
  unfold OperatingMode.ofValue
  grind

/-- A command that the controller refuses, or that is not taken. -/
theorem serve_refused {k : Kconfig} {adm : Admission} {ctrl : Controller σ} {op : ControllerOp σ}
    (h : vcStatusToReg (op.call k ctrl).1 = .invalidValue) :
    (serve k adm ctrl (.submit op)).1 = .invalidValue := by
  unfold serve submitCommand
  dsimp only
  split
  · rfl
  · exact h

/-- A command that is taken answers as the controller does. -/
theorem serve_taken {k : Kconfig} {adm : Admission} {ctrl : Controller σ} (h : adm.admitted)
    (op : ControllerOp σ) :
    (serve k adm ctrl (.submit op)).1 = vcStatusToReg (op.call k ctrl).1 := by
  unfold serve submitCommand
  rw [h]
  rfl

/-- One that is not is refused as a value. -/
theorem serve_untaken {k : Kconfig} {adm : Admission} {ctrl : Controller σ}
    (h : adm.admitted = false) (op : ControllerOp σ) :
    (serve k adm ctrl (.submit op)).1 = .invalidValue := by
  unfold serve submitCommand
  rw [h]
  rfl

theorem force_answer (c : Channel) :
    regStToMbResult (vcStatusToReg (outputAction c .disableForce).1) ≠ .illegalValue := by
  have hhost : hostAction c .disableForce = .disableForce := if_neg (by simp)
  unfold outputAction
  rw [if_neg (by decide), hhost]
  split <;> exact nofun

/-- A record is accepted, unless the mode in it is refused. -/
theorem setSystemConfig_answer (k : Kconfig) (ctrl : Controller σ) (cfg : SystemConfig) :
    vcStatusToReg (setSystemConfig k ctrl cfg).1 =
      if refusesMode ctrl cfg.operatingMode then .invalidValue else .ok := by
  unfold setSystemConfig refusesMode canMove
  dsimp only
  split
  next hmode =>
    unfold setOperatingMode vcStatusToReg
    grind
  next hmode => simp [Decidable.not_not.mp hmode, vcStatusToReg]

/-- A write of the startup policy hands the stored mode to the check of modes. -/
theorem policy_answer (k : Kconfig) (adm : Admission) (ctrl : Controller σ) (val : UInt16) :
    (serve k adm ctrl (globalRequest .startupChannelPolicy val)).1 =
      if adm.admitted ∧ refusesMode ctrl ctrl.sysCfg.operatingMode = false then .ok
      else .invalidValue := by
  cases hadmitted : adm.admitted with
  | false => simp [globalRequest, serve, submitCommand, hadmitted, vcStatusToReg]
  | true =>
    refine (serve_taken hadmitted _).trans ?_
    refine (setSystemConfig_answer k ctrl { ctrl.sysCfg with startupChannelPolicy := val }).trans ?_
    cases hrefuses : refusesMode ctrl ctrl.sysCfg.operatingMode <;> simp

section Channel

variable {k : Kconfig} {ctrl : Controller σ} {i : Nat} {c : Channel}
  (hc : ctrl.channels[i]? = some c)

include hc

theorem fst_onChannel (call : Channel → VcStatus × Channel) :
    (onChannel ctrl i call).1 = (call c).1 := by
  unfold onChannel
  rw [hc]

theorem fst_inSession (call : Channel → VcStatus × Channel) :
    (inSession k ctrl i call).1 = (sessionCall ctrl call c).1 := by
  rw [← fst_onChannel hc]
  unfold inSession
  dsimp only
  split
  next hok => exact hok.symm ▸ rfl
  · rfl

theorem fst_channelSetField {field : ConfigField} {val : UInt16} {st : VcStatus}
    (h : writeField k c field val = .error st) (hst : st ≠ .ok) :
    (channelSetField k ctrl i field val).1 = st := by
  have hset : VcChannel.setField k c field val = (st, c) := by
    unfold VcChannel.setField
    rw [h]
  unfold channelSetField
  rw [fst_onChannel hc]
  dsimp only
  rw [hset, if_neg (fun hall => hst hall.1)]

theorem outputAction_refused {val : UInt16}
    (h : ctrl.operatingMode = .calibration ∨ val > 4 ∨ val = 1 ∧ c.activeFaultCause ≠ 0) :
    vcStatusToReg (channelOutputAction ctrl i (.ofValue val)).1 = .invalidValue := by
  unfold channelOutputAction
  rw [fst_onChannel hc]
  split
  · rfl
  next hmode =>
    rcases h.resolve_left hmode with hgt | ⟨rfl, hfault⟩
    · rw [outputAction_ofValue hgt]
      rfl
    · have hunsafe : (outputAction c .enable).1 = .errUnsafeState := by
        simp [outputAction, isValidHostOutputAction, hostAction, hfault]
      exact congrArg vcStatusToReg hunsafe

theorem faultCommand_refused {val : UInt16}
    (h : val > 2 ∨ val = 1 ∧ c.activeFaultCause ≠ 0 ∧ isSafeToClearActive c = false) :
    vcStatusToReg (channelFaultCommand ctrl i (.ofValue val)).1 = .invalidValue := by
  unfold channelFaultCommand
  rw [fst_onChannel hc]
  rcases h with hgt | ⟨rfl, hfault, hunsafe⟩
  · rw [faultCommand_ofValue hgt]
    rfl
  · have hst : (faultCommand c .clearActive).1 = .errUnsafeState := by
      simp [faultCommand, isValidChannelFaultCommand, hfault, hunsafe]
    exact congrArg vcStatusToReg hst

theorem paramAction_refused {val : UInt16} (h : val > 3) :
    vcStatusToReg (channelParamAction k ctrl i (.ofValue val)).1 = .invalidValue := by
  rw [paramAction_ofValue h]
  unfold channelParamAction
  rw [hc]
  rfl

/-- A configuration value that the field does not take. -/
theorem field_refused {field : ConfigField} {val : UInt16}
    (h : writeField k c field val = .error .errInvalidValue) :
    vcStatusToReg (channelSetField k ctrl i field val).1 = .invalidValue := by
  rw [fst_channelSetField hc h nofun]
  rfl

/-- A coefficient outside a session, or an exponent out of range. -/
theorem calField_refused {field : CalField} {val : UInt16}
    (h : ctrl.operatingMode = .calibration →
      writeCalField c.calConfig field val = .error .errInvalidValue) :
    vcStatusToReg (channelSetCalField k ctrl i field val).1 = .invalidValue := by
  unfold channelSetCalField
  rw [fst_inSession hc]
  unfold sessionCall
  split
  · rfl
  next hmode =>
    unfold setCalField
    dsimp only
    rw [h (Decidable.not_not.mp hmode)]
    rfl

theorem rawDac_refused {val : UInt16} (hcap : hasCap c capRawOutputDrive)
    (h : val.toUInt32 > k.calMaxRawDac) :
    vcStatusToReg (channelCalRawDac k ctrl i val.toUInt32).1 = .invalidValue := by
  unfold channelCalRawDac
  rw [fst_inSession hc]
  unfold sessionCall
  split
  · rfl
  · simp only [calSetRawDac, hcap, h]
    rfl

/-- The other values of the map are refused as values, on a channel that has the register, and these
too if the command is not taken. -/
theorem badChValue_refused {off : Nat} {reg : VcReg} (hreg : chHoldingReg off = some reg)
    (hguard : holdingGuard c.capabilities off) (adm : Admission) {val : UInt16}
    (hmode : isChCalHoldingReg off → ctrl.operatingMode = .calibration)
    (htakes : adm.admitted → takesChValue ctrl.operatingMode off val = false)
    (hbad : badChValue k ctrl.operatingMode c off val) :
    (serve k adm ctrl (channelRequest i reg val)).1 = .invalidValue := by
  have hraw : has c.capabilities capRawOutputDrive → hasCap c capRawOutputDrive :=
    fun h => (capsAll_raw _).trans h
  have hcurrent : has c.capabilities capCurrentMeasurement → hasCap c capCurrentMeasurement :=
    fun h => (capsAll_current _).trans h
  unfold badChValue at hbad
  split at hbad
  case h_1 =>
    cases hreg
    cases hadmitted : adm.admitted with
    | false => exact serve_untaken hadmitted _
    | true =>
      refine serve_refused (outputAction_refused hc ?_)
      have hnot : ¬ (ctrl.operatingMode ≠ .calibration ∧ val = 4) :=
        of_decide_eq_false (htakes hadmitted)
      have hbad := of_decide_eq_true hbad
      grind
  case h_2 =>
    cases hreg
    exact serve_refused (faultCommand_refused hc (of_decide_eq_true hbad))
  case h_3 =>
    cases hreg
    exact serve_refused (paramAction_refused hc (of_decide_eq_true hbad))
  case h_4 =>
    cases hreg
    refine serve_refused (field_refused hc ?_)
    simp only [writeField, hraw hguard, of_decide_eq_true hbad]
    rfl
  case h_5 =>
    cases hreg
    cases hadmitted : adm.admitted with
    | false => exact serve_untaken hadmitted _
    | true => exact absurd hbad (Bool.eq_false_iff.mp (htakes hadmitted))
  case h_6 =>
    cases hreg
    refine serve_refused (field_refused hc ?_)
    simp only [writeField, of_decide_eq_true hbad]
    rfl
  case h_7 =>
    cases hreg
    refine serve_refused (field_refused hc ?_)
    simp only [writeField, hcurrent hguard, protectionMode_ofValue (of_decide_eq_true hbad)]
    rfl
  case h_8 =>
    cases hreg
    refine serve_refused (field_refused hc ?_)
    have hinvalid : isValidProtectionOutputAction (.ofValue val) = false := by
      rcases of_decide_eq_true hbad with rfl | hgt
      · rfl
      · rw [outputAction_ofValue hgt]
        rfl
    simp only [writeField, hcurrent hguard, hinvalid]
    rfl
  case h_9 =>
    cases hreg
    refine serve_refused (field_refused hc ?_)
    simp only [writeField, hcurrent hguard, of_decide_eq_true hbad]
    rfl
  case h_10 | h_11 | h_12 | h_13 | h_14 | h_15 =>
    cases hreg
    exact serve_refused (calField_refused hc fun hmode => absurd hmode (of_decide_eq_true hbad))
  case h_16 | h_17 | h_18 =>
    cases hreg
    refine serve_refused (calField_refused hc fun hmode => ?_)
    have hexp := (of_decide_eq_true hbad).resolve_left (not_not_intro hmode)
    simp only [writeCalField, hexp]
    rfl
  case h_19 =>
    cases hreg
    have hrequest : channelRequest (σ := σ) i .calOutputEnable val = .answer .invalidValue :=
      if_pos ((of_decide_eq_true hbad).resolve_left (not_not_intro (hmode rfl)))
    rw [hrequest]
    rfl
  case h_20 | h_21 =>
    cases hreg
    have hgt := (of_decide_eq_true hbad).resolve_left (not_not_intro (hmode rfl))
    have hcommand : ∀ op : ControllerOp σ, calCommand val op = .answer .invalidValue := by
      intro op
      unfold calCommand
      grind
    simp only [channelRequest, vcCatalogField, vcCatalogCalField, channelCommand, hcommand]
    rfl
  case h_22 =>
    cases hreg
    have hgt := (of_decide_eq_true hbad).resolve_left (not_not_intro (hmode rfl))
    exact serve_refused (rawDac_refused hc (hraw hguard) hgt)
  case h_23 => cases hbad

/-- And these are taken, by a channel that is there. -/
theorem takesChValue_taken {off : Nat} {reg : VcReg} (hreg : chHoldingReg off = some reg)
    {adm : Admission} (hadmitted : adm.admitted) {val : UInt16}
    (htakes : takesChValue ctrl.operatingMode off val) :
    regStToMbResult (serve k adm ctrl (channelRequest i reg val)).1 ≠ .illegalValue := by
  unfold takesChValue at htakes
  split at htakes
  · cases hreg
    obtain ⟨hmode, rfl⟩ := of_decide_eq_true htakes
    have hrequest : channelRequest (σ := σ) i .outputAction 4 =
        .submit (.channelOutputAction i .disableForce) := rfl
    have hcall :
        (channelOutputAction ctrl i .disableForce).1 = (outputAction c .disableForce).1 := by
      unfold channelOutputAction
      rw [fst_onChannel hc, if_neg hmode]
    rw [hrequest, serve_taken hadmitted]
    show regStToMbResult (vcStatusToReg (channelOutputAction ctrl i .disableForce).1) ≠ _
    rw [hcall]
    exact force_answer c
  · cases hreg
    have hrequest : channelRequest (σ := σ) i .recoveryPolicyMode val =
        .submit (.channelSetField i .recoveryPolicyMode val) := rfl
    have hcall : (channelSetField k ctrl i .recoveryPolicyMode val).1 = .ok := by
      unfold channelSetField
      rw [fst_onChannel hc]
      rfl
    rw [hrequest, serve_taken hadmitted]
    show regStToMbResult (vcStatusToReg (channelSetField k ctrl i _ val).1) ≠ _
    rw [hcall]
    exact nofun
  · cases htakes

end Channel

/-! ## Reads -/

section Reads

variable {bd : Board} {e : Env} {w : World σ}

theorem sysInputView_reserved {b : Build} {off : Nat} (h : 17 ≤ off) :
    sysInputView b off = none := by
  unfold sysInputView
  split <;> first | rfl | omega

theorem sysHoldingView_reserved {off : Nat} (h : 4 ≤ off) (hne : off ≠ 39) :
    sysHoldingView off = none := by
  unfold sysHoldingView
  split <;> first | rfl | omega

theorem chInputSupported_guard {caps : UInt16} {off : Nat} (h : off < chBlockSize) :
    chInputSupported caps off = inputGuard caps off := by
  unfold inputGuard
  split
  case h_1 | h_2 | h_3 => exact capsAll_voltage caps
  case h_4 | h_5 | h_6 => exact capsAll_current caps
  case h_7 h10 h12 h13 h11 h14 h15 =>
    have hplain : ∀ reg word, chInputReg off = some (reg, word) →
        reg ≠ .measuredVoltage ∧ reg ≠ .rawAdcVoltage ∧ reg ≠ .measuredCurrent ∧
          reg ≠ .rawAdcCurrent := by
      intro reg word hreg
      unfold chInputReg at hreg
      split at hreg <;> cases hreg <;> first | decide | exact absurd rfl ‹_›
    unfold chInputSupported
    split
    all_goals first | exact decide_eq_true h | simp_all

theorem inputRd_reserved (hrun : e.adm.running) {addr : UInt16}
    (h : reservedInput bd.vc.toBuild addr) : (inputRd bd e w addr).1 = .ok 0 := by
  unfold reservedInput at h
  unfold inputRd
  cases haddr : addrDecode addr with
  | none => simp [haddr] at h
  | some place =>
    cases place with
    | sys off =>
      rw [haddr] at h
      rw [inputRd_sys haddr, sysInputView_reserved (of_decide_eq_true h)]
      rfl
    | channel ch off =>
      rw [haddr] at h
      obtain ⟨hch, hoff⟩ := of_decide_eq_true h
      rw [inputRd_channel haddr]
      show (toMb _).1 = _
      rw [toMb, readChInput_reserved hrun hch hoff (channel_of_addrDecode haddr).1]

theorem inputRd_absent (hrun : e.adm.running) {addr : UInt16}
    (h : absentInput bd.vc.toBuild w.ctrl addr) :
    (inputRd bd e w addr).1 = .error .illegalAddress := by
  unfold absentInput at h
  unfold inputRd
  cases haddr : addrDecode addr with
  | none =>
    unfold vcMbInputRd
    rw [haddr]
  | some place =>
    cases place with
    | sys off => simp [haddr] at h
    | channel ch off =>
      rw [haddr] at h
      have hoff := (channel_of_addrDecode haddr).1
      have hgate := of_decide_eq_true h
      rw [← chInputSupported_guard hoff] at hgate
      rw [inputRd_channel haddr]
      show (toMb _).1 = _
      rw [toMb, readChInput_refused hrun hoff hgate]
      rfl

theorem guard_reserved {caps : UInt16} {off : Nat} (hlt : off < chBlockSize)
    (h : reservedOffset off) :
    holdingGuard caps off ∧ chHoldingSupported caps off := by
  constructor
  · have hcases : off = 18 ∨ off = 19 ∨ off = 29 ∨ 34 ≤ off := of_decide_eq_true h
    unfold holdingGuard
    split <;> first | rfl | omega
  · unfold chHoldingSupported
    rw [(chHoldingReg_reserved hlt).mpr h]
    exact decide_eq_true hlt

theorem catalog_writeOnly {off : Nat} {reg : VcReg} (hreg : chHoldingReg off = some reg)
    (hwo : reg.row.access = .wo) {caps : UInt16} (h : chHoldingSupported caps off) :
    vcCatalogSupported reg caps := by
  unfold chHoldingReg at hreg
  split at hreg <;> cases hreg <;> cases hwo
  · rfl
  · rfl
  · rfl
  · exact h
  · exact h

/-- A read of a register that the channel lacks. -/
theorem holdingShown_absent {b : Build} {chan : Option Channel} {ch : UInt8} {off : Nat}
    (hlt : off < chBlockSize) (h : b.maxChannels ≤ ch ∨ holdingGuard (capsOf chan) off = false) :
    holdingShown b chan ch off = .error .unsupported := by
  unfold holdingShown
  by_cases hgate : b.maxChannels ≤ ch ∨ !chHoldingSupported (capsOf chan) off
  · rw [if_pos hgate]
  obtain ⟨hch, hsupported⟩ := not_or.mp hgate
  replace hsupported : chHoldingSupported (capsOf chan) off := by simpa using hsupported
  have hguard := h.resolve_left hch
  rw [if_neg hgate]
  cases hreg : chHoldingReg off with
  | none =>
    rw [(guard_reserved hlt ((chHoldingReg_reserved hlt).mp hreg)).1] at hguard
    cases hguard
  | some reg =>
    rw [← holdingGuard_iff hreg, hsupported, Bool.true_and] at hguard
    have hwo : reg.row.access ≠ .wo := by
      intro hwo
      rw [catalog_writeOnly hreg hwo hsupported] at hguard
      cases hguard
    dsimp only
    unfold registerShown
    rw [if_neg hwo]
    cases chan with
    | none => rfl
    | some c =>
      have hguard : vcCatalogSupported reg c.capabilities = false := hguard
      simp [hguard]

theorem holdingRd_reserved (hrun : e.adm.running) {addr : UInt16}
    (h : reservedHolding bd.vc.toBuild addr) : (holdingRd bd e w addr).1 = .ok 0 := by
  unfold reservedHolding at h
  cases hext : isExtension addr with
  | true =>
    unfold holdingRd vcMbHoldingRd
    rw [hext]
    rfl
  | false =>
    rw [hext] at h
    cases haddr : addrDecode addr with
    | none => simp [haddr] at h
    | some place =>
      cases place with
      | sys off =>
        rw [haddr] at h
        obtain ⟨hlow, hne⟩ := of_decide_eq_true h
        unfold holdingRd vcMbHoldingRd vcRegReadSysHolding
        rw [hext, haddr]
        simp only [if_neg (Nat.not_le.mpr (off_lt haddr)), sysHoldingView_reserved hlow hne]
        rfl
      | channel ch off =>
        rw [haddr] at h
        obtain ⟨hch, hoff⟩ := of_decide_eq_true h
        have hlt := (channel_of_addrDecode haddr).1
        have hgate : ¬ (bd.vc.maxChannels ≤ ch ∨
            !chHoldingSupported (capsOf w.ctrl.channels[ch.toNat]?) off) := by
          simp [UInt8.not_le.mpr hch, (guard_reserved hlt hoff).2]
        rw [holdingRd_channel hrun haddr, holdingShown, if_neg hgate,
          (chHoldingReg_reserved hlt).mpr hoff]

theorem holdingRd_absent (hrun : e.adm.running) {addr : UInt16}
    (h : absentHolding bd.vc.toBuild w.ctrl addr) :
    (holdingRd bd e w addr).1 = .error .illegalAddress := by
  unfold absentHolding at h
  cases hext : isExtension addr with
  | true => simp [hext] at h
  | false =>
    rw [hext] at h
    cases haddr : addrDecode addr with
    | none =>
      unfold holdingRd vcMbHoldingRd
      rw [hext, haddr]
      rfl
    | some place =>
      cases place with
      | sys off => simp [haddr] at h
      | channel ch off =>
        rw [haddr] at h
        rw [holdingRd_channel hrun haddr,
          holdingShown_absent (channel_of_addrDecode haddr).1 (of_decide_eq_true h)]
        rfl

end Reads

/-! ## Writes -/

section Writes

variable {bd : Board} {e : Env} {w : World σ}

/-- What a rejected write should leave: the latch is no state of the board. -/
def Same (w' w : World σ) : Prop := w'.ctrl = w.ctrl ∧ w'.mb = w.mb

theorem holdingWritten_absent {ch : UInt8} {off : Nat} {val : UInt16} (hlt : off < chBlockSize)
    (h : bd.vc.maxChannels ≤ ch ∨ holdingGuard (capsOf w.ctrl.channels[ch.toNat]?) off = false) :
    holdingWritten bd e w.ctrl ch off val = (.unsupported, w.ctrl) := by
  unfold holdingWritten
  split
  · rfl
  next hgate =>
    obtain ⟨hch, hgate⟩ := not_or.mp hgate
    obtain ⟨hsupported, -⟩ := not_or.mp hgate
    replace hsupported : chHoldingSupported (capsOf w.ctrl.channels[ch.toNat]?) off := by
      simpa using hsupported
    have hguard := h.resolve_left hch
    cases hreg : chHoldingReg off with
    | none =>
      rw [(guard_reserved hlt ((chHoldingReg_reserved hlt).mp hreg)).1] at hguard
      cases hguard
    | some reg =>
      rw [← holdingGuard_iff hreg, hsupported, Bool.true_and] at hguard
      dsimp only
      unfold registerWritten
      cases hc : w.ctrl.channels[ch.toNat]? with
      | none => rfl
      | some c =>
        rw [hc] at hguard
        have hguard : vcCatalogSupported reg c.capabilities = false := hguard
        simp [hguard]

theorem holdingWr_absent (hrun : e.adm.running) {addr : UInt16}
    (h : absentHolding bd.vc.toBuild w.ctrl addr) (val : UInt16) :
    (holdingWr bd e w addr val).1 = .illegalAddress := by
  unfold absentHolding at h
  cases hext : isExtension addr with
  | true => simp [hext] at h
  | false =>
    rw [hext] at h
    cases haddr : addrDecode addr with
    | none =>
      unfold holdingWr
      rw [hext, haddr]
      rfl
    | some place =>
      cases place with
      | sys off => simp [haddr] at h
      | channel ch off =>
        rw [haddr] at h
        obtain ⟨latch, hwrite⟩ := holdingWr_channel bd w hrun haddr val
        rw [hwrite, holdingWritten_absent (channel_of_addrDecode haddr).1 (of_decide_eq_true h)]
        rfl

/-- A reserved register takes no value: the extension block answers as the map has it, the other
blocks answer that the value is wrong. -/
theorem holdingWr_reserved (hrun : e.adm.running) {addr : UInt16}
    (h : reservedHolding bd.vc.toBuild addr) (val : UInt16) :
    (holdingWr bd e w addr val).1 =
      if isExtension addr then .illegalAddress else .illegalValue := by
  unfold reservedHolding at h
  cases hext : isExtension addr with
  | true =>
    rw [hext] at h
    have hlow : 682 ≤ addr.toNat := of_decide_eq_true h
    have hwrite : holdingWr bd e w addr val = (.illegalAddress, w) := by
      unfold holdingWr MbServer.vcRegWriteExt
      rw [hext, if_pos rfl, if_neg (by omega), if_neg (by omega)]
      rfl
    rw [hwrite]
    rfl
  | false =>
    rw [hext] at h
    cases haddr : addrDecode addr with
    | none => simp [haddr] at h
    | some place =>
      cases place with
      | sys off =>
        rw [haddr] at h
        obtain ⟨hlow, hne⟩ := of_decide_eq_true h
        unfold holdingWr MbServer.vcRegWriteSysHolding
        rw [hext, haddr]
        simp only [if_neg hne, if_neg (Nat.not_le.mpr (off_lt haddr)),
          sysHoldingView_reserved hlow hne]
        rfl
      | channel ch off =>
        rw [haddr] at h
        obtain ⟨hch, hoff⟩ := of_decide_eq_true h
        have hlt := (channel_of_addrDecode haddr).1
        obtain ⟨latch, hwrite⟩ := holdingWr_channel bd w hrun haddr val
        have hsession : isChCalHoldingReg off = false := by
          have hcases : off = 18 ∨ off = 19 ∨ off = 29 ∨ 34 ≤ off := of_decide_eq_true hoff
          unfold isChCalHoldingReg
          grind
        have hgate : ¬ (bd.vc.maxChannels ≤ ch ∨
            !chHoldingSupported (capsOf w.ctrl.channels[ch.toNat]?) off ∨
            isChCalHoldingReg off ∧ w.ctrl.operatingMode.toValue ≠ calibrationMode) := by
          simp [UInt8.not_le.mpr hch, (guard_reserved hlt hoff).2, hsession]
        rw [hwrite, holdingWritten, if_neg hgate, (chHoldingReg_reserved hlt).mpr hoff]
        rfl

/-- Outside a session the session registers are not there. -/
theorem holdingWr_session (hrun : e.adm.running)
    (hmode : w.ctrl.operatingMode.toValue ≠ calibrationMode) {addr : UInt16}
    (h : sessionRegister addr) (val : UInt16) :
    (holdingWr bd e w addr val).1 = .illegalAddress := by
  unfold sessionRegister at h
  split at h
  next ch off haddr =>
    obtain ⟨latch, hwrite⟩ := holdingWr_channel bd w hrun haddr val
    rw [hwrite, holdingWritten, if_pos (.inr (.inr ⟨h, hmode⟩))]
    rfl
  · cases h

theorem calUnlock_refused {ctrl : Controller σ} {val : UInt16} (h : badExtValue ctrl 0 val) :
    vcStatusToReg (calibrationUnlock ctrl val).1 = .invalidValue := by
  obtain ⟨hstep1, hstep2⟩ := of_decide_eq_true h
  unfold calibrationUnlock
  rw [if_neg hstep1, if_neg (by rintro ⟨rfl, hone⟩; simp [hone] at hstep2)]
  rfl

theorem ownerWrite_running (hrun : e.adm.running) (reg : GlobalReg) (val : UInt16) :
    ownerWrite bd e w reg.descriptor val = serveBoard bd e w (globalRequest reg val) := by
  rw [ownerWrite_global, hrun]
  rfl

theorem regWrite_running (bd : Board) (w : World σ) (hrun : e.adm.running) (reg : GlobalReg)
    (h : reg.row.access ≠ .ro) (val : UInt16) :
    regWrite bd e w reg.descriptor val = serveBoard bd e w (globalRequest reg val) := by
  have haccess : reg.descriptor.access ≠ .ro := h
  unfold regWrite
  rw [if_neg haccess]
  exact ownerWrite_running hrun reg val

theorem writeExt_refused (hrun : e.adm.running) {off : Nat} {val : UInt16}
    (h : badExtValue w.ctrl off val) :
    (MbServer.vcRegWriteExt bd e w off val).1 = .invalidValue := by
  unfold badExtValue at h
  split at h
  · have hwrite := regWrite_running bd w hrun .calUnlock nofun val
    exact (congrArg Prod.fst hwrite).trans (serve_refused (calUnlock_refused h))
  · refine (congrArg Prod.fst (regWrite_running bd w hrun .calExit nofun val)).trans ?_
    show (serve bd.k e.adm w.ctrl
      (if val ≠ 1 then .answer .invalidValue else .submit .calExit)).1 = _
    split
    · rfl
    next hval =>
      have hmode := (of_decide_eq_true h).resolve_left hval
      refine serve_refused ?_
      show vcStatusToReg (calExit bd.k w.ctrl).1 = _
      unfold calExit
      rw [if_pos hmode]
      rfl
  · cases h

theorem nextBoot_refused {s : MbState} (h : s.created) (o : Outcomes) {field val : UInt16}
    {candidate : MbAdapterConfig} (hfield : nextBootCandidate field val s.adapter.bootCfg =
      some candidate) (hbad : adapterConfigValid candidate = false) :
    errnoToRegStatus (adapterWriteNextBootField o field val s).1 = .invalidValue := by
  unfold adapterWriteNextBootField
  rw [if_neg (by simp [h]), hfield]
  simp only [hbad]
  rfl

theorem setOperatingMode_unknown (k : Kconfig) (ctrl : Controller σ) {val : UInt16}
    (h : val > 2) : (setOperatingMode k ctrl (.ofValue val)).1 = .errInvalidValue := by
  rw [operatingMode_ofValue h]
  rfl

theorem systemParamAction_unknown (hrun : e.adm.running) {val : UInt16} (h : val > 3)
    (hreset : val ≠ paramActionSoftwareReset) :
    (paramAction bd e w val).1 = .illegalValue := by
  have hload : val ≠ paramActionLoad := by
    rintro rfl
    exact absurd h (by decide)
  have hfactory : val ≠ paramActionFactoryReset := by
    rintro rfl
    exact absurd h (by decide)
  unfold paramAction handleSysParamAction
  dsimp only
  rw [if_neg hreset, adapterParamAction_other hload hfactory, writeParamAction, hrun,
    paramAction_ofValue h]
  cases e.adm.admitted <;> rfl

theorem writeSys_refused (bd : Board) (hrun : e.adm.running) (hcreated : w.mb.created) {off : Nat}
    {val : UInt16}
    (hpolicy : off = 1 → e.adm.admitted → refusesMode w.ctrl w.ctrl.sysCfg.operatingMode)
    (h : badSysValue off val) :
    (if off = 39 then (paramAction bd e w val).1
      else regStToMbResult (MbServer.vcRegWriteSysHolding bd e w off val).1) = .illegalValue := by
  -- the two registers of the adapter
  have hnextBoot : ∀ (field : UInt16) {candidate : MbAdapterConfig},
      nextBootCandidate field val w.mb.adapter.bootCfg = some candidate →
      ¬ (1 ≤ candidate.slaveAddress ∧ candidate.slaveAddress ≤ 247 ∧
        candidate.baudRateCode ≤ baudRate38400) →
      regStToMbResult (errnoToRegStatus
        (adapterWriteNextBootField e.outcomes field val w.mb).1) = .illegalValue := by
    intro field candidate hfield hbad
    rw [nextBoot_refused hcreated e.outcomes hfield
      (Bool.eq_false_iff.mpr (mt (adapterConfigValid_iff candidate).mp hbad))]
    rfl
  unfold badSysValue at h
  split at h
  · have hwrite : MbServer.vcRegWriteSysHolding bd e w 0 val =
        ownerWrite bd e w GlobalReg.operatingMode.descriptor val := rfl
    have hst := setOperatingMode_unknown bd.k w.ctrl (of_decide_eq_true h)
    rw [if_neg (by decide), hwrite, ownerWrite_global, hrun]
    have hserve : (serve bd.k e.adm w.ctrl (.submit (.setOperatingMode (.ofValue val)))).1 =
        .invalidValue := serve_refused (congrArg vcStatusToReg hst)
    exact congrArg regStToMbResult hserve
  · have hwrite : MbServer.vcRegWriteSysHolding bd e w 1 val =
        serveBoard bd e w (globalRequest .startupChannelPolicy val) :=
      ownerWrite_running hrun .startupChannelPolicy val
    have hserve : (serve bd.k e.adm w.ctrl (globalRequest .startupChannelPolicy val)).1 =
        .invalidValue := by
      rw [policy_answer]
      refine if_neg fun htaken => ?_
      exact Bool.eq_false_iff.mp htaken.2 (hpolicy rfl htaken.1)
    rw [if_neg (by decide), hwrite]
    exact congrArg regStToMbResult hserve
  · rw [if_neg (by decide)]
    refine hnextBoot ModbusReg.nextBootSlaveAddress.row.field rfl ?_
    rintro ⟨hlow, hhigh, -⟩
    rcases of_decide_eq_true h with hbad | hbad
    · exact UInt16.not_lt.mpr hlow hbad
    · exact UInt16.not_lt.mpr hhigh hbad
  · rw [if_neg (by decide)]
    refine hnextBoot ModbusReg.nextBootBaudRateCode.row.field rfl ?_
    rintro ⟨-, -, hcode⟩
    exact UInt16.not_lt.mpr hcode (of_decide_eq_true h)
  · obtain ⟨hgt, hreset⟩ := of_decide_eq_true h
    exact systemParamAction_unknown hrun hgt hreset
  · cases h

/-- A write to a register that the channel has reaches the catalog. -/
theorem holdingWritten_present {ch : UInt8} {off : Nat} {reg : VcReg} {c : Channel} {val : UInt16}
    (hreg : chHoldingReg off = some reg) (hch : ch < bd.vc.maxChannels)
    (hc : w.ctrl.channels[ch.toNat]? = some c) (hguard : holdingGuard c.capabilities off)
    (hmode : isChCalHoldingReg off → w.ctrl.operatingMode = .calibration) :
    holdingWritten bd e w.ctrl ch off val =
      serve bd.k e.adm w.ctrl (channelRequest ch.toNat reg val) := by
  have hsession : ¬ (isChCalHoldingReg off ∧
      w.ctrl.operatingMode.toValue ≠ calibrationMode) := by
    rintro ⟨hoff, hne⟩
    rw [hmode hoff] at hne
    exact hne rfl
  have hboth := (holdingGuard_iff hreg c.capabilities).trans hguard
  obtain ⟨hsupported, hcatalog⟩ := Bool.and_eq_true_iff.mp hboth
  have hcaps : capsOf (some c) = c.capabilities := rfl
  unfold holdingWritten
  rw [hc, hcaps, hsupported, if_neg (by simp [UInt8.not_le.mpr hch, hsession]), hreg]
  dsimp only
  unfold registerWritten
  rw [hc]
  dsimp only
  rw [hcatalog]
  rfl

theorem reg_of_badChValue {k : Kconfig} {mode : OperatingMode} {c : Channel} {off : Nat}
    {val : UInt16} (h : badChValue k mode c off val) : ∃ reg, chHoldingReg off = some reg := by
  unfold badChValue at h
  split at h <;> first | exact ⟨_, rfl⟩ | cases h

theorem holdingWr_badValue (hrun : e.adm.running) (hcreated : w.mb.created) {addr val : UInt16}
    (hpresent : absentHolding bd.vc.toBuild w.ctrl addr = false)
    (hmode : sessionRegister addr → w.ctrl.operatingMode = .calibration)
    (htakes : e.adm.admitted → takesValue w.ctrl addr val = false)
    (h : badValue bd w.ctrl addr val) : (holdingWr bd e w addr val).1 = .illegalValue := by
  unfold badValue at h
  cases hext : isExtension addr with
  | true =>
    rw [hext, if_pos rfl] at h
    unfold holdingWr
    rw [hext, if_pos rfl, mbAnswer, writeExt_refused hrun h]
    rfl
  | false =>
    rw [hext, if_neg nofun] at h
    unfold takesValue at htakes
    cases haddr : addrDecode addr with
    | none => simp [haddr] at h
    | some place =>
      rw [haddr] at h htakes
      cases place with
      | sys off =>
        dsimp only at h htakes
        have hpolicy : off = 1 → e.adm.admitted →
            refusesMode w.ctrl w.ctrl.sysCfg.operatingMode := by
          intro hoff hadmitted
          have hnot := of_decide_eq_false (htakes hadmitted)
          simpa [hoff] using hnot
        have hsys := writeSys_refused bd hrun hcreated hpolicy h
        unfold holdingWr
        rw [hext, haddr, if_neg nofun]
        dsimp only
        split
        next h39 => rwa [if_pos h39] at hsys
        next h39 => rwa [if_neg h39] at hsys
      | channel ch off =>
        unfold absentHolding at hpresent
        rw [hext, haddr] at hpresent
        obtain ⟨hch, hguard⟩ := not_or.mp (of_decide_eq_false hpresent)
        rw [Bool.not_eq_false] at hguard
        obtain ⟨c, hc, hbad⟩ := (Option.any_eq_true _ _).mp h
        rw [hc] at hguard
        obtain ⟨latch, hwrite⟩ := holdingWr_channel bd w hrun haddr val
        have hsession : isChCalHoldingReg off → w.ctrl.operatingMode = .calibration := by
          intro hoff
          refine hmode ?_
          unfold sessionRegister
          rw [haddr]
          exact hoff
        obtain ⟨reg, hreg⟩ := reg_of_badChValue hbad
        have hst := badChValue_refused hc hreg hguard e.adm hsession htakes hbad
        rw [hwrite, mbAnswer, World.served,
          holdingWritten_present hreg (UInt8.not_le.mp hch) hc hguard hsession, hst]
        rfl

theorem addrDecode_extension {addr : UInt16} (h : isExtension addr) : addrDecode addr = none := by
  obtain ⟨hlow, -⟩ := of_decide_eq_true h
  unfold addrDecode chBlockSize
  rw [if_neg (by omega), if_neg (by omega)]

theorem session_of_takes {mode : OperatingMode} {off : Nat} {val : UInt16}
    (h : takesChValue mode off val) : isChCalHoldingReg off = false := by
  unfold takesChValue at h
  split at h <;> first | rfl | cases h

/-- A bad value that a register takes is not refused as a value. -/
theorem holdingWr_takesValue (hrun : e.adm.running) (hadmitted : e.adm.admitted)
    {addr val : UInt16} (hpresent : absentHolding bd.vc.toBuild w.ctrl addr = false)
    (htakes : takesValue w.ctrl addr val) (h : badValue bd w.ctrl addr val) :
    (holdingWr bd e w addr val).1 ≠ .illegalValue := by
  unfold takesValue at htakes
  cases hext : isExtension addr with
  | true => simp [addrDecode_extension hext] at htakes
  | false =>
    cases haddr : addrDecode addr with
    | none => simp [haddr] at htakes
    | some place =>
      rw [haddr] at htakes
      cases place with
      | sys off =>
        obtain ⟨rfl, hmode⟩ := of_decide_eq_true htakes
        have hwrite : MbServer.vcRegWriteSysHolding bd e w 1 val =
            serveBoard bd e w (globalRequest .startupChannelPolicy val) :=
          ownerWrite_running hrun .startupChannelPolicy val
        have hserve : (serveBoard bd e w (globalRequest .startupChannelPolicy val)).1 = .ok :=
          (policy_answer bd.k e.adm w.ctrl val).trans (if_pos ⟨hadmitted, hmode⟩)
        unfold holdingWr
        rw [hext, haddr, if_neg nofun]
        dsimp only
        rw [if_neg (by decide), hwrite, mbAnswer, hserve]
        exact nofun
      | channel ch off =>
        unfold absentHolding at hpresent
        unfold badValue at h
        rw [hext, haddr] at hpresent
        rw [hext, if_neg nofun, haddr] at h
        obtain ⟨hch, hguard⟩ := not_or.mp (of_decide_eq_false hpresent)
        rw [Bool.not_eq_false] at hguard
        obtain ⟨c, hc, hbad⟩ := (Option.any_eq_true _ _).mp h
        rw [hc] at hguard
        obtain ⟨reg, hreg⟩ := reg_of_badChValue hbad
        have hsession : isChCalHoldingReg off → w.ctrl.operatingMode = .calibration :=
          fun hoff => absurd hoff (Bool.eq_false_iff.mp (session_of_takes htakes))
        obtain ⟨latch, hwrite⟩ := holdingWr_channel bd w hrun haddr val
        rw [hwrite, mbAnswer, World.served,
          holdingWritten_present hreg (UInt8.not_le.mp hch) hc hguard hsession]
        exact takesChValue_taken hc hreg hadmitted htakes

end Writes

end AddressMap
