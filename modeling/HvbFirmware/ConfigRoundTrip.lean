import HvbFirmware.HostConfig

/-!
# Settings from the host to the board and back

The writes of `PsbBoardSession` to the settings of a channel, in any number and order, and then a
read of the channel. What the host reads is what its writes have made of the settings: a write that
is acknowledged is in them as a whole, one that is not may have got as far as some register.
-/
namespace ConfigRoundTrip

open VcTypes ModbusRegister PsbBoardSession HostSession Interaction Program BoardLine RegisterFile
open HostConfig SerialBus ReadBack
open MbServer (Board boardHvb envWith)
open VcController (dacNode)

/-! ## The writes -/

def writeSettings (ch : Int) (off : UInt16) (values : List UInt16) : SessionProgram Bool :=
  ask (SessionCall.writeRegsInternal (chAddr ch off) values normalTimeout)

def writeOutputEnabled (ch : Int) (enabled : Bool) : SessionProgram Bool :=
  writeSettings ch 17 [if enabled then 1 else 0]

def writeRampUp (ch : Int) (stepRaw interval : UInt16) : SessionProgram Bool :=
  writeSettings ch 4 [stepRaw, interval]

def writeRampDown (ch : Int) (stepRaw interval : UInt16) : SessionProgram Bool :=
  writeSettings ch 6 [stepRaw, interval]

def writeChannelRecovery (ch : Int) (policy : RecoveryPolicyMode) (delay max window : Int) :
    SessionProgram Bool :=
  writeSettings ch 8 [policy.toValue, UInt16.ofInt delay, UInt16.ofInt max, UInt16.ofInt window]

def writeChannelSafeBand (ch : Int) (pct : UInt16) : SessionProgram Bool :=
  writeSettings ch 12 [pct]

inductive ActionContext where
  | host | protection
  deriving DecidableEq

def isValidOutputAction (action : OutputAction) (ctx : ActionContext) : Bool :=
  match action with
  | .none | .disableGraceful | .disableImmediate => true
  | .enable => ctx = .host
  | .disableForce => ctx = .protection
  | .other _ => false

/-- An action that protection does not know is not sent. -/
def writeCurrentProtection (ch : Int) (mode : ProtectionMode) (action : OutputAction)
    (thresholdRaw : Int16) : SessionProgram Bool :=
  if !isValidOutputAction action .protection then return false
  else writeSettings ch 13 [mode.toValue, action.toValue, thresholdRaw.toUInt16]

def writeDerateStep (ch : Int) (stepRaw : UInt16) : SessionProgram Bool :=
  writeSettings ch 16 [stepRaw]

def writeCalibrationOutput (ch : Int) (k : UInt16) (b : Int16) : SessionProgram Bool :=
  writeSettings ch 20 [k, b.toUInt16]

def writeCalibrationMeasV (ch : Int) (k : UInt16) (b : Int16) : SessionProgram Bool :=
  writeSettings ch 22 [k, b.toUInt16]

def writeCalibrationMeasI (ch : Int) (k : UInt16) (b : Int16) : SessionProgram Bool :=
  writeSettings ch 24 [k, b.toUInt16]

def writeCalibrationOutputExp (ch : Int) (exp : Int16) : SessionProgram Bool :=
  writeSettings ch 26 [exp.toUInt16]

def writeCalibrationMeasVExp (ch : Int) (exp : Int16) : SessionProgram Bool :=
  writeSettings ch 27 [exp.toUInt16]

def writeCalibrationMeasIExp (ch : Int) (exp : Int16) : SessionProgram Bool :=
  writeSettings ch 28 [exp.toUInt16]

inductive HostWrite where
  | configuredTargetVoltage (raw : Int16)
  | outputEnabled (enabled : Bool)
  | rampUp (stepRaw interval : UInt16)
  | rampDown (stepRaw interval : UInt16)
  | channelRecovery (policy : RecoveryPolicyMode) (delay max window : Int)
  | channelSafeBand (pct : UInt16)
  | currentProtection (mode : ProtectionMode) (action : OutputAction) (thresholdRaw : Int16)
  | derateStep (stepRaw : UInt16)
  | calibrationOutput (k : UInt16) (b : Int16)
  | calibrationMeasV (k : UInt16) (b : Int16)
  | calibrationMeasI (k : UInt16) (b : Int16)
  | calibrationOutputExp (exp : Int16)
  | calibrationMeasVExp (exp : Int16)
  | calibrationMeasIExp (exp : Int16)

def HostWrite.program (w : HostWrite) (ch : Int) : SessionProgram Bool :=
  match w with
  | .configuredTargetVoltage raw => writeConfiguredTargetVoltage ch raw
  | .outputEnabled enabled => writeOutputEnabled ch enabled
  | .rampUp stepRaw interval => writeRampUp ch stepRaw interval
  | .rampDown stepRaw interval => writeRampDown ch stepRaw interval
  | .channelRecovery policy delay max window => writeChannelRecovery ch policy delay max window
  | .channelSafeBand pct => writeChannelSafeBand ch pct
  | .currentProtection mode action thresholdRaw =>
    writeCurrentProtection ch mode action thresholdRaw
  | .derateStep stepRaw => writeDerateStep ch stepRaw
  | .calibrationOutput k b => writeCalibrationOutput ch k b
  | .calibrationMeasV k b => writeCalibrationMeasV ch k b
  | .calibrationMeasI k b => writeCalibrationMeasI ch k b
  | .calibrationOutputExp exp => writeCalibrationOutputExp ch exp
  | .calibrationMeasVExp exp => writeCalibrationMeasVExp ch exp
  | .calibrationMeasIExp exp => writeCalibrationMeasIExp ch exp

/-! ## What they make of the settings -/

/-- The first register of a write and the values from there on. -/
def HostWrite.registers : HostWrite → Nat × List UInt16
  | .configuredTargetVoltage raw => (3, [raw.toUInt16])
  | .outputEnabled enabled => (17, [if enabled then 1 else 0])
  | .rampUp stepRaw interval => (4, [stepRaw, interval])
  | .rampDown stepRaw interval => (6, [stepRaw, interval])
  | .channelRecovery policy delay max window =>
    (8, [policy.toValue, UInt16.ofInt delay, UInt16.ofInt max, UInt16.ofInt window])
  | .channelSafeBand pct => (12, [pct])
  | .currentProtection mode action thresholdRaw =>
    (13, [mode.toValue, action.toValue, thresholdRaw.toUInt16])
  | .derateStep stepRaw => (16, [stepRaw])
  | .calibrationOutput k b => (20, [k, b.toUInt16])
  | .calibrationMeasV k b => (22, [k, b.toUInt16])
  | .calibrationMeasI k b => (24, [k, b.toUInt16])
  | .calibrationOutputExp exp => (26, [exp.toUInt16])
  | .calibrationMeasVExp exp => (27, [exp.toUInt16])
  | .calibrationMeasIExp exp => (28, [exp.toUInt16])

def writeWord (off : Nat) (value : UInt16) (b : Bank) : Bank :=
  ((settingAt off).map (b.write · value)).getD b

/-- The channel with the values in the settings from an offset on. -/
def writeFrom : (off : Nat) → List UInt16 → Bank → Bank
  | _, [], b => b
  | off, value :: values, b => writeFrom (off + 1) values (writeWord off value b)

/-- A write that is acknowledged is done, and one that is not is done up to some register. -/
def Done (w : UInt8 × HostWrite) (bs : List Bank) (ok : Bool) (bs' : List Bank) : Prop :=
  ∃ front, front <+: w.2.registers.2 ∧ (ok → front = w.2.registers.2) ∧
    bs' = bs.modify w.1.toNat (writeFrom w.2.registers.1 front)

variable {σ : Type} {sch : Schedule} {wire : Wire σ sch} {slaveId : Int} {bd : Board} {ch : UInt8}

/-- The registers of a channel by the address that a write starts from. -/
theorem decode_next (hch : ch.toNat < 16) {off n : Nat} (h : isConfigOff (off + n)) :
    addrDecode (chAddr ch.toNat (UInt16.ofNat off) + UInt16.ofNat n) =
      some (.channel ch (off + n)) := by
  have hlt : off + n < chBlockSize := lt_of_isSettingOff (by simp [isSettingOff, h])
  have hoff : (UInt16.ofNat off).toNat = off :=
    UInt16.toNat_ofNat_of_lt' (by unfold chBlockSize at hlt; simp [UInt16.size]; omega)
  have hdecode := addrDecode_chAddr hch (UInt16.ofNat off) n
  rw [hoff] at hdecode
  exact hdecode hlt

theorem moved_settings (hch : ch.toNat < 16) {off : Nat} {values : List UInt16}
    (hoff : ∀ i < values.length, isConfigOff (off + i)) (bs : List Bank) :
    moved writeBanks (chAddr ch.toNat (UInt16.ofNat off)) values bs =
      bs.modify ch.toNat (writeFrom off values) := by
  induction values generalizing off bs with
  | nil => exact (List.modify_id ..).symm
  | cons value values ih =>
    have hfirst := decode_next hch (hoff 0 (Nat.zero_lt_succ _))
    have hword : writeBanks (chAddr ch.toNat (UInt16.ofNat off)) value bs =
        bs.modify ch.toNat (writeWord off value) := by
      have haddr : chAddr ch.toNat (UInt16.ofNat off) + UInt16.ofNat 0 =
          chAddr ch.toNat (UInt16.ofNat off) := UInt16.add_zero _
      rw [haddr, Nat.add_zero] at hfirst
      simp only [writeBanks, hfirst]
      unfold writeWord
      cases settingAt off with
      | none => exact (List.modify_id ..).symm
      | some s => rfl
    have hnext : chAddr ch.toNat (UInt16.ofNat off) + 1 =
        chAddr ch.toNat (UInt16.ofNat (off + 1)) := by
      simp only [chAddr, UInt16.ofNat_add, UInt16.add_assoc]
      rfl
    have hrest : ∀ i < values.length, isConfigOff (off + 1 + i) := by
      intro i hi
      have h := hoff (i + 1) (Nat.succ_lt_succ hi)
      rwa [Nat.add_comm i, ← Nat.add_assoc] at h
    rw [moved, hword, hnext, ih hrest, List.modify_modify_eq]
    rfl

theorem registers_settings (w : HostWrite) :
    ∀ i < w.registers.2.length, isConfigOff (w.registers.1 + i) := by
  intro i hi
  refine decide_eq_true ?_
  cases w <;> simp only [HostWrite.registers, List.length_cons, List.length_nil] at hi ⊢ <;> omega

theorem program_registers (w : HostWrite) (ch : Int) :
    w.program ch = ask (SessionCall.writeRegsInternal (chAddr ch (UInt16.ofNat w.registers.1))
      w.registers.2 normalTimeout) ∨ w.program ch = Program.ret false := by
  cases w
  case currentProtection mode action thresholdRaw =>
    cases hvalid : isValidOutputAction action .protection with
    | true =>
      left
      simp only [HostWrite.program, writeCurrentProtection, hvalid]
      rfl
    | false =>
      right
      simp only [HostWrite.program, writeCurrentProtection, hvalid]
      rfl
  all_goals exact .inl rfl

/-- The board of the session has these settings. -/
def Stores (slaveId : Int) (bd : Board) (bs : List Bank) : Session (WholeBus (Line σ)) → Prop :=
  OnPort slaveId fun _ => At (UInt8.ofInt slaveId) (Holds bd bs)

theorem Stores.hears (sch : Schedule) {bs : List Bank} {s : Session (WholeBus (Line σ))}
    (hs : Stores slaveId bd bs s) : Hears sch slaveId s.errorText (Holds bd bs) s := by
  obtain ⟨hslave, bus, line, hbus, hconnected, htest, hport, hat⟩ := hs
  exact ⟨hslave, bus, line, hbus, hconnected, htest, hport, hat, fun _ => rfl⟩

theorem triple_program (w : UInt8 × HostWrite) (hch : w.1 < bd.vc.maxChannels) (bs : List Bank) :
    Triple (lineAnswer wire) (Stores (σ := σ) slaveId bd bs) (w.2.program w.1.toNat)
      fun ok s => ∃ bs', Done w bs ok bs' ∧ Stores slaveId bd bs' s := by
  have hlt := lt_sixteen hch
  have hoffs := registers_settings w.2
  rcases program_registers w.2 w.1.toNat with hprogram | hprogram
  · rw [hprogram]
    have haddrs : ∀ i < w.2.registers.2.length,
        isSettingAddr (chAddr w.1.toNat (UInt16.ofNat w.2.registers.1) + UInt16.ofNat i) :=
      fun i hi => ⟨w.1, _, decode_next hlt (hoffs i hi), hoffs i hi⟩
    refine (triple_hears_write (takes_settings bd) haddrs bs).mono (fun _ hs => hs) ?_
    rintro ok s ⟨k, hs, hall⟩
    have hfront : ∀ i < (w.2.registers.2.take k).length, isConfigOff (w.2.registers.1 + i) :=
      fun i hi => hoffs i (Nat.lt_of_lt_of_le hi (List.length_take_le' k _))
    rw [moved_settings hlt hfront] at hs
    exact ⟨_, ⟨_, List.take_prefix k _, fun hok => List.take_of_length_le (hall hok), rfl⟩, hs⟩
  · rw [hprogram]
    refine triple_ret fun s hs => ⟨bs, ⟨[], List.nil_prefix, nofun, ?_⟩, hs⟩
    exact (List.modify_id ..).symm

/-! ## The round trip -/

/-- The writes in their order, and then the two reads of a channel. -/
def configureThenRead (writes : List (UInt8 × HostWrite)) (ch : Int) (caps : UInt16) :
    SessionProgram (List Bool × HostConfig.ChannelConfig × HostConfig.ChannelCalConfig) := do
  let oks ← runAll (writes.map fun w => w.2.program w.1.toNat)
  let config ← readChannelConfig ch caps {}
  let cal ← readChannelCalConfig ch caps {}
  return (oks, config, cal)

theorem capabilities_writeFrom (off : Nat) (values : List UInt16) (b : Bank) :
    (writeFrom off values b).capabilities = b.capabilities := by
  induction values generalizing off b with
  | nil => rfl
  | cons value values ih =>
    refine (ih (off + 1) _).trans ?_
    unfold writeWord
    cases settingAt off <;> rfl

/-- The channels stay, with their capabilities. -/
theorem channel_follows {writes : List (UInt8 × HostWrite)} {bs bs' : List Bank} {oks : List Bool}
    (h : Follows Done bs writes oks bs') {i : Nat} {b : Bank} (hb : bs[i]? = some b) :
    ∃ b', bs'[i]? = some b' ∧ b'.capabilities = b.capabilities := by
  induction h generalizing b with
  | nil => exact ⟨b, hb, rfl⟩
  | cons hmove _ ih =>
    obtain ⟨front, -, -, rfl⟩ := hmove
    rename_i w _ _ _ _
    by_cases hi : w.1.toNat = i
    · obtain ⟨b', hb', hcaps⟩ := ih (b := writeFrom w.2.registers.1 front b)
        (by rw [List.getElem?_modify, hb]; simp [hi])
      exact ⟨b', hb', hcaps.trans (capabilities_writeFrom ..)⟩
    · exact ih (by rw [List.getElem?_modify, hb]; simp [hi])

/-- Every run of writes and reads of a channel, whatever the boards do meanwhile and whatever is
lost: the writes move the settings of the board one after another, an acknowledged one as a whole,
and the reads bring the settings that they have made. -/
theorem configureThenRead_roundTrip (writes : List (UInt8 × HostWrite))
    (hwrites : ∀ w ∈ writes, w.1 < bd.vc.maxChannels) (hch : ch < bd.vc.maxChannels)
    {bs : List Bank} {b : Bank} (hb : bs[ch.toNat]? = some b) {caps : UInt16}
    (hcaps : caps = 0 ∨ caps = b.capabilities) :
    Triple (lineAnswer wire) (Stores (σ := σ) slaveId bd bs)
      (configureThenRead writes ch.toNat caps)
      fun r s => ∃ bs' b', Follows Done bs writes r.1 bs' ∧ bs'[ch.toNat]? = some b' ∧
        Copied sch b' (configBlocks b'.capabilities) {} r.2.1 ∧
        Copied sch b' (calBlocks b'.capabilities) {} r.2.2 ∧ Stores slaveId bd bs' s := by
  refine triple_bind (triple_runAll writes
    (fun w hw bs => triple_program w (hwrites w hw) bs) bs) fun oks => triple_exists fun bs' => ?_
  rintro s ⟨hfollows, hstores⟩
  obtain ⟨b', hb', hcaps'⟩ := channel_follows hfollows hb
  rw [← hcaps'] at hcaps
  obtain ⟨hconfig, hhears⟩ := readChannelConfig_settings hch hb' hcaps {} s (hstores.hears sch)
  rw [exec_bind]
  dsimp only
  generalize exec (lineAnswer wire) (readChannelConfig ch.toNat caps {}) s = r at hconfig hhears ⊢
  obtain ⟨hcal, hhears'⟩ := readChannelCalConfig_settings hch hb' hcaps {} r.2.2 hhears
  rw [exec_bind]
  have hstores' := OnPort.imp (fun _ _ hline => hline.1) hhears'
  exact ⟨bs', b', hfollows, hb', hconfig, hcal, hstores'⟩

/-- Two writes, the reply to the second register of the ramp lost: the ramp is reported as failed
and has been written all the same, as the reads show. -/
theorem configureThenRead_roundTrip_hvb :
    let sch : Schedule := ⟨fun _ => ⟨[.tick 100], envWith true, rfl⟩,
      fun n => if n = 2 then .replyLost else .served, fun _ => "timeout"⟩
    let c := channelAfter dacNode []
    let writes : List (UInt8 × HostWrite) :=
      [(0, .rampUp 10 20), (0, .configuredTargetVoltage 300)]
    let r := exec (lineAnswer (.plain sch)) (configureThenRead writes (0 : UInt8).toNat 0)
      (opened 1 (single (stationOf boardHvb [c])))
    (∃ bs' b', Follows Done [bank c] writes r.1.1 bs' ∧ bs'[(0 : UInt8).toNat]? = some b' ∧
      Copied sch b' (configBlocks b'.capabilities) {} r.1.2.1 ∧
      Copied sch b' (calBlocks b'.capabilities) {} r.1.2.2 ∧ Stores 1 boardHvb bs' r.2.2) ∧
    r.1.1 = [false, true] ∧ r.1.2.1.rampUpStepRaw = 10 ∧ r.1.2.1.rampUpInterval = 20 ∧
      r.1.2.1.configuredTargetVRaw = 300 :=
  ⟨configureThenRead_roundTrip _ (by decide) (by decide) rfl (.inl rfl) _
    (onPort_opened (at_single ⟨rfl, rfl⟩)), by decide +kernel⟩

end ConfigRoundTrip
