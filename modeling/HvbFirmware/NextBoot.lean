import HvbFirmware.BoardLine
import HvbFirmware.CNumber
import HvbFirmware.CommConfig
import HvbFirmware.ReadBack

/-!
# The address of the next boot, set by a host

The terminal client writes the slave address and the baud rate of a board with one request each, and
only what it takes for changed. The board goes on answering under its old address until it is
started again; then it answers under what was saved.
-/
namespace NextBoot

open VcTypes VcController RegCatalog ModbusRegister MbAdapter CommConfig MbServer PsbBoardSession
  HostSession SerialBus BoardLine Interaction Program
open CNumber (isDigit valueOf)
open ReadBack (regStToMbResult_eq_ok)

variable {σ : Type}

/-! ## The session and the dialog -/

structure SystemConfig where
  operatingMode : OperatingMode := .normal
  startupChannelPolicy : UInt16 := 0
  slaveAddr : UInt16 := 1
  baudRateCode : UInt16 := 0
  deriving DecidableEq, Repr

def readSystemConfig : SessionProgram SystemConfig := do
  if !(← ask SessionCall.checkConnected) then
    return {}
  else
    match ← readHoldingRegs (sysAddr 0) 4 with
    | none => return {}
    | some buf => return {
        operatingMode := .ofValue (buf.get 0)
        startupChannelPolicy := buf.get 1
        slaveAddr := buf.get 2
        baudRateCode := buf.get 3 }

def writeSlaveAddress (a : UInt16) : SessionProgram Bool := writeReg16 (sysAddr 2) a

def writeBaudRateCode (c : UInt16) : SessionProgram Bool := writeReg16 (sysAddr 3) c

inductive ModbusSettingsSaveResult where
  | success | invalidSlave | invalidBaud | slaveWriteFailed | baudWriteFailed
  deriving DecidableEq, Repr

/-- `parse_modbus_slave_address`: `std::from_chars` converts the digits that the text starts with,
if they fit into 16 bits, and has to reach the end. -/
def parseModbusSlaveAddress (text : List Char) : Option UInt16 :=
  let ds := text.takeWhile (isDigit 10)
  if ds = [] ∨ 65535 < valueOf 10 ds ∨ text.dropWhile (isDigit 10) ≠ [] then none
  else
    let parsed := UInt16.ofNat (valueOf 10 ds)
    if parsed < 1 ∨ parsed > 247 then none else some parsed

/-- A write that is only made if it is needed; nothing has failed without it. -/
def writeIf (needed : Bool) (write : SessionProgram Bool) : SessionProgram Bool :=
  if needed then write else return true

/-- `save_modbus_settings`; what is equal to the current configuration is not written. -/
def saveModbusSettings (slaveText : List Char) (baudCode : Int) (current : SystemConfig) :
    SessionProgram ModbusSettingsSaveResult := do
  match parseModbusSlaveAddress slaveText with
  | none => return .invalidSlave
  | some slaveAddress =>
    if baudCode < 0 ∨ baudCode > 1 then return .invalidBaud
    else
      let slaveWritten ←
        writeIf (slaveAddress ≠ current.slaveAddr) (writeSlaveAddress slaveAddress)
      if !slaveWritten then return .slaveWriteFailed
      else
        let code := UInt16.ofInt baudCode
        let baudWritten ← writeIf (code ≠ current.baudRateCode) (writeBaudRateCode code)
        if !baudWritten then return .baudWriteFailed else return .success

/-- What is accepted is a decimal numeral of 1 to 247. -/
theorem parseModbusSlaveAddress_eq_some {text : List Char} {a : UInt16} :
    parseModbusSlaveAddress text = some a ↔ text ≠ [] ∧ (∀ c ∈ text, isDigit 10 c) ∧
      1 ≤ a ∧ a ≤ 247 ∧ valueOf 10 text = a.toNat := by
  have hall : text.dropWhile (isDigit 10) = [] ↔ ∀ c ∈ text, isDigit 10 c :=
    List.dropWhile_eq_nil_iff
  have htake : (∀ c ∈ text, isDigit 10 c) → text.takeWhile (isDigit 10) = text :=
    List.takeWhile_eq_self_iff.mpr
  unfold parseModbusSlaveAddress
  dsimp only
  constructor
  · intro h
    split at h
    · cases h
    next hok =>
    simp only [not_or, Decidable.not_not, hall, Nat.not_lt] at hok
    obtain ⟨hne, hvalue, hdigits⟩ := hok
    rw [htake hdigits] at hne hvalue h
    split at h
    · cases h
    next hrange =>
    rw [not_or, UInt16.not_lt, UInt16.not_lt] at hrange
    obtain rfl := Option.some.inj h
    have hlt : valueOf 10 text < UInt16.size := Nat.lt_succ_of_le hvalue
    exact ⟨hne, hdigits, hrange.1, hrange.2, (UInt16.toNat_ofNat_of_lt' hlt).symm⟩
  · rintro ⟨hne, hdigits, hlow, hhigh, hvalue⟩
    have hlt := a.toNat_lt
    rw [htake hdigits, if_neg, hvalue, UInt16.ofNat_toNat, if_neg]
    · rw [not_or, UInt16.not_lt, UInt16.not_lt]
      exact ⟨hlow, hhigh⟩
    · simp only [not_or, Decidable.not_not, hall]
      exact ⟨hne, by omega, hdigits⟩

/-! ## The adapter on the line -/

/-- An adapter that serves with one configuration and has another for its next boot. -/
structure Configured (serving : MbState) (cfg : MbAdapterConfig) (mb : MbState) : Prop where
  intact : Intact mb
  boot : mb.adapter.bootCfg = cfg
  active : mb.adapter.activeCfg = serving.adapter.activeCfg
  server : mb.server = serving.server

def Serves (bd : Board) (serving : MbState) (cfg : MbAdapterConfig) (st : Station σ) : Prop :=
  st.bd = bd ∧ Configured serving cfg st.world.mb

/-- The configuration after a write of one of the two registers. -/
def writeField (addr value : UInt16) (cfg : MbAdapterConfig) : MbAdapterConfig :=
  if addr = 2 then { cfg with slaveAddress := value } else { cfg with baudRateCode := value }

def isNextBootAddr (addr : UInt16) : Prop := addr = 2 ∨ addr = 3

theorem holdingWr_nextBoot (bd : Board) (e : Env) (w : World σ) {addr : UInt16}
    (haddr : isNextBootAddr addr) (value : UInt16) :
    ∃ field, nextBootCandidate field value w.mb.adapter.bootCfg =
        some (writeField addr value w.mb.adapter.bootCfg) ∧
      holdingWr bd e w addr value =
        let r := adapterWriteNextBootField e.outcomes field value w.mb
        (regStToMbResult (errnoToRegStatus r.1), { w with mb := r.2 }) := by
  rcases haddr with rfl | rfl
  · exact ⟨ModbusReg.nextBootSlaveAddress.row.field, rfl, rfl⟩
  · exact ⟨ModbusReg.nextBootBaudRateCode.row.field, rfl, rfl⟩

/-- A write is saved and copied, or leaves everything. -/
theorem writeNextBootField_cases (o : Outcomes) {field value : UInt16} {s : MbState}
    {candidate : MbAdapterConfig} (hcreated : s.created)
    (hcandidate : nextBootCandidate field value s.adapter.bootCfg = some candidate) :
    let r := adapterWriteNextBootField o field value s
    (r.1 = .ok () ∧ adapterConfigValid candidate ∧
        r.2 = { s with stored := some candidate, adapter.bootCfg := candidate }) ∨
      (r.1 ≠ .ok () ∧ r.2 = s) := by
  unfold adapterWriteNextBootField
  rw [if_neg (by simp [hcreated]), hcandidate]
  dsimp only
  by_cases hvalid : adapterConfigValid candidate
  · rw [if_neg (by simp [hvalid])]
    rcases save_cases o candidate s with ⟨e, hsave⟩ | hsave <;> rw [hsave]
    · exact .inr ⟨nofun, rfl⟩
    · exact .inl ⟨rfl, hvalid, rfl⟩
  · rw [if_pos (by simpa using hvalid)]
    exact .inr ⟨nofun, rfl⟩

theorem errnoToRegStatus_eq_ok {r : Ret} : errnoToRegStatus r = .ok ↔ r = .ok () := by
  cases r with
  | ok => exact ⟨fun _ => rfl, fun _ => rfl⟩
  | error e => cases e <;> exact ⟨nofun, nofun⟩

theorem takes_nextBoot (bd : Board) (serving : MbState) :
    Takes (Serves (σ := σ) bd serving) writeField isNextBootAddr := by
  rintro addr value cfg st m haddr ⟨rfl, hintact, rfl, hactive, hserver⟩ r
  obtain ⟨field, hcandidate, hwrite⟩ :=
    holdingWr_nextBoot st.bd m.env (st.settle m) haddr value
  have hcases := writeNextBootField_cases (s := (st.settle m).mb) m.env.outcomes hintact.created
    hcandidate
  dsimp only at hwrite hcases
  generalize adapterWriteNextBootField m.env.outcomes field value (st.settle m).mb = p
    at hwrite hcases
  have hst : r.1 = regStToMbResult (errnoToRegStatus p.1) := congrArg Prod.fst hwrite
  have hmb : r.2.world.mb = p.2 := congrArg (fun q : MbResult × World σ => q.2.mb) hwrite
  rcases hcases with ⟨hok, hvalid, hnew⟩ | ⟨hrefused, hsame⟩
  · refine .inl ⟨by rw [hst, hok]; rfl, rfl, ?_⟩
    rw [hmb, hnew]
    exact ⟨⟨hintact.created, hintact.active, hvalid, rfl⟩, rfl, hactive, hserver⟩
  · refine .inr ⟨fun hok => hrefused ?_, rfl, ?_⟩
    · exact errnoToRegStatus_eq_ok.mp (regStToMbResult_eq_ok.mp (hst.symm.trans hok))
    · rw [hmb, hsame]
      exact ⟨hintact, rfl, hactive, hserver⟩

/-! ## The dialog -/

/-- The configuration that the dialog asks for: what is equal to the known one stays as it is. -/
def edited (current : SystemConfig) (slaveAddress code : UInt16) (cfg : MbAdapterConfig) :
    MbAdapterConfig where
  slaveAddress := if slaveAddress ≠ current.slaveAddr then slaveAddress else cfg.slaveAddress
  baudRateCode := if code ≠ current.baudRateCode then code else cfg.baudRateCode

/-- After the first of the two writes. -/
theorem edited_slave (current : SystemConfig) (slaveAddress code : UInt16) (cfg : MbAdapterConfig) :
    (if decide (slaveAddress ≠ current.slaveAddr) then writeField 2 slaveAddress cfg else cfg) =
      { edited current slaveAddress code cfg with baudRateCode := cfg.baudRateCode } := by
  by_cases h : slaveAddress = current.slaveAddr <;> simp [edited, writeField, h]

theorem edited_baud (current : SystemConfig) (slaveAddress code : UInt16) (cfg : MbAdapterConfig) :
    (if decide (code ≠ current.baudRateCode) then
        writeField 3 code
          (if decide (slaveAddress ≠ current.slaveAddr) then writeField 2 slaveAddress cfg else cfg)
      else if decide (slaveAddress ≠ current.slaveAddr) then writeField 2 slaveAddress cfg
      else cfg) = edited current slaveAddress code cfg := by
  rw [edited_slave current slaveAddress code]
  by_cases h : code = current.baudRateCode <;> simp [edited, writeField, h]

/-- What may have become of the next boot, by what the dialog reports. A write that is reported as
failed may have been done. -/
inductive Saved (slaveText : List Char) (baudCode : Int) (current : SystemConfig)
    (cfg : MbAdapterConfig) : ModbusSettingsSaveResult → MbAdapterConfig → Prop where
  | invalidSlave (hparse : parseModbusSlaveAddress slaveText = none) :
      Saved slaveText baudCode current cfg .invalidSlave cfg
  | invalidBaud (hbaud : baudCode < 0 ∨ baudCode > 1) :
      Saved slaveText baudCode current cfg .invalidBaud cfg
  | slaveWriteFailed {slaveAddress : UInt16} {cfg' : MbAdapterConfig}
      (hparse : parseModbusSlaveAddress slaveText = some slaveAddress)
      (hcfg : cfg' = cfg ∨ cfg' = { cfg with slaveAddress := slaveAddress }) :
      Saved slaveText baudCode current cfg .slaveWriteFailed cfg'
  | baudWriteFailed {slaveAddress : UInt16} {cfg' : MbAdapterConfig}
      (hparse : parseModbusSlaveAddress slaveText = some slaveAddress)
      (hcfg : cfg' = { edited current slaveAddress (UInt16.ofInt baudCode) cfg with
          baudRateCode := cfg.baudRateCode } ∨
        cfg' = edited current slaveAddress (UInt16.ofInt baudCode) cfg) :
      Saved slaveText baudCode current cfg .baudWriteFailed cfg'
  | success {slaveAddress : UInt16}
      (hparse : parseModbusSlaveAddress slaveText = some slaveAddress) :
      Saved slaveText baudCode current cfg .success
        (edited current slaveAddress (UInt16.ofInt baudCode) cfg)

/-- The session has such a board. -/
def Reaches (slaveId : Int) (bd : Board) (serving : MbState) (cfg : MbAdapterConfig) :
    Session (WholeBus (Line σ)) → Prop :=
  OnPort slaveId fun _ => At (UInt8.ofInt slaveId) (Serves bd serving cfg)

variable {sch : Schedule} {wire : Wire σ sch} {slaveId : Int} {bd : Board} {serving : MbState}

/-- One write: done if it is acknowledged, and otherwise done or not. -/
theorem triple_writeField {addr : UInt16} (haddr : isNextBootAddr addr) (value : UInt16)
    (cfg : MbAdapterConfig) :
    Triple (lineAnswer wire) (Reaches (σ := σ) slaveId bd serving cfg) (writeReg16 addr value)
      fun r s => ∃ cfg', (cfg' = writeField addr value cfg ∨ r = false ∧ cfg' = cfg) ∧
        Reaches slaveId bd serving cfg' s := by
  have haddrs : ∀ i < [value].length, isNextBootAddr (addr + UInt16.ofNat i) := by
    intro i hi
    obtain rfl := Nat.lt_one_iff.mp hi
    exact (UInt16.add_zero addr).symm ▸ haddr
  refine (triple_hears_write (takes_nextBoot bd serving) haddrs cfg).mono (fun _ => id) ?_
  rintro r s ⟨k, hs, hall⟩
  cases k with
  | zero =>
    have hr : r = false := by
      cases r with
      | false => rfl
      | true => exact absurd (hall rfl) nofun
    exact ⟨cfg, .inr ⟨hr, rfl⟩, hs⟩
  | succ k =>
    have hmoved : moved writeField addr ([value].take (k + 1)) cfg =
        writeField addr value cfg := by
      rw [List.take_succ_cons, List.take_nil]
      rfl
    exact ⟨writeField addr value cfg, .inl rfl, hmoved ▸ hs⟩

theorem triple_writeIf {addr : UInt16} (haddr : isNextBootAddr addr) (value : UInt16)
    (needed : Bool) (cfg : MbAdapterConfig) :
    Triple (lineAnswer wire) (Reaches (σ := σ) slaveId bd serving cfg)
      (writeIf needed (writeReg16 addr value))
      fun r s => ∃ cfg', (cfg' = (if needed then writeField addr value cfg else cfg) ∨
        r = false ∧ cfg' = cfg) ∧ Reaches slaveId bd serving cfg' s := by
  cases needed with
  | true => exact triple_writeField haddr value cfg
  | false => exact triple_ret fun s hs => ⟨cfg, .inl rfl, hs⟩

/-- A board after a reset, when the settings and the server answer: what was in RAM is gone. -/
def restarted (b : MbBuild) (mb : MbState) : MbState :=
  (modbusAdapterInit b .fine { unconfigured with stored := mb.stored }).2

theorem server_restarted (b : MbBuild) {cfg : MbAdapterConfig} {mb : MbState}
    (h : Configured serving cfg mb) : (restarted b mb).server =
      some (cfg.slaveAddress.toUInt8, baudCodeToRate cfg.baudRateCode) := by
  have hstored : mb.stored = some cfg := by rw [h.intact.stored, h.boot]
  have hvalid : adapterConfigValid cfg := by
    rw [← h.boot]
    exact h.intact.boot
  simp only [restarted, modbusAdapterInit, vcMbAdapterCreate, adapterLoadConfig, hstored,
    Outcomes.fine, hvalid, modbusServerStart]
  rfl

theorem triple_saveModbusSettings (slaveText : List Char) (baudCode : Int)
    (current : SystemConfig) (cfg : MbAdapterConfig) :
    Triple (lineAnswer wire) (Reaches (σ := σ) slaveId bd serving cfg)
      (saveModbusSettings slaveText baudCode current)
      fun r s => ∃ cfg', Saved slaveText baudCode current cfg r cfg' ∧
        Reaches slaveId bd serving cfg' s := by
  unfold saveModbusSettings
  cases hparse : parseModbusSlaveAddress slaveText with
  | none => exact triple_ret fun s hs => ⟨cfg, .invalidSlave hparse, hs⟩
  | some slaveAddress =>
    by_cases hbaud : baudCode < 0 ∨ baudCode > 1
    · simp only [if_pos hbaud]
      exact triple_ret fun s hs => ⟨cfg, .invalidBaud hbaud, hs⟩
    simp only [if_neg hbaud]
    refine triple_bind (triple_writeIf (.inl rfl) slaveAddress _ cfg)
      fun slaveWritten => triple_exists fun mid => triple_fact fun hmid => ?_
    cases slaveWritten with
    | false =>
      refine triple_ret fun s hs => ⟨mid, .slaveWriteFailed hparse ?_, hs⟩
      rcases hmid with rfl | ⟨-, rfl⟩
      · split
        · exact .inr rfl
        · exact .inl rfl
      · exact .inl rfl
    | true =>
      obtain rfl := hmid.resolve_right nofun
      refine triple_bind (triple_writeIf (.inr rfl) (UInt16.ofInt baudCode) _ _)
        fun baudWritten => triple_exists fun cfg' => triple_fact fun hcfg' => ?_
      cases baudWritten with
      | false =>
        refine triple_ret fun s hs => ⟨cfg', .baudWriteFailed hparse ?_, hs⟩
        rcases hcfg' with rfl | ⟨-, rfl⟩
        · exact .inr (edited_baud ..)
        · exact .inl (edited_slave ..)
      | true =>
        obtain rfl := hcfg'.resolve_right nofun
        exact triple_ret fun s hs => ⟨_, edited_baud .. ▸ .success hparse, hs⟩

/-- The dialog over a line on which anything may be lost. The board answers as before, its next boot
has one of the configurations that go with what the dialog reports, and a reset brings that one. -/
theorem saveModbusSettings_nextBoot (slaveText : List Char) (baudCode : Int)
    (current : SystemConfig) (cfg : MbAdapterConfig) :
    Triple (lineAnswer wire) (Reaches (σ := σ) slaveId bd serving cfg)
      (saveModbusSettings slaveText baudCode current)
      fun r s => ∃ cfg', Saved slaveText baudCode current cfg r cfg' ∧
        OnPort slaveId (fun _ => At (UInt8.ofInt slaveId) fun st =>
          Serves bd serving cfg' st ∧ (restarted bd.mb st.world.mb).server =
            some (cfg'.slaveAddress.toUInt8, baudCodeToRate cfg'.baudRateCode)) s := by
  refine (triple_saveModbusSettings slaveText baudCode current cfg).mono (fun _ => id) ?_
  rintro r s ⟨cfg', hsaved, hs⟩
  refine ⟨cfg', hsaved, OnPort.imp (fun _ _ hline => hline.imp fun st hst => ?_) hs⟩
  exact ⟨hst, server_restarted bd.mb hst.2⟩

/-- The dialog asks a board under address 1 for address 7 and 38400 baud, and the reply to the first
write is lost: reported as failed, done all the same, and the board still serves address 1. -/
theorem saveModbusSettings_nextBoot_hvb :
    let sch : Schedule := ⟨fun _ => ⟨[.tick 100], envWith true, rfl⟩,
      fun n => if n = 0 then .replyLost else .served, fun _ => "timeout"⟩
    let st := stationOf boardHvb [channelAfter dacNode []]
    let mb := st.world.mb
    let r := exec (lineAnswer (.plain sch)) (saveModbusSettings ['7'] 1 {}) (opened 1 (single st))
    (∃ cfg', Saved ['7'] 1 {} mb.adapter.bootCfg r.1 cfg' ∧
      OnPort 1 (fun _ => At 1 fun st' => Serves boardHvb mb cfg' st' ∧
        (restarted boardHvb.mb st'.world.mb).server =
          some (cfg'.slaveAddress.toUInt8, baudCodeToRate cfg'.baudRateCode)) r.2.2) ∧
    r.1 = .slaveWriteFailed ∧
      ((r.2.2.bus.bind (·.port)).bind (·.stations 1)).map (fun st' =>
        (st'.world.mb.stored, st'.world.mb.server)) =
          some (some ⟨7, mb.adapter.bootCfg.baudRateCode⟩, some (1, 115200)) :=
  ⟨saveModbusSettings_nextBoot ['7'] 1 {} _ _
    (onPort_opened (at_single ⟨rfl, ⟨rfl, rfl, by decide, rfl⟩, rfl, rfl, rfl⟩)), by decide +kernel⟩

end NextBoot
