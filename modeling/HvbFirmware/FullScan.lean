import HvbFirmware.BoardInfo
import HvbFirmware.HostConfig
import HvbFirmware.NextBoot
import HvbFirmware.ReadRetry

/-!
# The first picture of a board

`doFullScan` of the terminal client, over boards on a line. It reads each thing once more if the
error text has changed, asks again for capabilities that came out as none, and publishes the
channels all at once. What it shows afterwards is what the board has, as far as nothing got lost.
-/
namespace FullScan

open VcTypes hiding ChannelConfig SystemConfig
open VcController RegCatalog ModbusRegister VcCatalog MbServer MbAdapter CommConfig PsbBoardSession
  HostSession SerialBus BoardLine RegisterFile HostConfig BoardInfo NextBoot ReadRetry Interaction
  Program

variable {σ : Type}

/-! ## The scan -/

def maxChannels : Int := 16

structure ScannedData where
  sysInfo : SystemInfo := {}
  chInfo : Nat → ChannelInfo := fun _ => {}
  sysCfg : SystemConfig := {}
  chCfg : Nat → ChannelConfig := fun _ => {}
  chLoaded : Nat → Bool := fun _ => false
  chDetailLoaded : Nat → Bool := fun _ => false
  scanProgress : Int := 0
  valid : Bool := false

def numChannels (sysInfo : SystemInfo) : Nat :=
  let n := sysInfo.supportedChannels
  if n > 0 ∧ n ≤ maxChannels then n.toNat else 0

/-- The dynamic tail of the system block, registers 6 to 14, by the words of its buffer. -/
def withStatus (info : SystemInfo) (buf : Nat → UInt16) : SystemInfo :=
  { info with
    boardTempRaw := (buf 0).toInt16
    boardHumidityRaw := buf 1
    uptimeSec := uint32FromRegs (buf 2) (buf 3)
    activeOpMode := .ofValue (buf 6)
    sysStatus := buf 7
    faultCause := buf 8 }

def readSystemStatus (info : SystemInfo) : SessionProgram SystemInfo := do
  if !(← ask SessionCall.checkConnected) then
    return info
  else
    match ← readInputRegs (sysAddr 6) 9 with
    | none => return info
    | some buf => return withStatus info fun i => buf.getD i 0

/-- The reads that fight for capabilities, as long as there are none. -/
def retryCapabilities (ch : Int) : (attempts : Nat) → ChannelInfo → SessionProgram ChannelInfo
  | 0, info => return info
  | n + 1, info =>
    if info.chCapFlags = 0 then do retryCapabilities ch n (← readChannelInfo ch 0)
    else return info

/-- The body of the loop over the channels. -/
def scanChannel (ch : Int) : SessionProgram (ChannelInfo × ChannelConfig) := do
  let (info, _) ← readWithRetry (readChannelInfo ch 0)
  let info ← retryCapabilities ch 2 info
  let caps := info.chCapFlags
  let cfg ← readChannelOutputBlock ch caps {}
  let cfg ← readChannelProtectionBlock ch caps cfg
  let cfg ← readChannelOutputEnabledBlock ch caps cfg
  return (info, cfg)

/-- The loop, with what is staged. -/
def scanChannels : List Nat → ScannedData → SessionProgram ScannedData
  | [], staged => return staged
  | ch :: chs, staged => do
    let (info, cfg) ← scanChannel ch
    let sysInfo ← readSystemStatus staged.sysInfo
    scanChannels chs { staged with
      chInfo := fun c => if c = ch then info else staged.chInfo c
      chCfg := fun c => if c = ch then cfg else staged.chCfg c
      scanProgress := ch + 1
      sysInfo := sysInfo }

/-- `aborted` is what the flag says after the system has been read. -/
def doFullScan (aborted : Bool) (data : ScannedData) : SessionProgram ScannedData := do
  let (sysInfo, _) ← readWithRetry (readSystemInfo {})
  let (sysCfg, _) ← readWithRetry readSystemConfig
  let n := numChannels sysInfo
  let staged ← scanChannels (List.range n) { sysInfo, sysCfg }
  let shown (ch : Nat) : Bool := ch < n
  return {
    sysInfo := staged.sysInfo
    sysCfg := sysCfg
    chInfo := fun ch => if shown ch then staged.chInfo ch else data.chInfo ch
    chCfg := fun ch => if shown ch then staged.chCfg ch else data.chCfg ch
    chLoaded := shown
    scanProgress := staged.scanProgress
    valid := !aborted }

/-! ## Input registers of a channel -/

section Board

variable {bd : Board} {e : Env} {w : World σ}

/-- A register of a channel that has it, or a half of one. -/
theorem readWire_shown (hrun : e.adm.running) {ch : UInt8} (hch : ch < bd.vc.maxChannels)
    {c : VcChannel.Channel} (hc : w.ctrl.channels[ch.toNat]? = some c) {reg : VcReg}
    (hro : reg.row.access = .ro) (hsupported : vcCatalogSupported reg c.capabilities) (word : Nat)
    (latch : WordLatch) :
    ∃ value, (readWire (answers bd e w) .requested
      (some ⟨fun ch => regVcChannelHandle bd.vc.toBuild ch reg, word⟩) ch latch).1 = .ok value := by
  have hwo : reg.row.access ≠ .wo := by rw [hro]; exact nofun
  cases h32 : reg.row.type.is32 with
  | false =>
    refine ⟨registerValue c reg, ?_⟩
    rw [readWire_channel w hrun .requested reg hch h32 word latch, hc, registerShown, if_neg hwo]
    simp [hsupported]
  | true =>
    have hhandle : regVcChannelHandle bd.vc.toBuild ch reg =
        some (reg.row.descriptor moduleVoltageControl ch) := if_neg (UInt8.not_le.mpr hch)
    have hanswer : (regReadDescriptor ((answers bd e w).read .requested)
        (reg.row.descriptor moduleVoltageControl ch)).1 = .ok := by
      have hread : regReadDescriptor ((answers bd e w).read .requested)
          (reg.row.descriptor moduleVoltageControl ch) =
            ownerRead bd e w (reg.row.descriptor moduleVoltageControl ch) := if_neg hwo
      rw [hread, ownerRead_channel bd e w (ne_globalInstance hch), hrun, hc]
      simp [hsupported, channelValue_ok hwo]
    rw [WordCoherence.readWire_half hhandle h32 hwo]
    dsimp only
    rw [hanswer]
    split
    · exact ⟨_, rfl⟩
    · rw [if_neg (by simp)]
      split <;> exact ⟨_, rfl⟩

theorem chInputReg_ro {off : Nat} {reg : VcReg} {word : Nat}
    (h : chInputReg off = some (reg, word)) : reg.row.access = .ro := by
  unfold chInputReg at h
  split at h <;> cases h <;> rfl

/-- The adapter and the catalog agree on the registers of a channel. -/
theorem chInput_catalog {caps : UInt16} {off : Nat} {reg : VcReg} {word : Nat}
    (hreg : chInputReg off = some (reg, word)) (h : chInputSupported caps off) :
    vcCatalogSupported reg caps := by
  have hall : ∀ cap : UInt16, cap ≠ 0 → capsAll caps cap → (caps &&& cap != 0) := by
    intro cap hcap hcaps
    rw [eq_of_beq hcaps]
    simpa using hcap
  unfold chInputSupported at h
  rw [hreg] at h
  unfold chInputReg at hreg
  split at hreg <;> cases hreg
  case h_11 | h_13 | h_14 => exact hall capVoltageMeasurement (by decide) h
  case h_12 | h_15 | h_16 => exact hall capCurrentMeasurement (by decide) h
  all_goals rfl

theorem readChInput_shown (hrun : e.adm.running) {ch : UInt8} (hch : ch < bd.vc.maxChannels)
    {c : VcChannel.Channel} (hc : w.ctrl.channels[ch.toNat]? = some c) {off : Nat} (hoff : off < 12)
    (hguard : chInputSupported c.capabilities off) :
    ∃ value, (vcRegReadChInput (answers bd e w) bd.vc.toBuild ch off w.latch).1 = .ok value := by
  have hcount := readCount_running bd w hrun w.latch
  have hreg : ∃ reg word, chInputReg off = some (reg, word) := by
    match off, hoff with
    | 0, _ | 1, _ | 2, _ | 3, _ | 4, _ | 5, _ | 6, _ | 7, _ | 8, _ | 9, _ | 10, _ | 11, _ =>
      exact ⟨_, _, rfl⟩
  obtain ⟨reg, word, hreg⟩ := hreg
  have hblock : ¬ off ≥ chBlockSize := by unfold chBlockSize; omega
  have hnocal : ¬ isChCalInputReg off := fun h => by
    have := (of_decide_eq_true h).1
    omega
  have hcaps : capsOf w.ctrl.channels[ch.toNat]? = c.capabilities := by rw [hc]; rfl
  unfold vcRegReadChInput chInputView
  dsimp only
  rw [hcount, guardValue, hreg]
  simp only [ge_iff_le, toUInt16_le_iff]
  rw [if_neg (UInt8.not_le.mpr hch), if_neg hblock, readCaps_running hrun hch, hcaps,
    if_neg (by simp [hguard]), if_neg (fun h => hnocal h.1)]
  exact readWire_shown hrun hch hc (chInputReg_ro hreg) (chInput_catalog hreg hguard) word _

theorem access_chInput {bs : List Bank} {b : Bank} {ch : UInt8} {off : Nat} {addr : UInt16}
    (haddr : addrDecode addr = some (.channel ch off)) (hb : bs[ch.toNat]? = some b)
    (hch : ch < bd.vc.maxChannels) (hoff : off < 12) (hguard : chInputSupported b.capabilities off)
    {st : Station σ} (m : Moment) (hst : Holds bd bs st) :
    ∃ value st', st.access m (fun bd e w => inputRd bd e w addr) = (.ok value, st') ∧
      (off = 9 → value = b.capabilities) ∧ Holds bd bs st' := by
  by_cases hcaps : off = 9
  · subst hcaps
    obtain ⟨st', haccess, hst'⟩ := access_capabilities haddr hb hch m hst
    exact ⟨b.capabilities, st', haccess, fun _ => rfl, hst'⟩
  have hbank := getElem?_banks hst m ch.toNat
  rw [hb] at hbank
  obtain ⟨c, hc, rfl⟩ := Option.map_eq_some_iff.mp hbank
  obtain ⟨rfl, hbanks⟩ := hst
  obtain ⟨value, hread⟩ := readChInput_shown (w := st.settle m) m.running hch hc hoff hguard
  have hvalue : (inputRd st.bd m.env (st.settle m) addr).1 = .ok value := by
    unfold inputRd
    rw [WordCoherence.inputRd_channel haddr]
    exact toMb_ok hread
  refine ⟨value, (st.access m fun bd e w => inputRd bd e w addr).2, Prod.ext hvalue rfl,
    fun h => absurd h hcaps, rfl, ?_⟩
  exact (banks_settle st m).trans hbanks

end Board

/-! ## What is known of a board that is scanned -/

variable {sch : Schedule} {wire : Wire σ sch} {slaveId : Int} {text : String} {bd : Board}
  {bs : List Bank} {b : Bank} {ch : UInt8}

/-- A sample whose values were there at some time. -/
structure Seen (sch : Schedule) (x : Sample) : Prop where
  temperature : ∃ n, x.temperature = ((sch.moment n).env.sysStatus .boardTemperature).2.toUInt16
  humidity : ∃ n, x.humidity = ((sch.moment n).env.sysStatus .boardHumidity).2.toUInt16
  uptime : ∃ n, x.uptime = ((sch.moment n).env.sysStatus .uptime).2
  fwVersion : ∃ n, x.fwVersion = ((sch.moment n).env.sysStatus .fwVersion).2

/-- The board has these settings, and its adapter the property. -/
def Keeps (bd : Board) (bs : List Bank) (P : MbState → Prop) (st : Station σ) : Prop :=
  Holds bd bs st ∧ P st.world.mb

theorem banks_course (sch : Schedule) (k : Kconfig) (clock : Nat) (ctrl : Controller σ) (n : Nat) :
    (course sch k clock ctrl n).channels.map bank = ctrl.channels.map bank := by
  induction n with
  | zero => rfl
  | succ n ih => exact (banks_events k _ _).trans ih

/-- A read of registers of the system block. -/
theorem triple_system (hstatus : StatusAnswered sch) {P : MbState → Prop} (off : Nat) {count : Nat}
    (hcount : off + count ≤ 17) (hhigh : off ≠ 9 ∧ off ≠ 11) {timeout : Int}
    {G : Vector UInt16 count → Prop} (hgood : ∀ clock (st : Station σ), ∃ x : Sample,
      (∀ i, x.Taken (sch.moment (clock + i)).env
        (course sch st.bd.k clock st.world.ctrl (i + 1)).operatingMode (off + i)) ∧
      G (Vector.ofFn fun i => x.word bd.vc (off + i))) :
    Triple (lineAnswer wire) (Hears sch slaveId text (Keeps (σ := σ) bd bs P))
      (ask (SessionCall.readRegsInternal false (UInt16.ofNat off) count timeout))
      fun r s => Hears sch slaveId text (Keeps bd bs P) s ∧ (∀ regs, r = some regs → G regs) ∧
        (sch.Reliable → r.isSome) := by
  refine triple_hears_read false fun clock st hst => ?_
  obtain ⟨⟨rfl, hbanks⟩, hP⟩ := hst
  obtain ⟨x, htaken, hx⟩ := hgood clock st
  obtain ⟨st', hread, hbd, hctrl, hmb⟩ := readMany_words hstatus clock st off hcount hhigh htaken
  refine ⟨_, st', hread, hx, ⟨hbd, ?_⟩, by rwa [hmb]⟩
  unfold banks
  rw [hctrl, banks_course]
  exact hbanks

/-- What a host knows of the board itself. -/
def Identified (sch : Schedule) (bd : Board) (info : SystemInfo) : Prop :=
  ∃ x, Seen sch x ∧ info = infoOf bd.vc x

theorem seen_sampleAt (sch : Schedule) (clock : Nat) (st : Station σ) :
    Seen sch (sampleAt sch clock st) :=
  ⟨⟨_, rfl⟩, ⟨_, rfl⟩, ⟨_, rfl⟩, ⟨_, rfl⟩⟩

theorem triple_readSystemInfo (hstatus : StatusAnswered sch) {P : MbState → Prop}
    (out : SystemInfo) :
    Triple (lineAnswer wire) (Hears sch slaveId text (Keeps (σ := σ) bd bs P)) (readSystemInfo out)
      fun r s => (Identified sch bd r ∨ r = out ∧ ¬ sch.Reliable) ∧
        Hears sch slaveId text (Keeps bd bs P) s := by
  refine triple_bind triple_hears_checkConnected fun connected => triple_fact ?_
  rintro rfl
  refine triple_heard (triple_system hstatus 0 (Nat.le_refl 17) (by decide)
    (G := fun regs => Identified sch bd (SystemInfo.ofBlock regs)) fun clock st => ?_)
    (fun hlost => ?_) fun regs hgood => ?_
  · refine ⟨sampleAt sch clock st, fun i => ?_, sampleAt sch clock st, seen_sampleAt sch clock st,
      ?_⟩
    · rw [Nat.zero_add]
      exact taken_sampleAt sch clock st i
    · simp only [Nat.zero_add]
      exact ofBlock_word bd.vc _
  · exact triple_ret fun s hs => ⟨.inr ⟨rfl, hlost⟩, hs⟩
  · exact triple_ret fun s hs => ⟨.inl hgood, hs⟩

/-- What registers 6 to 14 show to a request that begins at a time. -/
def statusAt (sch : Schedule) (clock : Nat) (st : Station σ) : Sample where
  temperature := ((sch.moment clock).env.sysStatus .boardTemperature).2.toUInt16
  humidity := ((sch.moment (clock + 1)).env.sysStatus .boardHumidity).2.toUInt16
  uptime := ((sch.moment (clock + 2)).env.sysStatus .uptime).2
  fwVersion := ((sch.moment (clock + 4)).env.sysStatus .fwVersion).2
  mode := (course sch st.bd.k clock st.world.ctrl 7).operatingMode.toValue

theorem taken_statusAt (sch : Schedule) (clock : Nat) (st : Station σ) (i : Nat) :
    (statusAt sch clock st).Taken (sch.moment (clock + i)).env
      (course sch st.bd.k clock st.world.ctrl (i + 1)).operatingMode (6 + i) := by
  match i with
  | 0 | 1 | 2 | 4 | 6 => rfl
  | 3 | 5 => trivial
  | n + 7 =>
    have hoff : 6 + (n + 7) = n + 13 := by omega
    rw [hoff]
    trivial

theorem seen_statusAt (sch : Schedule) (clock : Nat) (st : Station σ) :
    Seen sch (statusAt sch clock st) :=
  ⟨⟨_, rfl⟩, ⟨_, rfl⟩, ⟨_, rfl⟩, ⟨_, rfl⟩⟩

/-- A record with the dynamic fields of another sample. -/
def refreshed (x y : Sample) : Sample := { y with fwVersion := x.fwVersion }

theorem seen_refreshed {x y : Sample} (hx : Seen sch x) (hy : Seen sch y) :
    Seen sch (refreshed x y) :=
  ⟨hy.temperature, hy.humidity, hy.uptime, hx.fwVersion⟩

theorem getD_ofFn {n i : Nat} (f : Nat → UInt16) (h : i < n) :
    (Vector.ofFn fun j : Fin n => f j).getD i 0 = f i := by
  simp [Vector.getD, h]

theorem status_word (vb : VcBuild) (x y : Sample) :
    withStatus (infoOf vb x)
      (fun i => (Vector.ofFn fun j : Fin 9 => y.word vb (6 + j)).getD i 0) =
      infoOf vb (refreshed x y) := by
  have hword (i : Nat) (hi : i < 9) :
      (Vector.ofFn fun j : Fin 9 => y.word vb (6 + j)).getD i 0 = y.word vb (6 + i) :=
    getD_ofFn (fun j => y.word vb (6 + j)) hi
  simp only [withStatus, infoOf, refreshed, hword, Nat.reduceLT, SystemInfo.mk.injEq,
    true_and, and_true]
  exact ⟨temperature_word vb y, rfl, uint32FromRegs_halves _, rfl, rfl, rfl⟩

/-- The dynamic fields are taken anew, and the others stay as they are known. -/
theorem triple_readSystemStatus (hstatus : StatusAnswered sch) {P : MbState → Prop}
    {info : SystemInfo} (hinfo : Identified sch bd info) :
    Triple (lineAnswer wire) (Hears sch slaveId text (Keeps (σ := σ) bd bs P))
      (readSystemStatus info)
      fun r s => Identified sch bd r ∧ Hears sch slaveId text (Keeps bd bs P) s := by
  obtain ⟨x, hx, rfl⟩ := hinfo
  refine triple_bind triple_hears_checkConnected fun connected => triple_fact ?_
  rintro rfl
  refine triple_heard (triple_system hstatus 6 (by decide) (by decide)
    (G := fun regs => ∃ y, Seen sch y ∧ regs = Vector.ofFn fun i : Fin 9 => y.word bd.vc (6 + i))
    fun clock st => ⟨_, taken_statusAt sch clock st, _, seen_statusAt sch clock st, rfl⟩)
    (fun _ => ?_) fun regs hgood => ?_
  · exact triple_ret fun s hs => ⟨⟨x, hx, rfl⟩, hs⟩
  · obtain ⟨y, hy, rfl⟩ := hgood
    exact triple_ret fun s hs => ⟨⟨_, seen_refreshed hx hy, status_word bd.vc x y⟩, hs⟩

/-! ## The configuration of the system -/

/-- The configuration of the next boot is this one. -/
def BootsWith (cfg : MbAdapterConfig) (mb : MbState) : Prop :=
  Intact mb ∧ mb.adapter.bootCfg = cfg

theorem holdingRd_sys {e : Env} {w : World σ} {off : Nat} (h : off < 4) :
    holdingRd bd e w (UInt16.ofNat off) =
      let r := readWire (answers bd e w) .requested (sysHoldingView off) 0 w.latch
      ((toMb r).1, { w with latch := r.2 }) := by
  match off, h with
  | 0, _ | 1, _ | 2, _ | 3, _ => rfl

/-- A register of the adapter. -/
theorem readWire_modbus {e : Env} {w : World σ} {reg : ModbusReg} {value : UInt16}
    (hvalue : ownerRead bd e w reg.descriptor = (.ok, value.toUInt32))
    (h16 : reg.row.type.is32 = false) (hbool : reg.row.type ≠ .bool)
    (haccess : reg.row.access ≠ .wo) (latch : WordLatch) :
    (readWire (answers bd e w) .requested (sysWire reg.descriptor 0) 0 latch).1 = .ok value := by
  have hanswer : regReadDescriptor ((answers bd e w).read .requested) reg.descriptor =
      (.ok, value.toUInt32) := (if_neg haccess).trans hvalue
  have hread := readWire_u16 (answers bd e w) .requested ⟨fun _ => some reg.descriptor, 0⟩ 0 rfl h16
    latch
  rw [hanswer] at hread
  have htype : reg.descriptor.type ≠ .bool := hbool
  have hnarrow : narrow reg.descriptor.type value.toUInt32 = value := by
    rw [narrow, if_neg htype, UInt16.toUInt16_toUInt32]
  exact hread.trans (congrArg Except.ok hnarrow)

/-- What the host looks at in the first holding registers. -/
def ShowsNextBoot (cfg : MbAdapterConfig) (off : Nat) (value : UInt16) : Prop :=
  (off = 2 → value = cfg.slaveAddress) ∧ (off = 3 → value = cfg.baudRateCode)

theorem access_sysHolding {P : MbState → Prop} {cfg : MbAdapterConfig}
    (hP : ∀ mb, P mb → BootsWith cfg mb) {off : Nat} (hoff : off < 4) (st : Station σ) (m : Moment)
    (hst : Keeps bd bs P st) :
    ∃ value st', st.access m (fun bd e w => holdingRd bd e w (sysAddr 0 + UInt16.ofNat off)) =
      (.ok value, st') ∧ ShowsNextBoot cfg off value ∧ Keeps bd bs P st' := by
  have haddr : sysAddr 0 + UInt16.ofNat off = UInt16.ofNat off := UInt16.zero_add _
  rw [haddr]
  have hsettled := banks_settle st m
  obtain ⟨⟨rfl, hbanks⟩, hmb⟩ := hst
  obtain ⟨hintact, hboot⟩ := hP _ hmb
  have hserved : ∀ value, (readWire (answers st.bd m.env (st.settle m)) .requested
        (sysHoldingView off) 0 (st.settle m).latch).1 = .ok value →
      ShowsNextBoot cfg off value →
      ∃ value st', st.access m (fun bd e w => holdingRd bd e w (UInt16.ofNat off)) =
        (.ok value, st') ∧ ShowsNextBoot cfg off value ∧ Keeps st.bd bs P st' := by
    intro value hvalue hshows
    have hread : (holdingRd st.bd m.env (st.settle m) (UInt16.ofNat off)).1 = .ok value := by
      rw [holdingRd_sys hoff]
      exact toMb_ok hvalue
    exact ⟨value, _, Prod.ext hread rfl, hshows, ⟨rfl, hsettled.trans hbanks⟩, hmb⟩
  have hcreated : (st.settle m).mb.created = true := hintact.created
  match off, hoff with
  | 0, _ =>
    exact hserved _ (readWire_global m.running _ .operatingMode rfl rfl _) ⟨nofun, nofun⟩
  | 1, _ =>
    exact hserved _ (readWire_global m.running _ .startupChannelPolicy rfl rfl _) ⟨nofun, nofun⟩
  | 2, _ =>
    have hvalue : ownerRead st.bd m.env (st.settle m) ModbusReg.nextBootSlaveAddress.descriptor =
        if !(st.settle m).mb.created then (.busy, 0)
        else (.ok, st.world.mb.adapter.bootCfg.slaveAddress.toUInt32) := rfl
    rw [hcreated, hboot] at hvalue
    exact hserved _ (readWire_modbus hvalue rfl nofun nofun _) ⟨fun _ => rfl, nofun⟩
  | 3, _ =>
    have hvalue : ownerRead st.bd m.env (st.settle m) ModbusReg.nextBootBaudRateCode.descriptor =
        if !(st.settle m).mb.created then (.busy, 0)
        else (.ok, st.world.mb.adapter.bootCfg.baudRateCode.toUInt32) := rfl
    rw [hcreated, hboot] at hvalue
    exact hserved _ (readWire_modbus hvalue rfl nofun nofun _) ⟨nofun, fun _ => rfl⟩

theorem triple_readSystemConfig {P : MbState → Prop} {cfg : MbAdapterConfig}
    (hP : ∀ mb, P mb → BootsWith cfg mb) :
    Triple (lineAnswer wire) (Hears sch slaveId text (Keeps (σ := σ) bd bs P)) readSystemConfig
      fun r s => (r.slaveAddr = cfg.slaveAddress ∧ r.baudRateCode = cfg.baudRateCode ∨
        r = {} ∧ ¬ sch.Reliable) ∧ Hears sch slaveId text (Keeps bd bs P) s := by
  refine triple_bind triple_hears_checkConnected fun connected => triple_fact ?_
  rintro rfl
  refine triple_heard (triple_hears_read true fun clock st hst =>
    readMany_each (fun _ hoff => access_sysHolding hP hoff) clock st hst)
    (fun hlost => ?_) fun regs hshows => ?_
  · exact triple_ret fun s hs => ⟨.inr ⟨rfl, hlost⟩, hs⟩
  · exact triple_ret fun s hs =>
      ⟨.inl ⟨(hshows 2 (by decide)).1 rfl, (hshows 3 (by decide)).2 rfl⟩, hs⟩

/-! ## Reads that are tried once more -/

/-- What every run of a read brings, a read with one more try brings. -/
theorem triple_readWithRetry {α : Type} {P : Session (WholeBus (Line σ)) → Prop} {Q : α → Prop}
    {fn : SessionProgram α} (h : Triple (lineAnswer wire) P fn fun r s => Q r ∧ P s) :
    Triple (lineAnswer wire) P (readWithRetry fn) fun r s => Q r.1 ∧ P s := by
  have htext : Triple (lineAnswer wire) P (ask SessionCall.lastError) fun _ s => P s :=
    triple_ask fun s hs => hs
  refine triple_bind htext fun before => triple_bind h fun result => triple_fact fun hresult =>
    triple_bind htext fun after => ?_
  split
  · exact triple_bind h fun result => triple_ret fun s hs => hs
  · exact triple_ret fun s hs => ⟨hresult, hs⟩

/-! ## A channel -/

/-- The capabilities of the channel, or none, and that only after a loss. -/
def CapsKnown (sch : Schedule) (b : Bank) (caps : UInt16) : Prop :=
  caps = b.capabilities ∨ caps = 0 ∧ ¬ sch.Reliable

/-- A read of input registers that the channel has. -/
theorem triple_chInput (hch : ch < bd.vc.maxChannels) (hb : bs[ch.toNat]? = some b) {off : Nat}
    {addr : UInt16} (haddr : addr = chAddr ch.toNat 0 + UInt16.ofNat off) {count : Nat}
    (hserved : ∀ i < count, off + i < 12 ∧ chInputSupported b.capabilities (off + i))
    {timeout : Int} :
    Triple (lineAnswer wire) (Hears sch slaveId text (Holds (σ := σ) bd bs))
      (ask (SessionCall.readRegsInternal false addr count timeout))
      fun r s => Hears sch slaveId text (Holds bd bs) s ∧ (∀ regs, r = some regs →
        ∀ i (hi : i < count), off + i = 9 → regs[i] = b.capabilities) ∧
          (sch.Reliable → r.isSome) := by
  have hread : ∀ i < count, ∀ (st : Station σ) m, Holds bd bs st → ∃ value st',
      st.access m (fun bd e w => inputRd bd e w (addr + UInt16.ofNat i)) = (.ok value, st') ∧
        (off + i = 9 → value = b.capabilities) ∧ Holds bd bs st' := by
    intro i hi st m hst
    obtain ⟨hoff, hguard⟩ := hserved i hi
    have hzero : (0 : UInt16).toNat + (off + i) = off + i := Nat.zero_add _
    have hlt : (0 : UInt16).toNat + (off + i) < chBlockSize := by
      rw [hzero]
      exact Nat.lt_trans hoff (by decide)
    have hdecode := addrDecode_chAddr (lt_sixteen hch) 0 (off + i) hlt
    rw [← chAddr_add, ← haddr, hzero] at hdecode
    exact access_chInput hdecode hb hch hoff hguard m hst
  exact triple_hears_read false fun clock st hst => readMany_each hread clock st hst

/-- The runtime state is there whatever the channel measures. -/
theorem chInputSupported_low (caps : UInt16) {off : Nat} (h : off < 10) :
    chInputSupported caps off := by
  match off, h with
  | 0, _ | 1, _ | 2, _ | 3, _ | 4, _ | 5, _ | 6, _ | 7, _ | 8, _ | 9, _ => rfl

theorem chInputSupported_voltage {caps : UInt16} (h : hasVoltage caps) :
    chInputSupported caps 10 := by
  have hcaps : capsAll caps capVoltageMeasurement = AddressMap.has caps capVoltageMeasurement :=
    AddressMap.capsAll_voltage caps
  exact hcaps.trans (hasVoltage_iff.mp h)

theorem chInputSupported_current {caps : UInt16} (h : hasCurrent caps) :
    chInputSupported caps 11 := by
  have hcaps : capsAll caps capCurrentMeasurement = AddressMap.has caps capCurrentMeasurement :=
    AddressMap.capsAll_current caps
  exact hcaps.trans (hasCurrent_iff.mp h)

/-- One measurement that the channel has, if it is asked for. -/
theorem triple_readOneMeasurement (hch : ch < bd.vc.maxChannels) (hb : bs[ch.toNat]? = some b)
    {supported : Bool} {off : Nat} (hoff : off < 12)
    (hserved : supported → chInputSupported b.capabilities off) (out : ChannelInfo)
    {set : ChannelInfo → Int16 → ChannelInfo}
    (hset : ∀ info v, (set info v).chCapFlags = info.chCapFlags) :
    Triple (lineAnswer wire) (Hears sch slaveId text (Holds (σ := σ) bd bs))
      (readOneMeasurement supported (chAddr ch.toNat 0 + UInt16.ofNat off) out set)
      fun r s => r.chCapFlags = out.chCapFlags ∧ Hears sch slaveId text (Holds bd bs) s := by
  unfold readOneMeasurement
  split
  next h =>
    have hall : ∀ i < 1, off + i < 12 ∧ chInputSupported b.capabilities (off + i) := by
      intro i hi
      obtain rfl := Nat.lt_one_iff.mp hi
      exact ⟨hoff, hserved h⟩
    refine triple_heard (triple_chInput hch hb rfl hall) (fun _ => ?_) fun buf _ => ?_
    · exact triple_ret fun s hs => ⟨rfl, hs⟩
    · exact triple_ret fun s hs => ⟨hset _ _, hs⟩
  next => exact triple_ret fun s hs => ⟨rfl, hs⟩

/-- The measurements that the channel has are read, and the rest of the record stays. -/
theorem triple_readMeasurements (hch : ch < bd.vc.maxChannels) (hb : bs[ch.toNat]? = some b)
    {caps : UInt16} (hcaps : caps = b.capabilities ∨ caps = 0) (out : ChannelInfo) :
    Triple (lineAnswer wire) (Hears sch slaveId text (Holds (σ := σ) bd bs))
      (readMeasurements ch.toNat caps out)
      fun r s => r.chCapFlags = out.chCapFlags ∧ Hears sch slaveId text (Holds bd bs) s := by
  have hvoltage (h : hasVoltage caps) : chInputSupported b.capabilities 10 :=
    chInputSupported_voltage (known hcaps rfl h)
  have hcurrent (h : hasCurrent caps) : chInputSupported b.capabilities 11 :=
    chInputSupported_current (known hcaps rfl h)
  unfold readMeasurements
  split
  next hboth =>
    have hall : ∀ i < 2, 10 + i < 12 ∧ chInputSupported b.capabilities (10 + i) := by
      intro i hi
      match i, hi with
      | 0, _ => exact ⟨by decide, hvoltage hboth.1⟩
      | 1, _ => exact ⟨by decide, hcurrent hboth.2⟩
    refine triple_heard (triple_chInput hch hb rfl hall) (fun _ => ?_) fun m _ => ?_
    · exact triple_ret fun s hs => ⟨rfl, hs⟩
    · exact triple_ret fun s hs => ⟨rfl, hs⟩
  next =>
    refine triple_bind (triple_readOneMeasurement hch hb (by decide) hvoltage out fun _ _ => rfl)
      fun mid => triple_fact fun hmid => ?_
    rw [← hmid]
    exact triple_readOneMeasurement hch hb (by decide) hcurrent mid fun _ _ => rfl

theorem triple_readChannelInfo (hch : ch < bd.vc.maxChannels) (hb : bs[ch.toNat]? = some b) :
    Triple (lineAnswer wire) (Hears sch slaveId text (Holds (σ := σ) bd bs))
      (readChannelInfo ch.toNat 0)
      fun r s => CapsKnown sch b r.chCapFlags ∧ Hears sch slaveId text (Holds bd bs) s := by
  refine triple_bind triple_hears_checkConnected fun connected => triple_fact ?_
  rintro rfl
  have haddr : chAddr ch.toNat 0 = chAddr ch.toNat 0 + UInt16.ofNat 0 := (UInt16.add_zero _).symm
  have hserved : ∀ i < 10, 0 + i < 12 ∧ chInputSupported b.capabilities (0 + i) := by
    intro i hi
    rw [Nat.zero_add]
    exact ⟨Nat.lt_of_lt_of_le hi (by decide), chInputSupported_low _ hi⟩
  -- the capabilities come with the runtime state, and the record carries them on
  have hstate : Triple (lineAnswer wire) (Hears sch slaveId text (Holds (σ := σ) bd bs))
      (readRuntimeState ch.toNat 0 {})
      fun r s => (r.1.chCapFlags = r.2 ∧ CapsKnown sch b r.2) ∧
        Hears sch slaveId text (Holds bd bs) s := by
    refine triple_heard (triple_chInput hch hb haddr hserved) (fun hlost => ?_) fun buf hgood => ?_
    · exact triple_ret fun s hs => ⟨⟨rfl, .inr ⟨rfl, hlost⟩⟩, hs⟩
    · exact triple_ret fun s hs => ⟨⟨rfl, .inl (hgood 9 (by decide) rfl)⟩, hs⟩
  refine triple_bind hstate fun r => triple_fact ?_
  obtain ⟨out, caps⟩ := r
  rintro ⟨hout, hcaps⟩
  dsimp only at hout hcaps
  subst hout
  have hknown : out.chCapFlags = b.capabilities ∨ out.chCapFlags = 0 := hcaps.imp_right And.left
  refine (triple_readMeasurements hch hb hknown out).mono (fun _ hs => hs) ?_
  rintro info s ⟨hinfo, hs⟩
  exact ⟨hinfo ▸ hcaps, hs⟩

theorem triple_retryCapabilities (hch : ch < bd.vc.maxChannels) (hb : bs[ch.toNat]? = some b)
    (n : Nat) {info : ChannelInfo} (hinfo : CapsKnown sch b info.chCapFlags) :
    Triple (lineAnswer wire) (Hears sch slaveId text (Holds (σ := σ) bd bs))
      (retryCapabilities ch.toNat n info)
      fun r s => CapsKnown sch b r.chCapFlags ∧ Hears sch slaveId text (Holds bd bs) s := by
  induction n generalizing info with
  | zero => exact triple_ret fun s hs => ⟨hinfo, hs⟩
  | succ n ih =>
    unfold retryCapabilities
    split
    · exact triple_bind (triple_readChannelInfo hch hb) fun info => triple_fact fun hinfo =>
        ih hinfo
    · exact triple_ret fun s hs => ⟨hinfo, hs⟩

/-- The blocks that the table of channels shows. -/
def scanBlocks (caps : UInt16) : List (Block ChannelConfig) :=
  (if haveDrive caps then [commandBlock, driveBlock] else [commandBlock]) ++
    ((if !hasCurrent caps then [] else [protectionBlock]) ++
      if !(!haveDrive caps && haveOutput caps) then [] else [outputEnabledBlock])

theorem scanBlocks_zero (caps : UInt16) : (scanBlocks 0).Sublist (scanBlocks caps) := by
  have hzero : scanBlocks 0 = [commandBlock] := rfl
  rw [hzero]
  unfold scanBlocks
  split
  · exact (List.sublist_append_left [commandBlock] [driveBlock]).trans
      (List.sublist_append_left _ _)
  · exact List.sublist_append_left _ _

/-- What a host shows of a channel: its capabilities and its settings, as far as they came. -/
def Scanned (sch : Schedule) (b : Bank) (info : ChannelInfo) (cfg : ChannelConfig) : Prop :=
  CapsKnown sch b info.chCapFlags ∧ Copied sch b (scanBlocks b.capabilities) {} cfg

theorem triple_scanChannel (hch : ch < bd.vc.maxChannels) (hb : bs[ch.toNat]? = some b) :
    Triple (lineAnswer wire) (Hears sch slaveId text (Holds (σ := σ) bd bs)) (scanChannel ch.toNat)
      fun r s => Scanned sch b r.1 r.2 ∧ Hears sch slaveId text (Holds bd bs) s := by
  refine triple_bind (triple_readWithRetry (triple_readChannelInfo hch hb)) fun r =>
    triple_fact fun hinfo => ?_
  obtain ⟨info, again⟩ := r
  refine triple_bind (triple_retryCapabilities hch hb 2 hinfo) fun info =>
    triple_fact fun hinfo => ?_
  have hcaps : info.chCapFlags = b.capabilities ∨ info.chCapFlags = 0 := hinfo.imp_right And.left
  refine triple_bind (brings_output hch hb hcaps {}) fun out => triple_fact fun hout =>
    triple_bind (brings_protection hch hb hcaps out) fun prot => triple_fact fun hprot =>
      triple_bind (brings_outputEnabled hch hb hcaps prot) fun cfg => triple_ret ?_
  rintro s ⟨henabled, hs⟩
  have hcopied : Copied sch b (scanBlocks info.chCapFlags) {} cfg :=
    hout.append (hprot.append henabled)
  refine ⟨⟨hinfo, ?_⟩, hs⟩
  rcases hinfo with hknown | ⟨hzero, hlost⟩
  · rwa [← hknown]
  · rw [hzero] at hcopied
    exact hcopied.fewer (scanBlocks_zero _) hlost

/-! ## All channels -/

theorem keeps_true : Keeps (σ := σ) bd bs (fun _ => True) = Holds bd bs := by
  funext st
  exact and_true _

/-- The channels of the list are staged as the board has them, and the others stay. -/
theorem triple_scanChannels (hstatus : StatusAnswered sch)
    (hbanks : bd.vc.maxChannels.toNat ≤ bs.length) (chs : List Nat)
    (hchs : ∀ c ∈ chs, c < bd.vc.maxChannels.toNat) {staged : ScannedData}
    (hstaged : Identified sch bd staged.sysInfo) :
    Triple (lineAnswer wire) (Hears sch slaveId text (Holds (σ := σ) bd bs))
      (scanChannels chs staged)
      fun r s => (Identified sch bd r.sysInfo ∧
        ∀ c, (c ∈ chs → ∃ b, bs[c]? = some b ∧ Scanned sch b (r.chInfo c) (r.chCfg c)) ∧
          (c ∉ chs → r.chInfo c = staged.chInfo c ∧ r.chCfg c = staged.chCfg c)) ∧
        Hears sch slaveId text (Holds bd bs) s := by
  induction chs generalizing staged with
  | nil => exact triple_ret fun s hs => ⟨⟨hstaged, fun c => ⟨nofun, fun _ => ⟨rfl, rfl⟩⟩⟩, hs⟩
  | cons c chs ih =>
    have hc : c < bd.vc.maxChannels.toNat := hchs c List.mem_cons_self
    obtain ⟨b, hb⟩ : ∃ b, bs[c]? = some b :=
      ⟨_, List.getElem?_eq_getElem (Nat.lt_of_lt_of_le hc hbanks)⟩
    obtain ⟨ch, rfl⟩ : ∃ ch : UInt8, ch.toNat = c :=
      ⟨UInt8.ofNat c, UInt8.toNat_ofNat_of_lt' (Nat.lt_trans hc bd.vc.maxChannels.toNat_lt)⟩
    refine triple_bind (triple_scanChannel (UInt8.lt_iff_toNat_lt.mpr hc) hb) fun r =>
      triple_fact fun hscanned => ?_
    obtain ⟨info, cfg⟩ := r
    have hsystem : Triple (lineAnswer wire)
        (Hears sch slaveId text (Keeps (σ := σ) bd bs fun _ => True))
        (readSystemStatus staged.sysInfo) fun r s => Identified sch bd r ∧
          Hears sch slaveId text (Keeps bd bs fun _ => True) s :=
      triple_readSystemStatus hstatus hstaged
    rw [keeps_true] at hsystem
    refine triple_bind hsystem fun sysInfo => triple_fact fun hsys => ?_
    refine (ih (fun c hmem => hchs c (List.mem_cons_of_mem _ hmem)) hsys).mono (fun _ hs => hs) ?_
    rintro r s ⟨⟨hinfo, hall⟩, hs⟩
    refine ⟨⟨hinfo, fun c => ⟨fun hmem => ?_, fun hmem => ?_⟩⟩, hs⟩
    · by_cases hrest : c ∈ chs
      · exact (hall c).1 hrest
      · obtain rfl : c = ch.toNat := (List.mem_cons.mp hmem).resolve_right hrest
        obtain ⟨hinfo, hcfg⟩ := (hall _).2 hrest
        dsimp only at hinfo hcfg
        rw [if_pos rfl] at hinfo hcfg
        rw [hinfo, hcfg]
        exact ⟨b, hb, hscanned⟩
    · obtain ⟨hne, hrest⟩ := not_or.mp (mt List.mem_cons.mpr hmem)
      obtain ⟨hinfo, hcfg⟩ := (hall c).2 hrest
      dsimp only at hinfo hcfg
      rw [if_neg hne] at hinfo hcfg
      exact ⟨hinfo, hcfg⟩

theorem numChannels_identified {info : SystemInfo} (hinfo : Identified sch bd info) :
    numChannels info = bd.vc.maxChannels.toNat := by
  obtain ⟨x, -, rfl⟩ := hinfo
  have h16 : bd.vc.maxChannels.toNat ≤ 16 := UInt8.le_iff_toNat_le.mp bd.vc.maxChannels_range
  unfold numChannels infoOf maxChannels
  dsimp only
  split <;> omega

/-- The picture that a host has of a board after a full scan. -/
structure Pictured (sch : Schedule) (bd : Board) (bs : List Bank) (next : MbAdapterConfig)
    (old data : ScannedData) : Prop where
  /-- The configuration of the next boot came, or got lost. -/
  sysCfg : data.sysCfg.slaveAddr = next.slaveAddress ∧
      data.sysCfg.baudRateCode = next.baudRateCode ∨ data.sysCfg = {} ∧ ¬ sch.Reliable
  /-- The board and all of its channels are there, or its block of registers got lost each time. -/
  board : (Identified sch bd data.sysInfo ∧ ∀ c, data.chLoaded c ↔ c < bd.vc.maxChannels.toNat) ∨
    data.sysInfo = {} ∧ (∀ c, ¬ data.chLoaded c) ∧ ¬ sch.Reliable
  /-- A channel that is there is shown as it is. -/
  channel (c : Nat) : data.chLoaded c →
    ∃ b, bs[c]? = some b ∧ Scanned sch b (data.chInfo c) (data.chCfg c)
  /-- The others stay as they were. -/
  others (c : Nat) : ¬ data.chLoaded c → data.chInfo c = old.chInfo c ∧ data.chCfg c = old.chCfg c

/-- What a full scan shows over a line on which anything may be lost is what the board has: the
board itself, the configuration of its next boot, and all of its channels. A block that got lost
shows its defaults, and nothing of another block or another channel. -/
theorem doFullScan_pictured (hstatus : StatusAnswered sch)
    (hbanks : bd.vc.maxChannels.toNat ≤ bs.length) {next : MbAdapterConfig} (aborted : Bool)
    (old : ScannedData) :
    Triple (lineAnswer wire) (Hears sch slaveId text (Keeps (σ := σ) bd bs (BootsWith next)))
      (doFullScan aborted old)
      fun data s => Pictured sch bd bs next old data ∧ Hears sch slaveId text (Holds bd bs) s := by
  refine triple_bind (triple_readWithRetry (triple_readSystemInfo hstatus {})) fun r =>
    triple_fact fun hinfo => ?_
  obtain ⟨sysInfo, again⟩ := r
  refine triple_bind (triple_readWithRetry (triple_readSystemConfig fun _ => id)) fun r =>
    triple_fact fun hcfg => ?_
  obtain ⟨sysCfg, again'⟩ := r
  dsimp only at hinfo hcfg ⊢
  -- the channels of a board that is known, and none of one that is not
  have hchannels : Triple (lineAnswer wire)
      (Hears sch slaveId text (Keeps (σ := σ) bd bs (BootsWith next)))
      (scanChannels (List.range (numChannels sysInfo)) { sysInfo, sysCfg })
      fun r s => ((Identified sch bd r.sysInfo ∧ numChannels sysInfo = bd.vc.maxChannels.toNat ∨
          r.sysInfo = {} ∧ numChannels sysInfo = 0 ∧ ¬ sch.Reliable) ∧
        ∀ c < numChannels sysInfo,
          ∃ b, bs[c]? = some b ∧ Scanned sch b (r.chInfo c) (r.chCfg c)) ∧
        Hears sch slaveId text (Holds bd bs) s := by
    refine Triple.mono (P := Hears sch slaveId text (Holds bd bs)) ?_
      (fun _ => Hears.imp fun _ => And.left) (fun _ _ => id)
    rcases hinfo with hinfo | ⟨rfl, hlost⟩
    · have hcount := numChannels_identified hinfo
      refine (triple_scanChannels hstatus hbanks _ (fun c hc => ?_) hinfo).mono (fun _ => id) ?_
      · rwa [List.mem_range, hcount] at hc
      · rintro r s ⟨⟨hr, hall⟩, hs⟩
        exact ⟨⟨.inl ⟨hr, hcount⟩, fun c hc => (hall c).1 (List.mem_range.mpr hc)⟩, hs⟩
    · exact triple_ret fun s hs => ⟨⟨.inr ⟨rfl, rfl, hlost⟩, nofun⟩, hs⟩
  refine triple_bind hchannels fun staged => triple_fact ?_
  rintro ⟨hboard, hall⟩
  refine triple_ret fun s hs => ⟨⟨hcfg, ?_, fun c hc => ?_, fun c hc => ?_⟩, hs⟩
  · rcases hboard with ⟨hstaged, hcount⟩ | ⟨hstaged, hcount, hlost⟩
    · exact .inl ⟨hstaged, fun c => hcount ▸ decide_eq_true_iff⟩
    · refine .inr ⟨hstaged, fun c hc => ?_, hlost⟩
      have hlt := of_decide_eq_true hc
      rw [hcount] at hlt
      exact Nat.not_lt_zero c hlt
  · obtain ⟨b, hb, hscanned⟩ := hall c (of_decide_eq_true hc)
    refine ⟨b, hb, ?_⟩
    dsimp only at hc ⊢
    rwa [if_pos hc, if_pos hc]
  · dsimp only at hc ⊢
    rw [if_neg hc, if_neg hc]
    exact ⟨rfl, rfl⟩

/-- A board with two channels. The first reply is lost and made good by the second read; the one
with the target and the ramp of channel 0 is lost for good, and shows as the defaults. -/
theorem doFullScan_pictured_two :
    let sch : Schedule := ⟨fun n => ⟨[.tick 100], envUp (UInt32.ofNat n), rfl⟩,
      fun n => if n = 0 ∨ n = 55 then .replyLost else .served, fun _ => "timeout"⟩
    let bd : Board := { boardHvb with vc := ⟨⟨2, true, by decide⟩, 1, -9, 0⟩ }
    let dac := channelAfter dacNode [.setField .configuredTargetVoltage 300]
    let switch := channelAfter { dacNode with capabilities := capOutputEnable } []
    let st := stationOf bd [dac, switch]
    let next := st.world.mb.adapter.bootCfg
    let r := exec (lineAnswer (.plain sch)) (doFullScan false {}) (opened 1 (single st))
    (Pictured sch bd [bank dac, bank switch] next {} r.1 ∧
      Hears sch 1 "" (Holds bd [bank dac, bank switch]) r.2.2) ∧
    r.1.sysInfo.uptimeSec = 97 ∧ r.1.sysCfg.slaveAddr = 1 ∧
      (r.1.chLoaded 0 ∧ r.1.chLoaded 1 ∧ ¬ r.1.chLoaded 2) ∧
      ((r.1.chInfo 0).chCapFlags = dac.capabilities ∧
        r.1.chCfg 0 = { ({} : ChannelConfig) with
          iProtOutputAction := .disableImmediate
          iLimitThresholdRaw := 10000 }) ∧
      (r.1.chInfo 1).chCapFlags = capOutputEnable :=
  ⟨doFullScan_pictured (fun _ _ => rfl) (by decide) false {} _
    (hears_opened (at_single ⟨⟨rfl, rfl⟩, ⟨rfl, rfl, by decide, rfl⟩, rfl⟩)), by decide +kernel⟩

end FullScan
