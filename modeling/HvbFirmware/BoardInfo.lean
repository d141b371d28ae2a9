import HvbFirmware.RegisterFile

/-!
# What a host learns of a board

The handshake of a session and the system block, over boards on a line. The registers of one read
are taken one after another while the board goes on, and the two words of a 32-bit register are one
sample all the same. A sweep over addresses finds the boards that are there.
-/
namespace BoardInfo

open VcTypes VcController RegCatalog ModbusRegister VcCatalog MbServer PsbBoardSession HostSession
  SerialBus BoardLine Interaction Program Runs

variable {σ : Type}

/-! ## The session -/

structure SystemInfo where
  protoMajor : Int := 0
  protoMinor : Int := 0
  variantId : Int := 0
  boardHwRevision : Int := 0
  sysCapFlags : UInt16 := 0
  supportedChannels : Int := 0
  activeChMask : UInt16 := 0
  boardTempRaw : Int16 := 0
  boardHumidityRaw : UInt16 := 0
  uptimeSec : UInt32 := 0
  fwVersion : UInt32 := 0
  activeOpMode : OperatingMode := .normal
  sysStatus : UInt16 := 0
  faultCause : UInt16 := 0
  currentUnitExp : Int16 := -10
  deriving DecidableEq, Repr

/-- `reg::protocolCompatible` -/
def protocolCompatible (major minor : Int) : Bool :=
  major = vcProtocolMajor.toNat ∧ minor ≥ vcProtocolMinor.toNat

/-- `verifyProtocol`: the error is what `lastError` says then, and a session without one is
verified. -/
def verifyProtocol (timeoutOverrideMs : Int) : SessionProgram (Except String Unit) := do
  match ← ask (SessionCall.readRegsInternal false (sysAddr 0) 2 timeoutOverrideMs) with
  | none => return .error "no response from board — check baud rate, slave ID, and cabling"
  | some probe =>
    let protoMajor : Int := (probe.get ⟨0, Nat.two_pos⟩).toNat
    let protoMinor : Int := (probe.get ⟨1, Nat.one_lt_two⟩).toNat
    if protoMajor < 1 ∨ protoMajor > 15 then
      return .error ("unexpected protocol version " ++ toString protoMajor ++
        " — check baud rate and slave ID")
    else if !protocolCompatible protoMajor protoMinor then
      return .error ("firmware protocol v" ++ toString protoMajor ++ "." ++ toString protoMinor ++
        " is incompatible with this tool (requires v" ++ toString vcProtocolMajor.toNat ++ "." ++
        toString vcProtocolMinor.toNat ++ " or newer, same major version)")
    else
      return .ok ()

/-- The fields that a read of the whole block sets: all of them. -/
def SystemInfo.ofBlock (buf : Vector UInt16 17) : SystemInfo where
  protoMajor := (buf.get 0).toNat
  protoMinor := (buf.get 1).toNat
  variantId := (buf.get 2).toNat
  boardHwRevision := (buf.get 16).toNat
  sysCapFlags := buf.get 3
  supportedChannels := (buf.get 4).toNat
  activeChMask := buf.get 5
  boardTempRaw := (buf.get 6).toInt16
  boardHumidityRaw := buf.get 7
  uptimeSec := uint32FromRegs (buf.get 8) (buf.get 9)
  fwVersion := uint32FromRegs (buf.get 10) (buf.get 11)
  activeOpMode := .ofValue (buf.get 12)
  sysStatus := buf.get 13
  faultCause := buf.get 14
  currentUnitExp :=
    if (buf.get 0).toNat > 3 ∨ (buf.get 0).toNat = 3 ∧ (buf.get 1).toNat ≥ 2 then
      (buf.get 15).toInt16
    else -10

def readSystemInfo (out : SystemInfo) : SessionProgram SystemInfo := do
  if !(← ask SessionCall.checkConnected) then
    return out
  else
    match ← readInputRegs (sysAddr 0) 17 with
    | none => return out
    | some buf => return SystemInfo.ofBlock buf

/-! ## Registers of the system block -/

/-- What a board answers to a read of the system block: the values that may change, each as it is
when its register is read. -/
structure Sample where
  temperature : UInt16
  humidity : UInt16
  uptime : UInt32
  fwVersion : UInt32
  mode : UInt16

def capabilityFlags (vb : VcBuild) : UInt16 :=
  sysCapAutomaticMode ||| sysCapCalibrationMode ||| if vb.hasSysStatus then sysCapEnvSensor else 0

/-- The registers that show it. -/
def Sample.word (vb : VcBuild) (x : Sample) : Nat → UInt16
  | 0 => vcProtocolMajor
  | 1 => vcProtocolMinor
  | 2 => vb.variantId
  | 3 => capabilityFlags vb
  | 4 => vb.maxChannels.toUInt16
  | 5 => UInt16.ofNat ((1 <<< vb.maxChannels.toNat) - 1)
  | 6 => if vb.hasSysStatus then x.temperature else 0
  | 7 => if vb.hasSysStatus then x.humidity else 0
  | 8 => hiWord x.uptime
  | 9 => loWord x.uptime
  | 10 => hiWord x.fwVersion
  | 11 => loWord x.fwVersion
  | 12 => x.mode
  | 13 => 0
  | 14 => 0
  | 15 => vb.currentUnitExp.toUInt16
  | 16 => vb.boardHwRevision
  | _ => 0

/-- The sample has what a register shows at one moment. -/
def Sample.Taken (x : Sample) (e : Env) (mode : OperatingMode) : Nat → Prop
  | 6 => x.temperature = (e.sysStatus .boardTemperature).2.toUInt16
  | 7 => x.humidity = (e.sysStatus .boardHumidity).2.toUInt16
  | 8 => x.uptime = (e.sysStatus .uptime).2
  | 10 => x.fwVersion = (e.sysStatus .fwVersion).2
  | 12 => x.mode = mode.toValue
  | _ => True

/-- Before a low word the latch holds the value whose high word was read. -/
def Sample.Latched (x : Sample) (off : Nat) (latch : WordLatch) : Prop :=
  (off = 9 → latch = ⟨SysStatusReg.uptime.descriptor.id, x.uptime, true⟩) ∧
    (off = 11 → latch = ⟨SysStatusReg.fwVersion.descriptor.id, x.fwVersion, true⟩)

/-- The sensors, the uptime and the version have values. -/
def StatusAnswered (sch : Schedule) : Prop :=
  ∀ n reg, ((sch.moment n).env.sysStatus reg).1 = .ok

section Reads

variable {bd : Board} {e : Env} {w : World σ}

theorem addrDecode_sys {off : Nat} (h : off < chBlockSize) :
    addrDecode (UInt16.ofNat off) = some (.sys off) := by
  have hnat : (UInt16.ofNat off).toNat = off :=
    UInt16.toNat_ofNat_of_lt' (Nat.lt_trans h (by decide))
  unfold addrDecode
  rw [hnat, if_pos h]

theorem inputRd_sys {off : Nat} (h : off < chBlockSize) :
    inputRd bd e w (UInt16.ofNat off) =
      let r := readWire (answers bd e w) .requested (sysInputView bd.vc.toBuild off) 0 w.latch
      ((toMb r).1, { w with latch := r.2 }) := by
  unfold inputRd
  rw [WordCoherence.inputRd_sys (addrDecode_sys h)]
  rfl

theorem toMb_ok {r : Except RegStatus UInt16 × WordLatch} {value : UInt16} (h : r.1 = .ok value) :
    (toMb r).1 = .ok value := by
  simp only [toMb, h]

theorem read_status (hstatus : ∀ reg, (e.sysStatus reg).1 = .ok) (reg : SysStatusReg) :
    regReadDescriptor ((answers bd e w).read .requested) reg.descriptor =
      (.ok, (e.sysStatus reg).2) := by
  have hread : regReadDescriptor ((answers bd e w).read .requested) reg.descriptor =
      e.sysStatus reg := by cases reg <;> rfl
  rw [hread]
  exact Prod.ext (hstatus reg) rfl

/-- A 16-bit register. -/
theorem sysRead_narrow {off : Nat} {desc : RegDescriptor} (hoff : off < chBlockSize)
    (hview : sysInputView bd.vc.toBuild off = sysWire desc 0) (h16 : desc.type.is32 = false)
    {value : UInt32}
    (hvalue : regReadDescriptor ((answers bd e w).read .requested) desc = (.ok, value)) :
    (inputRd bd e w (UInt16.ofNat off)).1 = .ok (narrow desc.type value) := by
  rw [inputRd_sys hoff, hview]
  refine toMb_ok ?_
  have hread := readWire_u16 (answers bd e w) .requested ⟨fun _ => some desc, 0⟩ 0 rfl h16 w.latch
  rw [hvalue] at hread
  exact hread

theorem sysRead_global {off : Nat} (reg : GlobalReg) (hoff : off < chBlockSize)
    (hview : sysInputView bd.vc.toBuild off = sysWire reg.descriptor 0)
    (h16 : reg.row.type.is32 = false) (hrun : e.adm.running) {value : UInt32}
    (hvalue : globalValue bd.vc w.ctrl reg = (.ok, value)) :
    (inputRd bd e w (UInt16.ofNat off)).1 = .ok (narrow reg.row.type value) := by
  rw [inputRd_sys hoff, hview]
  exact toMb_ok (readWire_global hrun .requested reg h16 hvalue w.latch)

theorem sysRead_u16 {off : Nat} (reg : GlobalReg) (hoff : off < chBlockSize)
    (hview : sysInputView bd.vc.toBuild off = sysWire reg.descriptor 0)
    (h16 : reg.row.type.is32 = false) (hbool : reg.row.type ≠ .bool) (hrun : e.adm.running)
    {value : UInt16} (hvalue : globalValue bd.vc w.ctrl reg = (.ok, u16 value)) :
    (inputRd bd e w (UInt16.ofNat off)).1 = .ok value := by
  have hread := sysRead_global reg hoff hview h16 hrun hvalue
  rwa [narrow, if_neg hbool, toUInt16_u16] at hread

/-- A high word is left in the latch. -/
theorem sysRead_high {off : Nat} {desc : RegDescriptor} (hoff : off < chBlockSize)
    (hview : sysInputView bd.vc.toBuild off = sysWire desc 0) (h32 : desc.type.is32)
    (haccess : desc.access ≠ .wo) {value : UInt32}
    (hvalue : regReadDescriptor ((answers bd e w).read .requested) desc = (.ok, value)) :
    (inputRd bd e w (UInt16.ofNat off)).1 = .ok (hiWord value) ∧
      (inputRd bd e w (UInt16.ofNat off)).2.latch = ⟨desc.id, value, true⟩ := by
  have hread : readWire (answers bd e w) .requested (sysWire desc 0) 0 w.latch =
      (.ok (hiWord value), ⟨desc.id, value, true⟩) := by
    have hhigh : latchHit w.latch desc 0 = false := by simp [latchHit]
    refine (WordCoherence.readWire_half rfl h32 haccess .requested w.latch).trans ?_
    rw [hvalue, if_neg (by simp [hhigh])]
    rfl
  rw [inputRd_sys hoff, hview, hread]
  exact ⟨rfl, rfl⟩

/-- A low word comes from the latch. -/
theorem sysRead_low {off : Nat} {desc : RegDescriptor} (hoff : off < chBlockSize)
    (hview : sysInputView bd.vc.toBuild off = sysWire desc 1) (h32 : desc.type.is32)
    {value : UInt32} (hlatch : w.latch = ⟨desc.id, value, true⟩) :
    (inputRd bd e w (UInt16.ofNat off)).1 = .ok (loWord value) := by
  have hhit : latchHit w.latch desc 1 := by simp [latchHit, hlatch, h32]
  rw [inputRd_sys hoff, hview]
  refine toMb_ok ?_
  simp only [readWire, sysWire, hhit, if_true]
  rw [hlatch]

/-- The sensor of a build that has one. -/
theorem sysRead_sensor {off : Nat} (reg : SysStatusReg) (hoff : off < chBlockSize)
    (hview : sysInputView bd.vc.toBuild off = sysStatusWire bd.vc.toBuild reg)
    (h16 : reg.row.type.is32 = false) (hbool : reg.row.type ≠ .bool)
    (hstatus : ∀ reg, (e.sysStatus reg).1 = .ok) :
    (inputRd bd e w (UInt16.ofNat off)).1 =
      .ok (if bd.vc.hasSysStatus then (e.sysStatus reg).2.toUInt16 else 0) := by
  by_cases hsensor : bd.vc.hasSysStatus
  · rw [if_pos hsensor]
    have hwire : sysInputView bd.vc.toBuild off = sysWire reg.descriptor 0 := by
      rw [hview]
      unfold sysStatusWire
      rw [hsensor]
      rfl
    have hread := sysRead_narrow (w := w) hoff hwire h16 (read_status hstatus reg)
    have htype : reg.descriptor.type ≠ .bool := hbool
    rwa [narrow, if_neg htype] at hread
  · rw [if_neg hsensor, inputRd_sys hoff, hview]
    refine toMb_ok ?_
    simp only [readWire, sysStatusWire, hsensor]
    rfl

/-- One register of the block. -/
theorem sysRead (bd : Board) {x : Sample} {off : Nat} (hoff : off < 17) (hrun : e.adm.running)
    (hstatus : ∀ reg, (e.sysStatus reg).1 = .ok)
    (htaken : x.Taken e w.ctrl.operatingMode off) (hlatch : x.Latched off w.latch) :
    (inputRd bd e w (UInt16.ofNat off)).1 = .ok (x.word bd.vc off) ∧
      x.Latched (off + 1) (inputRd bd e w (UInt16.ofNat off)).2.latch := by
  have hblock : off < chBlockSize := Nat.lt_trans hoff (by decide)
  match off, hblock, htaken, hlatch with
  | 0, h, _, _ =>
    have hview : sysInputView bd.vc.toBuild 0 = sysWire ModbusReg.protocolMajor.descriptor 0 := rfl
    exact ⟨sysRead_narrow h hview rfl rfl, nofun, nofun⟩
  | 1, h, _, _ =>
    have hview : sysInputView bd.vc.toBuild 1 = sysWire ModbusReg.protocolMinor.descriptor 0 := rfl
    exact ⟨sysRead_narrow h hview rfl rfl, nofun, nofun⟩
  | 2, h, _, _ => exact ⟨sysRead_u16 .variantId h rfl rfl nofun hrun rfl, nofun, nofun⟩
  | 3, h, _, _ => exact ⟨sysRead_u16 .capabilityFlags h rfl rfl nofun hrun rfl, nofun, nofun⟩
  | 4, h, _, _ => exact ⟨sysRead_u16 .supportedChannels h rfl rfl nofun hrun rfl, nofun, nofun⟩
  | 5, h, _, _ => exact ⟨sysRead_u16 .activeChannelMask h rfl rfl nofun hrun rfl, nofun, nofun⟩
  | 6, h, htaken, _ =>
    refine ⟨?_, nofun, nofun⟩
    rw [sysRead_sensor .boardTemperature h rfl rfl nofun hstatus, ← htaken]
    rfl
  | 7, h, htaken, _ =>
    refine ⟨?_, nofun, nofun⟩
    rw [sysRead_sensor .boardHumidity h rfl rfl nofun hstatus, ← htaken]
    rfl
  | 8, h, htaken, _ =>
    have hview : sysInputView bd.vc.toBuild 8 = sysWire SysStatusReg.uptime.descriptor 0 := rfl
    obtain ⟨hread, hlatch⟩ := sysRead_high h hview rfl nofun (read_status hstatus .uptime)
    rw [← htaken] at hread hlatch
    exact ⟨hread, fun _ => hlatch, nofun⟩
  | 9, h, _, hlatch =>
    exact ⟨sysRead_low h rfl rfl (hlatch.1 rfl), nofun, nofun⟩
  | 10, h, htaken, _ =>
    have hview : sysInputView bd.vc.toBuild 10 = sysWire SysStatusReg.fwVersion.descriptor 0 := rfl
    obtain ⟨hread, hlatch⟩ := sysRead_high h hview rfl nofun (read_status hstatus .fwVersion)
    rw [← htaken] at hread hlatch
    exact ⟨hread, nofun, fun _ => hlatch⟩
  | 11, h, _, hlatch =>
    exact ⟨sysRead_low h rfl rfl (hlatch.2 rfl), nofun, nofun⟩
  | 12, h, htaken, _ =>
    refine ⟨sysRead_u16 .activeOperatingMode h rfl rfl nofun hrun ?_, nofun, nofun⟩
    have hmode : x.mode = w.ctrl.operatingMode.toValue := htaken
    rw [Sample.word, hmode]
    rfl
  | 13, h, _, _ => exact ⟨sysRead_u16 .status h rfl rfl nofun hrun rfl, nofun, nofun⟩
  | 14, h, _, _ => exact ⟨sysRead_u16 .faultCause h rfl rfl nofun hrun rfl, nofun, nofun⟩
  | 15, h, _, _ =>
    have hvalue : globalValue bd.vc w.ctrl .currentUnitExp = (.ok, s16 bd.vc.currentUnitExp) := rfl
    have hread := sysRead_global .currentUnitExp h rfl rfl hrun hvalue
    exact ⟨hread.trans (congrArg _ (toUInt16_s16 _)), nofun, nofun⟩
  | 16, h, _, _ => exact ⟨sysRead_u16 .boardHwRevision h rfl rfl nofun hrun rfl, nofun, nofun⟩
  | n + 17, _, _, _ => exact absurd hoff (by omega)

end Reads

/-! ## The block, while the board goes on -/

/-- The controller after what has happened before the register at an offset is read, that register
not included. -/
def course (sch : Schedule) (k : Kconfig) (clock : Nat) (ctrl : Controller σ) : Nat → Controller σ
  | 0 => ctrl
  | n + 1 => exec (ControllerOp.step k) (course sch k clock ctrl n)
      ((sch.moment (clock + n)).events.map BoardEvent.op)

/-- What the block shows to a request that begins at a time. -/
def sampleAt (sch : Schedule) (clock : Nat) (st : Station σ) : Sample where
  temperature := ((sch.moment (clock + 6)).env.sysStatus .boardTemperature).2.toUInt16
  humidity := ((sch.moment (clock + 7)).env.sysStatus .boardHumidity).2.toUInt16
  uptime := ((sch.moment (clock + 8)).env.sysStatus .uptime).2
  fwVersion := ((sch.moment (clock + 10)).env.sysStatus .fwVersion).2
  mode := (course sch st.bd.k clock st.world.ctrl 13).operatingMode.toValue

theorem taken_sampleAt (sch : Schedule) (clock : Nat) (st : Station σ) (off : Nat) :
    (sampleAt sch clock st).Taken (sch.moment (clock + off)).env
      (course sch st.bd.k clock st.world.ctrl (off + 1)).operatingMode off := by
  unfold Sample.Taken
  split <;> first | rfl | trivial

/-- A row of registers, if the sample has what each shows when its turn comes. -/
theorem readMany_words {sch : Schedule} (hstatus : StatusAnswered sch) (clock : Nat)
    (st : Station σ) (off : Nat) {x : Sample} {count : Nat} (hcount : off + count ≤ 17)
    (hhigh : off ≠ 9 ∧ off ≠ 11) (htaken : ∀ i, x.Taken (sch.moment (clock + i)).env
      (course sch st.bd.k clock st.world.ctrl (i + 1)).operatingMode (off + i)) :
    ∃ st', readMany sch inputRd (UInt16.ofNat off) clock count st =
        (some (Vector.ofFn fun i => x.word st.bd.vc (off + i)), st') ∧
      st'.bd = st.bd ∧ st'.world.ctrl = course sch st.bd.k clock st.world.ctrl count ∧
      st'.world.mb = st.world.mb := by
  have hwalk : ∃ regs st', readMany sch inputRd (UInt16.ofNat off) clock count st =
      (some regs, st') ∧
      (∀ i (hi : i < count), regs[i] = x.word st.bd.vc (off + i)) ∧ st'.bd = st.bd ∧
      st'.world.ctrl = course sch st.bd.k clock st.world.ctrl count ∧
      st'.world.mb = st.world.mb ∧ x.Latched (off + count) st'.world.latch := by
    refine readMany_invariant
      (fun n regs st' => (∀ i (hi : i < n), regs[i] = x.word st.bd.vc (off + i)) ∧
        st'.bd = st.bd ∧ st'.world.ctrl = course sch st.bd.k clock st.world.ctrl n ∧
        st'.world.mb = st.world.mb ∧ x.Latched (off + n) st'.world.latch) clock
      ⟨nofun, rfl, rfl, rfl, fun h => absurd h hhigh.1, fun h => absurd h hhigh.2⟩ ?_
    rintro n hn regs st' ⟨hregs, hbd, hctrl, hmb, hlatch⟩
    have hsettled : (st'.settle (sch.moment (clock + n))).ctrl =
        course sch st.bd.k clock st.world.ctrl (n + 1) := by
      rw [Station.settle, course, ← hctrl, hbd]
    have hnow := htaken n
    rw [← hsettled] at hnow
    obtain ⟨hvalue, hlatch'⟩ := sysRead (w := st'.settle (sch.moment (clock + n))) st'.bd
      (by omega) (sch.moment (clock + n)).running (hstatus (clock + n)) hnow hlatch
    rw [← UInt16.ofNat_add]
    refine ⟨x.word st.bd.vc (off + n), _, Prod.ext ?_ rfl, fun i hi => ?_, hbd, hsettled, hmb,
      hlatch'⟩
    · rw [← hbd]
      exact hvalue
    rw [Vector.getElem_push]
    split
    next hlt => exact hregs i hlt
    next hge => rw [Nat.le_antisymm (Nat.not_lt.mp hge) (Nat.lt_succ_iff.mp hi)]
  obtain ⟨regs, st', hread, hregs, hbd, hctrl, hmb, -⟩ := hwalk
  have hword : regs = Vector.ofFn fun i => x.word st.bd.vc (off + i) := by
    ext i hi
    rw [Vector.getElem_ofFn, hregs i hi]
  exact ⟨st', hword ▸ hread, hbd, hctrl, hmb⟩

/-- The registers from the first on. -/
theorem readMany_block {sch : Schedule} (hstatus : StatusAnswered sch) (clock : Nat)
    (st : Station σ) {count : Nat} (hcount : count ≤ 17) :
    ∃ st', readMany sch inputRd (sysAddr 0) clock count st =
        (some (Vector.ofFn fun i => (sampleAt sch clock st).word st.bd.vc i), st') ∧
      st'.bd = st.bd ∧ st'.world.ctrl = course sch st.bd.k clock st.world.ctrl count ∧
      st'.world.mb = st.world.mb := by
  have hwords := readMany_words (x := sampleAt sch clock st) hstatus clock st 0
    (Nat.zero_add count ▸ hcount) (by decide)
    fun i => (Nat.zero_add i).symm ▸ taken_sampleAt sch clock st i
  simp only [Nat.zero_add] at hwords
  exact hwords

/-! ## What the host makes of it -/

/-- The board as a host sees it. -/
def infoOf (vb : VcBuild) (x : Sample) : SystemInfo where
  protoMajor := vcProtocolMajor.toNat
  protoMinor := vcProtocolMinor.toNat
  variantId := vb.variantId.toNat
  boardHwRevision := vb.boardHwRevision.toNat
  sysCapFlags := capabilityFlags vb
  supportedChannels := vb.maxChannels.toNat
  activeChMask := UInt16.ofNat ((1 <<< vb.maxChannels.toNat) - 1)
  boardTempRaw := if vb.hasSysStatus then x.temperature.toInt16 else 0
  boardHumidityRaw := if vb.hasSysStatus then x.humidity else 0
  uptimeSec := x.uptime
  fwVersion := x.fwVersion
  activeOpMode := .ofValue x.mode
  sysStatus := 0
  faultCause := 0
  currentUnitExp := vb.currentUnitExp

/-- A word cut in halves and put together. -/
theorem uint32FromRegs_halves (value : UInt32) :
    uint32FromRegs (hiWord value) (loWord value) = value := by
  have hhi : (hiWord value).toNat = value.toNat / 65536 := by
    have hlt := value.toNat_lt
    simp only [hiWord, UInt32.toNat_toUInt16, UInt32.toNat_shiftRight, Nat.shiftRight_eq_div_pow]
    show value.toNat / 65536 % 65536 = _
    omega
  have hlo : (loWord value).toNat = value.toNat % 65536 := UInt32.toNat_toUInt16 value
  have hshift : ((hiWord value).toUInt32 <<< 16).toNat = (hiWord value).toNat <<< 16 := by
    have hlt := (hiWord value).toNat_lt
    simp only [UInt32.toNat_shiftLeft, UInt16.toNat_toUInt32, Nat.shiftLeft_eq]
    show (hiWord value).toNat * 65536 % 4294967296 = _ * 65536
    omega
  refine UInt32.toNat_inj.mp ?_
  rw [uint32FromRegs, UInt32.toNat_or, hshift, UInt16.toNat_toUInt32,
    ← Nat.shiftLeft_add_eq_or_of_lt (loWord value).toNat_lt, hhi, hlo, Nat.shiftLeft_eq]
  exact Nat.div_add_mod' value.toNat 65536

theorem get_ofFn {α : Type} {n : Nat} (f : Fin n → α) (i : Fin n) : (Vector.ofFn f).get i = f i :=
  Vector.getElem_ofFn i.isLt

theorem temperature_word (vb : VcBuild) (x : Sample) : (x.word vb 6).toInt16 =
    if vb.hasSysStatus then x.temperature.toInt16 else 0 := by
  simp only [Sample.word]
  split <;> rfl

theorem ofBlock_word (vb : VcBuild) (x : Sample) :
    SystemInfo.ofBlock (Vector.ofFn fun i => x.word vb i) = infoOf vb x := by
  have hchannels : ((x.word vb 4).toNat : Int) = vb.maxChannels.toNat :=
    congrArg Int.ofNat (UInt8.toNat_toUInt16 vb.maxChannels)
  have hexp : (if (x.word vb 0).toNat > 3 ∨ (x.word vb 0).toNat = 3 ∧ (x.word vb 1).toNat ≥ 2 then
      (x.word vb 15).toInt16 else -10) = vb.currentUnitExp :=
    Int16.toInt16_toUInt16 vb.currentUnitExp
  simp only [SystemInfo.ofBlock, infoOf, get_ofFn, SystemInfo.mk.injEq]
  exact ⟨rfl, rfl, rfl, rfl, rfl, hchannels, rfl, temperature_word vb x, rfl,
    uint32FromRegs_halves _, uint32FromRegs_halves _, rfl, rfl, rfl, hexp⟩

/-! ## Over the line -/

/-- The boards under the addresses, whatever state they are in. -/
def Boards (bds : UInt8 → Option Board) (line : Line σ) : Prop :=
  ∀ unit, (line.stations unit).map Station.bd = bds unit

section Requests

variable {sch : Schedule} {wire : Wire σ sch} {unit : UInt8} {line : Line σ}
  {bds : UInt8 → Option Board}

theorem request_absent (sch : Schedule) (hst : line.stations unit = none) (count : Nat) {α : Type}
    (serve : Station σ → Option α × Station σ) :
    let r := line.request sch unit count serve
    r.1.toOption = none ∧ r.2.stations = line.stations := by
  have hnone : (if sch.fate line.clock = .requestLost then none else line.stations unit) =
      none := by rw [hst, ite_self]
  simp only [Line.request, hnone]
  exact ⟨rfl, trivial⟩

/-- A request for registers of the system block. -/
theorem request_block (hstatus : StatusAnswered sch) {st : Station σ}
    (hst : line.stations unit = some st) {count : Nat} (hcount : count ≤ 17)
    (hline : Boards bds line) :
    let r := line.request sch unit count (readMany sch inputRd (sysAddr 0) line.clock count)
    let x := sampleAt sch line.clock st
    r.1.toOption =
        (if sch.fate line.clock = .served then some (Vector.ofFn fun i => x.word st.bd.vc i)
        else none) ∧ Boards bds r.2 := by
  intro r x
  obtain ⟨st', hread, hbd, -⟩ := readMany_block hstatus line.clock st hcount
  have hdone (hfate : sch.fate line.clock ≠ .requestLost) : r =
      (if sch.fate line.clock = .replyLost then .error (sch.text line.clock)
        else .ok (Vector.ofFn fun i => x.word st.bd.vc i),
        ⟨fun u => if u = unit then some st' else line.stations u, line.clock + count + 1⟩) := by
    simp only [r, x, Line.request, hfate, if_false, hst, hread]
  have hboards (hfate : sch.fate line.clock ≠ .requestLost) : Boards bds r.2 := by
    intro u
    rw [hdone hfate, ← hline u]
    by_cases hu : u = unit
    · subst hu
      simp only [if_true, hst, Option.map_some, hbd]
    · simp only [if_neg hu]
  cases hfate : sch.fate line.clock with
  | requestLost =>
    simp only [r, Line.request, hfate, if_true]
    exact ⟨rfl, hline⟩
  | served =>
    refine ⟨?_, hboards (by simp [hfate])⟩
    rw [hdone (by simp [hfate]), hfate]
    rfl
  | replyLost =>
    refine ⟨?_, hboards (by simp [hfate])⟩
    rw [hdone (by simp [hfate]), hfate]
    rfl

theorem triple_line_read {slaveId : Int} {addr : UInt16} {count : Nat} {timeout : Int}
    {Φ Ψ : Line σ → Prop} {G : Option (Vector UInt16 count) → Prop}
    (h : ∀ line, Φ line →
      let r := line.request sch (UInt8.ofInt slaveId) count
        (readMany sch inputRd addr line.clock count)
      G r.1.toOption ∧ Ψ r.2) :
    Triple (lineAnswer wire) (OnPort slaveId fun _ => Φ)
      (ask (SessionCall.readRegsInternal false addr count timeout))
      fun r s => G r ∧ OnPort slaveId (fun _ => Ψ) s := by
  refine (triple_readRegs (Ψ := fun r _ line => G r ∧ Ψ line) ?_).mono (fun _ => id) ?_
  · intro text line hline
    have hrequest : SerialBus.request wire.lib false line (UInt8.ofInt slaveId) addr count
        timeout = line.request sch (UInt8.ofInt slaveId) count
          (readMany sch inputRd addr line.clock count) := wire.inputs_served _ _ _ _ _
    rw [hrequest]
    have hline' := h line hline
    generalize line.request sch (UInt8.ofInt slaveId) count
      (readMany sch inputRd addr line.clock count) = r at hline' ⊢
    obtain ⟨res, line'⟩ := r
    cases res <;> exact hline'
  · rintro r s ⟨hslave, bus, line', hbus, hconnected, htest, hport, hgood, hline'⟩
    exact ⟨hgood, hslave, bus, line', hbus, hconnected, htest, hport, hline'⟩

theorem triple_connected {slaveId : Int} {Φ : Line σ → Prop} :
    Triple (lineAnswer wire) (OnPort slaveId fun _ => Φ) (ask SessionCall.checkConnected)
      fun r s => r = true ∧ OnPort slaveId (fun _ => Φ) s := triple_checkConnected

end Requests

/-! ## One board -/

section Session

variable {sch : Schedule} {wire : Wire σ sch} {slaveId : Int} {bds : UInt8 → Option Board}

/-- The session is on this line. -/
def OnLine (slaveId : Int) (line : Line σ) : Session (WholeBus (Line σ)) → Prop :=
  OnPort slaveId fun _ line' => line' = line

theorem exists_onLine {Φ : Line σ → Prop} {s : Session (WholeBus (Line σ))}
    (hs : OnPort slaveId (fun _ => Φ) s) : ∃ line, Φ line ∧ OnLine slaveId line s := by
  obtain ⟨hslave, bus, line, hbus, hconnected, htest, hport, hline⟩ := hs
  exact ⟨line, hline, hslave, bus, line, hbus, hconnected, htest, hport, rfl⟩

/-- A triple for each line that may be there. -/
theorem triple_onLine {α : Type} {Φ : Line σ → Prop} {p : SessionProgram α}
    {Q : α → Session (WholeBus (Line σ)) → Prop}
    (h : ∀ line, Φ line → Triple (lineAnswer wire) (OnLine slaveId line) p Q) :
    Triple (lineAnswer wire) (OnPort slaveId fun _ => Φ) p Q :=
  (triple_exists fun line => triple_fact (h line)).mono (fun _ => exists_onLine) fun _ _ => id

theorem triple_block (hstatus : StatusAnswered sch) {line : Line σ} {st : Station σ}
    (hst : line.stations (UInt8.ofInt slaveId) = some st) (hline : Boards bds line) {count : Nat}
    (hcount : count ≤ 17) {timeout : Int} :
    Triple (lineAnswer wire) (OnLine slaveId line)
      (ask (SessionCall.readRegsInternal false (sysAddr 0) count timeout))
      fun r s => r = (if sch.fate line.clock = .served then
          some (Vector.ofFn fun i => (sampleAt sch line.clock st).word st.bd.vc i) else none) ∧
        OnPort slaveId (fun _ => Boards bds) s := by
  refine triple_line_read ?_
  rintro _ rfl
  exact request_block hstatus hst hcount hline

/-- The system block in one read: each value as its register showed it when its turn came, the
uptime and the version whole although the board has gone on between their words. A record stays as
it is if the request or the reply is lost, and only then. -/
theorem readSystemInfo_info (hstatus : StatusAnswered sch) {line : Line σ} {st : Station σ}
    (hst : line.stations (UInt8.ofInt slaveId) = some st) (hline : Boards bds line)
    (out : SystemInfo) :
    Triple (lineAnswer wire) (OnLine slaveId line) (readSystemInfo out)
      fun r s => r = (if sch.fate line.clock = .served then
          infoOf st.bd.vc (sampleAt sch line.clock st) else out) ∧
        OnPort slaveId (fun _ => Boards bds) s := by
  refine triple_bind triple_connected fun connected => triple_fact ?_
  rintro rfl
  refine triple_bind (triple_block hstatus hst hline (Nat.le_refl 17)) fun r => triple_fact ?_
  rintro rfl
  by_cases hserved : sch.fate line.clock = .served
  · simp only [if_pos hserved]
    exact triple_ret fun s hs => ⟨ofBlock_word _ _, hs⟩
  · simp only [if_neg hserved]
    exact triple_ret fun s hs => ⟨rfl, hs⟩

/-- A board whose sensors, version and uptime are there. -/
def envUp (uptime : UInt32) : Env :=
  { envWith true with
    sysStatus := fun reg => (.ok, match reg with
      | .boardTemperature => 251
      | .boardHumidity => 430
      | .uptime => uptime
      | .fwVersion => 0x00020103)
    sysStatus_readable := fun _ => nofun }

/-- The uptime passes 65535 between the reads of its two words: the record has the sample of the
first word. -/
theorem readSystemInfo_info_hvb :
    let sch : Schedule := ⟨fun n => ⟨[.tick 100], envUp (UInt32.ofNat (65527 + n)), rfl⟩,
      fun _ => .served, fun _ => "timeout"⟩
    let st := stationOf boardHvb [channelAfter dacNode []]
    let line := single st
    let r := exec (lineAnswer (.plain sch)) (readSystemInfo {}) (opened 1 line)
    (r.1 = (if sch.fate line.clock = .served then
        infoOf st.bd.vc (sampleAt sch line.clock st) else {}) ∧
      OnPort 1 (fun _ => Boards fun unit => (line.stations unit).map Station.bd) r.2.2) ∧
    r.1.uptimeSec = 65535 ∧ r.1.fwVersion = 0x00020103 ∧ r.1.boardTempRaw = 251 ∧
      r.1.boardHumidityRaw = 430 := by
  refine ⟨?_, by decide +kernel⟩
  refine readSystemInfo_info ?_ ?_ ?_ {} (opened 1 _) (onPort_opened rfl)
  · exact fun _ _ => rfl
  · rfl
  · exact fun _ => rfl

/-- The handshake succeeds with a board that answers, and with nothing else. -/
theorem triple_verifyProtocol (hstatus : StatusAnswered sch) (timeout : Int) :
    Triple (lineAnswer wire) (OnPort slaveId fun _ => Boards bds) (verifyProtocol timeout)
      fun r s => (r = .ok () → (bds (UInt8.ofInt slaveId)).isSome) ∧
        (sch.Reliable → (bds (UInt8.ofInt slaveId)).isSome → r = .ok ()) ∧
        OnPort slaveId (fun _ => Boards bds) s := by
  refine triple_onLine fun line hline => ?_
  cases hst : line.stations (UInt8.ofInt slaveId) with
  | none =>
    have hnone : bds (UInt8.ofInt slaveId) = none := by rw [← hline, hst, Option.map_none]
    refine triple_bind (triple_line_read (G := (· = none)) (Ψ := Boards bds) ?_)
      fun r => triple_fact ?_
    · rintro _ rfl
      obtain ⟨hr, hkept⟩ := request_absent sch hst 2 (readMany sch inputRd (sysAddr 0) _ 2)
      refine ⟨hr, fun unit => ?_⟩
      rw [hkept]
      exact hline unit
    · rintro rfl
      refine triple_ret fun s hs => ⟨nofun, fun _ hsome => ?_, hs⟩
      rw [hnone] at hsome
      cases hsome
  | some st =>
    have hsome : bds (UInt8.ofInt slaveId) = some st.bd := by rw [← hline, hst, Option.map_some]
    refine triple_bind (triple_block hstatus hst hline (by decide)) fun r => triple_fact ?_
    rintro rfl
    by_cases hserved : sch.fate line.clock = .served
    · simp only [if_pos hserved, get_ofFn]
      exact triple_ret fun s hs => ⟨fun _ => by rw [hsome]; rfl, fun _ _ => rfl, hs⟩
    · simp only [if_neg hserved]
      exact triple_ret fun s hs => ⟨nofun, fun hsch => absurd (hsch line.clock) hserved, hs⟩

end Session

/-! ## All boards of a bus -/

def variantName (variantId : Int) : String :=
  if variantId = 1 then "jw_hvb"
  else if variantId = 2 then "jw_lvb"
  else "unknown (id=" ++ toString variantId ++ ")"

structure DiscoveredBoard where
  slaveId : Int
  variantName : String
  fwVersion : UInt32
  deriving DecidableEq, Repr

def kScanProbeTimeoutMs : Int := 200

/-- The body of the loop of `scanBus`, over a session for the address. -/
def scanProbe (id : Int) : SessionProgram (Option DiscoveredBoard) := do
  match ← verifyProtocol kScanProbeTimeoutMs with
  | .error _ => return none
  | .ok _ =>
    let info ← readSystemInfo {}
    return some ⟨id, variantName info.variantId, info.fwVersion⟩

variable {π : Type}

/-- The loop; the sessions share the bus. -/
def scanEach (lib : SerialBus.ClientPort π) :
    List Int → WholeBus π → List DiscoveredBoard × WholeBus π
  | [], bus => ([], bus)
  | id :: ids, bus =>
    let r := Interaction.exec (answer (wholeBus lib)) (scanProbe id) ⟨some bus, id, ""⟩
    let rest := scanEach lib ids (r.2.2.bus.getD bus)
    (r.1.toList ++ rest.1, rest.2)

/-- The addresses from the first to the last, in their order. -/
def candidates (startId endId : Int) : List Int :=
  (List.range (endId - startId + 1).toNat).map fun i : Nat => startId + i

def scanBus (lib : SerialBus.ClientPort π) (bus : WholeBus π) (startId endId : Int) :
    List DiscoveredBoard × WholeBus π := scanEach lib (candidates startId endId) bus

/-- What a probe says of an address: a board only where there is one, with its variant and its
version unless they got lost. -/
def Listed (sch : Schedule) (bds : UInt8 → Option Board) (b : DiscoveredBoard) : Prop :=
  ∃ bd, bds (UInt8.ofInt b.slaveId) = some bd ∧
    ((∃ n, b.variantName = variantName bd.vc.variantId.toNat ∧
        b.fwVersion = ((sch.moment n).env.sysStatus .fwVersion).2) ∨
      ¬ sch.Reliable ∧ b.variantName = variantName 0 ∧ b.fwVersion = 0)

variable {sch : Schedule} {wire : Wire σ sch} {bds : UInt8 → Option Board}

theorem triple_scanProbe (hstatus : StatusAnswered sch) (id : Int) :
    Triple (lineAnswer wire) (OnPort id fun _ => Boards bds) (scanProbe id)
      fun r s => (∀ b, r = some b → b.slaveId = id ∧ Listed sch bds b) ∧
        (sch.Reliable → (bds (UInt8.ofInt id)).isSome → r.isSome) ∧
        OnPort id (fun _ => Boards bds) s := by
  refine triple_bind (triple_verifyProtocol hstatus kScanProbeTimeoutMs) fun r =>
    triple_fact fun hfound => triple_fact fun hfinds => ?_
  cases r with
  | error text =>
    exact triple_ret fun s hs => ⟨nofun, fun hsch hsome => absurd (hfinds hsch hsome) nofun, hs⟩
  | ok _ =>
    refine triple_onLine fun line hline => ?_
    obtain ⟨bd, hbd⟩ := Option.isSome_iff_exists.mp (hfound rfl)
    have hkept := hline (UInt8.ofInt id)
    rw [hbd] at hkept
    obtain ⟨st, hst, rfl⟩ := Option.map_eq_some_iff.mp hkept
    refine triple_bind (readSystemInfo_info hstatus hst hline {}) fun info => triple_fact ?_
    intro hinfo
    refine triple_ret fun s hs => ⟨?_, fun _ _ => rfl, hs⟩
    rintro _ ⟨⟩
    refine ⟨rfl, st.bd, hbd, ?_⟩
    by_cases hserved : sch.fate line.clock = .served
    · rw [if_pos hserved] at hinfo
      exact .inl ⟨line.clock + 10, by rw [hinfo]; rfl, by rw [hinfo]; rfl⟩
    · rw [if_neg hserved] at hinfo
      exact .inr ⟨fun hsch => hserved (hsch line.clock), by rw [hinfo], by rw [hinfo]⟩

/-- A bus with an open port on the line of these boards. -/
def OnBus (bds : UInt8 → Option Board) (bus : WholeBus (Line σ)) : Prop :=
  bus.connected ∧ bus.testBoards = [] ∧ ∃ line, bus.port = some line ∧ Boards bds line

/-- The probes of a list of addresses, whatever is lost. -/
theorem scanEach_listed (hstatus : StatusAnswered sch) (ids : List Int) {bus : WholeBus (Line σ)}
    (hbus : OnBus bds bus) :
    let found := (scanEach wire.lib ids bus).1
    let there := ids.filter fun id => (bds (UInt8.ofInt id)).isSome
    (found.map (·.slaveId)).Sublist there ∧
      (sch.Reliable → found.map (·.slaveId) = there) ∧ ∀ b ∈ found, Listed sch bds b := by
  induction ids generalizing bus with
  | nil => exact ⟨List.Sublist.refl [], fun _ => rfl, nofun⟩
  | cons id ids ih =>
    obtain ⟨hconnected, htest, line, hport, hline⟩ := hbus
    have hprobes : Triple (lineAnswer wire) (OnPort id fun _ => Boards bds) (scanProbe id) _ :=
      triple_scanProbe hstatus id
    have hprobe := hprobes ⟨some bus, id, ""⟩
      ⟨rfl, bus, line, rfl, hconnected, htest, hport, hline⟩
    have hcons : scanEach wire.lib (id :: ids) bus =
        (let r := Interaction.exec (lineAnswer wire) (scanProbe id) ⟨some bus, id, ""⟩
        let rest := scanEach wire.lib ids (r.2.2.bus.getD bus)
        (r.1.toList ++ rest.1, rest.2)) := rfl
    rw [hcons]
    generalize Interaction.exec (lineAnswer wire) (scanProbe id) ⟨some bus, id, ""⟩ = r at hprobe ⊢
    obtain ⟨found, calls, s⟩ := r
    obtain ⟨hfound, hfinds, -, bus', line', hbus', hconnected', htest', hport', hline'⟩ := hprobe
    have hbus'' : OnBus bds (s.bus.getD bus) := by
      rw [hbus']
      exact ⟨hconnected', htest', line', hport', hline'⟩
    obtain ⟨hsub, hall, hlisted⟩ := ih hbus''
    cases found with
    | none =>
      refine ⟨hsub.trans ((List.sublist_cons_self id ids).filter _), fun hsch => ?_, hlisted⟩
      have habsent : ¬ (bds (UInt8.ofInt id)).isSome := fun hsome =>
        absurd (hfinds hsch hsome) nofun
      exact (hall hsch).trans
        (List.filter_cons_of_neg (p := fun id => (bds (UInt8.ofInt id)).isSome) habsent).symm
    | some b =>
      obtain ⟨hid, hb⟩ := hfound b rfl
      have hthere : (bds (UInt8.ofInt id)).isSome := by
        obtain ⟨bd, hbd, -⟩ := hb
        rw [← hid, hbd]
        rfl
      rw [List.filter_cons_of_pos (p := fun id => (bds (UInt8.ofInt id)).isSome) hthere]
      have hmap : ∀ rest : List DiscoveredBoard, (b :: rest).map (·.slaveId) =
          id :: rest.map (·.slaveId) := fun rest => by rw [List.map_cons, hid]
      refine ⟨?_, fun hsch => ?_, ?_⟩
      · exact (hmap _).symm ▸ hsub.cons_cons id
      · exact (hmap _).trans (congrArg _ (hall hsch))
      · rintro b' (_ | ⟨_, hb'⟩)
        · exact hb
        · exact hlisted b' hb'

theorem mem_candidates {startId endId id : Int} :
    id ∈ candidates startId endId ↔ startId ≤ id ∧ id ≤ endId := by
  unfold candidates
  rw [List.mem_map]
  constructor
  · rintro ⟨i, hi, rfl⟩
    rw [List.mem_range] at hi
    omega
  · rintro ⟨hstart, hend⟩
    exact ⟨(id - startId).toNat, List.mem_range.mpr (by omega), by omega⟩

theorem pairwise_candidates (startId endId : Int) :
    (candidates startId endId).Pairwise (· < ·) := by
  unfold candidates
  refine List.pairwise_map.mpr (List.Pairwise.imp ?_ List.pairwise_lt_range)
  intro i j hij
  omega

/-- A sweep over a connected bus: the boards listed are boards in the range, in ascending order and
each once, and without losses they are all of them. -/
theorem scanBus_listed (hstatus : StatusAnswered sch) {bus : WholeBus (Line σ)}
    (hbus : OnBus bds bus) (startId endId : Int) :
    let found := (scanBus wire.lib bus startId endId).1
    found.Pairwise (·.slaveId < ·.slaveId) ∧
      (∀ b ∈ found, startId ≤ b.slaveId ∧ b.slaveId ≤ endId ∧ Listed sch bds b) ∧
      (sch.Reliable → ∀ id, startId ≤ id → id ≤ endId → (bds (UInt8.ofInt id)).isSome →
        ∃ b ∈ found, b.slaveId = id) := by
  intro found
  obtain ⟨hsub, hall, hlisted⟩ := scanEach_listed hstatus (candidates startId endId) hbus
  refine ⟨?_, fun b hb => ?_, fun hsch id hstart hend hsome => ?_⟩
  · have hascending := (pairwise_candidates startId endId).sublist (hsub.trans List.filter_sublist)
    exact List.pairwise_map.mp hascending
  · have hmem := List.mem_filter.mp (hsub.subset (List.mem_map_of_mem hb))
    obtain ⟨hstart, hend⟩ := mem_candidates.mp hmem.1
    exact ⟨hstart, hend, hlisted b hb⟩
  · have hmem : id ∈ found.map (·.slaveId) := by
      refine (hall hsch).symm ▸ ?_
      exact List.mem_filter.mpr ⟨mem_candidates.mpr ⟨hstart, hend⟩, hsome⟩
    exact List.mem_map.mp hmem

/-- Two boards among eight addresses, each listed; on a line that loses the block of the second
one, that board is listed without its variant and version. -/
theorem scanBus_listed_hvb :
    let sch (fate : Nat → Fate) : Schedule :=
      ⟨fun _ => ⟨[.tick 100], envUp 20, rfl⟩, fate, fun _ => "timeout"⟩
    let st := stationOf boardHvb [channelAfter dacNode []]
    let line : Line Unit := ⟨fun unit => if unit = 1 ∨ unit = 5 then some st else none, 0⟩
    let bds : UInt8 → Option Board := fun unit => (line.stations unit).map Station.bd
    let bus : WholeBus (Line Unit) := ⟨⟨some line, true, "", 0, []⟩, fun _ => none⟩
    let found (fate : Nat → Fate) := (scanBus (Wire.plain (sch fate)).lib bus 1 8).1
    let right (fate : Nat → Fate) : Prop :=
      (found fate).Pairwise (·.slaveId < ·.slaveId) ∧
        (∀ b ∈ found fate, 1 ≤ b.slaveId ∧ b.slaveId ≤ 8 ∧ Listed (sch fate) bds b) ∧
        ((sch fate).Reliable → ∀ id, 1 ≤ id → id ≤ 8 → (bds (UInt8.ofInt id)).isSome →
          ∃ b ∈ found fate, b.slaveId = id)
    let lossy (n : Nat) : Fate := if n = 33 then .replyLost else .served
    (right (fun _ => .served) ∧ right lossy) ∧
      found (fun _ => .served) = [⟨1, "jw_hvb", 0x00020103⟩, ⟨5, "jw_hvb", 0x00020103⟩] ∧
      found lossy = [⟨1, "jw_hvb", 0x00020103⟩, ⟨5, "unknown (id=0)", 0⟩] :=
  ⟨⟨scanBus_listed (fun _ _ => rfl) ⟨rfl, rfl, _, rfl, fun _ => rfl⟩ 1 8,
    scanBus_listed (fun _ _ => rfl) ⟨rfl, rfl, _, rfl, fun _ => rfl⟩ 1 8⟩, by decide +kernel⟩

end BoardInfo
