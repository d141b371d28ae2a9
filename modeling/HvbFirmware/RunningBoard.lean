import HvbFirmware.MbServer

/-!
# Requests while the catalog is up

With the catalog up, the guards of a channel request read the count, the capabilities and the mode
from the build and the controller, whatever the latch holds. What a channel register shows, and
what a write of one does, is then a function of the controller alone.
-/
namespace MbServer

open VcTypes VcChannel VcController RegCatalog ModbusRegister MbAdapter VcCatalog

variable {σ : Type} {bd : Board} {e : Env} {w : World σ}

/-- A 16-bit register is read from its owner, whatever the latch holds. -/
theorem readWire_u16 (a : Answers) (reading : Reading) (wire : WireReg) (ch : UInt8)
    {desc : RegDescriptor} (hdesc : wire.handle ch = some desc) (h16 : desc.type.is32 = false)
    (latch : WordLatch) :
    (readWire a reading (some wire) ch latch).1 =
      let answer := regReadDescriptor (a.read reading) desc
      if answer.1 = .writeOnly then .ok 0
      else if answer.1 ≠ .ok then .error answer.1
      else .ok (narrow desc.type answer.2) := by
  have hhit : latchHit latch desc wire.word = false := by simp [latchHit, h16]
  unfold readWire
  simp only [hdesc, hhit, h16, Bool.false_eq_true, if_false, Bool.not_false, if_true]
  split
  · rfl
  · split <;> rfl

@[simp] theorem toUInt16_u16 (value : UInt16) : (u16 value).toUInt16 = value := by
  simp [u16]

@[simp] theorem toUInt16_s16 (value : Int16) : (s16 value).toUInt16 = value.toUInt16 := by
  simp [s16]

/-! ## The guards -/

theorem readWire_global (hrun : e.adm.running) (reading : Reading) (reg : GlobalReg)
    (h16 : reg.row.type.is32 = false) {value : UInt32}
    (hvalue : globalValue bd.vc w.ctrl reg = (.ok, value)) (latch : WordLatch) :
    (readWire (answers bd e w) reading (sysWire reg.descriptor 0) 0 latch).1 =
      .ok (narrow reg.row.type value) := by
  have haccess : reg.row.access ≠ .wo := by
    intro hwo
    cases reg <;> cases hwo <;> cases hvalue
  have hanswer : regReadDescriptor ((answers bd e w).read reading) reg.descriptor =
      (.ok, value) := by
    show (if reg.row.access = .wo then (.writeOnly, 0) else ownerRead bd e w reg.descriptor) = _
    rw [if_neg haccess, ownerRead_global, hrun, hvalue]
    rfl
  have hread := readWire_u16 (answers bd e w) reading ⟨fun _ => some reg.descriptor, 0⟩ 0 rfl h16
    latch
  rw [hanswer] at hread
  exact hread

theorem readCount_running (bd : Board) (w : World σ) (hrun : e.adm.running) (latch : WordLatch) :
    (readCount (answers bd e w) bd.vc.toBuild latch).1 = .ok bd.vc.maxChannels.toUInt16 :=
  (readWire_global hrun .count .supportedChannels rfl rfl latch).trans
    (congrArg Except.ok (toUInt16_u16 _))

theorem readMode_running (hrun : e.adm.running) (latch : WordLatch) :
    (readMode (answers bd e w) bd.vc.toBuild latch).1 = .ok w.ctrl.operatingMode.toValue :=
  (readWire_global hrun .mode .activeOperatingMode rfl rfl latch).trans
    (congrArg Except.ok (toUInt16_u16 _))

/-! ## Registers of a channel -/

/-- What a 16-bit register of a channel shows. -/
def registerValue (c : Channel) (reg : VcReg) : UInt16 :=
  narrow reg.row.type (channelValue c reg).2

/-- The answer to the read of a channel register that the view maps. -/
def registerShown (chan : Option Channel) (reg : VcReg) : Except RegStatus UInt16 :=
  if reg.row.access = .wo then .ok 0
  else
    match chan with
    | none => .error .unsupported
    | some c => if !vcCatalogSupported reg c.capabilities then .error .unsupported
      else .ok (registerValue c reg)

theorem channelValue_ok {c : Channel} {reg : VcReg} (h : reg.row.access ≠ .wo) :
    (channelValue c reg).1 = .ok := by
  cases reg <;> first | rfl | exact absurd rfl h

/-- No channel has the instance of the global registers. -/
theorem ne_globalInstance {ch : UInt8} (hch : ch < bd.vc.maxChannels) : ch ≠ globalInstance := by
  have hmax := bd.vc.maxChannels_range
  rintro rfl
  exact absurd (UInt8.lt_of_lt_of_le hch hmax) (by decide)

theorem readWire_channel (w : World σ) (hrun : e.adm.running) (reading : Reading) {ch : UInt8}
    (reg : VcReg)
    (hch : ch < bd.vc.maxChannels) (h16 : reg.row.type.is32 = false) (word : Nat)
    (latch : WordLatch) :
    (readWire (answers bd e w) reading
      (some ⟨fun ch => regVcChannelHandle bd.vc.toBuild ch reg, word⟩) ch latch).1 =
      registerShown w.ctrl.channels[ch.toNat]? reg := by
  have hhandle : regVcChannelHandle bd.vc.toBuild ch reg =
      some (reg.row.descriptor moduleVoltageControl ch) := if_neg (UInt8.not_le.mpr hch)
  rw [readWire_u16 _ _ _ _ hhandle h16]
  unfold registerShown
  by_cases hwo : reg.row.access = .wo
  · have hanswer : regReadDescriptor ((answers bd e w).read reading)
        (reg.row.descriptor moduleVoltageControl ch) = (.writeOnly, 0) := if_pos hwo
    rw [hanswer, if_pos hwo]
    rfl
  · have hanswer : regReadDescriptor ((answers bd e w).read reading)
        (reg.row.descriptor moduleVoltageControl ch) =
          ownerRead bd e w (reg.row.descriptor moduleVoltageControl ch) := if_neg hwo
    rw [hanswer, if_neg hwo, ownerRead_channel bd e w (ne_globalInstance hch), hrun]
    cases w.ctrl.channels[ch.toNat]? with
    | none => rfl
    | some c =>
      simp only [Bool.not_true, Bool.false_eq_true, if_false]
      cases vcCatalogSupported reg c.capabilities with
      | false => rfl
      | true =>
        simp [channelValue_ok hwo]
        rfl

/-- The capabilities that the guards see; a channel that is not there has none. -/
def capsOf (chan : Option Channel) : UInt16 := (chan.map (·.capabilities)).getD 0

theorem readCaps_running (hrun : e.adm.running) {ch : UInt8} (hch : ch < bd.vc.maxChannels)
    (latch : WordLatch) :
    guardValue (readCaps (answers bd e w) bd.vc.toBuild ch latch).1 =
      capsOf w.ctrl.channels[ch.toNat]? := by
  have hread := readWire_channel w hrun .caps .capabilityFlags hch rfl 0 latch
  have hcaps : (readCaps (answers bd e w) bd.vc.toBuild ch latch).1 =
      registerShown w.ctrl.channels[ch.toNat]? .capabilityFlags := hread
  rw [hcaps]
  cases w.ctrl.channels[ch.toNat]? with
  | none => rfl
  | some c => exact toUInt16_u16 c.capabilities

theorem chHoldingReg_u16 {off : Nat} {reg : VcReg} (h : chHoldingReg off = some reg) :
    reg.row.type.is32 = false := by
  unfold chHoldingReg at h
  split at h <;> cases h <;> rfl

/-- What a read of the channel holding block shows. -/
def holdingShown (b : Build) (chan : Option Channel) (ch : UInt8) (off : Nat) :
    Except RegStatus UInt16 :=
  if b.maxChannels ≤ ch ∨ !chHoldingSupported (capsOf chan) off then .error .unsupported
  else
    match chHoldingReg off with
    | none => .ok 0
    | some reg => registerShown chan reg

theorem toUInt16_le_iff {a b : UInt8} : a.toUInt16 ≤ b.toUInt16 ↔ a ≤ b := by
  simp [UInt16.le_iff_toNat_le, UInt8.le_iff_toNat_le]

theorem vcRegReadChHolding_running (bd : Board) (w : World σ) (hrun : e.adm.running) (ch : UInt8)
    {off : Nat}
    (hoff : off < chBlockSize) (latch : WordLatch) :
    (vcRegReadChHolding (answers bd e w) bd.vc.toBuild ch off latch).1 =
      holdingShown bd.vc.toBuild w.ctrl.channels[ch.toNat]? ch off := by
  have hcount := readCount_running bd w hrun latch
  unfold vcRegReadChHolding holdingShown
  dsimp only
  rw [hcount, guardValue, if_neg (Nat.not_le.mpr hoff)]
  simp only [ge_iff_le, toUInt16_le_iff]
  by_cases hch : bd.vc.maxChannels ≤ ch
  · rw [if_pos hch, if_pos (.inl hch)]
  have hlt := UInt8.not_le.mp hch
  rw [if_neg hch, readCaps_running hrun hlt]
  cases hsupported : chHoldingSupported (capsOf w.ctrl.channels[ch.toNat]?) off with
  | false => simp
  | true =>
    rw [if_neg (by simp), if_neg (by simp [hch])]
    unfold chHoldingView
    cases hreg : chHoldingReg off with
    | none => rfl
    | some reg => exact readWire_channel w hrun .requested reg hlt (chHoldingReg_u16 hreg) 0 _

theorem isExtension_of_channel {addr : UInt16} {ch : UInt8} {off : Nat}
    (h : addrDecode addr = some (.channel ch off)) : isExtension addr = false := by
  unfold addrDecode at h
  unfold isExtension
  simp only [chBlockSize] at h
  grind

theorem channel_of_addrDecode {addr : UInt16} {ch : UInt8} {off : Nat}
    (h : addrDecode addr = some (.channel ch off)) :
    off < chBlockSize ∧ addr.toNat = chBlockSize + ch.toNat * chBlockSize + off := by
  unfold addrDecode at h
  dsimp only at h
  split at h
  · cases h
  split at h
  next hlow hhigh =>
    obtain ⟨rfl, rfl⟩ := WireAddr.channel.inj (Option.some.inj h)
    unfold chBlockSize at hlow hhigh ⊢
    have hch : (addr.toNat - 40) / 40 < 256 := by omega
    rw [UInt8.toNat_ofNat_of_lt' hch]
    omega
  · cases h

theorem holdingRd_channel (hrun : e.adm.running) {addr : UInt16} {ch : UInt8} {off : Nat}
    (haddr : addrDecode addr = some (.channel ch off)) :
    (holdingRd bd e w addr).1 =
      match holdingShown bd.vc.toBuild w.ctrl.channels[ch.toNat]? ch off with
      | .ok value => .ok value
      | .error st => .error (regStToMbResult st) := by
  have hread := vcRegReadChHolding_running bd w hrun ch
    (channel_of_addrDecode haddr).1 w.latch
  have htoMb : ∀ r : Except RegStatus UInt16 × WordLatch, (toMb r).1 =
      match r.1 with
      | .ok value => .ok value
      | .error st => .error (regStToMbResult st) := fun _ => rfl
  unfold holdingRd vcMbHoldingRd
  rw [isExtension_of_channel haddr, haddr]
  exact (htoMb _).trans (by rw [hread])

/-! The input block: a read that a guard refuses, and one of a reserved offset. -/

theorem readChInput_refused (hrun : e.adm.running) {ch : UInt8} {off : Nat}
    (hoff : off < chBlockSize)
    (h : bd.vc.maxChannels ≤ ch ∨ chInputSupported (capsOf w.ctrl.channels[ch.toNat]?) off = false)
    (latch : WordLatch) :
    (vcRegReadChInput (answers bd e w) bd.vc.toBuild ch off latch).1 = .error .unsupported := by
  have hcount := readCount_running bd w hrun latch
  unfold vcRegReadChInput
  dsimp only
  rw [hcount, guardValue, if_neg (Nat.not_le.mpr hoff)]
  simp only [ge_iff_le, toUInt16_le_iff]
  by_cases hch : bd.vc.maxChannels ≤ ch
  · rw [if_pos hch]
  · rw [if_neg hch, readCaps_running hrun (UInt8.not_le.mp hch), h.resolve_left hch]
    rfl

theorem chInputReg_reserved {off : Nat} (h : 16 ≤ off) : chInputReg off = none := by
  unfold chInputReg
  split <;> first | omega | rfl

theorem readChInput_reserved (hrun : e.adm.running) {ch : UInt8} (hch : ch < bd.vc.maxChannels)
    {off : Nat} (hlow : 16 ≤ off) (hoff : off < chBlockSize) (latch : WordLatch) :
    (vcRegReadChInput (answers bd e w) bd.vc.toBuild ch off latch).1 = .ok 0 := by
  have hcount := readCount_running bd w hrun latch
  have hreg := chInputReg_reserved hlow
  have hsupported : ∀ caps, chInputSupported caps off := by
    intro caps
    unfold chInputSupported
    rw [hreg]
    exact decide_eq_true hoff
  have hnocal : ¬ isChCalInputReg off := by
    intro hcal
    have hhigh := (of_decide_eq_true hcal).2
    omega
  unfold vcRegReadChInput chInputView
  dsimp only
  rw [hcount, guardValue, if_neg (Nat.not_le.mpr hoff), hsupported, hreg]
  simp only [ge_iff_le, toUInt16_le_iff]
  rw [if_neg (UInt8.not_le.mpr hch), if_neg (by simp), if_neg (fun h => hnocal h.1)]
  rfl

/-! ## Writes of a channel -/

/-- What a write of a channel register does to the controller. -/
def registerWritten (bd : Board) (e : Env) (ctrl : Controller σ) (ch : UInt8) (reg : VcReg)
    (val : UInt16) : RegStatus × Controller σ :=
  match ctrl.channels[ch.toNat]? with
  | none => (.unsupported, ctrl)
  | some c => if !vcCatalogSupported reg c.capabilities then (.unsupported, ctrl)
    else serve bd.k e.adm ctrl (channelRequest ch.toNat reg val)

/-- What a write of the channel holding block does to the controller. The session registers are
not there outside CALIBRATION. -/
def holdingWritten (bd : Board) (e : Env) (ctrl : Controller σ) (ch : UInt8) (off : Nat)
    (val : UInt16) : RegStatus × Controller σ :=
  if bd.vc.maxChannels ≤ ch ∨ !chHoldingSupported (capsOf ctrl.channels[ch.toNat]?) off ∨
      isChCalHoldingReg off ∧ ctrl.operatingMode.toValue ≠ calibrationMode then
    (.unsupported, ctrl)
  else
    match chHoldingReg off with
    | none => (.invalidValue, ctrl)
    | some reg => registerWritten bd e ctrl ch reg val

/-- A request that leaves the adapter alone. -/
def World.served (w : World σ) (r : RegStatus × Controller σ) (latch : WordLatch) :
    RegStatus × World σ :=
  (r.1, { w with ctrl := r.2, latch := latch })

theorem chHoldingReg_writable {off : Nat} {reg : VcReg} (h : chHoldingReg off = some reg) :
    reg.row.access ≠ .ro := by
  unfold chHoldingReg at h
  split at h <;> cases h <;> exact nofun

theorem writeWire_channel (hrun : e.adm.running) {ch : UInt8} (hch : ch < bd.vc.maxChannels)
    {off : Nat} {reg : VcReg} (hreg : chHoldingReg off = some reg) (val : UInt16)
    (latch : WordLatch) :
    writeWire bd e { w with latch := latch } (chHoldingView bd.vc.toBuild off) ch val =
      w.served (registerWritten bd e w.ctrl ch reg val) latch := by
  have hhandle : regVcChannelHandle bd.vc.toBuild ch reg =
      some (reg.row.descriptor moduleVoltageControl ch) := if_neg (UInt8.not_le.mpr hch)
  unfold writeWire chHoldingView
  rw [hreg, Option.map_some]
  dsimp only
  rw [hhandle]
  dsimp only
  have haccess : (reg.row.descriptor moduleVoltageControl ch).access ≠ .ro :=
    chHoldingReg_writable hreg
  unfold regWrite registerWritten
  rw [if_neg haccess, ownerWrite_channel bd e _ (ne_globalInstance hch), hrun]
  dsimp only
  cases w.ctrl.channels[ch.toNat]? with
  | none => rfl
  | some c =>
    simp only [Bool.not_true, Bool.false_eq_true, if_false]
    cases vcCatalogSupported reg c.capabilities <;> rfl

theorem writeWire_unmapped {off : Nat} (hreg : chHoldingReg off = none) (ch : UInt8)
    (val : UInt16) : writeWire bd e w (chHoldingView bd.vc.toBuild off) ch val =
      (.invalidValue, w) := by
  unfold writeWire chHoldingView
  rw [hreg]
  rfl

theorem session_cases {off : Nat} (h : isChCalHoldingReg off) :
    off = 30 ∨ off = 31 ∨ off = 32 ∨ off = 33 := by
  obtain ⟨hlow, hhigh⟩ := of_decide_eq_true h
  omega

/-- The adapter lets a session register through only on a channel that has it. -/
theorem session_supported {chan : Option Channel} {off : Nat} {reg : VcReg}
    (hreg : chHoldingReg off = some reg) (hoff : isChCalHoldingReg off)
    (h : chHoldingSupported (capsOf chan) off) :
    ∃ c, chan = some c ∧ vcCatalogSupported reg c.capabilities := by
  cases chan with
  | none => rcases session_cases hoff with rfl | rfl | rfl | rfl <;> cases h
  | some c =>
    refine ⟨c, rfl, ?_⟩
    have hraw : capsAll c.capabilities capRawOutputDrive →
        (c.capabilities &&& capRawOutputDrive != 0) := by
      intro hall
      rw [eq_of_beq hall]
      rfl
    rcases session_cases hoff with rfl | rfl | rfl | rfl <;> cases hreg
    · exact hraw h
    · exact hraw h
    · exact h
    · exact h

/-- The check of a command register is the one that the catalog makes again. -/
theorem served_calCommand (e : Env) (w : World σ) (val : UInt16) (op : ControllerOp σ)
    (latch : WordLatch) :
    (if val = 0 then (.ok, { w with latch := latch })
      else if val ≠ 1 then (.invalidValue, { w with latch := latch })
      else w.served (serve bd.k e.adm w.ctrl (calCommand val op)) latch) =
      w.served (serve bd.k e.adm w.ctrl (calCommand val op)) latch := by
  unfold calCommand
  split
  · rfl
  split <;> rfl

theorem writeCalCommand_running (hrun : e.adm.running) {ch : UInt8}
    (hch : ch < bd.vc.maxChannels) {off : Nat} (hoff : isChCalHoldingReg off)
    (hsupported : chHoldingSupported (capsOf w.ctrl.channels[ch.toNat]?) off) {reg : VcReg}
    (hreg : chHoldingReg off = some reg) (val : UInt16) (latch : WordLatch) :
    writeCalCommand bd e { w with latch := latch } ch off val =
      w.served (registerWritten bd e w.ctrl ch reg val) latch := by
  obtain ⟨c, hc, hcatalog⟩ := session_supported hreg hoff hsupported
  have hwrite := writeWire_channel (w := w) hrun hch hreg val latch
  have hwritten : registerWritten bd e w.ctrl ch reg val =
      serve bd.k e.adm w.ctrl (channelRequest ch.toNat reg val) := by
    unfold registerWritten
    rw [hc]
    simp [hcatalog]
  unfold writeCalCommand
  rw [hwrite, hwritten, hreg]
  rcases session_cases hoff with rfl | rfl | rfl | rfl <;> cases hreg
  · dsimp only
    split
    next hval =>
      have hrequest : channelRequest (σ := σ) ch.toNat .calOutputEnable val =
          .answer .invalidValue := if_pos hval
      rw [hrequest]
      rfl
    · rfl
  · rfl
  · exact served_calCommand e w val _ latch
  · exact served_calCommand e w val _ latch

theorem vcRegWriteChHolding_running (bd : Board) (w : World σ) (hrun : e.adm.running) (ch : UInt8)
    {off : Nat}
    (hoff : off < chBlockSize) (val : UInt16) :
    ∃ latch, vcRegWriteChHolding bd e w ch off val =
      w.served (holdingWritten bd e w.ctrl ch off val) latch := by
  have hcount := readCount_running bd w hrun w.latch
  unfold vcRegWriteChHolding holdingWritten
  dsimp only
  rw [hcount, guardValue]
  simp only [ge_iff_le, toUInt16_le_iff]
  by_cases hch : bd.vc.maxChannels ≤ ch
  · rw [if_pos hch, if_pos (.inl hch)]
    exact ⟨_, rfl⟩
  have hlt := UInt8.not_le.mp hch
  rw [if_neg hch, readCaps_running hrun hlt]
  cases hsupported : chHoldingSupported (capsOf w.ctrl.channels[ch.toNat]?) off with
  | false =>
    rw [if_pos (by simp), if_pos (by simp)]
    exact ⟨_, rfl⟩
  | true =>
    rw [if_neg (by simp), readMode_running hrun, guardValue]
    -- a write that is no session command goes to the wire
    have hwire : isChCalHoldingReg off = false → ∀ latch,
        writeWire bd e { w with latch := latch } (chHoldingView bd.vc.toBuild off) ch val =
          w.served (if bd.vc.maxChannels ≤ ch ∨ (!true) = true ∨
              isChCalHoldingReg off = true ∧ w.ctrl.operatingMode.toValue ≠ calibrationMode then
              (.unsupported, w.ctrl)
            else
              match chHoldingReg off with
              | none => (.invalidValue, w.ctrl)
              | some reg => registerWritten bd e w.ctrl ch reg val) latch := by
      intro hsession latch
      rw [if_neg (by simp [hch, hsession])]
      cases hreg : chHoldingReg off with
      | none => exact writeWire_unmapped hreg ch val
      | some reg => exact writeWire_channel hrun hlt hreg val latch
    split
    next hcommand =>
      refine ⟨_, hwire ?_ _⟩
      cases hsession : isChCalHoldingReg off with
      | false => rfl
      | true =>
        rcases session_cases hsession with rfl | rfl | rfl | rfl <;>
          simp [chHoldingReg] at hcommand
    split
    next hcoefficient =>
      refine ⟨_, hwire ?_ _⟩
      obtain ⟨hlow, hhigh⟩ := of_decide_eq_true hcoefficient
      exact decide_eq_false (by omega)
    split
    next hsession =>
      split
      next hmode =>
        rw [if_pos (.inr (.inr ⟨hsession, hmode⟩))]
        exact ⟨_, rfl⟩
      next hmode =>
        rw [if_neg (by simp [hch, hmode])]
        cases hreg : chHoldingReg off with
        | none => rcases session_cases hsession with rfl | rfl | rfl | rfl <;> cases hreg
        | some reg =>
          exact ⟨_, writeCalCommand_running hrun hlt hsession hsupported hreg val _⟩
    next hsession =>
      rw [if_neg (Nat.not_le.mpr hoff)]
      exact ⟨_, hwire (Bool.eq_false_iff.mpr hsession) _⟩

theorem holdingWr_channel (bd : Board) (w : World σ) (hrun : e.adm.running) {addr : UInt16}
    {ch : UInt8} {off : Nat}
    (haddr : addrDecode addr = some (.channel ch off)) (val : UInt16) :
    ∃ latch, holdingWr bd e w addr val =
      mbAnswer (w.served (holdingWritten bd e w.ctrl ch off val) latch) := by
  obtain ⟨latch, hwrite⟩ := vcRegWriteChHolding_running bd w hrun ch
    (channel_of_addrDecode haddr).1 val
  refine ⟨latch, ?_⟩
  unfold holdingWr
  rw [isExtension_of_channel haddr, haddr]
  exact congrArg mbAnswer hwrite

end MbServer
