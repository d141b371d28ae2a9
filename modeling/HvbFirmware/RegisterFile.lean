import HvbFirmware.AddressMap
import HvbFirmware.BoardLine
import HvbFirmware.ReadBack

/-!
# The settings of a board as a register file

What a host can know of the settings of a board: a word for each setting of each channel, and what
the channel can do. Ticks and samples leave it, a holding register shows a word of it, and a write
that the board takes changes one word.
-/
namespace RegisterFile

open VcTypes VcChannel VcController RegCatalog ModbusRegister VcCatalog MbServer ReadBack
  PsbBoardSession BoardLine Runs
open AddressMap (holdingGuard holdingGuard_iff)

variable {σ : Type}

structure Bank where
  capabilities : UInt16
  word : Setting → UInt16

def bank (c : Channel) : Bank := ⟨c.capabilities, fun s => s.value c⟩

def Bank.write (b : Bank) (s : Setting) (val : UInt16) : Bank :=
  { b with word := fun other => if other = s then s.written val else b.word other }

/-- The word behind an offset; the command registers show zero. -/
def Bank.shown (b : Bank) (off : Nat) : UInt16 := ((settingAt off).map b.word).getD 0

def banks (st : Station σ) : List Bank := st.world.ctrl.channels.map bank

/-- The board has these settings. -/
def Holds (bd : Board) (bs : List Bank) (st : Station σ) : Prop := st.bd = bd ∧ banks st = bs

/-! ## What the board does by itself -/

/-- A call that writes no setting. -/
def keepsSettings : ChannelOp → Bool
  | .setField _ _ | .setConfig _ | .setCalField _ _ | .loadCal _ => false
  | _ => true

theorem bank_congr {c c' : Channel} (hcaps : c'.capabilities = c.capabilities)
    (hconfig : c'.config = c.config) (hcal : c'.calConfig = c.calConfig) : bank c' = bank c := by
  have hvalue : ∀ s : Setting, s.value c' = s.value c := by
    intro s
    cases s with
    | config field => exact congrArg (configValue · field) hconfig
    | cal field => exact congrArg (calValue · field) hcal
  simp only [bank, hcaps, hvalue]

theorem bank_step (k : Kconfig) (c : Channel) {op : ChannelOp} (hop : keepsSettings op) :
    bank (op.step k c) = bank c := by
  have hframe : (frame (op.step k c)).capabilities = c.capabilities ∧
      (frame (op.step k c)).config = c.config := by
    have hstep := frame_step k c op
    generalize frame (op.step k c) = f at hstep
    cases hstep with
    | same | advance => exact ⟨rfl, rfl⟩
    | retry =>
      unfold recordRetryAttempt
      split <;> exact ⟨rfl, rfl⟩
    | setField | setConfig => cases hop
  have hcal : (op.step k c).calConfig = c.calConfig := by
    by_cases hrefits : op.refits
    · cases op with
      | publishVoltage | publishCurrent => rfl
      | setCalField | loadCal => cases hop
      | _ => cases hrefits
    · exact congrArg Gear.calConfig (gear_step k c (Bool.eq_false_iff.mpr hrefits))
  exact bank_congr hframe.1 hframe.2 hcal

theorem bank_exec (k : Kconfig) (c : Channel) {ops : List ChannelOp}
    (hops : ∀ op ∈ ops, keepsSettings op) : bank (exec (ChannelOp.step k) c ops) = bank c := by
  induction ops generalizing c with
  | nil => rfl
  | cons op ops ih =>
    refine (ih (op.step k c) fun op' h => hops op' (List.mem_cons_of_mem op h)).trans ?_
    exact bank_step k c (hops op List.mem_cons_self)

theorem keepsSettings_event {k : Kconfig} {ctrl : Controller σ} {event : BoardEvent} {i : Nat}
    {c : Channel} {op : ChannelOp} (h : op ∈ event.op.channelOps k ctrl i c) :
    keepsSettings op := by
  rcases mem_channelOps h with ⟨mode, -, h⟩ | h
  · rcases mem_transitionOps h with ⟨_, rfl⟩ | ⟨rfl, -⟩ | ⟨rfl, -⟩ <;> rfl
  · cases event <;> cases h
    case tick.run hmode hrun =>
      simp only [runOps, List.mem_cons, List.not_mem_nil, or_false] at hrun
      rcases hrun with rfl | rfl | rfl | rfl | rfl <;> rfl
    all_goals rfl

theorem banks_events (k : Kconfig) (ctrl : Controller σ) (events : List BoardEvent) :
    (exec (ControllerOp.step k) ctrl (events.map BoardEvent.op)).channels.map bank =
      ctrl.channels.map bank := by
  induction events generalizing ctrl with
  | nil => rfl
  | cons event events ih =>
    refine (ih (event.op.step k ctrl)).trans (List.ext_getElem? fun i => ?_)
    rw [List.getElem?_map, List.getElem?_map, getElem?_step, Option.map_map]
    refine Option.map_congr fun c _ => ?_
    exact bank_exec k c fun op hop => keepsSettings_event hop

/-- The settings of a board when a register access comes to it. -/
theorem banks_settle (st : Station σ) (m : Moment) :
    (st.settle m).ctrl.channels.map bank = banks st := banks_events st.bd.k st.world.ctrl m.events

/-! ## What a holding register shows -/

/-- A command register or the register of a setting. -/
def isSettingOff (off : Nat) : Bool := off < 3 || isConfigOff off

theorem lt_of_isSettingOff {off : Nat} (h : isSettingOff off) : off < chBlockSize := by
  simp only [isSettingOff, isConfigOff, Bool.or_eq_true, decide_eq_true_eq] at h
  unfold chBlockSize
  omega

theorem getElem?_banks {bd : Board} {bs : List Bank} {st : Station σ} (hst : Holds bd bs st)
    (m : Moment) (i : Nat) : (st.settle m).ctrl.channels[i]?.map bank = bs[i]? := by
  rw [← List.getElem?_map, banks_settle, hst.2]

theorem commandReg {off : Nat} (h : off < 3) :
    ∃ reg, chHoldingReg off = some reg ∧ reg.row.access = .wo ∧ settingOf reg = none := by
  match off with
  | 0 => exact ⟨.outputAction, rfl, rfl, rfl⟩
  | 1 => exact ⟨.faultCmd, rfl, rfl, rfl⟩
  | 2 => exact ⟨.paramAction, rfl, rfl, rfl⟩

theorem holdingShown_bank {b : Build} {c : Channel} {ch : UInt8} {off : Nat}
    (hch : ch < b.maxChannels) (hoff : isSettingOff off) (hlt : off < chBlockSize)
    (hguard : holdingGuard c.capabilities off) :
    holdingShown b (some c) ch off = .ok ((bank c).shown off) := by
  have hgate : ∀ {reg : VcReg}, chHoldingReg off = some reg →
      vcCatalogSupported reg c.capabilities ∧
        ¬ (b.maxChannels ≤ ch ∨ (!chHoldingSupported (capsOf (some c)) off) = true) := by
    intro reg hreg
    rw [← holdingGuard_iff hreg] at hguard
    obtain ⟨hsupported, hcatalog⟩ := Bool.and_eq_true_iff.mp hguard
    refine ⟨hcatalog, ?_⟩
    rw [not_or]
    exact ⟨UInt8.not_le.mpr hch, by simp [capsOf, hsupported]⟩
  by_cases hcommand : off < 3
  · obtain ⟨reg, hreg, hwo, hnone⟩ := commandReg hcommand
    have hat : settingAt off = none := by rw [settingAt, hreg]; exact hnone
    unfold holdingShown
    rw [if_neg (hgate hreg).2, hreg]
    simp only [registerShown, hwo, if_true, Bank.shown, hat]
    rfl
  · have hconfig : isConfigOff off := by simpa [isSettingOff, hcommand] using hoff
    obtain ⟨reg, s, hreg, hs, hat⟩ := exists_setting hconfig hlt
    rw [holdingShown_setting b _ ch hreg hs, if_neg (hgate hreg).2]
    simp only [(hgate hreg).1, Bank.shown, hat]
    rfl

/-- A read that shows the same of every board with these settings, whatever comes before it. -/
theorem access_shown {rd : RegRead σ} {bd : Board} {bs : List Bank} {value : UInt16}
    {addr : UInt16} (hrd : ∀ (e : Env) (w : World σ), e.adm.running →
      (∀ i : Nat, w.ctrl.channels[i]?.map bank = bs[i]?) →
        (rd bd e w addr).1 = .ok value ∧ (rd bd e w addr).2.ctrl = w.ctrl)
    {st : Station σ} (m : Moment) (hst : Holds bd bs st) :
    ∃ st', st.access m (fun bd e w => rd bd e w addr) = (.ok value, st') ∧ Holds bd bs st' := by
  obtain ⟨rfl, hbanks⟩ := hst
  obtain ⟨hvalue, hctrl⟩ := hrd m.env (st.settle m) m.running (getElem?_banks ⟨rfl, hbanks⟩ m)
  refine ⟨(st.access m fun bd e w => rd bd e w addr).2, Prod.ext hvalue rfl, rfl, ?_⟩
  have hkept : banks (st.access m fun bd e w => rd bd e w addr).2 =
      (st.settle m).ctrl.channels.map bank :=
    congrArg (fun ctrl : Controller σ => ctrl.channels.map bank) hctrl
  exact hkept.trans ((banks_settle st m).trans hbanks)

theorem access_read {bd : Board} {bs : List Bank} {b : Bank} {ch : UInt8} {off : Nat}
    {addr : UInt16} (haddr : addrDecode addr = some (.channel ch off))
    (hb : bs[ch.toNat]? = some b) (hch : ch < bd.vc.maxChannels) (hoff : isSettingOff off)
    (hguard : holdingGuard b.capabilities off) {st : Station σ} (m : Moment)
    (hst : Holds bd bs st) :
    ∃ st', st.access m (fun bd e w => holdingRd bd e w addr) = (.ok (b.shown off), st') ∧
      Holds bd bs st' := by
  refine access_shown (fun e w hrun hbanks => ⟨?_, rfl⟩) m hst
  obtain ⟨c, hc, rfl⟩ := Option.map_eq_some_iff.mp ((hbanks ch.toNat).trans hb)
  rw [holdingRd_channel hrun haddr, hc,
    holdingShown_bank hch hoff (channel_of_addrDecode haddr).1 hguard]

/-- The input register of the capabilities. -/
theorem access_capabilities {bd : Board} {bs : List Bank} {b : Bank} {ch : UInt8} {addr : UInt16}
    (haddr : addrDecode addr = some (.channel ch 9)) (hb : bs[ch.toNat]? = some b)
    (hch : ch < bd.vc.maxChannels) {st : Station σ} (m : Moment) (hst : Holds bd bs st) :
    ∃ st', st.access m (fun bd e w => inputRd bd e w addr) = (.ok b.capabilities, st') ∧
      Holds bd bs st' := by
  refine access_shown (fun e w hrun hbanks => ⟨?_, rfl⟩) m hst
  obtain ⟨c, hc, rfl⟩ := Option.map_eq_some_iff.mp ((hbanks ch.toNat).trans hb)
  have hcount := readCount_running bd w hrun w.latch
  have hread : (vcRegReadChInput (answers bd e w) bd.vc.toBuild ch 9 w.latch).1 =
      .ok c.capabilities := by
    have hsupported : ∀ caps, chInputSupported caps 9 := by
      simp [chInputSupported, chInputReg, chBlockSize]
    have hblock : ¬ 9 ≥ chBlockSize := by decide
    unfold vcRegReadChInput
    dsimp only
    rw [hcount, guardValue, hsupported]
    simp only [ge_iff_le, toUInt16_le_iff]
    rw [if_neg (UInt8.not_le.mpr hch), if_neg hblock, if_neg (by simp),
      if_neg (by simp [isChCalInputReg])]
    have hshown := readWire_channel w hrun .requested .capabilityFlags hch rfl 0
      (readMode (answers bd e w) bd.vc.toBuild (readCaps (answers bd e w) bd.vc.toBuild ch
        (readCount (answers bd e w) bd.vc.toBuild w.latch).2).2).2
    rw [hc] at hshown
    exact hshown.trans (congrArg Except.ok (toUInt16_u16 c.capabilities))
  unfold inputRd
  rw [WordCoherence.inputRd_channel haddr]
  simp only [toMb, hread]
  rfl

/-! ## What a write changes -/

def isSettingAddr (addr : UInt16) : Prop :=
  ∃ ch off, addrDecode addr = some (.channel ch off) ∧ isConfigOff off

/-- The settings after a write that the board takes. -/
def writeBanks (addr value : UInt16) (bs : List Bank) : List Bank :=
  match addrDecode addr with
  | some (.channel ch off) =>
    match settingAt off with
    | some s => bs.modify ch.toNat (·.write s value)
    | none => bs
  | _ => bs

theorem bank_rewrites {s : Setting} {val : UInt16} {c c' : Channel} (h : Rewrites s val c c') :
    bank c' = (bank c).write s val := by
  have hword : ∀ other, other.value c' = if other = s then s.written val else other.value c := by
    intro other
    split
    next heq => rw [heq, h.written]
    next hne => exact h.others other hne
  simp only [bank, Bank.write, h.capabilities, hword]

theorem takes_settings (bd : Board) :
    Takes (Holds (σ := σ) bd) writeBanks isSettingAddr := by
  rintro addr value bs st m ⟨ch, off, haddr, hoff⟩ ⟨rfl, hbanks⟩ r
  have hlt := (channel_of_addrDecode haddr).1
  obtain ⟨reg, s, hreg, hs, hat⟩ := exists_setting hoff hlt
  obtain ⟨latch, hwritten⟩ := holdingWr_channel st.bd (st.settle m) m.running haddr value
  have hresult := holdingWritten_setting st.bd m.env (st.settle m).ctrl ch hreg hs value
  generalize holdingWritten st.bd m.env (st.settle m).ctrl ch off value = p at hwritten hresult
  have hctrl : banks r.2 = p.2.channels.map bank :=
    congrArg (fun q : MbResult × World σ => q.2.ctrl.channels.map bank) hwritten
  have hst : r.1 = regStToMbResult p.1 := congrArg Prod.fst hwritten
  have hsettled : (st.settle m).ctrl.channels.map bank = bs := (banks_settle st m).trans hbanks
  rcases hresult with ⟨hrefused, hsame⟩ | ⟨hok, c, c', hc, hset, hrewrites, -⟩
  · refine .inr ⟨fun hok => hrefused (regStToMbResult_eq_ok.mp (hst.symm.trans hok)), rfl, ?_⟩
    rw [hctrl, hsame, hsettled]
  · refine .inl ⟨by rw [hst, hok]; rfl, rfl, ?_⟩
    have hmove : writeBanks addr value bs = bs.modify ch.toNat (·.write s value) := by
      simp only [writeBanks, haddr, hat]
    rw [hctrl, hset, hmove, ← hsettled]
    refine List.ext_getElem? fun i => ?_
    rw [List.getElem?_map, List.getElem?_set, List.getElem?_modify, List.getElem?_map]
    by_cases hi : ch.toNat = i
    · subst hi
      obtain ⟨hlen, rfl⟩ := List.getElem?_eq_some_iff.mp hc
      simp [hlen, bank_rewrites hrewrites]
    · simp [hi]

/-! ## Blocks of a channel, by the addresses of the host -/

theorem ofInt_natCast (n : Nat) : UInt16.ofInt (n : Int) = UInt16.ofNat n := by
  refine UInt16.toNat_inj.mp ?_
  simp only [UInt16.ofInt, UInt16.toNat_ofNat']
  omega

theorem toNat_chAddr {ch : UInt8} (hch : ch.toNat < 16) {off : UInt16} {n : Nat}
    (h : off.toNat + n < chBlockSize) :
    (chAddr ch.toNat off + UInt16.ofNat n).toNat = 40 + ch.toNat * 40 + (off.toNat + n) := by
  have hbase : UInt16.ofInt (chBlockBase ch.toNat) = UInt16.ofNat (40 + ch.toNat * 40) := by
    have hcast : chBlockBase ch.toNat = ((40 + ch.toNat * 40 : Nat) : Int) := by
      simp [chBlockBase]
    rw [hcast, ofInt_natCast]
  unfold chBlockSize at h
  unfold chAddr
  rw [hbase, UInt16.toNat_add, UInt16.toNat_add, UInt16.toNat_ofNat', UInt16.toNat_ofNat']
  omega

theorem addrDecode_chAddr {ch : UInt8} (hch : ch.toNat < 16) (off : UInt16) (n : Nat)
    (h : off.toNat + n < chBlockSize) :
    addrDecode (chAddr ch.toNat off + UInt16.ofNat n) =
      some (.channel ch (off.toNat + n)) := by
  have haddr := toNat_chAddr hch h
  unfold chBlockSize at h
  unfold addrDecode chBlockSize
  rw [haddr, if_neg (by omega), if_pos (by omega)]
  have hdiv : (40 + ch.toNat * 40 + (off.toNat + n) - 40) / 40 = ch.toNat := by omega
  have hmod : (40 + ch.toNat * 40 + (off.toNat + n) - 40) % 40 = off.toNat + n := by omega
  simp only [hdiv, hmod, UInt8.ofNat_toNat]

theorem lt_sixteen {bd : Board} {ch : UInt8} (hch : ch < bd.vc.maxChannels) : ch.toNat < 16 :=
  UInt8.lt_iff_toNat_lt.mp (UInt8.lt_of_lt_of_le hch bd.vc.maxChannels_range)

end RegisterFile
