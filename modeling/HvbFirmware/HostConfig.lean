import HvbFirmware.RegisterFile

/-!
# The settings of a channel as the host reads and writes them

`PsbBoardSession` reads the settings of a channel block by block, each block if the channel has the
capabilities for it, and a block that does not come back keeps what the host had. Over boards on a
line this brings what the board holds and nothing else: the gates of the host ask for no register
that the board refuses.
-/
namespace HostConfig

open VcTypes ModbusRegister PsbBoardSession HostSession Interaction Program BoardLine RegisterFile
open AddressMap (holdingGuard)
open MbServer (Board boardHvb envWith holdingRd inputRd)
open VcController (dacNode)

/-! ## The session -/

/-- The word of a block of one. -/
def only (buf : Vector UInt16 1) : UInt16 := buf.get ⟨0, Nat.one_pos⟩

/-- The first word of a block of two. -/
def first (buf : Vector UInt16 2) : UInt16 := buf.get ⟨0, Nat.two_pos⟩

def second (buf : Vector UInt16 2) : UInt16 := buf.get ⟨1, Nat.one_lt_two⟩

def haveDrive (caps : UInt16) : Bool := caps &&& capRawOutputDrive ≠ 0

def haveOutput (caps : UInt16) : Bool := caps &&& capOutputEnable ≠ 0

structure ChannelConfig where
  configuredTargetVRaw : Int16 := 0
  outputEnabledCfg : Bool := false
  outputAction : OutputAction := .none
  faultCommand : ChannelFaultCommand := .none
  rampUpStepRaw : UInt16 := 0
  rampUpInterval : UInt16 := 0
  rampDownStepRaw : UInt16 := 0
  rampDownInterval : UInt16 := 0
  recoveryPolicyMode : RecoveryPolicyMode := .manualLatch
  autoRetryDelay : UInt16 := 0
  autoRetryMaxCount : UInt16 := 0
  autoRetryWindow : UInt16 := 0
  currentSafeBandPct : UInt16 := 10
  iProtMode : ProtectionMode := .disabled
  iProtOutputAction : OutputAction := .none
  iLimitThresholdRaw : Int16 := 0
  derateStepRaw : UInt16 := 0
  deriving DecidableEq, Repr

/-- A read of a block into a record, which a failed transaction leaves. -/
def readBlock {α : Type} (addr : UInt16) (count : Nat) (out : α)
    (fill : Vector UInt16 count → α) : SessionProgram α := do
  match ← readHoldingRegs addr count with
  | none => return out
  | some buf => return fill buf

def readChannelOutputBlock (ch : Int) (caps : UInt16) (out : ChannelConfig) :
    SessionProgram ChannelConfig := do
  if !(← ask SessionCall.checkConnected) then
    return out
  else if haveDrive caps then
    readBlock (chAddr ch 0) 8 out fun buf => { out with
      outputAction := .ofValue (buf.get 0)
      faultCommand := .ofValue (buf.get 1)
      configuredTargetVRaw := (buf.get 3).toInt16
      rampUpStepRaw := buf.get 4
      rampUpInterval := buf.get 5
      rampDownStepRaw := buf.get 6
      rampDownInterval := buf.get 7 }
  else
    readBlock (chAddr ch 0) 3 out fun buf => { out with
      outputAction := .ofValue (buf.get 0)
      faultCommand := .ofValue (buf.get 1) }

def readChannelRecoveryBlock (ch : Int) (out : ChannelConfig) : SessionProgram ChannelConfig := do
  if !(← ask SessionCall.checkConnected) then
    return out
  else
    readBlock (chAddr ch 0 + 8) 5 out fun buf => { out with
      recoveryPolicyMode := .ofValue (buf.get 0)
      autoRetryDelay := buf.get 1
      autoRetryMaxCount := buf.get 2
      autoRetryWindow := buf.get 3
      currentSafeBandPct := buf.get 4 }

def readChannelProtectionBlock (ch : Int) (caps : UInt16) (out : ChannelConfig) :
    SessionProgram ChannelConfig := do
  if !(← ask SessionCall.checkConnected) then
    return out
  else if !hasCurrent caps then
    return out
  else
    readBlock (chAddr ch 0 + 13) 3 out fun buf => { out with
      iProtMode := .ofValue (buf.get 0)
      iProtOutputAction := .ofValue (buf.get 1)
      iLimitThresholdRaw := (buf.get 2).toInt16 }

def readChannelDerateBlock (ch : Int) (caps : UInt16) (out : ChannelConfig) :
    SessionProgram ChannelConfig := do
  if !(← ask SessionCall.checkConnected) then
    return out
  else if !(haveDrive caps && hasVoltage caps) then
    return out
  else
    readBlock (chAddr ch 0 + 16) 1 out fun buf => { out with derateStepRaw := only buf }

def readChannelOutputEnabledBlock (ch : Int) (caps : UInt16) (out : ChannelConfig) :
    SessionProgram ChannelConfig := do
  if !(← ask SessionCall.checkConnected) then
    return out
  else if !(!haveDrive caps && haveOutput caps) then
    return out
  else
    readBlock (chAddr ch 0 + 17) 1 out fun buf => { out with outputEnabledCfg := only buf ≠ 0 }

/-- The capabilities that the caller knows, or those that the board tells. -/
def acquireCaps (ch : Int) (caps : UInt16) : SessionProgram UInt16 := do
  if caps = 0 then
    match ← readInputRegs (chAddr ch 0 + 9) 1 with
    | some buf => return only buf
    | none => return 0
  else
    return caps

def readChannelConfig (ch : Int) (caps : UInt16) (out : ChannelConfig) :
    SessionProgram ChannelConfig := do
  if !(← ask SessionCall.checkConnected) then
    return out
  else
    let caps ← acquireCaps ch caps
    let out ← readChannelOutputBlock ch caps out
    let out ← readChannelRecoveryBlock ch out
    let out ← readChannelProtectionBlock ch caps out
    let out ← readChannelDerateBlock ch caps out
    readChannelOutputEnabledBlock ch caps out

/-- The coefficients, with the defaults of the host. -/
structure ChannelCalConfig where
  outCalK : UInt16 := 1
  outCalKExp : Int16 := 0
  outCalB : Int16 := 0
  measVCalK : UInt16 := 1
  measVCalKExp : Int16 := 0
  measVCalB : Int16 := 0
  measICalK : UInt16 := 1
  measICalKExp : Int16 := 0
  measICalB : Int16 := 0
  deriving DecidableEq, Repr

/-- The three coefficients of one direction, if the channel has it: K and B together, the exponent
by itself. -/
def readTriplet (supported : Bool) (addr expAddr : UInt16) (out : ChannelCalConfig)
    (setKB : ChannelCalConfig → Vector UInt16 2 → ChannelCalConfig)
    (setExp : ChannelCalConfig → Vector UInt16 1 → ChannelCalConfig) :
    SessionProgram ChannelCalConfig := do
  if supported then
    let out ← readBlock addr 2 out (setKB out)
    readBlock expAddr 1 out (setExp out)
  else
    return out

def readChannelCalConfig (ch : Int) (caps : UInt16) (out : ChannelCalConfig) :
    SessionProgram ChannelCalConfig := do
  if !(← ask SessionCall.checkConnected) then
    return out
  else
    let base := chAddr ch 0
    let caps ← acquireCaps ch caps
    if haveDrive caps && hasVoltage caps && hasCurrent caps then
      readBlock (base + 20) 9 out fun buf => { out with
        outCalK := buf.get 0
        outCalB := (buf.get 1).toInt16
        measVCalK := buf.get 2
        measVCalB := (buf.get 3).toInt16
        measICalK := buf.get 4
        measICalB := (buf.get 5).toInt16
        outCalKExp := (buf.get 6).toInt16
        measVCalKExp := (buf.get 7).toInt16
        measICalKExp := (buf.get 8).toInt16 }
    else
      let out ← readTriplet (haveDrive caps) (base + 20) (base + 26) out
        (fun out buf => { out with outCalK := first buf, outCalB := (second buf).toInt16 })
        fun out buf => { out with outCalKExp := (only buf).toInt16 }
      let out ← readTriplet (hasVoltage caps) (base + 22) (base + 27) out
        (fun out buf => { out with measVCalK := first buf, measVCalB := (second buf).toInt16 })
        fun out buf => { out with measVCalKExp := (only buf).toInt16 }
      readTriplet (hasCurrent caps) (base + 24) (base + 28) out
        (fun out buf => { out with measICalK := first buf, measICalB := (second buf).toInt16 })
        fun out buf => { out with measICalKExp := (only buf).toInt16 }

/-! ## Blocks of registers -/

/-- A block of registers, and what the host makes of it. -/
structure Block (α : Type) where
  off : Nat
  count : Nat
  fill : α → Vector UInt16 count → α

variable {α : Type} {σ : Type}

/-- The channel has each register of the block, and each is a setting or a command. -/
def Block.Served (blk : Block α) (caps : UInt16) : Prop :=
  ∀ i < blk.count, isSettingOff (blk.off + i) ∧ holdingGuard caps (blk.off + i)

/-- The block as the settings are. -/
def Block.copy (b : Bank) (out : α) (blk : Block α) : α :=
  blk.fill out (Vector.ofFn fun i => b.shown (blk.off + i))

/-- A record with some of the blocks copied, all of them if nothing is lost. -/
def Copied (sch : Schedule) (b : Bank) (blks : List (Block α)) (out r : α) : Prop :=
  ∃ got, got.Sublist blks ∧ r = got.foldl (Block.copy b) out ∧ (sch.Reliable → got = blks)

variable {sch : Schedule} {wire : Wire σ sch} {b : Bank}

theorem Copied.nil (out : α) : Copied sch b [] out out :=
  ⟨[], List.Sublist.refl [], rfl, fun _ => rfl⟩

theorem Copied.append {blks blks' : List (Block α)} {out mid r : α}
    (h : Copied sch b blks out mid) (h' : Copied sch b blks' mid r) :
    Copied sch b (blks ++ blks') out r := by
  obtain ⟨got, hsub, rfl, hall⟩ := h
  obtain ⟨got', hsub', rfl, hall'⟩ := h'
  refine ⟨got ++ got', hsub.append hsub', (List.foldl_append ..).symm, fun hsch => ?_⟩
  rw [hall hsch, hall' hsch]

/-- Without a reliable line a record with fewer blocks will do. -/
theorem Copied.fewer {blks blks' : List (Block α)} {out r : α} (h : Copied sch b blks out r)
    (hsub : blks.Sublist blks') (hlost : ¬ sch.Reliable) : Copied sch b blks' out r := by
  obtain ⟨got, hgot, hr, -⟩ := h
  exact ⟨got, hgot.trans hsub, hr, fun hsch => absurd hsch hlost⟩

/-- A block that is several blocks in one. -/
theorem Copied.split {blk : Block α} {blks : List (Block α)} {out r : α}
    (h : Copied sch b [blk] out r) (hsplit : blk.copy b out = blks.foldl (Block.copy b) out) :
    Copied sch b blks out r := by
  obtain ⟨got, hsub, rfl, hall⟩ := h
  rcases List.sublist_cons_iff.mp hsub with hnil | ⟨rest, rfl, hnil⟩
  · obtain rfl := List.sublist_nil.mp hnil
    refine ⟨[], List.nil_sublist blks, rfl, fun hsch => ?_⟩
    cases hall hsch
  · obtain rfl := List.sublist_nil.mp hnil
    exact ⟨blks, List.Sublist.refl blks, hsplit, fun _ => rfl⟩

/-! ## Programs that read blocks -/

/-- The program copies the blocks into the record, and the board keeps its settings. -/
def Brings {sch : Schedule} (wire : Wire σ sch) (slaveId : Int) (text : String)
    (Φ : Station σ → Prop) (b : Bank) (blks : List (Block α)) (out : α)
    (p : SessionProgram α) : Prop :=
  Triple (lineAnswer wire) (Hears sch slaveId text Φ) p
    fun r s => Copied sch b blks out r ∧ Hears sch slaveId text Φ s

variable {slaveId : Int} {text : String} {Φ : Station σ → Prop} {out : α}

theorem brings_none (out : α) : Brings wire slaveId text Φ b [] out (Program.ret out) :=
  triple_ret fun _ hs => ⟨.nil out, hs⟩

theorem brings_bind {blks blks' : List (Block α)} {p : SessionProgram α}
    {f : α → SessionProgram α} (hp : Brings wire slaveId text Φ b blks out p)
    (hf : ∀ mid, Brings wire slaveId text Φ b blks' mid (f mid)) :
    Brings wire slaveId text Φ b (blks ++ blks') out (p >>= f) :=
  triple_bind hp fun mid => ((hf mid).frame).mono (fun _ hs => hs)
    fun _ _ hs => ⟨hs.1.append hs.2.1, hs.2.2⟩

theorem brings_connected {blks : List (Block α)} {p : SessionProgram α}
    (hp : Brings wire slaveId text Φ b blks out p) :
    Brings wire slaveId text Φ b blks out (do
      if !(← ask SessionCall.checkConnected) then return out else p) := by
  refine triple_bind triple_hears_checkConnected fun connected => ?_
  rintro s ⟨rfl, hs⟩
  exact hp s hs

theorem brings_if {blks blks' : List (Block α)} {c : Prop} [Decidable c] {p q : SessionProgram α}
    (hp : c → Brings wire slaveId text Φ b blks out p)
    (hq : ¬ c → Brings wire slaveId text Φ b blks' out q) :
    Brings wire slaveId text Φ b (if c then blks else blks') out (if c then p else q) := by
  split
  next h => exact hp h
  next h => exact hq h

/-! ## Blocks of a channel that is there -/

section Channel

variable {bd : Board} {bs : List Bank} {ch : UInt8}

theorem chAddr_add (ch : Int) (off n : Nat) :
    chAddr ch 0 + UInt16.ofNat off + UInt16.ofNat n =
      chAddr ch 0 + UInt16.ofNat (off + n) := by
  rw [UInt16.add_assoc, ← UInt16.ofNat_add]

theorem brings_readBlock (hch : ch < bd.vc.maxChannels) (hb : bs[ch.toNat]? = some b)
    (blk : Block α) (hserved : blk.Served b.capabilities) {addr : UInt16}
    (haddr : addr = chAddr ch.toNat 0 + UInt16.ofNat blk.off) (out : α) :
    Brings wire slaveId text (Holds (σ := σ) bd bs) b [blk] out
      (readBlock addr blk.count out (blk.fill out)) := by
  have hshown : ∀ n < blk.count, ∀ (st : Station σ) m, Holds bd bs st → ∃ st',
      st.access m (fun bd e w => holdingRd bd e w (addr + UInt16.ofNat n)) =
        (.ok (b.shown (blk.off + n)), st') ∧ Holds bd bs st' := by
    intro n hn st m hst
    obtain ⟨hoff, hguard⟩ := hserved n hn
    have hzero : (0 : UInt16).toNat + (blk.off + n) = blk.off + n := Nat.zero_add _
    have hlt : (0 : UInt16).toNat + (blk.off + n) < chBlockSize := by
      rw [hzero]
      exact lt_of_isSettingOff hoff
    have hdecode := addrDecode_chAddr (lt_sixteen hch) 0 (blk.off + n) hlt
    rw [← chAddr_add, ← haddr, hzero] at hdecode
    exact access_read hdecode hb hch hoff hguard m hst
  refine triple_heard (triple_hears_read true fun clock st hst =>
    readMany_shown hshown clock st hst) (fun hlost => ?_) fun regs hgood => ?_
  · exact triple_ret fun s hs =>
      ⟨⟨[], List.nil_sublist _, rfl, fun hsch => absurd hsch hlost⟩, hs⟩
  · have hregs : regs = Vector.ofFn fun i => b.shown (blk.off + i) := by
      ext i hi
      rw [Vector.getElem_ofFn, hgood i hi]
    subst hregs
    exact triple_ret fun s hs => ⟨⟨[blk], List.Sublist.refl _, rfl, fun _ => rfl⟩, hs⟩

/-- The capabilities are found out, and if they are not, that was a loss. -/
theorem triple_acquireCaps (hch : ch < bd.vc.maxChannels) (hb : bs[ch.toNat]? = some b)
    {caps : UInt16} (hcaps : caps = 0 ∨ caps = b.capabilities) :
    Triple (lineAnswer wire) (Hears sch slaveId text (Holds (σ := σ) bd bs))
      (acquireCaps ch.toNat caps)
      fun r s => (r = b.capabilities ∨ r = 0 ∧ ¬ sch.Reliable) ∧
        Hears sch slaveId text (Holds bd bs) s := by
  unfold acquireCaps
  by_cases hzero : caps = 0
  · rw [if_pos hzero]
    have hdecode : addrDecode (chAddr ch.toNat 0 + 9) = some (.channel ch 9) :=
      addrDecode_chAddr (lt_sixteen hch) 0 9 (by decide)
    have hshown : ∀ n < 1, ∀ (st : Station σ) m, Holds bd bs st → ∃ st',
        st.access m (fun bd e w => inputRd bd e w (chAddr ch.toNat 0 + 9 + UInt16.ofNat n)) =
          (.ok b.capabilities, st') ∧ Holds bd bs st' := by
      intro n hn st m hst
      obtain rfl := Nat.lt_one_iff.mp hn
      have haddr : chAddr ch.toNat 0 + 9 + UInt16.ofNat 0 = chAddr ch.toNat 0 + 9 :=
        UInt16.add_zero _
      rw [haddr]
      exact access_capabilities hdecode hb hch m hst
    refine triple_heard (triple_hears_read false fun clock st hst =>
      readMany_shown hshown clock st hst) (fun hlost => ?_) fun regs hgood => ?_
    · exact triple_ret fun s hs => ⟨.inr ⟨rfl, hlost⟩, hs⟩
    · exact triple_ret fun s hs => ⟨.inl (hgood 0 Nat.zero_lt_one), hs⟩
  · rw [if_neg hzero]
    exact triple_ret fun s hs => ⟨.inl (hcaps.resolve_left hzero), hs⟩

end Channel

/-! ## The blocks of a configuration -/

def commandBlock : Block ChannelConfig where
  off := 0
  count := 3
  fill out buf := { out with
    outputAction := .ofValue (buf.get 0)
    faultCommand := .ofValue (buf.get 1) }

def driveBlock : Block ChannelConfig where
  off := 3
  count := 5
  fill out buf := { out with
    configuredTargetVRaw := (buf.get 0).toInt16
    rampUpStepRaw := buf.get 1
    rampUpInterval := buf.get 2
    rampDownStepRaw := buf.get 3
    rampDownInterval := buf.get 4 }

/-- The two above, as the host reads them. -/
def outputBlock : Block ChannelConfig where
  off := 0
  count := 8
  fill out buf := { out with
    outputAction := .ofValue (buf.get 0)
    faultCommand := .ofValue (buf.get 1)
    configuredTargetVRaw := (buf.get 3).toInt16
    rampUpStepRaw := buf.get 4
    rampUpInterval := buf.get 5
    rampDownStepRaw := buf.get 6
    rampDownInterval := buf.get 7 }

def recoveryBlock : Block ChannelConfig where
  off := 8
  count := 5
  fill out buf := { out with
    recoveryPolicyMode := .ofValue (buf.get 0)
    autoRetryDelay := buf.get 1
    autoRetryMaxCount := buf.get 2
    autoRetryWindow := buf.get 3
    currentSafeBandPct := buf.get 4 }

def protectionBlock : Block ChannelConfig where
  off := 13
  count := 3
  fill out buf := { out with
    iProtMode := .ofValue (buf.get 0)
    iProtOutputAction := .ofValue (buf.get 1)
    iLimitThresholdRaw := (buf.get 2).toInt16 }

def derateBlock : Block ChannelConfig where
  off := 16
  count := 1
  fill out buf := { out with derateStepRaw := only buf }

def outputEnabledBlock : Block ChannelConfig where
  off := 17
  count := 1
  fill out buf := { out with outputEnabledCfg := only buf ≠ 0 }

/-- The blocks that a host with these capabilities in mind asks for. -/
def configBlocks (caps : UInt16) : List (Block ChannelConfig) :=
  (if haveDrive caps then [commandBlock, driveBlock] else [commandBlock]) ++
    ([recoveryBlock] ++
      ((if !hasCurrent caps then [] else [protectionBlock]) ++
        ((if !(haveDrive caps && hasVoltage caps) then [] else [derateBlock]) ++
          if !(!haveDrive caps && haveOutput caps) then [] else [outputEnabledBlock])))

theorem haveDrive_iff {caps : UInt16} : haveDrive caps ↔ AddressMap.has caps capRawOutputDrive := by
  simp [haveDrive, AddressMap.has]

theorem hasVoltage_iff {caps : UInt16} :
    hasVoltage caps ↔ AddressMap.has caps capVoltageMeasurement := by
  simp [hasVoltage, AddressMap.has]

theorem hasCurrent_iff {caps : UInt16} :
    hasCurrent caps ↔ AddressMap.has caps capCurrentMeasurement := by
  simp [hasCurrent, AddressMap.has]

theorem served_command (caps : UInt16) : commandBlock.Served caps := by
  intro i hi
  match i, hi with
  | 0, _ | 1, _ | 2, _ => exact ⟨rfl, rfl⟩

theorem served_output {caps : UInt16} (h : haveDrive caps) : outputBlock.Served caps := by
  intro i hi
  have hdrive := haveDrive_iff.mp h
  match i, hi with
  | 0, _ | 1, _ | 2, _ => exact ⟨rfl, rfl⟩
  | 3, _ | 4, _ | 5, _ | 6, _ | 7, _ => exact ⟨rfl, hdrive⟩

theorem served_recovery (caps : UInt16) : recoveryBlock.Served caps := by
  intro i hi
  match i, hi with
  | 0, _ | 1, _ | 2, _ | 3, _ | 4, _ => exact ⟨rfl, rfl⟩

theorem served_protection {caps : UInt16} (h : hasCurrent caps) : protectionBlock.Served caps := by
  intro i hi
  match i, hi with
  | 0, _ | 1, _ | 2, _ => exact ⟨rfl, hasCurrent_iff.mp h⟩

theorem served_derate {caps : UInt16} (hdrive : haveDrive caps) (hvoltage : hasVoltage caps) :
    derateBlock.Served caps := by
  intro i hi
  match i, hi with
  | 0, _ =>
    exact ⟨rfl, Bool.and_eq_true_iff.mpr ⟨haveDrive_iff.mp hdrive, hasVoltage_iff.mp hvoltage⟩⟩

theorem served_outputEnabled {caps : UInt16} (hdrive : ¬ haveDrive caps)
    (houtput : haveOutput caps) : outputEnabledBlock.Served caps := by
  intro i hi
  match i, hi with
  | 0, _ =>
    have hoff : AddressMap.has caps capRawOutputDrive = false := by
      rwa [haveDrive_iff, Bool.not_eq_true] at hdrive
    have hon : AddressMap.has caps capOutputEnable := by
      simpa [haveOutput, AddressMap.has] using houtput
    exact ⟨rfl, by simp [holdingGuard, outputEnabledBlock, hoff, hon]⟩

section Channel

variable {bd : Board} {bs : List Bank} {ch : UInt8}

theorem copy_output (b : Bank) (out : ChannelConfig) :
    outputBlock.copy b out = [commandBlock, driveBlock].foldl (Block.copy b) out := rfl

/-- A capability that the host knows of is one of the channel. -/
theorem known {caps : UInt16} (hcaps : caps = b.capabilities ∨ caps = 0) {cap : UInt16 → Bool}
    (hzero : cap 0 = false) (h : cap caps) : cap b.capabilities := by
  rcases hcaps with rfl | rfl
  · exact h
  · exact absurd h (by simp [hzero])

section Host

variable (hch : ch < bd.vc.maxChannels) (hb : bs[ch.toNat]? = some b) {caps : UInt16}
  (hcaps : caps = b.capabilities ∨ caps = 0)

include hch hb

theorem brings_recovery (out : ChannelConfig) :
    Brings wire slaveId text (Holds (σ := σ) bd bs) b [recoveryBlock] out
      (readChannelRecoveryBlock ch.toNat out) :=
  brings_connected (brings_readBlock hch hb recoveryBlock (served_recovery _) rfl out)

include hcaps

theorem brings_output (out : ChannelConfig) :
    Brings wire slaveId text (Holds (σ := σ) bd bs) b
      (if haveDrive caps then [commandBlock, driveBlock] else [commandBlock]) out
      (readChannelOutputBlock ch.toNat caps out) := by
  have haddr : chAddr ch.toNat 0 = chAddr ch.toNat 0 + UInt16.ofNat 0 := (UInt16.add_zero _).symm
  refine brings_connected (brings_if (fun hdrive => ?_) fun _ => ?_)
  · have hserved := served_output (known hcaps rfl hdrive)
    refine (brings_readBlock hch hb outputBlock hserved haddr out).mono (fun _ hs => hs) ?_
    exact fun r s hs => ⟨hs.1.split (copy_output b out), hs.2⟩
  · exact brings_readBlock hch hb commandBlock (served_command _) haddr out

theorem brings_protection (out : ChannelConfig) :
    Brings wire slaveId text (Holds (σ := σ) bd bs) b
      (if !hasCurrent caps then [] else [protectionBlock]) out
      (readChannelProtectionBlock ch.toNat caps out) := by
  refine brings_connected (brings_if (fun _ => brings_none out) fun h => ?_)
  have hcurrent : hasCurrent caps := by simpa using h
  exact brings_readBlock hch hb protectionBlock (served_protection (known hcaps rfl hcurrent)) rfl
    out

theorem brings_derate (out : ChannelConfig) :
    Brings wire slaveId text (Holds (σ := σ) bd bs) b
      (if !(haveDrive caps && hasVoltage caps) then [] else [derateBlock]) out
      (readChannelDerateBlock ch.toNat caps out) := by
  refine brings_connected (brings_if (fun _ => brings_none out) fun h => ?_)
  have hboth : haveDrive caps ∧ hasVoltage caps := by simpa using h
  have hserved := served_derate (known hcaps rfl hboth.1) (known hcaps rfl hboth.2)
  exact brings_readBlock hch hb derateBlock hserved rfl out

theorem brings_outputEnabled (out : ChannelConfig) :
    Brings wire slaveId text (Holds (σ := σ) bd bs) b
      (if !(!haveDrive caps && haveOutput caps) then [] else [outputEnabledBlock]) out
      (readChannelOutputEnabledBlock ch.toNat caps out) := by
  refine brings_connected (brings_if (fun _ => brings_none out) fun h => ?_)
  have hboth : ¬ haveDrive caps ∧ haveOutput caps := by simpa using h
  have hcaps : caps = b.capabilities := by
    rcases hcaps with h | rfl
    · exact h
    · exact absurd hboth.2 (by decide)
  subst hcaps
  exact brings_readBlock hch hb outputEnabledBlock (served_outputEnabled hboth.1 hboth.2) rfl out

/-- What a host asks for that knows the capabilities, or none of them. -/
theorem brings_config (out : ChannelConfig) :
    Brings wire slaveId text (Holds (σ := σ) bd bs) b (configBlocks caps) out (do
      let out ← readChannelOutputBlock ch.toNat caps out
      let out ← readChannelRecoveryBlock ch.toNat out
      let out ← readChannelProtectionBlock ch.toNat caps out
      let out ← readChannelDerateBlock ch.toNat caps out
      readChannelOutputEnabledBlock ch.toNat caps out) :=
  brings_bind (brings_output hch hb hcaps out) fun out =>
    brings_bind (brings_recovery hch hb out) fun out =>
      brings_bind (brings_protection hch hb hcaps out) fun out =>
        brings_bind (brings_derate hch hb hcaps out) fun out =>
          brings_outputEnabled hch hb hcaps out

end Host

theorem configBlocks_zero (caps : UInt16) : (configBlocks 0).Sublist (configBlocks caps) := by
  have hzero : configBlocks 0 = [commandBlock, recoveryBlock] := rfl
  rw [hzero]
  unfold configBlocks
  have hcommand : [commandBlock].Sublist
      (if haveDrive caps then [commandBlock, driveBlock] else [commandBlock]) := by
    split
    · exact List.sublist_append_left [commandBlock] [driveBlock]
    · exact List.Sublist.refl _
  exact hcommand.append (List.sublist_append_left [recoveryBlock] _)

/-- The configuration of a channel, read over a line on which anything may be lost: the blocks that
come back are the settings of the board, and without losses each block that the channel has does.
No request for one is refused. -/
theorem readChannelConfig_settings (hch : ch < bd.vc.maxChannels) (hb : bs[ch.toNat]? = some b)
    {caps : UInt16} (hcaps : caps = 0 ∨ caps = b.capabilities) (out : ChannelConfig) :
    Brings wire slaveId text (Holds (σ := σ) bd bs) b (configBlocks b.capabilities) out
      (readChannelConfig ch.toNat caps out) := by
  refine brings_connected (triple_bind (triple_acquireCaps hch hb hcaps) fun caps' => ?_)
  rintro s ⟨rfl | ⟨rfl, hlost⟩, hs⟩
  · exact brings_config hch hb (.inl rfl) out s hs
  · obtain ⟨hcopied, hs'⟩ := brings_config hch hb (.inr rfl) out s hs
    exact ⟨hcopied.fewer (configBlocks_zero _) hlost, hs'⟩

end Channel

/-- The interlock trips before every register and the reply with the recovery policy is lost: the
retry delay keeps its default, the other blocks come. -/
theorem readChannelConfig_settings_hvb :
    let sch : Schedule :=
      ⟨fun _ => ⟨[.tick 100, .consumeFault 0 faultInterlock], envWith true, rfl⟩,
        fun n => if n = 11 then .replyLost else .served, fun _ => "timeout"⟩
    let c := channelAfter dacNode [.setField .configuredTargetVoltage 300, .setField .rampUpStep 12,
      .setField .autoRetryDelay 7]
    let r := exec (lineAnswer (.plain sch)) (readChannelConfig (0 : UInt8).toNat 0 {})
      (opened 1 (single (stationOf boardHvb [c])))
    (Copied sch (bank c) (configBlocks c.capabilities) {} r.1 ∧
      Hears sch 1 "" (Holds boardHvb [bank c]) r.2.2) ∧
    r.1 = { ({} : ChannelConfig) with
      configuredTargetVRaw := 300
      rampUpStepRaw := 12
      rampUpInterval := 1
      rampDownStepRaw := 150
      rampDownInterval := 1
      iProtOutputAction := .disableImmediate
      iLimitThresholdRaw := 10000 } :=
  ⟨readChannelConfig_settings (by decide) rfl (.inl rfl) {} _
    (hears_opened (at_single ⟨rfl, rfl⟩)), by decide +kernel⟩

/-! ## The blocks of the coefficients -/

def outKBBlock : Block ChannelCalConfig where
  off := 20
  count := 2
  fill out buf := { out with outCalK := first buf, outCalB := (second buf).toInt16 }

def outExpBlock : Block ChannelCalConfig where
  off := 26
  count := 1
  fill out buf := { out with outCalKExp := (only buf).toInt16 }

def measVKBBlock : Block ChannelCalConfig where
  off := 22
  count := 2
  fill out buf := { out with measVCalK := first buf, measVCalB := (second buf).toInt16 }

def measVExpBlock : Block ChannelCalConfig where
  off := 27
  count := 1
  fill out buf := { out with measVCalKExp := (only buf).toInt16 }

def measIKBBlock : Block ChannelCalConfig where
  off := 24
  count := 2
  fill out buf := { out with measICalK := first buf, measICalB := (second buf).toInt16 }

def measIExpBlock : Block ChannelCalConfig where
  off := 28
  count := 1
  fill out buf := { out with measICalKExp := (only buf).toInt16 }

/-- All of the above, as the host reads them of a channel with all three directions. -/
def allCalBlock : Block ChannelCalConfig where
  off := 20
  count := 9
  fill out buf := { out with
    outCalK := buf.get 0
    outCalB := (buf.get 1).toInt16
    measVCalK := buf.get 2
    measVCalB := (buf.get 3).toInt16
    measICalK := buf.get 4
    measICalB := (buf.get 5).toInt16
    outCalKExp := (buf.get 6).toInt16
    measVCalKExp := (buf.get 7).toInt16
    measICalKExp := (buf.get 8).toInt16 }

def calBlocks (caps : UInt16) : List (Block ChannelCalConfig) :=
  (if haveDrive caps then [outKBBlock, outExpBlock] else []) ++
    ((if hasVoltage caps then [measVKBBlock, measVExpBlock] else []) ++
      if hasCurrent caps then [measIKBBlock, measIExpBlock] else [])

theorem served_triplet {caps : UInt16} {off expOff : Nat}
    {setKB : ChannelCalConfig → Vector UInt16 2 → ChannelCalConfig}
    {setExp : ChannelCalConfig → Vector UInt16 1 → ChannelCalConfig}
    (hoff : isSettingOff off ∧ isSettingOff (off + 1) ∧ isSettingOff expOff)
    (hguard : holdingGuard caps off ∧ holdingGuard caps (off + 1) ∧ holdingGuard caps expOff) :
    Block.Served ⟨off, 2, setKB⟩ caps ∧ Block.Served ⟨expOff, 1, setExp⟩ caps := by
  refine ⟨fun i hi => ?_, fun i hi => ?_⟩
  · match i, hi with
    | 0, _ => exact ⟨hoff.1, hguard.1⟩
    | 1, _ => exact ⟨hoff.2.1, hguard.2.1⟩
  · match i, hi with
    | 0, _ => exact ⟨hoff.2.2, hguard.2.2⟩

theorem served_allCal {caps : UInt16} (hdrive : haveDrive caps) (hvoltage : hasVoltage caps)
    (hcurrent : hasCurrent caps) : allCalBlock.Served caps := by
  intro i hi
  match i, hi with
  | 0, _ | 1, _ | 6, _ => exact ⟨rfl, haveDrive_iff.mp hdrive⟩
  | 2, _ | 3, _ | 7, _ => exact ⟨rfl, hasVoltage_iff.mp hvoltage⟩
  | 4, _ | 5, _ | 8, _ => exact ⟨rfl, hasCurrent_iff.mp hcurrent⟩

/-- One read of all coefficients is as good as six. -/
theorem copy_allCal (b : Bank) (out : ChannelCalConfig) : allCalBlock.copy b out =
    [outKBBlock, outExpBlock, measVKBBlock, measVExpBlock, measIKBBlock, measIExpBlock].foldl
      (Block.copy b) out := rfl

section Channel

variable {bd : Board} {bs : List Bank} {ch : UInt8}

variable (hch : ch < bd.vc.maxChannels) (hb : bs[ch.toNat]? = some b)

include hch hb

theorem brings_triplet {supported : Bool} {off expOff : Nat}
    {setKB : ChannelCalConfig → Vector UInt16 2 → ChannelCalConfig}
    {setExp : ChannelCalConfig → Vector UInt16 1 → ChannelCalConfig}
    (hserved : supported → Block.Served ⟨off, 2, setKB⟩ b.capabilities ∧
      Block.Served ⟨expOff, 1, setExp⟩ b.capabilities) (out : ChannelCalConfig) :
    Brings wire slaveId text (Holds (σ := σ) bd bs) b
      (if supported then [⟨off, 2, setKB⟩, ⟨expOff, 1, setExp⟩] else []) out
      (readTriplet supported (chAddr ch.toNat 0 + UInt16.ofNat off)
        (chAddr ch.toNat 0 + UInt16.ofNat expOff) out setKB setExp) := by
  refine brings_if (fun h => ?_) fun _ => brings_none out
  obtain ⟨hkb, hexp⟩ := hserved h
  exact brings_bind (brings_readBlock hch hb ⟨off, 2, setKB⟩ hkb rfl out) fun mid =>
    brings_readBlock hch hb ⟨expOff, 1, setExp⟩ hexp rfl mid

theorem brings_cal {caps : UInt16} (hcaps : caps = b.capabilities ∨ caps = 0)
    (out : ChannelCalConfig) :
    Brings wire slaveId text (Holds (σ := σ) bd bs) b (calBlocks caps) out (do
      let out ← readTriplet (haveDrive caps) (chAddr ch.toNat 0 + 20) (chAddr ch.toNat 0 + 26) out
        (fun out buf => { out with outCalK := first buf, outCalB := (second buf).toInt16 })
        fun out buf => { out with outCalKExp := (only buf).toInt16 }
      let out ← readTriplet (hasVoltage caps) (chAddr ch.toNat 0 + 22) (chAddr ch.toNat 0 + 27) out
        (fun out buf => { out with measVCalK := first buf, measVCalB := (second buf).toInt16 })
        fun out buf => { out with measVCalKExp := (only buf).toInt16 }
      readTriplet (hasCurrent caps) (chAddr ch.toNat 0 + 24) (chAddr ch.toNat 0 + 28) out
        (fun out buf => { out with measICalK := first buf, measICalB := (second buf).toInt16 })
        fun out buf => { out with measICalKExp := (only buf).toInt16 }) := by
  refine brings_bind (brings_triplet hch hb (fun h => ?_) out) fun mid =>
    brings_bind (brings_triplet hch hb (fun h => ?_) mid) fun mid =>
      brings_triplet hch hb (fun h => ?_) mid
  · have hguard := haveDrive_iff.mp (known hcaps rfl h)
    exact served_triplet ⟨rfl, rfl, rfl⟩ ⟨hguard, hguard, hguard⟩
  · have hguard := hasVoltage_iff.mp (known hcaps rfl h)
    exact served_triplet ⟨rfl, rfl, rfl⟩ ⟨hguard, hguard, hguard⟩
  · have hguard := hasCurrent_iff.mp (known hcaps rfl h)
    exact served_triplet ⟨rfl, rfl, rfl⟩ ⟨hguard, hguard, hguard⟩

/-- The coefficients of a channel, read over the same line. Whether they come in one read or
direction by direction makes no difference to what is copied. -/
theorem readChannelCalConfig_settings {caps : UInt16} (hcaps : caps = 0 ∨ caps = b.capabilities)
    (out : ChannelCalConfig) :
    Brings wire slaveId text (Holds (σ := σ) bd bs) b (calBlocks b.capabilities) out
      (readChannelCalConfig ch.toNat caps out) := by
  refine brings_connected (triple_bind (triple_acquireCaps hch hb hcaps) fun caps' => ?_)
  rintro s ⟨rfl | ⟨rfl, hlost⟩, hs⟩
  · by_cases hall : haveDrive b.capabilities && hasVoltage b.capabilities &&
        hasCurrent b.capabilities
    · rw [if_pos hall]
      simp only [Bool.and_eq_true] at hall
      have hserved := served_allCal hall.1.1 hall.1.2 hall.2
      obtain ⟨hcopied, hs'⟩ := brings_readBlock hch hb allCalBlock hserved rfl out s hs
      refine ⟨hcopied.split ?_, hs'⟩
      rw [calBlocks, if_pos hall.1.1, if_pos hall.1.2, if_pos hall.2]
      exact copy_allCal b out
    · rw [if_neg hall]
      exact brings_cal hch hb (.inl rfl) out s hs
  · obtain ⟨hcopied, hs'⟩ := brings_cal hch hb (.inr rfl) out s hs
    exact ⟨hcopied.fewer (List.nil_sublist _) hlost, hs'⟩

end Channel

/-- A channel without a current measurement, whose coefficients come direction by direction: the
request for the exponent of the output is lost. -/
theorem readChannelCalConfig_settings_hvb :
    let sch : Schedule := ⟨fun _ => ⟨[.tick 100], envWith true, rfl⟩,
      fun n => if n = 3 then .requestLost else .served, fun _ => "timeout"⟩
    let c := channelAfter { dacNode with
        capabilities := capOutputEnable ||| capRawOutputDrive ||| capVoltageMeasurement }
      [.setCalField .outputK 12000, .setCalField .outputKExp 2, .setCalField .measuredVB 5]
    let r := exec (lineAnswer (.plain sch))
      (readChannelCalConfig (0 : UInt8).toNat c.capabilities {})
      (opened 1 (single (stationOf boardHvb [c])))
    (Copied sch (bank c) (calBlocks c.capabilities) {} r.1 ∧
      Hears sch 1 "" (Holds boardHvb [bank c]) r.2.2) ∧
    r.1 = { ({} : ChannelCalConfig) with
      outCalK := 12000
      measVCalKExp := -6
      measVCalB := 5 } :=
  ⟨readChannelCalConfig_settings (by decide) rfl (.inr rfl) {} _
    (hears_opened (at_single ⟨rfl, rfl⟩)), by decide +kernel⟩

end HostConfig
