import HvbFirmware.MbAdapter
import HvbFirmware.VcCatalog

/-!
# Requests on the whole board

The views of the Modbus registers over the controller and the adapter themselves. A read is one of
`ModbusRegister` with the owners answering from the state; the write path is followed once more,
with the state that each owner leaves. `holdingWr_view` says that the two agree.
-/
namespace MbServer

open VcTypes VcController RegCatalog ModbusRegister MbAdapter VcCatalog

variable {σ : Type}

/-- The build constants of all parts. -/
structure Board where
  k : Kconfig
  vc : VcBuild
  mb : MbBuild

structure World (σ : Type) where
  ctrl : Controller σ
  mb : MbState
  latch : WordLatch

/-- What the rest of the system answers during one request. -/
structure Env where
  adm : Admission
  outcomes : Outcomes
  reset : RegStatus
  sysStatus : SysStatusReg → RegStatus × UInt32
  sysStatus_readable : ∀ reg, (sysStatus reg).1 ≠ .writeOnly

def vcProtocolMajor : UInt16 := 3
def vcProtocolMinor : UInt16 := 3

/-! ## The owners -/

def sysStatusRegOf (desc : RegDescriptor) : Option SysStatusReg :=
  [.boardTemperature, .boardHumidity, .uptime, .fwVersion].find? fun reg : SysStatusReg =>
    isRow desc reg.row

def ownerRead (bd : Board) (e : Env) (w : World σ) (desc : RegDescriptor) : RegStatus × UInt32 :=
  if desc.id.moduleId = moduleVoltageControl then
    vcCatalogRead bd.vc e.adm.running w.ctrl desc
  else if desc.id.moduleId = moduleModbusAdapter then
    if desc.id.field = ModbusReg.protocolMajor.row.field then (.ok, u16 vcProtocolMajor)
    else if desc.id.field = ModbusReg.protocolMinor.row.field then (.ok, u16 vcProtocolMinor)
    else modbusRegRead desc.id.field w.mb
  else
    match sysStatusRegOf desc with
    | none => (.notFound, 0)
    | some reg => e.sysStatus reg

/-- The state registers have no write hook. -/
def ownerWrite (bd : Board) (e : Env) (w : World σ) (desc : RegDescriptor) (value : UInt16) :
    RegStatus × World σ :=
  if desc.id.moduleId = moduleVoltageControl then
    let r := vcCatalogWrite bd.k e.adm w.ctrl desc value
    (r.1, { w with ctrl := r.2 })
  else if desc.id.moduleId = moduleModbusAdapter then
    let r := modbusRegWrite bd.mb e.outcomes desc.id.field value w.mb
    (r.1, { w with mb := r.2 })
  else (.unsupported, w)

theorem ownerRead_readable (bd : Board) (e : Env) (w : World σ) {desc : RegDescriptor}
    (h : desc.access ≠ .wo) : (ownerRead bd e w desc).1 ≠ .writeOnly := by
  unfold ownerRead
  split
  · exact vcCatalogRead_readable h
  split
  · split
    · exact nofun
    split
    · exact nofun
    · unfold modbusRegRead
      repeat' split
      all_goals exact nofun
  · split
    · exact nofun
    · exact e.sysStatus_readable _

/-! ## The controller as an owner -/

section Controller

variable (bd : Board) (e : Env) (w : World σ)

/-- A request that the runtime takes while it runs. -/
def serveBoard (request : Request σ) : RegStatus × World σ :=
  let r := serve bd.k e.adm w.ctrl request
  (r.1, { w with ctrl := r.2 })

theorem ownerRead_global (reg : GlobalReg) :
    ownerRead bd e w reg.descriptor =
      if !e.adm.running then (.busy, 0) else globalValue bd.vc w.ctrl reg := by
  have hmodule : reg.descriptor.id.moduleId = moduleVoltageControl := rfl
  have hglobal : reg.descriptor.id.instanceId = globalInstance := rfl
  unfold ownerRead vcCatalogRead
  rw [if_pos hmodule, if_pos hglobal, globalRegOf_descriptor]

theorem ownerWrite_global (reg : GlobalReg) (value : UInt16) :
    ownerWrite bd e w reg.descriptor value =
      if !e.adm.running then (.busy, w) else serveBoard bd e w (globalRequest reg value) := by
  have hmodule : reg.descriptor.id.moduleId = moduleVoltageControl := rfl
  have hglobal : reg.descriptor.id.instanceId = globalInstance := rfl
  unfold ownerWrite vcCatalogWrite
  rw [if_pos hmodule, if_pos hglobal, globalRegOf_descriptor]
  split <;> rfl

variable {ch : UInt8} (hch : ch ≠ globalInstance) (reg : VcReg)

include hch

theorem ownerRead_channel :
    ownerRead bd e w (reg.row.descriptor moduleVoltageControl ch) =
      if !e.adm.running then (.busy, 0)
      else
        match w.ctrl.channels[ch.toNat]? with
        | none => (.unsupported, 0)
        | some c => if !vcCatalogSupported reg c.capabilities then (.unsupported, 0)
          else channelValue c reg := by
  have hmodule : (reg.row.descriptor moduleVoltageControl ch).id.moduleId =
      moduleVoltageControl := rfl
  have hchannel : (reg.row.descriptor moduleVoltageControl ch).id.instanceId = ch := rfl
  unfold ownerRead vcCatalogRead
  rw [if_pos hmodule, hchannel, if_neg hch, vcRegOf_descriptor]
  cases w.ctrl.channels[ch.toNat]? <;> rfl

theorem ownerWrite_channel (value : UInt16) :
    ownerWrite bd e w (reg.row.descriptor moduleVoltageControl ch) value =
      if !e.adm.running then (.busy, w)
      else
        match w.ctrl.channels[ch.toNat]? with
        | none => (.unsupported, w)
        | some c => if !vcCatalogSupported reg c.capabilities then (.unsupported, w)
          else serveBoard bd e w (channelRequest ch.toNat reg value) := by
  have hmodule : (reg.row.descriptor moduleVoltageControl ch).id.moduleId =
      moduleVoltageControl := rfl
  have hchannel : (reg.row.descriptor moduleVoltageControl ch).id.instanceId = ch := rfl
  unfold ownerWrite vcCatalogWrite
  rw [if_pos hmodule, hchannel, if_neg hch, vcRegOf_descriptor]
  dsimp only
  cases e.adm.running with
  | false => rfl
  | true =>
    cases w.ctrl.channels[ch.toNat]? with
    | none => rfl
    | some c =>
      simp only [Bool.not_true, Bool.false_eq_true, if_false]
      cases vcCatalogSupported reg c.capabilities <;> rfl

end Controller

/-! ## Writes with the state they leave -/

def regWrite (bd : Board) (e : Env) (w : World σ) (desc : RegDescriptor) (value : UInt16) :
    RegStatus × World σ :=
  if desc.access = .ro then (.readOnly, w) else ownerWrite bd e w desc value

def writeWire (bd : Board) (e : Env) (w : World σ) (wire : Option WireReg) (ch : UInt8)
    (reg : UInt16) : RegStatus × World σ :=
  match wire with
  | none => (.invalidValue, w)
  | some wire =>
    match wire.handle ch with
    | none => (.unsupported, w)
    | some desc => regWrite bd e w desc reg

def vcRegWriteSysHolding (bd : Board) (e : Env) (w : World σ) (off : Nat) (val : UInt16) :
    RegStatus × World σ :=
  if off ≥ chBlockSize then (.invalidArgument, w)
  else writeWire bd e w (sysHoldingView off) 0 val

/-- `handle_sys_param_action` over the board. -/
def paramAction (bd : Board) (e : Env) (w : World σ) (val : UInt16) : MbResult × World σ :=
  let r := handleSysParamAction bd.mb e.outcomes e.reset
    (fun w => vcRegWriteSysHolding bd e w 39 val) val w.mb w
  (r.1, { r.2.2 with mb := r.2.1 })

/-- The owners as one request finds them. -/
def answers (bd : Board) (e : Env) (w : World σ) : Answers where
  read _ desc := ownerRead bd e w desc
  write desc value := (ownerWrite bd e w desc value).1
  paramAction val := (paramAction bd e w val).1
  read_readable _ _ h := ownerRead_readable bd e w h

def writeCalCommand (bd : Board) (e : Env) (w : World σ) (ch : UInt8) (off : Nat) (val : UInt16) :
    RegStatus × World σ :=
  match chHoldingReg off with
  | some .calOutputEnable =>
    if val > 1 then (.invalidValue, w)
    else writeWire bd e w (chHoldingView bd.vc.toBuild off) ch val
  | some .calDacCode => writeWire bd e w (chHoldingView bd.vc.toBuild off) ch val
  | some .calSampleCmd | some .calCommitCmd =>
    if val = 0 then (.ok, w)
    else if val ≠ 1 then (.invalidValue, w)
    else writeWire bd e w (chHoldingView bd.vc.toBuild off) ch val
  | _ => (.unsupported, w)

def vcRegWriteChHolding (bd : Board) (e : Env) (w : World σ) (ch : UInt8) (off : Nat)
    (val : UInt16) : RegStatus × World σ :=
  let a := answers bd e w
  let b := bd.vc.toBuild
  let count := readCount a b w.latch
  if ch.toUInt16 ≥ guardValue count.1 then (.unsupported, { w with latch := count.2 })
  else
    let caps := readCaps a b ch count.2
    let w := { w with latch := caps.2 }
    if !chHoldingSupported (guardValue caps.1) off then (.unsupported, w)
    else if chHoldingReg off = some .outputAction ∨ chHoldingReg off = some .faultCmd ∨
        chHoldingReg off = some .paramAction then
      writeWire bd e w (chHoldingView b off) ch val
    else
      let mode := readMode a b caps.2
      let w := { w with latch := mode.2 }
      if isChCalibrationCoefficientReg off then writeWire bd e w (chHoldingView b off) ch val
      else if isChCalHoldingReg off then
        if guardValue mode.1 ≠ calibrationMode then (.unsupported, w)
        else writeCalCommand bd e w ch off val
      else if off ≥ chBlockSize then (.invalidArgument, w)
      else writeWire bd e w (chHoldingView b off) ch val

def vcRegWriteExt (bd : Board) (e : Env) (w : World σ) (off : Nat) (val : UInt16) :
    RegStatus × World σ :=
  if off = 0 then regWrite bd e w GlobalReg.calUnlock.descriptor val
  else if off = 1 then regWrite bd e w GlobalReg.calExit.descriptor val
  else (.unsupported, w)

def mbAnswer (r : RegStatus × World σ) : MbResult × World σ := (regStToMbResult r.1, r.2)

/-- `vc_mb_holding_wr` -/
def holdingWr (bd : Board) (e : Env) (w : World σ) (addr val : UInt16) : MbResult × World σ :=
  if isExtension addr then mbAnswer (vcRegWriteExt bd e w (addr.toNat - 680) val)
  else
    match addrDecode addr with
    | none => (.illegalAddress, w)
    | some (.sys off) =>
      if off = 39 then paramAction bd e w val
      else mbAnswer (vcRegWriteSysHolding bd e w off val)
    | some (.channel ch off) => mbAnswer (vcRegWriteChHolding bd e w ch off val)

/-- `vc_mb_holding_rd` -/
def holdingRd (bd : Board) (e : Env) (w : World σ) (addr : UInt16) :
    Except MbResult UInt16 × World σ :=
  let r := vcMbHoldingRd (answers bd e w) bd.vc.toBuild addr w.latch
  (r.1, { w with latch := r.2 })

/-- `vc_mb_input_rd` -/
def inputRd (bd : Board) (e : Env) (w : World σ) (addr : UInt16) :
    Except MbResult UInt16 × World σ :=
  let r := vcMbInputRd (answers bd e w) bd.vc.toBuild addr w.latch
  (r.1, { w with latch := r.2 })

/-! ## The two write paths agree -/

section View

variable (bd : Board) (e : Env) (w : World σ) (latch : WordLatch)

/-- A result of the write path that answers as the view does and leaves the latch. -/
def Views (r : RegStatus × World σ) (st : RegStatus) : Prop := (r.1, r.2.latch) = (st, latch)

theorem ownerWrite_view (desc : RegDescriptor) (value : UInt16) :
    Views latch (ownerWrite bd e { w with latch := latch } desc value)
      ((answers bd e w).write desc value) := by
  show (_, _) = ((ownerWrite bd e w desc value).1, latch)
  unfold ownerWrite
  split
  · rfl
  · split <;> rfl

theorem regWrite_view (desc : RegDescriptor) (value : UInt16) :
    Views latch (regWrite bd e { w with latch := latch } desc value)
      (regWriteDescriptor (answers bd e w).write desc value) := by
  unfold regWrite regWriteDescriptor
  split
  · rfl
  · exact ownerWrite_view bd e w latch desc value

theorem writeWire_view (wire : Option WireReg) (ch : UInt8) (reg : UInt16) :
    Views latch (writeWire bd e { w with latch := latch } wire ch reg)
      (ModbusRegister.writeWire (answers bd e w) wire ch reg) := by
  unfold writeWire ModbusRegister.writeWire
  cases wire with
  | none => rfl
  | some wire =>
    dsimp only
    cases wire.handle ch with
    | none => rfl
    | some desc => exact regWrite_view bd e w latch desc reg

theorem writeCalCommand_view (ch : UInt8) (off : Nat) (val : UInt16) :
    Views latch (writeCalCommand bd e { w with latch := latch } ch off val)
      (ModbusRegister.writeCalCommand (answers bd e w) bd.vc.toBuild ch off val) := by
  have hwrite := writeWire_view bd e w latch (chHoldingView bd.vc.toBuild off) ch val
  have hcommand : Views latch
      (if val = 0 then (.ok, { w with latch := latch })
        else if val ≠ 1 then (.invalidValue, { w with latch := latch })
        else writeWire bd e { w with latch := latch } (chHoldingView bd.vc.toBuild off) ch val)
      (if val = 0 then .ok else if val ≠ 1 then .invalidValue
        else
          ModbusRegister.writeWire (answers bd e w) (chHoldingView bd.vc.toBuild off) ch val) := by
    split
    · rfl
    split
    · rfl
    · exact hwrite
  unfold writeCalCommand ModbusRegister.writeCalCommand
  cases chHoldingReg off with
  | none => rfl
  | some reg =>
    cases reg
    case calOutputEnable =>
      dsimp only
      split
      · rfl
      · exact hwrite
    case calDacCode => exact hwrite
    case calSampleCmd => exact hcommand
    case calCommitCmd => exact hcommand
    all_goals rfl

theorem vcRegWriteSysHolding_view (off : Nat) (val : UInt16) :
    Views w.latch (vcRegWriteSysHolding bd e w off val)
      (ModbusRegister.vcRegWriteSysHolding (answers bd e w) off val) := by
  unfold vcRegWriteSysHolding ModbusRegister.vcRegWriteSysHolding
  split
  · rfl
  · exact writeWire_view bd e w w.latch _ 0 val

theorem vcRegWriteChHolding_view (ch : UInt8) (off : Nat) (val : UInt16) :
    let r := vcRegWriteChHolding bd e w ch off val
    (r.1, r.2.latch) = ModbusRegister.vcRegWriteChHolding (answers bd e w) bd.vc.toBuild ch off val
      w.latch := by
  unfold vcRegWriteChHolding ModbusRegister.vcRegWriteChHolding
  dsimp only
  split
  · rfl
  split
  · rfl
  split
  · exact writeWire_view bd e w _ _ ch val
  split
  · exact writeWire_view bd e w _ _ ch val
  split
  · split
    · rfl
    · exact writeCalCommand_view bd e w _ ch off val
  split
  · rfl
  · exact writeWire_view bd e w _ _ ch val

theorem latch_paramAction (val : UInt16) : (paramAction bd e w val).2.latch = w.latch := by
  have hwrite := congrArg Prod.snd (vcRegWriteSysHolding_view bd e w 39 val)
  unfold paramAction handleSysParamAction
  dsimp only
  split
  · rfl
  · split
    · rfl
    · exact hwrite

theorem vcRegWriteExt_view (off : Nat) (val : UInt16) :
    Views w.latch (vcRegWriteExt bd e w off val)
      (ModbusRegister.vcRegWriteExt (answers bd e w) off val) := by
  unfold vcRegWriteExt ModbusRegister.vcRegWriteExt
  split
  · exact regWrite_view bd e w w.latch _ val
  split
  · exact regWrite_view bd e w w.latch _ val
  · rfl

/-- The answers of the write path, mapped to Modbus results. -/
theorem mbAnswer_view {r : RegStatus × World σ} {p : RegStatus × WordLatch}
    (h : (r.1, r.2.latch) = p) :
    ((mbAnswer r).1, (mbAnswer r).2.latch) = (regStToMbResult p.1, p.2) := by
  subst h
  rfl

/-- A write request answers what the view of the registers answers, and leaves its latch. -/
theorem holdingWr_view (addr val : UInt16) :
    let r := holdingWr bd e w addr val
    (r.1, r.2.latch) =
      vcMbHoldingWr (answers bd e w) bd.vc.toBuild addr val w.latch := by
  unfold holdingWr vcMbHoldingWr
  generalize addr.toNat - 680 = ext
  dsimp only
  split
  · exact mbAnswer_view (vcRegWriteExt_view bd e w ext val)
  cases addrDecode addr with
  | none => rfl
  | some place =>
    cases place with
    | sys off =>
      dsimp only
      split
      · exact Prod.ext rfl (latch_paramAction bd e w val)
      · exact mbAnswer_view (vcRegWriteSysHolding_view bd e w off val)
    | channel ch off => exact mbAnswer_view (vcRegWriteChHolding_view bd e w ch off val)

end View

/-! ## A board for examples -/

def boardHvb : Board where
  k := .hvb
  vc := ⟨⟨1, true, by decide⟩, 1, -9, 0⟩
  mb := ⟨1, 115200, by decide, by decide⟩

/-- An adapter before it is created, on a board that has no record. -/
def unconfigured : MbState := ⟨⟨⟨0, 0⟩, ⟨0, 0⟩⟩, false, true, none, none⟩

def envWith (admitted : Bool) : Env where
  adm := ⟨true, admitted⟩
  outcomes := .fine
  reset := .ok
  sysStatus _ := (.ok, 0)
  sysStatus_readable _ := nofun

end MbServer
