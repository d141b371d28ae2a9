import HvbFirmware.Atomicity
import HvbFirmware.RunningBoard
import HvbFirmware.VcChannelFrame

/-!
# Writing and reading back a configuration register

A write goes by the register to a field and its setter, a read by the register to a variable: two
lists, written apart. They agree if a write is read back from its own register and from no other,
which is what `write_readBack` says of the whole way through the adapter and the catalog.
-/
namespace ReadBack

open VcTypes VcChannel VcController RegCatalog ModbusRegister VcCatalog MbServer Atomicity Runs

variable {σ : Type}

/-! ## Settings -/

/-- A configuration field or a calibration coefficient of a channel. -/
inductive Setting where
  | config (field : ConfigField)
  | cal (field : CalField)
  deriving DecidableEq

/-- The variable behind a field; the two system fields are not of a channel. -/
def configValue (cfg : ChannelConfig) : ConfigField → UInt16
  | .operatingMode | .startupChannelPolicy => 0
  | .configuredTargetVoltage => cfg.configuredTargetVoltage.toUInt16
  | .configuredOutputEnabled => if cfg.configuredOutputEnabled then 1 else 0
  | .rampUpStep => cfg.rampUpStep
  | .rampUpInterval => cfg.rampUpInterval
  | .rampDownStep => cfg.rampDownStep
  | .rampDownInterval => cfg.rampDownInterval
  | .recoveryPolicyMode => cfg.recoveryPolicyMode.toValue
  | .autoRetryDelay => cfg.autoRetryDelay
  | .autoRetryMaxCount => cfg.autoRetryMaxCount
  | .autoRetryWindow => cfg.autoRetryWindow
  | .currentSafeBandPct => cfg.currentSafeBandPct
  | .currentProtectionMode => cfg.currentProtectionMode.toValue
  | .currentProtOutAction => cfg.currentProtectionOutputAction.toValue
  | .currentLimitThreshold => cfg.currentLimitThreshold.toUInt16
  | .autoDerateStep => cfg.autoDerateStep

def calValue (cal : ChannelCalConfig) : CalField → UInt16
  | .outputK => cal.outputCalibK
  | .outputB => cal.outputCalibB.toUInt16
  | .measuredVK => cal.measuredVoltageCalibK
  | .measuredVB => cal.measuredVoltageCalibB.toUInt16
  | .measuredIK => cal.measuredCurrentCalibK
  | .measuredIB => cal.measuredCurrentCalibB.toUInt16
  | .outputKExp => cal.outputCalibKExp.toUInt16
  | .measuredVKExp => cal.measuredVoltageCalibKExp.toUInt16
  | .measuredIKExp => cal.measuredCurrentCalibKExp.toUInt16

def Setting.value (c : Channel) : Setting → UInt16
  | .config field => configValue c.config field
  | .cal field => calValue c.calConfig field

/-- What a setting holds after a write: the output flag is a boolean. -/
def Setting.written (s : Setting) (val : UInt16) : UInt16 :=
  if s = .config .configuredOutputEnabled then if val ≠ 0 then 1 else 0 else val

/-- The setting that a register is written to. -/
def settingOf (reg : VcReg) : Option Setting :=
  match vcCatalogField reg, vcCatalogCalField reg with
  | some field, _ => some (.config field)
  | none, some field => some (.cal field)
  | none, none => none

theorem access_setting {reg : VcReg} {s : Setting} (h : settingOf reg = some s) :
    reg.row.access ≠ .wo := by
  cases reg <;> cases h <;> exact nofun

/-- A register shows the setting that it is written to. -/
theorem registerValue_setting {reg : VcReg} {s : Setting} (h : settingOf reg = some s)
    (c : Channel) : registerValue c reg = s.value c := by
  cases reg <;> cases h
  case cfgOutputEnabled =>
    show narrow _ (if c.config.configuredOutputEnabled then 1 else 0) = if _ then 1 else 0
    cases c.config.configuredOutputEnabled <;> rfl
  all_goals exact toUInt16_u16 _

/-- A field write that is accepted stores the value there and touches no other field. -/
theorem writeField_value {k : Kconfig} {c : Channel} {field : ConfigField} {val : UInt16}
    {cfg : ChannelConfig} (h : writeField k c field val = .ok cfg) :
    configValue cfg field = (Setting.config field).written val ∧
      ∀ other ≠ field, configValue cfg other = configValue c.config other := by
  cases field <;> simp only [writeField] at h
  case operatingMode | startupChannelPolicy => cases h
  all_goals
    repeat' split at h
    all_goals cases h
    constructor
    · simp [configValue, Setting.written]
    · intro other hother
      cases other <;> first | rfl | exact absurd rfl hother

theorem writeCalField_value {cal cal' : ChannelCalConfig} {field : CalField} {val : UInt16}
    (h : writeCalField cal field val = .ok cal') :
    calValue cal' field = val ∧ ∀ other ≠ field, calValue cal' other = calValue cal other := by
  cases field <;> simp only [writeCalField] at h
  all_goals
    repeat' split at h
    all_goals cases h
    constructor
    · simp [calValue]
    · intro other hother
      cases other <;> first | rfl | exact absurd rfl hother

/-! ## Writes of the controller -/

/-- The channel has the setting written, and no other. -/
structure Rewrites (s : Setting) (val : UInt16) (c c' : Channel) : Prop where
  capabilities : c'.capabilities = c.capabilities
  written : s.value c' = s.written val
  others : ∀ other ≠ s, other.value c' = other.value c

theorem Rewrites.config {c c' : Channel} {k : Kconfig} {field : ConfigField} {val : UInt16}
    {cfg : ChannelConfig} (hcfg : writeField k c field val = .ok cfg)
    (hframe : frame c' = { frame c with config := cfg }) (hcal : c'.calConfig = c.calConfig) :
    Rewrites (.config field) val c c' := by
  obtain ⟨hwritten, hothers⟩ := writeField_value hcfg
  have hconfig : c'.config = cfg := congrArg Frame.config hframe
  refine ⟨congrArg Frame.capabilities hframe, ?_, ?_⟩
  · exact (congrArg (configValue · field) hconfig).trans hwritten
  · intro other hother
    cases other with
    | config other =>
      have hne : other ≠ field := fun heq => hother (congrArg Setting.config heq)
      exact (congrArg (configValue · other) hconfig).trans (hothers other hne)
    | cal other => exact congrArg (calValue · other) hcal

/-- What an accepted call on a channel does to the list of channels. -/
theorem onChannel_ok {ctrl : Controller σ} {i : Nat} {call : Channel → VcStatus × Channel}
    (h : (onChannel ctrl i call).1 = .ok) :
    ∃ c, ctrl.channels[i]? = some c ∧ (call c).1 = .ok ∧
      (onChannel ctrl i call).2.channels = ctrl.channels.set i (call c).2 := by
  unfold onChannel at h ⊢
  cases hc : ctrl.channels[i]? with
  | none =>
    rw [hc] at h
    cases h
  | some c =>
    rw [hc] at h
    exact ⟨c, rfl, h, rfl⟩

theorem setField_ok {k : Kconfig} {c : Channel} {field : ConfigField} {val : UInt16}
    (h : (VcChannel.setField k c field val).1 = .ok) :
    Rewrites (.config field) val c (VcChannel.setField k c field val).2 := by
  unfold VcChannel.setField at h ⊢
  cases hcfg : writeField k c field val with
  | error st =>
    rw [hcfg] at h
    obtain rfl : st = .ok := h
    exact absurd hcfg (writeField_refuses k c field val)
  | ok cfg => exact .config hcfg (frame_refresh _) (applyHw_calConfig _)

theorem setCalField_ok (k : Kconfig) {c : Channel} {field : CalField} {val : UInt16}
    (h : (setCalField c field val).1 = .ok) :
    Rewrites (.cal field) val c (setCalField c field val).2 := by
  have hframe := frame_request (setCalField_step k c field val) (by simp) (by simp)
  unfold setCalField at h hframe ⊢
  cases hcal : writeCalField c.calConfig field val with
  | error st =>
    rw [hcal] at h
    obtain rfl : st = .ok := h
    exact absurd hcal (writeCalField_refuses _ field val)
  | ok cal =>
    rw [hcal] at hframe
    obtain ⟨hwritten, hothers⟩ := writeCalField_value hcal
    have hstored := applyHw_calConfig { c with calConfig := cal }
    refine ⟨congrArg Frame.capabilities hframe, ?_, ?_⟩
    · exact (congrArg (calValue · field) hstored).trans hwritten
    · intro other hother
      cases other with
      | config other => exact congrArg (fun f => configValue f.config other) hframe
      | cal other =>
        have hne : other ≠ field := fun heq => hother (congrArg Setting.cal heq)
        exact (congrArg (calValue · other) hstored).trans (hothers other hne)

/-- The enable that follows a target write in AUTOMATIC leaves the settings. -/
theorem Rewrites.outputAction {s : Setting} {val : UInt16} {c c' : Channel}
    (h : Rewrites s val c c') (k : Kconfig) (action : OutputAction) :
    Rewrites s val c (outputAction c' action).2 := by
  have hstep := outputAction_step k c' action
  have hframe := frame_request hstep (by simp) (by simp)
  have hvalue : ∀ s : Setting, s.value (VcChannel.outputAction c' action).2 = s.value c' := by
    intro s
    cases s with
    | config field => exact congrArg (fun f => configValue f.config field) hframe
    | cal field =>
      have hgear := gear_request hstep nofun
      exact congrArg (fun g : Gear => calValue g.calConfig field) hgear
  refine ⟨(congrArg Frame.capabilities hframe).trans h.capabilities, (hvalue s).trans h.written,
    fun other hother => (hvalue other).trans (h.others other hother)⟩

theorem inSession_ok {k : Kconfig} {ctrl : Controller σ} {i : Nat}
    {call : Channel → VcStatus × Channel} (h : (inSession k ctrl i call).1 = .ok) :
    (onChannel ctrl i (sessionCall ctrl call)).1 = .ok ∧
      (inSession k ctrl i call).2.channels =
        (onChannel ctrl i (sessionCall ctrl call)).2.channels := by
  unfold inSession at h ⊢
  dsimp only at h ⊢
  split at h
  next hok =>
    rw [if_pos hok]
    exact ⟨hok, rfl⟩
  next hrefused => exact absurd h hrefused

/-- The command that a write of a setting hands to the worker. -/
def Setting.op (s : Setting) (i : Nat) (val : UInt16) : ControllerOp σ :=
  match s with
  | .config field => .channelSetField i field val
  | .cal field => .channelSetCalField i field val

theorem channelRequest_setting {reg : VcReg} {s : Setting} (h : settingOf reg = some s) (i : Nat)
    (val : UInt16) : channelRequest (σ := σ) i reg val = .submit (s.op i val) := by
  cases reg <;> cases h <;> rfl

/-- An accepted command writes its setting of its channel, a refused one leaves the
controller. -/
theorem op_call (k : Kconfig) (ctrl : Controller σ) (s : Setting) (i : Nat) (val : UInt16) :
    (((s.op i val).call k ctrl).1 ≠ .ok → ((s.op i val).call k ctrl).2 = ctrl) ∧
      (((s.op i val).call k ctrl).1 = .ok → ∃ c c', ctrl.channels[i]? = some c ∧
        ((s.op i val).call k ctrl).2.channels = ctrl.channels.set i c' ∧ Rewrites s val c c') := by
  cases s with
  | config field =>
    refine ⟨refused_onChannel (atomic_channelSetField k ctrl field val), fun h => ?_⟩
    obtain ⟨c, hc, hcall, hset⟩ := onChannel_ok h
    refine ⟨c, _, hc, hset, ?_⟩
    dsimp only at hcall ⊢
    split at hcall
    next henable =>
      rw [if_pos henable]
      exact (setField_ok henable.1).outputAction k .enable
    next hplain =>
      rw [if_neg hplain]
      exact setField_ok hcall
  | cal field =>
    refine ⟨refused_inSession (atomic_setCalField field val), fun h => ?_⟩
    obtain ⟨c, hc, hcall, hset⟩ := onChannel_ok (inSession_ok h).1
    rw [← (inSession_ok h).2] at hset
    refine ⟨c, _, hc, hset, ?_⟩
    unfold sessionCall at hcall ⊢
    split at hcall
    · cases hcall
    next hmode =>
      rw [if_neg hmode]
      exact setCalField_ok k hcall

/-! ## Registers -/

/-- Offsets 3 to 17 and 20 to 28 of a channel block. -/
def isConfigOff (off : Nat) : Bool := 3 ≤ off ∧ off ≤ 17 ∨ 20 ≤ off ∧ off ≤ 28

def settingAt (off : Nat) : Option Setting := (chHoldingReg off).bind settingOf

/-- Each offset has a setting of its own. -/
theorem settingAt_injective : ∀ off < chBlockSize, ∀ off' < chBlockSize, isConfigOff off →
    settingAt off = settingAt off' → off = off' := by
  decide +kernel

theorem settingAt_isSome : ∀ off < chBlockSize, isConfigOff off → (settingAt off).isSome := by
  decide +kernel

theorem exists_setting {off : Nat} (h : isConfigOff off) (hlt : off < chBlockSize) :
    ∃ reg s, chHoldingReg off = some reg ∧ settingOf reg = some s ∧ settingAt off = some s := by
  obtain ⟨s, hs⟩ := Option.isSome_iff_exists.mp (settingAt_isSome off hlt h)
  obtain ⟨reg, hreg, hsetting⟩ := Option.bind_eq_some_iff.mp hs
  exact ⟨reg, s, hreg, hsetting, hs⟩

/-- What the register of a setting shows, its capability gates passed. -/
theorem holdingShown_setting (b : Build) (chan : Option Channel) (ch : UInt8) {off : Nat}
    {reg : VcReg} {s : Setting} (hreg : chHoldingReg off = some reg)
    (hs : settingOf reg = some s) :
    holdingShown b chan ch off =
      if b.maxChannels ≤ ch ∨ !chHoldingSupported (capsOf chan) off then .error .unsupported
      else
        match chan with
        | none => .error .unsupported
        | some c => if !vcCatalogSupported reg c.capabilities then .error .unsupported
          else .ok (s.value c) := by
  unfold holdingShown registerShown
  rw [hreg]
  dsimp only
  rw [if_neg (access_setting hs)]
  cases chan with
  | none => rfl
  | some c => simp only [registerValue_setting hs]

theorem vcStatusToReg_ne {st : VcStatus} (h : st ≠ .ok) : vcStatusToReg st ≠ .ok := by
  cases st <;> first | exact absurd rfl h | exact nofun

/-- What a write of the register of a setting does: refused it leaves the controller, accepted it
writes the setting of a channel whose gates are passed. -/
theorem holdingWritten_setting (bd : Board) (e : Env) (ctrl : Controller σ) (ch : UInt8)
    {off : Nat} {reg : VcReg} {s : Setting} (hreg : chHoldingReg off = some reg)
    (hs : settingOf reg = some s) (val : UInt16) :
    let r := holdingWritten bd e ctrl ch off val
    (r.1 ≠ .ok ∧ r.2 = ctrl) ∨
      r.1 = .ok ∧ ∃ c c', ctrl.channels[ch.toNat]? = some c ∧
        r.2.channels = ctrl.channels.set ch.toNat c' ∧ Rewrites s val c c' ∧
        holdingShown bd.vc.toBuild (some c') ch off = .ok (s.value c') := by
  intro r
  have hshown := fun c' => holdingShown_setting bd.vc.toBuild (some c') ch hreg hs
  unfold r holdingWritten registerWritten
  split
  next hgate => exact .inl ⟨nofun, rfl⟩
  next hgate =>
    rw [hreg]
    dsimp only
    cases hc : ctrl.channels[ch.toNat]? with
    | none => exact .inl ⟨nofun, rfl⟩
    | some c =>
      dsimp only
      split
      · exact .inl ⟨nofun, rfl⟩
      next hcatalog =>
        rw [channelRequest_setting hs]
        unfold serve submitCommand
        cases e.adm.admitted with
        | false => exact .inl ⟨nofun, rfl⟩
        | true =>
          obtain ⟨hrefused, hok⟩ := op_call bd.k ctrl s ch.toNat val
          simp only [Bool.not_true, Bool.false_eq_true, if_false]
          by_cases hst : ((s.op ch.toNat val).call bd.k ctrl).1 = .ok
          · obtain ⟨c₀, c', hc₀, hset, hrewrites⟩ := hok hst
            obtain rfl : c = c₀ := Option.some.inj (hc.symm.trans hc₀)
            refine .inr ⟨by rw [hst]; rfl, c, c', rfl, hset, hrewrites, ?_⟩
            rw [hc] at hgate
            obtain ⟨hch, hgate⟩ := not_or.mp hgate
            obtain ⟨hsupported, -⟩ := not_or.mp hgate
            have hcaps : capsOf (some c') = capsOf (some c) := hrewrites.capabilities
            rw [← hrewrites.capabilities] at hcatalog
            rw [hshown, hcaps, if_neg (not_or.mpr ⟨hch, hsupported⟩)]
            exact if_neg hcatalog
          · exact .inl ⟨vcStatusToReg_ne hst, hrefused hst⟩

/-- What a register reads after a write: `CFG_OUTPUT_ENABLED` is 1 or 0. -/
def readsBack (off : Nat) (v : UInt16) : UInt16 := if off = 17 then if v ≠ 0 then 1 else 0 else v

theorem written_settingAt {off : Nat} {s : Setting} (h : isConfigOff off) (hlt : off < chBlockSize)
    (hs : settingAt off = some s) (v : UInt16) : s.written v = readsBack off v := by
  have hflag : off = 17 ↔ s = .config .configuredOutputEnabled := by
    constructor
    · rintro rfl
      exact (Option.some.inj hs).symm
    · rintro rfl
      exact settingAt_injective off hlt 17 (by decide) h hs
  unfold Setting.written readsBack
  by_cases hoff : off = 17
  · rw [if_pos hoff, if_pos (hflag.mp hoff)]
  · rw [if_neg hoff, if_neg (mt hflag.mpr hoff)]

/-- A channel that differs in one setting shows the same at every other offset. -/
theorem holdingShown_rewrites {b : Build} {ch : UInt8} {off : Nat} {s s' : Setting}
    {val : UInt16} {c c' : Channel} (h : Rewrites s' val c c') {reg : VcReg}
    (hreg : chHoldingReg off = some reg) (hs : settingOf reg = some s) (hne : s ≠ s') :
    holdingShown b (some c') ch off = holdingShown b (some c) ch off := by
  have hcaps : capsOf (some c') = capsOf (some c) := h.capabilities
  rw [holdingShown_setting _ _ _ hreg hs, holdingShown_setting _ _ _ hreg hs, hcaps]
  dsimp only
  rw [h.capabilities, h.others s hne]

theorem regStToMbResult_eq_ok {st : RegStatus} : regStToMbResult st = .ok ↔ st = .ok := by
  cases st <;> simp [regStToMbResult]

/-- A write that is accepted is read back from its register and changes what no other of these
registers reads; a write that is rejected changes what none of them reads. -/
theorem write_readBack (bd : Board) (w : World σ) (e : Env) (hrun : e.adm.running)
    (before after : Env) (hbefore : before.adm.running) (hafter : after.adm.running)
    (r : UInt16) (ch : UInt8) (off : Nat) (haddr : addrDecode r = some (.channel ch off))
    (hoff : isConfigOff off) (v : UInt16) :
    let written := holdingWr bd e w r v
    (written.1 = .ok → (holdingRd bd after written.2 r).1 = .ok (readsBack off v)) ∧
      ∀ r' ch' off', addrDecode r' = some (.channel ch' off') → isConfigOff off' →
        written.1 ≠ .ok ∨ r' ≠ r →
        (holdingRd bd after written.2 r').1 = (holdingRd bd before w r').1 := by
  intro written
  have hlt := (channel_of_addrDecode haddr).1
  obtain ⟨reg, s, hreg, hs, hat⟩ := exists_setting hoff hlt
  obtain ⟨latch, hwritten⟩ := holdingWr_channel bd w hrun haddr v
  have hresult := holdingWritten_setting bd e w.ctrl ch hreg hs v
  generalize holdingWritten bd e w.ctrl ch off v = p at hwritten hresult
  have hctrl : written.2.ctrl = p.2 := congrArg (fun r => r.2.ctrl) hwritten
  have hst : written.1 = regStToMbResult p.1 := congrArg Prod.fst hwritten
  rcases hresult with ⟨hrefused, hsame⟩ | ⟨hok, c, c', hc, hset, hrewrites, hshown⟩
  · refine ⟨fun hok => absurd (regStToMbResult_eq_ok.mp (hst.symm.trans hok)) hrefused, ?_⟩
    intro r' ch' off' haddr' hoff' _
    rw [holdingRd_channel hafter haddr', holdingRd_channel hbefore haddr', hctrl, hsame]
  · have hlen : ch.toNat < w.ctrl.channels.length := (List.getElem?_eq_some_iff.mp hc).1
    have hself : written.2.ctrl.channels[ch.toNat]? = some c' := by
      rw [hctrl, hset, List.getElem?_set_self hlen]
    constructor
    · intro _
      rw [holdingRd_channel hafter haddr, hself, hshown, hrewrites.written,
        written_settingAt hoff hlt hat]
    · intro r' ch' off' haddr' hoff' hother
      have hne : r' ≠ r := by
        refine hother.resolve_left (not_not_intro ?_)
        rw [hst, hok]
        rfl
      rw [holdingRd_channel hafter haddr', holdingRd_channel hbefore haddr']
      by_cases hch : ch' = ch
      · -- another register of the channel that is written
        subst hch
        obtain ⟨hlt', hplace'⟩ := channel_of_addrDecode haddr'
        obtain ⟨reg', s', hreg', hs', hat'⟩ := exists_setting hoff' hlt'
        have hdistinct : s' ≠ s := by
          rintro rfl
          obtain rfl := settingAt_injective off' hlt' off hlt hoff' (hat'.trans hat.symm)
          have hplace := (channel_of_addrDecode haddr).2
          exact hne (UInt16.toNat_inj.mp (hplace'.trans hplace.symm))
        rw [hself, hc, holdingShown_rewrites hrewrites hreg' hs' hdistinct]
      · have hindex : ch.toNat ≠ ch'.toNat := fun h => hch (UInt8.toNat_inj.mp h.symm)
        rw [hctrl, hset, List.getElem?_set_ne hindex]

/-- A target in AUTOMATIC, which also starts the ramp of its channel. -/
theorem write_readBack_example :
    let w : World Unit := ⟨exec (ControllerOp.step .hvb) (VcController.init .hvb [dacNode] ())
      [.setOperatingMode .automatic], unconfigured, .initial⟩
    let written := holdingWr boardHvb (envWith true) w 43 300
    (written.1 = .ok → (holdingRd boardHvb (envWith true) written.2 43).1 = .ok 300) ∧
      ∀ r' ch' off', addrDecode r' = some (.channel ch' off') → isConfigOff off' →
        written.1 ≠ .ok ∨ r' ≠ 43 →
        (holdingRd boardHvb (envWith true) written.2 r').1 =
          (holdingRd boardHvb (envWith true) w r').1 :=
  write_readBack boardHvb ⟨_, unconfigured, .initial⟩ (envWith true) rfl (envWith true)
    (envWith true) rfl rfl 43 0 3 (by decide) (by decide) 300

end ReadBack
