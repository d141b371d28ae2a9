import HvbFirmware.DeEnergised

/-!
# Calibration sessions

Outside a session no channel has its calibration gate open or a raw DAC code set, as long as
a session is left by a mode change; inside a session one channel at most is driven, and only
through its gate.
-/
namespace Calibration

open VcTypes VcChannel VcController Runs DeEnergised

variable {σ : Type}

/-! ## Which calls are made inside and outside a session -/

def opensGate : ChannelOp → Bool
  | .calSetOutputEnable true => true
  | _ => false

/-- The calls that can be made while a session runs. -/
def insideSession : ChannelOp → Bool
  | .outputAction _ | .advance _ | .sampleVoltage | .sampleCurrent | .tickRamp _ |
    .tickRecovery _ _ | .consumeVoltage _ | .consumeCurrent _ | .resetCalibration _ => false
  | _ => true

/-- Only the calibration command opens a gate, inside a session and with every other one shut. -/
theorem opensGate_calls {k : Kconfig} {ctrl : Controller σ} {op : ControllerOp σ} {i : Nat}
    {ch : Channel} {c : ChannelOp} (hc : c ∈ op.calls k ctrl i ch) (hopens : opensGate c) :
    op = .channelCalOutputEnable i true ∧ ctrl.operatingMode = .calibration ∧
      otherChannelDriven ctrl i = false := by
  cases madeBy_of_mem hc with
  | run dtMs c _ hrun =>
    simp only [runOps, List.mem_cons, List.not_mem_nil, or_false] at hrun
    rcases hrun with rfl | rfl | rfl | rfl | rfl <;> cases hopens
  | calOutputEnable enable hcal hother =>
    cases enable with
    | true => exact ⟨rfl, hcal, hother rfl⟩
    | false => cases hopens
  | _ => cases hopens

theorem calls_outside {k : Kconfig} {ctrl : Controller σ} {op : ControllerOp σ} {i : Nat}
    {ch : Channel} (hmode : ctrl.operatingMode ≠ .calibration) :
    ∀ c ∈ op.calls k ctrl i ch, opensGate c = false := by
  intro c hc
  cases hopens : opensGate c with
  | false => rfl
  | true => exact absurd (opensGate_calls hc hopens).2.1 hmode

theorem calls_inside {k : Kconfig} {ctrl : Controller σ} {op : ControllerOp σ} {i : Nat}
    {ch : Channel} (hmode : ctrl.operatingMode = .calibration) :
    ∀ c ∈ op.calls k ctrl i ch, insideSession c := by
  intro c hc
  cases madeBy_of_mem hc with
  | run dtMs c hcal => exact absurd hmode hcal
  | outputAction action hcal => exact absurd hmode hcal
  | autoEnable value hauto => simp [hmode] at hauto
  | _ => rfl

theorem calls_of_isFactoryReset {op : ControllerOp σ} (h : op.isFactoryReset) (k : Kconfig)
    (ctrl : Controller σ) (i : Nat) (ch : Channel) : op.calls k ctrl i ch = [] := by
  cases op <;> first | rfl | cases h

theorem transitionOps_closed {old new : OperatingMode} {ch : Channel} :
    ∀ c ∈ transitionOps old new ch, opensGate c = false := by
  intro c hc
  rcases mem_transitionOps hc with ⟨_, rfl⟩ | ⟨rfl, -⟩ | ⟨rfl, -⟩ <;> rfl

/-! ## Outside a session -/

/-- The calibration gate is shut and no raw code is set. -/
def RawOff (ch : Channel) : Prop := ch.calOutputEnabled = 0 ∧ ch.rawDacReadback = 0

instance (ch : Channel) : Decidable (RawOff ch) := inferInstanceAs (Decidable (_ ∧ _))

theorem rawOff_step {k : Kconfig} {ch : Channel} {op : ChannelOp} (h : RawOff ch)
    (hop : opensGate op = false) : RawOff (op.step k ch) := by
  have heff := step_effect k ch op
  have h : (drive ch).cal = 0 ∧ (drive ch).raw = 0 := h
  show (drive (op.step k ch)).cal = 0 ∧ (drive (op.step k ch)).raw = 0
  generalize drive (op.step k ch) = d' at heff
  cases heff with
  | hold => exact ⟨(Drive.finish_cal _).trans h.1, (Drive.finish_raw _).trans h.2⟩
  | arrive => exact ⟨(Drive.finish_cal _).trans h.1, (Drive.finish_raw _).trans h.2⟩
  | fault => exact ⟨rfl, rfl⟩
  | calReset => exact ⟨rfl, rfl⟩
  | calOn => exact absurd hop (by decide)
  | calOff => exact ⟨rfl, rfl⟩
  | rawDac value code hvalue =>
    -- a code other than zero needs the gate open
    have hzero : value = 0 := Decidable.not_not.mp fun hne => (hvalue hne).2 h.1
    refine ⟨h.1, ?_⟩
    show value.toUInt16 = 0
    rw [hzero]
    rfl
  | _ => exact h

theorem rawOff_exec {k : Kconfig} {ch : Channel} {ops : List ChannelOp} (h : RawOff ch)
    (hops : ∀ c ∈ ops, opensGate c = false) : RawOff (exec (ChannelOp.step k) ch ops) :=
  exec_invariant (fun _ _ => rawOff_step) h (along_of_forall (fun c hc _ => hops c hc) ch)

theorem rawOff_leave (k : Kconfig) (mode : OperatingMode) (ch : Channel) :
    RawOff (exec (ChannelOp.step k) ch (transitionOps .calibration mode ch)) := by
  have hreset : RawOff (resetCalibration ch false) := by
    have hdrive : drive (resetCalibration ch false) = drive (refresh _) := rfl
    rw [drive_refresh] at hdrive
    exact ⟨congrArg Drive.cal hdrive, congrArg Drive.raw hdrive⟩
  show RawOff (exec (ChannelOp.step k) (resetCalibration ch false)
    (transitionOps .calibration mode ch).tail)
  refine rawOff_exec hreset fun c hc => ?_
  have hmem : c ∈ transitionOps .calibration mode ch := List.mem_of_mem_tail hc
  exact transitionOps_closed c hmem

/-- A FACTORY_RESET inside a session finds every gate shut: it changes the live mode without
the transition that shuts them. -/
def ShutBeforeReset (ctrl : Controller σ) (op : ControllerOp σ) : Prop :=
  op.isFactoryReset → ctrl.operatingMode = .calibration → ∀ ch ∈ ctrl.channels, RawOff ch

instance (ctrl : Controller σ) (op : ControllerOp σ) : Decidable (ShutBeforeReset ctrl op) :=
  inferInstanceAs (Decidable (_ → _ → _))

def RawOffOutside (ctrl : Controller σ) : Prop :=
  ctrl.operatingMode ≠ .calibration → ∀ ch ∈ ctrl.channels, RawOff ch

theorem rawOffOutside_step {k : Kconfig} {ctrl : Controller σ} {op : ControllerOp σ}
    (h : RawOffOutside ctrl) (hop : ShutBeforeReset ctrl op) : RawOffOutside (op.step k ctrl) := by
  intro hmode' ch' hch'
  obtain ⟨i, hi⟩ := List.mem_iff_getElem?.mp hch'
  rw [getElem?_step k ctrl op i] at hi
  obtain ⟨ch, hch, rfl⟩ := Option.map_eq_some_iff.mp hi
  have hmem : ch ∈ ctrl.channels := List.mem_of_getElem? hch
  by_cases hmode : ctrl.operatingMode = .calibration
  · cases hmoves : op.movesTo ctrl with
    | some mode =>
      rw [channelOps_of_movesTo hmoves, hmode]
      exact rawOff_leave k mode ch
    | none =>
      -- only FACTORY_RESET leaves a session without a transition
      have hreset : op.isFactoryReset := by
        have hleaves := (leavesSession_iff k ctrl op).mpr ⟨hmode, hmode'⟩
        simpa [leavesSession, hmode, hmoves] using hleaves
      have hnone : op.channelOps k ctrl i ch = [] := by
        rw [channelOps_of_stays hmoves]
        exact calls_of_isFactoryReset hreset k ctrl i ch
      rw [hnone]
      exact hop hreset hmode ch hmem
  · refine rawOff_exec (h hmode ch hmem) fun c hc => ?_
    rcases List.mem_append.mp hc with hc | hc
    · cases hmoves : op.movesTo ctrl with
      | none =>
        rw [hmoves] at hc
        cases hc
      | some mode =>
        rw [hmoves] at hc
        exact transitionOps_closed c hc
    · exact calls_outside hmode c hc

/-- In every run in which each FACTORY_RESET inside a session finds all gates shut, no channel
outside a session has an open gate or a raw code. -/
theorem rawDrive_onlyInSession (k : Kconfig) (nodes : List Node) (store : σ)
    (ops : List (ControllerOp σ))
    (hops : Along (ControllerOp.step k) ShutBeforeReset
      (VcController.init k nodes store) ops) :
    let ctrl := exec (ControllerOp.step k) (VcController.init k nodes store) ops
    ctrl.operatingMode ≠ .calibration →
      ∀ ch ∈ ctrl.channels, ch.calOutputEnabled = 0 ∧ ch.rawDacReadback = 0 := by
  have hinit : RawOffOutside (VcController.init k nodes store) := fun _ =>
    forall_mem_init (fun _ => ⟨rfl, rfl⟩) nodes store
  have hstep : ∀ (ctrl : Controller σ) op, RawOffOutside ctrl → ShutBeforeReset ctrl op →
      RawOffOutside (ControllerOp.step k ctrl op) := fun _ _ => rawOffOutside_step
  exact exec_invariant hstep hinit hops

/-- A session that drives a raw code, and its exit by the watchdog. -/
theorem rawDrive_onlyInSession_example :
    let ctrl := exec (ControllerOp.step Kconfig.hvb)
      (VcController.init Kconfig.hvb [dacNode] ())
      [.calibrationUnlock calUnlockStep1, .calibrationUnlock calUnlockStep2,
        .setOperatingMode .calibration, .channelCalOutputEnable 0 true, .channelCalRawDac 0 1000,
        .tick 400000]
    ∀ ch ∈ ctrl.channels, ch.calOutputEnabled = 0 ∧ ch.rawDacReadback = 0 :=
  rawDrive_onlyInSession Kconfig.hvb [dacNode] () _ (by decide +kernel) (by decide +kernel)

/-- A FACTORY_RESET leaves the session with the raw code still driven. -/
theorem rawDrive_outsideSession :
    ¬ ∀ ops : List (ControllerOp Unit),
      let ctrl := exec (ControllerOp.step Kconfig.hvb)
        (VcController.init Kconfig.hvb [dacNode] ()) ops
      ctrl.operatingMode ≠ .calibration →
        ∀ ch ∈ ctrl.channels, ch.calOutputEnabled = 0 ∧ ch.rawDacReadback = 0 := by
  intro h
  have hrun := h [.calibrationUnlock calUnlockStep1, .calibrationUnlock calUnlockStep2,
    .setOperatingMode .calibration, .channelCalOutputEnable 0 true, .channelCalRawDac 0 1000,
    .systemParamAction .factoryReset]
  revert hrun
  decide +kernel

/-! ## Inside a session -/

/-- Nothing but the calibration gate can drive the channel, and the gate is a flag. -/
structure GateOnly (d : Drive) : Prop where
  outputOff : d.outputEnabled = false
  still : d.ramping = false
  noHv : d.smf ≠ .disabledHvOn
  gate : d.cal = 0 ∨ d.cal = 1
  raw : d.raw ≠ 0 → d.cal = 1

/-- Each hook that is there was last given its half of what the gate asks for. -/
def Commanded (d : Drive) : Prop :=
  (d.hasOutput → d.hw.code = if d.cal = 0 then 0 else d.raw) ∧
    (d.hasEnable → d.hw.enable = (d.cal != 0))

/-- A channel of a running session. -/
def InSession (d : Drive) : Prop := GateOnly d ∧ Commanded d

theorem GateOnly.settle {d : Drive} (h : GateOnly d) (code : UInt16) :
    InSession (d.settle code) := by
  have hcommand : d.command code = if d.cal = 0 then .off else ⟨d.raw, true⟩ := by
    by_cases hcal : d.cal = 0 <;> simp [Drive.command, hcal, h.outputOff, h.noHv]
  refine ⟨⟨h.outputOff, h.still, h.noHv, h.gate, h.raw⟩, fun hout => ?_, fun hen => ?_⟩
  · have hout : d.hasOutput = true := hout
    by_cases hcal : d.cal = 0 <;> simp [Drive.settle, hout, hcommand, hcal, HwCommand.off]
  · have hen : d.hasEnable = true := hen
    by_cases hcal : d.cal = 0 <;> simp [Drive.settle, hen, hcommand, hcal, HwCommand.off]

theorem tripsOn_inside {op : ChannelOp} (h : insideSession op) (ch : Channel) :
    tripsOn ch op = false := by
  cases op <;> first | rfl | cases h

theorem inSession_of_effect {k : Kconfig} {ch : Channel} {op : ChannelOp} {d' : Drive}
    (heff : Effect k ch op d') (h : InSession (drive ch)) (hop : insideSession op) :
    InSession d' := by
  obtain ⟨hgate, hcommanded⟩ := h
  have htrip := tripsOn_inside hop ch
  cases heff with
  | quiet => exact ⟨hgate, hcommanded⟩
  | clearActive =>
    exact ⟨⟨hgate.outputOff, hgate.still, by simp, hgate.gate, hgate.raw⟩, hcommanded⟩
  | configure op code target =>
    refine GateOnly.settle ?_ code
    exact ⟨hgate.outputOff, hgate.still, hgate.noHv, hgate.gate, hgate.raw⟩
  | fault cause code =>
    refine GateOnly.settle ?_ code
    exact ⟨rfl, rfl, by simp, .inl rfl, fun h => absurd rfl h⟩
  | calOn code =>
    refine GateOnly.settle ?_ code
    exact ⟨hgate.outputOff, hgate.still, hgate.noHv, .inr rfl, fun _ => rfl⟩
  | calOff code =>
    refine GateOnly.settle ?_ code
    exact ⟨hgate.outputOff, hgate.still, hgate.noHv, .inl rfl, fun h => absurd rfl h⟩
  | rawDac value code hvalue =>
    refine GateOnly.settle ?_ code
    refine ⟨hgate.outputOff, hgate.still, hgate.noHv, hgate.gate, fun hraw => ?_⟩
    have hne : value ≠ 0 := by
      rintro rfl
      exact hraw rfl
    -- only an open gate takes a code other than zero
    exact hgate.gate.resolve_left (hvalue hne).2
  | tripGraceful op code htrips => simp [htrip] at htrips
  | tripCleared op code smf htrips => simp [htrip] at htrips
  | tripOnly op code htrips => simp [htrip] at htrips
  | _ => cases hop

theorem inSession_enter (ch : Channel) : InSession (drive (resetCalibration ch true)) := by
  have hdrive : drive (resetCalibration ch true) = drive (refresh _) := rfl
  rw [hdrive, drive_refresh]
  refine GateOnly.settle ?_ _
  exact ⟨rfl, rfl, by simp [drive], .inl rfl, fun h => absurd rfl h⟩

/-- A channel of a session with its gate shut is off. -/
theorem InSession.off {d : Drive} (h : InSession d) (hwired : Wired d) (hcal : d.cal = 0) :
    d.hw = .off := by
  obtain ⟨-, hcode, henable⟩ := h
  have hcode : d.hw.code = 0 := by
    cases hb : d.hasOutput with
    | true => simpa [hcal] using hcode hb
    | false => exact hwired.1 hb
  have henable : d.hw.enable = false := by
    cases hb : d.hasEnable with
    | true => simpa [hcal] using henable hb
    | false => exact hwired.2 hb
  exact HwCommand.eq_off hcode henable

/-! ### One gate at most -/

theorem cal_step {k : Kconfig} {ch : Channel} {op : ChannelOp} (hop : opensGate op = false)
    (h : ch.calOutputEnabled = 0) : (op.step k ch).calOutputEnabled = 0 := by
  have heff := step_effect k ch op
  have h : (drive ch).cal = 0 := h
  show (drive (op.step k ch)).cal = 0
  generalize drive (op.step k ch) = d' at heff
  cases heff with
  | hold => exact (Drive.finish_cal _).trans h
  | arrive => exact (Drive.finish_cal _).trans h
  | fault => rfl
  | calReset => rfl
  | calOn => exact absurd hop (by decide)
  | calOff => rfl
  | _ => exact h

theorem cal_exec {k : Kconfig} {ch : Channel} {ops : List ChannelOp}
    (hops : ∀ c ∈ ops, opensGate c = false)
    (h : (exec (ChannelOp.step k) ch ops).calOutputEnabled ≠ 0) : ch.calOutputEnabled ≠ 0 :=
  fun hzero => h (exec_invariant (I := fun ch => ch.calOutputEnabled = 0)
    (fun _ _ h hop => cal_step hop h) hzero (along_of_forall (fun c hc _ => hops c hc) ch))

theorem cal_of_not_driven {ctrl : Controller σ} {i j : Nat} {ch : Channel}
    (h : otherChannelDriven ctrl i = false) (hij : j ≠ i) (hch : ctrl.channels[j]? = some ch) :
    ch.calOutputEnabled = 0 := by
  obtain ⟨hlt, -⟩ := List.getElem?_eq_some_iff.mp hch
  have hj := List.any_eq_false.mp h j (List.mem_range.mpr hlt)
  simp only [hch, Option.any_some, decide_eq_true_eq, not_and] at hj
  have hj := hj hij
  simp at hj
  exact hj.1

/-- The invariant of a session over all channels. -/
structure Session (ctrl : Controller σ) : Prop where
  wired : ∀ ch ∈ ctrl.channels, Wired (drive ch)
  inside : ctrl.operatingMode = .calibration → ∀ ch ∈ ctrl.channels, InSession (drive ch)
  single : ctrl.operatingMode = .calibration → ∀ (i j : Nat) (chᵢ chⱼ : Channel),
    ctrl.channels[i]? = some chᵢ → ctrl.channels[j]? = some chⱼ →
      chᵢ.calOutputEnabled ≠ 0 → chⱼ.calOutputEnabled ≠ 0 → i = j

theorem exec_enter {k : Kconfig} {ctrl : Controller σ} {op : ControllerOp σ}
    (h : op.movesTo ctrl = some .calibration) (i : Nat) (ch : Channel) :
    exec (ChannelOp.step k) ch (op.channelOps k ctrl i ch) = resetCalibration ch true := by
  have hold : ctrl.operatingMode ≠ .calibration := (movesTo_ne h).symm
  rw [channelOps_of_movesTo h]
  simp [transitionOps, hold]
  rfl

theorem cal_resetCalibration (ch : Channel) (entering : Bool) :
    (resetCalibration ch entering).calOutputEnabled = 0 := by
  have hdrive : drive (resetCalibration ch entering) = drive (refresh _) := rfl
  rw [drive_refresh] at hdrive
  exact congrArg Drive.cal hdrive

theorem session_single {k : Kconfig} {ctrl : Controller σ} {op : ControllerOp σ}
    (h : Session ctrl) (hmode : (op.step k ctrl).operatingMode = .calibration) (i j : Nat)
    (chᵢ chⱼ : Channel) (hᵢ : (op.step k ctrl).channels[i]? = some chᵢ)
    (hⱼ : (op.step k ctrl).channels[j]? = some chⱼ) (hcalᵢ : chᵢ.calOutputEnabled ≠ 0)
    (hcalⱼ : chⱼ.calOutputEnabled ≠ 0) : i = j := by
  rw [getElem?_step k ctrl op] at hᵢ hⱼ
  obtain ⟨chᵢ, h₀ᵢ, rfl⟩ := Option.map_eq_some_iff.mp hᵢ
  obtain ⟨chⱼ, h₀ⱼ, rfl⟩ := Option.map_eq_some_iff.mp hⱼ
  rcases inCalibration_step hmode with henter | ⟨hmode, hstays⟩
  · rw [exec_enter henter] at hcalᵢ
    exact absurd (cal_resetCalibration chᵢ true) hcalᵢ
  rw [channelOps_of_stays hstays] at hcalᵢ hcalⱼ
  -- a gate that is open now was open before, or is the one that the operation opens
  by_cases hopensᵢ : ∃ c ∈ op.calls k ctrl i chᵢ, opensGate c
  · obtain ⟨c, hc, hopens⟩ := hopensᵢ
    obtain ⟨hop, -, hothers⟩ := opensGate_calls hc hopens
    refine Decidable.byContradiction fun hij => ?_
    refine cal_exec (fun c hc => ?_) hcalⱼ (cal_of_not_driven hothers (Ne.symm hij) h₀ⱼ)
    cases hopens : opensGate c with
    | false => rfl
    | true =>
      have hop' := (opensGate_calls hc hopens).1
      rw [hop] at hop'
      cases hop'
      exact absurd rfl hij
  by_cases hopensⱼ : ∃ c ∈ op.calls k ctrl j chⱼ, opensGate c
  · obtain ⟨c, hc, hopens⟩ := hopensⱼ
    obtain ⟨hop, -, hothers⟩ := opensGate_calls hc hopens
    refine Decidable.byContradiction fun hij => ?_
    refine cal_exec (fun c hc => ?_) hcalᵢ (cal_of_not_driven hothers hij h₀ᵢ)
    exact Bool.eq_false_iff.mpr fun hopens => hopensᵢ ⟨c, hc, hopens⟩
  exact h.single hmode i j chᵢ chⱼ h₀ᵢ h₀ⱼ
    (cal_exec (fun c hc => Bool.eq_false_iff.mpr fun ho => hopensᵢ ⟨c, hc, ho⟩) hcalᵢ)
    (cal_exec (fun c hc => Bool.eq_false_iff.mpr fun ho => hopensⱼ ⟨c, hc, ho⟩) hcalⱼ)

theorem session_step {k : Kconfig} {ctrl : Controller σ} {op : ControllerOp σ}
    (h : Session ctrl) : Session (op.step k ctrl) := by
  refine ⟨fun ch' hch' => ?_, fun hmode ch' hch' => ?_, session_single h⟩
  all_goals
    obtain ⟨i, hi⟩ := List.mem_iff_getElem?.mp hch'
    rw [getElem?_step k ctrl op i] at hi
    obtain ⟨ch, hch, rfl⟩ := Option.map_eq_some_iff.mp hi
    have hmem : ch ∈ ctrl.channels := List.mem_of_getElem? hch
  · exact exec_invariant (I := fun ch => Wired (drive ch)) (Q := fun _ _ => True)
      (fun ch op h _ => Wired.of_effect (step_effect k ch op) h) (h.wired ch hmem)
      (along_of_forall (fun _ _ _ => trivial) ch)
  · rcases inCalibration_step hmode with henter | ⟨hmode, hstays⟩
    · rw [exec_enter henter]
      exact inSession_enter ch
    · rw [channelOps_of_stays hstays]
      exact exec_invariant (I := fun ch => InSession (drive ch))
        (fun ch op h hop => inSession_of_effect (step_effect k ch op) h hop)
        (h.inside hmode ch hmem) (along_of_forall (fun c hc _ => calls_inside hmode c hc) ch)

theorem session_init (k : Kconfig) (nodes : List Node) (store : σ) :
    Session (VcController.init k nodes store) := by
  have hmode : (VcController.init k nodes store).operatingMode ≠ .calibration := by
    simp [VcController.init]
  exact ⟨forall_mem_init (wired_init k) nodes store, fun h => absurd h hmode,
    fun h => absurd h hmode⟩

/-- In every state of every run in which a session runs, all channels but one are off, a channel
that is not off is driven through its open gate with its raw code, and none is enabled or
ramping. A channel whose driver has no `set_output` is not commanded a code. -/
theorem session_exclusive (k : Kconfig) (nodes : List Node) (store : σ)
    (ops : List (ControllerOp σ)) :
    let ctrl := exec (ControllerOp.step k) (VcController.init k nodes store) ops
    ctrl.operatingMode = .calibration →
      (∃ i, ∀ (j : Nat) (ch : Channel),
        ctrl.channels[j]? = some ch → j ≠ i → ch.hw = .off) ∧
      ∀ ch ∈ ctrl.channels,
        (ch.hw ≠ .off → ch.calOutputEnabled = 1 ∧
          (hasSetOutput ch → ch.hw.code = ch.rawDacReadback)) ∧
        ch.outputEnabled = false ∧ ch.ramping = false ∧
        (ch.rawDacReadback ≠ 0 → ch.calOutputEnabled = 1) := by
  have hsession : Session (exec (ControllerOp.step k) (VcController.init k nodes store) ops) :=
    exec_invariant (Q := fun _ _ => True) (fun _ _ h _ => session_step h)
      (session_init k nodes store) (along_of_forall (fun _ _ _ => trivial) _)
  intro ctrl hmode
  have hoff : ∀ ch ∈ ctrl.channels, ch.calOutputEnabled = 0 → ch.hw = .off := fun ch hch =>
    (hsession.inside hmode ch hch).off (hsession.wired ch hch)
  refine ⟨?_, fun ch hch => ?_⟩
  · by_cases hopen : ∃ (i : Nat) (ch : Channel),
        ctrl.channels[i]? = some ch ∧ ch.calOutputEnabled ≠ 0
    · obtain ⟨i, chᵢ, hᵢ, hcalᵢ⟩ := hopen
      refine ⟨i, fun j ch hch hij => hoff ch (List.mem_of_getElem? hch) ?_⟩
      exact Decidable.byContradiction fun hcal =>
        hij (hsession.single hmode j i ch chᵢ hch hᵢ hcal hcalᵢ)
    · refine ⟨0, fun j ch hch _ => hoff ch (List.mem_of_getElem? hch) ?_⟩
      exact Decidable.byContradiction fun hcal => hopen ⟨j, ch, hch, hcal⟩
  · obtain ⟨hgate, hcode, -⟩ := hsession.inside hmode ch hch
    refine ⟨fun hhw => ?_, hgate.outputOff, hgate.still, hgate.raw⟩
    have hne : ch.calOutputEnabled ≠ 0 := fun hcal => hhw (hoff ch hch hcal)
    exact ⟨hgate.gate.resolve_left hne, fun hout => (hcode hout).trans (if_neg hne)⟩

/-- Two channels in a session, of which the second one is driven. -/
theorem session_exclusive_example :
    let ctrl := exec (ControllerOp.step Kconfig.hvb)
      (VcController.init Kconfig.hvb [dacNode, dacNode] ())
      [.calibrationUnlock calUnlockStep1, .calibrationUnlock calUnlockStep2,
        .setOperatingMode .calibration, .channelCalOutputEnable 1 true,
        .channelCalRawDac 1 1000, .channelCalOutputEnable 0 true]
    ∃ i, ∀ (j : Nat) (ch : Channel), ctrl.channels[j]? = some ch → j ≠ i → ch.hw = .off :=
  (session_exclusive Kconfig.hvb [dacNode, dacNode] () _ (by decide +kernel)).1

end Calibration
