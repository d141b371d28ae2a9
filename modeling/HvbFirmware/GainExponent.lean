import HvbFirmware.CalArithmetic
import HvbFirmware.VcRuntime

/-!
# The exponents of the calibration gains

`apply_gain` looks its power of ten up in a table of ten entries by the exponent, without a check
of its own. A coefficient is checked when it is written by a field, and not when a stored record
replaces all of them, at LOAD, at FACTORY_RESET and at every boot.
-/
namespace GainExponent

open VcTypes VcChannel VcController VcRuntime CalArithmetic Runs

variable {σ : Type}

/-! ## The table -/

/-- The entry of `vc_pow10_table` that `apply_gain` reads, if it reads one. -/
def tableIndex (exp : Int16) : Option Nat :=
  if 0 < exp then some exp.toInt.toNat
  else if exp < 0 then some (-exp.toInt).toNat
  else none

def gains (cal : ChannelCalConfig) : List Gain := [outputGain cal, voltageGain cal, currentGain cal]

/-- Every exponent passes the check of the field writes. -/
def InRange (cal : ChannelCalConfig) : Prop := ∀ g ∈ gains cal, calKExpInRange g.exp

/-- Every lookup stays inside the table. -/
def Indexed (cal : ChannelCalConfig) : Prop :=
  ∀ g ∈ gains cal, ∀ n ∈ tableIndex g.exp, n < pow10Table.length

instance (cal : ChannelCalConfig) : Decidable (InRange cal) :=
  inferInstanceAs (Decidable (∀ g ∈ gains cal, _))

instance (cal : ChannelCalConfig) : Decidable (Indexed cal) :=
  inferInstanceAs (Decidable (∀ g ∈ gains cal, ∀ n ∈ tableIndex g.exp, _))

theorem inRange_iff (cal : ChannelCalConfig) : InRange cal ↔
    calKExpInRange cal.outputCalibKExp ∧ calKExpInRange cal.measuredVoltageCalibKExp ∧
      calKExpInRange cal.measuredCurrentCalibKExp := by
  simp [InRange, gains, outputGain, voltageGain, currentGain]

theorem InRange.indexed {cal : ChannelCalConfig} (h : InRange cal) : Indexed cal := by
  intro g hg n hn
  obtain ⟨hlo, hhi⟩ := Gain.toInt_range (h g hg)
  show n < 10
  unfold tableIndex at hn
  split at hn
  · obtain rfl := Option.some.inj hn
    omega
  split at hn
  · obtain rfl := Option.some.inj hn
    omega
  · cases hn

/-! ## Calls on a channel -/

/-- The record that a call replaces the whole calibration with. -/
def loaded : ChannelOp → Option ChannelCalConfig
  | .loadCal cal => some cal
  | _ => none

/-- The calibration is changed by a field write and by a load, and by nothing else. -/
theorem calConfig_step (k : Kconfig) (ch : Channel) {op : ChannelOp} (hload : loaded op = none)
    (hfield : ∀ field value, op ≠ .setCalField field value) :
    (op.step k ch).calConfig = ch.calConfig := by
  have hother : op.refits = false → (op.step k ch).calConfig = ch.calConfig := fun h =>
    congrArg Gear.calConfig (gear_step k ch h)
  cases op with
  | setCalField field value => exact absurd rfl (hfield field value)
  | loadCal cal => cases hload
  | publishVoltage | publishCurrent => rfl
  | _ => exact hother rfl

/-- A field write checks the one exponent that it changes. -/
theorem writeCalField_inRange {cal cal' : ChannelCalConfig} {field : CalField} {value : UInt16}
    (h : InRange cal) (hwrite : writeCalField cal field value = .ok cal') : InRange cal' := by
  rw [inRange_iff] at h ⊢
  obtain ⟨hout, hvoltage, hcurrent⟩ := h
  unfold writeCalField at hwrite
  cases field <;> dsimp only at hwrite
  case outputKExp | measuredVKExp | measuredIKExp =>
    split at hwrite
    · cases hwrite
    · cases hwrite
      simp_all
  all_goals
    cases hwrite
    exact ⟨hout, hvoltage, hcurrent⟩

theorem inRange_step (k : Kconfig) {ch : Channel} {op : ChannelOp} (h : InRange ch.calConfig)
    (hload : ∀ cal ∈ loaded op, InRange cal) : InRange (op.step k ch).calConfig := by
  by_cases hcal : ∃ cal, op = .loadCal cal
  · obtain ⟨cal, rfl⟩ := hcal
    rw [ChannelOp.step, loadCal, applyHw_calConfig]
    exact hload cal rfl
  have hnone : loaded op = none := by
    unfold loaded
    split
    · exact absurd ⟨_, rfl⟩ hcal
    · rfl
  by_cases hfield : ∃ field value, op = .setCalField field value
  · obtain ⟨field, value, rfl⟩ := hfield
    show InRange (setCalField ch field value).2.calConfig
    unfold setCalField
    split
    · exact h
    next cal hwrite =>
      rw [applyHw_calConfig]
      exact writeCalField_inRange h hwrite
  · have hfield : ∀ field value, op ≠ .setCalField field value :=
      fun field value hop => hfield ⟨field, value, hop⟩
    rw [calConfig_step k ch hnone hfield]
    exact h

/-! ## Operations -/

/-- A load, if there is one, is the last of the calls. -/
def LoadsLast (ops : List ChannelOp) : Prop :=
  (∀ c ∈ ops, loaded c = none) ∨
    ∃ pre cal, ops = pre ++ [.loadCal cal] ∧ ∀ c ∈ pre, loaded c = none

theorem LoadsLast.append {pre ops : List ChannelOp} (h : LoadsLast ops)
    (hpre : ∀ c ∈ pre, loaded c = none) : LoadsLast (pre ++ ops) := by
  rcases h with h | ⟨before, cal, rfl, hbefore⟩
  · exact .inl fun c hc => (List.mem_append.mp hc).elim (hpre c) (h c)
  · refine .inr ⟨pre ++ before, cal, (List.append_assoc _ _ _).symm, fun c hc => ?_⟩
    exact (List.mem_append.mp hc).elim (hpre c) (hbefore c)

theorem loadsLast_storedCalOps (ctrl : Controller σ) (i : Nat) (ch : Channel) :
    LoadsLast (storedCalOps ctrl i ch) := by
  unfold storedCalOps
  split
  · exact .inl (by simp)
  dsimp only
  split
  · exact .inr ⟨[], _, rfl, by simp⟩
  · exact .inl (by simp)

theorem loadsLast_paramOps (k : Kconfig) (ctrl : Controller σ) (i : Nat) (ch : Channel)
    (action : ParamAction) : LoadsLast (paramOps k ctrl i ch action) := by
  have hempty : LoadsLast [] := .inl (by simp)
  unfold paramOps
  split
  · split
    · exact hempty
    dsimp only
    split
    · exact hempty
    split
    · exact hempty
    refine (loadsLast_storedCalOps _ i ch).append fun c hc => ?_
    split at hc
    · obtain rfl := List.mem_singleton.mp hc
      rfl
    · cases hc
  · split
    · exact hempty
    · have hconfig : ∀ c ∈ [ChannelOp.setConfig (defaultConfig k)], loaded c = none := by
        intro c hc
        obtain rfl := List.mem_singleton.mp hc
        rfl
      exact (loadsLast_storedCalOps ctrl i ch).append hconfig
  · exact hempty

/-- Only LOAD and FACTORY_RESET of a channel load a record. -/
theorem loaded_madeBy {ctrl : Controller σ} {i : Nat} {op : ControllerOp σ} {c : ChannelOp}
    (h : MadeBy ctrl i op c) (hparam : ∀ action, op ≠ .channelParamAction i action) :
    loaded c = none := by
  cases h with
  | run dtMs c hmode hc =>
    simp only [runOps, List.mem_cons, List.not_mem_nil, or_false] at hc
    rcases hc with rfl | rfl | rfl | rfl | rfl <;> rfl
  | paramCal action cal => exact absurd rfl (hparam action)
  | _ => rfl

theorem loadsLast_calls (k : Kconfig) (ctrl : Controller σ) (op : ControllerOp σ) (i : Nat)
    (ch : Channel) : LoadsLast (op.calls k ctrl i ch) := by
  by_cases hparam : ∃ action, op = .channelParamAction i action
  · obtain ⟨action, rfl⟩ := hparam
    have hcalls : (ControllerOp.channelParamAction i action).calls k ctrl i ch =
        paramOps k ctrl i ch action := if_neg (not_not.mpr rfl)
    rw [hcalls]
    exact loadsLast_paramOps k ctrl i ch action
  · exact .inl fun c hc => loaded_madeBy (madeBy_of_mem hc) fun action h => hparam ⟨action, h⟩

theorem loadsLast_channelOps (k : Kconfig) (ctrl : Controller σ) (op : PublicOp σ) (i : Nat)
    (ch : Channel) : LoadsLast (op.channelOps k ctrl i ch) := by
  cases op with
  | controller op =>
    refine (loadsLast_calls k ctrl op i ch).append fun c hc => ?_
    unfold movedOps at hc
    split at hc
    · unfold transitionOps at hc
      grind [loaded]
    · cases hc
  | channel j op =>
    simp only [PublicOp.channelOps]
    split
    · exact .inl (by simp)
    cases hload : loaded op with
    | none => exact .inl fun c hc => by rwa [List.mem_singleton.mp hc]
    | some cal =>
      obtain rfl : op = .loadCal cal := by
        unfold loaded at hload
        split at hload
        · rw [Option.some.inj hload]
        · cases hload
      exact .inr ⟨[], cal, rfl, by simp⟩

/-- Every record that an operation loads is in range. -/
def LoadsInRange (k : Kconfig) (ctrl : Controller σ) (op : PublicOp σ) : Prop :=
  EachCall k (fun _ c => ∀ cal ∈ loaded c, InRange cal) ctrl (op.channelOps k ctrl)

instance (k : Kconfig) (ctrl : Controller σ) (op : PublicOp σ) :
    Decidable (LoadsInRange k ctrl op) :=
  inferInstanceAs (Decidable (EachCall k _ ctrl _))

/-- The calls of an operation leave a channel in range exactly if what they load is in range: the
record that is loaded last stays. -/
theorem inRange_exec (k : Kconfig) {ch : Channel} {ops : List ChannelOp}
    (h : InRange ch.calConfig) (hlast : LoadsLast ops) :
    InRange (exec (ChannelOp.step k) ch ops).calConfig ↔
      Along (ChannelOp.step k) (fun _ c => ∀ cal ∈ loaded c, InRange cal) ch ops := by
  refine ⟨fun hafter => ?_, fun hloads => ?_⟩
  · rcases hlast with hnone | ⟨pre, cal, rfl, hpre⟩
    · exact along_of_forall (fun c hc _ cal hcal => by simp [hnone c hc] at hcal) ch
    rw [exec_append] at hafter
    refine along_append.mpr ⟨?_, fun cal' hcal' => ?_, trivial⟩
    · exact along_of_forall (fun c hc _ cal hcal => by simp [hpre c hc] at hcal) ch
    · obtain rfl := Option.some.inj hcal'
      have hcal : (loadCal (exec (ChannelOp.step k) ch pre) cal).calConfig = cal :=
        applyHw_calConfig _
      rw [← hcal]
      exact hafter
  · exact exec_invariant (I := fun ch => InRange ch.calConfig) (fun _ _ h hQ => inRange_step k h hQ)
      h hloads

theorem inRange_publicStep (k : Kconfig) {ctrl : Controller σ} (op : PublicOp σ)
    (h : ∀ ch ∈ ctrl.channels, InRange ch.calConfig) :
    (∀ ch ∈ (op.step k ctrl).channels, InRange ch.calConfig) ↔ LoadsInRange k ctrl op := by
  refine ⟨fun hafter p hp => ?_, fun hloads => ?_⟩
  · have hch := List.mem_zipIdx_iff_getElem?.mp hp
    have hbefore : InRange p.1.calConfig := h _ (List.mem_of_getElem? hch)
    rw [← inRange_exec k hbefore (loadsLast_channelOps k ctrl op p.2 p.1)]
    refine hafter _ (List.mem_of_getElem? (i := p.2) ?_)
    rw [getElem?_publicStep, hch]
    rfl
  · exact channels_invariant (I := fun ch => InRange ch.calConfig)
      (fun _ _ h hQ => inRange_step k h hQ) (getElem?_publicStep k ctrl op) h hloads

/-! ## Every run -/

/-- The exponents of every channel are in range, and so is every lookup in the table. -/
def ExponentsInRange (ctrl : Controller σ) : Prop :=
  ∀ ch ∈ ctrl.channels, InRange ch.calConfig ∧ Indexed ch.calConfig

instance (ctrl : Controller σ) : Decidable (ExponentsInRange ctrl) :=
  inferInstanceAs (Decidable (∀ ch ∈ ctrl.channels, _))

theorem exponentsInRange_iff (ctrl : Controller σ) :
    ExponentsInRange ctrl ↔ ∀ ch ∈ ctrl.channels, InRange ch.calConfig :=
  forall₂_congr fun _ _ => ⟨And.left, fun h => ⟨h, h.indexed⟩⟩

/-- From a board whose drivers give defaults in range, the exponents are in range in every state
of a run exactly if every record that the run loads is. -/
theorem exponents_inRange (k : Kconfig) (drivers : List (Node × DtDefaults)) (store : σ)
    (hdt : ∀ driver ∈ drivers, InRange (VcChannel.initFrom k driver.1 driver.2).calConfig)
    (ops : List (PublicOp σ)) :
    ExponentsInRange (VcController.initFrom k drivers store) ∧
      Along (PublicOp.step k) (fun ctrl op => ExponentsInRange (op.step k ctrl))
        (VcController.initFrom k drivers store) ops ↔
    Along (PublicOp.step k) (LoadsInRange k) (VcController.initFrom k drivers store) ops := by
  have hstart : ExponentsInRange (VcController.initFrom k drivers store) := by
    rw [exponentsInRange_iff]
    intro ch hch
    obtain ⟨driver, hdriver, rfl⟩ := List.mem_map.mp hch
    exact hdt driver hdriver
  rw [and_iff_right hstart]
  refine along_invariant_iff (I := ExponentsInRange) (fun ctrl op h => ?_) hstart
  rw [exponentsInRange_iff] at h ⊢
  exact inRange_publicStep k op h

/-- The defaults of the build are in range, and the one hook of the repository leaves the
exponents: its boards need no assumption. -/
theorem init_inRange (k : Kconfig) (node : Node) : InRange (VcChannel.init k node).calConfig := by
  have hdefault : InRange (defaultCalConfig k) := by
    rw [inRange_iff]
    exact ⟨decide_eq_true k.outputCalKExp_range, decide_eq_true k.measuredVCalKExp_range,
      decide_eq_true k.measuredICalKExp_range⟩
  rw [VcChannel.init_eq_initFrom, VcChannel.initFrom, Node.getDtDefaults]
  dsimp only
  split
  · cases node.dtDefaults with
    | none => exact hdefault
    | some dt =>
      rw [inRange_iff] at hdefault ⊢
      exact hdefault
  · exact hdefault

/-! A store with one record whose output gain is scaled up by `exp` decades. -/

def storedCal (exp : Int16) : Settings :=
  Settings.empty.saveCal 0 { defaultCalConfig .hvb with outputCalibKExp := exp }

def loadRun : List (PublicOp Settings) :=
  [.controller (.setStorageBackend (some vcSettingsStorage)),
    .controller (.channelParamAction 0 .load)]

theorem exponents_inRange_example :
    ExponentsInRange (VcController.initFrom .hvb [(dacNode, Prod.mk)] (storedCal 4)) ∧
      Along (PublicOp.step .hvb) (fun ctrl op => ExponentsInRange (op.step .hvb ctrl))
        (VcController.initFrom .hvb [(dacNode, Prod.mk)] (storedCal 4)) loadRun :=
  (exponents_inRange .hvb [(dacNode, Prod.mk)] (storedCal 4) (by decide) loadRun).mpr (by decide)

/-- A record with the exponent 10 is loaded, and the next lookup reads past the table. -/
theorem exponents_outOfRange :
    let booted := exec (PublicOp.step .hvb)
      (VcController.initFrom .hvb [(dacNode, Prod.mk)] (storedCal 10)) loadRun
    ¬ExponentsInRange booted ∧
      booted.channels.map (fun ch => tableIndex ch.calConfig.outputCalibKExp) = [some 10] ∧
      pow10Table.length = 10 := by
  decide +kernel

end GainExponent
