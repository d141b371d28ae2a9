import HvbFirmware.PowerCycle

/-!
# The two ways to write a configuration

A stored record goes through `vc_channel_set_config`, a register through `vc_channel_set_field`,
each with capability guards and range checks of its own. Each is split here into the guards, that
look at the channel, and the ranges, that look at the value, and the two splits are compared.
-/
namespace WritePaths

open VcTypes VcChannel PowerCycle Runs

/-! ## One field -/

/-- The record with one field replaced; the two system fields are not in it. -/
def withField (cfg : ChannelConfig) (field : ConfigField) (value : UInt16) :
    Option ChannelConfig :=
  match field with
  | .operatingMode | .startupChannelPolicy => none
  | .configuredTargetVoltage => some { cfg with configuredTargetVoltage := value.toInt16 }
  | .configuredOutputEnabled => some { cfg with configuredOutputEnabled := value ≠ 0 }
  | .rampUpStep => some { cfg with rampUpStep := value }
  | .rampUpInterval => some { cfg with rampUpInterval := value }
  | .rampDownStep => some { cfg with rampDownStep := value }
  | .rampDownInterval => some { cfg with rampDownInterval := value }
  | .recoveryPolicyMode => some { cfg with recoveryPolicyMode := .ofValue value }
  | .autoRetryDelay => some { cfg with autoRetryDelay := value }
  | .autoRetryMaxCount => some { cfg with autoRetryMaxCount := value }
  | .autoRetryWindow => some { cfg with autoRetryWindow := value }
  | .currentSafeBandPct => some { cfg with currentSafeBandPct := value }
  | .currentProtectionMode => some { cfg with currentProtectionMode := .ofValue value }
  | .currentProtOutAction => some { cfg with currentProtectionOutputAction := .ofValue value }
  | .currentLimitThreshold => some { cfg with currentLimitThreshold := value.toInt16 }
  | .autoDerateStep => some { cfg with autoDerateStep := value }

/-- The capability that a field write asks for. -/
def supports (capabilities : UInt16) (field : ConfigField) : Prop :=
  match field with
  | .configuredTargetVoltage | .rampUpStep | .rampUpInterval | .rampDownStep
  | .rampDownInterval => capabilities &&& capRawOutputDrive = capRawOutputDrive
  | .configuredOutputEnabled => capabilities &&& capRawOutputDrive ≠ capRawOutputDrive ∧
      capabilities &&& capOutputEnable = capOutputEnable
  | .currentProtectionMode | .currentProtOutAction | .currentLimitThreshold =>
    capabilities &&& capCurrentMeasurement = capCurrentMeasurement
  | .autoDerateStep => capabilities &&& capRawOutputDrive = capRawOutputDrive ∧
      capabilities &&& capVoltageMeasurement = capVoltageMeasurement
  | _ => True

/-- The budget of retries that the history can count; only field writes look at it. -/
def withinBudget (k : Kconfig) (field : ConfigField) (value : UInt16) : Prop :=
  field = .autoRetryMaxCount → value.toNat ≤ k.maxRetryHistory

instance (k : Kconfig) (field : ConfigField) (value : UInt16) :
    Decidable (withinBudget k field value) :=
  inferInstanceAs (Decidable (_ → _))

/-- The values that a field takes. -/
def fieldInRange (k : Kconfig) (field : ConfigField) (value : UInt16) : Prop :=
  match field with
  | .configuredTargetVoltage => 0 ≤ value.toInt16 ∧ value.toInt16 ≤ k.maxTargetVoltage
  | .currentProtectionMode => isValidProtectionMode (.ofValue value)
  | .currentProtOutAction => isValidProtectionOutputAction (.ofValue value)
  | .currentLimitThreshold => 0 ≤ value.toInt16
  | _ => True

/-! ## The guards and the ranges -/

theorem gated_of_supports {capabilities : UInt16} {cfg cfg' : ChannelConfig} {field : ConfigField}
    {value : UInt16} (hself : Gated capabilities cfg cfg) (hsupports : supports capabilities field)
    (hwith : withField cfg field value = some cfg') : Gated capabilities cfg cfg' := by
  obtain ⟨hdac, houtput, hcurrent, hderate⟩ := hself
  cases field <;> simp only [withField, reduceCtorEq, Option.some.injEq] at hwith
  all_goals
    subst hwith
    simp only [supports] at hsupports
    constructor <;> grind

/-- The rules for whole records let no field differ where the guard of its own write is shut. -/
theorem eq_of_gated {capabilities : UInt16} {cfg cfg' : ChannelConfig} {field : ConfigField}
    {value : UInt16} (hself : Gated capabilities cfg cfg) (hgated : Gated capabilities cfg cfg')
    (hsupports : ¬supports capabilities field) (hwith : withField cfg field value = some cfg') :
    cfg' = cfg := by
  obtain ⟨hdac, houtput, hcurrent, hderate⟩ := hself
  obtain ⟨hdac', houtput', hcurrent', hderate'⟩ := hgated
  cases cfg
  cases field <;> simp only [withField, reduceCtorEq, Option.some.injEq] at hwith
  all_goals
    subst hwith
    simp only [supports, not_true_eq_false] at hsupports
  all_goals grind

theorem inRange_withField {k : Kconfig} {cfg cfg' : ChannelConfig} {field : ConfigField}
    {value : UInt16} (hrange : InRange k cfg) (hwith : withField cfg field value = some cfg') :
    InRange k cfg' ↔ fieldInRange k field value := by
  obtain ⟨htarget, hthreshold, hmode, haction⟩ := hrange
  cases field <;> simp only [withField, reduceCtorEq, Option.some.injEq] at hwith
  all_goals
    subst hwith
    constructor
  case configuredTargetVoltage.mp => exact InRange.target
  case configuredTargetVoltage.mpr => exact fun h => ⟨h, hthreshold, hmode, haction⟩
  case currentProtectionMode.mp => exact InRange.mode
  case currentProtectionMode.mpr => exact fun h => ⟨htarget, hthreshold, h, haction⟩
  case currentProtOutAction.mp => exact InRange.action
  case currentProtOutAction.mpr => exact fun h => ⟨htarget, hthreshold, hmode, h⟩
  case currentLimitThreshold.mp => exact InRange.threshold
  case currentLimitThreshold.mpr => exact fun h => ⟨htarget, h, hmode, haction⟩
  all_goals first
    | exact fun _ => trivial
    | exact fun _ => ⟨htarget, hthreshold, hmode, haction⟩

/-- A field write is the record with the field replaced, behind its guard, its range and, for the
retry budget, one check more. -/
theorem writeField_iff (k : Kconfig) (ch : Channel) {field : ConfigField} {value : UInt16}
    {cfg cfg' : ChannelConfig} (hwith : withField ch.config field value = some cfg) :
    writeField k ch field value = .ok cfg' ↔ cfg' = cfg ∧ supports ch.capabilities field ∧
      fieldInRange k field value ∧ withinBudget k field value := by
  cases field <;> simp only [withField, reduceCtorEq, Option.some.injEq] at hwith
  all_goals
    subst hwith
    simp only [writeField, hasCap, supports, fieldInRange, withinBudget]
    constructor
  all_goals grind

theorem setField_ok_iff (k : Kconfig) (ch : Channel) {field : ConfigField} {value : UInt16}
    {cfg : ChannelConfig} (hwith : withField ch.config field value = some cfg) :
    (setField k ch field value).1 = .ok ↔ supports ch.capabilities field ∧
      fieldInRange k field value ∧ withinBudget k field value := by
  cases hwrite : writeField k ch field value with
  | error st =>
    have hst : st ≠ .ok := by
      rintro rfl
      exact writeField_refuses k ch field value hwrite
    have hnone : writeField k ch field value ≠ .ok cfg := by simp [hwrite]
    rw [ne_eq, writeField_iff k ch hwith] at hnone
    have hset : setField k ch field value = (st, ch) := by rw [setField, hwrite]
    rw [hset]
    exact ⟨fun h => absurd h hst, fun h => absurd ⟨rfl, h⟩ hnone⟩
  | ok cfg' =>
    have hset : (setField k ch field value).1 = .ok := by rw [setField, hwrite]
    exact ⟨fun _ => ((writeField_iff k ch hwith).mp hwrite).2, fun _ => hset⟩

theorem setField_of_ok {k : Kconfig} {ch : Channel} {field : ConfigField} {value : UInt16}
    {cfg : ChannelConfig} (hwith : withField ch.config field value = some cfg)
    (hok : (setField k ch field value).1 = .ok) :
    setField k ch field value = (.ok, refresh { ch with config := cfg }) := by
  have hwrite : writeField k ch field value = .ok cfg :=
    (writeField_iff k ch hwith).mpr ⟨rfl, (setField_ok_iff k ch hwith).mp hok⟩
  unfold setField
  rw [hwrite]

/-! ## The two paths -/

/-- A record with one field replaced is accepted exactly if the value is in range and either the
guard of the field is open or nothing is replaced. -/
theorem setConfig_withField {k : Kconfig} {node : Node} {ch : Channel} (hkept : Kept k node ch)
    {field : ConfigField} {value : UInt16} {cfg : ChannelConfig}
    (hwith : withField ch.config field value = some cfg) :
    (setConfig k ch cfg).1 = .ok ↔
      supports ch.capabilities field ∧ fieldInRange k field value ∨ cfg = ch.config := by
  obtain ⟨hcaps, hgated, hrange⟩ := hkept
  have hself : Gated ch.capabilities ch.config ch.config := by
    rw [hcaps]
    exact hgated.back hgated
  rw [setConfig_ok_iff, inRange_withField hrange hwith]
  constructor
  · rintro ⟨hnew, hvalue⟩
    by_cases hsupports : supports ch.capabilities field
    · exact .inl ⟨hsupports, hvalue⟩
    · exact .inr (eq_of_gated hself hnew hsupports hwith)
  · rintro (⟨hsupports, hvalue⟩ | hsame)
    · exact ⟨gated_of_supports hself hsupports hwith, hvalue⟩
    · rw [hsame]
      refine ⟨hself, (inRange_withField hrange hwith).mp ?_⟩
      rwa [hsame]

/-- On every channel that calls can lead to: within the retry budget, a record with one field
replaced is accepted exactly if the field write is, or if the record is the one already there; and
two accepted writes leave the same channel, its hardware command included. -/
theorem writePaths_agree (k : Kconfig) (node : Node) (ops : List ChannelOp) (field : ConfigField)
    (value : UInt16) (hbudget : withinBudget k field value) :
    let ch := exec (ChannelOp.step k) (VcChannel.init k node) ops
    ∀ cfg ∈ withField ch.config field value,
      ((setConfig k ch cfg).1 = .ok ↔ (setField k ch field value).1 = .ok ∨ cfg = ch.config) ∧
      ((setConfig k ch cfg).1 = .ok → (setField k ch field value).1 = .ok →
        (setConfig k ch cfg).2 = (setField k ch field value).2) := by
  intro ch cfg hwith
  have hkept : Kept k node ch := exec_invariant (Q := fun _ _ => True)
    (fun _ op h _ => h.step op) (kept_init k node) (along_of_forall (fun _ _ _ => trivial) _)
  rw [setConfig_withField hkept hwith, setField_ok_iff k ch hwith]
  refine ⟨by grind, fun hconfig hfield => ?_⟩
  have hok := (setConfig_withField hkept hwith).mpr hconfig
  rw [setConfig_of_ok hok, setField_of_ok hwith ((setField_ok_iff k ch hwith).mpr hfield)]

theorem writePaths_agree_example :
    let ch := exec (ChannelOp.step .hvb) (VcChannel.init .hvb VcController.dacNode) []
    ∀ cfg ∈ withField ch.config .autoRetryMaxCount 8,
      ((setConfig .hvb ch cfg).1 = .ok ↔
        (setField .hvb ch .autoRetryMaxCount 8).1 = .ok ∨ cfg = ch.config) ∧
      ((setConfig .hvb ch cfg).1 = .ok → (setField .hvb ch .autoRetryMaxCount 8).1 = .ok →
        (setConfig .hvb ch cfg).2 = (setField .hvb ch .autoRetryMaxCount 8).2) :=
  writePaths_agree .hvb VcController.dacNode [] .autoRetryMaxCount 8 (by decide)

/-- A channel without a DAC refuses a target of zero in its register, and takes the record with
the zero that it has. -/
theorem writePaths_differ :
    let ch := VcChannel.init .hvb { VcController.dacNode with capabilities := capOutputEnable }
    withField ch.config .configuredTargetVoltage 0 = some ch.config ∧
      (setConfig .hvb ch ch.config).1 = .ok ∧
      (setField .hvb ch .configuredTargetVoltage 0).1 = .errUnsupportedCapability := by
  decide

end WritePaths
