import HvbFirmware.DeEnergised

/-!
# The change to AUTOMATIC

The transition runs its passes over all channels. Whatever operation asks for it, afterwards the
channels that want output ramp up, those of a session that do not are off, and those of NORMAL
that do not are as they were.
-/
namespace AutomaticEntry

open VcTypes VcChannel VcController Runs DeEnergised

variable {σ : Type}

/-- A channel that the transition is to enable. -/
def isWanting (ch : Channel) : Bool := ch.activeFaultCause = 0 ∧ wantsOutput ch

def rampsUp (ch : Channel) : Prop :=
  ch.outputEnabled ∧ ch.ramping ∧ ch.rampToDisable = false ∧ ch.smf = .ramping

instance (ch : Channel) : Decidable (rampsUp ch) := inferInstanceAs (Decidable (_ ∧ _))

/-- What the transition from `old` makes of a channel. -/
def Entered (old : OperatingMode) (ch ch' : Channel) : Prop :=
  if isWanting ch' then rampsUp ch'
  else if old = .calibration then ch'.outputEnabled = false ∧ ch'.hw = .off
  else ch' = ch

/-! ## One channel -/

theorem isWanting_enable (ch : Channel) : isWanting (refresh (startRamp ch)) = isWanting ch := by
  have hdrive := drive_refresh (startRamp ch)
  have hactive : (refresh (startRamp ch)).activeFaultCause = ch.activeFaultCause :=
    congrArg Drive.active hdrive
  have hwants : wantsOutput (refresh (startRamp ch)) = wantsOutput ch :=
    wantsOutput_congr (congrArg Drive.capabilities hdrive) (applyHw_config _)
  unfold isWanting
  rw [hactive, hwants]

theorem rampsUp_enable (ch : Channel) : rampsUp (refresh (startRamp ch)) := by
  have hdrive := drive_refresh (startRamp ch)
  exact ⟨congrArg Drive.outputEnabled hdrive, congrArg Drive.ramping hdrive,
    congrArg Drive.rampToDisable hdrive, congrArg Drive.smf hdrive⟩

/-- The end of a session switches a channel off. -/
theorem off_resetCalibration {ch : Channel} (h : Wired (drive ch)) :
    (resetCalibration ch false).outputEnabled = false ∧ (resetCalibration ch false).hw = .off := by
  have hdrive : ∃ code, drive (resetCalibration ch false) =
      { drive ch with outputEnabled := false, ramping := false, operational := 0, raw := 0,
                      cal := 0, smf := .disabledSafe }.settle code := by
    unfold resetCalibration
    rw [drive_refresh]
    exact ⟨_, rfl⟩
  obtain ⟨code, hdrive⟩ := hdrive
  have hwired : Wired
      { drive ch with outputEnabled := false, ramping := false, operational := 0, raw := 0,
                      cal := 0, smf := .disabledSafe } := h
  have hoff := settle_off hwired rfl rfl (by simp) code
  exact ⟨congrArg Drive.outputEnabled hdrive, (congrArg Drive.hw hdrive).trans hoff⟩

theorem entered_enableWanting {old : OperatingMode} {ch ch₁ : Channel}
    (h : ¬isWanting ch₁ → if old = .calibration then ch₁.outputEnabled = false ∧ ch₁.hw = .off
      else ch₁ = ch) : Entered old ch (enableWanting .automatic ch₁) := by
  by_cases hwanting : isWanting ch₁
  · have hwants : ch₁.activeFaultCause = 0 ∧ wantsOutput ch₁ := by simpa [isWanting] using hwanting
    rw [enableWanting, if_pos ⟨rfl, hwants.2, hwants.1⟩, outputAction_enable hwants.1, Entered,
      if_pos ((isWanting_enable ch₁).trans hwanting)]
    exact rampsUp_enable ch₁
  · have hwants : ¬(OperatingMode.automatic = .automatic ∧ wantsOutput ch₁ ∧
        ch₁.activeFaultCause = 0) := fun h => hwanting (by simp [isWanting, h])
    rw [enableWanting, if_neg hwants, Entered, if_neg hwanting]
    exact h hwanting

/-- The passes over a channel. -/
theorem entered_transition {k : Kconfig} {old : OperatingMode} {ch : Channel}
    (hwired : Wired (drive ch)) :
    Entered old ch (exec (ChannelOp.step k) ch (transitionOps old .automatic ch)) := by
  rw [exec_transitionOps, enterCalibration, if_neg (by simp), retreatToNormal, if_neg (by simp)]
  refine entered_enableWanting fun _ => ?_
  unfold leaveCalibration
  by_cases hold : old = .calibration
  · rw [if_pos hold, if_pos hold]
    exact off_resetCalibration hwired
  · rw [if_neg hold, if_neg hold]

/-! ## Runs -/

theorem wired_run (k : Kconfig) (nodes : List Node) (store : σ) (ops : List (PublicOp σ)) :
    ∀ ch ∈ (exec (PublicOp.step k) (VcController.init k nodes store) ops).channels,
      Wired (drive ch) :=
  publicRun_invariant (Q := fun _ _ => True) (wired_init k)
    (fun ch op h _ => Wired.of_effect (step_effect k ch op) h)
    (along_of_forall (fun _ _ _ _ _ => along_of_forall (fun _ _ _ => trivial) _) _)

/-- In every reachable state, an operation that changes the live mode from NORMAL or CALIBRATION to
AUTOMATIC ramps up exactly the channels without a fault that want output. -/
theorem automatic_enablesWanting (k : Kconfig) (nodes : List Node) (store : σ)
    (ops : List (PublicOp σ)) (op : ControllerOp σ) :
    let ctrl := exec (PublicOp.step k) (VcController.init k nodes store) ops
    ctrl.operatingMode = .normal ∨ ctrl.operatingMode = .calibration →
      (op.step k ctrl).operatingMode = .automatic →
        ∀ (i : Nat) (ch ch' : Channel), ctrl.channels[i]? = some ch →
          (op.step k ctrl).channels[i]? = some ch' → Entered ctrl.operatingMode ch ch' := by
  intro ctrl hmode hmode' i ch ch' hch hch'
  have hmoves : op.movesTo ctrl = some .automatic := by
    rw [operatingMode_step] at hmode'
    cases hreset : op.isFactoryReset with
    | true => simp [hreset] at hmode'
    | false =>
      cases hmoves : op.movesTo ctrl with
      | none => rcases hmode with hmode | hmode <;> simp [hreset, hmoves, hmode] at hmode'
      | some mode => simpa [hreset, hmoves] using hmode'
  have hwired := wired_run k nodes store ops ch (List.mem_of_getElem? hch)
  rw [getElem?_step k ctrl op i, hch, Option.map_some, channelOps_of_movesTo hmoves] at hch'
  obtain rfl := Option.some.inj hch'
  exact entered_transition hwired

/-- Two channels in a session, of which the first one has a target, and the mode write to
AUTOMATIC. -/
theorem automatic_enablesWanting_example :
    let ctrl := exec (PublicOp.step Kconfig.hvb)
      (VcController.init Kconfig.hvb [dacNode, dacNode] ())
      ([.channelSetField 0 .configuredTargetVoltage 300, .calibrationUnlock calUnlockStep1,
        .calibrationUnlock calUnlockStep2, .setOperatingMode .calibration,
        .channelCalOutputEnable 1 true].map .controller)
    ∀ (i : Nat) (ch ch' : Channel), ctrl.channels[i]? = some ch →
      ((ControllerOp.setOperatingMode .automatic).step Kconfig.hvb ctrl).channels[i]? = some ch' →
        Entered .calibration ch ch' :=
  automatic_enablesWanting Kconfig.hvb [dacNode, dacNode] () _ (.setOperatingMode .automatic)
    (.inr (by decide +kernel)) (by decide +kernel)

end AutomaticEntry
