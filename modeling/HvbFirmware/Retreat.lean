import HvbFirmware.VcControllerRuns

/-!
# The retreat to NORMAL

Whatever brings the live mode from AUTOMATIC to NORMAL should leave no channel running. The
transition switches every channel off or ramps it down; FACTORY_RESET writes the mode without it.
-/
namespace Retreat

open VcTypes VcChannel VcController Runs

variable {σ : Type}

/-- The output is off, or on its way to zero. -/
def windsDown (ch : Channel) : Bool :=
  !ch.outputEnabled || ch.ramping && ch.rampToDisable && ch.gracefulRampDest == 0

/-- Every channel with an output enable winds down. -/
def AllWindDown (ctrl : Controller σ) : Prop :=
  ∀ ch ∈ ctrl.channels, hasCap ch capOutputEnable → windsDown ch

theorem windsDown_drive {ch : Channel} {d : Drive} (h : drive ch = d) :
    windsDown ch = (!d.outputEnabled || d.ramping && d.rampToDisable && d.gracefulRampDest == 0) ∧
      hasCap ch capOutputEnable = d.hasCap capOutputEnable := by
  subst h
  exact ⟨rfl, rfl⟩

/-- DISABLE_GRACEFUL winds a channel down: with a DAC by a ramp to zero, without one at once. -/
theorem windsDown_graceful (ch : Channel)
    (hcap : hasCap (outputAction ch .disableGraceful).2 capOutputEnable) :
    windsDown (outputAction ch .disableGraceful).2 := by
  have hvalid : isValidHostOutputAction .disableGraceful = true := rfl
  by_cases hold : hasCap ch capOutputEnable
  · by_cases hdac : hasCap ch capRawOutputDrive
    · have haction : hostAction ch .disableGraceful = .disableGraceful := by
        simp [hostAction, hdac]
      have hdrive : drive (outputAction ch .disableGraceful).2 =
          drive (refresh { startGracefulRamp ch with cooldownRemainingMs := 0 }) := by
        simp [outputAction, hvalid, hold, haction]
      rw [drive_refresh] at hdrive
      rw [(windsDown_drive hdrive).1]
      rfl
    · have haction : hostAction ch .disableGraceful = .disableForce := by
        simp [hostAction, hdac]
      have hdrive : drive (outputAction ch .disableGraceful).2 =
          drive (refresh (clearDrive ch .disabledSafe)) := by
        simp [outputAction, hvalid, hold, haction]
      rw [drive_refresh] at hdrive
      rw [(windsDown_drive hdrive).1]
      rfl
  · -- a refused action leaves the channel, so it has no output enable afterwards either
    have haction : hostAction ch .disableGraceful = .disableGraceful ∨
        hostAction ch .disableGraceful = .disableForce :=
      (hostAction_cases ch .disableGraceful).imp And.left And.left
    have hsame : (outputAction ch .disableGraceful).2 = ch := by
      rcases haction with haction | haction <;> simp [outputAction, hvalid, hold, haction]
    rw [hsame] at hcap
    exact absurd hcap hold

theorem windDown_transition {k : Kconfig} {ctrl : Controller σ} {op : ControllerOp σ}
    (hmode : ctrl.operatingMode = .automatic) (hmoves : op.movesTo ctrl = some .normal) :
    AllWindDown (op.step k ctrl) := by
  intro ch' hch' hcap
  obtain ⟨i, hi⟩ := List.mem_iff_getElem?.mp hch'
  rw [getElem?_step k ctrl op i] at hi
  obtain ⟨ch, -, rfl⟩ := Option.map_eq_some_iff.mp hi
  rw [channelOps_of_movesTo hmoves, hmode] at hcap ⊢
  exact windsDown_graceful ch hcap

/-- From AUTOMATIC every operation that ends in NORMAL winds all channels down, exactly if a
FACTORY_RESET finds them wound down. -/
theorem retreat_windsDown (k : Kconfig) (nodes : List Node) (store : σ)
    (ops : List (ControllerOp σ)) (op : ControllerOp σ) :
    let ctrl := exec (ControllerOp.step k) (VcController.init k nodes store) ops
    ctrl.operatingMode = .automatic → (op.step k ctrl).operatingMode = .normal →
      (AllWindDown (op.step k ctrl) ↔ (op.isFactoryReset → AllWindDown ctrl)) := by
  intro ctrl hmode hmode'
  cases hreset : op.isFactoryReset with
  | true =>
    have hsame : (op.step k ctrl).channels = ctrl.channels := by
      cases op with
      | systemParamAction action => cases action <;> first | rfl | cases hreset
      | _ => cases hreset
    simp [AllWindDown, hsame]
  | false =>
    have hmoves : op.movesTo ctrl = some .normal := by
      rw [operatingMode_step, hreset] at hmode'
      cases hmoves : op.movesTo ctrl with
      | none => simp [hmoves, hmode] at hmode'
      | some mode => simpa [hmoves] using hmode'
    have hall : AllWindDown (op.step k ctrl) := windDown_transition hmode hmoves
    simp [hall]

/-- Operations after which channel 0 runs at a target of 300 in AUTOMATIC. -/
def runningOps (σ : Type) : List (ControllerOp σ) :=
  [.setOperatingMode .automatic, .channelSetField 0 .configuredTargetVoltage 300, .tick 5000]

/-- The mode write to NORMAL. -/
theorem retreat_windsDown_example :
    let ctrl := exec (ControllerOp.step Kconfig.hvb) (VcController.init Kconfig.hvb [dacNode] ())
      (runningOps Unit)
    AllWindDown ((ControllerOp.setOperatingMode .normal).step Kconfig.hvb ctrl) :=
  (retreat_windsDown Kconfig.hvb [dacNode] () (runningOps Unit) (.setOperatingMode .normal)
    (by decide +kernel) (by decide +kernel)).mpr nofun

/-- A FACTORY_RESET leaves the channel running in NORMAL. -/
theorem retreat_leavesRunning :
    ¬ ∀ (ops : List (ControllerOp Unit)) (op : ControllerOp Unit),
      let ctrl := exec (ControllerOp.step Kconfig.hvb)
        (VcController.init Kconfig.hvb [dacNode] ()) ops
      ctrl.operatingMode = .automatic → (op.step Kconfig.hvb ctrl).operatingMode = .normal →
        AllWindDown (op.step Kconfig.hvb ctrl) := by
  intro h
  have hrun := h (runningOps Unit) (.systemParamAction .factoryReset) (by decide +kernel)
    (by decide +kernel)
  revert hrun
  unfold AllWindDown
  decide +kernel

end Retreat
