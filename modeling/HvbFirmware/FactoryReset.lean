import HvbFirmware.SaveLoad

/-!
# The factory configuration of a channel

`vc_channel_init` takes the defaults of the build and lets the driver put in its own. FACTORY_RESET
knows the first of the two sources only, so it brings the factory configuration back exactly on
the channels whose driver leaves the operational defaults alone.
-/
namespace FactoryReset

open VcTypes VcChannel VcController VcRuntime PowerCycle SaveLoad Runs

variable {σ : Type}

/-- The build's defaults are themselves a record that every channel takes over them. -/
theorem defaultConfig_gated (capabilities : UInt16) (k : Kconfig) :
    Gated capabilities (defaultConfig k) (defaultConfig k) where
  dac _ := ⟨rfl, rfl, rfl, rfl, rfl⟩
  output _ := rfl
  current _ := ⟨rfl, rfl, rfl⟩
  derate _ := rfl

theorem defaultConfig_inRange (k : Kconfig) : InRange k (defaultConfig k) where
  target := by
    have hmax := k.maxTargetVoltage_range
    simp only [defaultConfig]
    grind
  threshold := by
    have hlimit := k.currentLimit_range
    simp only [defaultConfig]
    grind
  mode := rfl
  action := rfl

/-- What an accepted or refused FACTORY_RESET makes of a channel: the stored calibration is put
back in any case, and leaves the configuration. -/
theorem factoryReset_config {k : Kconfig} {ctrl : Controller σ} {i : Nat} {ch : Channel}
    (hch : ctrl.channels[i]? = some ch) :
    let reset := channelParamAction k ctrl i .factoryReset
    (reset.1 = .ok ↔ (setConfig k ch (defaultConfig k)).1 = .ok) ∧
      (reset.1 = .ok → reset.2.channels[i]?.map (·.config) = some (defaultConfig k)) := by
  intro reset
  have hreset : reset = putBack ctrl i (setConfig k ch (defaultConfig k)) := by
    show channelParamAction k ctrl i .factoryReset = _
    unfold channelParamAction
    rw [hch]
  have hlt : i < ctrl.channels.length := (List.getElem?_eq_some_iff.mp hch).1
  rw [hreset]
  unfold putBack
  by_cases hok : (setConfig k ch (defaultConfig k)).1 = .ok
  · have hrefresh : (refresh { ch with config := defaultConfig k }).config = defaultConfig k :=
      applyHw_config _
    rw [if_neg (by simpa using hok), setConfig_of_ok hok]
    split
    · exact ⟨by simp, fun _ => by simp [List.getElem?_set_self hlt, hrefresh]⟩
    · exact ⟨by simp, fun _ => by
        simp [List.getElem?_set_self hlt, config_applyStoredCal, hrefresh]⟩
  · rw [if_pos hok]
    exact ⟨Iff.rfl, fun h => absurd h hok⟩

/-- A channel that starts from the build's defaults takes them back at any time. -/
theorem kept_initFrom {k : Kconfig} {node : Node} {getDtDefaults : DtDefaults}
    (hdefault : (VcChannel.initFrom k node getDtDefaults).config = defaultConfig k) :
    Kept k { node with dtDefaults := none } (VcChannel.initFrom k node getDtDefaults) := by
  have hplain : (VcChannel.init k { node with dtDefaults := none }).config = defaultConfig k := by
    unfold VcChannel.init
    cases node.dev <;> rfl
  refine ⟨rfl, ?_, ?_⟩
  · rw [hplain, hdefault]
    exact defaultConfig_gated _ k
  · rw [hdefault]
    exact defaultConfig_inRange k

theorem defaultConfig_accepted {k : Kconfig} {node : Node} {ch : Channel}
    (hplain : (VcChannel.init k node).config = defaultConfig k) (hkept : Kept k node ch) :
    (setConfig k ch (defaultConfig k)).1 = .ok := by
  rw [setConfig_ok_iff, hkept.capabilities]
  have hgated := hkept.gated
  rw [hplain] at hgated
  exact ⟨Gated.back hgated (defaultConfig_gated _ k), defaultConfig_inRange k⟩

/-- A reachable controller over drivers with any `get_dt_defaults` hooks. -/
def reachedFrom (k : Kconfig) (drivers : List (Node × DtDefaults)) (store : σ)
    (ops : List (PublicOp σ)) : Controller σ :=
  exec (PublicOp.step k) (VcController.initFrom k drivers store) ops

theorem initFrom_channel {k : Kconfig} {drivers : List (Node × DtDefaults)} {store : σ} {i : Nat}
    {driver : Node × DtDefaults} (hdriver : drivers[i]? = some driver) :
    (VcController.initFrom k drivers store).channels[i]? =
      some (VcChannel.initFrom k driver.1 driver.2) := by
  simp [VcController.initFrom, hdriver]

/-- In every reachable state: FACTORY_RESET is accepted and restores what `vc_channel_init` made
exactly if the driver leaves the operational defaults of the build. -/
theorem factoryReset_restores (k : Kconfig) (drivers : List (Node × DtDefaults)) (store : σ)
    (ops : List (PublicOp σ)) {i : Nat} {driver : Node × DtDefaults}
    (hdriver : drivers[i]? = some driver) :
    let reset := channelParamAction k (reachedFrom k drivers store ops) i .factoryReset
    (reset.1 = .ok ∧ reset.2.channels[i]?.map (·.config) =
        some (VcChannel.initFrom k driver.1 driver.2).config) ↔
      (VcChannel.initFrom k driver.1 driver.2).config = defaultConfig k := by
  intro reset
  have hlength : (reachedFrom k drivers store ops).channels.length =
      (VcController.initFrom k drivers store).channels.length := length_publicRun k _ ops
  have hlt : i < (reachedFrom k drivers store ops).channels.length := by
    rw [hlength]
    exact (List.getElem?_eq_some_iff.mp (initFrom_channel hdriver)).1
  have hch := List.getElem?_eq_getElem hlt
  obtain ⟨hok, hconfig⟩ := factoryReset_config (k := k) hch
  constructor
  · rintro ⟨haccepted, hrestored⟩
    exact Option.some.inj (hrestored.symm.trans (hconfig haccepted))
  · intro hdefault
    have hkept : ∀ ch ∈ (reachedFrom k drivers store ops).channels[i]?,
        Kept k { driver.1 with dtDefaults := none } ch := by
      refine publicRun_channel (fun ch op h => h.step op) ?_ ops
      rw [initFrom_channel hdriver]
      rintro ch ⟨⟩
      exact kept_initFrom hdefault
    have hplain : (VcChannel.init k { driver.1 with dtDefaults := none }).config =
        defaultConfig k := by
      unfold VcChannel.init
      cases driver.1.dev <;> rfl
    have haccepted := hok.mpr (defaultConfig_accepted hplain (hkept _ hch))
    exact ⟨haccepted, by rw [hdefault]; exact hconfig haccepted⟩

/-! A switchable channel without a DAC, on a board that enables its outputs by default. -/

def switchedNode (outputDisabled : Bool) : Node where
  capabilities := capOutputEnable ||| capVoltageMeasurement ||| capCurrentMeasurement
  dev := some ⟨some fun _ => true, true⟩
  hasMeas := true
  dtDefaults := some ⟨0, outputDisabled⟩

def enabledBoard : Kconfig := { Kconfig.hvb with defaultOutputEnabled := true }

def switchedDriver (outputDisabled : Bool) : Node × DtDefaults :=
  (switchedNode outputDisabled, (switchedNode outputDisabled).getDtDefaults)

def switchRun : List (PublicOp Settings) :=
  [.controller (.channelSetField 0 .configuredOutputEnabled 0)]

theorem factoryReset_restores_example :
    let reset := channelParamAction enabledBoard
      (reachedFrom enabledBoard [switchedDriver false] Settings.empty switchRun) 0 .factoryReset
    reset.1 = .ok ∧ reset.2.channels[0]?.map (·.config) =
      some (VcChannel.initFrom enabledBoard (switchedNode false)
        (switchedNode false).getDtDefaults).config := by
  have hdriver : [switchedDriver false][0]? = some (switchedDriver false) := rfl
  exact (factoryReset_restores enabledBoard [switchedDriver false] Settings.empty switchRun
    hdriver).mpr rfl

/-- A channel that is to start disabled is enabled by its FACTORY_RESET. -/
theorem factoryReset_enables :
    let booted := VcController.init enabledBoard [switchedNode true] Settings.empty
    let reset := channelParamAction enabledBoard booted 0 .factoryReset
    booted.channels.map (·.config.configuredOutputEnabled) = [false] ∧ reset.1 = .ok ∧
      reset.2.channels.map (·.config.configuredOutputEnabled) = [true] := by
  decide +kernel

end FactoryReset
