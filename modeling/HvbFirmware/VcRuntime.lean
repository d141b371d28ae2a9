import HvbFirmware.VcController

/-!
# Booting from stored settings

The settings backend of `vc_storage_settings.c`, one record for each key, and
`vc_runtime_auto_load`, which reads the records back after `vc_controller_init`.
-/
namespace VcRuntime

open VcTypes VcChannel VcController

/-- The keys `vc/sys`, `vc/chN/cfg` and `vc/chN/cal`. -/
structure Settings where
  sys : Option SystemConfig
  config : Nat → Option ChannelConfig
  cal : Nat → Option ChannelCalConfig

def Settings.empty : Settings := ⟨none, fun _ => none, fun _ => none⟩

namespace Settings

def saveSys (s : Settings) (cfg : SystemConfig) : Settings := { s with sys := some cfg }

def saveConfig (s : Settings) (i : Nat) (cfg : ChannelConfig) : Settings :=
  { s with config := fun j => if j = i then some cfg else s.config j }

def saveCal (s : Settings) (i : Nat) (cal : ChannelCalConfig) : Settings :=
  { s with cal := fun j => if j = i then some cal else s.cal j }

@[simp] theorem saveConfig_self (s : Settings) (i : Nat) (cfg : ChannelConfig) :
    (s.saveConfig i cfg).config i = some cfg := if_pos rfl

@[simp] theorem saveConfig_other (s : Settings) {i j : Nat} (cfg : ChannelConfig) (h : j ≠ i) :
    (s.saveConfig i cfg).config j = s.config j := if_neg h

end Settings

/-- `settings_load_key`: a key that is not there leaves the buffer. -/
def settingsLoadKey {α : Type} (key : Option α) (buffer : α) : Int × α :=
  match key with
  | some record => (0, record)
  | none => (errNoEnt, buffer)

def vcSettingsStorage : StorageBackend Settings where
  saveSystemConfig := some fun cfg s => (0, s.saveSys cfg)
  loadSystemConfig := some fun s =>
    let r := settingsLoadKey s.sys ⟨.normal, 0⟩
    (r.1, r.2, s)
  saveChannelConfig := some fun i cfg s => (0, s.saveConfig i cfg)
  loadChannelConfig := some fun i buffer s =>
    let r := settingsLoadKey (s.config i) buffer
    (r.1, r.2, s)
  saveChannelCal := some fun i cal s => (0, s.saveCal i cal)
  loadChannelCal := some fun i buffer s =>
    let r := settingsLoadKey (s.cal i) buffer
    (r.1, r.2, s)
  eraseAll := some fun _ => (0, .empty)

/-- The system record is read first and applied last, when the channels have their targets. -/
def vcRuntimeAutoLoad (k : Kconfig) (ctrl : Controller Settings) : Controller Settings :=
  let ctrl := setStorageBackend ctrl (some vcSettingsStorage)
  let sysCfg := (settingsLoadKey ctrl.store.sys ctrl.sysCfg).2
  let opAction := if sysCfg.startupChannelPolicy ≠ 0 then .factoryReset else .load
  let loaded := (List.range ctrl.channels.length).foldl
    (fun ctrl i => (channelParamAction k ctrl i opAction).2) ctrl
  (setSystemConfig k loaded sysCfg).2

/-- The part of `vc_runtime_create_static` that makes a controller. -/
def boot (k : Kconfig) (nodes : List Node) (settings : Settings) : Controller Settings :=
  vcRuntimeAutoLoad k (VcController.init k nodes settings)

end VcRuntime
