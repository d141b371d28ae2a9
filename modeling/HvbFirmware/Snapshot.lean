import HvbFirmware.VcCatalog

/-!
# The snapshot of a channel and its input registers

A channel is shown twice: `vc_channel_get_snapshot` copies its state into a record for the domain,
and `vc_catalog_read` serves it register by register. The record is given here as the source fills
it, with the field that stands for each input register.
-/
namespace Snapshot

open VcTypes VcChannel VcController RegCatalog VcCatalog Runs

variable {σ : Type}

structure ChannelSnapshot where
  measuredVoltage : Int16
  measuredCurrent : Int16
  operationalTargetVoltage : Int16
  statusBits : UInt16
  activeFaultCause : UInt16
  faultHistoryCause : UInt16
  lastProtectionOutputAction : OutputAction
  autoRetryCount : UInt16
  autoCooldownRemaining : UInt16
  lastFaultTimestamp : UInt32
  channelCapabilityFlags : UInt16
  rawAdcVoltage : Int32
  rawAdcCurrent : Int32
  rawDacReadback : UInt16
  calOutputEnabled : UInt16

/-- `vc_channel_get_snapshot` -/
def getSnapshot (ch : Channel) : ChannelSnapshot where
  measuredVoltage := ch.measuredVoltage
  measuredCurrent := ch.measuredCurrent
  operationalTargetVoltage := ch.operationalTargetVoltage
  statusBits := ch.statusBits
  activeFaultCause := ch.activeFaultCause
  faultHistoryCause := ch.faultHistoryCause
  lastProtectionOutputAction := ch.lastProtectionOutputAction
  autoRetryCount := UInt16.ofNat (countActiveRetries ch)
  autoCooldownRemaining := (ch.cooldownRemainingMs / 1000).toUInt16
  lastFaultTimestamp := ch.lastFaultTimestamp
  channelCapabilityFlags := ch.capabilities
  rawAdcVoltage := ch.rawAdcVoltage
  rawAdcCurrent := ch.rawAdcCurrent
  rawDacReadback := ch.rawDacReadback
  calOutputEnabled := ch.calOutputEnabled

/-- The field that an input register of a channel stands for. -/
def snapshotValue (snap : ChannelSnapshot) : VcReg → Option UInt32
  | .statusBits => some (u16 snap.statusBits)
  | .activeFaultCause => some (u16 snap.activeFaultCause)
  | .faultHistoryCause => some (u16 snap.faultHistoryCause)
  | .lastProtOutAction => some (u16 snap.lastProtectionOutputAction.toValue)
  | .autoRetryCount => some (u16 snap.autoRetryCount)
  | .autoCooldownRemaining => some (u16 snap.autoCooldownRemaining)
  | .lastFaultTimestamp => some snap.lastFaultTimestamp
  | .operTargetVoltage => some (s16 snap.operationalTargetVoltage)
  | .capabilityFlags => some (u16 snap.channelCapabilityFlags)
  | .measuredVoltage => some (s16 snap.measuredVoltage)
  | .measuredCurrent => some (s16 snap.measuredCurrent)
  | .rawAdcVoltage => some snap.rawAdcVoltage.toUInt32
  | .rawAdcCurrent => some snap.rawAdcCurrent.toUInt32
  | _ => none

/-- The input registers are the read-only ones. -/
theorem snapshotValue_isSome (snap : ChannelSnapshot) (reg : VcReg) :
    (snapshotValue snap reg).isSome ↔ reg.row.access = .ro := by
  cases reg <;> simp [snapshotValue, VcReg.row]

/-- The snapshot with the codes that the driver published last in the place of the latched ones. -/
def live (ch : Channel) : ChannelSnapshot :=
  match ch.meas with
  | none => getSnapshot ch
  | some buf =>
    { getSnapshot ch with
      rawAdcVoltage := buf.rawVoltage
      rawAdcCurrent := buf.rawCurrent }

theorem channelValue_live (ch : Channel) {reg : VcReg} (hreg : reg.row.access = .ro)
    (hretry : reg ≠ .autoRetryCount) :
    ∃ value, snapshotValue (live ch) reg = some value ∧ channelValue ch reg = (.ok, value) := by
  unfold live
  cases hmeas : ch.meas <;> cases reg
  case none.autoRetryCount | some.autoRetryCount => exact absurd rfl hretry
  case none.rawAdcVoltage | none.rawAdcCurrent | some.rawAdcVoltage | some.rawAdcCurrent =>
    simp [channelValue, boundValue, switchValue, snapshotValue, getSnapshot, hmeas]
  all_goals first
    | exact ⟨_, rfl, rfl⟩
    | cases hreg

theorem vcCatalogRead_channel (vb : VcBuild) {ctrl : Controller σ} {instanceId : UInt8}
    (hchannel : instanceId ≠ globalInstance) {ch : Channel}
    (hch : ctrl.channels[instanceId.toNat]? = some ch) {reg : VcReg}
    (hserved : vcCatalogSupported reg ch.capabilities) :
    vcCatalogRead vb true ctrl (reg.row.descriptor moduleVoltageControl instanceId) =
      channelValue ch reg := by
  have hinstance : (reg.row.descriptor moduleVoltageControl instanceId).id.instanceId =
    instanceId := rfl
  unfold vcCatalogRead
  rw [if_neg (by simp), hinstance, if_neg hchannel, hch, vcRegOf_descriptor]
  dsimp only
  rw [if_neg (by simp [hserved])]

/-- A register of a channel that the catalog serves: it is read-only and the channel has what it
shows. -/
structure Served (ctrl : Controller σ) (instanceId : UInt8) (ch : Channel) (reg : VcReg) :
    Prop where
  channel : instanceId ≠ globalInstance
  present : ctrl.channels[instanceId.toNat]? = some ch
  input : reg.row.access = .ro
  supported : vcCatalogSupported reg ch.capabilities

/-- In every state, an input register that is served shows its field of the snapshot, with the
codes of the converter live. The retry count is left open. -/
theorem registers_snapshot (vb : VcBuild) (k : Kconfig) (nodes : List Node) (store : σ)
    (ops : List (PublicOp σ)) {instanceId : UInt8} {ch : Channel} {reg : VcReg}
    (hserved : Served (exec (PublicOp.step k) (VcController.init k nodes store) ops) instanceId ch
      reg) (hretry : reg ≠ .autoRetryCount) :
    ∃ value, snapshotValue (live ch) reg = some value ∧
      vcCatalogRead vb true (exec (PublicOp.step k) (VcController.init k nodes store) ops)
        (reg.row.descriptor moduleVoltageControl instanceId) = (.ok, value) := by
  obtain ⟨hchannel, hch, hinput, hsupported⟩ := hserved
  rw [vcCatalogRead_channel vb hchannel hch hsupported]
  exact channelValue_live ch hinput hretry

/-! A sample that the driver has published and no tick has taken in. -/

theorem oneChannel_range : (1 : UInt8) ≤ 16 := by decide

def oneChannel : VcBuild where
  maxChannels := 1
  hasSysStatus := false
  maxChannels_range := oneChannel_range
  variantId := 1
  currentUnitExp := 0
  boardHwRevision := 1

def published : Controller Unit :=
  exec (PublicOp.step .hvb) (VcController.init .hvb [dacNode] ())
    [.channel 0 (.publishVoltage 1234 5)]

theorem registers_snapshot_example : ∃ ch value, published.channels[0]? = some ch ∧
    snapshotValue (live ch) .rawAdcVoltage = some value ∧
    vcCatalogRead oneChannel true published
      (VcReg.rawAdcVoltage.row.descriptor moduleVoltageControl 0) = (.ok, value) := by
  have hch : published.channels[0]? = some (publishVoltage (VcChannel.init .hvb dacNode) 1234 5) :=
    rfl
  obtain ⟨value, hvalue, hread⟩ := registers_snapshot oneChannel .hvb [dacNode] ()
    [.channel 0 (.publishVoltage 1234 5)]
    (⟨by decide, hch, rfl, by decide⟩ : Served _ 0 _ .rawAdcVoltage) (by decide)
  exact ⟨_, value, hch, hvalue, hread⟩

/-- The register shows the published code, the snapshot the latched one. -/
theorem registers_differ :
    published.channels.map (fun ch => snapshotValue (getSnapshot ch) .rawAdcVoltage) = [some 0] ∧
      vcCatalogRead oneChannel true published
        (VcReg.rawAdcVoltage.row.descriptor moduleVoltageControl 0) = (.ok, 1234) := by
  decide +kernel

end Snapshot
