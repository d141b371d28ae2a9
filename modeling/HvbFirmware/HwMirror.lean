import HvbFirmware.Ramp

/-!
# The hardware mirrors the state

After every call the hardware should hold what `apply_hw` would write from the state as it is,
so that a later `apply_hw` changes nothing. The SMF state counts in one case only: in
DISABLED_HV_ON, with output and calibration gate off, the output stage stays on. A call that leaves
that state without `apply_hw` leaves the stage on too, until some other write switches it off.
-/
namespace HwMirror

open VcTypes VcChannel VcController Runs

variable {σ : Type}

/-! ## What `apply_hw` reads and writes -/

structure Output where
  dev : Option ChannelApi
  hw : HwCommand
  dacCode : UInt16
  cal : UInt16
  raw : UInt16
  outputEnabled : Bool
  -- the DAC code of the running value
  code : UInt16
  hvOn : Bool

def output (ch : Channel) : Output where
  dev := ch.dev
  hw := ch.hw
  dacCode := ch.dacCode
  cal := ch.calOutputEnabled
  raw := ch.rawDacReadback
  outputEnabled := ch.outputEnabled
  code := rawDriveFromTarget ch ch.operationalTargetVoltage
  hvOn := ch.smf = .disabledHvOn

namespace Output

def command (o : Output) : HwCommand :=
  if o.cal ≠ 0 then ⟨o.raw, true⟩
  else if o.outputEnabled then ⟨o.code, true⟩
  else ⟨0, o.hvOn⟩

/-- The command goes out through the hooks that are there. -/
def write (o : Output) (api : ChannelApi) : Output :=
  { o with
    hw := ⟨if api.setOutput.isSome then o.command.code else o.hw.code,
      if api.setEnable then o.command.enable else o.hw.enable⟩
    dacCode := match api.setOutput with
      | some takes => if takes o.command.code then o.command.code else o.dacCode
      | none => o.dacCode }

def settle (o : Output) : Output :=
  match o.dev with
  | none => o
  | some api => o.write api

/-- Another `apply_hw` would change nothing. -/
def Settled (o : Output) : Prop := o.settle.hw = o.hw ∧ o.settle.dacCode = o.dacCode

/-- The output stage is on for DISABLED_HV_ON alone, and its hook is there. -/
def stageOn (o : Output) : Bool :=
  o.hvOn && !o.outputEnabled && o.cal == 0 && o.dev.any fun api => api.setEnable

theorem settle_none {o : Output} (h : o.dev = none) : o.settle = o := by
  rw [settle, h]

theorem settle_some {o : Output} {api : ChannelApi} (h : o.dev = some api) :
    o.settle = o.write api := by
  rw [settle, h]

theorem write_write (o : Output) (api : ChannelApi) : (o.write api).write api = o.write api := by
  obtain ⟨setOutput, setEnable⟩ := api
  cases setOutput with
  | none => cases setEnable <;> rfl
  | some takes =>
    have hcommand : (o.write ⟨some takes, setEnable⟩).command = o.command := rfl
    rw [write, hcommand]
    cases htakes : takes o.command.code <;> cases setEnable <;> simp [write, htakes]

theorem settled_settle (o : Output) : o.settle.Settled := by
  cases hdev : o.dev with
  | none =>
    rw [settle_none hdev, Settled, settle_none hdev]
    exact ⟨rfl, rfl⟩
  | some api =>
    have hdev' : (o.write api).dev = some api := hdev
    rw [settle_some hdev, Settled, settle_some hdev', write_write]
    exact ⟨rfl, rfl⟩

theorem stageOn_settle (o : Output) : o.settle.stageOn = o.stageOn := by
  cases hdev : o.dev with
  | none => rw [settle_none hdev]
  | some api =>
    rw [settle_some hdev]
    rfl

/-- An output that asks the hooks for the same is as settled. -/
theorem Settled.congr {o o' : Output} (h : o.Settled) (hdev : o'.dev = o.dev)
    (hhw : o'.hw = o.hw) (hdac : o'.dacCode = o.dacCode)
    (hcode : o'.command.code = o.command.code)
    (henable : (o.dev.any fun api => api.setEnable) → o'.command.enable = o.command.enable) :
    o'.Settled := by
  cases hapi : o.dev with
  | none =>
    rw [hapi] at hdev
    rw [Settled, settle_none hdev]
    exact ⟨rfl, rfl⟩
  | some api =>
    rw [hapi] at hdev henable
    rw [Settled, settle_some hapi] at h
    rw [Settled, settle_some hdev, hhw, hdac, ← h.1, ← h.2]
    simp only [write, hhw, hdac, hcode]
    cases hset : api.setEnable with
    | false => simp
    | true => simp [henable (by simpa using hset)]

/-- Leaving DISABLED_HV_ON changes the command only of a stage that is on for that state. -/
theorem Settled.leave {o : Output} (h : o.Settled) (hstage : o.stageOn = false) :
    { o with hvOn := false }.Settled := by
  refine h.congr rfl rfl rfl ?_ fun hset => ?_
  · unfold command
    grind
  · have hoff : o.hvOn = false ∨ o.outputEnabled = true ∨ o.cal ≠ 0 := by
      cases hv : o.hvOn <;> cases hout : o.outputEnabled <;> simp_all [stageOn]
    unfold command
    grind

end Output

theorem command_output (ch : Channel) : (output ch).command = hwCommand ch := by
  unfold Output.command hwCommand output
  by_cases hsmf : ch.smf = .disabledHvOn <;> simp [hsmf]

theorem output_applyHw (ch : Channel) : output (applyHw ch) = (output ch).settle := by
  have hcommand := command_output ch
  cases hdev : ch.dev with
  | none =>
    rw [Output.settle_none (o := output ch) hdev]
    unfold applyHw
    rw [hdev]
  | some api =>
    rw [Output.settle_some (o := output ch) hdev, Output.write, hcommand]
    unfold applyHw
    rw [hdev]
    cases hset : api.setOutput <;> simp [output, rawDriveFromTarget, hdev, hset]

theorem settled_applyHw (ch : Channel) : (output (applyHw ch)).Settled := by
  rw [output_applyHw]
  exact Output.settled_settle _

theorem settled_refresh (ch : Channel) : (output (refresh ch)).Settled := settled_applyHw ch

/-! ## The calls that may leave the stage on -/

/-- Whether a protection action leaves the stage on for DISABLED_HV_ON. -/
def leavesStageOn (ch : Channel) (action : OutputAction) : Bool :=
  match protectionAction ch action with
  | .disableGraceful | .disableForce => false
  | .disableImmediate => ch.calOutputEnabled == 0 && hasSetEnable ch
  | _ => (output ch).stageOn

/-- A trip overrides the state that its protection action has just written out. -/
def tripStrands (ch : Channel) : Bool :=
  leavesStageOn ch ch.config.currentProtectionOutputAction

/-- The calls after which the hardware is as `apply_hw` would leave it. -/
def keepsMirror (ch : Channel) (op : ChannelOp) : Bool :=
  !(tripsOn ch op && tripStrands ch) &&
    match op with
    | .faultCommand .clearActive =>
      !((output ch).stageOn && ch.activeFaultCause != 0 && isSafeToClearActive ch)
    | .tickRecovery sysCfg dtMs =>
      !((output ch).stageOn && retryable ch sysCfg && !retryDue ch sysCfg dtMs)
    | _ => true

/-! ## Calls -/

theorem mirror_request {k : Kconfig} {ch ch' : Channel} {op : ChannelOp}
    (h : (output ch).Settled) (hkeeps : keepsMirror ch op) (hstep : RequestStep k ch op ch') :
    (output ch').Settled := by
  cases hstep with
  | clearActive hactive hsafe =>
    have hstage : (output ch).stageOn = false := by
      have hclears : !((output ch).stageOn && ch.activeFaultCause != 0 && isSafeToClearActive ch) :=
        ((Bool.and_eq_true _ _).mp hkeeps).2
      simpa [hactive, hsafe] using hclears
    exact h.leave hstage
  | _ => first | exact settled_refresh _ | exact settled_applyHw _ | exact h

theorem stageOn_applyProtectionAction (ch : Channel) (action : OutputAction) :
    (output (applyProtectionAction ch action)).stageOn = leavesStageOn ch action := by
  unfold applyProtectionAction leavesStageOn
  cases protectionAction ch action <;> dsimp only <;>
    rw [output_applyHw, Output.stageOn_settle] <;> rfl

theorem leavesStageOn_congr {ch ch' : Channel} (houtput : output ch' = output ch)
    (hcaps : ch'.capabilities = ch.capabilities) (action : OutputAction) :
    leavesStageOn ch' action = leavesStageOn ch action := by
  have haction : protectionAction ch' action = protectionAction ch action := by
    simp [protectionAction, VcChannel.hasCap, hcaps]
  have hcal : ch'.calOutputEnabled = ch.calOutputEnabled := congrArg Output.cal houtput
  have henable : hasSetEnable ch' = hasSetEnable ch :=
    congrArg (fun o => o.dev.any fun api => api.setEnable) houtput
  rw [leavesStageOn, haction, hcal, henable, houtput]
  rfl

/-- A trip of a channel that agrees with `ch` in all but the reading. -/
theorem mirror_trip {ch m : Channel} {op : ChannelOp} (h : (output ch).Settled)
    (houtput : output m = output ch) (hconfig : m.config = ch.config)
    (hcaps : m.capabilities = ch.capabilities) (htrips : trips m → tripsOn ch op)
    (hkeeps : keepsMirror ch op) : (output (tickCurrentProtection m)).Settled := by
  rcases tickCurrentProtection_cases m with hsame | hsame | ⟨htrip, htripped⟩
  · rw [hsame, houtput]
    exact h
  · rw [hsame]
    show (output m).Settled
    rw [houtput]
    exact h
  · have hstrands : tripStrands ch = false := by
      have hkeeps := (Bool.and_eq_true _ _).mp hkeeps
      simpa [htrips htrip] using hkeeps.1
    have hlatched : output (latchCurrentFault (recordCurrentFault m)) = output ch := houtput
    have hoff : (output (applyProtectionAction (latchCurrentFault (recordCurrentFault m))
        m.config.currentProtectionOutputAction)).stageOn = false := by
      rw [stageOn_applyProtectionAction, leavesStageOn_congr hlatched hcaps, hconfig]
      exact hstrands
    rw [htripped]
    exact Output.Settled.leave (settled_applyHw _) hoff

theorem mirror_consumeCurrent {ch : Channel} {op : ChannelOp} (raw : Int32)
    (h : (output ch).Settled) (htrips : trips (measureCurrent ch raw) → tripsOn ch op)
    (hkeeps : keepsMirror ch op) : (output (consumeCurrent ch raw)).Settled := by
  show (output (if !(measureCurrent ch raw).ramping then
    tickCurrentProtection (measureCurrent ch raw) else measureCurrent ch raw)).Settled
  split
  · exact mirror_trip h rfl rfl rfl htrips hkeeps
  · exact h

theorem mirror_sampleVoltage {ch : Channel} (h : (output ch).Settled) :
    (output (sampleVoltage ch)).Settled := by
  unfold sampleVoltage
  split
  · exact h
  · split <;> exact h

theorem mirror_sampleCurrent {ch : Channel} (h : (output ch).Settled)
    (hkeeps : keepsMirror ch .sampleCurrent) : (output (sampleCurrent ch)).Settled := by
  rcases sampleCurrent_cases ch with ⟨-, hsame⟩ | ⟨raw, ts, htaken, hsame⟩ <;> rw [hsame]
  · exact h
  · exact mirror_consumeCurrent raw h (fun htrip => tripsOn_iff.mpr ⟨raw, htaken, htrip⟩) hkeeps

/-- The only ramp tick without `apply_hw` finds the output on. -/
theorem mirror_tickRamp {ch : Channel} (dtMs : UInt32) (h : (output ch).Settled) :
    (output (tickRamp ch dtMs)).Settled := by
  have hstep := Ramp.tickRamp_step ch dtMs
  generalize tickRamp ch dtMs = ch' at hstep
  cases hstep with
  | idle => exact h
  | hold hruns _ _ hto =>
    have hfinish : output (finishRamp ch) = { output ch with hvOn := false } := by
      unfold finishRamp
      rw [if_neg (by simp [hto])]
      rfl
    have hout : ch.outputEnabled = true := by
      simp only [rampRuns, decide_eq_true_eq] at hruns
      exact hruns.1
    rw [hfinish]
    exact h.leave (by simp [Output.stageOn, output, hout])
  | off => exact settled_refresh _
  | jump => exact settled_refresh _
  | arrive => exact settled_refresh _
  | move => exact settled_refresh _

theorem output_enterCooldown (ch : Channel) :
    output (enterCooldown ch) = { output ch with hvOn := false } := by
  unfold enterCooldown
  split
  · rfl
  next hsmf =>
    have hsmf : ch.smf = .retryCooldown := Decidable.not_not.mp hsmf
    simp [output, hsmf]

theorem mirror_tickRecovery {k : Kconfig} {ch : Channel} (sysCfg : SystemConfig) (dtMs : UInt32)
    (h : (output ch).Settled) (hkeeps : keepsMirror ch (.tickRecovery sysCfg dtMs)) :
    (output (tickRecovery k ch sysCfg dtMs)).Settled := by
  have hwaits : !((output ch).stageOn && retryable ch sysCfg && !retryDue ch sysCfg dtMs) :=
    ((Bool.and_eq_true _ _).mp hkeeps).2
  have hstep := tickRecovery_step k ch sysCfg dtMs
  generalize tickRecovery k ch sysCfg dtMs = ch' at hstep
  cases hstep with
  | idle => exact h
  | cooling hretry hdue remainingMs =>
    have hstage : (output ch).stageOn = false := by
      simpa [hretry, hdue] using hwaits
    have hleft := h.leave hstage
    rw [← output_enterCooldown] at hleft
    exact hleft
  | exhausted hretry hdue =>
    have hstage : (output ch).stageOn = false := by
      simpa [hretry, hdue] using hwaits
    have hleft := h.leave hstage
    have hlatched : output (retriesExhausted (waited ch)) =
        { output (enterCooldown ch) with hvOn := false } := rfl
    rw [hlatched, output_enterCooldown]
    exact hleft
  | retry => exact settled_applyHw _

theorem mirror_step {k : Kconfig} {ch : Channel} {op : ChannelOp} (h : (output ch).Settled)
    (hkeeps : keepsMirror ch op) : (output (op.step k ch)).Settled := by
  cases op with
  | outputAction action => exact mirror_request h hkeeps (outputAction_step k ch action)
  | faultCommand cmd => exact mirror_request h hkeeps (faultCommand_step k ch cmd)
  | setField field value => exact mirror_request h hkeeps (setField_step k ch field value)
  | setConfig cfg => exact mirror_request h hkeeps (setConfig_step k ch cfg)
  | advance dtMs => exact h
  | sampleVoltage => exact mirror_sampleVoltage h
  | sampleCurrent => exact mirror_sampleCurrent h hkeeps
  | tickRamp dtMs => exact mirror_tickRamp dtMs h
  | tickRecovery sysCfg dtMs => exact mirror_tickRecovery sysCfg dtMs h hkeeps
  | consumeVoltage raw => exact h
  | consumeCurrent raw => exact mirror_consumeCurrent raw h id hkeeps
  | consumeFault cause => exact settled_applyHw _
  | resetCalibration entering => exact settled_refresh _
  | calSetOutputEnable enable =>
    exact mirror_request h hkeeps (calSetOutputEnable_step k ch enable)
  | calSetRawDac code => exact mirror_request h hkeeps (calSetRawDac_step k ch code)
  | calSample => exact mirror_request h hkeeps (calSample_step k ch)
  | setCalField field value => exact mirror_request h hkeeps (setCalField_step k ch field value)
  | loadCal cal => exact settled_applyHw _
  | publishVoltage raw ts => exact h
  | publishCurrent raw ts => exact h

/-! ## Runs -/

/-- The operations whose calls leave no stage on behind the state. -/
def KeepsMirror (k : Kconfig) (ctrl : Controller σ) (op : PublicOp σ) : Prop :=
  EachCall k (fun ch op => keepsMirror ch op) ctrl (op.channelOps k ctrl)

instance (k : Kconfig) (ctrl : Controller σ) (op : PublicOp σ) :
    Decidable (KeepsMirror k ctrl op) :=
  inferInstanceAs (Decidable (EachCall k _ ctrl _))

/-- The last pair written is what `apply_hw` would write now, and writing it again leaves the DAC
code. -/
def Mirrored (ch : Channel) : Prop :=
  (applyHw ch).hw = ch.hw ∧ (applyHw ch).dacCode = ch.dacCode

instance (ch : Channel) : Decidable (Mirrored ch) := inferInstanceAs (Decidable (_ ∧ _))

theorem mirrored_of_settled {ch : Channel} (h : (output ch).Settled) : Mirrored ch := by
  unfold Output.Settled at h
  rw [← output_applyHw] at h
  exact h

theorem settled_init (k : Kconfig) (node : Node) : (output (VcChannel.init k node)).Settled := by
  have hcommand : (output (VcChannel.init k node)).command = .off := rfl
  cases hdev : (output (VcChannel.init k node)).dev with
  | none =>
    rw [Output.Settled, Output.settle_none hdev]
    exact ⟨rfl, rfl⟩
  | some api =>
    rw [Output.Settled, Output.settle_some hdev, Output.write, hcommand]
    have hcode : HwCommand.off.code = (output (VcChannel.init k node)).dacCode := rfl
    refine ⟨?_, ?_⟩
    · cases api.setOutput <;> cases api.setEnable <;> rfl
    · cases api.setOutput with
      | none => rfl
      | some takes => simp [hcode]

/-- In every run whose operations leave no stage on behind the state, another `apply_hw` would
change nothing on any channel, in any state. -/
theorem hardware_mirrors (k : Kconfig) (nodes : List Node) (store : σ) (ops : List (PublicOp σ))
    (hops : Along (PublicOp.step k) (KeepsMirror k) (VcController.init k nodes store) ops) :
    ∀ ch ∈ (exec (PublicOp.step k) (VcController.init k nodes store) ops).channels,
      Mirrored ch := by
  have hcall : ∀ ch op, (output ch).Settled → keepsMirror ch op →
      (output (op.step k ch)).Settled := fun ch op => mirror_step
  have hrun := publicRun_invariant (settled_init k) hcall hops
  exact fun ch hch => mirrored_of_settled (hrun ch hch)

/-- A trip that ramps down, its CLEAR_ACTIVE, and a DISABLE_IMMEDIATE after that. -/
theorem hardware_mirrors_example :
    let ops : List (PublicOp Unit) :=
      [.controller (.channelSetField 0 .configuredTargetVoltage 300),
        .controller (.channelSetField 0 .currentProtectionMode 2),
        .controller (.channelSetField 0 .currentProtOutAction 2),
        .controller (.channelSetField 0 .currentLimitThreshold 100),
        .controller (.channelOutputAction 0 .enable), .controller (.tick 5000),
        .controller (.publishCurrent 0 200000000 1), .controller (.tick 1000),
        .controller (.publishCurrent 0 0 2), .controller (.tick 1000), .controller (.tick 1000),
        .controller (.channelFaultCommand 0 .clearActive),
        .controller (.channelOutputAction 0 .disableImmediate)]
    ∀ ch ∈ (exec (PublicOp.step Kconfig.hvb)
        (VcController.init Kconfig.hvb [dacNode] ()) ops).channels, Mirrored ch :=
  hardware_mirrors Kconfig.hvb [dacNode] () _ (by decide +kernel)

/-- A current trip with the default action leaves the output stage on in FAULT_LATCHED, where
`apply_hw` switches it off. -/
theorem hardware_not_mirrored :
    ¬ ∀ ops : List (PublicOp Unit), ∀ ch ∈ (exec (PublicOp.step Kconfig.hvb)
        (VcController.init Kconfig.hvb [dacNode] ()) ops).channels, Mirrored ch := by
  intro h
  have hrun := h [.controller (.channelSetField 0 .configuredTargetVoltage 300),
    .controller (.channelSetField 0 .currentProtectionMode 2),
    .controller (.channelSetField 0 .currentLimitThreshold 100),
    .controller (.channelOutputAction 0 .enable), .controller (.tick 5000),
    .controller (.publishCurrent 0 200000000 1), .controller (.tick 1000)]
  revert hrun
  decide +kernel

end HwMirror
