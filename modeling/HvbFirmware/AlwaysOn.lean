import HvbFirmware.VcControllerRuns

/-!
# Channels that are locked on

A channel without an output enable refuses every disable. What else clears `output_enabled` is a
fault, a trip and a calibration reset; the end of a ramp does it only for a graceful disable, which
such a channel never starts.
-/
namespace AlwaysOn

open VcTypes VcChannel VcController Runs

variable {σ : Type}

/-- The calls that switch off a channel that is locked on. -/
def switchesOff (ch : Channel) : ChannelOp → Bool
  | .consumeFault _ => true
  | .resetCalibration _ => true
  | op => tripsOn ch op

/-- A channel without an output enable, and no ramp that ends with the output off. -/
structure Locked (d : Drive) : Prop where
  noEnable : d.hasCap capOutputEnable = false
  noDisable : d.rampToDisable = false

theorem Locked.finish {d : Drive} (h : Locked d) : Locked d.finish := by
  unfold Drive.finish
  rw [if_neg (by simp [h.noDisable])]
  exact ⟨h.noEnable, h.noDisable⟩

theorem Locked.finish_on {d : Drive} (h : Locked d) : d.finish.outputEnabled = d.outputEnabled := by
  unfold Drive.finish
  rw [if_neg (by simp [h.noDisable])]

theorem tripsOn_eq_false {ch : Channel} {op : ChannelOp} (h : switchesOff ch op = false) :
    tripsOn ch op = false := by
  cases op <;> first | exact h | rfl

/-- A call that does not switch off keeps the lock and what is on. -/
theorem locked_call {k : Kconfig} {ch : Channel} {op : ChannelOp} (h : Locked (drive ch))
    (hop : switchesOff ch op = false) :
    Locked (drive (op.step k ch)) ∧ (ch.outputEnabled → (op.step k ch).outputEnabled) := by
  have heff := step_effect k ch op
  have hcap : hasCap ch capOutputEnable = false := h.noEnable
  have htrip := tripsOn_eq_false hop
  show Locked (drive (op.step k ch)) ∧
    ((drive ch).outputEnabled → (drive (op.step k ch)).outputEnabled)
  generalize drive (op.step k ch) = d' at heff
  cases heff with
  | quiet => exact ⟨h, id⟩
  | enable => exact ⟨⟨h.noEnable, rfl⟩, fun _ => rfl⟩
  | graceful code hdac henable => simp [hcap] at henable
  | immediate code hdac henable => simp [hcap] at henable
  | force action code haction henable => simp [hcap] at henable
  | clearActive => exact ⟨⟨h.noEnable, h.noDisable⟩, id⟩
  | configure => exact ⟨⟨h.noEnable, h.noDisable⟩, id⟩
  | tripGraceful op code htripped => simp [htrip] at htripped
  | tripCleared op code smf htripped => simp [htrip] at htripped
  | tripOnly op code htripped => simp [htrip] at htripped
  | hold => exact ⟨h.finish, fun hon => h.finish_on.trans hon⟩
  | arrive dtMs code =>
    have hmoved : Locked { drive ch with operational := selectedTarget ch } :=
      ⟨h.noEnable, h.noDisable⟩
    exact ⟨⟨hmoved.finish.noEnable, hmoved.finish.noDisable⟩,
      fun hon => hmoved.finish_on.trans hon⟩
  | moving => exact ⟨⟨h.noEnable, h.noDisable⟩, id⟩
  | cooldown => exact ⟨⟨h.noEnable, h.noDisable⟩, id⟩
  | exhausted => exact ⟨⟨h.noEnable, h.noDisable⟩, id⟩
  | retry => exact ⟨⟨h.noEnable, h.noDisable⟩, fun _ => rfl⟩
  | fault => cases hop
  | calReset => cases hop
  | calOn => exact ⟨⟨h.noEnable, h.noDisable⟩, id⟩
  | calOff => exact ⟨⟨h.noEnable, h.noDisable⟩, id⟩
  | rawDac => exact ⟨⟨h.noEnable, h.noDisable⟩, id⟩

/-! ## Runs -/

def reportsFault (i : Nat) : ControllerOp σ → Bool
  | .consumeFault j _ => j = i
  | _ => false

/-- An operation that does not enter CALIBRATION, reports no fault on channel `i` and finds no
current sample there on which the protection trips. -/
def Undisturbed (k : Kconfig) (i : Nat) (ctrl : Controller σ) (op : ControllerOp σ) : Prop :=
  op.movesTo ctrl ≠ some .calibration ∧ reportsFault i op = false ∧
    ∀ ch ∈ ctrl.channels[i]?, Along (ChannelOp.step k) (fun ch c => tripsOn ch c = false) ch
      (op.channelOps k ctrl i ch)

instance (k : Kconfig) (i : Nat) (ctrl : Controller σ) (op : ControllerOp σ) :
    Decidable (Undisturbed k i ctrl op) := inferInstanceAs (Decidable (_ ∧ _ ∧ _))

/-- Outside CALIBRATION an undisturbed operation makes no call that switches off. -/
theorem along_notOff {k : Kconfig} {i : Nat} {ctrl : Controller σ} {op : ControllerOp σ}
    (hmode : ctrl.operatingMode ≠ .calibration) (hop : Undisturbed k i ctrl op) {ch : Channel}
    (hch : ch ∈ ctrl.channels[i]?) :
    Along (ChannelOp.step k) (fun ch c => switchesOff ch c = false) ch
      (op.channelOps k ctrl i ch) := by
  obtain ⟨hentry, hfault, htrip⟩ := hop
  have hcalls : ∀ c ∈ op.channelOps k ctrl i ch,
      ∀ ch : Channel, tripsOn ch c = false → switchesOff ch c = false := by
    intro c hc ch' htrip
    rcases mem_channelOps hc with ⟨mode, hmoves, hc⟩ | hc
    · have hnew : mode ≠ .calibration := by
        rintro rfl
        exact hentry hmoves
      rcases mem_transitionOps hc with ⟨entering, rfl⟩ | ⟨rfl, -⟩ | ⟨rfl, -⟩
      · simp [transitionOps, hmode, hnew] at hc
      · rfl
      · rfl
    · cases hc with
      | consumeFault cause => simp [reportsFault] at hfault
      | run dt c hmode hrun =>
        simp only [runOps, List.mem_cons, List.not_mem_nil, or_false] at hrun
        rcases hrun with rfl | rfl | rfl | rfl | rfl <;> exact htrip
      | _ => exact htrip
  exact ((htrip ch hch).and (along_of_forall hcalls ch)).mono fun _ _ h => h.2 h.1

/-- No session runs, and channel `i` is locked on. -/
structure LockedOn (i : Nat) (ctrl : Controller σ) : Prop where
  noSession : ctrl.operatingMode ≠ .calibration
  locked : ∀ ch ∈ ctrl.channels[i]?, Locked (drive ch)

theorem lockedOn_step {k : Kconfig} {i : Nat} {ctrl : Controller σ} {op : ControllerOp σ}
    (h : LockedOn i ctrl) (hop : Undisturbed k i ctrl op) :
    LockedOn i (op.step k ctrl) ∧
      ((∀ ch ∈ ctrl.channels[i]?, ch.outputEnabled) →
        ∀ ch ∈ (op.step k ctrl).channels[i]?, ch.outputEnabled) := by
  have hcalls : ∀ ch ∈ ctrl.channels[i]?,
      let ch' := exec (ChannelOp.step k) ch (op.channelOps k ctrl i ch)
      Locked (drive ch') ∧ (ch.outputEnabled → ch'.outputEnabled) := by
    intro ch hch
    exact exec_invariant (I := fun ch' => Locked (drive ch') ∧
        (ch.outputEnabled → ch'.outputEnabled))
      (fun ch' c hI hc => ⟨(locked_call hI.1 hc).1, fun hon => (locked_call hI.1 hc).2 (hI.2 hon)⟩)
      ⟨h.locked ch hch, id⟩ (along_notOff h.noSession hop hch)
  have hstep := getElem?_step k ctrl op i
  refine ⟨⟨?_, ?_⟩, ?_⟩
  · intro hmode
    rcases inCalibration_step hmode with hmoves | ⟨hmode, -⟩
    · exact hop.1 hmoves
    · exact h.noSession hmode
  · intro ch' hch'
    rw [hstep] at hch'
    obtain ⟨ch, hch, rfl⟩ := Option.map_eq_some_iff.mp hch'
    exact (hcalls ch hch).1
  · intro hon ch' hch'
    rw [hstep] at hch'
    obtain ⟨ch, hch, rfl⟩ := Option.map_eq_some_iff.mp hch'
    exact (hcalls ch hch).2 (hon ch hch)

theorem lockedOn_init (k : Kconfig) {nodes : List Node} {store : σ} {i : Nat} {node : Node}
    (hnode : nodes[i]? = some node)
    (hcap : node.capabilities &&& capOutputEnable ≠ capOutputEnable) :
    LockedOn i (VcController.init k nodes store) := by
  refine ⟨nofun, fun ch hch => ?_⟩
  have hch : (nodes.map (VcChannel.init k))[i]? = some ch := hch
  rw [List.getElem?_map, hnode] at hch
  obtain rfl := Option.some.inj hch
  exact ⟨beq_eq_false_iff_ne.mpr hcap, rfl⟩

/-- Without an entry of CALIBRATION, a fault report or a trip on the channel, nothing that the host
or the time does switches a channel without an output enable off. -/
theorem lockedOn_stays (k : Kconfig) (nodes : List Node) (store : σ) (i : Nat) (node : Node)
    (hnode : nodes[i]? = some node)
    (hcap : node.capabilities &&& capOutputEnable ≠ capOutputEnable)
    (before after : List (ControllerOp σ))
    (hops : Along (ControllerOp.step k) (Undisturbed k i) (VcController.init k nodes store)
      (before ++ after))
    (hon : ∀ ch ∈ (exec (ControllerOp.step k) (VcController.init k nodes store)
      before).channels[i]?, ch.outputEnabled) :
    ∀ ch ∈ (exec (ControllerOp.step k) (VcController.init k nodes store)
      (before ++ after)).channels[i]?, ch.outputEnabled := by
  obtain ⟨hbefore, hafter⟩ := along_append.mp hops
  have hlocked := exec_invariant (I := LockedOn i) (fun _ _ h hop => (lockedOn_step h hop).1)
    (lockedOn_init k hnode hcap) hbefore
  have hrun := exec_invariant
    (I := fun ctrl : Controller σ => LockedOn i ctrl ∧ ∀ ch ∈ ctrl.channels[i]?, ch.outputEnabled)
    (fun _ _ h hop => ⟨(lockedOn_step h.1 hop).1, (lockedOn_step h.1 hop).2 h.2⟩)
    ⟨hlocked, hon⟩ hafter
  rw [exec_append]
  exact hrun.2

/-- A fixed-voltage channel with measurements and no output enable. -/
def fixedNode : Node where
  capabilities := capVoltageMeasurement ||| capCurrentMeasurement
  dev := some ⟨none, true⟩
  hasMeas := true
  dtDefaults := none

/-- Switched on in AUTOMATIC, through a disable, a reset, a return to NORMAL and a tick. -/
theorem lockedOn_stays_example :
    let ctrl := exec (ControllerOp.step Kconfig.hvb) (VcController.init Kconfig.hvb [fixedNode] ())
      ([.setOperatingMode .automatic, .channelOutputAction 0 .enable, .tick 1000] ++
        [.channelOutputAction 0 .disableForce, .channelParamAction 0 .factoryReset,
          .setOperatingMode .normal, .tick 1000])
    ∀ ch ∈ ctrl.channels[0]?, ch.outputEnabled :=
  lockedOn_stays Kconfig.hvb [fixedNode] () 0 fixedNode rfl (by decide) _ _ (by decide +kernel)
    (by decide +kernel)

end AlwaysOn
