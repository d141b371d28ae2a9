import HvbFirmware.MbAdapter

/-!
# The communication configuration stays valid

An invalid configuration, or a record that differs from what the adapter reports for the next
boot, makes the board unreachable after a power cycle. No operation brings either about: every
change is checked first, saved next and copied last.
-/
namespace CommConfig

open RegCatalog ModbusRegister MbAdapter Runs

/-- All three copies are valid, and the record is the one of the next boot. -/
structure Intact (s : MbState) : Prop where
  created : s.created
  active : adapterConfigValid s.adapter.activeCfg
  boot : adapterConfigValid s.adapter.bootCfg
  stored : s.stored = some s.adapter.bootCfg

theorem adapterConfigValid_iff (cfg : MbAdapterConfig) :
    adapterConfigValid cfg ↔ 1 ≤ cfg.slaveAddress ∧ cfg.slaveAddress ≤ 247 ∧
      cfg.baudRateCode ≤ baudRate38400 := by
  obtain ⟨addr, code⟩ := cfg
  have hcode : (code = baudRate115200 ∨ code = baudRate9600 ∨ code = baudRate19200 ∨
      code = baudRate38400) ↔ code ≤ baudRate38400 := by
    unfold baudRate115200 baudRate9600 baudRate19200 baudRate38400
    grind
  unfold adapterConfigValid
  rw [decide_eq_true_eq, hcode]

/-- What an operation may do to an intact adapter: it stays intact, and without success the
server keeps its configuration. -/
structure Sound (s : MbState) (r : Ret × MbState) : Prop where
  intact : Intact r.2
  kept : r.1 ≠ .ok () → r.2.adapter.activeCfg = s.adapter.activeCfg

theorem Sound.refused {s : MbState} (h : Intact s) (e : Errno) : Sound s (.error e, s) :=
  ⟨h, fun _ => rfl⟩

/-! ## What the parts of an operation do -/

theorem save_cases (o : Outcomes) (cfg : MbAdapterConfig) (s : MbState) :
    (∃ e, adapterSaveConfig o cfg s = (.error e, s)) ∨
      adapterSaveConfig o cfg s = (.ok (), { s with stored := some cfg }) := by
  unfold adapterSaveConfig
  cases o.save with
  | error e => exact .inl ⟨e, rfl⟩
  | ok => exact .inr rfl

theorem load_cases (o : Outcomes) (s : MbState) :
    (∃ e, adapterLoadConfig o s = .error e) ∨
      ∃ cfg, s.stored = some cfg ∧ adapterLoadConfig o s = .ok cfg := by
  unfold adapterLoadConfig
  cases o.load with
  | error e => exact .inl ⟨e, rfl⟩
  | ok =>
    cases hstored : s.stored with
    | none => exact .inl ⟨.noEnt, rfl⟩
    | some cfg => exact .inr ⟨cfg, rfl, rfl⟩

/-- Restarting the server changes what it runs with and nothing stored; a start that fails
leaves the configuration too. -/
theorem apply_cases {s : MbState} (o : Outcomes) (cfg : MbAdapterConfig) (h : s.created) :
    ∃ server, (∃ e, modbusAdapterApplyConfig o cfg s = (.error e, { s with server := server })) ∨
      modbusAdapterApplyConfig o cfg s =
        (.ok (), { s with server := server, adapter.activeCfg := cfg }) := by
  unfold modbusAdapterApplyConfig modbusServerStart
  rw [if_neg (by simp [h])]
  cases hready : s.ifaceReady with
  | false => exact ⟨s.server, .inr rfl⟩
  | true =>
    cases o.start with
    | ok => exact ⟨_, .inr rfl⟩
    | error e => cases o.restart with
      | ok => exact ⟨_, .inl ⟨e, rfl⟩⟩
      | error e' => exact ⟨none, .inl ⟨e, rfl⟩⟩

theorem sound_apply {s : MbState} (o : Outcomes) {cfg : MbAdapterConfig} (h : Intact s)
    (hcfg : adapterConfigValid cfg) : Sound s (modbusAdapterApplyConfig o cfg s) := by
  obtain ⟨server, ⟨e, happly⟩ | happly⟩ := apply_cases o cfg h.created <;> rw [happly]
  · exact ⟨⟨h.created, h.active, h.boot, h.stored⟩, fun _ => rfl⟩
  · exact ⟨⟨h.created, hcfg, h.boot, h.stored⟩, fun hne => absurd rfl hne⟩

/-! ## Operations -/

theorem sound_setSlaveAddress {s : MbState} (o : Outcomes) (addr : UInt16) (h : Intact s) :
    Sound s (modbusAdapterSetSlaveAddress o addr s) := by
  unfold modbusAdapterSetSlaveAddress
  rw [if_neg (by simp [h.created])]
  split
  · exact .refused h _
  next hrange =>
    obtain ⟨hlow, hhigh⟩ := not_or.mp hrange
    obtain ⟨-, -, hcode⟩ := (adapterConfigValid_iff _).mp h.active
    exact sound_apply o h ((adapterConfigValid_iff _).mpr
      ⟨UInt16.not_lt.mp hlow, UInt16.not_lt.mp hhigh, hcode⟩)

theorem sound_setBaudRateCode {s : MbState} (o : Outcomes) (code : UInt16) (h : Intact s) :
    Sound s (modbusAdapterSetBaudRateCode o code s) := by
  unfold modbusAdapterSetBaudRateCode
  rw [if_neg (by simp [h.created])]
  split
  · exact .refused h _
  next hrange =>
    obtain ⟨hlow, hhigh, -⟩ := (adapterConfigValid_iff _).mp h.active
    exact sound_apply o h ((adapterConfigValid_iff _).mpr ⟨hlow, hhigh, UInt16.not_lt.mp hrange⟩)

theorem sound_configSave {s : MbState} (o : Outcomes) (h : Intact s) :
    Sound s (modbusAdapterConfigSave o s) := by
  unfold modbusAdapterConfigSave
  rw [if_neg (by simp [h.created])]
  rcases save_cases o s.adapter.activeCfg s with ⟨e, hsave⟩ | hsave <;> simp only [hsave]
  · exact .refused h e
  · exact ⟨⟨h.created, h.active, h.active, rfl⟩, fun _ => rfl⟩

/-- What is loaded is the configuration of the next boot already. -/
theorem sound_configLoad {s : MbState} (o : Outcomes) (h : Intact s) :
    Sound s (modbusAdapterConfigLoad o s) := by
  unfold modbusAdapterConfigLoad
  rw [if_neg (by simp [h.created])]
  rcases load_cases o s with ⟨e, hload⟩ | ⟨cfg, hstored, hload⟩ <;> simp only [hload]
  · exact .refused h e
  obtain rfl : s.adapter.bootCfg = cfg := Option.some.inj (h.stored.symm.trans hstored)
  rw [if_neg (by simp [h.boot])]
  obtain ⟨server, ⟨e, happly⟩ | happly⟩ := apply_cases o s.adapter.bootCfg h.created <;>
    simp only [happly]
  · exact ⟨⟨h.created, h.active, h.boot, h.stored⟩, fun _ => rfl⟩
  · exact ⟨⟨h.created, h.boot, h.boot, h.stored⟩, fun hne => absurd rfl hne⟩

theorem sound_configFactory {s : MbState} (b : MbBuild) (o : Outcomes) (h : Intact s) :
    Sound s (modbusAdapterConfigFactory b o s) := by
  have hdefault := adapterConfigValid_default b
  unfold modbusAdapterConfigFactory
  rw [if_neg (by simp [h.created])]
  rcases save_cases o (adapterDefaultConfig b) s with ⟨e, hsave⟩ | hsave <;> simp only [hsave]
  · exact .refused h e
  · have hsaved : Intact { s with
        stored := some (adapterDefaultConfig b), adapter.bootCfg := adapterDefaultConfig b } :=
      ⟨h.created, h.active, hdefault, rfl⟩
    have happly := sound_apply o hsaved hdefault
    exact ⟨happly.intact, happly.kept⟩

theorem sound_writeNextBootField {s : MbState} (o : Outcomes) (field value : UInt16)
    (h : Intact s) : Sound s (adapterWriteNextBootField o field value s) := by
  unfold adapterWriteNextBootField
  rw [if_neg (by simp [h.created])]
  cases nextBootCandidate field value s.adapter.bootCfg with
  | none => exact .refused h _
  | some candidate =>
    cases hvalid : adapterConfigValid candidate with
    | false =>
      simp only [hvalid]
      exact .refused h _
    | true =>
      simp only [hvalid]
      rcases save_cases o candidate s with ⟨e, hsave⟩ | hsave <;> simp only [hsave]
      · exact .refused h e
      · exact ⟨⟨h.created, h.active, hvalid, rfl⟩, fun _ => rfl⟩

/-- The adapter's half of a Param Action leaves the running configuration, whatever it answers. -/
theorem intact_paramAction {s : MbState} (b : MbBuild) (o : Outcomes) (val : UInt16)
    (h : Intact s) :
    Intact (adapterParamAction b o val s).2 ∧
      (adapterParamAction b o val s).2.adapter.activeCfg = s.adapter.activeCfg := by
  unfold adapterParamAction
  split
  · rcases load_cases o s with ⟨e, hload⟩ | ⟨cfg, hstored, hload⟩ <;> simp only [hload]
    · exact ⟨h, trivial⟩
    obtain rfl : s.adapter.bootCfg = cfg := Option.some.inj (h.stored.symm.trans hstored)
    rw [if_neg (by simp [h.boot])]
    exact ⟨h, rfl⟩
  split
  · rcases save_cases o (adapterDefaultConfig b) s with ⟨e, hsave⟩ | hsave <;> simp only [hsave]
    · exact ⟨h, trivial⟩
    · exact ⟨⟨h.created, h.active, adapterConfigValid_default b, rfl⟩, trivial⟩
  · exact ⟨h, rfl⟩

/-! ## Runs -/

/-- A write of a register of the adapter, or a system Param Action whose other half answers
`written`; each with the outcomes of the calls it makes. -/
inductive MbOp where
  | regWrite (o : Outcomes) (field value : UInt16)
  | paramAction (o : Outcomes) (reset written : RegStatus) (val : UInt16)

/-- Whether the operation succeeds, and the state after it. -/
def MbOp.call (b : MbBuild) (s : MbState) : MbOp → Bool × MbState
  | .regWrite o field value =>
    let r := modbusRegWrite b o field value s
    (r.1 = .ok, r.2)
  | .paramAction o reset written val =>
    let r := handleSysParamAction b o reset (fun () => (written, ())) val s ()
    (r.1 = .ok, r.2.1)

def MbOp.step (b : MbBuild) (s : MbState) (op : MbOp) : MbState := (op.call b s).2

theorem errnoToRegStatus_eq_ok (r : Ret) : errnoToRegStatus r = .ok ↔ r = .ok () := by
  rcases r with e | ⟨⟩
  · cases e <;> simp [errnoToRegStatus]
  · simp [errnoToRegStatus]

/-- One operation: the adapter stays intact, and a failure leaves the running configuration. -/
theorem intact_call {s : MbState} (b : MbBuild) (op : MbOp) (h : Intact s) :
    Intact (op.call b s).2 ∧
      ((op.call b s).1 = false → (op.call b s).2.adapter.activeCfg = s.adapter.activeCfg) := by
  have hanswer : ∀ {r : Ret × MbState}, Sound s r → Intact r.2 ∧
      (decide (errnoToRegStatus r.1 = .ok) = false →
        r.2.adapter.activeCfg = s.adapter.activeCfg) := by
    intro r hr
    refine ⟨hr.intact, fun hfail => hr.kept ?_⟩
    rwa [decide_eq_false_iff_not, errnoToRegStatus_eq_ok] at hfail
  cases op with
  | regWrite o field value =>
    simp only [MbOp.call, modbusRegWrite]
    split
    · exact hanswer (sound_setSlaveAddress o value h)
    split
    · exact hanswer (sound_setBaudRateCode o value h)
    split
    · exact hanswer (sound_writeNextBootField o field value h)
    split
    · split
      · exact hanswer (sound_configSave o h)
      · exact ⟨h, fun _ => rfl⟩
    split
    · split
      · exact hanswer (sound_configLoad o h)
      · exact ⟨h, fun _ => rfl⟩
    split
    · split
      · exact hanswer (sound_configFactory b o h)
      · exact ⟨h, fun _ => rfl⟩
    · exact ⟨h, fun _ => rfl⟩
  | paramAction o reset written val =>
    obtain ⟨hintact, hactive⟩ := intact_paramAction b o val h
    simp only [MbOp.call, handleSysParamAction]
    split
    · exact ⟨h, fun _ => rfl⟩
    · split <;> exact ⟨hintact, fun _ => hactive⟩

theorem intact_saveDefaults {b : MbBuild} {o : Outcomes} {s : MbState} (hcreated : s.created)
    (h : (saveDefaults b o s).1) : Intact (saveDefaults b o s).2 := by
  have hdefault := adapterConfigValid_default b
  unfold saveDefaults at h ⊢
  dsimp only at h ⊢
  rcases save_cases o (adapterDefaultConfig b) { s with adapter.bootCfg := adapterDefaultConfig b }
    with ⟨e, hsave⟩ | hsave <;> simp only [hsave] at h ⊢
  · cases h
  · exact ⟨hcreated, hdefault, hdefault, rfl⟩

/-- A boot takes the record if it is valid and else saves the defaults. -/
theorem intact_create {b : MbBuild} {o : Outcomes} {s : MbState}
    (h : (vcMbAdapterCreate b o s).1) : Intact (vcMbAdapterCreate b o s).2 := by
  unfold vcMbAdapterCreate at h ⊢
  dsimp only at h ⊢
  rcases load_cases o { s with created := true } with ⟨e, hload⟩ | ⟨cfg, hstored, hload⟩ <;>
    simp only [hload] at h ⊢
  · exact intact_saveDefaults rfl h
  · cases hvalid : adapterConfigValid cfg with
    | false =>
      simp only [hvalid] at h ⊢
      exact intact_saveDefaults rfl h
    | true => exact ⟨rfl, hvalid, hvalid, hstored⟩

/-- A successful start of the server finds the same. -/
theorem intact_init {b : MbBuild} {o : Outcomes} {s : MbState}
    (h : (modbusAdapterInit b o s).1 = .ok ()) : Intact (modbusAdapterInit b o s).2 := by
  unfold modbusAdapterInit at h ⊢
  dsimp only at h ⊢
  cases hcreate : (vcMbAdapterCreate b o s).1 with
  | false => simp [hcreate] at h
  | true =>
    obtain ⟨hcreated, hactive, hboot, hstored⟩ := intact_create hcreate
    simp only [hcreate] at h ⊢
    cases o.iface with
    | error e => exact ⟨hcreated, hactive, hboot, hstored⟩
    | ok =>
      unfold modbusServerStart
      cases o.start <;> exact ⟨hcreated, hactive, hboot, hstored⟩

theorem intact_step (b : MbBuild) (s : MbState) (op : MbOp) (h : Intact s) :
    Intact (MbOp.step b s op) := (intact_call b op h).1

theorem intact_exec (b : MbBuild) {s : MbState} (h : Intact s) (ops : List MbOp) :
    Intact (exec (MbOp.step b) s ops) :=
  exec_invariant (Q := fun _ _ => True) (fun s op h _ => intact_step b s op h) h
    (along_of_forall (by simp) s)

/-- After a successful creation every run of register writes and Param Actions, whatever fails in
it, keeps all copies valid and the record equal to the configuration of the next boot, and no
failing operation changes the running configuration. -/
theorem config_intact (b : MbBuild) (o : Outcomes) (s : MbState)
    (hcreate : (vcMbAdapterCreate b o s).1) (ops : List MbOp) :
    let start := (vcMbAdapterCreate b o s).2
    Intact (exec (MbOp.step b) start ops) ∧
      Along (MbOp.step b) (fun s op => (op.call b s).1 = false →
        (op.call b s).2.adapter.activeCfg = s.adapter.activeCfg) start ops := by
  intro start
  have hstart : Intact start := intact_create hcreate
  refine ⟨intact_exec b hstart ops, Along.of_invariant (Q := fun _ _ => True)
    (fun s op h _ => intact_step b s op h) (fun s op h _ => (intact_call b op h).2) hstart ?_⟩
  exact along_of_forall (by simp) _

/-- A board that has never been configured, a server that fails to start and a save that fails. -/
theorem config_intact_example :
    let b : MbBuild := ⟨1, 115200, by decide, by decide⟩
    let start := (vcMbAdapterCreate b .fine ⟨⟨⟨0, 0⟩, ⟨0, 0⟩⟩, false, true, none, none⟩).2
    let ops : List MbOp := [.regWrite .fine 0x0101 300,
      .regWrite { Outcomes.fine with start := .error (.other 5) } 0x0101 17,
      .regWrite .fine 0x0103 17, .paramAction .fine .ok .ioError 1,
      .regWrite { Outcomes.fine with save := .error (.other 28) } 0x0203 1,
      .paramAction .fine .ok .invalidValue 3]
    Intact (exec (MbOp.step b) start ops) ∧
      Along (MbOp.step b) (fun s op => (op.call b s).1 = false →
        (op.call b s).2.adapter.activeCfg = s.adapter.activeCfg) start ops :=
  config_intact ⟨1, 115200, by decide, by decide⟩ .fine
    ⟨⟨⟨0, 0⟩, ⟨0, 0⟩⟩, false, true, none, none⟩ (by decide) _

end CommConfig
