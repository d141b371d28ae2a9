import HvbFirmware.Interaction
import HvbFirmware.PsbBoardSession

/-!
# The calls of the host tools

A function of `PsbBoardSession` is a program of the transactions that it makes, and a worker of a
tool is a program that also looks at its abort flag and emits signals. `answer` is what a session
answers over its bus.
-/
namespace HostSession

open VcTypes PsbBoardSession Interaction Program

/-! ## Transactions -/

inductive SessionCall where
  | checkConnected
  | readRegsInternal (holding : Bool) (addr : UInt16) (count : Nat) (timeoutOverrideMs : Int)
  | writeRegsInternal (addr : UInt16) (values : List UInt16) (timeoutOverrideMs : Int)
  | lastError
  deriving DecidableEq

abbrev SessionCall.Answer : SessionCall → Type
  | .checkConnected => Bool
  | .readRegsInternal _ _ count _ => Option (Vector UInt16 count)
  | .writeRegsInternal _ _ _ => Bool
  | .lastError => String

abbrev SessionProgram := Program SessionCall SessionCall.Answer

/-- The two banks of the bus, and its writes. -/
structure RegBus (β : Type) extends Bus β where
  readHoldingRegs : β → (slaveId : Int) → (addr : UInt16) → (count : Nat) →
    (timeoutOverrideMs : Int) → Option (Vector UInt16 count) × β
  writeRegs : β → (slaveId : Int) → (addr : UInt16) → (values : List UInt16) →
    (timeoutOverrideMs : Int) → Bool × β

variable {β : Type}

def readRegsInternal (b : RegBus β) (s : Session β) (holding : Bool) (addr : UInt16) (count : Nat)
    (timeoutOverrideMs : Int) : Option (Vector UInt16 count) × Session β :=
  match checkConnected b.toBus s with
  | (none, s) => (none, s)
  | (some bus, s) =>
    match if holding then b.readHoldingRegs bus s.slaveId addr count timeoutOverrideMs
      else b.readInputRegs bus s.slaveId addr count timeoutOverrideMs with
    | (some regs, bus) => (some regs, { s with bus := some bus })
    | (none, bus) => (none, { s with bus := some bus, errorText := b.lastError bus })

def writeRegsInternal (b : RegBus β) (s : Session β) (addr : UInt16) (values : List UInt16)
    (timeoutOverrideMs : Int) : Bool × Session β :=
  match checkConnected b.toBus s with
  | (none, s) => (false, s)
  | (some bus, s) =>
    match b.writeRegs bus s.slaveId addr values timeoutOverrideMs with
    | (true, bus) => (true, { s with bus := some bus })
    | (false, bus) => (false, { s with bus := some bus, errorText := b.lastError bus })

def answer (b : RegBus β) : (c : SessionCall) → Session β → c.Answer × Session β
  | .checkConnected, s =>
    let (bus, s) := checkConnected b.toBus s
    (bus.isSome, s)
  | .readRegsInternal holding addr count timeout, s =>
    readRegsInternal b s holding addr count timeout
  | .writeRegsInternal addr values timeout, s => writeRegsInternal b s addr values timeout
  | .lastError, s => (s.errorText, s)

/-- The two models of a read of the input bank agree. -/
theorem readRegsInternal_input (b : RegBus β) (s : Session β) (addr : UInt16) (count : Nat)
    (timeout : Int) : readRegsInternal b s false addr count timeout =
      PsbBoardSession.readRegsInternal b.toBus s addr count timeout := rfl

/-! ## The functions of the session -/

def normalTimeout : Int := -1

def readInputRegs (addr : UInt16) (count : Nat) :
    SessionProgram (Option (Vector UInt16 count)) :=
  ask (SessionCall.readRegsInternal false addr count normalTimeout)

def readHoldingRegs (addr : UInt16) (count : Nat) :
    SessionProgram (Option (Vector UInt16 count)) :=
  ask (SessionCall.readRegsInternal true addr count normalTimeout)

def writeReg16 (addr value : UInt16) : SessionProgram Bool :=
  ask (SessionCall.writeRegsInternal addr [value] normalTimeout)

def writeCalibrationOutputEnable (ch : Int) (enable : Bool) : SessionProgram Bool :=
  writeReg16 (chAddr ch 30) (if enable then 1 else 0)

def writeRawDacCode (ch : Int) (code : UInt16) : SessionProgram Bool :=
  writeReg16 (chAddr ch 31) code

/-- `kCalSampleTimeoutMs` -/
def calSampleTimeoutMs : Int := 2000

def sendCalibrationSampleCommand (ch : Int) : SessionProgram Bool :=
  ask (SessionCall.writeRegsInternal (chAddr ch 32) [1] calSampleTimeoutMs)

structure CalibrationSnapshot where
  rawAdcVoltage : Int32 := 0
  rawAdcCurrent : Int32 := 0
  outputEnabled : Bool := false
  rawDacCode : UInt16 := 0
  deriving DecidableEq

def int32FromRegs (hi lo : UInt16) : Int32 := (uint32FromRegs hi lo).toInt32

/-- The two raw values, as the input registers hold them. -/
def CalibrationSnapshot.ofRaw (buf : Vector UInt16 4) : CalibrationSnapshot :=
  { rawAdcVoltage := int32FromRegs buf[0] buf[1]
    rawAdcCurrent := int32FromRegs buf[2] buf[3] }

def readCalibrationSnapshot (ch : Int) : SessionProgram CalibrationSnapshot := do
  if !(← ask SessionCall.checkConnected) then
    return {}
  match ← readInputRegs (chAddr ch 12) 4 with
  | none => return {}
  | some ibuf =>
    let snap := CalibrationSnapshot.ofRaw ibuf
    match ← readHoldingRegs (chAddr ch 30) 4 with
    | none => return snap
    | some hbuf => return { snap with outputEnabled := hbuf[0] ≠ 0, rawDacCode := hbuf[1] }

def writeConfiguredTargetVoltage (ch : Int) (raw : Int16) : SessionProgram Bool :=
  writeReg16 (chAddr ch 3) raw.toUInt16

/-- The actions that a host may send. -/
inductive HostOutputAction where
  | none
  | enable
  | disableGraceful
  | disableImmediate
  deriving DecidableEq

def HostOutputAction.toUInt16 : HostOutputAction → UInt16
  | .none => 0
  | .enable => 1
  | .disableGraceful => 2
  | .disableImmediate => 3

def sendOutputAction (ch : Int) (action : HostOutputAction) : SessionProgram Bool :=
  writeReg16 (chAddr ch 0) action.toUInt16

/-! The runtime state fits into both blocks that are read for it. -/

theorem nine_le_nine : 9 ≤ 9 := Nat.le_refl 9

theorem nine_le_ten : 9 ≤ 10 := Nat.le_succ 9

/-- The first part of `readChannelInfo`: what is known of the channel, and of its capabilities. -/
def readRuntimeState (ch : Int) (caps : UInt16) (out : ChannelInfo) :
    SessionProgram (ChannelInfo × UInt16) := do
  if caps = 0 then
    match ← readInputRegs (chAddr ch 0) 10 with
    | some buf => return (out.withRuntimeState buf[9] buf nine_le_ten, buf[9])
    | none => return (out, out.chCapFlags)
  else
    match ← readInputRegs (chAddr ch 0) 9 with
    | some buf => return (out.withRuntimeState caps buf nine_le_nine, caps)
    | none => return (out, caps)

/-- One of the two measurements, on a channel that does not have both. -/
def readOneMeasurement (supported : Bool) (addr : UInt16) (out : ChannelInfo)
    (set : ChannelInfo → Int16 → ChannelInfo) : SessionProgram ChannelInfo := do
  if supported then
    match ← readInputRegs addr 1 with
    | some buf => return set out (buf.get 0).toInt16
    | none => return out
  else return out

def readMeasurements (ch : Int) (caps : UInt16) (out : ChannelInfo) :
    SessionProgram ChannelInfo := do
  if hasVoltage caps ∧ hasCurrent caps then
    match ← readInputRegs (chAddr ch 0 + 10) 2 with
    | some m => return { out with voltageRaw := m[0].toInt16, currentRaw := m[1].toInt16 }
    | none => return out
  else
    let out ← readOneMeasurement (hasVoltage caps) (chAddr ch 0 + 10) out
      fun out v => { out with voltageRaw := v }
    readOneMeasurement (hasCurrent caps) (chAddr ch 0 + 11) out
      fun out c => { out with currentRaw := c }

def readChannelInfoInto (ch : Int) (caps : UInt16) (out : ChannelInfo) :
    SessionProgram ChannelInfo := do
  if !(← ask SessionCall.checkConnected) then return out
  else
    let (out, caps) ← readRuntimeState ch caps out
    readMeasurements ch caps out

/-- A struct of defaults, and whatever could be read into it. -/
def readChannelInfo (ch : Int) (caps : UInt16) : SessionProgram ChannelInfo :=
  readChannelInfoInto ch caps {}

/-! ## Workers -/

inductive HostCall (σ : Type) where
  | session (c : SessionCall)
  | abortRequested
  | signal (s : σ)

abbrev HostCall.Answer {σ : Type} : HostCall σ → Type
  | .session c => c.Answer
  | .abortRequested => Bool
  | .signal _ => Unit

abbrev HostProgram (σ : Type) := Program (HostCall σ) HostCall.Answer

variable {σ α : Type}

def onSession (p : SessionProgram α) : HostProgram σ α := p.lift .session fun _ r => r

/-- `m_abort` -/
def abortRequested : HostProgram σ Bool := ask HostCall.abortRequested

def emitSignal (s : σ) : HostProgram σ Unit := ask (HostCall.signal s)

def lastError : HostProgram σ String := ask (HostCall.session .lastError)

/-! ## Their runs -/

abbrev HostEvent (σ : Type) := Event (HostCall σ) HostCall.Answer

variable {t : List (HostEvent σ)}

/-- `abort` sets `m_abort`, and only the start of a worker clears it. -/
def Sticky (t : List (HostEvent σ)) : Prop :=
  ∀ t₁ t₂, t = t₁ ++ ⟨.abortRequested, true⟩ :: t₂ → ⟨.abortRequested, false⟩ ∉ t₂

theorem sticky_of_noAbort (h : ⟨.abortRequested, true⟩ ∉ t) : Sticky t := by
  rintro t₁ t₂ rfl
  exact absurd (by simp) h

theorem Sticky.noAbort_of_noAbort {t' : List (HostEvent σ)} (h : Sticky (t ++ t'))
    (hlater : ⟨.abortRequested, false⟩ ∈ t') : ⟨.abortRequested, true⟩ ∉ t := by
  intro hmem
  obtain ⟨t₁, t₂, rfl⟩ := List.append_of_mem hmem
  exact h t₁ (t₂ ++ t') (by simp) (List.mem_append_right _ hlater)

@[simp] theorem run_writeReg16 {addr value : UInt16} {ok : Bool} :
    Run (onSession (writeReg16 addr value) : HostProgram σ Bool) t ok ↔
      t = [⟨.session (.writeRegsInternal addr [value] normalTimeout), ok⟩] :=
  run_ask

@[simp] theorem run_sendCalibrationSampleCommand {ch : Int} {ok : Bool} :
    Run (onSession (sendCalibrationSampleCommand ch) : HostProgram σ Bool) t ok ↔
      t = [⟨.session (.writeRegsInternal (chAddr ch 32) [1] calSampleTimeoutMs), ok⟩] :=
  run_ask

@[simp] theorem run_abortRequested {r : Bool} :
    Run (abortRequested : HostProgram σ Bool) t r ↔ t = [⟨.abortRequested, r⟩] :=
  run_ask

@[simp] theorem run_emitSignal {s : σ} : Run (emitSignal s) t () ↔ t = [⟨.signal s, ()⟩] :=
  run_ask

@[simp] theorem run_lastError {text : String} :
    Run (lastError : HostProgram σ String) t text ↔ t = [⟨.session .lastError, text⟩] :=
  run_ask

/-- A worker looks at its abort flag before it goes on. -/
theorem run_abortCheck {p : HostProgram σ α} {a r : α} :
    Run (do if ← abortRequested then return a else p) t r ↔
      (t = [⟨.abortRequested, true⟩] ∧ r = a) ∨
      ∃ t', t = ⟨.abortRequested, false⟩ :: t' ∧ Run p t' r := by
  constructor
  · intro h
    obtain ⟨aborted, t₁, rfl, h₁⟩ := run_call.mp h
    cases aborted with
    | true =>
      obtain ⟨rfl, rfl⟩ := run_ret.mp h₁
      exact .inl ⟨rfl, rfl⟩
    | false => exact .inr ⟨t₁, rfl, h₁⟩
  · rintro (⟨rfl, rfl⟩ | ⟨t', rfl, h⟩)
    · exact .call (.ret _)
    · exact .call h

theorem makes_abortCheck {P : HostCall σ → Prop} {p : HostProgram σ α} {a : α}
    (habort : P .abortRequested) (hp : p.Makes P) :
    Program.Makes P (do if ← abortRequested then return a else p) := by
  refine ⟨habort, fun aborted => ?_⟩
  cases aborted with
  | true => exact trivial
  | false => exact hp

/-- The raw values of a snapshot come from a read of the input bank, or are the zeros of a struct
that nothing was read into. -/
theorem run_readCalibrationSnapshot {ch : Int} {snap : CalibrationSnapshot}
    (h : Run (onSession (readCalibrationSnapshot ch) : HostProgram σ CalibrationSnapshot) t snap) :
    (t = [⟨.session .checkConnected, false⟩] ∧ snap = {}) ∨
    (t = [⟨.session .checkConnected, true⟩,
      ⟨.session (.readRegsInternal false (chAddr ch 12) 4 normalTimeout), none⟩] ∧ snap = {}) ∨
    ∃ ibuf hbuf, t = [⟨.session .checkConnected, true⟩,
      ⟨.session (.readRegsInternal false (chAddr ch 12) 4 normalTimeout), some ibuf⟩,
      ⟨.session (.readRegsInternal true (chAddr ch 30) 4 normalTimeout), hbuf⟩] ∧
      snap.rawAdcVoltage = (CalibrationSnapshot.ofRaw ibuf).rawAdcVoltage ∧
      snap.rawAdcCurrent = (CalibrationSnapshot.ofRaw ibuf).rawAdcCurrent := by
  simp only [onSession, readCalibrationSnapshot, readInputRegs, readHoldingRegs, ask_bind,
    lift_call, run_call] at h
  obtain ⟨connected, t₁, rfl, h₁⟩ := h
  cases connected with
  | false =>
    obtain ⟨rfl, rfl⟩ := run_ret.mp h₁
    exact .inl ⟨rfl, rfl⟩
  | true =>
  obtain ⟨iregs, t₂, rfl, h₂⟩ := run_call.mp h₁
  cases iregs with
  | none =>
    obtain ⟨rfl, rfl⟩ := run_ret.mp h₂
    exact .inr (.inl ⟨rfl, rfl⟩)
  | some ibuf =>
  obtain ⟨hregs, t₃, rfl, h₃⟩ := run_call.mp h₂
  refine .inr (.inr ⟨ibuf, hregs, ?_⟩)
  cases hregs with
  | none =>
    obtain ⟨rfl, rfl⟩ := run_ret.mp h₃
    exact ⟨rfl, rfl, rfl⟩
  | some hbuf =>
    obtain ⟨rfl, rfl⟩ := run_ret.mp h₃
    exact ⟨rfl, rfl, rfl⟩

/-- The state and the voltage in `ci` were read. -/
def VoltageRead (ch : Int) (t : List (HostEvent σ)) (ci : ChannelInfo) : Prop :=
  ∃ (status : Vector UInt16 10) (count : Nat) (regs : Vector UInt16 count) (h : 0 < count),
    ⟨.session (.readRegsInternal false (chAddr ch 0) 10 normalTimeout), some status⟩ ∈ t ∧
    ⟨.session (.readRegsInternal false (chAddr ch 0 + 10) count normalTimeout), some regs⟩ ∈ t ∧
    ci.activeFault = status[1] ∧ ci.voltageRaw = regs[0].toInt16

/-- No read fails, and the channels that are asked measure their voltage. -/
def answersVoltage : HostEvent σ → Prop
  | ⟨.session .checkConnected, connected⟩ => connected
  | ⟨.session (.readRegsInternal _ _ _ _), none⟩ => False
  | ⟨.session (.readRegsInternal _ _ 10 _), some status⟩ => hasVoltage status[9]
  | _ => True

theorem run_readOneMeasurement {supported : Bool} {addr : UInt16} {out ci : ChannelInfo}
    {set : ChannelInfo → Int16 → ChannelInfo}
    (h : Run (onSession (readOneMeasurement supported addr out set) : HostProgram σ ChannelInfo)
      t ci) :
    (supported = false ∧ t = [] ∧ ci = out) ∨
    (supported ∧ t = [⟨.session (.readRegsInternal false addr 1 normalTimeout), none⟩] ∧
      ci = out) ∨
    ∃ buf : Vector UInt16 1, supported ∧
      t = [⟨.session (.readRegsInternal false addr 1 normalTimeout), some buf⟩] ∧
      ci = set out (buf.get 0).toInt16 := by
  cases supported with
  | false =>
    obtain ⟨rfl, rfl⟩ := run_ret.mp h
    exact .inl ⟨rfl, rfl, rfl⟩
  | true =>
  obtain ⟨regs, t₁, rfl, h₁⟩ := run_call.mp h
  cases regs with
  | none =>
    obtain ⟨rfl, rfl⟩ := run_ret.mp h₁
    exact .inr (.inl ⟨rfl, rfl, rfl⟩)
  | some buf =>
    obtain ⟨rfl, rfl⟩ := run_ret.mp h₁
    exact .inr (.inr ⟨buf, rfl, rfl, rfl⟩)

/-- The voltage that comes back was read, or is the one that was there. -/
theorem run_readMeasurements {ch : Int} {caps : UInt16} {out ci : ChannelInfo}
    (h : Run (onSession (readMeasurements ch caps out) : HostProgram σ ChannelInfo) t ci) :
    ci.activeFault = out.activeFault ∧
    ((ci.voltageRaw = out.voltageRaw ∧ (hasVoltage caps → ¬ ∀ e ∈ t, answersVoltage e)) ∨
      ∃ (count : Nat) (regs : Vector UInt16 count) (_ : 0 < count),
        ⟨.session (.readRegsInternal false (chAddr ch 0 + 10) count normalTimeout), some regs⟩ ∈
          t ∧ ci.voltageRaw = regs[0].toInt16) := by
  unfold readMeasurements at h
  split at h
  next hboth =>
    obtain ⟨regs, t₁, rfl, h₁⟩ := run_call.mp h
    cases regs with
    | none =>
      obtain ⟨rfl, rfl⟩ := run_ret.mp h₁
      exact ⟨rfl, .inl ⟨rfl, fun _ hall => hall _ List.mem_cons_self⟩⟩
    | some m =>
      obtain ⟨rfl, rfl⟩ := run_ret.mp h₁
      exact ⟨rfl, .inr ⟨2, m, by decide, List.mem_cons_self, rfl⟩⟩
  next hnot =>
    rw [onSession, lift_bind] at h
    obtain ⟨mid, t₁, t₂, rfl, h₁, h₂⟩ := run_bind.mp h
    have hcurrent : ci.activeFault = mid.activeFault ∧ ci.voltageRaw = mid.voltageRaw := by
      rcases run_readOneMeasurement h₂ with ⟨-, -, rfl⟩ | ⟨-, -, rfl⟩ | ⟨_, -, -, rfl⟩ <;>
        exact ⟨rfl, rfl⟩
    rw [hcurrent.1, hcurrent.2]
    rcases run_readOneMeasurement h₁ with ⟨hno, rfl, rfl⟩ | ⟨-, rfl, rfl⟩ | ⟨buf, -, rfl, rfl⟩
    · exact ⟨rfl, .inl ⟨rfl, fun hv => by simp [hno] at hv⟩⟩
    · exact ⟨rfl, .inl ⟨rfl, fun _ hall => hall _ (List.mem_append_left _ List.mem_cons_self)⟩⟩
    · exact ⟨rfl, .inr ⟨1, buf, by decide, List.mem_append_left _ List.mem_cons_self, rfl⟩⟩

/-- A channel whose capabilities are not known yet. Either the voltage was read, and with it the
state, or it is the zero of the struct. -/
theorem run_readChannelInfo {ch : Int} {ci : ChannelInfo}
    (h : Run (onSession (readChannelInfo ch 0) : HostProgram σ ChannelInfo) t ci) :
    VoltageRead ch t ci ∨ (ci.voltageRaw = 0 ∧ ¬ ∀ e ∈ t, answersVoltage e) := by
  obtain ⟨connected, t₁, rfl, h₁⟩ := run_call.mp h
  cases connected with
  | false =>
    obtain ⟨rfl, rfl⟩ := run_ret.mp h₁
    exact .inr ⟨rfl, fun hall => absurd (hall _ List.mem_cons_self) Bool.false_ne_true⟩
  | true =>
  obtain ⟨regs, t₂, rfl, h₂⟩ := run_call.mp h₁
  cases regs with
  | none =>
    obtain ⟨-, rfl⟩ := run_ret.mp h₂
    exact .inr ⟨rfl, fun hall => hall _ (List.mem_cons_of_mem _ List.mem_cons_self)⟩
  | some status =>
  obtain ⟨hfault, ⟨hzero, hunread⟩ | ⟨count, regs, hpos, hmem, hvoltage⟩⟩ :=
    run_readMeasurements h₂
  · refine .inr ⟨hzero, fun hall => ?_⟩
    have hstatus : hasVoltage status[9] := hall _ (List.mem_cons_of_mem _ List.mem_cons_self)
    exact hunread hstatus fun e he =>
      hall e (List.mem_cons_of_mem _ (List.mem_cons_of_mem _ he))
  · exact .inl ⟨status, count, regs, hpos, List.mem_cons_of_mem _ List.mem_cons_self,
      List.mem_cons_of_mem _ (List.mem_cons_of_mem _ hmem), hfault, hvoltage⟩

end HostSession
