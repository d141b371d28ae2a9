import HvbFirmware.PsbBoardSession

/-!
# What a status read has refreshed

`readChannelStatus` answers whether its read succeeded. The bus is watched for the transactions of
the call, and the fields of the structure are looked for in what came back.
-/
namespace StatusRead

open VcTypes PsbBoardSession

variable {β : Type}

/-! ## The transactions of a call -/

/-- One request on the bus, with the registers that came back. -/
structure Transaction where
  slaveId : Int
  addr : UInt16
  count : Nat
  reply : Option (Vector UInt16 count)

/-- What came back for a register. -/
def Transaction.word (t : Transaction) (addr : UInt16) : Option UInt16 :=
  t.reply.bind fun regs => regs[(addr - t.addr).toNat]?

def recorded (b : Bus β) : Bus (β × List Transaction) where
  isConnected bus := b.isConnected bus.1
  lastError bus := b.lastError bus.1
  readInputRegs bus slaveId addr count timeoutOverrideMs :=
    match b.readInputRegs bus.1 slaveId addr count timeoutOverrideMs with
    | (reply, next) => (reply, next, bus.2 ++ [⟨slaveId, addr, count, reply⟩])

/-- The session, with nothing recorded yet. -/
def recording (s : Session β) : Session (β × List Transaction) :=
  ⟨s.bus.map (·, []), s.slaveId, s.errorText⟩

def transactions (s : Session (β × List Transaction)) : List Transaction :=
  (s.bus.map Prod.snd).getD []

def unrecorded (s : Session (β × List Transaction)) : Session β :=
  ⟨s.bus.map Prod.fst, s.slaveId, s.errorText⟩

@[simp] theorem unrecorded_recording (s : Session β) : unrecorded (recording s) = s := by
  obtain ⟨bus, slaveId, errorText⟩ := s
  cases bus <;> rfl

@[simp] theorem transactions_recording (s : Session β) : transactions (recording s) = [] := by
  obtain ⟨bus, slaveId, errorText⟩ := s
  cases bus <;> rfl

/-! ## One read -/

/-- Recording changes nothing that a read answers. -/
theorem read_recorded (b : Bus β) (s : Session (β × List Transaction)) (addr : UInt16)
    (count : Nat) (timeout : Int) :
    readRegsInternal b (unrecorded s) addr count timeout =
      ((readRegsInternal (recorded b) s addr count timeout).1,
        unrecorded (readRegsInternal (recorded b) s addr count timeout).2) := by
  obtain ⟨bus, slaveId, errorText⟩ := s
  cases bus with
  | none => rfl
  | some bus =>
    by_cases hc : b.isConnected bus.1
    · rcases hread : b.readInputRegs bus.1 slaveId addr count timeout with ⟨_ | regs, next⟩ <;>
        simp [readRegsInternal, checkConnected, unrecorded, recorded, Option.filter_some, hc, hread]
    · simp [readRegsInternal, checkConnected, unrecorded, recorded, Option.filter_some, hc]

/-- A read makes at most one transaction, and one that succeeds makes it. -/
theorem transactions_read (b : Bus β) (s : Session (β × List Transaction)) (addr : UInt16)
    (count : Nat) (timeout : Int) :
    ∃ asked, transactions (readRegsInternal (recorded b) s addr count timeout).2 =
        transactions s ++ asked ∧
      (∀ t ∈ asked, t = ⟨s.slaveId, addr, count,
        (readRegsInternal (recorded b) s addr count timeout).1⟩) ∧
      ((readRegsInternal (recorded b) s addr count timeout).1.isSome → asked ≠ []) := by
  obtain ⟨bus, slaveId, errorText⟩ := s
  cases bus with
  | none => exact ⟨[], rfl, by simp, by simp [readRegsInternal, checkConnected]⟩
  | some bus =>
    by_cases hc : b.isConnected bus.1
    · rcases hread : b.readInputRegs bus.1 slaveId addr count timeout with ⟨reply, next⟩
      refine ⟨[⟨slaveId, addr, count, reply⟩], ?_⟩
      cases reply <;>
        simp [readRegsInternal, checkConnected, transactions, recorded, Option.filter_some, hc,
          hread]
    · refine ⟨[], ?_⟩
      simp [readRegsInternal, checkConnected, transactions, recorded, Option.filter_some, hc]

@[simp] theorem slaveId_read (b : Bus β) (s : Session β) (addr : UInt16) (count : Nat)
    (timeout : Int) : (readRegsInternal b s addr count timeout).2.slaveId = s.slaveId := by
  rw [readRegsInternal, checkConnected]
  cases s.bus.filter b.isConnected with
  | none => rfl
  | some bus =>
    rcases hread : b.readInputRegs bus s.slaveId addr count timeout with ⟨_ | regs, next⟩ <;>
      simp [hread]

/-! ## The status read -/

theorem readMeasurement_recorded (b : Bus β) (s : Session (β × List Transaction))
    (supported : Bool) (addr : UInt16) (timeout : Int) (info : ChannelInfo)
    (set : ChannelInfo → Int16 → ChannelInfo) :
    readMeasurement b (unrecorded s) supported addr timeout info set =
      ((readMeasurement (recorded b) s supported addr timeout info set).1,
        unrecorded (readMeasurement (recorded b) s supported addr timeout info set).2) := by
  cases supported with
  | false => rfl
  | true =>
    simp only [readMeasurement, if_true, read_recorded]
    rcases readRegsInternal (recorded b) s addr 1 timeout with ⟨_ | buf, s⟩ <;> rfl

/-- Recording changes nothing that the call answers. -/
theorem readChannelStatus_recorded (b : Bus β) (s : Session (β × List Transaction)) (ch : Int)
    (caps : UInt16) (info : ChannelInfo) (timeout : Int) :
    readChannelStatus b (unrecorded s) ch caps info timeout =
      ((readChannelStatus (recorded b) s ch caps info timeout).1,
        unrecorded (readChannelStatus (recorded b) s ch caps info timeout).2) := by
  simp only [readChannelStatus_eq, read_recorded]
  split
  · rcases readRegsInternal (recorded b) s (chAddr ch 0) 12 timeout with ⟨_ | buf, s⟩ <;> rfl
  · rcases readRegsInternal (recorded b) s (chAddr ch 0) 9 timeout with ⟨_ | buf, s⟩
    · rfl
    · simp only [readMeasurement_recorded]

/-! ## What has been refreshed -/

/-- A word that came back for the register, from the slave, is this one. -/
def Shows (slaveId : Int) (log : List Transaction) (addr : UInt16) (P : UInt16 → Prop) : Prop :=
  ∃ t ∈ log, t.slaveId = slaveId ∧ ∃ word ∈ t.word addr, P word

/-- The fields of the runtime state, each as a transaction of the call reports it. -/
structure RuntimeRefreshed (slaveId : Int) (log : List Transaction) (base caps : UInt16)
    (info : ChannelInfo) : Prop where
  status : Shows slaveId log base (info.status = ·)
  activeFault : Shows slaveId log (base + 1) (info.activeFault = ·)
  faultHistory : Shows slaveId log (base + 2) (info.faultHistory = ·)
  lastProtOutputAction : Shows slaveId log (base + 3) (info.lastProtOutputAction = ·)
  retryCount : Shows slaveId log (base + 4) (info.retryCount = ·.toNat)
  cooldownSec : Shows slaveId log (base + 5) (info.cooldownSec = ·.toNat)
  /-- Both halves are of one transaction. -/
  lastFaultTimestamp : ∃ t ∈ log, t.slaveId = slaveId ∧ ∃ hi ∈ t.word (base + 6),
    ∃ lo ∈ t.word (base + 7), info.lastFaultTimestamp = uint32FromRegs hi lo
  operationalTargetVoltage :
    Shows slaveId log (base + 8) (info.operationalTargetVoltageRaw = ·.toInt16)
  chCapFlags : info.chCapFlags = caps

/-- Every field that the capabilities support. -/
structure Refreshed (slaveId : Int) (log : List Transaction) (base caps : UInt16)
    (info : ChannelInfo) : Prop where
  runtime : RuntimeRefreshed slaveId log base caps info
  voltage : hasVoltage caps → Shows slaveId log (base + 10) (info.voltageRaw = ·.toInt16)
  current : hasCurrent caps → Shows slaveId log (base + 11) (info.currentRaw = ·.toInt16)

/-- What the bus does while the call runs. -/
def callTransactions (b : Bus β) (s : Session β) (ch : Int) (caps : UInt16) (info : ChannelInfo)
    (timeout : Int) : List Transaction :=
  transactions (readChannelStatus (recorded b) (recording s) ch caps info timeout).2

/-- True means refreshed from the transactions of this call, false means unchanged. -/
def AllOrNothing (b : Bus β) (s : Session β) (ch : Int) (caps : UInt16) (info : ChannelInfo)
    (timeout : Int) : Prop :=
  match (readChannelStatus b s ch caps info timeout).1 with
  | (true, info') =>
    Refreshed s.slaveId (callTransactions b s ch caps info timeout) (chAddr ch 0) caps info'
  | (false, info') => info' = info

/-- The channel measures one quantity only, and the bus answers for the runtime state and then not
for the measurement. -/
def LosesMeasurement (b : Bus β) (s : Session β) (ch : Int) (caps : UInt16) (timeout : Int) :
    Prop :=
  hasVoltage caps ≠ hasCurrent caps ∧
    let (state, s) := readRegsInternal b s (chAddr ch 0) 9 timeout
    let offset := if hasVoltage caps then 10 else 11
    state.isSome ∧ (readRegsInternal b s (chAddr ch 0 + offset) 1 timeout).1 = none

/-! ## Looking a field up -/

/-- An offset into the block of a transaction that succeeded. -/
theorem word_block {slaveId : Int} {base : UInt16} {count : Nat} (regs : Vector UInt16 count)
    (off : UInt16) (hoff : off.toNat < count) :
    (⟨slaveId, base, count, some regs⟩ : Transaction).word (base + off) =
      some regs[off.toNat] := by
  have hsub : base + off - base = off := by grind
  simp [Transaction.word, hsub, hoff]

theorem word_beyond {slaveId : Int} {base : UInt16} {count : Nat}
    (reply : Option (Vector UInt16 count)) (off : UInt16) (hoff : count ≤ off.toNat) :
    (⟨slaveId, base, count, reply⟩ : Transaction).word (base + off) = none := by
  have hsub : base + off - base = off := by grind
  cases reply with
  | none => rfl
  | some regs => simp [Transaction.word, hsub, hoff]

theorem runtimeRefreshed {slaveId : Int} {log : List Transaction} {base caps : UInt16} {n : Nat}
    {buf : Vector UInt16 n} (info : ChannelInfo) (h : 9 ≤ n)
    (ht : ⟨slaveId, base, n, some buf⟩ ∈ log) :
    RuntimeRefreshed slaveId log base caps (info.withRuntimeState caps buf h) := by
  have hshows : ∀ (off : UInt16) (hoff : off.toNat < n) (P : UInt16 → Prop), P buf[off.toNat] →
      Shows slaveId log (base + off) P :=
    fun off hoff P hP => ⟨_, ht, rfl, _, word_block buf off hoff, hP⟩
  have hbase : Shows slaveId log (base + 0) ((info.withRuntimeState caps buf h).status = ·) :=
    hshows 0 (by simp; omega) _ rfl
  exact {
    status := by simpa using hbase
    activeFault := hshows 1 (by simp; omega) _ rfl
    faultHistory := hshows 2 (by simp; omega) _ rfl
    lastProtOutputAction := hshows 3 (by simp; omega) _ rfl
    retryCount := hshows 4 (by simp; omega) _ rfl
    cooldownSec := hshows 5 (by simp; omega) _ rfl
    lastFaultTimestamp := ⟨_, ht, rfl, _, word_block buf 6 (by simp; omega), _,
      word_block buf 7 (by simp; omega), rfl⟩
    operationalTargetVoltage := hshows 8 (by simp; omega) _ rfl
    chCapFlags := rfl }

/-! ## The reads in turn -/

section Reads

variable {b : Bus β} {s s' : Session (β × List Transaction)} {addr : UInt16} {count : Nat}
  {timeout : Int}

theorem read_slave {reply : Option (Vector UInt16 count)}
    (hread : readRegsInternal (recorded b) s addr count timeout = (reply, s')) :
    s'.slaveId = s.slaveId := by
  have h := slaveId_read (recorded b) s addr count timeout
  rwa [hread] at h

theorem read_mem {buf : Vector UInt16 count}
    (hread : readRegsInternal (recorded b) s addr count timeout = (some buf, s')) :
    ⟨s.slaveId, addr, count, some buf⟩ ∈ transactions s' := by
  obtain ⟨asked, hlog, hasked, hsome⟩ := transactions_read b s addr count timeout
  rw [hread] at hlog hasked hsome
  obtain ⟨t, ht⟩ := List.exists_mem_of_ne_nil asked (hsome rfl)
  rw [hlog]
  exact List.mem_append_right _ (hasked t ht ▸ ht)

theorem read_mono {reply : Option (Vector UInt16 count)}
    (hread : readRegsInternal (recorded b) s addr count timeout = (reply, s')) :
    ∀ t ∈ transactions s, t ∈ transactions s' := by
  obtain ⟨asked, hlog, -, -⟩ := transactions_read b s addr count timeout
  rw [hread] at hlog
  rw [hlog]
  exact fun t ht => List.mem_append_left _ ht

theorem read_log {reply : Option (Vector UInt16 count)}
    (hread : readRegsInternal (recorded b) s addr count timeout = (reply, s')) :
    ∀ t ∈ transactions s', t ∈ transactions s ∨ t = ⟨s.slaveId, addr, count, reply⟩ := by
  obtain ⟨asked, hlog, hasked, -⟩ := transactions_read b s addr count timeout
  rw [hread] at hlog hasked
  rw [hlog]
  intro t ht
  exact (List.mem_append.mp ht).imp id (hasked t)

end Reads

/-- One measurement after the runtime state: refreshed when its transaction succeeds, and out of
sight when it does not. -/
theorem measurement_shows {b : Bus β} {s₀ s s' : Session (β × List Transaction)} {base off : UInt16}
    {timeout : Int} {state : Option (Vector UInt16 9)} {reply : Option (Vector UInt16 1)}
    (hs : transactions s₀ = [])
    (hstate : readRegsInternal (recorded b) s₀ base 9 timeout = (state, s))
    (hread : readRegsInternal (recorded b) s (base + off) 1 timeout = (reply, s'))
    (hoff : 9 ≤ off.toNat) (P : UInt16 → Prop) (hP : ∀ buf ∈ reply, P buf[0]) :
    Shows s₀.slaveId (transactions s') (base + off) P ↔ reply.isSome := by
  constructor
  · rintro ⟨t, ht, -, word, hword, -⟩
    rcases read_log hread t ht with hmem | rfl
    · rcases read_log hstate t hmem with hmem | rfl
      · simp [hs] at hmem
      · simp [word_beyond state off hoff] at hword
    · cases reply with
      | none => simp [Transaction.word] at hword
      | some buf => rfl
  · intro hsome
    obtain ⟨buf, rfl⟩ := Option.isSome_iff_exists.mp hsome
    refine ⟨_, read_mem hread, read_slave hstate, buf[0], ?_, hP buf rfl⟩
    simpa using @word_block _ (base + off) _ buf 0 (by simp)

theorem losesMeasurement_unrecorded (b : Bus β) (s : Session (β × List Transaction)) (ch : Int)
    (caps : UInt16) (timeout : Int) : LosesMeasurement b (unrecorded s) ch caps timeout ↔
      LosesMeasurement (recorded b) s ch caps timeout := by
  simp only [LosesMeasurement, read_recorded]

theorem readChannelStatus_allOrNothing (b : Bus β) (s : Session β) (ch : Int) (caps : UInt16)
    (info : ChannelInfo) (timeout : Int) :
    AllOrNothing b s ch caps info timeout ↔ ¬ LosesMeasurement b s ch caps timeout := by
  have hloses := losesMeasurement_unrecorded b (recording s) ch caps timeout
  have hcall := readChannelStatus_recorded b (recording s) ch caps info timeout
  rw [unrecorded_recording] at hloses hcall
  rw [hloses, AllOrNothing, callTransactions, hcall, readChannelStatus_eq, LosesMeasurement]
  have hs := transactions_recording s
  have hslave : (recording s).slaveId = s.slaveId := rfl
  generalize recording s = s₀ at *
  by_cases hboth : hasVoltage caps ∧ hasCurrent caps
  · -- one transaction for everything
    rw [if_pos hboth]
    rcases hread : readRegsInternal (recorded b) s₀ (chAddr ch 0) 12 timeout with ⟨_ | buf, s'⟩
    · simp [hboth]
    · have hmem := hslave ▸ read_mem hread
      have hruntime : RuntimeRefreshed _ _ _ caps _ := runtimeRefreshed info (by decide) hmem
      simp only [hboth, ne_eq, not_true_eq_false, false_and, not_false_eq_true, iff_true]
      exact {
        runtime := { hruntime with }
        voltage := fun _ => ⟨_, hmem, rfl, _, word_block buf 10 (by decide), rfl⟩
        current := fun _ => ⟨_, hmem, rfl, _, word_block buf 11 (by decide), rfl⟩ }
  · rw [if_neg hboth]
    rcases hstate : readRegsInternal (recorded b) s₀ (chAddr ch 0) 9 timeout with ⟨_ | buf, s₁⟩
    · simp
    have hruntime : ∀ {log}, (∀ t ∈ transactions s₁, t ∈ log) →
        RuntimeRefreshed s.slaveId log (chAddr ch 0) caps
          (info.withRuntimeState caps buf (by decide)) :=
      fun hlog => runtimeRefreshed info (by decide) (hlog _ (hslave ▸ read_mem hstate))
    have hshows : ∀ {off : UInt16} {reply s'}, 9 ≤ off.toNat →
        readRegsInternal (recorded b) s₁ (chAddr ch 0 + off) 1 timeout = (reply, s') →
        ∀ P : UInt16 → Prop, (∀ m ∈ reply, P m[0]) →
        (Shows s.slaveId (transactions s') (chAddr ch 0 + off) P ↔ reply.isSome) :=
      fun hoff hread => hslave ▸ measurement_shows hs hstate hread hoff
    cases hV : hasVoltage caps <;> cases hI : hasCurrent caps
    · have hall : Refreshed s.slaveId (transactions s₁) (chAddr ch 0) caps
          (info.withRuntimeState caps buf (by decide)) :=
        ⟨hruntime fun _ => id, by simp [hV], by simp [hI]⟩
      simpa [readMeasurement] using hall
    · rcases hread : readRegsInternal (recorded b) s₁ (chAddr ch 0 + 11) 1 timeout with
        ⟨_ | m, s'⟩
      · have hnone : ¬ Refreshed s.slaveId (transactions s') (chAddr ch 0) caps
            (info.withRuntimeState caps buf (by decide)) := fun h => by
          simpa using (hshows (by decide) hread _ (by simp)).mp (h.current hI)
        simpa [readMeasurement, hread] using hnone
      · have hall : Refreshed s.slaveId (transactions s') (chAddr ch 0) caps
            { info.withRuntimeState caps buf (by decide) with currentRaw := m[0].toInt16 } :=
          ⟨{ hruntime (read_mono hread) with }, by simp [hV],
            fun _ => (hshows (by decide) hread _ (by simp)).mpr rfl⟩
        simpa [readMeasurement, hread] using hall
    · rcases hread : readRegsInternal (recorded b) s₁ (chAddr ch 0 + 10) 1 timeout with
        ⟨_ | m, s'⟩
      · have hnone : ¬ Refreshed s.slaveId (transactions s') (chAddr ch 0) caps
            (info.withRuntimeState caps buf (by decide)) := fun h => by
          simpa using (hshows (by decide) hread _ (by simp)).mp (h.voltage hV)
        simpa [readMeasurement, hread] using hnone
      · have hall : Refreshed s.slaveId (transactions s') (chAddr ch 0) caps
            { info.withRuntimeState caps buf (by decide) with voltageRaw := m[0].toInt16 } :=
          ⟨{ hruntime (read_mono hread) with },
            fun _ => (hshows (by decide) hread _ (by simp)).mpr rfl, by simp [hI]⟩
        simpa [readMeasurement, hread] using hall
    · exact absurd ⟨hV, hI⟩ hboth

/-- Nothing is behind the port. -/
def noPort : ModbusClientPort Unit := ⟨fun port _ _ _ _ => (.error "", port)⟩

/-- A board whose registers end after the runtime state of its first channel. -/
def shortBoard : Session (PsbSerialBus Unit) :=
  ⟨some ⟨none, false, "", 0, [(1, ⟨some fun _ => 7, 49⟩)]⟩, 1, ""⟩

/-- True, with the voltage of an earlier call. -/
theorem readChannelStatus_stale :
    ¬ AllOrNothing (serialBus noPort) shortBoard 0 capVoltageMeasurement {} (-1) := by
  intro h
  obtain ⟨t, ht, -, word, hword, -⟩ := Refreshed.voltage h (by decide)
  have hnone : ∀ t ∈ callTransactions (serialBus noPort) shortBoard 0 capVoltageMeasurement {} (-1),
      t.word (chAddr 0 0 + 10) = none := by decide +kernel
  simp [hnone t ht] at hword

end StatusRead
