import HvbFirmware.RunningBoard
import HvbFirmware.SerialBus
import HvbFirmware.VcControllerRuns

/-!
# Boards on the line

The far end of the serial bus: boards by their slave addresses, whose firmware goes on between two
registers of a request, and a wire that loses requests and replies. A request of several registers
is served one register after another, and the first one refused ends it. Broadcasts are left out.
-/
namespace BoardLine

open VcTypes VcController MbServer ModbusRegister PsbBoardSession HostSession SerialBus Interaction
  Program Runs

universe u

variable {σ : Type} {μ : Type u}

/-- What happens on a board that no host asks for. -/
inductive BoardEvent where
  | tick (dtMs : UInt32)
  | publishVoltage (i : Nat) (raw : Int32) (timestampMs : UInt32)
  | publishCurrent (i : Nat) (raw : Int32) (timestampMs : UInt32)
  | consumeFault (i : Nat) (cause : UInt16)

def BoardEvent.op : BoardEvent → ControllerOp σ
  | .tick dtMs => .tick dtMs
  | .publishVoltage i raw ts => .publishVoltage i raw ts
  | .publishCurrent i raw ts => .publishCurrent i raw ts
  | .consumeFault i cause => .consumeFault i cause

/-- What precedes one register access, and what the board finds during it: the runtime is up. -/
structure Moment where
  events : List BoardEvent
  env : Env
  running : env.adm.running

inductive Fate where
  | served | requestLost | replyLost
  deriving DecidableEq

/-- The course of the world beside the host, by a clock that each register access moves on; `text`
is what the library says of a request that fails. -/
structure Schedule where
  moment : Nat → Moment
  fate : Nat → Fate
  text : Nat → String

/-- No request and no reply is lost. -/
def Schedule.Reliable (sch : Schedule) : Prop := ∀ n, sch.fate n = .served

structure Station (σ : Type) where
  bd : Board
  world : World σ

structure Line (σ : Type) where
  stations : UInt8 → Option (Station σ)
  clock : Nat

/-! ## Requests -/

/-- The board at the time of an access, the events before it done. -/
def Station.settle (st : Station σ) (m : Moment) : World σ :=
  { st.world with
    ctrl := Runs.exec (ControllerOp.step st.bd.k) st.world.ctrl (m.events.map BoardEvent.op) }

def Station.access {α : Type} (st : Station σ) (m : Moment)
    (f : Board → Env → World σ → α × World σ) : α × Station σ :=
  let r := f st.bd m.env (st.settle m)
  (r.1, { st with world := r.2 })

/-- One of the two register reads of the server. -/
abbrev RegRead (σ : Type) := Board → Env → World σ → UInt16 → Except MbResult UInt16 × World σ

def readMany (sch : Schedule) (rd : RegRead σ) (addr : UInt16) (clock : Nat) :
    (count : Nat) → Station σ → Option (Vector UInt16 count) × Station σ
  | 0, st => (some #v[], st)
  | n + 1, st =>
    match readMany sch rd addr clock n st with
    | (none, st) => (none, st)
    | (some regs, st) =>
      match st.access (sch.moment (clock + n))
          fun bd e w => rd bd e w (addr + UInt16.ofNat n) with
      | (.ok value, st) => (some (regs.push value), st)
      | (.error _, st) => (none, st)

def writeOne (sch : Schedule) (addr value : UInt16) (clock : Nat) (st : Station σ) :
    Option Unit × Station σ :=
  let r := st.access (sch.moment clock) fun bd e w => holdingWr bd e w addr value
  (if r.1 = .ok then some () else none, r.2)

/-- A request of one board over the wire: without a board under the address, or with the request
lost, nothing is served. -/
def Line.request {α : Type} (sch : Schedule) (line : Line σ) (unit : UInt8) (count : Nat)
    (serve : Station σ → Option α × Station σ) : Except String α × Line σ :=
  let clock := line.clock + count + 1
  match if sch.fate line.clock = .requestLost then none else line.stations unit with
  | none => (.error (sch.text line.clock), { line with clock := clock })
  | some st =>
    let r := serve st
    let line' : Line σ :=
      ⟨fun u => if u = unit then some r.2 else line.stations u, clock⟩
    match r.1 with
    | some a => (if sch.fate line.clock = .replyLost then .error (sch.text line.clock) else .ok a,
      line')
    | none => (.error (sch.text line.clock), line')

/-- The Modbus library of the host, the wire and the Modbus server of the boards, of which only
this is relied on: a request of one board comes to it whole or not at all, the board serves its
registers in their order and stops at one that it refuses, and the reply comes back as sent or not
at all. -/
structure Wire (σ : Type) (sch : Schedule) where
  lib : ClientPort (Line σ)
  inputs_served : ∀ line unit addr count timeout,
    lib.readInputRegisters line unit addr count timeout =
      line.request sch unit count (readMany sch inputRd addr line.clock count)
  holdings_served : ∀ line unit addr count timeout,
    lib.readHoldingRegisters line unit addr count timeout =
      line.request sch unit count (readMany sch holdingRd addr line.clock count)
  write_served : ∀ line unit addr value timeout,
    lib.writeSingleRegister line unit addr value timeout =
      line.request sch unit 1 (writeOne sch addr value line.clock)

/-- The plainest such wire. -/
def Wire.plain (sch : Schedule) : Wire σ sch where
  lib :=
    { readInputRegisters := fun line unit addr count _ =>
        line.request sch unit count (readMany sch inputRd addr line.clock count)
      readHoldingRegisters := fun line unit addr count _ =>
        line.request sch unit count (readMany sch holdingRd addr line.clock count)
      writeSingleRegister := fun line unit addr value _ =>
        line.request sch unit 1 (writeOne sch addr value line.clock) }
  inputs_served _ _ _ _ _ := rfl
  holdings_served _ _ _ _ _ := rfl
  write_served _ _ _ _ _ := rfl

/-- What answers the calls of a session that is on the line. -/
def lineAnswer {sch : Schedule} (wire : Wire σ sch) : (c : SessionCall) →
    Session (WholeBus (Line σ)) → c.Answer × Session (WholeBus (Line σ)) :=
  answer (wholeBus wire.lib)

/-! ## Requests and what they keep -/

variable {sch : Schedule} {wire : Wire σ sch} {unit : UInt8} {count : Nat}

/-- A request that is lost leaves the board; one that is not is served, and its reply may be
lost. -/
theorem request_cases {α : Type} (sch : Schedule) (count : Nat) (line : Line σ)
    (serve : Station σ → Option α × Station σ) {st : Station σ}
    (hst : line.stations unit = some st) :
    let r := line.request sch unit count serve
    (r.2.stations unit = some st ∧ r.1 = .error (sch.text line.clock) ∧
        sch.fate line.clock = .requestLost) ∨
      r.2.stations unit = some (serve st).2 ∧
        ((∃ a, (serve st).1 = some a ∧ r.1 = .ok a) ∨
          r.1 = .error (sch.text line.clock) ∧
            ((serve st).1 = none ∨ sch.fate line.clock = .replyLost)) := by
  intro r
  by_cases hlost : sch.fate line.clock = .requestLost
  · have hr : r =
        (.error (sch.text line.clock), { line with clock := line.clock + count + 1 }) := by
      simp only [r, Line.request, hlost, if_true]
    exact .inl ⟨by rw [hr]; exact hst, by rw [hr], hlost⟩
  · have hr : r = (match (serve st).1 with
        | some a => if sch.fate line.clock = .replyLost then .error (sch.text line.clock) else .ok a
        | none => .error (sch.text line.clock),
        ⟨fun u => if u = unit then some (serve st).2 else line.stations u,
          line.clock + count + 1⟩) := by
      simp only [r, Line.request, hlost, if_false, hst]
      cases (serve st).1 <;> rfl
    refine .inr ⟨by rw [hr]; exact if_pos rfl, ?_⟩
    rw [hr]
    cases hserve : (serve st).1 with
    | none => exact .inr ⟨rfl, .inl rfl⟩
    | some a =>
      by_cases hreply : sch.fate line.clock = .replyLost
      · exact .inr ⟨if_pos hreply, .inr hreply⟩
      · exact .inl ⟨a, rfl, if_neg hreply⟩

/-- The board under the address has the property. -/
def At (unit : UInt8) (Φ : Station σ → Prop) (line : Line σ) : Prop :=
  ∃ st, line.stations unit = some st ∧ Φ st

theorem At.imp {Φ Ψ : Station σ → Prop} (h : ∀ st, Φ st → Ψ st) {line : Line σ}
    (hline : At unit Φ line) : At unit Ψ line :=
  Exists.imp (fun _ hst => ⟨hst.1, h _ hst.2⟩) hline

/-- A session on the line whose board has the property. As long as nothing is lost, no request
has failed: its error text is the one of the start. -/
def Hears (sch : Schedule) (slaveId : Int) (text : String) (Φ : Station σ → Prop) :
    Session (WholeBus (Line σ)) → Prop :=
  OnPort slaveId fun text' line => At (UInt8.ofInt slaveId) Φ line ∧ (sch.Reliable → text' = text)

variable {slaveId : Int} {text : String} {Φ : Station σ → Prop}

theorem Hears.imp {Ψ : Station σ → Prop} (h : ∀ st, Φ st → Ψ st)
    {s : Session (WholeBus (Line σ))} (hs : Hears sch slaveId text Φ s) :
    Hears sch slaveId text Ψ s :=
  OnPort.imp (fun _ _ hline => ⟨hline.1.imp h, hline.2⟩) hs

/-- A session that has just been opened for a board on the line. -/
def opened (slaveId : Int) (line : Line σ) : Session (WholeBus (Line σ)) :=
  ⟨some ⟨⟨some line, true, "", slaveId, []⟩, fun _ => none⟩, slaveId, ""⟩

theorem onPort_opened {Φ : String → Line σ → Prop} {line : Line σ} (h : Φ "" line) :
    OnPort slaveId Φ (opened slaveId line) :=
  ⟨rfl, _, line, rfl, rfl, rfl, rfl, h⟩

theorem hears_opened {line : Line σ} (h : At (UInt8.ofInt slaveId) Φ line) :
    Hears sch slaveId "" Φ (opened slaveId line) := onPort_opened ⟨h, fun _ => rfl⟩

theorem triple_hears_checkConnected : Triple (lineAnswer wire) (Hears sch slaveId text Φ)
    (ask SessionCall.checkConnected) fun r s => r = true ∧ Hears sch slaveId text Φ s :=
  triple_checkConnected

/-- A read that the board does not refuse: what comes back is good, and it does come back if
nothing is lost. -/
theorem triple_hears_read (holding : Bool) {addr : UInt16} {timeout : Int}
    {G : Vector UInt16 count → Prop}
    (hserve : ∀ clock st, Φ st → ∃ regs st', readMany sch (if holding then holdingRd else inputRd)
      addr clock count st = (some regs, st') ∧ G regs ∧ Φ st') :
    Triple (lineAnswer wire) (Hears sch slaveId text Φ)
      (ask (SessionCall.readRegsInternal holding addr count timeout))
      fun r s => Hears sch slaveId text Φ s ∧ (∀ regs, r = some regs → G regs) ∧
        (sch.Reliable → r.isSome) := by
  refine (triple_readRegs (Ψ := fun r text' line => (At (UInt8.ofInt slaveId) Φ line ∧
    (sch.Reliable → text' = text)) ∧ (∀ regs, r = some regs → G regs) ∧
      (sch.Reliable → r.isSome)) ?_).mono (fun _ => id) ?_
  · rintro text' line ⟨⟨st, hst, hΦ⟩, htext⟩
    have hrequest : SerialBus.request wire.lib holding line (UInt8.ofInt slaveId) addr count
        timeout = line.request sch (UInt8.ofInt slaveId) count
          (readMany sch (if holding then holdingRd else inputRd) addr line.clock count) := by
      cases holding with
      | false => exact wire.inputs_served _ _ _ _ _
      | true => exact wire.holdings_served _ _ _ _ _
    rw [hrequest]
    obtain ⟨regs, st', hread, hgood, hΦ'⟩ := hserve line.clock st hΦ
    have hcases := request_cases sch count line
      (readMany sch (if holding then holdingRd else inputRd) addr line.clock count) hst
    rw [hread] at hcases
    generalize line.request sch (UInt8.ofInt slaveId) count
      (readMany sch (if holding then holdingRd else inputRd) addr line.clock count) = r at hcases ⊢
    obtain ⟨res, line'⟩ := r
    rcases hcases with ⟨hst', rfl, hfate⟩ | ⟨hst', ⟨regs', hregs, rfl⟩ | ⟨rfl, hfate⟩⟩
    · have hunreliable : ¬ sch.Reliable := fun h => by simp [h line.clock] at hfate
      exact ⟨⟨⟨st, hst', hΦ⟩, fun h => absurd h hunreliable⟩, nofun,
        fun h => absurd h hunreliable⟩
    · obtain rfl := Option.some.inj hregs
      refine ⟨⟨⟨st', hst', hΦ'⟩, htext⟩, fun regs' hregs' => ?_, fun _ => rfl⟩
      rwa [← Option.some.inj hregs']
    · have hunreliable : ¬ sch.Reliable := fun h => by simp [h line.clock] at hfate
      exact ⟨⟨⟨st', hst', hΦ'⟩, fun h => absurd h hunreliable⟩, nofun,
        fun h => absurd h hunreliable⟩
  · intro r s hs
    obtain ⟨hslave, bus, line, hbus, hconnected, htest, hport, hline, hgood⟩ := hs
    exact ⟨⟨hslave, bus, line, hbus, hconnected, htest, hport, hline⟩, hgood⟩

/-- What a program makes of a read: of words that are good, or of their loss. -/
theorem triple_heard {α : Type} {P R : Session (WholeBus (Line σ)) → Prop}
    {G : Vector UInt16 count → Prop} {Q : α → Session (WholeBus (Line σ)) → Prop}
    {read : SessionProgram (Option (Vector UInt16 count))}
    {next : Option (Vector UInt16 count) → SessionProgram α}
    (hread : Triple (lineAnswer wire) P read
      fun r s => R s ∧ (∀ regs, r = some regs → G regs) ∧ (sch.Reliable → r.isSome))
    (hlost : ¬ sch.Reliable → Triple (lineAnswer wire) R (next none) Q)
    (hheard : ∀ regs, G regs → Triple (lineAnswer wire) R (next (some regs)) Q) :
    Triple (lineAnswer wire) P (read >>= next) Q := by
  refine triple_bind hread fun r => ?_
  rintro s ⟨hs, hgood, hall⟩
  cases r with
  | none => exact hlost (fun hsch => absurd (hall hsch) nofun) s hs
  | some regs => exact hheard regs (hgood regs rfl) s hs

/-! ## Reads of one register after another -/

/-- What is true of the registers read so far and of the board is true of all of them. -/
theorem readMany_invariant {rd : RegRead σ} {addr : UInt16} {count : Nat}
    (Inv : (n : Nat) → Vector UInt16 n → Station σ → Prop) (clock : Nat) {st : Station σ}
    (h0 : Inv 0 #v[] st)
    (hstep : ∀ n < count, ∀ regs st, Inv n regs st → ∃ value st',
      st.access (sch.moment (clock + n)) (fun bd e w => rd bd e w (addr + UInt16.ofNat n)) =
        (.ok value, st') ∧ Inv (n + 1) (regs.push value) st') :
    ∃ regs st', readMany sch rd addr clock count st = (some regs, st') ∧ Inv count regs st' := by
  induction count with
  | zero => exact ⟨#v[], st, rfl, h0⟩
  | succ n ih =>
    obtain ⟨regs, st', hread, hinv⟩ := ih fun m hm => hstep m (Nat.lt_succ_of_lt hm)
    obtain ⟨value, st'', haccess, hinv'⟩ := hstep n (Nat.lt_succ_self n) regs st' hinv
    refine ⟨regs.push value, st'', ?_, hinv'⟩
    rw [readMany, hread]
    simp only [haccess]

/-- Registers that show a good value each, whatever happens on the board meanwhile. -/
theorem readMany_each {rd : RegRead σ} {addr : UInt16} {count : Nat} {Φ : Station σ → Prop}
    {G : Nat → UInt16 → Prop} (hread : ∀ n < count, ∀ st m, Φ st → ∃ value st',
      st.access m (fun bd e w => rd bd e w (addr + UInt16.ofNat n)) = (.ok value, st') ∧
        G n value ∧ Φ st')
    (clock : Nat) (st : Station σ) (hst : Φ st) :
    ∃ regs st', readMany sch rd addr clock count st = (some regs, st') ∧
      (∀ n (hn : n < count), G n regs[n]) ∧ Φ st' := by
  refine readMany_invariant (fun n regs st => (∀ i (hi : i < n), G i regs[i]) ∧ Φ st)
    clock ⟨nofun, hst⟩ ?_
  rintro n hn regs st ⟨hregs, hst⟩
  obtain ⟨value, st', haccess, hvalue, hst'⟩ := hread n hn st (sch.moment (clock + n)) hst
  refine ⟨value, st', haccess, fun i hi => ?_, hst'⟩
  rw [Vector.getElem_push]
  split
  next hlt => exact hregs i hlt
  next hge =>
    obtain rfl := Nat.le_antisymm (Nat.not_lt.mp hge) (Nat.lt_succ_iff.mp hi)
    exact hvalue

/-- Registers that show one value each. -/
theorem readMany_shown {rd : RegRead σ} {addr : UInt16} {count : Nat} {Φ : Station σ → Prop}
    {shown : Nat → UInt16} (hread : ∀ n < count, ∀ st m, Φ st → ∃ st',
      st.access m (fun bd e w => rd bd e w (addr + UInt16.ofNat n)) = (.ok (shown n), st') ∧ Φ st')
    (clock : Nat) (st : Station σ) (hst : Φ st) :
    ∃ regs st', readMany sch rd addr clock count st = (some regs, st') ∧
      (∀ n (hn : n < count), regs[n] = shown n) ∧ Φ st' := by
  refine readMany_each (G := fun n value => value = shown n) (fun n hn st m hst => ?_) clock st hst
  obtain ⟨st', haccess, hst'⟩ := hread n hn st m hst
  exact ⟨shown n, st', haccess, rfl, hst'⟩

/-! ## Writes of one register after another -/

/-- A model of the board that a write of one of the addresses moves, if the board takes it. -/
def Takes (Φ : μ → Station σ → Prop) (move : UInt16 → UInt16 → μ → μ) (addrs : UInt16 → Prop) :
    Prop :=
  ∀ addr value m st moment, addrs addr → Φ m st →
    let r := st.access moment fun bd e w => holdingWr bd e w addr value
    (r.1 = .ok ∧ Φ (move addr value m) r.2) ∨ (r.1 ≠ .ok ∧ Φ m r.2)

/-- The model after the writes of values from an address on. -/
def moved (move : UInt16 → UInt16 → μ → μ) : UInt16 → List UInt16 → μ → μ
  | _, [], m => m
  | addr, value :: values, m => moved move (addr + 1) values (move addr value m)

variable {Φ : μ → Station σ → Prop} {move : UInt16 → UInt16 → μ → μ} {addrs : UInt16 → Prop}

theorem request_write (wire : Wire σ sch) (htakes : Takes Φ move addrs) {addr : UInt16}
    (haddr : addrs addr) (value : UInt16) (timeout : Int) {m : μ} {line : Line σ}
    (hline : At unit (Φ m) line) :
    let r := wire.lib.writeSingleRegister line unit addr value timeout
    (r.1 = .ok () ∧ At unit (Φ (move addr value m)) r.2) ∨
      (∃ text, r.1 = .error text) ∧
        (At unit (Φ m) r.2 ∨ At unit (Φ (move addr value m)) r.2) := by
  intro r
  obtain ⟨st, hst, hΦ⟩ := hline
  rw [show r = _ from wire.write_served line unit addr value timeout]
  have hcases := request_cases sch 1 line
    (writeOne sch addr value line.clock) hst
  have hwrite := htakes addr value m st (sch.moment line.clock) haddr hΦ
  rcases hcases with ⟨hst', hr, -⟩ | ⟨hst', ⟨_, haccepted, hr⟩ | ⟨hr, -⟩⟩
  · exact .inr ⟨⟨_, hr⟩, .inl ⟨st, hst', hΦ⟩⟩
  · rcases hwrite with ⟨-, hmoved⟩ | ⟨hrefused, -⟩
    · exact .inl ⟨hr, _, hst', hmoved⟩
    · exact absurd haccepted (by simp [writeOne, hrefused])
  · rcases hwrite with ⟨-, hmoved⟩ | ⟨-, hkept⟩
    · exact .inr ⟨⟨_, hr⟩, .inr ⟨_, hst', hmoved⟩⟩
    · exact .inr ⟨⟨_, hr⟩, .inl ⟨_, hst', hkept⟩⟩

/-- A write of several registers is done from the front: all of them if it is acknowledged, and
otherwise those up to some register. -/
theorem writeEach_front (wire : Wire σ sch) (htakes : Takes Φ move addrs) (timeout : Int)
    (values : List UInt16) (addr : UInt16)
    (haddrs : ∀ i < values.length, addrs (addr + UInt16.ofNat i)) {m : μ} {line : Line σ}
    (hline : At unit (Φ m) line) :
    let r := writeEach wire.lib unit timeout addr values line
    ∃ k, At unit (Φ (moved move addr (values.take k) m)) r.2 ∧
      (r.1 = .ok () → values.length ≤ k) := by
  induction values generalizing addr m line with
  | nil => exact ⟨0, hline, fun _ => Nat.le_refl 0⟩
  | cons value values ih =>
    have haddr : addrs addr := by simpa using haddrs 0 (Nat.zero_lt_succ _)
    have hnext : ∀ i < values.length, addrs (addr + 1 + UInt16.ofNat i) := by
      intro i hi
      have h := haddrs (i + 1) (Nat.succ_lt_succ hi)
      rwa [UInt16.ofNat_add, UInt16.add_comm (UInt16.ofNat i), ← UInt16.add_assoc] at h
    have hfirst := request_write wire htakes haddr value timeout hline
    unfold writeEach
    generalize wire.lib.writeSingleRegister line unit addr value timeout = r at hfirst
    obtain ⟨res, line'⟩ := r
    rcases hfirst with ⟨rfl, hmoved⟩ | ⟨⟨text, rfl⟩, hkept | hmoved⟩
    · obtain ⟨k, hline', hall⟩ := ih (addr + 1) hnext hmoved
      exact ⟨k + 1, hline', fun hok => Nat.succ_le_succ (hall hok)⟩
    · exact ⟨0, hkept, nofun⟩
    · exact ⟨1, hmoved, nofun⟩

/-- The write of a session: the model moves by a number of the registers, by all of them if the
session reports success. -/
theorem triple_hears_write (htakes : Takes Φ move addrs) {addr : UInt16} {values : List UInt16}
    (haddrs : ∀ i < values.length, addrs (addr + UInt16.ofNat i)) {timeout : Int} {slaveId : Int}
    (m : μ) :
    Triple (lineAnswer wire) (OnPort slaveId fun _ => At (UInt8.ofInt slaveId) (Φ m))
      (ask (SessionCall.writeRegsInternal addr values timeout))
      fun r s => ∃ k, OnPort slaveId
        (fun _ => At (UInt8.ofInt slaveId) (Φ (moved move addr (values.take k) m))) s ∧
        (r = true → values.length ≤ k) := by
  refine (triple_writeRegs (Ψ := fun r _ line => ∃ k,
    At (UInt8.ofInt slaveId) (Φ (moved move addr (values.take k) m)) line ∧
      (r = some () → values.length ≤ k)) ?_).mono (fun _ => id) ?_
  · intro text line hline
    obtain ⟨k, hline', hall⟩ := writeEach_front wire htakes timeout values addr haddrs
      hline
    generalize writeEach wire.lib (UInt8.ofInt slaveId) timeout addr values line = r at *
    obtain ⟨res, line'⟩ := r
    cases res with
    | ok _ => exact ⟨k, hline', fun _ => hall rfl⟩
    | error text => exact ⟨k, hline', nofun⟩
  · rintro r s ⟨hslave, bus, line, hbus, hconnected, htest, hport, k, hline, hall⟩
    refine ⟨k, ⟨hslave, bus, line, hbus, hconnected, htest, hport, hline⟩, ?_⟩
    rintro rfl
    exact hall rfl

/-! ## Boards for examples -/

/-- A channel of an HVB board that has had these calls since it came up. -/
def channelAfter (node : VcChannel.Node) (calls : List VcChannel.ChannelOp) : VcChannel.Channel :=
  Runs.exec (VcChannel.ChannelOp.step .hvb) (VcChannel.init .hvb node) calls

/-- A board that has just come up, with these channels. -/
def stationOf (bd : Board) (channels : List VcChannel.Channel) : Station Unit where
  bd := bd
  world :=
    { ctrl := { VcController.init bd.k [] () with channels := channels }
      mb := (MbAdapter.modbusAdapterInit bd.mb .fine unconfigured).2
      latch := .initial }

/-- A line with one board on it, under address 1. -/
def single (st : Station σ) : Line σ := ⟨fun unit => if unit = 1 then some st else none, 0⟩

theorem at_single {Φ : Station σ → Prop} {st : Station σ} (h : Φ st) : At 1 Φ (single st) :=
  ⟨st, rfl, h⟩

end BoardLine
