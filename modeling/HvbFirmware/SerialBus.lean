import HvbFirmware.HostSession
import HvbFirmware.Triples

/-!
# The serial bus, both banks

`psb_serial_bus.cpp` beside the reads of the input bank: the reads of the holding bank and the
writes. A write of several registers is one request for each, and the first that fails ends it.
The Modbus library is a parameter, one request of which is pumped until it is no longer
processing.
-/
namespace SerialBus

open PsbBoardSession HostSession Interaction Program

/-- `Modbus::ClientPort` with the requests that the bus makes of it. -/
structure ClientPort (π : Type) extends ModbusClientPort π where
  readHoldingRegisters : π → (unit : UInt8) → (addr : UInt16) → (count : Nat) →
    (timeoutOverrideMs : Int) → Except String (Vector UInt16 count) × π
  writeSingleRegister : π → (unit : UInt8) → (addr value : UInt16) → (timeoutOverrideMs : Int) →
    Except String Unit × π

/-- The bus with the second array of a test board, which a board without one has as NULL. -/
structure WholeBus (π : Type) extends PsbSerialBus π where
  holdingRegs : Int → Option (Nat → UInt16)

variable {π : Type}

/-- `m_impl->port`, when there is an open one. -/
def WholeBus.openPort (bus : WholeBus π) : Option π := if bus.connected then bus.port else none

def WholeBus.fail (bus : WholeBus π) (text : String) : WholeBus π := { bus with errorText := text }

/-- The bus after a request that went over the wire. -/
def WholeBus.requested (bus : WholeBus π) (slaveId : Int) (port : π) : WholeBus π :=
  { bus with lastSlaveId := slaveId, port := some port }

def readInputRegs (lib : ClientPort π) (bus : WholeBus π) (slaveId : Int) (addr : UInt16)
    (count : Nat) (timeoutOverrideMs : Int) : Option (Vector UInt16 count) × WholeBus π :=
  let r := bus.toPsbSerialBus.readInputRegs lib.toModbusClientPort slaveId addr count
    timeoutOverrideMs
  (r.1, { bus with toPsbSerialBus := r.2 })

def readHoldingRegs (lib : ClientPort π) (bus : WholeBus π) (slaveId : Int) (addr : UInt16)
    (count : Nat) (timeoutOverrideMs : Int) : Option (Vector UInt16 count) × WholeBus π :=
  match bus.testBoards.lookup slaveId with
  | some tb =>
    match bus.holdingRegs slaveId with
    | some src =>
      if addr.toNat + count > (UInt16.ofInt tb.maxAddr).toNat then
        (none, bus.fail "test: address out of range")
      else (some (Vector.ofFn fun i => src (addr.toNat + i)), bus)
    | none => (none, bus.fail "test: address out of range")
  | none =>
    match bus.openPort with
    | none => (none, bus.fail "not connected")
    | some port =>
      match lib.readHoldingRegisters port (UInt8.ofInt slaveId) addr count timeoutOverrideMs with
      | (.ok regs, port) => (some regs, bus.requested slaveId port)
      | (.error text, port) =>
        (none, (bus.requested slaveId port).fail ("Modbus error: " ++ text))

/-- The loop of `writeRegs`: one request for each register, to the first that fails. -/
def writeEach (lib : ClientPort π) (unit : UInt8) (timeoutOverrideMs : Int) :
    (addr : UInt16) → List UInt16 → π → Except String Unit × π
  | _, [], port => (.ok (), port)
  | addr, value :: values, port =>
    match lib.writeSingleRegister port unit addr value timeoutOverrideMs with
    | (.error text, port) => (.error text, port)
    | (.ok _, port) => writeEach lib unit timeoutOverrideMs (addr + 1) values port

/-- The array of a test board with the values in it. -/
def stored (src : Nat → UInt16) (addr : Nat) (values : List UInt16) (i : Nat) : UInt16 :=
  if addr ≤ i then values[i - addr]?.getD (src i) else src i

def writeRegs (lib : ClientPort π) (bus : WholeBus π) (slaveId : Int) (addr : UInt16)
    (values : List UInt16) (timeoutOverrideMs : Int) : Bool × WholeBus π :=
  match bus.testBoards.lookup slaveId with
  | some tb =>
    match bus.holdingRegs slaveId with
    | some src =>
      if addr.toNat + values.length > (UInt16.ofInt tb.maxAddr).toNat then
        (false, bus.fail "test: address out of range")
      else
        (true, { bus with
          holdingRegs := fun id =>
            if id = slaveId then some (stored src addr.toNat values) else bus.holdingRegs id })
    | none => (false, bus.fail "test: address out of range")
  | none =>
    match bus.openPort with
    | none => (false, bus.fail "not connected")
    | some port =>
      match writeEach lib (UInt8.ofInt slaveId) timeoutOverrideMs addr values port with
      | (.ok _, port) => (true, bus.requested slaveId port)
      | (.error text, port) =>
        (false, (bus.requested slaveId port).fail ("Modbus error: " ++ text))

/-- The bus as a session sees it. -/
def wholeBus (lib : ClientPort π) : RegBus (WholeBus π) where
  isConnected bus := bus.toPsbSerialBus.isConnected
  lastError bus := bus.errorText
  readInputRegs := readInputRegs lib
  readHoldingRegs := readHoldingRegs lib
  writeRegs := writeRegs lib

/-! ## Sessions on an open port -/

/-- The session has an open port, no test board stands before it, and `Φ` holds of its error text
and the port. -/
def OnPort (slaveId : Int) (Φ : String → π → Prop) (s : Session (WholeBus π)) : Prop :=
  s.slaveId = slaveId ∧ ∃ bus port, s.bus = some bus ∧ bus.connected = true ∧
    bus.testBoards = [] ∧ bus.port = some port ∧ Φ s.errorText port

variable {lib : ClientPort π} {slaveId : Int} {Φ : String → π → Prop}

theorem OnPort.imp {Ψ : String → π → Prop} (h : ∀ text port, Φ text port → Ψ text port)
    {s : Session (WholeBus π)} (hs : OnPort slaveId Φ s) : OnPort slaveId Ψ s := by
  obtain ⟨hslave, bus, port, hbus, hconnected, htest, hport, hΦ⟩ := hs
  exact ⟨hslave, bus, port, hbus, hconnected, htest, hport, h _ _ hΦ⟩

/-- What a request of the library leaves, as a session reports it: the result, or the text. -/
def Reported {α : Type} (Ψ : Option α → String → π → Prop) (text : String) :
    Except String α × π → Prop
  | (.ok regs, port) => Ψ (some regs) text port
  | (.error e, port) => Ψ none ("Modbus error: " ++ e) port

theorem checkConnected_onPort (lib : ClientPort π) {s : Session (WholeBus π)}
    (hs : OnPort slaveId Φ s) :
    ∃ bus, s.bus = some bus ∧ checkConnected (wholeBus lib).toBus s = (some bus, s) := by
  obtain ⟨-, bus, port, hbus, hconnected, -⟩ := hs
  refine ⟨bus, hbus, ?_⟩
  have hfilter : s.bus.filter (wholeBus lib).isConnected = some bus := by
    rw [hbus]
    refine Option.filter_eq_some_iff.mpr ⟨rfl, ?_⟩
    simp [wholeBus, PsbSerialBus.isConnected, hconnected]
  unfold checkConnected
  rw [hfilter]

theorem triple_checkConnected : Triple (answer (wholeBus lib)) (OnPort slaveId Φ)
    (ask SessionCall.checkConnected) fun r s => r = true ∧ OnPort slaveId Φ s := by
  refine triple_ask fun s hs => ?_
  obtain ⟨bus, -, hcheck⟩ := checkConnected_onPort lib hs
  simp only [answer, hcheck]
  exact ⟨rfl, hs⟩

/-- The request that a read makes of the library. -/
def request (lib : ClientPort π) (holding : Bool) : π → UInt8 → UInt16 → (count : Nat) → Int →
    Except String (Vector UInt16 count) × π :=
  if holding then lib.readHoldingRegisters else lib.readInputRegisters

/-- A read of the bus, with an open port and no test board before it. -/
theorem read_onPort (lib : ClientPort π) (holding : Bool) (bus : WholeBus π) {port : π}
    (hconnected : bus.connected) (htest : bus.testBoards = []) (hport : bus.port = some port)
    (slaveId : Int) (addr : UInt16) (count : Nat) (timeout : Int) :
    (if holding then readHoldingRegs lib bus slaveId addr count timeout
      else readInputRegs lib bus slaveId addr count timeout) =
      match request lib holding port (UInt8.ofInt slaveId) addr count timeout with
      | (.ok regs, port) => (some regs, bus.requested slaveId port)
      | (.error text, port) =>
        (none, (bus.requested slaveId port).fail ("Modbus error: " ++ text)) := by
  have hlookup : bus.testBoards.lookup slaveId = none := by rw [htest]; rfl
  cases holding with
  | true =>
    simp only [readHoldingRegs, hlookup, WholeBus.openPort, hconnected, hport, if_true, request]
  | false =>
    simp only [readInputRegs, PsbSerialBus.readInputRegs, hlookup, hconnected, hport, if_true,
      Bool.false_eq_true, if_false, request]
    generalize lib.readInputRegisters port (UInt8.ofInt slaveId) addr count timeout = r
    obtain ⟨result, port'⟩ := r
    cases result <;> simp only [WholeBus.requested, WholeBus.fail, hconnected]

/-- A session on an open port after a request, with the text that it reports. -/
theorem onPort_requested {Ψ : String → π → Prop} {s : Session (WholeBus π)} {bus : WholeBus π}
    {port : π} {text : String} (hslave : s.slaveId = slaveId) (hconnected : bus.connected = true)
    (htest : bus.testBoards = []) (hΨ : Ψ text port) (bus' : WholeBus π)
    (hbus' : bus'.toPsbSerialBus = { bus.toPsbSerialBus with
      lastSlaveId := slaveId, port := some port, errorText := bus'.errorText }) :
    OnPort slaveId Ψ { s with bus := some bus', errorText := text } :=
  ⟨hslave, bus', port, rfl, by rw [hbus']; exact hconnected, by rw [hbus']; exact htest,
    by rw [hbus'], hΨ⟩

theorem triple_readRegs {holding : Bool} {addr : UInt16} {count : Nat} {timeout : Int}
    {Ψ : Option (Vector UInt16 count) → String → π → Prop}
    (h : ∀ text port, Φ text port →
      Reported Ψ text (request lib holding port (UInt8.ofInt slaveId) addr count timeout)) :
    Triple (answer (wholeBus lib)) (OnPort slaveId Φ)
      (ask (SessionCall.readRegsInternal holding addr count timeout))
      fun r s => OnPort slaveId (Ψ r) s := by
  refine triple_ask fun s hs => ?_
  obtain ⟨bus, hbus, hcheck⟩ := checkConnected_onPort lib hs
  obtain ⟨rfl, bus₀, port, hbus₀, hconnected, htest, hport, hΦ⟩ := hs
  obtain rfl : bus = bus₀ := Option.some.inj (hbus.symm.trans hbus₀)
  have hread := read_onPort lib holding bus hconnected htest hport s.slaveId addr count
    timeout
  have hreported := h _ port hΦ
  simp only [answer, HostSession.readRegsInternal, hcheck]
  simp only [wholeBus]
  rw [hread]
  generalize request lib holding port (UInt8.ofInt s.slaveId) addr count timeout = r at hreported
  obtain ⟨res, port'⟩ := r
  cases res with
  | ok regs =>
    exact onPort_requested rfl hconnected htest hreported (bus.requested s.slaveId port') rfl
  | error text =>
    exact onPort_requested rfl hconnected htest hreported
      ((bus.requested s.slaveId port').fail ("Modbus error: " ++ text)) rfl

theorem triple_writeRegs {addr : UInt16} {values : List UInt16} {timeout : Int}
    {Ψ : Option Unit → String → π → Prop}
    (h : ∀ text port, Φ text port →
      Reported Ψ text (writeEach lib (UInt8.ofInt slaveId) timeout addr values port)) :
    Triple (answer (wholeBus lib)) (OnPort slaveId Φ)
      (ask (SessionCall.writeRegsInternal addr values timeout))
      fun r s => OnPort slaveId (Ψ (if r then some () else none)) s := by
  refine triple_ask fun s hs => ?_
  obtain ⟨bus, hbus, hcheck⟩ := checkConnected_onPort lib hs
  obtain ⟨rfl, bus₀, port, hbus₀, hconnected, htest, hport, hΦ⟩ := hs
  obtain rfl : bus = bus₀ := Option.some.inj (hbus.symm.trans hbus₀)
  have hlookup : bus.testBoards.lookup s.slaveId = none := by rw [htest]; rfl
  have hreported := h _ port hΦ
  simp only [answer, writeRegsInternal, hcheck]
  simp only [wholeBus, writeRegs, hlookup, WholeBus.openPort, hconnected, hport, if_true]
  generalize writeEach lib (UInt8.ofInt s.slaveId) timeout addr values port = r at hreported
  obtain ⟨res, port'⟩ := r
  cases res with
  | ok regs =>
    exact onPort_requested rfl hconnected htest hreported (bus.requested s.slaveId port') rfl
  | error text =>
    exact onPort_requested rfl hconnected htest hreported
      ((bus.requested s.slaveId port').fail ("Modbus error: " ++ text)) rfl

end SerialBus
