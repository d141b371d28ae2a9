import HvbFirmware.Runs

/-!
# The sampling loop of the high voltage board

`hvb_vc_channel.c` reads the two inputs of an ADS1232 in turn. The DRDY interrupt queues a work
item that clocks the sample out and raises a signal, and the signal or a timeout runs the poll
handler of the channel, which publishes the sample and submits the next read. The steps come in any
order.
-/
namespace HvbVcChannel

open Runs

/-! ## State -/

/-- `ADC_CH_CURRENT` is input 0 of the multiplexer, `ADC_CH_VOLTAGE` is input 1. -/
inductive MuxInput where
  | current | voltage
  deriving DecidableEq, Repr

/-- A value of `ads1232_bitbang_read`, and the input whose finished conversion it was clocked out
from. -/
structure Sample where
  raw : Int
  source : Option MuxInput
  deriving DecidableEq, Repr

structure Ads1232 where
  a0 : MuxInput
  drdy : Bool
  code : Int
  deriving DecidableEq, Repr

/-- `ads1232_async_work_handler` on the system work queue. -/
inductive Handler where
  | idle | locking | raising
  deriving DecidableEq, Repr

/-- Where the work of the channel is: the atomic step named is the next one. -/
inductive Place where
  | idle | polling
  -- hvb_vc_poll_handler
  | handling (timedOut : Bool)
  -- hvb_vc_submit_read
  | resetting (input : MuxInput)
  -- ads1232_read_async; from `checking` to `guarding` it holds the lock
  | selecting (input : MuxInput)
  | checking | arming | guarding
  -- k_work_poll_submit_to_queue
  | registering
  deriving DecidableEq, Repr

/-- `async_seq` and `async_signal` are set and cleared together. -/
structure State where
  adc : Ads1232
  /-- Whether the DRDY interrupt is enabled. -/
  interrupt : Bool
  /-- Whether `async_work` is in its queue. -/
  queued : Bool
  handler : Handler
  asyncSeq : Bool
  adcBuf : Sample
  signaled : Bool
  adcPhase : MuxInput
  place : Place
  published : List (MuxInput × Sample)
  deriving DecidableEq, Repr

structure Capabilities where
  voltageMeasurement : Bool
  currentMeasurement : Bool
  deriving DecidableEq, Repr

/-! ## Steps -/

/-- A change of A0 restarts the conversion. -/
def Ads1232.select (adc : Ads1232) (input : MuxInput) : Ads1232 :=
  if adc.a0 = input then adc else { adc with a0 := input, drdy := false }

/-- The 25th clock forces DRDY high. Without a finished conversion all bits read high. -/
def bitbangRead (adc : Ads1232) : Sample × Ads1232 :=
  (if adc.drdy then ⟨adc.code, some adc.a0⟩ else ⟨-1, none⟩, { adc with drdy := false })

/-- A work item in its queue stays there once; one that runs is queued again. -/
def workSubmit (s : State) : State := { s with queued := true }

def drdyIsr (s : State) : State := workSubmit { s with interrupt := false }

def asyncWorkHandler (s : State) : State :=
  if s.asyncSeq then
    { s with
      adcBuf := (bitbangRead s.adc).1
      adc := (bitbangRead s.adc).2
      asyncSeq := false
      handler := .raising }
  else { s with handler := .idle }

/-- `k_poll_signal_raise`; work that polls the signal runs. -/
def signalRaise (s : State) : State :=
  { s with
    signaled := true
    handler := .idle
    place := if s.place = .polling then .handling false else s.place }

def Place.locked : Place → Bool
  | .checking | .arming | .guarding => true
  | _ => false

/-- The next step of the system work queue. -/
def workStep (s : State) : State :=
  match s.handler with
  | .idle => if s.queued then { s with queued := false, handler := .locking } else s
  -- `k_mutex_lock` waits for `ads1232_read_async`
  | .locking => if s.place.locked then s else asyncWorkHandler s
  | .raising => signalRaise s

def submitRead (s : State) (input : MuxInput) : State := { s with place := .resetting input }

def startNextCycle (caps : Capabilities) (s : State) : State :=
  if caps.voltageMeasurement then submitRead { s with adcPhase := .voltage } .voltage
  else submitRead { s with adcPhase := .current } .current

/-- `vc_channel_buffer_publish_voltage` or `vc_channel_buffer_publish_current`. -/
def publish (s : State) (quantity : MuxInput) : State :=
  { s with published := s.published ++ [(quantity, s.adcBuf)] }

def pollHandler (caps : Capabilities) (s : State) (timedOut : Bool) : State :=
  if timedOut then startNextCycle caps s
  else
    match s.adcPhase with
    | .voltage =>
      let s := publish s .voltage
      if caps.currentMeasurement then submitRead { s with adcPhase := .current } .current
      else startNextCycle caps s
    | .current => startNextCycle caps (publish s .current)

/-- `ads1232_read_async` up to its look at DRDY. Its caller ignores -EBUSY. -/
def readAsync (s : State) (input : MuxInput) : State :=
  if s.asyncSeq then { s with place := .registering }
  else
    { s with
      adc := s.adc.select input
      asyncSeq := true
      signaled := false
      place := .checking }

/-- The next step of the work of the channel. -/
def pollStep (caps : Capabilities) (s : State) : State :=
  match s.place with
  | .idle | .polling => s
  | .handling timedOut => pollHandler caps s timedOut
  | .resetting input => { s with signaled := false, place := .selecting input }
  | .selecting input => readAsync s input
  | .checking =>
    { s with adc := if s.adc.drdy then (bitbangRead s.adc).2 else s.adc, place := .arming }
  | .arming => { s with interrupt := true, place := .guarding }
  | .guarding =>
    if s.adc.drdy then workSubmit { s with interrupt := false, place := .registering }
    else { s with place := .registering }
  | .registering => { s with place := if s.signaled then .handling false else .polling }

inductive Event where
  /-- A conversion ends: DRDY falls, also where it is low already. The interrupt is taken before
  the threads go on. -/
  | conversion (code : Int)
  | work
  | poll
  /-- `HVB_VC_DRDY_TIMEOUT_MS` are over. -/
  | timeout
  deriving DecidableEq, Repr

def step (caps : Capabilities) (s : State) : Event → State
  | .conversion code =>
    let s := { s with adc := { s.adc with drdy := true, code := code } }
    if s.interrupt then drdyIsr s else s
  | .work => workStep s
  | .poll => pollStep caps s
  | .timeout => if s.place = .polling then { s with place := .handling true } else s

/-- An initialised board. -/
def initial (adc : Ads1232) : State :=
  ⟨adc, false, false, .idle, false, ⟨0, none⟩, false, .voltage, .idle, []⟩

/-- `hvb_vc_start_sampling` on an initialised board. -/
def startSampling (caps : Capabilities) (adc : Ads1232) : State :=
  if caps.voltageMeasurement || caps.currentMeasurement then startNextCycle caps (initial adc)
  else initial adc

/-! ## Attribution -/

/-- Every published voltage comes from a finished conversion of input 1, every current from one of
input 0. -/
def Attributed (s : State) : Prop := ∀ p ∈ s.published, p.2.source = some p.1

/-- -EBUSY, while the pending read is one of the other input. -/
def State.refused (s : State) : Bool :=
  match s.place with
  | .selecting input => s.asyncSeq && s.adc.a0 != input
  | _ => false

/-- The race guard queues the work while its handler waits for the lock. -/
def State.queuedTwice (s : State) : Bool :=
  s.place == .guarding && s.adc.drdy && s.handler == .locking

/-- The handler is about to raise the signal, and the next read is submitted already. -/
def State.raisedLate (s : State) : Bool := s.handler == .raising && s.asyncSeq

def Clean (s : State) : Event → Prop
  | .poll => ¬s.refused ∧ ¬s.queuedTwice
  | .work => ¬s.raisedLate
  | _ => True

instance (s : State) : DecidablePred (Clean s)
  | .poll => inferInstanceAs (Decidable (_ ∧ _))
  | .work => inferInstanceAs (Decidable (¬_))
  | .conversion _ | .timeout => isTrue trivial

instance (s : State) : Decidable (Attributed s) :=
  inferInstanceAs (Decidable (∀ p ∈ s.published, _))

/-! ## The invariant -/

/-- A run of the handler that has not looked at `async_seq` yet. -/
def State.due (s : State) : Bool := s.queued || s.handler == .locking

/-- The read of the current phase is submitted. -/
def Place.requested : Place → Bool
  | .checking | .arming | .guarding | .registering | .polling => true
  | _ => false

/-- The signal is reset for the read of the current phase. -/
def Place.listening : Place → Bool
  | .selecting _ => true
  | place => place.requested

def Place.submits (input : MuxInput) : Place → Prop
  | .resetting i | .selecting i => i = input
  | _ => True

/-- `adc_buf` holds a sample of the current phase. -/
def State.Fresh (s : State) : Prop := s.adcBuf.source = some s.adcPhase

structure Inv (s : State) : Prop where
  due : s.due → s.asyncSeq ∧ s.adc.drdy
  once : s.queued → s.handler ≠ .locking
  armed : s.interrupt → s.asyncSeq ∧ ¬s.due
  locked : s.place.locked → s.asyncSeq
  quiet : s.place = .checking ∨ s.place = .arming → ¬s.due ∧ ¬s.interrupt
  submits : s.place.submits s.adcPhase
  request : s.place.requested → s.asyncSeq → s.adc.a0 = s.adcPhase
  raising : s.handler = .raising → ¬s.asyncSeq → s.place.requested → s.Fresh
  signaled : s.signaled → s.place.listening → ¬s.asyncSeq ∧ (s.place.requested → s.Fresh)
  handling : s.place = .handling false → ¬s.asyncSeq ∧ s.Fresh
  attributed : Attributed s

variable {caps : Capabilities} {s : State}

theorem due_eq_false (hqueued : s.queued = false) (hhandler : s.handler ≠ .locking) :
    s.due = false := by
  simp [State.due, hqueued, hhandler]

theorem not_locking (h : ¬s.due) : s.handler ≠ .locking := by
  rintro hhandler
  exact h (by simp [State.due, hhandler])

theorem Place.requested_listening {place : Place} (h : place.requested) : place.listening := by
  cases place <;> first | rfl | cases h

/-! ### The interrupt -/

theorem Inv.conversion (h : Inv s) (code : Int) : Inv (step caps s (.conversion code)) := by
  simp only [step]
  split
  next harmed =>
    obtain ⟨hseq, hdue⟩ := h.armed harmed
    have hhandler := not_locking hdue
    exact
      { h with
        due := fun _ => ⟨hseq, rfl⟩
        once := fun _ => hhandler
        armed := nofun
        quiet := fun hplace => absurd harmed (h.quiet hplace).2 }
  · exact { h with due := fun hdue => ⟨(h.due hdue).1, rfl⟩ }

/-! ### The system work queue -/

theorem Inv.dequeue (h : Inv s) (hqueued : s.queued) :
    Inv { s with queued := false, handler := .locking } := by
  have hdue : s.due := by simp [State.due, hqueued]
  exact
    { h with
      due := fun _ => h.due hdue
      once := nofun
      armed := fun harmed => absurd hdue (h.armed harmed).2
      quiet := fun hplace => absurd hdue (h.quiet hplace).1
      raising := nofun }

/-- The handler finds the read and a finished conversion. -/
theorem Inv.asyncWorkHandler (h : Inv s) (hhandler : s.handler = .locking)
    (hlocked : s.place.locked = false) : Inv (asyncWorkHandler s) := by
  have hdue : s.due := by simp [State.due, hhandler]
  obtain ⟨hseq, hdrdy⟩ := h.due hdue
  have hqueued : s.queued = false := by
    cases hq : s.queued with
    | false => rfl
    | true => exact absurd hhandler (h.once hq)
  have hsource : (bitbangRead s.adc).1.source = some s.adc.a0 := by
    simp [bitbangRead, hdrdy]
  rw [HvbVcChannel.asyncWorkHandler, if_pos hseq]
  exact
    { h with
      due := fun hdue' => absurd hdue' (by simp [due_eq_false, hqueued])
      once := fun _ => nofun
      armed := fun harmed => absurd hdue (h.armed harmed).2
      locked := fun hplace => absurd hplace (by simp [hlocked])
      quiet := fun hplace => absurd hdue (h.quiet hplace).1
      request := fun _ hseq' => nomatch hseq'
      raising := fun _ _ hrequested => hsource.trans (congrArg some (h.request hrequested hseq))
      signaled := fun hsignaled hlistening =>
        absurd hseq (h.signaled hsignaled hlistening).1
      handling := fun hplace => absurd hseq (h.handling hplace).1 }

theorem Inv.signalRaise (h : Inv s) (hhandler : s.handler = .raising) (hseq : ¬s.asyncSeq) :
    Inv (signalRaise s) := by
  have hdue : (HvbVcChannel.signalRaise s).due → s.due := by
    simp [HvbVcChannel.signalRaise, State.due, hhandler]
  have hfresh := h.raising hhandler hseq
  by_cases hplace : s.place = .polling
  · rw [HvbVcChannel.signalRaise, if_pos hplace] at hdue ⊢
    exact
      { h with
        due := fun hdue' => h.due (hdue hdue')
        once := fun _ => nofun
        armed := fun harmed => (h.armed harmed).imp_right fun hnot hdue' => hnot (hdue hdue')
        locked := nofun
        quiet := nofun
        submits := trivial
        request := nofun
        raising := nofun
        signaled := nofun
        handling := fun _ => ⟨hseq, hfresh (by rw [hplace]; rfl)⟩ }
  · rw [HvbVcChannel.signalRaise, if_neg hplace] at hdue ⊢
    exact
      { h with
        due := fun hdue' => h.due (hdue hdue')
        once := fun _ => nofun
        armed := fun harmed => (h.armed harmed).imp_right fun hnot hdue' => hnot (hdue hdue')
        quiet := fun hplace' => (h.quiet hplace').imp_left fun hnot hdue' => hnot (hdue hdue')
        raising := nofun
        signaled := fun _ _ => ⟨hseq, hfresh⟩ }

theorem Inv.work (h : Inv s) (hclean : Clean s .work) : Inv (workStep s) := by
  unfold workStep
  split
  · split
    next hqueued => exact h.dequeue hqueued
    · exact h
  next hhandler =>
    split
    · exact h
    next hlocked => exact h.asyncWorkHandler hhandler (Bool.eq_false_iff.mpr hlocked)
  next hhandler =>
    refine h.signalRaise hhandler fun hseq => hclean ?_
    simp [State.raisedLate, hhandler, hseq]

/-! ### The work of the channel -/

/-- `hvb_vc_submit_read` for the next phase. -/
theorem Inv.submitRead (h : Inv s) (input : MuxInput) {published : List (MuxInput × Sample)}
    (hattributed : ∀ p ∈ published, p.2.source = some p.1) :
    Inv (submitRead { s with adcPhase := input, published := published } input) :=
  { h with
    locked := nofun
    quiet := nofun
    submits := rfl
    request := nofun
    raising := fun _ _ => nofun
    signaled := fun _ => nofun
    handling := nofun
    attributed := hattributed }

theorem Inv.startNextCycle (h : Inv s) {published : List (MuxInput × Sample)}
    (hattributed : ∀ p ∈ published, p.2.source = some p.1) :
    Inv (startNextCycle caps { s with published := published }) := by
  unfold HvbVcChannel.startNextCycle
  split
  · exact h.submitRead .voltage hattributed
  · exact h.submitRead .current hattributed

theorem Inv.publish (h : Inv s) (hplace : s.place = .handling false) :
    ∀ p ∈ s.published ++ [(s.adcPhase, s.adcBuf)], p.2.source = some p.1 := by
  intro p hmem
  rcases List.mem_append.mp hmem with hmem | hmem
  · exact h.attributed p hmem
  · rw [List.mem_singleton.mp hmem]
    exact (h.handling hplace).2

theorem Inv.pollHandler (h : Inv s) {timedOut : Bool} (hplace : s.place = .handling timedOut) :
    Inv (pollHandler caps s timedOut) := by
  unfold HvbVcChannel.pollHandler
  cases timedOut with
  | true => exact h.startNextCycle h.attributed
  | false =>
    have hattributed := h.publish hplace
    simp only [Bool.false_eq_true, if_false]
    split
    next hphase =>
      rw [hphase] at hattributed
      split
      · exact h.submitRead .current hattributed
      · exact h.startNextCycle hattributed
    next hphase =>
      rw [hphase] at hattributed
      exact h.startNextCycle hattributed

theorem Inv.readAsync (h : Inv s) {input : MuxInput} (hplace : s.place = .selecting input)
    (hclean : ¬s.refused) : Inv (readAsync s input) := by
  have hinput : input = s.adcPhase := by
    have hsubmits := h.submits
    rwa [hplace] at hsubmits
  have hlistening : s.place.listening := by rw [hplace]; rfl
  unfold HvbVcChannel.readAsync
  split
  next hseq =>
    have ha0 : s.adc.a0 = s.adcPhase := by
      simpa [State.refused, hplace, hseq, hinput] using hclean
    exact
      { h with
        locked := nofun
        quiet := nofun
        submits := trivial
        request := fun _ _ => ha0
        raising := fun _ hnot => absurd hseq hnot
        signaled := fun hsignaled => absurd hseq (h.signaled hsignaled hlistening).1
        handling := nofun }
  next hseq =>
    have hdue : ¬s.due := fun hdue => hseq (h.due hdue).1
    have hinterrupt : ¬s.interrupt := fun harmed => hseq (h.armed harmed).1
    exact
      { h with
        due := fun hdue' => absurd hdue' hdue
        armed := fun harmed => absurd harmed hinterrupt
        locked := fun _ => rfl
        quiet := fun _ => ⟨hdue, hinterrupt⟩
        submits := trivial
        request := fun _ _ => by
          show (s.adc.select input).a0 = s.adcPhase
          unfold Ads1232.select
          split
          next hsame => exact hsame.trans hinput
          · exact hinput
        raising := fun _ hnot => absurd rfl hnot
        signaled := nofun
        handling := nofun }

/-- The channel goes on within its submitted read. -/
theorem Inv.move (h : Inv s) (place : Place) (hold : s.place.requested) (hnew : place.requested)
    (hlocked : place.locked → s.asyncSeq)
    (hquiet : place = .checking ∨ place = .arming → ¬s.due ∧ ¬s.interrupt) :
    Inv { s with place := place } :=
  { h with
    locked := hlocked
    quiet := hquiet
    submits := by cases place <;> trivial
    request := fun _ => h.request hold
    raising := fun hhandler hseq _ => h.raising hhandler hseq hold
    signaled := fun hsignaled _ =>
      (h.signaled hsignaled (Place.requested_listening hold)).imp_right fun hfresh _ => hfresh hold
    handling := by
      rintro rfl
      cases hnew }

/-- A sample that was ready before the read was submitted is thrown away. -/
theorem Inv.discard (h : Inv s) (hplace : s.place = .checking) :
    Inv { s with
      adc := if s.adc.drdy then (bitbangRead s.adc).2 else s.adc, place := .arming } := by
  have hquiet := h.quiet (.inl hplace)
  have hrequested : s.place.requested := by rw [hplace]; rfl
  have hseq : s.asyncSeq := h.locked (by rw [hplace]; rfl)
  have ha0 : (if s.adc.drdy then (bitbangRead s.adc).2 else s.adc).a0 = s.adc.a0 := by
    split <;> rfl
  have hmove := h.move .arming hrequested rfl (fun _ => hseq) (fun _ => hquiet)
  exact
    { hmove with
      due := fun hdue => absurd hdue hquiet.1
      request := fun _ hseq => ha0.trans (h.request hrequested hseq) }

theorem Inv.arm (h : Inv s) (hplace : s.place = .arming) :
    Inv { s with interrupt := true, place := .guarding } := by
  have hquiet := h.quiet (.inr hplace)
  have hrequested : s.place.requested := by rw [hplace]; rfl
  have hseq : s.asyncSeq := h.locked (by rw [hplace]; rfl)
  have hmove := h.move .guarding hrequested rfl (fun _ => hseq) nofun
  exact { hmove with armed := fun _ => ⟨hseq, hquiet.1⟩, quiet := nofun }

/-- The race guard queues the work for a conversion that ended before the interrupt was
enabled. -/
theorem Inv.guard (h : Inv s) (hplace : s.place = .guarding) (hclean : ¬s.queuedTwice) :
    Inv (if s.adc.drdy then workSubmit { s with interrupt := false, place := .registering }
      else { s with place := .registering }) := by
  have hrequested : s.place.requested := by rw [hplace]; rfl
  have hseq : s.asyncSeq := h.locked (by rw [hplace]; rfl)
  have hmove := h.move .registering hrequested rfl nofun nofun
  split
  next hdrdy =>
    have hhandler : s.handler ≠ .locking := by
      simpa [State.queuedTwice, hplace, hdrdy] using hclean
    exact
      { hmove with
        due := fun _ => ⟨hseq, hdrdy⟩
        once := fun _ => hhandler
        armed := nofun
        quiet := nofun }
  · exact hmove

theorem Inv.register (h : Inv s) (hplace : s.place = .registering) :
    Inv { s with place := if s.signaled then .handling false else .polling } := by
  have hrequested : s.place.requested := by rw [hplace]; rfl
  split
  next hsignaled =>
    obtain ⟨hseq, hfresh⟩ := h.signaled hsignaled (Place.requested_listening hrequested)
    exact
      { h with
        locked := nofun
        quiet := nofun
        submits := trivial
        request := nofun
        raising := fun _ _ => nofun
        signaled := fun _ => nofun
        handling := fun _ => ⟨hseq, hfresh hrequested⟩ }
  · exact h.move .polling hrequested rfl nofun nofun

theorem Inv.poll (h : Inv s) (hclean : Clean s .poll) : Inv (pollStep caps s) := by
  unfold pollStep
  split
  · exact h
  · exact h
  next hplace => exact h.pollHandler hplace
  next input hplace =>
    have hsubmits := h.submits
    rw [hplace] at hsubmits
    exact
      { h with
        locked := nofun
        quiet := nofun
        submits := hsubmits
        request := nofun
        raising := fun _ _ => nofun
        signaled := nofun
        handling := nofun }
  next input hplace => exact h.readAsync hplace hclean.1
  next hplace => exact h.discard hplace
  next hplace => exact h.arm hplace
  next hplace => exact h.guard hplace hclean.2
  next hplace => exact h.register hplace

theorem Inv.timeout (h : Inv s) : Inv (step caps s .timeout) := by
  rw [step]
  split
  · exact
      { h with
        locked := nofun
        quiet := nofun
        submits := trivial
        request := nofun
        raising := fun _ _ => nofun
        signaled := fun _ => nofun
        handling := nofun }
  · exact h

/-! ## Runs -/

theorem Inv.step {e : Event} (h : Inv s) (hclean : Clean s e) : Inv (step caps s e) := by
  cases e with
  | conversion code => exact h.conversion code
  | work => exact h.work hclean
  | poll => exact h.poll hclean
  | timeout => exact h.timeout

theorem Inv.initial (adc : Ads1232) : Inv (initial adc) where
  due := nofun
  once := nofun
  armed := nofun
  locked := nofun
  quiet := nofun
  submits := trivial
  request := nofun
  raising := nofun
  signaled := nofun
  handling := nofun
  attributed := nofun

theorem Inv.startSampling (caps : Capabilities) (adc : Ads1232) : Inv (startSampling caps adc) := by
  unfold HvbVcChannel.startSampling
  split
  · exact (Inv.initial adc).startNextCycle (Inv.initial adc).attributed
  · exact Inv.initial adc

/-- Where no read is refused for the other input, no work queued twice and no signal raised late,
every published sample is of its own input. -/
theorem samples_attributed (caps : Capabilities) (adc : Ads1232) (events : List Event)
    (h : Along (step caps) Clean (startSampling caps adc) events) :
    Along (step caps) (fun s e => Attributed (step caps s e)) (startSampling caps adc) events :=
  .of_invariant (fun _ _ hinv hclean => hinv.step hclean)
    (fun _ _ hinv hclean => (hinv.step hclean).attributed) (Inv.startSampling caps adc) h

def polls (steps : Nat) : List Event := List.replicate steps .poll

def works (steps : Nat) : List Event := List.replicate steps .work

def bothInputs : Capabilities := ⟨true, true⟩

/-- The ADC after `ads1232_init`. -/
def idleAdc : Ads1232 := ⟨.current, false, 0⟩

/-- A voltage is published, and the current is about to be read. -/
def oneVoltage : List Event := polls 6 ++ [.conversion 5] ++ works 3 ++ polls 7

/-- A timeout within a read of the voltage, and a read of the current that the race guard saves. -/
def twoCycles : List Event :=
  polls 6 ++ [.timeout] ++ polls 4 ++ [.conversion 5] ++ works 3 ++ polls 4 ++ [.conversion 3] ++
    polls 3 ++ works 3 ++ polls 1

theorem samples_attributed_example :
    Along (step bothInputs) (fun s e => Attributed (step bothInputs s e))
      (startSampling bothInputs idleAdc) twoCycles :=
  samples_attributed bothInputs idleAdc twoCycles (by decide)

/-- The read of the current times out. The next cycle asks for the voltage, is refused, and takes
the current for it. -/
def refusedRead : List Event :=
  oneVoltage ++ [.timeout] ++ polls 4 ++ [.conversion 3] ++ works 3 ++ polls 1

/-- The interrupt queues the work, its handler waits for the lock, and the race guard queues it
again: its second run clocks bits out of the next conversion. -/
def doubleRun : List Event :=
  polls 4 ++ [.conversion 5] ++ works 1 ++ polls 2 ++ works 2 ++ polls 7 ++ works 3 ++ polls 1

/-- The signal of a read of the current comes after its timeout, and is taken for that of the
voltage. -/
def lateRaise : List Event :=
  oneVoltage ++ [.conversion 3] ++ works 2 ++ [.timeout] ++ polls 6 ++ works 1 ++ polls 2

theorem sample_misattributed :
    ¬Attributed (exec (step bothInputs) (startSampling bothInputs idleAdc) refusedRead) ∧
      ¬Attributed (exec (step bothInputs) (startSampling bothInputs idleAdc) doubleRun) ∧
      ¬Attributed (exec (step bothInputs) (startSampling bothInputs idleAdc) lateRaise) := by
  decide

end HvbVcChannel
