import HvbFirmware.HvbVcChannel
import HvbFirmware.Ramp

/-!
# A calibration sample after a DAC write

`vc_runtime_cal_sample_fresh` waits until the timestamps of the measurement buffer have moved on,
and takes that for a sign that the samples are those of the DAC code written before. The sampling
loop goes its own way meanwhile: the sample that it publishes next may come from a conversion that
began before the write.
-/
namespace CalSample

open VcTypes VcChannel VcController Runs
open HvbVcChannel (MuxInput Capabilities)

variable {σ : Type}

/-! ## The sampling loop -/

/-- A finished conversion, with the number of DAC codes that had been written when it began. -/
structure Conversion where
  raw : Int32
  began : Nat
  deriving DecidableEq, Repr

/-- The converter never rests: a conversion begins when the one before ends, and when the input
changes. -/
structure Converter where
  input : MuxInput
  began : Nat
  deriving DecidableEq, Repr

/-- Where the work of the sampling loop is. -/
inductive Place where
  | idle
  -- hvb_vc_submit_read is next
  | submitting (input : MuxInput)
  | reading (input : MuxInput)
  -- hvb_vc_poll_handler is next; without a conversion after a DRDY timeout
  | handling (input : MuxInput) (result : Option Conversion)
  deriving DecidableEq, Repr

/-! ## The command -/

/-- What `vc_runtime_cal_sample_fresh` holds while it waits. -/
structure Wait where
  deadline : Nat
  voltageTsBefore : UInt32
  currentTsBefore : UInt32
  wantVoltage : Bool
  wantCurrent : Bool
  deriving DecidableEq, Repr

/-- `vc_runtime_worker` between its steps. -/
inductive Worker where
  | ready
  | waiting (wait : Wait)
  -- vc_controller_channel_cal_sample is next
  | sampling (timedOut : Bool)
  deriving DecidableEq, Repr

/-- The controller with the sampling loop of one of its channels. -/
structure World (σ : Type) where
  ctrl : Controller σ
  uptimeMs : Nat
  adc : Converter
  place : Place
  worker : Worker
  /-- The raw DAC codes that the channel has been written. -/
  writes : Nat
  /-- The conversion that each half of the measurement buffer comes from. -/
  published : MuxInput → Option Conversion

/-! ## Steps -/

def startNextCycle (caps : Capabilities) : Place :=
  if caps.voltageMeasurement then .submitting .voltage else .submitting .current

/-- A read takes the first conversion of its input that ends. -/
def submitRead (w : World σ) (input : MuxInput) : World σ :=
  { w with
    adc := if w.adc.input = input then w.adc else ⟨input, w.writes⟩
    place := .reading input }

/-- `vc_channel_buffer_publish_voltage` or `vc_channel_buffer_publish_current`. -/
def publishSample (ch : Channel) (input : MuxInput) (raw : Int32) (timestampMs : UInt32) :
    Channel :=
  match input with
  | .voltage => publishVoltage ch raw timestampMs
  | .current => publishCurrent ch raw timestampMs

def publish (i : Nat) (w : World σ) (input : MuxInput) (c : Conversion) : World σ :=
  { w with
    ctrl := (onChannel w.ctrl i fun ch =>
      (.ok, publishSample ch input c.raw (UInt32.ofNat w.uptimeMs))).2
    published := fun j => if j = input then some c else w.published j }

/-- After a voltage comes the current of the same cycle. -/
def nextPlace (caps : Capabilities) (input : MuxInput) : Place :=
  if input = .voltage ∧ caps.currentMeasurement then .submitting .current else startNextCycle caps

def pollHandler (caps : Capabilities) (i : Nat) (w : World σ) (input : MuxInput)
    (result : Option Conversion) : World σ :=
  match result with
  | none => { w with place := startNextCycle caps }
  | some c => { publish i w input c with place := nextPlace caps input }

/-- A conversion ends, and the next one begins. -/
def convert (w : World σ) (raw : Int32) : World σ :=
  { w with
    adc := { w.adc with began := w.writes }
    place := match w.place with
      | .reading input => .handling input (some ⟨raw, w.adc.began⟩)
      | place => place }

def measures (ch : Channel) : MuxInput → Bool
  | .voltage => hasCap ch capVoltageMeasurement
  | .current => hasCap ch capCurrentMeasurement

/-- `vc_runtime_cal_sample_fresh` up to its loop. -/
def calSampleFresh (timeoutMs i : Nat) (w : World σ) : World σ :=
  match w.ctrl.channels[i]? with
  | none => w
  | some ch =>
    if w.ctrl.operatingMode ≠ .calibration then w
    else
      match ch.meas with
      | none => { w with worker := .sampling false }
      | some buf => { w with worker := .waiting {
          deadline := w.uptimeMs + timeoutMs
          voltageTsBefore := buf.voltageTimestampMs
          currentTsBefore := buf.currentTimestampMs
          -- a kind that has never been published is not waited for
          wantVoltage := hasCap ch capVoltageMeasurement && buf.voltageTimestampMs != 0
          wantCurrent := hasCap ch capCurrentMeasurement && buf.currentTimestampMs != 0 } }

/-- One turn of the loop. -/
def checkFresh (i : Nat) (w : World σ) (wait : Wait) : World σ :=
  match w.ctrl.channels[i]?.bind Channel.meas with
  | none => w
  | some buf =>
    let voltageFresh := !wait.wantVoltage || buf.voltageTimestampMs != wait.voltageTsBefore
    let currentFresh := !wait.wantCurrent || buf.currentTimestampMs != wait.currentTsBefore
    if voltageFresh && currentFresh then { w with worker := .sampling false }
    else if wait.deadline ≤ w.uptimeMs then { w with worker := .sampling true }
    else w

/-- The next step of the worker in a CAL_SAMPLE. -/
def workerStep (k : Kconfig) (i : Nat) (w : World σ) : World σ :=
  match w.worker with
  | .ready => w
  | .waiting wait => checkFresh i w wait
  | .sampling _ => { w with ctrl := (channelCalSample k w.ctrl i).2, worker := .ready }

/-- An accepted raw DAC code for channel `i`. -/
def writesDac (k : Kconfig) (ctrl : Controller σ) (i : Nat) (op : ControllerOp σ) : Bool :=
  match op with
  | .channelCalRawDac j _ => j == i && (op.call k ctrl).1 == .ok
  | _ => false

/-- The samples of channel `i` come from its loop alone, and are latched by CAL_SAMPLE alone. -/
def isCommand (i : Nat) : ControllerOp σ → Bool
  | .publishVoltage j _ _ | .publishCurrent j _ _ | .channelCalSample j => j != i
  | _ => true

inductive Event (σ : Type) where
  | elapse (ms : Nat)
  | submit
  | conversion (raw : Int32)
  | timeout
  | handle
  /-- A command other than CAL_SAMPLE, or a tick. -/
  | command (op : ControllerOp σ)
  | calSample
  | worker

structure Setup where
  k : Kconfig
  caps : Capabilities
  timeoutMs : Nat
  channel : Nat

def step (s : Setup) (w : World σ) : Event σ → World σ
  | .elapse ms => { w with uptimeMs := w.uptimeMs + ms }
  | .submit =>
    match w.place with
    | .submitting input => submitRead w input
    | _ => w
  | .conversion raw => convert w raw
  | .timeout =>
    match w.place with
    | .reading input => { w with place := .handling input none }
    | _ => w
  | .handle =>
    match w.place with
    | .handling input result => pollHandler s.caps s.channel w input result
    | _ => w
  | .command op =>
    if w.worker = .ready ∧ isCommand s.channel op then
      { w with
        ctrl := op.step s.k w.ctrl
        writes := if writesDac s.k w.ctrl s.channel op then w.writes + 1 else w.writes }
    else w
  | .calSample => if w.worker = .ready then calSampleFresh s.timeoutMs s.channel w else w
  | .worker => workerStep s.k s.channel w

/-- `vc_controller_init` and `vc_controller_start_sampling`. -/
def initial (s : Setup) (nodes : List Node) (store : σ) (input : MuxInput) : World σ where
  ctrl := VcController.init s.k nodes store
  uptimeMs := 0
  adc := ⟨input, 0⟩
  place := if s.caps.voltageMeasurement || s.caps.currentMeasurement then startNextCycle s.caps
    else .idle
  worker := .ready
  writes := 0
  published := fun _ => none

/-! ## The sample and the DAC code -/

def rawAdc (ch : Channel) : MuxInput → Int32
  | .voltage => ch.rawAdcVoltage
  | .current => ch.rawAdcCurrent

/-- The value was converted after the last DAC code had been written. -/
def convertedSince (w : World σ) (ch : Channel) (input : MuxInput) : Bool :=
  (w.published input).any fun c => c.began == w.writes && c.raw == rawAdc ch input

/-- A sample that is latched without a timeout, with VC_OK and after a raw DAC code, reflects the
code in every kind of measurement that the channel has. -/
def reflectsDac (s : Setup) (w : World σ) : Event σ → Bool
  | .worker =>
    let sampled := channelCalSample s.k w.ctrl s.channel
    w.worker != .sampling false || w.writes == 0 || sampled.1 != .ok ||
      sampled.2.channels[s.channel]?.all fun ch => [MuxInput.voltage, .current].all fun input =>
        !measures ch input || convertedSince w ch input
  | _ => true

def timestamp (buf : ChannelBuffer) : MuxInput → UInt32
  | .voltage => buf.voltageTimestampMs
  | .current => buf.currentTimestampMs

/-- The buffered sample is one of a conversion since the last DAC code. -/
def fresh (w : World σ) (input : MuxInput) : Bool :=
  (w.published input).any fun c => c.began == w.writes

/-- The loop is on its way to publish a conversion of the input that began before the last DAC
code. -/
def staleAhead (caps : Capabilities) (w : World σ) (input : MuxInput) : Bool :=
  match w.place with
  | .idle => false
  | .submitting next => next == input && w.adc.input == input && w.adc.began != w.writes
  | .reading now => now == input && w.adc.began != w.writes
  | .handling now (some c) => now == input && c.began != w.writes
  | .handling _ none => startNextCycle caps == .submitting input && w.adc.input == input &&
      w.adc.began != w.writes

/-- What a CAL_SAMPLE finds for one kind of measurement: a sample of the DAC code, or an older one
with nothing older ahead of the next. -/
def findsFresh (caps : Capabilities) (w : World σ) (ch : Channel) (input : MuxInput) : Bool :=
  ch.meas.any fun buf =>
    fresh w input || timestamp buf input != 0 && !staleAhead caps w input

/-- A CAL_SAMPLE after a raw DAC code is given when each kind of measurement can be waited for. -/
def keepsFresh (s : Setup) (w : World σ) : Event σ → Bool
  | .calSample => w.worker != .ready || w.writes == 0 || w.ctrl.operatingMode != .calibration ||
      w.ctrl.channels[s.channel]?.all fun ch => [MuxInput.voltage, .current].all fun input =>
        !measures ch input || findsFresh s.caps w ch input
  | _ => true

/-! ## The order of conversions -/

/-- Each conversion begins after the ones published before it, and none after the last DAC code that
has been written. -/
structure Ordered (w : World σ) : Prop where
  now : w.adc.began ≤ w.writes
  reading : ∀ input, w.place = .reading input → w.adc.input = input
  handling : ∀ input result, w.place = .handling input result → w.adc.input = input
  done : ∀ input c, w.place = .handling input (some c) → c.began ≤ w.adc.began
  published : ∀ input, ∀ c ∈ w.published input, c.began ≤ w.adc.began
  before : ∀ input, ∀ c ∈ w.published input, ∀ now c', w.place = .handling now (some c') →
    c.began ≤ c'.began

theorem startNextCycle_submits (caps : Capabilities) :
    ∃ input, startNextCycle caps = .submitting input := by
  unfold startNextCycle
  split
  · exact ⟨_, rfl⟩
  · exact ⟨_, rfl⟩

theorem nextPlace_submits (caps : Capabilities) (input : MuxInput) :
    ∃ next, nextPlace caps input = .submitting next := by
  unfold nextPlace
  split
  · exact ⟨_, rfl⟩
  · exact startNextCycle_submits caps

section Order

variable {s : Setup} {w : World σ}

/-- A place at which no conversion is waited for or handled. -/
theorem Ordered.submitting (h : Ordered w) {next : MuxInput} :
    Ordered { w with place := .submitting next } :=
  { h with
    reading := nofun
    handling := nofun
    done := nofun
    before := nofun }

theorem Ordered.submitRead (h : Ordered w) (input : MuxInput) : Ordered (submitRead w input) := by
  have hbegan : w.adc.began ≤ (CalSample.submitRead w input).adc.began := by
    unfold CalSample.submitRead
    dsimp only
    split
    · exact Nat.le_refl _
    · exact h.now
  refine ⟨?_, ?_, nofun, nofun, fun j c hc => Nat.le_trans (h.published j c hc) hbegan, nofun⟩
  · unfold CalSample.submitRead
    dsimp only
    split
    · exact h.now
    · exact Nat.le_refl _
  · intro j hj
    obtain rfl : input = j := by simpa [CalSample.submitRead] using hj
    unfold CalSample.submitRead
    dsimp only
    split
    next hsame => exact hsame
    · rfl

theorem Ordered.convert (h : Ordered w) (raw : Int32) : Ordered (convert w raw) := by
  have hpublished : ∀ input, ∀ c ∈ w.published input, c.began ≤ w.writes := fun input c hc =>
    Nat.le_trans (h.published input c hc) h.now
  cases hplace : w.place with
  | reading input =>
    have hconvert : CalSample.convert w raw =
        { w with
          adc := { w.adc with began := w.writes }
          place := .handling input (some ⟨raw, w.adc.began⟩) } := by
      simp [CalSample.convert, hplace]
    rw [hconvert]
    refine ⟨Nat.le_refl _, nofun, ?_, ?_, hpublished, ?_⟩
    · rintro _ _ ⟨⟩
      exact h.reading input hplace
    · rintro _ _ ⟨⟩
      exact h.now
    · rintro j c hc _ _ ⟨⟩
      exact h.published j c hc
  | _ =>
    have hconvert : CalSample.convert w raw =
        { w with adc := { w.adc with began := w.writes } } := by
      simp [CalSample.convert, hplace]
    rw [hconvert]
    exact ⟨Nat.le_refl _, h.reading, h.handling,
      fun j c hj => Nat.le_trans (h.done j c hj) h.now, hpublished, h.before⟩

theorem Ordered.timeout (h : Ordered w) {input : MuxInput} (hplace : w.place = .reading input) :
    Ordered { w with place := .handling input none } := by
  refine ⟨h.now, nofun, ?_, nofun, h.published, nofun⟩
  rintro _ _ ⟨⟩
  exact h.reading input hplace

theorem Ordered.publish (h : Ordered w) {i : Nat} {input : MuxInput} {c : Conversion}
    (hplace : w.place = .handling input (some c)) {next : MuxInput} :
    Ordered { publish i w input c with place := .submitting next } := by
  refine ⟨h.now, nofun, nofun, nofun, ?_, nofun⟩
  intro j c' hc'
  by_cases hj : j = input
  · simp only [CalSample.publish, if_pos hj, Option.mem_def, Option.some.injEq] at hc'
    obtain rfl := hc'
    exact h.done input c hplace
  · simp only [CalSample.publish, if_neg hj] at hc'
    exact h.published j c' hc'

end Order

/-! ## What the loop does to a kind of measurement -/

section Loop

variable {caps : Capabilities} {w : World σ} {input : MuxInput}

theorem fresh_iff : fresh w input ↔ ∃ c ∈ w.published input, c.began = w.writes := by
  simp [fresh, Option.any_eq_true]

/-- Nothing older follows a sample of the DAC code. -/
theorem clear_of_fresh (h : Ordered w) (hfresh : fresh w input) :
    staleAhead caps w input = false := by
  obtain ⟨c, hc, hbegan⟩ := fresh_iff.mp hfresh
  have hnow : w.adc.began = w.writes :=
    Nat.le_antisymm h.now (hbegan ▸ h.published input c hc)
  unfold staleAhead
  split
  · rfl
  · simp [hnow]
  · simp [hnow]
  next now c' hplace =>
    have hle : w.writes ≤ c'.began := hbegan ▸ h.before input c hc now c' hplace
    have hdone : c'.began ≤ w.writes := Nat.le_trans (h.done now c' hplace) h.now
    have hsame : c'.began = w.writes := Nat.le_antisymm hdone hle
    simp [hsame]
  · simp [hnow]

theorem clear_submitRead {next : MuxInput} (hplace : w.place = .submitting next)
    (hclear : staleAhead caps w input = false) :
    staleAhead caps (submitRead w next) input = false := by
  simp only [staleAhead, hplace, submitRead] at hclear ⊢
  by_cases hsame : w.adc.input = next
  · rw [if_pos hsame]
    subst hsame
    simpa using hclear
  · simp [if_neg hsame]

theorem clear_convert (raw : Int32) (hclear : staleAhead caps w input = false) :
    staleAhead caps (convert w raw) input = false := by
  cases hplace : w.place with
  | handling now result =>
    cases result with
    | none => simp [staleAhead, convert, hplace]
    | some c => simpa [staleAhead, convert, hplace] using hclear
  | reading now => simpa [staleAhead, convert, hplace] using hclear
  | _ => simp [staleAhead, convert, hplace]

theorem clear_timeout {now : MuxInput} (h : Ordered w) (hplace : w.place = .reading now)
    (hclear : staleAhead caps w input = false) :
    staleAhead caps { w with place := .handling now none } input = false := by
  have hinput := h.reading now hplace
  simp only [staleAhead, hplace] at hclear ⊢
  by_cases hsame : now = input
  · subst hsame
    have hnow : w.adc.began = w.writes := by simpa using hclear
    simp [hnow]
  · simp [hinput, hsame]

theorem clear_handle_none {now : MuxInput} (hplace : w.place = .handling now none)
    (hclear : staleAhead caps w input = false) :
    staleAhead caps { w with place := startNextCycle caps } input = false := by
  obtain ⟨next, hnext⟩ := startNextCycle_submits caps
  simp only [staleAhead, hplace, hnext] at hclear ⊢
  simpa using hclear

/-- A sample that is published with nothing older ahead is one of the DAC code. -/
theorem fresh_publish (i : Nat) {now : MuxInput} {c : Conversion}
    (hplace : w.place = .handling now (some c)) (hclear : staleAhead caps w now = false) :
    fresh (publish i w now c) now := by
  have hbegan : c.began = w.writes := by simpa [staleAhead, hplace] using hclear
  simp [fresh, publish, hbegan]

theorem fresh_publish_other (i : Nat) {now : MuxInput} {c : Conversion} (hother : input ≠ now) :
    fresh (publish i w now c) input = fresh w input := by
  simp [fresh, publish, hother]

theorem clear_publish {i : Nat} {now : MuxInput} {c : Conversion} (h : Ordered w)
    (hplace : w.place = .handling now (some c)) (hclear : staleAhead caps w input = false) :
    staleAhead caps { publish i w now c with place := nextPlace caps now } input = false := by
  have hordered : Ordered { publish i w now c with place := nextPlace caps now } := by
    obtain ⟨next, hnext⟩ := nextPlace_submits caps now
    rw [hnext]
    exact h.publish hplace
  by_cases hsame : input = now
  · subst hsame
    exact clear_of_fresh hordered (fresh_publish i hplace hclear)
  · obtain ⟨next, hnext⟩ := nextPlace_submits caps now
    have hinput : w.adc.input ≠ input := by
      rw [h.handling now _ hplace]
      exact fun heq => hsame heq.symm
    simp [staleAhead, hnext, publish, hinput]

end Loop

/-! ## The measurement buffer -/

section Meas

variable (k : Kconfig) (ch : Channel)

/-- The calls that are no publication leave the buffer. -/
theorem meas_step {op : ChannelOp} (hvoltage : ∀ raw ts, op ≠ .publishVoltage raw ts)
    (hcurrent : ∀ raw ts, op ≠ .publishCurrent raw ts) : (op.step k ch).meas = ch.meas := by
  have happlied : ∀ m : Channel, (applyHw m).meas = m.meas := fun m =>
    congrArg Gear.meas (gear_applyHw m)
  have hother : op.refits = false → (op.step k ch).meas = ch.meas := fun h =>
    congrArg Gear.meas (gear_step k ch h)
  cases op with
  | publishVoltage raw ts => exact absurd rfl (hvoltage raw ts)
  | publishCurrent raw ts => exact absurd rfl (hcurrent raw ts)
  | setCalField field value =>
    show (setCalField ch field value).2.meas = ch.meas
    unfold setCalField
    split
    · rfl
    · exact happlied _
  | loadCal cal => exact happlied _
  | _ => exact hother rfl

end Meas

theorem no_publication {k : Kconfig} {ctrl : Controller σ} {op : ControllerOp σ} {i : Nat}
    {ch : Channel} {c : ChannelOp} (hop : isCommand i op) (h : c ∈ op.channelOps k ctrl i ch) :
    (∀ raw ts, c ≠ .publishVoltage raw ts) ∧ ∀ raw ts, c ≠ .publishCurrent raw ts := by
  rcases mem_channelOps h with ⟨mode, -, hc⟩ | hmade
  · rcases mem_transitionOps hc with ⟨entering, rfl⟩ | ⟨rfl, -⟩ | ⟨rfl, -⟩ <;>
      exact ⟨fun _ _ => nofun, fun _ _ => nofun⟩
  · refine ⟨?_, ?_⟩
    · rintro raw ts rfl
      cases hmade with
      | run dtMs _ _ hc => simp [runOps] at hc
      | publishVoltage => simp [isCommand] at hop
    · rintro raw ts rfl
      cases hmade with
      | run dtMs _ _ hc => simp [runOps] at hc
      | publishCurrent => simp [isCommand] at hop

/-- A command leaves the measurement buffer of the channel. -/
theorem meas_command {k : Kconfig} {ctrl : Controller σ} {op : ControllerOp σ} {i : Nat}
    {ch' : Channel} (hop : isCommand i op) (h : ch' ∈ (op.step k ctrl).channels[i]?) :
    ∃ ch ∈ ctrl.channels[i]?, ch'.meas = ch.meas := by
  rw [Option.mem_def, getElem?_step] at h
  obtain ⟨ch, hch, rfl⟩ := Option.map_eq_some_iff.mp h
  refine ⟨ch, hch, exec_invariant (I := fun c : Channel => c.meas = ch.meas)
    (Q := fun _ c => (∀ raw ts, c ≠ .publishVoltage raw ts) ∧ ∀ raw ts, c ≠ .publishCurrent raw ts)
    (fun c o hc ho => (meas_step k c ho.1 ho.2).trans hc) rfl
    (along_of_forall (fun c hc _ => no_publication hop hc) _)⟩

/-! ## The invariant -/

def rawOf (buf : ChannelBuffer) : MuxInput → Int32
  | .voltage => buf.rawVoltage
  | .current => buf.rawCurrent

def Wait.before (wait : Wait) : MuxInput → UInt32
  | .voltage => wait.voltageTsBefore
  | .current => wait.currentTsBefore

def Wait.wants (wait : Wait) : MuxInput → Bool
  | .voltage => wait.wantVoltage
  | .current => wait.wantCurrent

/-- The buffer holds the conversions that were published last. -/
def Buffered (i : Nat) (w : World σ) : Prop :=
  ∀ ch ∈ w.ctrl.channels[i]?, ∀ buf ∈ ch.meas, ∀ input, ∀ c ∈ w.published input,
    rawOf buf input = c.raw

/-- A kind of measurement in the loop of the command: there is a sample of the DAC code, or the loop
waits for the next sample, which is one. -/
def Awaited (caps : Capabilities) (w : World σ) (wait : Wait) (buf : ChannelBuffer)
    (input : MuxInput) : Prop :=
  fresh w input ∨ timestamp buf input = wait.before input ∧ wait.wants input ∧
    staleAhead caps w input = false

def Progress (caps : Capabilities) (w : World σ) (ch : Channel) (input : MuxInput) : Prop :=
  match w.worker with
  | .ready => True
  | .waiting wait => ∃ buf ∈ ch.meas, Awaited caps w wait buf input
  | .sampling timedOut => timedOut = false → ch.meas.isSome ∧ fresh w input

structure Inv (s : Setup) (w : World σ) : Prop where
  ordered : Ordered w
  buffered : Buffered s.channel w
  progress : w.writes ≠ 0 → ∀ ch ∈ w.ctrl.channels[s.channel]?, ∀ input, measures ch input →
    Progress s.caps w ch input

section Steps

variable {s : Setup} {w : World σ}

/-- A step of the loop that publishes nothing. -/
theorem Inv.loop (h : Inv s w) {adc : Converter} {place : Place}
    (hordered : Ordered { w with adc := adc, place := place })
    (hclear : ∀ input, staleAhead s.caps w input = false →
      staleAhead s.caps { w with adc := adc, place := place } input = false) :
    Inv s { w with adc := adc, place := place } := by
  refine ⟨hordered, h.buffered, fun hwrites ch hch input hmeasures => ?_⟩
  have hprogress := h.progress hwrites ch hch input hmeasures
  unfold Progress at hprogress ⊢
  dsimp only
  split
  · trivial
  next wait hworker =>
    rw [hworker] at hprogress
    obtain ⟨buf, hbuf, hfresh | ⟨hts, hwants, hahead⟩⟩ := hprogress
    · exact ⟨buf, hbuf, .inl hfresh⟩
    · exact ⟨buf, hbuf, .inr ⟨hts, hwants, hclear input hahead⟩⟩
  next timedOut hworker =>
    rw [hworker] at hprogress
    exact hprogress

theorem Inv.convert (h : Inv s w) (raw : Int32) : Inv s (convert w raw) :=
  h.loop (h.ordered.convert raw) fun _ => clear_convert raw

theorem Inv.submitRead (h : Inv s w) {input : MuxInput} (hplace : w.place = .submitting input) :
    Inv s (submitRead w input) :=
  h.loop (h.ordered.submitRead input) fun _ => clear_submitRead hplace

theorem Inv.timeout (h : Inv s w) {input : MuxInput} (hplace : w.place = .reading input) :
    Inv s { w with place := .handling input none } :=
  h.loop (h.ordered.timeout hplace) fun _ => clear_timeout h.ordered hplace

theorem Inv.command (h : Inv s w) {op : ControllerOp σ} (hready : w.worker = .ready)
    (hop : isCommand s.channel op) {writes : Nat} (hwrites : w.writes ≤ writes) :
    Inv s { w with ctrl := op.step s.k w.ctrl, writes := writes } := by
  refine ⟨{ h.ordered with now := Nat.le_trans h.ordered.now hwrites }, ?_, ?_⟩
  · intro ch' hch' buf hbuf
    obtain ⟨ch, hch, hmeas⟩ := meas_command hop hch'
    rw [hmeas] at hbuf
    exact h.buffered ch hch buf hbuf
  · intro _ ch _ input _
    simp [Progress, hready]

/-! ### A publication -/

def setSample (buf : ChannelBuffer) (input : MuxInput) (raw : Int32) (timestampMs : UInt32) :
    ChannelBuffer :=
  match input with
  | .voltage => { buf with rawVoltage := raw, voltageTimestampMs := timestampMs }
  | .current => { buf with rawCurrent := raw, currentTimestampMs := timestampMs }

theorem meas_publishSample (ch : Channel) (input : MuxInput) (raw : Int32) (timestampMs : UInt32) :
    (publishSample ch input raw timestampMs).meas =
      ch.meas.map fun buf => setSample buf input raw timestampMs := by
  cases input <;> rfl

theorem measures_publishSample (ch : Channel) (input : MuxInput) (raw : Int32)
    (timestampMs : UInt32) (j : MuxInput) :
    measures (publishSample ch input raw timestampMs) j = measures ch j := by
  cases input <;> cases j <;> rfl

theorem rawOf_setSample (buf : ChannelBuffer) (input : MuxInput) (raw : Int32) (ts : UInt32)
    (j : MuxInput) :
    rawOf (setSample buf input raw ts) j = if j = input then raw else rawOf buf j := by
  cases input <;> cases j <;> rfl

theorem timestamp_setSample {buf : ChannelBuffer} {input j : MuxInput} {raw : Int32} {ts : UInt32}
    (h : j ≠ input) : timestamp (setSample buf input raw ts) j = timestamp buf j := by
  cases input <;> cases j <;> first | rfl | exact absurd rfl h

theorem mem_publish {i : Nat} {input : MuxInput} {c : Conversion} {ch' : Channel}
    (h : ch' ∈ (publish i w input c).ctrl.channels[i]?) : ∃ ch ∈ w.ctrl.channels[i]?,
      ch' = publishSample ch input c.raw (UInt32.ofNat w.uptimeMs) := by
  have hmap := getElem?_onChannel w.ctrl i (fun ch =>
    (.ok, publishSample ch input c.raw (UInt32.ofNat w.uptimeMs))) i
  rw [Option.mem_def, publish, hmap] at h
  obtain ⟨ch, hch, rfl⟩ := Option.map_eq_some_iff.mp h
  exact ⟨ch, hch, if_neg (by simp)⟩

/-- A fresh sample is followed by fresh ones. -/
theorem fresh_after (caps : Capabilities) (i : Nat) {input j : MuxInput} {c : Conversion}
    (h : Ordered w) (hplace : w.place = .handling input (some c)) (hfresh : fresh w j) :
    fresh (publish i w input c) j := by
  by_cases hsame : j = input
  · subst hsame
    have hclear : staleAhead caps w j = false := clear_of_fresh h hfresh
    exact fresh_publish i hplace hclear
  · rw [fresh_publish_other i hsame]
    exact hfresh

@[simp] theorem publish_worker {i : Nat} {input : MuxInput} {c : Conversion} :
    (publish i w input c).worker = w.worker := rfl

theorem Inv.handle_some (h : Inv s w) {input : MuxInput} {c : Conversion}
    (hplace : w.place = .handling input (some c)) :
    Inv s { publish s.channel w input c with place := nextPlace s.caps input } := by
  have hordered : Ordered { publish s.channel w input c with place := nextPlace s.caps input } := by
    obtain ⟨next, hnext⟩ := nextPlace_submits s.caps input
    rw [hnext]
    exact h.ordered.publish hplace
  refine ⟨hordered, ?_, fun hwrites ch' hch' j hmeasures => ?_⟩
  · intro ch' hch' buf' hbuf' j c' hc'
    obtain ⟨ch, hch, rfl⟩ := mem_publish hch'
    rw [meas_publishSample, Option.mem_def] at hbuf'
    obtain ⟨buf, hbuf, rfl⟩ := Option.map_eq_some_iff.mp hbuf'
    rw [rawOf_setSample]
    by_cases hsame : j = input
    · simp only [CalSample.publish, if_pos hsame, Option.mem_def, Option.some.injEq] at hc'
      rw [if_pos hsame, hc']
    · simp only [CalSample.publish, if_neg hsame] at hc'
      rw [if_neg hsame]
      exact h.buffered ch hch buf hbuf j c' hc'
  · obtain ⟨ch, hch, rfl⟩ := mem_publish hch'
    rw [measures_publishSample] at hmeasures
    have hprogress := h.progress hwrites ch hch j hmeasures
    unfold Progress at hprogress ⊢
    rw [meas_publishSample]
    cases hworker : w.worker with
    | ready => simp only [publish_worker, hworker]
    | waiting wait =>
      rw [hworker] at hprogress
      obtain ⟨buf, hbuf, hawaited⟩ := hprogress
      simp only [publish_worker, hworker]
      refine ⟨_, Option.map_eq_some_iff.mpr ⟨buf, hbuf, rfl⟩, ?_⟩
      rcases hawaited with hfresh | ⟨hts, hwants, hahead⟩
      · exact .inl (fresh_after s.caps s.channel h.ordered hplace hfresh)
      · by_cases hsame : j = input
        · subst hsame
          exact .inl (fresh_publish s.channel hplace hahead)
        · exact .inr ⟨(timestamp_setSample hsame).trans hts, hwants,
            clear_publish h.ordered hplace hahead⟩
    | sampling timedOut =>
      rw [hworker] at hprogress
      simp only [publish_worker, hworker]
      intro htimeout
      obtain ⟨hbuf, hfresh⟩ := hprogress htimeout
      exact ⟨by simpa using hbuf, fresh_after s.caps s.channel h.ordered hplace hfresh⟩

theorem Inv.handle (h : Inv s w) {input : MuxInput} {result : Option Conversion}
    (hplace : w.place = .handling input result) :
    Inv s (pollHandler s.caps s.channel w input result) := by
  cases result with
  | some c => exact h.handle_some hplace
  | none =>
    obtain ⟨next, hnext⟩ := startNextCycle_submits s.caps
    refine h.loop ?_ fun _ => clear_handle_none hplace
    rw [hnext]
    exact h.ordered.submitting

/-! ### The command -/

theorem Inv.enter (h : Inv s w) {worker : Worker}
    (hprogress : w.writes ≠ 0 → ∀ ch ∈ w.ctrl.channels[s.channel]?, ∀ input, measures ch input →
      Progress s.caps { w with worker := worker } ch input) : Inv s { w with worker := worker } :=
  ⟨{ h.ordered with }, h.buffered, hprogress⟩

theorem kinds_all {p : MuxInput → Bool} (h : [MuxInput.voltage, .current].all p)
    (input : MuxInput) : p input := by
  simp only [List.all_cons, List.all_nil, Bool.and_true, Bool.and_eq_true] at h
  cases input with
  | voltage => exact h.1
  | current => exact h.2

/-- A CAL_SAMPLE that finds each kind of measurement fresh, or old and clear. -/
theorem Inv.calSample (h : Inv s w) (hready : w.worker = .ready)
    (hkeeps : keepsFresh s w .calSample) : Inv s (calSampleFresh s.timeoutMs s.channel w) := by
  unfold calSampleFresh
  split
  · exact h
  next ch hch =>
  split
  · exact h
  next hmode =>
  have hmode : w.ctrl.operatingMode = .calibration := Decidable.not_not.mp hmode
  have hfinds : w.writes ≠ 0 → ∀ input, measures ch input → findsFresh s.caps w ch input := by
    intro hwrites input hmeasures
    simp only [keepsFresh, hready, hch, hmode, bne_self_eq_false, Bool.false_or, Option.all_some,
      Bool.or_eq_true, beq_iff_eq, hwrites, false_or] at hkeeps
    have hkind := kinds_all (hkeeps.resolve_left (by simp)) input
    simpa [hmeasures] using hkind
  split
  next hmeas =>
    refine h.enter fun hwrites ch' hch' input hmeasures => ?_
    obtain rfl : ch = ch' := Option.some.inj (hch.symm.trans hch')
    have hfind := hfinds hwrites input hmeasures
    simp [findsFresh, hmeas] at hfind
  next buf hmeas =>
    refine h.enter fun hwrites ch' hch' input hmeasures => ?_
    obtain rfl : ch = ch' := Option.some.inj (hch.symm.trans hch')
    have hfind := hfinds hwrites input hmeasures
    simp only [findsFresh, hmeas, Option.any_some, Bool.or_eq_true, Bool.and_eq_true,
      bne_iff_ne, ne_eq, Bool.not_eq_true'] at hfind
    refine ⟨buf, hmeas, ?_⟩
    rcases hfind with hfresh | ⟨hts, hahead⟩
    · exact .inl hfresh
    · refine .inr ⟨?_, ?_, hahead⟩
      · cases input <;> rfl
      · cases input with
        | voltage => simpa [Wait.wants, timestamp] using ⟨hmeasures, hts⟩
        | current => simpa [Wait.wants, timestamp] using ⟨hmeasures, hts⟩

theorem Inv.checkFresh (h : Inv s w) {wait : Wait} (hworker : w.worker = .waiting wait) :
    Inv s (checkFresh s.channel w wait) := by
  unfold CalSample.checkFresh
  split
  · exact h
  next buf hbuf =>
  dsimp only
  split
  next hmoved =>
    refine h.enter fun hwrites ch hch input hmeasures => ?_
    have hprogress := h.progress hwrites ch hch input hmeasures
    simp only [Progress, hworker] at hprogress
    obtain ⟨buf', hbuf', hawaited⟩ := hprogress
    obtain rfl : buf' = buf := by
      have hmeas : w.ctrl.channels[s.channel]?.bind Channel.meas = some buf' := by
        rw [Option.mem_def.mp hch]
        exact hbuf'
      exact Option.some.inj (hmeas.symm.trans hbuf)
    intro _
    refine ⟨by rw [Option.mem_def.mp hbuf']; rfl, ?_⟩
    rcases hawaited with hfresh | ⟨hts, hwants, -⟩
    · exact hfresh
    · simp only [Bool.and_eq_true, Bool.or_eq_true, Bool.not_eq_true', bne_iff_ne, ne_eq] at hmoved
      cases input with
      | voltage => exact absurd hts (hmoved.1.resolve_left (by simpa [Wait.wants] using hwants))
      | current => exact absurd hts (hmoved.2.resolve_left (by simpa [Wait.wants] using hwants))
  next =>
  split
  · refine h.enter fun _ _ _ _ _ => ?_
    exact fun htimeout => nomatch htimeout
  · exact h

theorem mem_channelCalSample {k : Kconfig} {ctrl : Controller σ} {i : Nat} {ch' : Channel}
    (h : ch' ∈ (channelCalSample k ctrl i).2.channels[i]?) : ∃ ch ∈ ctrl.channels[i]?,
      ch' = if ctrl.operatingMode = .calibration then (VcChannel.calSample ch).2 else ch := by
  rw [Option.mem_def, channelCalSample, getElem?_inSession] at h
  obtain ⟨ch, hch, rfl⟩ := Option.map_eq_some_iff.mp h
  refine ⟨ch, hch, ?_⟩
  by_cases hmode : ctrl.operatingMode = .calibration <;> simp [hmode]

theorem Inv.latch (h : Inv s w) :
    Inv s { w with ctrl := (channelCalSample s.k w.ctrl s.channel).2, worker := .ready } := by
  refine ⟨{ h.ordered with }, ?_, fun _ _ _ _ _ => trivial⟩
  intro ch' hch' buf hbuf
  obtain ⟨ch, hch, rfl⟩ := mem_channelCalSample hch'
  have hmeas : (ChannelOp.calSample.step s.k ch).meas = ch.meas :=
    meas_step s.k ch (fun _ _ => nofun) fun _ _ => nofun
  have hmeas : (VcChannel.calSample ch).2.meas = ch.meas := hmeas
  split at hbuf
  · rw [hmeas] at hbuf
    exact h.buffered ch hch buf hbuf
  · exact h.buffered ch hch buf hbuf

theorem Inv.step (h : Inv s w) {e : Event σ} (hkeeps : keepsFresh s w e) : Inv s (step s w e) := by
  cases e with
  | elapse ms => exact ⟨{ h.ordered with }, h.buffered, h.progress⟩
  | submit =>
    unfold CalSample.step
    dsimp only
    split
    next hplace => exact h.submitRead hplace
    · exact h
  | conversion raw => exact h.convert raw
  | timeout =>
    unfold CalSample.step
    dsimp only
    split
    next hplace => exact h.timeout hplace
    · exact h
  | handle =>
    unfold CalSample.step
    dsimp only
    split
    next hplace => exact h.handle hplace
    · exact h
  | command op =>
    unfold CalSample.step
    dsimp only
    split
    next hop =>
      refine h.command hop.1 hop.2 ?_
      split <;> omega
    · exact h
  | calSample =>
    unfold CalSample.step
    dsimp only
    split
    next hready => exact h.calSample hready hkeeps
    · exact h
  | worker =>
    show Inv s (workerStep s.k s.channel w)
    unfold workerStep
    split
    · exact h
    next wait hworker => exact h.checkFresh hworker
    · exact h.latch

end Steps

/-! ## Runs -/

theorem inCalibration_of_sampled {k : Kconfig} {ctrl : Controller σ} {i : Nat}
    (h : (channelCalSample k ctrl i).1 = .ok) : ctrl.operatingMode = .calibration := by
  refine Decidable.byContradiction fun hmode => ?_
  have hstatus : (onChannel ctrl i (sessionCall ctrl VcChannel.calSample)).1 ≠ .ok := by
    unfold onChannel sessionCall
    split <;> simp [hmode]
  rw [channelCalSample, inSession, if_neg hstatus] at h
  exact hstatus h

theorem measures_calSample (ch : Channel) (input : MuxInput) :
    measures (VcChannel.calSample ch).2 input = measures ch input := by
  have hcaps : (VcChannel.calSample ch).2.capabilities = ch.capabilities := by
    unfold VcChannel.calSample
    dsimp only
    split <;> rfl
  cases input <;> simp [measures, VcChannel.hasCap, hcaps]

theorem rawAdc_calSample {ch : Channel} {buf : ChannelBuffer} {input : MuxInput}
    (hmeas : ch.meas = some buf) (hmeasures : measures ch input) :
    rawAdc (VcChannel.calSample ch).2 input = rawOf buf input := by
  cases input with
  | voltage =>
    have hcap : VcChannel.hasCap ch capVoltageMeasurement := hmeasures
    simp [VcChannel.calSample, rawAdc, rawOf, hcap, hmeas]
  | current =>
    have hcap : VcChannel.hasCap ch capCurrentMeasurement := hmeasures
    simp [VcChannel.calSample, rawAdc, rawOf, hcap, hmeas]

theorem reflects_of_inv {s : Setup} {w : World σ} (h : Inv s w) (e : Event σ) :
    reflectsDac s w e := by
  cases e with
  | worker =>
    simp only [reflectsDac, Bool.or_eq_true, bne_iff_ne, ne_eq, beq_iff_eq]
    by_cases hworker : ¬w.worker = .sampling false
    · exact .inl (.inl (.inl hworker))
    have hworker : w.worker = .sampling false := Decidable.not_not.mp hworker
    by_cases hwrites : w.writes = 0
    · exact .inl (.inl (.inr hwrites))
    by_cases hok : ¬(channelCalSample s.k w.ctrl s.channel).1 = .ok
    · exact .inl (.inr hok)
    have hok : (channelCalSample s.k w.ctrl s.channel).1 = .ok := Decidable.not_not.mp hok
    refine .inr ?_
    have hmode := inCalibration_of_sampled hok
    rw [Option.all_eq_true]
    intro ch' hch'
    obtain ⟨ch, hch, rfl⟩ := mem_channelCalSample hch'
    rw [if_pos hmode, List.all_eq_true]
    intro input _
    cases hmeasures : measures ch input with
    | false => simp [measures_calSample, hmeasures]
    | true =>
      have hprogress := h.progress hwrites ch hch input hmeasures
      simp only [Progress, hworker] at hprogress
      obtain ⟨hbuf, hfresh⟩ := hprogress trivial
      obtain ⟨buf, hbuf⟩ := Option.isSome_iff_exists.mp hbuf
      obtain ⟨c, hc, hbegan⟩ := fresh_iff.mp hfresh
      have hraw := h.buffered ch hch buf hbuf input c hc
      have hpublished : w.published input = some c := hc
      simp [convertedSince, hpublished, hbegan, rawAdc_calSample hbuf hmeasures, hraw]
  | _ => rfl

theorem inv_initial (s : Setup) (nodes : List Node) (store : σ) (input : MuxInput) :
    Inv s (initial s nodes store input) := by
  have hplace : (∃ next, (initial s nodes store input).place = .submitting next) ∨
      (initial s nodes store input).place = .idle := by
    unfold initial
    dsimp only
    split
    · exact .inl (startNextCycle_submits s.caps)
    · exact .inr rfl
  have hreading : ∀ now, (initial s nodes store input).place ≠ .reading now := by
    intro now h
    rcases hplace with ⟨next, hnext⟩ | hidle <;> simp_all
  have hhandling : ∀ now result, (initial s nodes store input).place ≠ .handling now result := by
    intro now result h
    rcases hplace with ⟨next, hnext⟩ | hidle <;> simp_all
  exact {
    ordered := {
      now := Nat.le_refl 0
      reading := fun now h => absurd h (hreading now)
      handling := fun now result h => absurd h (hhandling now result)
      done := fun now c h => absurd h (hhandling now _)
      published := fun _ _ h => nomatch h
      before := fun _ _ h => nomatch h }
    buffered := fun _ _ _ _ _ _ h => nomatch h
    progress := fun h => absurd rfl h }

/-- In every run in which a CAL_SAMPLE after a raw DAC code finds, for each kind of measurement that
the channel has, a sample of that code or an older one with nothing older ahead, what it latches
without a timeout was converted after the code had been written. -/
theorem calSample_fresh (s : Setup) (nodes : List Node) (store : σ) (input : MuxInput)
    (events : List (Event σ))
    (hkeeps : Along (step s) (fun w e => keepsFresh s w e) (initial s nodes store input) events) :
    Along (step s) (fun w e => reflectsDac s w e) (initial s nodes store input) events :=
  Along.of_invariant (fun _ _ h hQ => Inv.step h hQ) (fun _ e h _ => reflects_of_inv h e)
    (inv_initial s nodes store input) hkeeps

def hvbSetup : Setup := ⟨Kconfig.hvb, ⟨true, true⟩, 1000, 0⟩

/-- One cycle of the loop, in which the current is published or times out. -/
def cycle (voltage current : Event Unit) : List (Event Unit) :=
  [.elapse 100, .submit, voltage, .handle, .elapse 100, .submit, current, .handle]

def enterSession : List (Event Unit) :=
  [.command (.calibrationUnlock calUnlockStep1), .command (.calibrationUnlock calUnlockStep2),
    .command (.setOperatingMode .calibration), .command (.channelCalOutputEnable 0 true)]

/-- A code written between two cycles. -/
theorem calSample_fresh_example :
    Along (step hvbSetup) (fun w e => reflectsDac hvbSetup w e)
      (initial hvbSetup [dacNode] () .current)
      (enterSession ++ cycle (.conversion 10) (.conversion 11) ++
        [.command (.channelCalRawDac 0 1000), .calSample] ++
        cycle (.conversion 20) (.conversion 21) ++ [.worker, .worker]) :=
  calSample_fresh hvbSetup [dacNode] () .current _ (by decide +kernel)

/-- A conversion of the voltage that is under way when the code is written, and a current that has
never been published: neither sample is one of the code. -/
theorem calSample_stale :
    (¬ ∀ events, Along (step hvbSetup) (fun w e => reflectsDac hvbSetup w e)
      (initial hvbSetup [dacNode] () .current)
      (enterSession ++ cycle (.conversion 10) (.conversion 11) ++ events)) ∧
    ¬ ∀ events, Along (step hvbSetup) (fun w e => reflectsDac hvbSetup w e)
      (initial hvbSetup [dacNode] () .current)
      (enterSession ++ cycle (.conversion 10) .timeout ++ events) := by
  refine ⟨fun h => ?_, fun h => ?_⟩
  · have hrun := h [.submit, .command (.channelCalRawDac 0 1000), .calSample, .elapse 100,
      .conversion 20, .handle, .submit, .elapse 100, .conversion 21, .handle, .worker, .worker]
    revert hrun
    decide +kernel
  · have hrun := h ([.command (.channelCalRawDac 0 1000), .calSample] ++
      cycle (.conversion 20) .timeout ++ [.worker, .worker])
    revert hrun
    decide +kernel

end CalSample
