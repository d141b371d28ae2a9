import HvbFirmware.SweepEnd
import HvbFirmware.ModbusRegister

/-!
# The points of a sweep

A snapshot that cannot be read is a struct of zeros, and the sweep takes it for a measurement. The
raw voltage and the raw current are read in one batch, and the firmware refuses the batch to
a channel that does not measure both.
-/
namespace SweepPoints

open VcTypes PsbBoardSession ModbusRegister SweepData Interaction HostSession CalibrationWorker
  SweepEnd

variable {ch : ℤ} {cfg : SweepConfig}

/-! ## Where a point comes from -/

def startsRound (ch : ℤ) : SweepEvent → Bool
  | ⟨.session (.writeRegsInternal addr _ _), _⟩ => addr = chAddr ch 31
  | _ => false

/-- The stretches of a sweep, each from the write of a DAC code to the next. -/
def rounds (ch : ℤ) : List SweepEvent → List (List SweepEvent)
  | [] => []
  | e :: t =>
    if startsRound ch e then (e :: t.takeWhile (!startsRound ch ·)) :: rounds ch t
    else rounds ch t

/-- The read of the raw voltage and the raw current. -/
def rawCall (ch : ℤ) : HostCall SweepSignal :=
  .session (.readRegsInternal false (chAddr ch 12) 4 normalTimeout)

/-- The axes that the channel measures hold what was read behind the write and the sample. -/
def Measured (ch : ℤ) (caps : UInt16) (round : List SweepEvent) (pt : SweepPoint) : Prop :=
  ∃ (dac : ℕ) (t₁ t₂ t₃ : List SweepEvent) (regs : Vector UInt16 4),
    pt.dacCode = dac ∧
    round = ⟨writeCall ch 31 (UInt16.ofNat dac), true⟩ :: (t₁ ++ ⟨sampleCall ch, true⟩ ::
      (t₂ ++ ⟨rawCall ch, some regs⟩ :: t₃)) ∧
    (hasVoltage caps → pt.adcV = (CalibrationSnapshot.ofRaw regs).rawAdcVoltage) ∧
    (hasCurrent caps → pt.adcI = (CalibrationSnapshot.ofRaw regs).rawAdcCurrent)

/-- Every point is measured in its own stretch; the last stretch is the end of the sweep. -/
def PointsReal (ch : ℤ) (caps : UInt16) (t : List SweepEvent) (points : List SweepPoint) : Prop :=
  List.Forall₂ (Measured ch caps) (rounds ch t).dropLast points

/-- No snapshot fails before its raw values are read. -/
structure Answered (ch : ℤ) (t : List SweepEvent) : Prop where
  connected : ⟨.session .checkConnected, false⟩ ∉ t
  raw : ⟨rawCall ch, none⟩ ∉ t

theorem answered_append {t t' : List SweepEvent} :
    Answered ch (t ++ t') ↔ Answered ch t ∧ Answered ch t' := by
  constructor
  · rintro ⟨hconnected, hraw⟩
    simp only [List.mem_append, not_or] at hconnected hraw
    exact ⟨⟨hconnected.1, hraw.1⟩, ⟨hconnected.2, hraw.2⟩⟩
  · rintro ⟨⟨hconnected, hraw⟩, ⟨hconnected', hraw'⟩⟩
    exact ⟨by simp [hconnected, hconnected'], by simp [hraw, hraw']⟩

theorem rounds_append {t : List SweepEvent} (h : ∀ e ∈ t, startsRound ch e = false)
    (t' : List SweepEvent) : rounds ch (t ++ t') = rounds ch t' := by
  induction t with
  | nil => rfl
  | cons e t ih =>
    rw [List.cons_append, rounds, if_neg (by simp [h e List.mem_cons_self])]
    exact ih fun e' he' => h e' (List.mem_cons_of_mem e he')

theorem rounds_cons {e : SweepEvent} (he : startsRound ch e) {t : List SweepEvent}
    (h : ∀ e ∈ t, startsRound ch e = false) (t' : List SweepEvent) :
    rounds ch (e :: (t ++ t')) =
      (e :: (t ++ t'.takeWhile (!startsRound ch ·))) :: rounds ch t' := by
  rw [rounds, if_pos he, rounds_append h, List.takeWhile_append_of_pos (by simpa using h)]

/-- The events of a round behind its first write. -/
def roundTail (ch total : ℤ) (step dac : ℕ) (tsnap : List SweepEvent)
    (snap : CalibrationSnapshot) : List SweepEvent :=
  ⟨.abortRequested, false⟩ :: ⟨sampleCall ch, true⟩ :: ⟨.abortRequested, false⟩ ::
    (tsnap ++ [⟨.signal (.stepComplete step total dac snap.rawAdcVoltage snap.rawAdcCurrent), ()⟩])

theorem startsRound_sample : startsRound ch ⟨sampleCall ch, true⟩ = false := by
  have hne : chAddr ch 32 ≠ chAddr ch 31 := chAddr_ne (by decide)
  exact decide_eq_false hne

theorem startsRound_snapshot {t : List SweepEvent} {snap : CalibrationSnapshot}
    (h : Run (onSession (readCalibrationSnapshot ch)) t snap) :
    ∀ e ∈ t, startsRound ch e = false := by
  rcases run_readCalibrationSnapshot h with ⟨rfl, -⟩ | ⟨rfl, -⟩ | ⟨_, _, rfl, -⟩ <;>
    simp [startsRound]

theorem startsRound_roundTail (total : ℤ) (step dac : ℕ) {t : List SweepEvent}
    {snap : CalibrationSnapshot} (h : Run (onSession (readCalibrationSnapshot ch)) t snap) :
    ∀ e ∈ roundTail ch total step dac t snap, startsRound ch e = false := by
  intro e he
  simp only [roundTail, List.mem_cons, List.mem_append, List.not_mem_nil, or_false] at he
  rcases he with rfl | rfl | rfl | hmem | rfl
  · rfl
  · exact startsRound_sample
  · rfl
  · exact startsRound_snapshot h e hmem
  · rfl

/-- Behind a snapshot the point is measured if and only if the snapshot was answered. -/
theorem measured_iff {caps : UInt16} {total : ℤ} {step dac : ℕ} {t rest : List SweepEvent}
    {snap : CalibrationSnapshot} (h : Run (onSession (readCalibrationSnapshot ch)) t snap)
    (hrest : ∀ regs, ⟨rawCall ch, regs⟩ ∉ rest) :
    Measured ch caps (⟨writeCall ch 31 (UInt16.ofNat dac), true⟩ ::
        (roundTail ch total step dac t snap ++ rest))
      { dacCode := dac, adcV := snap.rawAdcVoltage, adcI := snap.rawAdcCurrent } ↔
      Answered ch t := by
  constructor
  · rintro ⟨_, t₁, t₂, t₃, regs, -, heq, -⟩
    have hmem : (⟨rawCall ch, some regs⟩ : SweepEvent) ∈ t := by
      have hround : (⟨rawCall ch, some regs⟩ : SweepEvent) ∈
          ⟨writeCall ch 31 (UInt16.ofNat dac), true⟩ ::
            (roundTail ch total step dac t snap ++ rest) := by
        rw [heq]
        simp
      have hnot := hrest (some regs)
      simp only [rawCall] at hnot
      simpa [roundTail, hnot, rawCall, writeCall, sampleCall] using hround
    rcases run_readCalibrationSnapshot h with ⟨rfl, -⟩ | ⟨rfl, -⟩ | ⟨_, _, rfl, -⟩
    · simp [rawCall] at hmem
    · simp [rawCall] at hmem
    · exact ⟨by simp, by simp [rawCall]⟩
  · intro hanswered
    rcases run_readCalibrationSnapshot h with ⟨rfl, -⟩ | ⟨rfl, -⟩ | ⟨regs, hbuf, rfl, hv, hi⟩
    · exact absurd (List.mem_cons_self) hanswered.connected
    · exact absurd (List.mem_cons_of_mem _ List.mem_cons_self) hanswered.raw
    · exact ⟨dac, [⟨.abortRequested, false⟩],
        [⟨.abortRequested, false⟩, ⟨.session .checkConnected, true⟩], _, regs, rfl, rfl,
        fun _ => hv, fun _ => hi⟩

/-! ## The whole sweep -/

theorem answered_round {total : ℤ} {step dac : ℕ} {t : List SweepEvent}
    {snap : CalibrationSnapshot} : Answered ch (⟨.abortRequested, false⟩ ::
      ⟨writeCall ch 31 (UInt16.ofNat dac), true⟩ :: roundTail ch total step dac t snap) ↔
      Answered ch t := by
  constructor
  · rintro ⟨hconnected, hraw⟩
    constructor
    · simpa [roundTail, writeCall, sampleCall] using hconnected
    · simpa [roundTail, rawCall, writeCall, sampleCall] using hraw
  · rintro ⟨hconnected, hraw⟩
    constructor
    · simpa [roundTail, writeCall, sampleCall] using hconnected
    · simpa [roundTail, rawCall, writeCall, sampleCall] using hraw

theorem startsRound_enable (value : UInt16) (ok : Bool) :
    startsRound ch ⟨writeCall ch 30 value, ok⟩ = false := by
  have hne : chAddr ch 30 ≠ chAddr ch 31 := chAddr_ne (by decide)
  exact decide_eq_false hne

theorem startsRound_enableEvents (ch : ℤ) (needsCal : Bool) :
    ∀ e ∈ enableEvents ch needsCal true, startsRound ch e = false := by
  cases needsCal with
  | false => exact fun e he => absurd he List.not_mem_nil
  | true => exact fun e he => List.mem_singleton.mp he ▸ startsRound_enable 1 true

/-- The end of a sweep is one stretch. -/
theorem rounds_offEvents (ch : ℤ) (written disabled : Bool) {t : List SweepEvent}
    (h : ∀ e ∈ t, startsRound ch e = false) :
    (offEvents ch written disabled ++ t).takeWhile (!startsRound ch ·) = [] ∧
      rounds ch (offEvents ch written disabled ++ t) = [offEvents ch written disabled ++ t] := by
  have hstart : startsRound ch ⟨writeCall ch 31 0, written⟩ := decide_eq_true rfl
  have hrest : ∀ e ∈ (⟨writeCall ch 30 0, disabled⟩ :: t : List SweepEvent),
      startsRound ch e = false := by
    intro e he
    rcases List.mem_cons.mp he with rfl | hmem
    · exact startsRound_enable 0 disabled
    · exact h e hmem
  refine ⟨List.takeWhile_cons_of_neg (by simp [hstart]), ?_⟩
  have hcons := rounds_cons hstart hrest []
  rw [List.append_nil, List.takeWhile_nil, List.append_nil] at hcons
  exact hcons

/-- A round that measures a point is one stretch, behind the first look at the flag. -/
theorem rounds_point (total : ℤ) (step dac : ℕ) {tsnap : List SweepEvent}
    {snap : CalibrationSnapshot} (h : Run (onSession (readCalibrationSnapshot ch)) tsnap snap)
    (rest : List SweepEvent) :
    (⟨.abortRequested, false⟩ :: ⟨writeCall ch 31 (UInt16.ofNat dac), true⟩ ::
        (roundTail ch total step dac tsnap snap ++ rest)).takeWhile (!startsRound ch ·) =
      [⟨.abortRequested, false⟩] ∧
    rounds ch (⟨.abortRequested, false⟩ :: ⟨writeCall ch 31 (UInt16.ofNat dac), true⟩ ::
        (roundTail ch total step dac tsnap snap ++ rest)) =
      (⟨writeCall ch 31 (UInt16.ofNat dac), true⟩ :: (roundTail ch total step dac tsnap snap ++
        rest.takeWhile (!startsRound ch ·))) :: rounds ch rest := by
  have hstart : startsRound ch ⟨writeCall ch 31 (UInt16.ofNat dac), true⟩ := decide_eq_true rfl
  constructor
  · rw [List.takeWhile_cons_of_pos rfl, List.takeWhile_cons_of_neg (by simp [hstart])]
  · exact rounds_cons hstart (startsRound_roundTail total step dac h) rest

/-- The points of a loop that no failure and no abort has ended. `rest` is what comes behind it. -/
theorem rounds_loop (caps : UInt16) {total : ℤ} {step dac : ℕ} {points : List SweepPoint}
    {t : List SweepEvent} (rest : List SweepEvent) {r : Bool × List SweepPoint}
    (h : LoopRun ch total cfg step dac points t r) (hr : r.1)
    (hquiet : ⟨.abortRequested, true⟩ ∉ t)
    (hrest : ∀ regs, ⟨rawCall ch, regs⟩ ∉ rest.takeWhile (!startsRound ch ·)) :
    ∃ stretches fresh, rounds ch (t ++ rest) = stretches ++ rounds ch rest ∧
      r.2 = points ++ fresh ∧
      (∀ regs, ⟨rawCall ch, regs⟩ ∉ (t ++ rest).takeWhile (!startsRound ch ·)) ∧
      (List.Forall₂ (Measured ch caps) stretches fresh ↔ Answered ch t) := by
  induction h with
  | past =>
    have hnothing : Answered ch [] := ⟨List.not_mem_nil, List.not_mem_nil⟩
    exact ⟨[], [], rfl, (List.append_nil _).symm, hrest, by simp [hnothing]⟩
  | stopped hle hround =>
    cases hround with
    | abortedFirst => simp at hquiet
    | writeFailed => cases hr
    | abortedSettling => simp at hquiet
    | sampleFailed => cases hr
    | abortedCooling => simp at hquiet
  | @round step dac points t t' pt r hle hround hloop ih =>
    cases hround with
    | @point tsnap snap hsnap =>
    obtain ⟨stretches, fresh, hrounds, hpoints, hbefore, hiff⟩ := ih hr
      (fun hmem => hquiet (List.mem_append_right _ hmem))
    obtain ⟨htake, hround⟩ := rounds_point total step dac hsnap (t' ++ rest)
    rw [List.append_assoc]
    refine ⟨(⟨writeCall ch 31 (UInt16.ofNat dac), true⟩ ::
        (roundTail ch total step dac tsnap snap ++
          (t' ++ rest).takeWhile (!startsRound ch ·))) :: stretches,
      { dacCode := dac, adcV := snap.rawAdcVoltage, adcI := snap.rawAdcCurrent } :: fresh,
      hround.trans (congrArg _ hrounds), ?_, ?_, ?_⟩
    · rw [hpoints, List.append_assoc]
      rfl
    · intro regs hmem
      have hfirst : (⟨rawCall ch, regs⟩ : SweepEvent) ∈ [⟨.abortRequested, false⟩] := by
        rw [← htake]
        exact hmem
      cases List.mem_singleton.mp hfirst
    · rw [List.forall₂_cons, measured_iff hsnap hbefore, hiff, answered_append]
      exact and_congr_left fun _ => answered_round.symm

/-- What the firmware answers: a batch is refused if it covers a register of an absent
capability. -/
def GatedBy (ch : ℤ) (caps : UInt16) (t : List SweepEvent) : Prop :=
  ∀ off count timeout regs,
    ⟨.session (.readRegsInternal false (chAddr ch off) count timeout), some regs⟩ ∈ t →
      ∀ i < count, chInputSupported caps (off.toNat + i)

/-- `d.hasOut` -/
def hasOut (caps : UInt16) : Bool := caps &&& capRawOutputDrive ≠ 0

theorem ne_zero_of_capsAll {caps mask : UInt16} (hmask : mask ≠ 0) (h : capsAll caps mask) :
    caps &&& mask ≠ 0 := by
  have heq : caps &&& mask = mask := by simpa [capsAll] using h
  rw [heq]
  exact hmask

/-- The batch of a snapshot takes both measurements. -/
theorem measures_of_gatedBy {caps : UInt16} {t : List SweepEvent} (h : GatedBy ch caps t)
    {regs : Vector UInt16 4} (hmem : ⟨rawCall ch, some regs⟩ ∈ t) :
    hasVoltage caps ∧ hasCurrent caps := by
  have hsupported := h 12 4 normalTimeout regs hmem
  have hvoltage : capsAll caps capVoltageMeasurement := hsupported 0 (by decide)
  have hcurrent : capsAll caps capCurrentMeasurement := hsupported 2 (by decide)
  exact ⟨decide_eq_true (ne_zero_of_capsAll (by decide) hvoltage),
    decide_eq_true (ne_zero_of_capsAll (by decide) hcurrent)⟩

theorem mem_of_mem_rounds {t round : List SweepEvent} (h : round ∈ rounds ch t) {e : SweepEvent}
    (he : e ∈ round) : e ∈ t := by
  induction t with
  | nil => cases h
  | cons e' t ih =>
    unfold rounds at h
    split at h
    · rcases List.mem_cons.mp h with rfl | hmem
      · rcases List.mem_cons.mp he with rfl | hmem
        · exact List.mem_cons_self
        · exact List.mem_cons_of_mem _ (List.takeWhile_subset _ hmem)
      · exact List.mem_cons_of_mem _ (ih hmem)
    · exact List.mem_cons_of_mem _ (ih h)

/-- A first point has a read behind it. -/
theorem read_of_pointsReal {caps : UInt16} {t : List SweepEvent} {pt : SweepPoint}
    {points : List SweepPoint} (h : PointsReal ch caps t (pt :: points)) :
    ∃ regs : Vector UInt16 4, ⟨rawCall ch, some regs⟩ ∈ t := by
  obtain ⟨round, rest, hmeasured, -, heq⟩ := List.forall₂_cons_right_iff.mp h
  obtain ⟨_, t₁, t₂, t₃, regs, -, hround, -⟩ := hmeasured
  have hmem : round ∈ rounds ch t := List.mem_of_mem_dropLast (heq ▸ List.mem_cons_self)
  exact ⟨regs, mem_of_mem_rounds hmem (by rw [hround]; simp)⟩

theorem measures_of_pointsReal {caps : UInt16} {t : List SweepEvent} {points : List SweepPoint}
    (hgated : GatedBy ch caps t) (h : PointsReal ch caps t points) :
    points = [] ∨ (hasVoltage caps ∧ hasCurrent caps) := by
  match points, h with
  | [], _ => exact .inl rfl
  | pt :: points, h =>
    obtain ⟨regs, hmem⟩ := read_of_pointsReal h
    exact .inr (measures_of_gatedBy hgated hmem)

/-- Only the report completes a sweep. -/
theorem complete_round {total : ℤ} {step dac : ℕ} {t : List SweepEvent}
    {r : Except Bool SweepPoint} (h : RoundRun ch total step dac t r) (data : ChannelCalData) :
    ⟨.signal (.sweepComplete data), ()⟩ ∉ t := by
  cases h with
  | abortedFirst => simp
  | writeFailed => simp [failureEvents, writeCall]
  | abortedSettling => simp [writeCall]
  | sampleFailed => simp [failureEvents, writeCall, sampleCall]
  | abortedCooling => simp [writeCall, sampleCall]
  | @point t snap hsnap =>
    have hnot : (⟨.signal (.sweepComplete data), ()⟩ : SweepEvent) ∉ t := by
      rcases run_readCalibrationSnapshot hsnap with ⟨rfl, -⟩ | ⟨rfl, -⟩ | ⟨_, _, rfl, -⟩ <;> simp
    simp [writeCall, sampleCall, hnot]

theorem complete_loop {total : ℤ} {step dac : ℕ} {points : List SweepPoint}
    {t : List SweepEvent} {r : Bool × List SweepPoint}
    (h : LoopRun ch total cfg step dac points t r) (data : ChannelCalData) :
    ⟨.signal (.sweepComplete data), ()⟩ ∉ t := by
  induction h with
  | past => exact List.not_mem_nil
  | stopped _ hround => exact complete_round hround data
  | round _ hround _ ih =>
    exact fun hmem => (List.mem_append.mp hmem).elim (complete_round hround data) ih

/-- A sweep that is reported complete. -/
theorem swept_of_complete {hasOut hasMeasV hasMeasI : Bool} {t : List SweepEvent}
    {exit : SweepExit} {data : ChannelCalData}
    (h : SweepRun ch cfg hasOut hasMeasV hasMeasI t exit)
    (hdata : ⟨.signal (.sweepComplete data), ()⟩ ∈ t) :
    ∃ tloop written disabled,
      LoopRun ch (stepTotal cfg) cfg 0 cfg.dacMin [] tloop (true, data.points) ∧
      t = enableEvents ch (hasOut || hasMeasV || hasMeasI) true ++ (tloop ++
        (offEvents ch written disabled ++
          [⟨.abortRequested, false⟩, ⟨.signal (.sweepComplete data), ()⟩])) := by
  have henable : ∀ b, ⟨.signal (.sweepComplete data), ()⟩ ∉ enableEvents ch b true := by
    intro b
    cases b <;> simp [enableEvents, writeCall]
  cases h with
  | refused => simp [failureEvents, writeCall] at hdata
  | divided => exact absurd hdata (henable _)
  | @swept tloop treport ok written disabled points _ hloop hreport =>
    have hmem : (⟨.signal (.sweepComplete data), ()⟩ : SweepEvent) ∈ treport := by
      simpa [henable, complete_loop hloop data, offEvents, writeCall] using hdata
    cases hreport with
    | complete =>
      have heq : data = sweepData ch hasOut hasMeasV hasMeasI points := by simpa using hmem
      subst heq
      exact ⟨tloop, written, disabled, hloop, rfl⟩
    | aborted => simp at hmem
    | neither => simp at hmem
    | failedAborted => simp at hmem
    | failed => simp at hmem

/-- Every point of a sweep that completes is a measurement if and only if no snapshot failed; the
channel then measures voltage and current, unless there is no point at all. -/
theorem pointsReal_iff {caps : UInt16} {t : List SweepEvent} {exit : SweepExit}
    {data : ChannelCalData}
    (hrun : Run (runSweep ch cfg (hasOut caps) (hasVoltage caps) (hasCurrent caps)) t exit)
    (hsticky : Sticky t) (hgated : GatedBy ch caps t)
    (hdata : ⟨.signal (.sweepComplete data), ()⟩ ∈ t) :
    PointsReal ch caps t data.points ↔
      Answered ch t ∧ (data.points = [] ∨ (hasVoltage caps ∧ hasCurrent caps)) := by
  suffices hiff : PointsReal ch caps t data.points ↔ Answered ch t from
    ⟨fun h => ⟨hiff.mp h, measures_of_pointsReal hgated h⟩, fun h => hiff.mpr h.1⟩
  obtain ⟨tloop, written, disabled, hloop, rfl⟩ := swept_of_complete (run_runSweep hrun) hdata
  generalize hrest : offEvents ch written disabled ++
    [⟨.abortRequested, false⟩, ⟨.signal (.sweepComplete data), ()⟩] = rest at hsticky
  have hquiet : ⟨.abortRequested, true⟩ ∉ tloop := by
    rw [← List.append_assoc] at hsticky
    have hnot := hsticky.noAbort_of_noAbort (by simp [← hrest])
    exact fun hmem => hnot (List.mem_append_right _ hmem)
  obtain ⟨htake, hoff⟩ := rounds_offEvents ch written disabled
    (t := [⟨.abortRequested, false⟩, ⟨.signal (.sweepComplete data), ()⟩]) (by simp [startsRound])
  rw [hrest] at htake hoff
  obtain ⟨stretches, fresh, hrounds, hpoints, -, hiff⟩ :=
    rounds_loop caps rest hloop rfl hquiet (by simp [htake])
  have hreal : PointsReal ch caps (enableEvents ch (hasOut caps || hasVoltage caps ||
      hasCurrent caps) true ++ (tloop ++ rest)) data.points ↔ Answered ch tloop := by
    have hfresh : data.points = fresh := hpoints
    rw [PointsReal, rounds_append (startsRound_enableEvents ch _), hrounds, hoff,
      List.dropLast_concat, hfresh, hiff]
  rw [hreal, answered_append, answered_append, ← hrest]
  have henable : ∀ b, Answered ch (enableEvents ch b true) := by
    rintro (_ | _) <;> constructor <;> simp [enableEvents, writeCall, rawCall]
  have hend : Answered ch (offEvents ch written disabled ++
      [⟨.abortRequested, false⟩, ⟨.signal (.sweepComplete data), ()⟩]) := by
    constructor <;> simp [offEvents, writeCall, rawCall]
  simp [henable, hend]

/-! ## One point -/

def oneStep : SweepConfig := ⟨100, 100, 1, 300, 100, by decide⟩

/-- A sweep of one point whose snapshot goes as `tsnap`. -/
def onePoint (tsnap : List SweepEvent) (snap : CalibrationSnapshot) (data : ChannelCalData) :
    List SweepEvent :=
  enableEvents 0 true true ++ ((⟨.abortRequested, false⟩ :: ⟨writeCall 0 31 100, true⟩ ::
    roundTail 0 1 0 100 tsnap snap ++ []) ++ (offEvents 0 true true ++
      [⟨.abortRequested, false⟩, ⟨.signal (.sweepComplete data), ()⟩]))

theorem run_onePoint {tsnap : List SweepEvent} {snap : CalibrationSnapshot}
    (h : Run (onSession (readCalibrationSnapshot 0)) tsnap snap) (hasMeasV hasMeasI : Bool) :
    Run (runSweep 0 oneStep true hasMeasV hasMeasI)
      (onePoint tsnap snap (sweepData 0 true hasMeasV hasMeasI
        [{ dacCode := 100, adcV := snap.rawAdcVoltage, adcI := snap.rawAdcCurrent }]))
      .returned :=
  (SweepRun.swept (by decide) (.round (by decide) (.point h) (.past (by decide)))
    .complete).run

theorem sticky_onePoint {tsnap : List SweepEvent} {snap : CalibrationSnapshot}
    {data : ChannelCalData} (h : ⟨.abortRequested, true⟩ ∉ tsnap) :
    Sticky (onePoint tsnap snap data) := by
  refine sticky_of_noAbort ?_
  simpa [onePoint, enableEvents, offEvents, roundTail, writeCall, sampleCall] using h

theorem complete_onePoint (tsnap : List SweepEvent) (snap : CalibrationSnapshot)
    (data : ChannelCalData) :
    ⟨.signal (.sweepComplete data), ()⟩ ∈ onePoint tsnap snap data := by
  simp [onePoint]

/-- The reads of the sweep are those of its snapshot. -/
theorem read_onePoint {tsnap : List SweepEvent} {snap : CalibrationSnapshot}
    {data : ChannelCalData} {holding : Bool} {addr : UInt16} {count : ℕ} {timeout : ℤ}
    {regs : Option (Vector UInt16 count)}
    (h : ⟨.session (.readRegsInternal holding addr count timeout), regs⟩ ∈
      onePoint tsnap snap data) :
    ⟨.session (.readRegsInternal holding addr count timeout), regs⟩ ∈ tsnap := by
  simpa [onePoint, enableEvents, offEvents, roundTail, writeCall, sampleCall] using h

/-- A snapshot that is read. -/
def answeredSnapshot : List SweepEvent :=
  [⟨.session .checkConnected, true⟩, ⟨rawCall 0, some #v[0, 5, 0, 7]⟩,
    ⟨.session (.readRegsInternal true (chAddr 0 30) 4 normalTimeout), none⟩]

theorem gated_answeredSnapshot {snap : CalibrationSnapshot} {data : ChannelCalData} :
    GatedBy 0 0x000F (onePoint answeredSnapshot snap data) := by
  intro off count timeout regs hmem
  have hcall := List.mem_map_of_mem (f := Sigma.fst) (read_onePoint hmem)
  simp only [answeredSnapshot, rawCall, List.map_cons, List.map_nil, List.mem_cons,
    HostCall.session.injEq, SessionCall.readRegsInternal.injEq, reduceCtorEq, List.not_mem_nil,
    Bool.false_eq_true, false_and, or_false, false_or, true_and] at hcall
  obtain ⟨haddr, rfl, -⟩ := hcall
  have hoff : off = 12 := (UInt16.add_right_inj _).mp haddr
  subst hoff
  decide

theorem answered_onePoint {snap : CalibrationSnapshot} {data : ChannelCalData} :
    Answered 0 (onePoint answeredSnapshot snap data) := by
  constructor <;> simp [onePoint, answeredSnapshot, enableEvents, offEvents, roundTail, writeCall,
    sampleCall, rawCall]

/-- A channel that measures both. -/
theorem pointsReal_fullChannel :
    let points := [{ dacCode := 100, adcV := 5, adcI := 7 }]
    PointsReal 0 0x000F (onePoint answeredSnapshot (CalibrationSnapshot.ofRaw #v[0, 5, 0, 7])
      (sweepData 0 true true true points)) points := by
  have hsnap : Run (onSession (readCalibrationSnapshot 0)) answeredSnapshot
      (CalibrationSnapshot.ofRaw #v[0, 5, 0, 7]) := .call (.call (.call (.ret _)))
  have hiff := pointsReal_iff (run_onePoint hsnap true true) (sticky_onePoint (by
    simp [answeredSnapshot, rawCall])) gated_answeredSnapshot (complete_onePoint _ _ _)
  exact hiff.mpr ⟨answered_onePoint, .inr (by decide)⟩

/-- A snapshot that the firmware refuses. -/
def refusedSnapshot : List SweepEvent :=
  [⟨.session .checkConnected, true⟩, ⟨rawCall 0, none⟩]

/-- A channel that measures only voltage: the refused batch counts as 0. -/
theorem refused_isPoint :
    let points := [{ dacCode := 100, adcV := 0, adcI := 0 }]
    let t := onePoint refusedSnapshot {} (sweepData 0 true true false points)
    Run (runSweep 0 oneStep (hasOut 0x0007) (hasVoltage 0x0007) (hasCurrent 0x0007)) t .returned ∧
      Sticky t ∧ GatedBy 0 0x0007 t ∧
      ⟨.signal (.sweepComplete (sweepData 0 true true false points)), ()⟩ ∈ t ∧
      ¬ PointsReal 0 0x0007 t points := by
  have hsnap : Run (onSession (readCalibrationSnapshot 0)) refusedSnapshot {} :=
    .call (.call (.ret _))
  have hnone : ∀ addr count timeout (regs : Vector UInt16 count),
      (⟨.session (.readRegsInternal false addr count timeout), some regs⟩ : SweepEvent) ∉
        refusedSnapshot := by
    intro addr count timeout regs hmem
    rcases List.mem_cons.mp hmem with heq | hmem
    · cases heq
    · cases List.mem_singleton.mp hmem
  refine ⟨run_onePoint hsnap true false, sticky_onePoint (by simp [refusedSnapshot, rawCall]),
    fun off count timeout regs hmem => absurd (read_onePoint hmem) (hnone _ _ _ regs),
    complete_onePoint _ _ _, fun hreal => ?_⟩
  obtain ⟨regs, hmem⟩ := read_of_pointsReal hreal
  exact hnone _ _ _ regs (read_onePoint hmem)

end SweepPoints
