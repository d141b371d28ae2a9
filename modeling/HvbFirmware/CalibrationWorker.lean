import HvbFirmware.HostSession
import HvbFirmware.SweepData

/-!
# The calibration sweep

`CalibrationWorker::runSweep` of the factory tool: a raw DAC code is written, sampled and read back
at every step, with the output of the channel on, and whatever ends the loop the output is
switched off behind it. The three integers of the loop come from the operator.
-/
namespace CalibrationWorker

open PsbBoardSession SweepData Interaction HostSession

/-! ## The worker -/

/-- The values that the text fields of the sweep let through. -/
structure SweepConfig where
  dacMin : ℕ
  dacMax : ℕ
  stepSize : ℕ
  settlementMs : ℕ
  cooldownMs : ℕ
  accepted : ∀ v ∈ [dacMin, dacMax, stepSize, settlementMs, cooldownMs], v ≤ 99999

inductive SweepSignal where
  | stepComplete (step : ℕ) (total : ℤ) (dacCode : ℕ) (adcV adcI : Int32)
  | sweepComplete (data : ChannelCalData)
  | sweepFailed (message : String)
  | sweepAborted
  deriving DecidableEq

abbrev SweepProgram := HostProgram SweepSignal

def sweepFailed : SweepProgram Unit := do
  emitSignal (.sweepFailed (← lastError))

/-- The body of the loop, with the part of its condition that looks at `m_abort`. It ends with the
point that it has measured, or leaves the loop with the value of `ok`. The two delays are left
out. -/
def sweepRound (ch : ℤ) (total : ℤ) (step dac : ℕ) : SweepProgram (Except Bool SweepPoint) := do
  if ← abortRequested then return .error true
  else if !(← onSession (writeRawDacCode ch (UInt16.ofNat dac))) then
    sweepFailed
    return .error false
  else if ← abortRequested then return .error true
  else if !(← onSession (sendCalibrationSampleCommand ch)) then
    sweepFailed
    return .error false
  else if ← abortRequested then return .error true
  else
    let snap ← onSession (readCalibrationSnapshot ch)
    emitSignal (.stepComplete step total dac snap.rawAdcVoltage snap.rawAdcCurrent)
    return .ok { dacCode := dac, adcV := snap.rawAdcVoltage, adcI := snap.rawAdcCurrent }

/-- The loop, with the value of `ok` behind it and the points. -/
def sweepLoop (ch : ℤ) (cfg : SweepConfig) (total : ℤ) (hstep : 0 < cfg.stepSize) (step dac : ℕ)
    (points : List SweepPoint) : SweepProgram (Bool × List SweepPoint) :=
  if dac ≤ cfg.dacMax then do
    match ← sweepRound ch total step dac with
    | .error ok => return (ok, points)
    | .ok pt =>
      sweepLoop ch cfg total hstep (step + 1) (dac + cfg.stepSize) (points ++ [pt])
  else return (true, points)
termination_by cfg.dacMax + 1 - dac

def safeOff (ch : ℤ) : SweepProgram Unit := do
  let _ ← onSession (writeRawDacCode ch 0)
  let _ ← onSession (writeCalibrationOutputEnable ch false)

inductive SweepExit where
  | returned
  | dividedByZero
  deriving DecidableEq

/-- The last lines of `runSweep`. -/
def sweepReport (ok : Bool) (data : ChannelCalData) : SweepProgram SweepExit := do
  if ok then
    if !(← abortRequested) then emitSignal (.sweepComplete data)
    else if ← abortRequested then emitSignal .sweepAborted
  else if ← abortRequested then emitSignal .sweepAborted
  return .returned

def sweepData (ch : ℤ) (hasOut hasMeasV hasMeasI : Bool) (points : List SweepPoint) :
    ChannelCalData :=
  { ch := ch
    hasOut := hasOut
    hasMeasV := hasMeasV
    hasMeasI := hasMeasI
    needsCal := hasOut || hasMeasV || hasMeasI
    points := points }

/-- `total`: the number of steps. -/
def stepTotal (cfg : SweepConfig) : ℤ := ((cfg.dacMax : ℤ) - cfg.dacMin).tdiv cfg.stepSize + 1

/-- A channel without axes is not enabled, and counts as enabled. -/
def enableOutput (ch : ℤ) (needsCal : Bool) : SweepProgram Bool :=
  if needsCal then onSession (writeCalibrationOutputEnable ch true) else return true

def runSweep (ch : ℤ) (cfg : SweepConfig) (hasOut hasMeasV hasMeasI : Bool) :
    SweepProgram SweepExit := do
  if !(← enableOutput ch (hasOut || hasMeasV || hasMeasI)) then
    sweepFailed
    return .returned
  else if hstep : 0 < cfg.stepSize then
    let (ok, points) ← sweepLoop ch cfg (stepTotal cfg) hstep 0 cfg.dacMin []
    safeOff ch
    sweepReport ok (sweepData ch hasOut hasMeasV hasMeasI points)
  else return .dividedByZero

/-! ## Its runs -/

abbrev SweepEvent := HostEvent SweepSignal

def writeCall (ch : ℤ) (off value : UInt16) : HostCall SweepSignal :=
  .session (.writeRegsInternal (chAddr ch off) [value] normalTimeout)

def sampleCall (ch : ℤ) : HostCall SweepSignal :=
  .session (.writeRegsInternal (chAddr ch 32) [1] calSampleTimeoutMs)

def failureEvents (text : String) : List SweepEvent :=
  [⟨.session .lastError, text⟩, ⟨.signal (.sweepFailed text), ()⟩]

/-- How a round can go. -/
inductive RoundRun (ch total : ℤ) (step dac : ℕ) : List SweepEvent → Except Bool SweepPoint → Prop
  | abortedFirst : RoundRun ch total step dac [⟨.abortRequested, true⟩] (.error true)
  | writeFailed (text : String) : RoundRun ch total step dac
      (⟨.abortRequested, false⟩ :: ⟨writeCall ch 31 (UInt16.ofNat dac), false⟩ ::
        failureEvents text) (.error false)
  | abortedSettling : RoundRun ch total step dac
      [⟨.abortRequested, false⟩, ⟨writeCall ch 31 (UInt16.ofNat dac), true⟩,
        ⟨.abortRequested, true⟩] (.error true)
  | sampleFailed (text : String) : RoundRun ch total step dac
      (⟨.abortRequested, false⟩ :: ⟨writeCall ch 31 (UInt16.ofNat dac), true⟩ ::
        ⟨.abortRequested, false⟩ :: ⟨sampleCall ch, false⟩ :: failureEvents text) (.error false)
  | abortedCooling : RoundRun ch total step dac
      [⟨.abortRequested, false⟩, ⟨writeCall ch 31 (UInt16.ofNat dac), true⟩,
        ⟨.abortRequested, false⟩, ⟨sampleCall ch, true⟩, ⟨.abortRequested, true⟩] (.error true)
  | point {t : List SweepEvent} {snap : CalibrationSnapshot}
      (h : Run (onSession (readCalibrationSnapshot ch)) t snap) : RoundRun ch total step dac
      (⟨.abortRequested, false⟩ :: ⟨writeCall ch 31 (UInt16.ofNat dac), true⟩ ::
        ⟨.abortRequested, false⟩ :: ⟨sampleCall ch, true⟩ :: ⟨.abortRequested, false⟩ ::
        (t ++ [⟨.signal (.stepComplete step total dac snap.rawAdcVoltage snap.rawAdcCurrent),
          ()⟩]))
      (.ok { dacCode := dac, adcV := snap.rawAdcVoltage, adcI := snap.rawAdcCurrent })

theorem run_sweepFailed_bind {α : Type} {p : SweepProgram α} {t : List SweepEvent} {a : α}
    (h : Run (sweepFailed >>= fun _ => p) t a) :
    ∃ text t', t = failureEvents text ++ t' ∧ Run p t' a := by
  obtain ⟨text, t₁, rfl, h₁⟩ := run_call.mp h
  obtain ⟨_, t₂, rfl, h₂⟩ := run_call.mp h₁
  exact ⟨text, t₂, rfl, h₂⟩

theorem run_sweepRound {ch total : ℤ} {step dac : ℕ} {t : List SweepEvent}
    {r : Except Bool SweepPoint} (h : Run (sweepRound ch total step dac) t r) :
    RoundRun ch total step dac t r := by
  obtain ⟨aborted, t₁, rfl, h₁⟩ := run_call.mp h
  cases aborted with
  | true =>
    obtain ⟨rfl, rfl⟩ := run_ret.mp h₁
    exact .abortedFirst
  | false =>
  obtain ⟨written, t₂, rfl, h₂⟩ := run_call.mp h₁
  cases written with
  | false =>
    obtain ⟨text, t₃, rfl, h₃⟩ := run_sweepFailed_bind h₂
    obtain ⟨rfl, rfl⟩ := run_ret.mp h₃
    exact .writeFailed text
  | true =>
  obtain ⟨aborted, t₃, rfl, h₃⟩ := run_call.mp h₂
  cases aborted with
  | true =>
    obtain ⟨rfl, rfl⟩ := run_ret.mp h₃
    exact .abortedSettling
  | false =>
  obtain ⟨sampled, t₄, rfl, h₄⟩ := run_call.mp h₃
  cases sampled with
  | false =>
    obtain ⟨text, t₅, rfl, h₅⟩ := run_sweepFailed_bind h₄
    obtain ⟨rfl, rfl⟩ := run_ret.mp h₅
    exact .sampleFailed text
  | true =>
  obtain ⟨aborted, t₅, rfl, h₅⟩ := run_call.mp h₄
  cases aborted with
  | true =>
    obtain ⟨rfl, rfl⟩ := run_ret.mp h₅
    exact .abortedCooling
  | false =>
  change Run (onSession (readCalibrationSnapshot ch) >>= _) t₅ r at h₅
  obtain ⟨snap, tsnap, t₆, rfl, hsnap, h₆⟩ := run_bind.mp h₅
  obtain ⟨_, t₇, rfl, h₇⟩ := run_call.mp h₆
  obtain ⟨rfl, rfl⟩ := run_ret.mp h₇
  exact .point hsnap

theorem RoundRun.run {ch total : ℤ} {step dac : ℕ} {t : List SweepEvent}
    {r : Except Bool SweepPoint} (h : RoundRun ch total step dac t r) :
    Run (sweepRound ch total step dac) t r := by
  cases h with
  | abortedFirst => exact .call (.ret _)
  | writeFailed text => exact .call (.call (.call (.call (.ret _))))
  | abortedSettling => exact .call (.call (.call (.ret _)))
  | sampleFailed text => exact .call (.call (.call (.call (.call (.call (.ret _))))))
  | abortedCooling => exact .call (.call (.call (.call (.call (.ret _)))))
  | @point t snap hsnap =>
    refine .call (.call (.call (.call (.call ?_))))
    show Run (onSession (readCalibrationSnapshot ch) >>= _) _ _
    exact run_bind.mpr ⟨snap, t, _, rfl, hsnap, .call (.ret _)⟩

/-- How the loop can go. -/
inductive LoopRun (ch total : ℤ) (cfg : SweepConfig) : (step dac : ℕ) → List SweepPoint →
    List SweepEvent → Bool × List SweepPoint → Prop
  | past {step dac : ℕ} {points : List SweepPoint} (h : cfg.dacMax < dac) :
      LoopRun ch total cfg step dac points [] (true, points)
  | stopped {step dac : ℕ} {points : List SweepPoint} {t : List SweepEvent} {ok : Bool}
      (h : dac ≤ cfg.dacMax) (hround : RoundRun ch total step dac t (.error ok)) :
      LoopRun ch total cfg step dac points t (ok, points)
  | round {step dac : ℕ} {points : List SweepPoint} {t t' : List SweepEvent} {pt : SweepPoint}
      {r : Bool × List SweepPoint} (h : dac ≤ cfg.dacMax)
      (hround : RoundRun ch total step dac t (.ok pt))
      (hrest : LoopRun ch total cfg (step + 1) (dac + cfg.stepSize) (points ++ [pt]) t' r) :
      LoopRun ch total cfg step dac points (t ++ t') r

theorem run_sweepLoop {ch total : ℤ} {cfg : SweepConfig} {hstep : 0 < cfg.stepSize}
    {step dac : ℕ} {points : List SweepPoint} {t : List SweepEvent} {r : Bool × List SweepPoint}
    (h : Run (sweepLoop ch cfg total hstep step dac points) t r) :
    LoopRun ch total cfg step dac points t r := by
  fun_induction sweepLoop ch cfg total hstep step dac points generalizing t with
  | case1 step dac points hle ih =>
    obtain ⟨outcome, t₁, t₂, rfl, h₁, h₂⟩ := run_bind.mp h
    cases outcome with
    | error ok =>
      obtain ⟨rfl, rfl⟩ := run_ret.mp h₂
      rw [List.append_nil]
      exact .stopped hle (run_sweepRound h₁)
    | ok pt => exact .round hle (run_sweepRound h₁) (ih pt h₂)
  | case2 step dac points hgt =>
    obtain ⟨rfl, rfl⟩ := run_ret.mp h
    exact .past (by omega)

theorem LoopRun.run {ch total : ℤ} {cfg : SweepConfig} (hstep : 0 < cfg.stepSize) {step dac : ℕ}
    {points : List SweepPoint} {t : List SweepEvent} {r : Bool × List SweepPoint}
    (h : LoopRun ch total cfg step dac points t r) :
    Run (sweepLoop ch cfg total hstep step dac points) t r := by
  induction h with
  | past hgt =>
    rw [sweepLoop, if_neg (by omega)]
    exact .ret _
  | @stopped step dac points t ok hle hround =>
    rw [sweepLoop, if_pos hle]
    exact run_bind.mpr ⟨.error ok, t, [], (List.append_nil t).symm, hround.run, .ret _⟩
  | @round step dac points t t' pt r hle hround hrest ih =>
    rw [sweepLoop, if_pos hle]
    exact run_bind.mpr ⟨.ok pt, t, t', rfl, hround.run, ih⟩

/-- How the report can go. -/
inductive ReportRun (data : ChannelCalData) : Bool → List SweepEvent → Prop
  | complete : ReportRun data true [⟨.abortRequested, false⟩, ⟨.signal (.sweepComplete data), ()⟩]
  | aborted : ReportRun data true
      [⟨.abortRequested, true⟩, ⟨.abortRequested, true⟩, ⟨.signal .sweepAborted, ()⟩]
  | neither : ReportRun data true [⟨.abortRequested, true⟩, ⟨.abortRequested, false⟩]
  | failedAborted : ReportRun data false [⟨.abortRequested, true⟩, ⟨.signal .sweepAborted, ()⟩]
  | failed : ReportRun data false [⟨.abortRequested, false⟩]

theorem run_sweepReport {ok : Bool} {data : ChannelCalData} {t : List SweepEvent}
    {exit : SweepExit} (h : Run (sweepReport ok data) t exit) :
    ReportRun data ok t ∧ exit = .returned := by
  cases ok with
  | false =>
    obtain ⟨aborted, t₁, rfl, h₁⟩ := run_call.mp h
    cases aborted with
    | false =>
      obtain ⟨rfl, rfl⟩ := run_ret.mp h₁
      exact ⟨.failed, rfl⟩
    | true =>
      obtain ⟨_, t₂, rfl, h₂⟩ := run_call.mp h₁
      obtain ⟨rfl, rfl⟩ := run_ret.mp h₂
      exact ⟨.failedAborted, rfl⟩
  | true =>
  obtain ⟨aborted, t₁, rfl, h₁⟩ := run_call.mp h
  cases aborted with
  | false =>
    obtain ⟨_, t₂, rfl, h₂⟩ := run_call.mp h₁
    obtain ⟨rfl, rfl⟩ := run_ret.mp h₂
    exact ⟨.complete, rfl⟩
  | true =>
  obtain ⟨aborted, t₂, rfl, h₂⟩ := run_call.mp h₁
  cases aborted with
  | false =>
    obtain ⟨rfl, rfl⟩ := run_ret.mp h₂
    exact ⟨.neither, rfl⟩
  | true =>
    obtain ⟨_, t₃, rfl, h₃⟩ := run_call.mp h₂
    obtain ⟨rfl, rfl⟩ := run_ret.mp h₃
    exact ⟨.aborted, rfl⟩

/-- The two writes of `safeOff`. -/
def offEvents (ch : ℤ) (written disabled : Bool) : List SweepEvent :=
  [⟨writeCall ch 31 0, written⟩, ⟨writeCall ch 30 0, disabled⟩]

/-- The write that switches the output on, on a channel that has an axis to calibrate. -/
def enableEvents (ch : ℤ) (needsCal ok : Bool) : List SweepEvent :=
  if needsCal then [⟨writeCall ch 30 1, ok⟩] else []

/-- How a sweep can go. -/
inductive SweepRun (ch : ℤ) (cfg : SweepConfig) (hasOut hasMeasV hasMeasI : Bool) :
    List SweepEvent → SweepExit → Prop
  | refused (text : String) (h : hasOut || hasMeasV || hasMeasI) :
      SweepRun ch cfg hasOut hasMeasV hasMeasI (⟨writeCall ch 30 1, false⟩ :: failureEvents text)
        .returned
  | divided (h : cfg.stepSize = 0) : SweepRun ch cfg hasOut hasMeasV hasMeasI
      (enableEvents ch (hasOut || hasMeasV || hasMeasI) true) .dividedByZero
  | swept {t treport : List SweepEvent} {ok written disabled : Bool}
      {points : List SweepPoint} (h : 0 < cfg.stepSize)
      (hloop : LoopRun ch (stepTotal cfg) cfg 0 cfg.dacMin [] t (ok, points))
      (hreport : ReportRun (sweepData ch hasOut hasMeasV hasMeasI points) ok treport) :
      SweepRun ch cfg hasOut hasMeasV hasMeasI
        (enableEvents ch (hasOut || hasMeasV || hasMeasI) true ++ (t ++
          (offEvents ch written disabled ++ treport))) .returned

theorem run_enableOutput {ch : ℤ} {needsCal enabled : Bool} {t : List SweepEvent}
    (h : Run (enableOutput ch needsCal) t enabled) :
    t = enableEvents ch needsCal enabled ∧ (enabled = false → needsCal) := by
  cases needsCal with
  | false =>
    obtain ⟨rfl, rfl⟩ := run_ret.mp h
    exact ⟨rfl, nofun⟩
  | true => exact ⟨run_writeReg16.mp h, fun _ => rfl⟩

theorem run_runSweep {ch : ℤ} {cfg : SweepConfig} {hasOut hasMeasV hasMeasI : Bool}
    {t : List SweepEvent} {exit : SweepExit}
    (h : Run (runSweep ch cfg hasOut hasMeasV hasMeasI) t exit) :
    SweepRun ch cfg hasOut hasMeasV hasMeasI t exit := by
  unfold runSweep at h
  obtain ⟨enabled, t₁, t₂, rfl, h₁, h₂⟩ := run_bind.mp h
  obtain ⟨rfl, hneeds⟩ := run_enableOutput h₁
  cases enabled with
  | false =>
    obtain ⟨text, t₃, rfl, h₃⟩ := run_sweepFailed_bind h₂
    obtain ⟨rfl, rfl⟩ := run_ret.mp h₃
    rw [enableEvents, if_pos (hneeds rfl), List.append_nil]
    exact .refused text (hneeds rfl)
  | true =>
  rw [Bool.not_true, if_neg Bool.false_ne_true] at h₂
  split at h₂
  next hstep =>
    obtain ⟨⟨ok, points⟩, tloop, t₃, rfl, hloop, h₃⟩ := run_bind.mp h₂
    obtain ⟨written, t₄, rfl, h₄⟩ := run_call.mp h₃
    obtain ⟨disabled, t₅, rfl, h₅⟩ := run_call.mp h₄
    obtain ⟨hreport, rfl⟩ := run_sweepReport h₅
    exact .swept hstep (run_sweepLoop hloop) hreport
  next hstep =>
    obtain ⟨rfl, rfl⟩ := run_ret.mp h₂
    rw [List.append_nil]
    exact .divided (by omega)

theorem ReportRun.run {ok : Bool} {data : ChannelCalData} {t : List SweepEvent}
    (h : ReportRun data ok t) : Run (sweepReport ok data) t .returned := by
  cases h with
  | complete => exact .call (.call (.ret _))
  | aborted => exact .call (.call (.call (.ret _)))
  | neither => exact .call (.call (.ret _))
  | failedAborted => exact .call (.call (.ret _))
  | failed => exact .call (.ret _)

theorem SweepRun.run {ch : ℤ} {cfg : SweepConfig} {hasOut hasMeasV hasMeasI : Bool}
    {t : List SweepEvent} {exit : SweepExit} (h : SweepRun ch cfg hasOut hasMeasV hasMeasI t exit) :
    Run (runSweep ch cfg hasOut hasMeasV hasMeasI) t exit := by
  have henable : ∀ needsCal,
      Run (enableOutput ch needsCal) (enableEvents ch needsCal true) true := by
    rintro (_ | _)
    · exact .ret _
    · exact .call (.ret _)
  unfold runSweep
  cases h with
  | refused text hneeds =>
    refine run_bind.mpr ⟨false, [_], failureEvents text, rfl, ?_, .call (.call (.ret _))⟩
    rw [hneeds]
    exact .call (.ret _)
  | divided hzero =>
    refine run_bind.mpr ⟨true, _, [], (List.append_nil _).symm, henable _, ?_⟩
    rw [Bool.not_true, if_neg Bool.false_ne_true, dif_neg (by omega)]
    exact .ret _
  | swept hstep hloop hreport =>
    refine run_bind.mpr ⟨true, _, _, rfl, henable _, ?_⟩
    rw [Bool.not_true, if_neg Bool.false_ne_true, dif_pos hstep]
    exact run_bind.mpr ⟨_, _, _, rfl, hloop.run hstep, .call (.call hreport.run)⟩

end CalibrationWorker
