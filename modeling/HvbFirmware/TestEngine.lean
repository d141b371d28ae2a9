import HvbFirmware.HostSession
import Mathlib.Algebra.Ring.Nat
import Mathlib.Data.Int.Notation
import Mathlib.Data.Nat.Notation

/-!
# The tests of the factory tool

`TestEngine`: the functional test drives every configured target on every selected channel, and
the stress test samples every selected channel for as long as it is told. The doubles of the
source are doubles here, with their rounding; the delays are left out. The two functions that run
a channel never return false, so no test ends with an error.
-/
namespace TestEngine

open PsbBoardSession Interaction HostSession

/-- `voltageFromV`; beyond the range, where the conversion is undefined, it clamps. -/
def voltsToRaw (v : Float) : Int16 := (v / 0.1 + 0.5).toModel.toInt16

/-- `voltageToV` -/
def rawToVolts (raw : Int16) : Float := Float.ofInt raw.toInt * 0.1

/-- The channels of a test; -1 stands for all of them. -/
def selectedChannels (ch numChannels : ℤ) : List ℤ :=
  if ch = -1 then (List.range numChannels.toNat).map Int.ofNat else [ch]

/-! ## Results -/

inductive PointDetail where
  | none
  | fault (attempt : ℕ)
  | within (attempt : ℕ)
  | outside (attempt : ℕ) (errPct : Float)
  deriving DecidableEq

structure FuncTestPoint where
  ch : ℤ
  targetV : Float
  tolerancePct : Float
  measuredV : Float
  errorPct : Float
  pass : Bool
  detail : PointDetail
  deriving DecidableEq

structure FuncTestResult where
  points : List FuncTestPoint := []
  pass : Bool := false
  deriving DecidableEq

structure StressSample where
  elapsedSec : Float
  voltageV : Float
  fault : Bool
  deriving DecidableEq

structure StressChannelResult where
  ch : ℤ
  targetV : Float
  durationSec : Float
  avgV : Float := 0.0
  minV : Float := 1e9
  maxV : Float := -1e9
  stddevV : Float := 0.0
  faultCount : ℕ := 0
  pass : Bool := false
  samples : List StressSample := []
  deriving DecidableEq

structure StressTestResult where
  channels : List StressChannelResult := []
  pass : Bool := false
  deriving DecidableEq

inductive TestSignal where
  | funcTestProgress (ch : ℤ) (pointIdx total : ℕ)
  | funcTestComplete (result : FuncTestResult)
  | stressProgress (ch : ℤ) (elapsed total voltageV : Float)
  | stressComplete (result : StressTestResult)
  | testAborted
  deriving DecidableEq

abbrev TestProgram := HostProgram TestSignal

abbrev TestEvent := HostEvent TestSignal

/-! ## The functional test -/

structure FuncTestConfig where
  ch : ℤ := -1
  numChannels : ℤ := 1
  targetVolts : List Float := []
  perChannel : Bool := false
  chTargets : List (List Float) := []
  tolerancePct : Float := 2.0
  retriesOnFault : ℤ := 2

def FuncTestConfig.channels (cfg : FuncTestConfig) : List ℤ :=
  selectedChannels cfg.ch cfg.numChannels

/-- Nothing is configured for a channel that `chTargets` does not have. -/
def FuncTestConfig.targets (cfg : FuncTestConfig) (ch : ℤ) : List Float :=
  if cfg.perChannel then
    if 0 ≤ ch then cfg.chTargets.getD ch.toNat [] else []
  else cfg.targetVolts

/-- The error in percent, which is none where the target is not above a millivolt. -/
def errPct (target measured : Float) : Float :=
  if 0.001 < target then (measured - target) / target * 100.0 else 0.0

/-- What an attempt does to the channel. -/
def driveAndRead (ch : ℤ) (target : Float) : TestProgram ChannelInfo := do
  let _ ← onSession (writeConfiguredTargetVoltage ch (voltsToRaw target))
  let _ ← onSession (sendOutputAction ch .enable)
  let ci ← onSession (readChannelInfo ch 0)
  let _ ← onSession (sendOutputAction ch .disableGraceful)
  return ci

/-- The variables of the loop over the attempts. -/
structure PointState where
  pointOk : Bool := false
  measured : Float := 0.0
  detail : PointDetail := .none

def attemptLoop (ch : ℤ) (target tol : Float) (retries : ℤ) (attempt : ℕ) (p : PointState) :
    TestProgram PointState :=
  if (attempt : ℤ) ≤ retries then do
    if ← abortRequested then return p
    else
      let ci ← driveAndRead ch target
      if ci.activeFault ≠ 0 then
        attemptLoop ch target tol retries (attempt + 1) { p with detail := .fault (attempt + 1) }
      else
        let measured := rawToVolts ci.voltageRaw
        if (errPct target measured).abs ≤ tol then
          return { pointOk := true, measured, detail := .within (attempt + 1) }
        else
          attemptLoop ch target tol retries (attempt + 1)
            { p with measured, detail := .outside (attempt + 1) (errPct target measured) }
  else return p
termination_by (retries + 1 - attempt).toNat

def funcTestPoint (ch : ℤ) (target tol : Float) (p : PointState) : FuncTestPoint :=
  { ch
    targetV := target
    tolerancePct := tol
    measuredV := p.measured
    errorPct := errPct target p.measured
    pass := p.pointOk
    detail := p.detail }

def runFuncChannel (ch : ℤ) (tol : Float) (retries : ℤ) :
    List Float → List FuncTestPoint → TestProgram (List FuncTestPoint)
  | [], out => return out
  | target :: targets, out => do
    if ← abortRequested then return out
    else
      let p ← attemptLoop ch target tol retries 0 {}
      runFuncChannel ch tol retries targets (out ++ [funcTestPoint ch target tol p])

/-- The loop over the points of a channel. -/
def reportPoints (ch : ℤ) (total : ℕ) :
    List FuncTestPoint → (done : ℕ) → FuncTestResult → TestProgram (ℕ × FuncTestResult)
  | [], done, result => return (done, result)
  | pt :: pts, done, result => do
    emitSignal (.funcTestProgress ch done total)
    reportPoints ch total pts (done + 1)
      { points := result.points ++ [pt], pass := result.pass && pt.pass }

def funcChannels (cfg : FuncTestConfig) (total : ℕ) :
    List ℤ → (done : ℕ) → FuncTestResult → TestProgram FuncTestResult
  | [], _, result => return result
  | ch :: channels, done, result => do
    if ← abortRequested then return result
    else
      let pts ← runFuncChannel ch cfg.tolerancePct cfg.retriesOnFault (cfg.targets ch) []
      let (done, result) ← reportPoints ch total pts done result
      funcChannels cfg total channels done result

def runFunctionalTest (cfg : FuncTestConfig) : TestProgram Unit := do
  let total := (cfg.channels.map fun ch => (cfg.targets ch).length).sum
  let result ← funcChannels cfg total cfg.channels 0 { pass := true }
  emitSignal (.funcTestComplete result)

/-! ## The stress test -/

structure StressConfig where
  ch : ℤ := -1
  numChannels : ℤ := 1
  targetVolts : List Float := []
  durationSec : ℤ := 120
  pollMs : ℤ := 1000
  faultTolerance : ℤ := 0
  tolerancePct : Float := 5.0

def StressConfig.channels (cfg : StressConfig) : List ℤ :=
  selectedChannels cfg.ch cfg.numChannels

/-- The variables of the loop over the samples. -/
structure StressState where
  out : StressChannelResult
  sum : Float := 0.0
  sum2 : Float := 0.0
  n : ℕ := 0
  elapsed : Float := 0.0

/-- The sample is appended, and counted when the channel has a fault. -/
def StressState.record (s : StressState) (pollMs : ℤ) (ci : ChannelInfo) : StressState :=
  let elapsed := s.elapsed + .ofInt pollMs / 1000.0
  let fault := decide (ci.activeFault ≠ 0)
  { s with
    elapsed
    out := { s.out with
      samples := s.out.samples ++
        [{ elapsedSec := elapsed, voltageV := rawToVolts ci.voltageRaw, fault }]
      faultCount := if fault then s.out.faultCount + 1 else s.out.faultCount } }

@[simp] theorem record_elapsed (s : StressState) (pollMs : ℤ) (ci : ChannelInfo) :
    (s.record pollMs ci).elapsed = s.elapsed + .ofInt pollMs / 1000.0 := rfl

def StressState.accumulate (s : StressState) (v : Float) : StressState :=
  { s with
    out := { s.out with
      minV := if v < s.out.minV then v else s.out.minV
      maxV := if s.out.maxV < v then v else s.out.maxV }
    sum := s.sum + v
    sum2 := s.sum2 + v * v
    n := s.n + 1 }

@[simp] theorem accumulate_elapsed (s : StressState) (v : Float) :
    (s.accumulate v).elapsed = s.elapsed := rfl

/-- The loop over the samples. The fuel counts its rounds: without any left the loop is still
running. -/
def sampleLoop (ch : ℤ) (cfg : StressConfig) : (fuel : ℕ) → StressState →
    TestProgram (Option StressState)
  | 0, _ => return none
  | fuel + 1, s => do
    if s.elapsed < .ofInt cfg.durationSec then
      if ← abortRequested then return some s
      else if cfg.faultTolerance < s.out.faultCount then return some s
      else
        let ci ← onSession (readChannelInfo ch 0)
        let s := s.record cfg.pollMs ci
        if ci.activeFault ≠ 0 ∧ cfg.faultTolerance < s.out.faultCount then return some s
        else
          let v := rawToVolts ci.voltageRaw
          emitSignal (.stressProgress ch s.elapsed (.ofInt cfg.durationSec) v)
          sampleLoop ch cfg fuel (s.accumulate v)
    else return some s

/-- The last lines of `runStressChannel`. -/
def StressState.result (s : StressState) (cfg : StressConfig) (targetV : Float) :
    StressChannelResult :=
  let n := Float.ofNat s.n
  let avgV := if 0 < s.n then s.sum / n else s.out.avgV
  let errPct := if 0.001 < targetV then (avgV - targetV).abs / targetV * 100.0 else 0.0
  { s.out with
    avgV
    stddevV := if 0 < s.n then (s.sum2 / n - avgV * avgV).sqrt else s.out.stddevV
    pass := s.out.faultCount ≤ cfg.faultTolerance ∧ errPct ≤ cfg.tolerancePct }

def runStressChannel (fuel : ℕ) (ch : ℤ) (targetV : Float) (cfg : StressConfig) :
    TestProgram (Option StressChannelResult) := do
  let _ ← onSession (writeConfiguredTargetVoltage ch (voltsToRaw targetV))
  let _ ← onSession (sendOutputAction ch .enable)
  match ← sampleLoop ch cfg fuel
      { out := { ch, targetV, durationSec := .ofInt cfg.durationSec } } with
  | none => return none
  | some s =>
    let _ ← onSession (sendOutputAction ch .disableGraceful)
    return some (s.result cfg targetV)

/-- The loop over the channels. A channel past the end of `targetVolts` is driven to 0 V. -/
def stressChannels (fuel : ℕ) (cfg : StressConfig) :
    List ℤ → (i : ℕ) → StressTestResult → TestProgram (Option StressTestResult)
  | [], _, result => return some result
  | ch :: channels, i, result => do
    if ← abortRequested then return some result
    else
      match ← runStressChannel fuel ch (cfg.targetVolts.getD i 0.0) cfg with
      | none => return none
      | some chResult =>
        stressChannels fuel cfg channels (i + 1)
          { channels := result.channels ++ [chResult], pass := result.pass && chResult.pass }

def runStressTest (fuel : ℕ) (cfg : StressConfig) : TestProgram Unit := do
  match ← stressChannels fuel cfg cfg.channels 0 { pass := true } with
  | none => return ()
  | some result =>
    if ← abortRequested then emitSignal .testAborted
    else emitSignal (.stressComplete result)

end TestEngine
