import HvbFirmware.Doubles
import HvbFirmware.TestEngine
import Mathlib.Data.List.Forall2

/-!
# What a pass rests on

A read that fails leaves a struct of zeros, which shows no fault, and both tests take its voltage
for a measurement. The functional test reports its result behind an abort as well, and neither
test sees an error on a target that is not above a millivolt.
-/
namespace TestVerdict

open PsbBoardSession Interaction HostSession TestEngine

variable {ch : ℤ} {t t' : List TestEvent} {ci : ChannelInfo} {target tol : Float}

theorem infix_behind (e : TestEvent) (t t' : List TestEvent) : t <:+: e :: (t ++ t') :=
  ⟨[e], t', rfl⟩

theorem suffix_behind (e : TestEvent) (t t' : List TestEvent) : t' <:+ e :: (t ++ t') :=
  ⟨e :: t, rfl⟩

theorem run_unaborted {α : Type} {p : TestProgram α} {a r : α}
    (h : Run (do if ← abortRequested then return a else p) t r)
    (hno : ⟨.abortRequested, true⟩ ∉ t) :
    ∃ t', t = ⟨.abortRequested, false⟩ :: t' ∧ Run p t' r := by
  refine (run_abortCheck.mp h).resolve_left ?_
  rintro ⟨rfl, -⟩
  exact hno List.mem_cons_self

/-! ## The functional test -/

/-- A read of the channel in the run, with no active fault. -/
def ReadFaultless (ch : ℤ) (t : List TestEvent) (ci : ChannelInfo) : Prop :=
  ∃ tread, tread <:+: t ∧ Run (onSession (readChannelInfo ch 0)) tread ci ∧ ci.activeFault = 0

theorem ReadFaultless.of_isInfix (h : ReadFaultless ch t ci) (ht : t <:+: t') :
    ReadFaultless ch t' ci := by
  obtain ⟨tread, hread, hrun, hfault⟩ := h
  exact ⟨tread, hread.trans ht, hrun, hfault⟩

/-- What the test takes for a point within the tolerance. -/
def Accepted (ch : ℤ) (target tol : Float) (t : List TestEvent) (measured : Float) : Prop :=
  ∃ ci, ReadFaultless ch t ci ∧ measured = rawToVolts ci.voltageRaw ∧
    (errPct target measured).abs ≤ tol

theorem Accepted.of_isInfix {measured : Float} (h : Accepted ch target tol t measured)
    (ht : t <:+: t') : Accepted ch target tol t' measured := by
  obtain ⟨ci, hread, hmeasured, herr⟩ := h
  exact ⟨ci, hread.of_isInfix ht, hmeasured, herr⟩

theorem run_driveAndRead (h : Run (driveAndRead ch target) t ci) :
    ∃ tread, tread <:+: t ∧ Run (onSession (readChannelInfo ch 0)) tread ci := by
  obtain ⟨wrote, t₁, rfl, h₁⟩ := run_call.mp h
  obtain ⟨enabled, t₂, rfl, h₂⟩ := run_call.mp h₁
  change Run (onSession (readChannelInfo ch 0) >>= _) t₂ ci at h₂
  obtain ⟨ci', tread, t₃, rfl, hread, h₃⟩ := run_bind.mp h₂
  obtain ⟨disabled, t₄, rfl, h₄⟩ := run_call.mp h₃
  obtain ⟨rfl, rfl⟩ := run_ret.mp h₄
  exact ⟨tread, ⟨[_, _], _, rfl⟩, hread⟩

/-- A point that passes has been read without a fault and lies within the tolerance. -/
theorem run_attemptLoop {retries : ℤ} {attempt : ℕ} {p p' : PointState}
    (h : Run (attemptLoop ch target tol retries attempt p) t p') (hp : p.pointOk = false)
    (hok : p'.pointOk) : Accepted ch target tol t p'.measured := by
  fun_induction attemptLoop ch target tol retries attempt p generalizing t with
  | case1 attempt p hle ihFault ihOutside =>
    rcases run_abortCheck.mp h with ⟨rfl, rfl⟩ | ⟨t₁, rfl, h₁⟩
    · rw [hp] at hok
      cases hok
    obtain ⟨ci, tdrive, t₂, rfl, hdrive, h₂⟩ := run_bind.mp h₁
    have htail := (suffix_behind ⟨.abortRequested, false⟩ tdrive t₂).isInfix
    split at h₂
    next hfault => exact (ihFault h₂ hp).of_isInfix htail
    next hfault =>
    dsimp only at h₂
    split at h₂
    next herr =>
      obtain ⟨-, rfl⟩ := run_ret.mp h₂
      obtain ⟨tread, hinfix, hread⟩ := run_driveAndRead hdrive
      exact ⟨ci, ⟨tread, hinfix.trans (infix_behind _ _ _), hread, not_not.mp hfault⟩, rfl, herr⟩
    next herr => exact (ihOutside ci h₂ hp).of_isInfix htail
  | case2 attempt p hgt =>
    obtain ⟨-, rfl⟩ := run_ret.mp h
    rw [hp] at hok
    cases hok

/-- The point of a target. -/
structure PointOf (ch : ℤ) (tol : Float) (t : List TestEvent) (target : Float)
    (pt : FuncTestPoint) : Prop where
  ch_eq : pt.ch = ch
  target_eq : pt.targetV = target
  accepted : pt.pass → Accepted ch target tol t pt.measuredV

theorem PointOf.of_isInfix {pt : FuncTestPoint} (h : PointOf ch tol t target pt) (ht : t <:+: t') :
    PointOf ch tol t' target pt :=
  ⟨h.ch_eq, h.target_eq, fun hpass => (h.accepted hpass).of_isInfix ht⟩

theorem exists_pointOf {targets : List Float} {pts : List FuncTestPoint}
    (h : List.Forall₂ (PointOf ch tol t) targets pts) (htarget : target ∈ targets) :
    ∃ pt ∈ pts, PointOf ch tol t target pt := by
  induction h with
  | nil => cases htarget
  | cons hpt _ ih =>
    rcases List.mem_cons.mp htarget with rfl | htarget
    · exact ⟨_, List.mem_cons_self, hpt⟩
    · obtain ⟨pt, hmem, hpt⟩ := ih htarget
      exact ⟨pt, List.mem_cons_of_mem _ hmem, hpt⟩

/-- Without an abort every target of the channel gets its point. -/
theorem run_runFuncChannel {retries : ℤ} {targets : List Float} {out out' : List FuncTestPoint}
    (h : Run (runFuncChannel ch tol retries targets out) t out')
    (hno : ⟨.abortRequested, true⟩ ∉ t) :
    ∃ pts, out' = out ++ pts ∧ List.Forall₂ (PointOf ch tol t) targets pts := by
  induction targets generalizing t out with
  | nil =>
    obtain ⟨rfl, rfl⟩ := run_ret.mp h
    exact ⟨[], (List.append_nil _).symm, .nil⟩
  | cons target targets ih =>
    obtain ⟨t₁, rfl, h₁⟩ := run_unaborted h hno
    obtain ⟨p, tpoint, t₂, rfl, hpoint, h₂⟩ := run_bind.mp h₁
    obtain ⟨pts, rfl, hpts⟩ := ih h₂ fun hmem =>
      hno (List.mem_cons_of_mem _ (List.mem_append_right _ hmem))
    refine ⟨funcTestPoint ch target tol p :: pts, by simp, .cons ⟨rfl, rfl, fun hok => ?_⟩ ?_⟩
    · exact (run_attemptLoop hpoint rfl hok).of_isInfix (infix_behind _ _ _)
    · exact hpts.imp fun _ _ hpt => hpt.of_isInfix (suffix_behind _ _ _).isInfix

theorem run_reportPoints {total done : ℕ} {pts : List FuncTestPoint} {result : FuncTestResult}
    {r : ℕ × FuncTestResult} (h : Run (reportPoints ch total pts done result) t r) :
    r.2.points = result.points ++ pts ∧ r.2.pass = (result.pass && pts.all (·.pass)) := by
  induction pts generalizing t done result with
  | nil =>
    obtain ⟨-, rfl⟩ := run_ret.mp h
    simp
  | cons pt pts ih =>
    obtain ⟨_, t₁, rfl, h₁⟩ := run_call.mp h
    obtain ⟨hpoints, hpass⟩ := ih h₁
    rw [hpoints, hpass]
    simp [Bool.and_assoc]

/-- A passed point of the target in the result. -/
def PassedPoint (cfg : FuncTestConfig) (t : List TestEvent) (ch : ℤ) (target : Float)
    (points : List FuncTestPoint) : Prop :=
  ∃ pt ∈ points, pt.pass ∧ PointOf ch cfg.tolerancePct t target pt

/-- Without an abort every target has its point, and all the points of a pass have passed. -/
theorem run_funcChannels {cfg : FuncTestConfig} {total done : ℕ} {channels : List ℤ}
    {result result' : FuncTestResult}
    (h : Run (funcChannels cfg total channels done result) t result')
    (hno : ⟨.abortRequested, true⟩ ∉ t) (hpass : result'.pass) :
    result.pass ∧ result.points ⊆ result'.points ∧
      ∀ ch ∈ channels, ∀ target ∈ cfg.targets ch, PassedPoint cfg t ch target result'.points := by
  induction channels generalizing t done result with
  | nil =>
    obtain ⟨-, rfl⟩ := run_ret.mp h
    exact ⟨hpass, List.Subset.refl _, by simp⟩
  | cons ch channels ih =>
    obtain ⟨t₁, rfl, h₁⟩ := run_unaborted h hno
    obtain ⟨pts, tchannel, t₂, rfl, hchannel, h₂⟩ := run_bind.mp h₁
    obtain ⟨r, treport, t₃, rfl, hreport, h₃⟩ := run_bind.mp h₂
    simp only [List.mem_cons, List.mem_append, not_or] at hno
    obtain ⟨-, hnoChannel, -, hnoRest⟩ := hno
    obtain ⟨pts, rfl, hpts⟩ := run_runFuncChannel hchannel hnoChannel
    obtain ⟨hpoints, hresult⟩ := run_reportPoints hreport
    obtain ⟨hpassed, hsubset, hrest⟩ := ih h₃ hnoRest
    rw [hresult, Bool.and_eq_true, List.all_eq_true] at hpassed
    rw [hpoints] at hsubset
    refine ⟨hpassed.1, fun pt hpt => hsubset (List.mem_append_left _ hpt), ?_⟩
    intro ch' hch target htarget
    rcases List.mem_cons.mp hch with rfl | hch
    · obtain ⟨pt, hmem, hpt⟩ := exists_pointOf hpts htarget
      exact ⟨pt, hsubset (List.mem_append_right _ hmem), hpassed.2 pt hmem,
        hpt.of_isInfix (infix_behind _ _ _)⟩
    · obtain ⟨pt, hmem, hok, hpt⟩ := hrest ch' hch target htarget
      exact ⟨pt, hmem, hok, hpt.of_isInfix
        ((List.suffix_append _ _).trans (suffix_behind _ _ _)).isInfix⟩

/-! ## The stress test -/

/-- Reads of the channel in the run, each behind the one before it. -/
inductive ReadsInOrder (ch : ℤ) : List TestEvent → List ChannelInfo → Prop
  | done (t : List TestEvent) : ReadsInOrder ch t []
  | read (t : List TestEvent) {tread t' : List TestEvent} {ci : ChannelInfo}
      {reads : List ChannelInfo} (hrun : Run (onSession (readChannelInfo ch 0)) tread ci)
      (hread : VoltageRead ch tread ci) (hrest : ReadsInOrder ch t' reads) :
      ReadsInOrder ch (t ++ (tread ++ t')) (ci :: reads)

theorem ReadsInOrder.append {reads : List ChannelInfo} (h : ReadsInOrder ch t reads)
    (t' : List TestEvent) : ReadsInOrder ch (t ++ t') reads := by
  induction h with
  | done t => exact .done _
  | read t hrun hread _ ih =>
    rw [List.append_assoc, List.append_assoc]
    exact .read t hrun hread ih

theorem ReadsInOrder.of_suffix {reads : List ChannelInfo} (h : ReadsInOrder ch t reads)
    (ht : t <:+ t') : ReadsInOrder ch t' reads := by
  obtain ⟨t₀, rfl⟩ := ht
  cases h with
  | done => exact .done _
  | read t hrun hread hrest =>
    rw [← List.append_assoc]
    exact .read (t₀ ++ t) hrun hread hrest

theorem ReadsInOrder.of_isInfix {reads : List ChannelInfo} (h : ReadsInOrder ch t reads)
    (ht : t <:+: t') : ReadsInOrder ch t' reads := by
  obtain ⟨t₀, t₁, rfl⟩ := ht
  exact (h.of_suffix (List.suffix_append t₀ t)).append t₁

/-- Behind every read that is answered stands a read of the status registers. -/
theorem ReadsInOrder.statusRead {reads : List ChannelInfo} (h : ReadsInOrder ch t (ci :: reads)) :
    ∃ status, ⟨.session (.readRegsInternal false (chAddr ch 0) 10 normalTimeout), some status⟩ ∈
      t := by
  cases h with
  | read t hrun hread hrest =>
    obtain ⟨status, -, -, -, hstatus, -⟩ := hread
    exact ⟨status, List.mem_append_right _ (List.mem_append_left _ hstatus)⟩

def isFault (ci : ChannelInfo) : Bool := ci.activeFault ≠ 0

/-- The clock of the test after so many waits, each of which it adds up in doubles. -/
def clock (pollMs : ℤ) : (elapsed : Float) → ℕ → Float
  | elapsed, 0 => elapsed
  | elapsed, n + 1 => clock pollMs (elapsed + .ofInt pollMs / 1000.0) n

/-- A sample moves the clock of the tool by one wait. -/
theorem clock_record (s : StressState) (pollMs : ℤ) (ci : ChannelInfo) (v : Float) (n : ℕ) :
    clock pollMs ((s.record pollMs ci).accumulate v).elapsed n =
      clock pollMs s.elapsed (n + 1) := by
  rw [accumulate_elapsed, record_elapsed, clock]

/-- The samples that reads give, one behind every wait. -/
def samplesOf (pollMs : ℤ) : (elapsed : Float) → List ChannelInfo → List StressSample
  | _, [] => []
  | elapsed, ci :: reads =>
    { elapsedSec := elapsed + .ofInt pollMs / 1000.0
      voltageV := rawToVolts ci.voltageRaw
      fault := isFault ci } :: samplesOf pollMs (elapsed + .ofInt pollMs / 1000.0) reads

/-- The reads that the loop makes from a state, and the state that it ends in. -/
structure LoopReads (ch : ℤ) (cfg : StressConfig) (t : List TestEvent) (s s' : StressState)
    (reads : List ChannelInfo) : Prop where
  inOrder : ReadsInOrder ch t reads
  samples : s'.out.samples = s.out.samples ++ samplesOf cfg.pollMs s.elapsed reads
  faults : s'.out.faultCount = s.out.faultCount + reads.countP isFault
  whole : s'.out.faultCount ≤ cfg.faultTolerance →
    ¬ clock cfg.pollMs s.elapsed reads.length < .ofInt cfg.durationSec
  ch_eq : s'.out.ch = s.out.ch

theorem voltageRead_of_answers (h : Run (onSession (readChannelInfo ch 0)) t ci)
    (hall : ∀ e ∈ t, answersVoltage e) : VoltageRead ch t ci :=
  (run_readChannelInfo h).resolve_right fun hunread => hunread.2 hall

theorem record_faultCount (s : StressState) (pollMs : ℤ) (ci : ChannelInfo) :
    (s.record pollMs ci).out.faultCount = s.out.faultCount + [ci].countP isFault := by
  rw [List.countP_singleton]
  by_cases hfault : ci.activeFault = 0 <;> simp [StressState.record, isFault, hfault]

theorem LoopReads.one {cfg : StressConfig} (s : StressState)
    (hread : ReadsInOrder ch t [ci])
    (hover : cfg.faultTolerance < (s.record cfg.pollMs ci).out.faultCount) :
    LoopReads ch cfg t s (s.record cfg.pollMs ci) [ci] :=
  ⟨hread, rfl, record_faultCount .., fun hle => absurd hover (not_lt.mpr hle), rfl⟩

theorem LoopReads.cons {cfg : StressConfig} {s s' : StressState} {v : Float}
    {reads : List ChannelInfo}
    (h : LoopReads ch cfg t ((s.record cfg.pollMs ci).accumulate v) s' reads)
    (hread : ReadsInOrder ch t' (ci :: reads)) : LoopReads ch cfg t' s s' (ci :: reads) := by
  have hwhole := h.whole
  rw [clock_record] at hwhole
  refine ⟨hread, ?_, ?_, hwhole, h.ch_eq⟩
  · rw [h.samples]
    simp [StressState.accumulate, StressState.record, samplesOf, isFault]
  · rw [h.faults, ← List.singleton_append (l := reads), List.countP_append, ← add_assoc]
    exact congrArg (· + _) (record_faultCount s cfg.pollMs ci)

/-- Without an abort the loop is made of its reads, and only faults end it early. -/
theorem run_sampleLoop {cfg : StressConfig} {fuel : ℕ} {s s' : StressState}
    (h : Run (sampleLoop ch cfg fuel s) t (some s')) (hno : ⟨.abortRequested, true⟩ ∉ t)
    (hall : ∀ e ∈ t, answersVoltage e) : ∃ reads, LoopReads ch cfg t s s' reads := by
  induction fuel generalizing t s with
  | zero => cases (run_ret.mp h).2
  | succ fuel ih =>
    unfold sampleLoop at h
    split at h
    next hmore =>
      obtain ⟨t₁, rfl, h₁⟩ := run_unaborted h hno
      split at h₁
      next hfaults =>
        obtain ⟨rfl, heq⟩ := run_ret.mp h₁
        cases heq
        exact ⟨[], .done _, by simp [samplesOf], rfl,
          fun hle => absurd hfaults (not_lt.mpr hle), rfl⟩
      next hfaults =>
      obtain ⟨ci, tread, t₂, rfl, hrun, h₂⟩ := run_bind.mp h₁
      have hread := voltageRead_of_answers hrun fun e he =>
        hall e (List.mem_cons_of_mem _ (List.mem_append_left _ he))
      dsimp only at h₂
      split at h₂
      next hbreak =>
        obtain ⟨rfl, heq⟩ := run_ret.mp h₂
        cases heq
        exact ⟨[ci], .one s (.read [_] hrun hread (.done _)) hbreak.2⟩
      next hon =>
        obtain ⟨_, t₃, rfl, h₃⟩ := run_call.mp h₂
        obtain ⟨reads, hreads⟩ := ih h₃ (by simp_all) fun e he => hall e (by simp_all)
        exact ⟨ci :: reads, hreads.cons
          (.read [_] hrun hread (hreads.inOrder.of_suffix (List.suffix_cons _ _)))⟩
    next hwhole =>
      obtain ⟨rfl, heq⟩ := run_ret.mp h
      cases heq
      exact ⟨[], .done _, by simp [samplesOf], rfl, fun _ => hwhole, rfl⟩

/-- The loop ends on fuel for every wait that its clock needs. -/
theorem sampleLoop_ends {cfg : StressConfig} {fuel : ℕ} {s : StressState}
    (hfuel : ¬ clock cfg.pollMs s.elapsed fuel < .ofInt cfg.durationSec) :
    ¬ Run (sampleLoop ch cfg (fuel + 1) s) t none := by
  induction fuel generalizing t s with
  | zero =>
    intro h
    have hwhole : ¬ s.elapsed < .ofInt cfg.durationSec := hfuel
    rw [sampleLoop, if_neg hwhole] at h
    cases (run_ret.mp h).2
  | succ fuel ih =>
    intro h
    rw [sampleLoop] at h
    split at h
    · rcases run_abortCheck.mp h with ⟨-, heq⟩ | ⟨t₁, rfl, h₁⟩
      · cases heq
      split at h₁
      · cases (run_ret.mp h₁).2
      obtain ⟨ci, tread, t₂, rfl, -, h₂⟩ := run_bind.mp h₁
      dsimp only at h₂
      split at h₂
      · cases (run_ret.mp h₂).2
      obtain ⟨_, t₃, rfl, h₃⟩ := run_call.mp h₂
      refine ih ?_ h₃
      rwa [clock_record]
    · cases (run_ret.mp h).2

/-- A channel that was sampled until the clock had reached the end, by reads that were answered. -/
structure SampledThroughout (cfg : StressConfig) (t : List TestEvent) (ch : ℤ)
    (r : StressChannelResult) : Prop where
  ch_eq : r.ch = ch
  sampled : ∃ reads, ReadsInOrder ch t reads ∧ r.samples = samplesOf cfg.pollMs 0.0 reads ∧
    ¬ clock cfg.pollMs 0.0 reads.length < .ofInt cfg.durationSec ∧
    r.faultCount = reads.countP isFault
  faults : r.faultCount ≤ cfg.faultTolerance

theorem SampledThroughout.of_isInfix {cfg : StressConfig} {r : StressChannelResult}
    (h : SampledThroughout cfg t ch r) (ht : t <:+: t') : SampledThroughout cfg t' ch r := by
  obtain ⟨hch, ⟨reads, hinOrder, hrest⟩, hfaults⟩ := h
  exact ⟨hch, ⟨reads, hinOrder.of_isInfix ht, hrest⟩, hfaults⟩

theorem run_runStressChannel {fuel : ℕ} {cfg : StressConfig} {r : StressChannelResult}
    (h : Run (runStressChannel fuel ch target cfg) t (some r))
    (hno : ⟨.abortRequested, true⟩ ∉ t) (hall : ∀ e ∈ t, answersVoltage e) (hpass : r.pass) :
    SampledThroughout cfg t ch r := by
  obtain ⟨wrote, t₁, rfl, h₁⟩ := run_call.mp h
  obtain ⟨enabled, t₂, rfl, h₂⟩ := run_call.mp h₁
  change Run (sampleLoop ch cfg fuel _ >>= _) t₂ (some r) at h₂
  obtain ⟨s, tloop, t₃, rfl, hloop, h₃⟩ := run_bind.mp h₂
  cases s with
  | none => cases (run_ret.mp h₃).2
  | some s =>
  obtain ⟨disabled, t₄, rfl, h₄⟩ := run_call.mp h₃
  obtain ⟨rfl, heq⟩ := run_ret.mp h₄
  cases heq
  obtain ⟨reads, hreads⟩ := run_sampleLoop hloop (by simp_all) fun e he => hall e (by simp_all)
  have hfaults : (s.out.faultCount : ℤ) ≤ cfg.faultTolerance := (of_decide_eq_true hpass).1
  refine SampledThroughout.of_isInfix
    ⟨hreads.ch_eq, ⟨reads, hreads.inOrder, hreads.samples, ?_, ?_⟩, hfaults⟩
    (t := tloop) ⟨[_, _], _, rfl⟩
  · exact hreads.whole hfaults
  · exact hreads.faults.trans (Nat.zero_add _)

theorem run_stressChannels {fuel i : ℕ} {cfg : StressConfig} {channels : List ℤ}
    {result result' : StressTestResult}
    (h : Run (stressChannels fuel cfg channels i result) t (some result'))
    (hno : ⟨.abortRequested, true⟩ ∉ t) (hall : ∀ e ∈ t, answersVoltage e)
    (hpass : result'.pass) :
    result.pass ∧ ∃ rs, result'.channels = result.channels ++ rs ∧
      List.Forall₂ (SampledThroughout cfg t) channels rs := by
  induction channels generalizing t i result with
  | nil =>
    obtain ⟨-, heq⟩ := run_ret.mp h
    cases heq
    exact ⟨hpass, [], (List.append_nil _).symm, .nil⟩
  | cons ch channels ih =>
    obtain ⟨t₁, rfl, h₁⟩ := run_unaborted h hno
    obtain ⟨r, tchannel, t₂, rfl, hchannel, h₂⟩ := run_bind.mp h₁
    cases r with
    | none => cases (run_ret.mp h₂).2
    | some r =>
    obtain ⟨hpassed, rs, hrs, hsampled⟩ := ih h₂ (by simp_all) fun e he => hall e (by simp_all)
    rw [Bool.and_eq_true] at hpassed
    refine ⟨hpassed.1, r :: rs, by simp [hrs], .cons ?_ ?_⟩
    · exact (run_runStressChannel hchannel (by simp_all) (fun e he => hall e (by simp_all))
        hpassed.2).of_isInfix (infix_behind _ _ _)
    · exact hsampled.imp fun _ _ hr => hr.of_isInfix (suffix_behind _ _ _).isInfix

/-- The test ends once its clock does, on every channel. -/
theorem stressChannels_ends {cfg : StressConfig} {n i : ℕ} {channels : List ℤ}
    {result : StressTestResult} (h : ¬ clock cfg.pollMs 0.0 n < .ofInt cfg.durationSec) :
    ¬ Run (stressChannels (n + 1) cfg channels i result) t none := by
  induction channels generalizing t i result with
  | nil => exact fun hrun => nomatch (run_ret.mp hrun).2
  | cons ch channels ih =>
    intro hrun
    rcases run_abortCheck.mp hrun with ⟨-, heq⟩ | ⟨t₁, rfl, h₁⟩
    · cases heq
    obtain ⟨r, tchannel, t₂, rfl, hchannel, h₂⟩ := run_bind.mp h₁
    cases r with
    | some r => exact ih h₂
    | none =>
    obtain ⟨_, t₃, rfl, h₃⟩ := run_call.mp hchannel
    obtain ⟨_, t₄, rfl, h₄⟩ := run_call.mp h₃
    change Run (sampleLoop ch cfg _ _ >>= _) t₄ none at h₄
    obtain ⟨s, tloop, t₅, rfl, hloop, h₅⟩ := run_bind.mp h₄
    cases s with
    | none =>
      refine sampleLoop_ends ?_ hloop
      exact h
    | some s =>
      obtain ⟨_, t₆, rfl, h₆⟩ := run_call.mp h₅
      cases (run_ret.mp h₆).2

/-! ## The two verdicts -/

/-- Everything but the two signals that a test ends with. -/
def BeforeVerdict : HostCall TestSignal → Prop
  | .signal (.funcTestComplete _) => False
  | .signal (.stressComplete _) => False
  | _ => True

theorem onSession_makes {α : Type} (p : SessionProgram α) :
    (onSession p : TestProgram α).Makes BeforeVerdict :=
  makes_lift _ _ (fun _ => trivial) p

theorem driveAndRead_makes : (driveAndRead ch target).Makes BeforeVerdict := by
  refine makes_bind (onSession_makes _) fun _ => makes_bind (onSession_makes _) fun _ =>
    makes_bind (onSession_makes _) fun _ => makes_bind (onSession_makes _) fun _ => trivial

theorem attemptLoop_makes {retries : ℤ} {attempt : ℕ} {p : PointState} :
    (attemptLoop ch target tol retries attempt p).Makes BeforeVerdict := by
  fun_induction attemptLoop ch target tol retries attempt p with
  | case1 attempt p hle ihFault ihOutside =>
    refine makes_abortCheck trivial (makes_bind driveAndRead_makes fun ci => ?_)
    split
    · exact ihFault
    · dsimp only
      split
      · exact trivial
      · exact ihOutside ci
  | case2 => exact trivial

theorem runFuncChannel_makes {retries : ℤ} {targets : List Float} {out : List FuncTestPoint} :
    (runFuncChannel ch tol retries targets out).Makes BeforeVerdict := by
  induction targets generalizing out with
  | nil => exact trivial
  | cons target targets ih =>
    exact makes_abortCheck trivial (makes_bind attemptLoop_makes fun _ => ih)

theorem reportPoints_makes {total done : ℕ} {pts : List FuncTestPoint} {result : FuncTestResult} :
    (reportPoints ch total pts done result).Makes BeforeVerdict := by
  induction pts generalizing done result with
  | nil => exact trivial
  | cons pt pts ih => exact ⟨trivial, fun _ => ih⟩

theorem funcChannels_makes {cfg : FuncTestConfig} {total done : ℕ} {channels : List ℤ}
    {result : FuncTestResult} :
    (funcChannels cfg total channels done result).Makes BeforeVerdict := by
  induction channels generalizing done result with
  | nil => exact trivial
  | cons ch channels ih =>
    exact makes_abortCheck trivial
      (makes_bind runFuncChannel_makes fun _ => makes_bind reportPoints_makes fun _ => ih)

theorem sampleLoop_makes {cfg : StressConfig} {fuel : ℕ} {s : StressState} :
    (sampleLoop ch cfg fuel s).Makes BeforeVerdict := by
  induction fuel generalizing s with
  | zero => exact trivial
  | succ fuel ih =>
    unfold sampleLoop
    split
    · refine makes_abortCheck trivial ?_
      split
      · exact trivial
      refine makes_bind (onSession_makes _) fun ci => ?_
      dsimp only
      split
      · exact trivial
      · exact ⟨trivial, fun _ => ih⟩
    · exact trivial

theorem stressChannels_makes {fuel i : ℕ} {cfg : StressConfig} {channels : List ℤ}
    {result : StressTestResult} :
    (stressChannels fuel cfg channels i result).Makes BeforeVerdict := by
  induction channels generalizing i result with
  | nil => exact trivial
  | cons ch channels ih =>
    refine makes_abortCheck trivial (makes_bind ?_ fun r => ?_)
    · refine makes_bind (onSession_makes _) fun _ => makes_bind (onSession_makes _) fun _ =>
        makes_bind sampleLoop_makes fun s => ?_
      cases s with
      | none => exact trivial
      | some s => exact makes_bind (onSession_makes _) fun _ => trivial
    · cases r with
      | none => exact trivial
      | some r => exact ih

/-- The verdict is the last signal, and the only one of its kind. -/
theorem complete_of_funcTest {cfg : FuncTestConfig} {result : FuncTestResult}
    (h : Run (runFunctionalTest cfg) t ())
    (hsignal : ⟨.signal (.funcTestComplete result), ()⟩ ∈ t) :
    ∃ total t', t = t' ++ [⟨.signal (.funcTestComplete result), ()⟩] ∧
      Run (funcChannels cfg total cfg.channels 0 { pass := true }) t' result := by
  obtain ⟨result', t₁, t₂, rfl, h₁, h₂⟩ := run_bind.mp h
  rw [run_emitSignal] at h₂
  subst h₂
  rcases List.mem_append.mp hsignal with hmem | hmem
  · exact absurd (h₁.makes funcChannels_makes hmem) not_false
  · cases List.mem_singleton.mp hmem
    exact ⟨_, t₁, rfl, h₁⟩

/-- The test ends so only when the flag is still clear. -/
theorem complete_of_stressTest {fuel : ℕ} {cfg : StressConfig} {result : StressTestResult}
    (h : Run (runStressTest fuel cfg) t ())
    (hsignal : ⟨.signal (.stressComplete result), ()⟩ ∈ t) :
    ∃ t', t = t' ++ [⟨.abortRequested, false⟩, ⟨.signal (.stressComplete result), ()⟩] ∧
      Run (stressChannels fuel cfg cfg.channels 0 { pass := true }) t' (some result) := by
  obtain ⟨r, t₁, t₂, rfl, h₁, h₂⟩ := run_bind.mp h
  rcases List.mem_append.mp hsignal with hmem | hmem
  · exact absurd (h₁.makes stressChannels_makes hmem) not_false
  cases r with
  | none =>
    obtain ⟨rfl, -⟩ := run_ret.mp h₂
    cases hmem
  | some r =>
  obtain ⟨aborted, t₃, rfl, h₃⟩ := run_call.mp h₂
  cases aborted with
  | true =>
    cases run_emitSignal.mp h₃
    simp at hmem
  | false =>
    cases run_emitSignal.mp h₃
    simp only [List.mem_cons, List.not_mem_nil, or_false] at hmem
    rcases hmem with hmem | hmem <;> cases hmem
    exact ⟨t₁, rfl, h₁⟩

/-! ## The evidence -/

/-- A point whose voltage and fault state were read in the run, and is in the tolerance. -/
structure PointEvidence (t : List TestEvent) (ch : ℤ) (target tol : Float) (pt : FuncTestPoint) :
    Prop where
  ch_eq : pt.ch = ch
  target_eq : pt.targetV = target
  read : ∃ tread ci, tread <:+: t ∧ Run (onSession (readChannelInfo ch 0)) tread ci ∧
    VoltageRead ch tread ci ∧ ci.activeFault = 0 ∧ pt.measuredV = rawToVolts ci.voltageRaw
  within : ((pt.measuredV - target) / target * 100.0).abs ≤ tol

/-- What a functional test that passes stands for. -/
def FuncEvidence (cfg : FuncTestConfig) (t : List TestEvent) (result : FuncTestResult) : Prop :=
  ∀ ch ∈ cfg.channels, ∀ target ∈ cfg.targets ch,
    ∃ pt ∈ result.points, PointEvidence t ch target cfg.tolerancePct pt

/-- And a stress test that passes. -/
def StressEvidence (cfg : StressConfig) (t : List TestEvent) (result : StressTestResult) : Prop :=
  List.Forall₂ (SampledThroughout cfg t) cfg.channels result.channels

/-- The flag is never seen up, the targets are above a millivolt, and a struct of zeros would be
outside the tolerance or is never met. -/
structure FuncTrusted (cfg : FuncTestConfig) (t : List TestEvent) : Prop where
  noAbort : ⟨.abortRequested, true⟩ ∉ t
  targets : ∀ ch ∈ cfg.channels, ∀ target ∈ cfg.targets ch, (0.001 : Float) < target
  answered : cfg.tolerancePct < 100.0 ∨ ∀ e ∈ t, answersVoltage e

theorem rawToVolts_zero : rawToVolts 0 = 0.0 := by decide +kernel

theorem FuncTrusted.evidence {cfg : FuncTestConfig} {result : FuncTestResult}
    (h : FuncTrusted cfg t) (hrun : Run (runFunctionalTest cfg) t ())
    (hsignal : ⟨.signal (.funcTestComplete result), ()⟩ ∈ t) (hpass : result.pass) :
    FuncEvidence cfg t result := by
  obtain ⟨total, t', rfl, hchannels⟩ := complete_of_funcTest hrun hsignal
  have hno : ⟨.abortRequested, true⟩ ∉ t' := fun hmem =>
    h.noAbort (List.mem_append_left _ hmem)
  obtain ⟨-, -, hpoints⟩ := run_funcChannels hchannels hno hpass
  intro ch hch target htarget
  have habove := h.targets ch hch target htarget
  obtain ⟨pt, hmem, hok, hpoint⟩ := hpoints ch hch target htarget
  obtain ⟨ci, ⟨tread, hinfix, hread, hfault⟩, hmeasured, herr⟩ := hpoint.accepted hok
  rw [errPct, if_pos habove] at herr
  have hinfix' : tread <:+: t' ++ [⟨.signal (.funcTestComplete result), ()⟩] :=
    hinfix.trans (List.prefix_append t' _).isInfix
  refine ⟨pt, hmem, hpoint.ch_eq, hpoint.target_eq,
    ⟨tread, ci, hinfix', hread, ?_, hfault, hmeasured⟩, herr⟩
  rcases run_readChannelInfo hread with hvoltage | ⟨hzero, hunread⟩
  · exact hvoltage
  rcases h.answered with htol | hall
  · rw [hmeasured, hzero, rawToVolts_zero] at herr
    exact absurd htol (Doubles.percent_of_zero herr)
  · exact absurd (fun e he => hall e (hinfix'.subset he)) hunread

/-- The flag stays up once it is, and no read fails. -/
structure StressTrusted (t : List TestEvent) : Prop where
  sticky : Sticky t
  answered : ∀ e ∈ t, answersVoltage e

theorem StressTrusted.evidence {fuel : ℕ} {cfg : StressConfig} {result : StressTestResult}
    (h : StressTrusted t) (hrun : Run (runStressTest fuel cfg) t ())
    (hsignal : ⟨.signal (.stressComplete result), ()⟩ ∈ t) (hpass : result.pass) :
    StressEvidence cfg t result := by
  obtain ⟨t', rfl, hchannels⟩ := complete_of_stressTest hrun hsignal
  have hno : ⟨.abortRequested, true⟩ ∉ t' := h.sticky.noAbort_of_noAbort List.mem_cons_self
  obtain ⟨-, rs, hrs, hsampled⟩ := run_stressChannels hchannels hno
    (fun e he => h.answered e (List.mem_append_left _ he)) hpass
  rw [StressEvidence, hrs]
  exact hsampled.imp fun _ _ hr => hr.of_isInfix (List.prefix_append t' _).isInfix

/-- The runs of both tests in which a pass rests on evidence. -/
theorem pass_rests_on_evidence (t : List TestEvent) :
    (∀ cfg, Run (runFunctionalTest cfg) t () → FuncTrusted cfg t → ∀ result,
      ⟨.signal (.funcTestComplete result), ()⟩ ∈ t → result.pass → FuncEvidence cfg t result) ∧
    ∀ fuel cfg, Run (runStressTest fuel cfg) t () → StressTrusted t → ∀ result,
      ⟨.signal (.stressComplete result), ()⟩ ∈ t → result.pass → StressEvidence cfg t result :=
  ⟨fun _ hrun h _ hsignal hpass => h.evidence hrun hsignal hpass,
    fun _ _ hrun h _ hsignal hpass => h.evidence hrun hsignal hpass⟩

/-! ## A pass on evidence, and two without -/

/-- A read of the channel that is answered throughout. -/
def answeredRead (ch : ℤ) (status : Vector UInt16 10) (m : Vector UInt16 2) : List TestEvent :=
  [⟨.session .checkConnected, true⟩,
    ⟨.session (.readRegsInternal false (chAddr ch 0) 10 normalTimeout), some status⟩,
    ⟨.session (.readRegsInternal false (chAddr ch 0 + 10) 2 normalTimeout), some m⟩]

def answeredInfo (status : Vector UInt16 10) (m : Vector UInt16 2) : ChannelInfo :=
  { ({} : ChannelInfo).withRuntimeState (status.get 9) status nine_le_ten with
    voltageRaw := (m.get 0).toInt16
    currentRaw := (m.get 1).toInt16 }

theorem run_answeredRead {status : Vector UInt16 10} {m : Vector UInt16 2}
    (h : hasVoltage (status.get 9) ∧ hasCurrent (status.get 9)) :
    Run (onSession (readChannelInfo ch 0)) (answeredRead ch status m) (answeredInfo status m) := by
  refine .call (.call ?_)
  show Run (onSession (readMeasurements ch (status.get 9) _)) _ _
  rw [readMeasurements, if_pos h]
  exact .call (.ret _)

def writeEvent (addr value : UInt16) (ok : Bool) : TestEvent :=
  ⟨.session (.writeRegsInternal addr [value] normalTimeout), ok⟩

def clearFlag : TestEvent := ⟨.abortRequested, false⟩

/-- Both measurements, and no fault. -/
def idleStatus : Vector UInt16 10 := #v[1, 0, 0, 0, 0, 0, 0, 0, 1000, 12]

def hundredVolts : Vector UInt16 2 := #v[1000, 0]

theorem rawToVolts_hundredVolts :
    rawToVolts (answeredInfo idleStatus hundredVolts).voltageRaw = 100.0 := by
  decide +kernel

def drivenRead : List TestEvent :=
  writeEvent (chAddr 0 3) (voltsToRaw 100.0).toUInt16 true :: writeEvent (chAddr 0 0) 1 true ::
    (answeredRead 0 idleStatus hundredVolts ++ [writeEvent (chAddr 0 0) 2 true])

theorem errPct_hundredVolts : (errPct 100.0 100.0).abs ≤ 2.0 := by decide +kernel

def provenTest : FuncTestConfig := { ch := 0, targetVolts := [100.0] }

def provenPoint : FuncTestPoint := funcTestPoint 0 100.0 2.0 ⟨true, 100.0, .within 1⟩

def provenRun : List TestEvent :=
  clearFlag :: clearFlag :: clearFlag :: (drivenRead ++
    [⟨.signal (.funcTestProgress 0 0 1), ()⟩,
      ⟨.signal (.funcTestComplete { points := [provenPoint], pass := true }), ()⟩])

theorem run_provenTest : Run (runFunctionalTest provenTest) provenRun () := by
  have hdrive : Run (driveAndRead 0 100.0) drivenRead (answeredInfo idleStatus hundredVolts) := by
    refine .call (.call ?_)
    show Run (onSession (readChannelInfo 0 0) >>= _) _ _
    exact run_bind.mpr ⟨_, _, _, rfl, run_answeredRead (by decide), .call (.ret _)⟩
  have hpoint : Run (attemptLoop 0 100.0 2.0 2 0 {}) (clearFlag :: drivenRead)
      ⟨true, 100.0, .within 1⟩ := by
    rw [attemptLoop, if_pos (by decide)]
    refine run_abortCheck.mpr (.inr ⟨_, rfl, run_bind.mpr
      ⟨_, _, [], (List.append_nil _).symm, hdrive, ?_⟩⟩)
    rw [if_neg (by decide)]
    dsimp only
    rw [rawToVolts_hundredVolts, if_pos errPct_hundredVolts]
    exact .ret _
  have hchannel : Run (runFuncChannel 0 2.0 2 [100.0] []) (clearFlag :: clearFlag :: drivenRead)
      [provenPoint] :=
    run_abortCheck.mpr (.inr ⟨_, rfl, run_bind.mpr
      ⟨_, _, [], (List.append_nil _).symm, hpoint, .ret _⟩⟩)
  have hchannels : Run (funcChannels provenTest 1 [0] 0 { pass := true })
      (clearFlag :: clearFlag :: clearFlag ::
        (drivenRead ++ [⟨.signal (.funcTestProgress 0 0 1), ()⟩]))
      { points := [provenPoint], pass := true } :=
    run_abortCheck.mpr (.inr ⟨_, rfl, run_bind.mpr ⟨_, _, _, rfl, hchannel, .call (.ret _)⟩⟩)
  exact run_bind.mpr ⟨_, _, _, rfl, hchannels, .call (.ret _)⟩

theorem second_begins : (0.0 : Float) < .ofInt 1 := by decide +kernel

theorem second_ends : ¬ (0.0 + .ofInt 1000 / 1000.0 : Float) < .ofInt 1 := by decide +kernel

/-- A second on the first channel, with one sample. -/
def oneSecond (targets : List Float) : StressConfig :=
  { ch := 0, targetVolts := targets, durationSec := 1 }

def startState (target : Float) : StressState :=
  { out := { ch := 0, targetV := target, durationSec := .ofInt 1 } }

def sampledState (target : Float) (ci : ChannelInfo) : StressState :=
  ((startState target).record 1000 ci).accumulate (rawToVolts ci.voltageRaw)

def sampledResult (targets : List Float) (ci : ChannelInfo) : StressChannelResult :=
  (sampledState (targets.getD 0 0.0) ci).result (oneSecond targets) (targets.getD 0 0.0)

def completeEvent (r : StressChannelResult) : TestEvent :=
  ⟨.signal (.stressComplete { channels := [r], pass := r.pass }), ()⟩

def loopRun (tread : List TestEvent) (target : Float) (ci : ChannelInfo) : List TestEvent :=
  clearFlag :: (tread ++ [⟨.signal (.stressProgress 0 ((startState target).record 1000 ci).elapsed
    (.ofInt 1) (rawToVolts ci.voltageRaw)), ()⟩])

def channelRun (tread : List TestEvent) (target : Float) (ci : ChannelInfo) : List TestEvent :=
  writeEvent (chAddr 0 3) (voltsToRaw target).toUInt16 true ::
    writeEvent (chAddr 0 0) 1 true :: (loopRun tread target ci ++ [writeEvent (chAddr 0 0) 2 true])

def oneSampleRun (tread : List TestEvent) (targets : List Float) (ci : ChannelInfo) :
    List TestEvent :=
  clearFlag :: channelRun tread (targets.getD 0 0.0) ci ++
    [clearFlag, completeEvent (sampledResult targets ci)]

theorem run_oneSample {targets : List Float} {tread : List TestEvent}
    (hread : Run (onSession (readChannelInfo 0 0)) tread ci) (hfault : ci.activeFault = 0) :
    Run (runStressTest 2 (oneSecond targets)) (oneSampleRun tread targets ci) () := by
  have hloop : Run (sampleLoop 0 (oneSecond targets) 2 (startState (targets.getD 0 0.0)))
      (loopRun tread (targets.getD 0 0.0) ci) (some (sampledState (targets.getD 0 0.0) ci)) := by
    have hstart : (startState (targets.getD 0 0.0)).elapsed <
        .ofInt (oneSecond targets).durationSec := second_begins
    have hend : ¬ (sampledState (targets.getD 0 0.0) ci).elapsed <
        .ofInt (oneSecond targets).durationSec := second_ends
    rw [sampleLoop, if_pos hstart]
    refine run_abortCheck.mpr (.inr ⟨_, rfl, ?_⟩)
    rw [if_neg (by simp [oneSecond, startState])]
    refine run_bind.mpr ⟨ci, _, _, rfl, hread, ?_⟩
    dsimp only
    rw [if_neg (by simp [hfault])]
    refine .call ?_
    show Run (sampleLoop 0 (oneSecond targets) 1 (sampledState (targets.getD 0 0.0) ci)) _ _
    rw [sampleLoop, if_neg hend]
    exact .ret _
  have hchannel : Run (runStressChannel 2 0 (targets.getD 0 0.0) (oneSecond targets))
      (channelRun tread (targets.getD 0 0.0) ci) (some (sampledResult targets ci)) := by
    refine .call (.call ?_)
    show Run (sampleLoop 0 (oneSecond targets) 2 (startState (targets.getD 0 0.0)) >>= _) _ _
    exact run_bind.mpr ⟨_, _, _, rfl, hloop, .call (.ret _)⟩
  have hchannels : Run (stressChannels 2 (oneSecond targets) [0] 0 { pass := true })
      (clearFlag :: channelRun tread (targets.getD 0 0.0) ci)
      (some { channels := [sampledResult targets ci], pass := (sampledResult targets ci).pass }) :=
    run_abortCheck.mpr (.inr ⟨_, rfl, run_bind.mpr
      ⟨_, _, [], (List.append_nil _).symm, hchannel, .ret _⟩⟩)
  exact run_bind.mpr ⟨_, _, _, rfl, hchannels, .call (.call (.ret _))⟩

/-- A channel that answers, and reads 100 V, passes both tests on evidence. -/
theorem pass_rests_on_evidence_hundredVolts :
    FuncEvidence provenTest provenRun { points := [provenPoint], pass := true } ∧
    StressEvidence (oneSecond [100.0])
      (oneSampleRun (answeredRead 0 idleStatus hundredVolts) [100.0]
        (answeredInfo idleStatus hundredVolts))
      { channels := [sampledResult [100.0] (answeredInfo idleStatus hundredVolts)]
        pass := (sampledResult [100.0] (answeredInfo idleStatus hundredVolts)).pass } := by
  refine ⟨(pass_rests_on_evidence provenRun).1 _ run_provenTest ⟨?_, ?_, .inl ?_⟩ _ ?_ rfl,
    (pass_rests_on_evidence _).2 2 _ (run_oneSample (run_answeredRead (by decide)) rfl)
      ⟨sticky_of_noAbort ?_, ?_⟩ _ ?_ ?_⟩
  · simp [provenRun, drivenRead, answeredRead, clearFlag, writeEvent]
  · simp only [provenTest, FuncTestConfig.channels, selectedChannels, FuncTestConfig.targets]
    decide +kernel
  · decide +kernel
  · simp [provenRun]
  · simp [oneSampleRun, channelRun, loopRun, answeredRead, clearFlag, writeEvent, completeEvent]
  · simp [oneSampleRun, channelRun, loopRun, answeredRead, clearFlag, writeEvent, completeEvent,
      answersVoltage]
    decide
  · simp [oneSampleRun, completeEvent]
  · decide +kernel

/-- An abort before the first channel, and a session that never connects: nothing was read, and
both tests report a pass. -/
theorem untested_passes :
    (∃ t result, Run (runFunctionalTest provenTest) t () ∧
      ⟨.signal (.funcTestComplete result), ()⟩ ∈ t ∧ result.pass ∧
      ¬ FuncEvidence provenTest t result) ∧
    ∃ fuel t result, Run (runStressTest fuel (oneSecond [])) t () ∧
      ⟨.signal (.stressComplete result), ()⟩ ∈ t ∧ result.pass ∧
      ¬ StressEvidence (oneSecond []) t result := by
  constructor
  · refine ⟨[⟨.abortRequested, true⟩, ⟨.signal (.funcTestComplete { pass := true }), ()⟩],
      { pass := true }, ?_, by simp, rfl, ?_⟩
    · exact run_bind.mpr ⟨_, [_], _, rfl, run_abortCheck.mpr (.inl ⟨rfl, rfl⟩), .call (.ret _)⟩
    · intro h
      obtain ⟨pt, hmem, -⟩ := h 0 List.mem_cons_self 100.0 List.mem_cons_self
      cases hmem
  · have hread : Run (onSession (readChannelInfo 0 0) : TestProgram ChannelInfo)
        [⟨.session .checkConnected, false⟩] {} := .call (.ret _)
    refine ⟨2, oneSampleRun _ [] {}, _, run_oneSample hread rfl,
      List.mem_append_right _ (List.mem_cons_of_mem _ List.mem_cons_self),
      by decide +kernel, ?_⟩
    intro h
    cases h with
    | cons hsampled _ =>
    obtain ⟨reads, hinOrder, -, hwhole, -⟩ := hsampled.sampled
    cases reads with
    | nil => exact hwhole second_begins
    | cons ci reads =>
    obtain ⟨status, hstatus⟩ := hinOrder.statusRead
    simp [oneSampleRun, channelRun, loopRun, clearFlag, writeEvent, completeEvent] at hstatus

end TestVerdict
