import HvbFirmware.CalibrationWorker

/-!
# The end of a sweep

Wherever a sweep leaves its loop, it sets the DAC to zero and switches the output off. It needs a
step to get into the loop at all: a step of zero divides by zero behind the write that switched the
output on. The codes are the ones asked for as long as they fit a register.
-/
namespace SweepEnd

open PsbBoardSession SweepData Interaction HostSession CalibrationWorker

variable {ch : ℤ} {cfg : SweepConfig}

/-! ## The writes of a sweep -/

def writeOf : SweepEvent → Option (UInt16 × List UInt16)
  | ⟨.session (.writeRegsInternal addr values _), _⟩ => some (addr, values)
  | _ => none

/-- The writes that were attempted, with or without success. -/
def attempted (t : List SweepEvent) : List (UInt16 × List UInt16) := t.filterMap writeOf

def codeOf (ch : ℤ) (write : UInt16 × List UInt16) : Option ℕ :=
  if write.1 = chAddr ch 31 then write.2.head?.map UInt16.toNat else none

/-- The DAC codes that were written. -/
def dacCodes (ch : ℤ) (t : List SweepEvent) : List ℕ := (attempted t).filterMap (codeOf ch)

/-- The last two writes. -/
def SwitchedOff (ch : ℤ) (t : List SweepEvent) : Prop :=
  ∃ before, attempted t = before ++ [(chAddr ch 31, [0]), (chAddr ch 30, [0])]

/-- What a sweep is to do. The last code is the zero of the end. -/
structure SweepsSafely (ch : ℤ) (cfg : SweepConfig) (t : List SweepEvent) (exit : SweepExit) :
    Prop where
  returns : exit = .returned
  codes : ∃ n, (dacCodes ch t).dropLast =
    (List.range n).map fun i => cfg.dacMin + i * cfg.stepSize
  increasing : (dacCodes ch t).dropLast.Pairwise (· < ·)
  off : ⟨writeCall ch 30 1, true⟩ ∈ t → SwitchedOff ch t

/-- There is a step, and no code between the limits is too large for a register. -/
structure Fits (cfg : SweepConfig) : Prop where
  step : 0 < cfg.stepSize
  codes : ∀ i, cfg.dacMin + i * cfg.stepSize ≤ cfg.dacMax →
    cfg.dacMin + i * cfg.stepSize ≤ 65535

@[simp] theorem attempted_append (t t' : List SweepEvent) :
    attempted (t ++ t') = attempted t ++ attempted t' := List.filterMap_append

@[simp] theorem attempted_write (off value : UInt16) (ok : Bool) (t : List SweepEvent) :
    attempted (⟨writeCall ch off value, ok⟩ :: t) = (chAddr ch off, [value]) :: attempted t :=
  rfl

@[simp] theorem dacCodes_append (ch : ℤ) (t t' : List SweepEvent) :
    dacCodes ch (t ++ t') = dacCodes ch t ++ dacCodes ch t' := by
  rw [dacCodes, attempted_append, List.filterMap_append, dacCodes, dacCodes]

theorem chAddr_ne {a b : UInt16} (h : a ≠ b) : chAddr ch a ≠ chAddr ch b := by
  intro heq
  exact h ((UInt16.add_right_inj _).mp heq)

@[simp] theorem dacCodes_dac (code : UInt16) (ok : Bool) (t : List SweepEvent) :
    dacCodes ch (⟨writeCall ch 31 code, ok⟩ :: t) = code.toNat :: dacCodes ch t := by
  simp [dacCodes, codeOf]

@[simp] theorem dacCodes_enable (value : UInt16) (ok : Bool) (t : List SweepEvent) :
    dacCodes ch (⟨writeCall ch 30 value, ok⟩ :: t) = dacCodes ch t := by
  have hne : chAddr ch 30 ≠ chAddr ch 31 := chAddr_ne (by decide)
  simp [dacCodes, codeOf, hne]

@[simp] theorem dacCodes_sample (ok : Bool) (t : List SweepEvent) :
    dacCodes ch (⟨sampleCall ch, ok⟩ :: t) = dacCodes ch t := by
  have hne : chAddr ch 32 ≠ chAddr ch 31 := chAddr_ne (by decide)
  have hattempted : attempted (⟨sampleCall ch, ok⟩ :: t) = (chAddr ch 32, [1]) :: attempted t := rfl
  simp [dacCodes, codeOf, hne, hattempted]

theorem attempted_snapshot {t : List SweepEvent} {snap : CalibrationSnapshot}
    (h : Run (onSession (readCalibrationSnapshot ch)) t snap) : attempted t = [] := by
  rcases run_readCalibrationSnapshot h with ⟨rfl, -⟩ | ⟨rfl, -⟩ | ⟨_, _, rfl, -⟩ <;> rfl

theorem attempted_report {data : ChannelCalData} {ok : Bool} {t : List SweepEvent}
    (h : ReportRun data ok t) : attempted t = [] := by
  cases h <;> rfl

/-! ## The codes -/

/-- A write that fails, or an abort. -/
def disturbs : SweepEvent → Bool
  | ⟨.abortRequested, aborted⟩ => aborted
  | ⟨.session (.writeRegsInternal _ _ _), ok⟩ => !ok
  | _ => false

def Undisturbed (t : List SweepEvent) : Prop := ∀ e ∈ t, disturbs e = false

/-- A round writes its code, or is aborted before it does. -/
theorem dacCodes_round {total : ℤ} {step dac : ℕ} {t : List SweepEvent}
    {r : Except Bool SweepPoint} (h : RoundRun ch total step dac t r) :
    dacCodes ch t = [(UInt16.ofNat dac).toNat] ∨ (dacCodes ch t = [] ∧ r = .error true) := by
  cases h with
  | abortedFirst => exact .inr ⟨rfl, rfl⟩
  | writeFailed text => exact .inl (dacCodes_dac _ false (failureEvents text))
  | abortedSettling => exact .inl (dacCodes_dac _ true _)
  | sampleFailed text =>
    exact .inl ((dacCodes_dac _ true _).trans
      (congrArg _ (dacCodes_sample false (failureEvents text))))
  | abortedCooling =>
    exact .inl ((dacCodes_dac _ true _).trans (congrArg _ (dacCodes_sample true _)))
  | @point t snap hsnap =>
    refine .inl ((dacCodes_dac _ true _).trans (congrArg _ ((dacCodes_sample true _).trans ?_)))
    show dacCodes ch (t ++ _) = []
    rw [dacCodes_append, dacCodes, attempted_snapshot hsnap]
    rfl

theorem disturbed_round {total : ℤ} {step dac : ℕ} {t : List SweepEvent} {ok : Bool}
    (h : RoundRun ch total step dac t (.error ok)) : ¬ Undisturbed t := by
  intro hquiet
  cases h with
  | abortedFirst => cases hquiet ⟨.abortRequested, true⟩ (by simp)
  | writeFailed => cases hquiet ⟨writeCall ch 31 (UInt16.ofNat dac), false⟩ (by simp)
  | abortedSettling => cases hquiet ⟨.abortRequested, true⟩ (by simp)
  | sampleFailed => cases hquiet ⟨sampleCall ch, false⟩ (by simp)
  | abortedCooling => cases hquiet ⟨.abortRequested, true⟩ (by simp)

/-- The loop writes the codes from the first one on, up to its limit if nothing stops it. -/
theorem dacCodes_loop {total : ℤ} {step dac : ℕ} {points : List SweepPoint} {t : List SweepEvent}
    {r : Bool × List SweepPoint} (h : LoopRun ch total cfg step dac points t r) :
    ∃ n, dacCodes ch t =
        ((List.range n).map fun i => (UInt16.ofNat (dac + i * cfg.stepSize)).toNat) ∧
      (∀ i < n, dac + i * cfg.stepSize ≤ cfg.dacMax) ∧
      (Undisturbed t → cfg.dacMax < dac + n * cfg.stepSize) := by
  induction h with
  | past hgt => exact ⟨0, rfl, by simp, fun _ => by omega⟩
  | @stopped step dac points t ok hle hround =>
    rcases dacCodes_round hround with hcode | ⟨hcode, -⟩
    · refine ⟨1, by simpa using hcode, fun i hi => ?_, fun h => absurd h (disturbed_round hround)⟩
      rw [Nat.lt_one_iff.mp hi, Nat.zero_mul]
      exact hle
    · exact ⟨0, hcode, by simp, fun h => absurd h (disturbed_round hround)⟩
  | @round step dac points t t' pt r hle hround hrest ih =>
    obtain ⟨n, hcodes, hbound, hall⟩ := ih
    have hcode := (dacCodes_round hround).resolve_right (by simp)
    have hshift : ∀ i, dac + cfg.stepSize + i * cfg.stepSize = dac + (i + 1) * cfg.stepSize := by
      intro i
      rw [Nat.succ_mul]
      omega
    refine ⟨n + 1, ?_, fun i hi => ?_, fun hquiet => ?_⟩
    · rw [dacCodes_append, hcode, hcodes, List.range_succ_eq_map]
      simp [hshift]
    · match i with
      | 0 => simpa using hle
      | i + 1 => exact hshift i ▸ hbound i (by omega)
    · have hrest := hall fun e he => hquiet e (List.mem_append_right t he)
      exact hshift n ▸ hrest

/-! ## The end -/

theorem dacCodes_report {data : ChannelCalData} {ok : Bool} {t : List SweepEvent}
    (h : ReportRun data ok t) : dacCodes ch t = [] := by
  rw [dacCodes, attempted_report h]
  rfl

theorem dacCodes_enableEvents (ch : ℤ) (needsCal ok : Bool) :
    dacCodes ch (enableEvents ch needsCal ok) = [] := by
  cases needsCal with
  | false => rfl
  | true => exact dacCodes_enable 1 ok []

/-- A sweep that got past the division. -/
theorem swept_codes {hasOut hasMeasV hasMeasI : Bool} {t : List SweepEvent}
    (h : SweepRun ch cfg hasOut hasMeasV hasMeasI t .returned) :
    (SwitchedOff ch t ∨ ⟨writeCall ch 30 1, true⟩ ∉ t) ∧
      ∃ n, (dacCodes ch t).dropLast =
          ((List.range n).map fun i => (UInt16.ofNat (cfg.dacMin + i * cfg.stepSize)).toNat) ∧
        (∀ i < n, cfg.dacMin + i * cfg.stepSize ≤ cfg.dacMax) ∧
        (Undisturbed t → 0 < cfg.stepSize ∧ cfg.dacMax < cfg.dacMin + n * cfg.stepSize) := by
  generalize hexit : SweepExit.returned = exit at h
  cases h with
  | refused text =>
    refine ⟨.inr (by simp [failureEvents, writeCall]), 0, ?_, by simp, fun hquiet => ?_⟩
    · rw [dacCodes_enable]
      rfl
    · cases hquiet ⟨writeCall ch 30 1, false⟩ (by simp)
  | divided => cases hexit
  | @swept t treport ok written disabled points hstep hloop hreport =>
    obtain ⟨n, hcodes, hbound, hall⟩ := dacCodes_loop hloop
    have hoff : dacCodes ch (offEvents ch written disabled ++ treport) = [0] := by
      rw [dacCodes_append, dacCodes_report hreport, offEvents, dacCodes_dac, dacCodes_enable]
      rfl
    refine ⟨.inl ⟨attempted (enableEvents ch (hasOut || hasMeasV || hasMeasI) true) ++
      attempted t, ?_⟩, n, ?_, hbound,
      fun hquiet => ⟨hstep, hall fun e he => hquiet e (by simp [he])⟩⟩
    · rw [attempted_append, attempted_append, attempted_append, attempted_report hreport,
        List.append_nil, List.append_assoc]
      rfl
    · rw [dacCodes_append, dacCodes_append, dacCodes_enableEvents, hoff, List.nil_append,
        List.dropLast_concat, hcodes]

theorem map_range_lt (hstep : 0 < cfg.stepSize) (n : ℕ) :
    ((List.range n).map fun i => cfg.dacMin + i * cfg.stepSize).Pairwise (· < ·) := by
  rw [List.pairwise_map]
  refine List.pairwise_lt_range.imp fun {i j} hij => ?_
  have hmul := Nat.mul_lt_mul_of_pos_right hij hstep
  omega

theorem sweepsSafely_of_fits (hfits : Fits cfg) {hasOut hasMeasV hasMeasI : Bool}
    {t : List SweepEvent} {exit : SweepExit}
    (h : SweepRun ch cfg hasOut hasMeasV hasMeasI t exit) : SweepsSafely ch cfg t exit := by
  have hexit : exit = .returned := by
    cases h with
    | refused => rfl
    | divided hzero => exact absurd hzero hfits.step.ne'
    | swept => rfl
  subst hexit
  obtain ⟨hoff, n, hcodes, hbound, -⟩ := swept_codes h
  have hexact : (dacCodes ch t).dropLast =
      (List.range n).map fun i => cfg.dacMin + i * cfg.stepSize := by
    rw [hcodes]
    refine List.map_congr_left fun i hi => UInt16.toNat_ofNat_of_lt' ?_
    exact Nat.lt_succ_of_le (hfits.codes i (hbound i (List.mem_range.mp hi)))
  exact ⟨rfl, ⟨n, hexact⟩, hexact ▸ map_range_lt hfits.step n,
    fun henabled => hoff.resolve_right (not_not.mpr henabled)⟩

/-- Surroundings in which nothing fails and nobody aborts. -/
def quiet : (c : HostCall SweepSignal) → c.Answer
  | .session .checkConnected => true
  | .session (.readRegsInternal _ _ count _) => some (Vector.replicate count 0)
  | .session (.writeRegsInternal _ _ _) => true
  | .session .lastError => ""
  | .abortRequested => false
  | .signal _ => ()

theorem exists_undisturbed {α : Type} (p : SweepProgram α) :
    ∃ t a, Run p t a ∧ Undisturbed t := by
  refine ⟨_, _, run_exec (fun c s => (quiet c, s)) p (), fun ⟨c, r⟩ he => ?_⟩
  rw [answer_exec quiet p () he]
  cases c with
  | abortRequested => rfl
  | signal => rfl
  | session c => cases c <;> rfl

/-- All runs of a sweep end safe, with the codes that were asked for, if and only if there is a step
and the codes fit a register. -/
theorem sweepsSafely_iff (ch : ℤ) (cfg : SweepConfig) (hasOut hasMeasV hasMeasI : Bool) :
    (∀ t exit, Run (runSweep ch cfg hasOut hasMeasV hasMeasI) t exit →
      SweepsSafely ch cfg t exit) ↔ Fits cfg := by
  constructor
  · intro hsafe
    obtain ⟨t, exit, hrun, hquiet⟩ := exists_undisturbed (runSweep ch cfg hasOut hasMeasV hasMeasI)
    obtain ⟨rfl, ⟨m, hexact⟩, -, -⟩ := hsafe t exit hrun
    obtain ⟨-, n, hcodes, -, hall⟩ := swept_codes (run_runSweep hrun)
    obtain ⟨hstep, hlast⟩ := hall hquiet
    refine ⟨hstep, fun i hi => ?_⟩
    have hlt : i < n := by
      by_contra hge
      have hmul := Nat.mul_le_mul_right cfg.stepSize (not_lt.mp hge)
      omega
    have heq := hexact.symm.trans hcodes
    have hlength : m = n := by simpa using congrArg List.length heq
    subst hlength
    have hcode := List.map_inj_left.mp heq i (List.mem_range.mpr hlt)
    rw [hcode]
    exact Nat.le_of_lt_succ (UInt16.toNat_lt _)
  · exact fun hfits t exit hrun => sweepsSafely_of_fits hfits (run_runSweep hrun)

def zeroStep : SweepConfig := ⟨0, 4095, 0, 300, 100, by decide⟩

/-- A step of zero: the output is switched on, and that is the last write. -/
theorem zeroStep_leftOn :
    Run (runSweep 0 zeroStep true true true) [⟨writeCall 0 30 1, true⟩] .dividedByZero ∧
      ¬ SweepsSafely 0 zeroStep [⟨writeCall 0 30 1, true⟩] .dividedByZero :=
  ⟨.call (.ret _), fun h => nomatch h.returns⟩

end SweepEnd
