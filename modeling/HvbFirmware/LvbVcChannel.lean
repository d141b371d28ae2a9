import Mathlib.Data.Rat.Floor
import HvbFirmware.Runs
import HvbFirmware.Truncation

/-!
# The sampling loop of the low voltage board

`lvb_vc_channel.c` adds up the readings of its two inputs and publishes their mean every
`oversample_count` turns of a timer. A read that fails adds nothing, but its turn counts.
-/
namespace LvbVcChannel

open Runs Truncation

/-! ## The driver -/

/-- `struct lvb_vc_config`, the part that the sampling reads. -/
structure Config where
  oversampleCount : UInt8
  deriving DecidableEq, Repr

/-- The cast of the devicetree property `oversample-count`. -/
def Config.ofProperty (oversampleCount : UInt32) : Config := ⟨oversampleCount.toUInt8⟩

/-- An accumulator of 64 bits takes at most 255 readings of 16, so it is an integer here. -/
structure Data where
  samplingActive : Bool
  vAccum : Int
  iAccum : Int
  sampleCount : UInt8
  deriving DecidableEq, Repr

inductive Outcome where
  | silent
  | published (voltage current : Int32)
  | dividedByZero
  deriving DecidableEq, Repr

/-- `adc_read_dt` and the addition behind its check; a read that fails is `none`. -/
def accumulate (accum : Int) (reading : Option Int16) : Int :=
  match reading with
  | some buf => accum + buf.toInt
  | none => accum

def counted (data : Data) (voltage current : Option Int16) : Data :=
  { data with
    vAccum := accumulate data.vAccum voltage
    iAccum := accumulate data.iAccum current
    sampleCount := data.sampleCount + 1 }

/-- `lvb_vc_sample_work_fn` -/
def sampleWorkFn (cfg : Config) (data : Data) (voltage current : Option Int16) : Outcome × Data :=
  if !data.samplingActive then (.silent, data)
  else
    let data := counted data voltage current
    if data.sampleCount ≥ cfg.oversampleCount then
      if cfg.oversampleCount = 0 then (.dividedByZero, data)
      else
        (.published (Int32.ofInt (data.vAccum.tdiv cfg.oversampleCount.toNat))
          (Int32.ofInt (data.iAccum.tdiv cfg.oversampleCount.toNat)),
          { data with vAccum := 0, iAccum := 0, sampleCount := 0 })
    else (.silent, data)

def startSampling : Data := ⟨true, 0, 0, 0⟩

def stopSampling (data : Data) : Data := { data with samplingActive := false }

inductive Event where
  | start
  | stop
  /-- A turn of the timer, with what the two reads bring. -/
  | sample (voltage current : Option Int16)
  deriving DecidableEq, Repr

def step (cfg : Config) (data : Data) : Event → Data
  | .start => startSampling
  | .stop => stopSampling data
  | .sample voltage current => (sampleWorkFn cfg data voltage current).2

/-- The static data of an initialised device. -/
def initial : Data := ⟨false, 0, 0, 0⟩

/-! ## The window -/

/-- The two reads of each turn since the start or since the last report. -/
abbrev Window := List (Option Int16 × Option Int16)

def voltages (window : Window) : List Int16 := window.filterMap (·.1)

def currents (window : Window) : List Int16 := window.filterMap (·.2)

def windowAfter (cfg : Config) (data : Data) (e : Event) (window : Window) : Window :=
  match e with
  | .start => []
  | .stop => window
  | .sample voltage current =>
    if !data.samplingActive then window
    else
      match (sampleWorkFn cfg data voltage current).1 with
      | .published _ _ => []
      | _ => window ++ [(voltage, current)]

def total (readings : List Int16) : Int := (readings.map Int16.toInt).sum

/-- The mean of the readings, rounded towards zero. -/
def truncatedMean (readings : List Int16) : Int := trunc ((total readings : ℚ) / readings.length)

/-- The readings that a value stands for exist, and it is their mean. -/
def IsMean (readings : List Int16) (value : Int32) : Prop :=
  readings ≠ [] ∧ value.toInt = truncatedMean readings

/-- What a turn publishes are the means of its window, and it divides by no zero. -/
def Exact (cfg : Config) (p : Data × Window) : Event → Prop
  | .sample voltage current =>
    let window := p.2 ++ [(voltage, current)]
    match (sampleWorkFn cfg p.1 voltage current).1 with
    | .silent => True
    | .published v i => IsMean (voltages window) v ∧ IsMean (currents window) i
    | .dividedByZero => False
  | _ => True

/-- Of `turns` reads at least one has succeeded, and the sum has a remainder over their mean that
makes up for a mean for each read that has failed. -/
def covers (turns : Nat) (readings : List Int16) : Bool :=
  readings ≠ [] ∧
    (turns - readings.length) * ((total readings).natAbs / readings.length) ≤
      (total readings).natAbs % readings.length

/-- The condition on a turn: a count other than zero, and windows whose failures do not show. -/
def covered (cfg : Config) (p : Data × Window) : Event → Bool
  | .sample voltage current =>
    let window := p.2 ++ [(voltage, current)]
    p.1.samplingActive → cfg.oversampleCount ≠ 0 ∧
      (window.length = cfg.oversampleCount.toNat →
        covers window.length (voltages window) ∧ covers window.length (currents window))
  | _ => true

/-! ## The invariant -/

@[simp] theorem voltages_append (w : Window) (v i : Option Int16) :
    voltages (w ++ [(v, i)]) = voltages w ++ v.toList := by
  cases v <;> simp [voltages]

@[simp] theorem currents_append (w : Window) (v i : Option Int16) :
    currents (w ++ [(v, i)]) = currents w ++ i.toList := by
  cases i <;> simp [currents]

theorem length_voltages_le (w : Window) : (voltages w).length ≤ w.length :=
  List.length_filterMap_le _ _

theorem length_currents_le (w : Window) : (currents w).length ≤ w.length :=
  List.length_filterMap_le _ _

theorem accumulate_total (readings : List Int16) (reading : Option Int16) :
    accumulate (total readings) reading = total (readings ++ reading.toList) := by
  cases reading <;> simp [accumulate, total]

/-- The accumulators have the readings of the window, and the window is not complete. -/
structure Tracks (cfg : Config) (p : Data × Window) : Prop where
  voltage : p.1.vAccum = total (voltages p.2)
  current : p.1.iAccum = total (currents p.2)
  count : p.1.sampleCount.toNat = p.2.length
  open_ : p.2.length < cfg.oversampleCount.toNat ∨ p.2 = []

theorem tracks_empty (cfg : Config) (active : Bool) : Tracks cfg (⟨active, 0, 0, 0⟩, []) where
  voltage := rfl
  current := rfl
  count := rfl
  open_ := .inr rfl

section Turn

variable {cfg : Config} {data : Data} {w : Window} {v i : Option Int16}

/-- A window that is not complete has room for a turn. -/
theorem Tracks.length_lt (h : Tracks cfg (data, w)) : w.length < 255 := by
  have hmax := cfg.oversampleCount.toNat_lt
  rcases h.open_ with hopen | hopen
  · have hopen : w.length < cfg.oversampleCount.toNat := hopen
    omega
  · have hopen : w = [] := hopen
    simp [hopen]

theorem Tracks.sums (h : Tracks cfg (data, w)) :
    (counted data v i).vAccum = total (voltages (w ++ [(v, i)])) ∧
      (counted data v i).iAccum = total (currents (w ++ [(v, i)])) ∧
      (counted data v i).sampleCount.toNat = (w ++ [(v, i)]).length := by
  have hvoltage : data.vAccum = total (voltages w) := h.voltage
  have hcurrent : data.iAccum = total (currents w) := h.current
  have hcount : data.sampleCount.toNat = w.length := h.count
  refine ⟨?_, ?_, ?_⟩
  · rw [voltages_append, ← accumulate_total, ← hvoltage]
    rfl
  · rw [currents_append, ← accumulate_total, ← hcurrent]
    rfl
  · have hlt := h.length_lt
    show (data.sampleCount + 1).toNat = _
    rw [UInt8.toNat_add, hcount, List.length_append, List.length_singleton]
    exact Nat.mod_eq_of_lt (by simpa using (by omega : w.length + 1 < 256))

/-- A turn of a running driver whose count is not zero. -/
theorem Tracks.turn (h : Tracks cfg (data, w)) (hactive : data.samplingActive)
    (hcount : cfg.oversampleCount ≠ 0) :
    (w ++ [(v, i)]).length < cfg.oversampleCount.toNat ∧
        sampleWorkFn cfg data v i = (.silent, counted data v i) ∨
      (w ++ [(v, i)]).length = cfg.oversampleCount.toNat ∧
        sampleWorkFn cfg data v i =
          (.published
            (Int32.ofInt ((total (voltages (w ++ [(v, i)]))).tdiv (w ++ [(v, i)]).length))
            (Int32.ofInt ((total (currents (w ++ [(v, i)]))).tdiv (w ++ [(v, i)]).length)),
            ⟨true, 0, 0, 0⟩) := by
  obtain ⟨hvoltage, hcurrent, hlength⟩ := h.sums (v := v) (i := i)
  have hpos : cfg.oversampleCount.toNat ≠ 0 := fun hzero =>
    hcount (UInt8.toNat_inj.mp hzero)
  have hle : (w ++ [(v, i)]).length ≤ cfg.oversampleCount.toNat := by
    rw [List.length_append, List.length_singleton]
    rcases h.open_ with hopen | hopen
    · exact hopen
    · have hopen : w = [] := hopen
      rw [hopen]
      exact Nat.pos_of_ne_zero hpos
  have hdone : (counted data v i).sampleCount ≥ cfg.oversampleCount ↔
      cfg.oversampleCount.toNat ≤ (w ++ [(v, i)]).length := by
    rw [ge_iff_le, UInt8.le_iff_toNat_le, hlength]
  unfold sampleWorkFn
  rw [if_neg (by simp [hactive])]
  dsimp only
  rcases Nat.lt_or_eq_of_le hle with hlt | heq
  · rw [if_neg (mt hdone.mp (Nat.not_le.mpr hlt))]
    exact .inl ⟨hlt, rfl⟩
  · have hkept : (counted data v i).samplingActive = true := hactive
    rw [if_pos (hdone.mpr (Nat.le_of_eq heq.symm)), if_neg hcount, hvoltage, hcurrent, hkept, ← heq]
    exact .inr ⟨rfl, rfl⟩

/-- A turn of a running driver whose count is zero. -/
theorem turn_zero (hactive : data.samplingActive) (hcount : cfg.oversampleCount = 0) :
    (sampleWorkFn cfg data v i).1 = .dividedByZero := by
  unfold sampleWorkFn
  rw [if_neg (by simp [hactive])]
  dsimp only
  rw [if_pos (hcount ▸ UInt8.zero_le), if_pos hcount]

/-! ## One turn -/

theorem total_natAbs_le (readings : List Int16) :
    (total readings).natAbs ≤ 32768 * readings.length := by
  induction readings with
  | nil => simp [total]
  | cons x xs ih =>
    have hx := Int16.le_toInt x
    have hx' := Int16.toInt_lt x
    have hcons : total (x :: xs) = x.toInt + total xs := by simp [total]
    rw [hcons, List.length_cons]
    omega

/-- A value that is published is the mean of what was read exactly if the window covers its
failures. -/
theorem isMean_iff {turns : Nat} {readings : List Int16} (hle : readings.length ≤ turns)
    (hmax : turns < 256) :
    IsMean readings (Int32.ofInt ((total readings).tdiv turns)) ↔ covers turns readings := by
  simp only [IsMean, covers, decide_eq_true_eq]
  refine and_congr_right fun hsome => ?_
  have hpos : 0 < readings.length := List.length_pos_iff.mpr hsome
  have hbound := total_natAbs_le readings
  have habs := Int.natAbs_tdiv_le_natAbs (total readings) turns
  have hfits : (Int32.ofInt ((total readings).tdiv turns)).toInt =
      (total readings).tdiv turns := by
    apply Int32.toInt_ofInt_of_le <;> omega
  rw [hfits, truncatedMean, trunc_div, tdiv_eq_tdiv_iff hpos hle]

end Turn

theorem exact_iff {cfg : Config} {p : Data × Window} (h : Tracks cfg p) (e : Event) :
    Exact cfg p e ↔ covered cfg p e := by
  obtain ⟨data, w⟩ := p
  cases e with
  | start => exact iff_of_true trivial rfl
  | stop => exact iff_of_true trivial rfl
  | sample v i =>
    have hle : (w ++ [(v, i)]).length < 256 := by
      rw [List.length_append, List.length_singleton]
      exact Nat.succ_lt_succ h.length_lt
    simp only [Exact, covered, decide_eq_true_eq]
    cases hactive : data.samplingActive with
    | false =>
      have hsilent : sampleWorkFn cfg data v i = (.silent, data) := if_pos (by simp [hactive])
      simp [hsilent]
    | true =>
      by_cases hcount : cfg.oversampleCount = 0
      · have hzero := turn_zero (v := v) (i := i) hactive hcount
        simp [hzero, hcount]
      · rcases h.turn (v := v) (i := i) hactive hcount with ⟨hlt, hturn⟩ | ⟨hfull, hturn⟩
        · have hopen : (w ++ [(v, i)]).length ≠ cfg.oversampleCount.toNat := Nat.ne_of_lt hlt
          rw [hturn]
          exact iff_of_true trivial fun _ => ⟨hcount, fun hfull => absurd hfull hopen⟩
        · have hvoltage := isMean_iff (length_voltages_le (w ++ [(v, i)])) hle
          have hcurrent := isMean_iff (length_currents_le (w ++ [(v, i)])) hle
          rw [hturn]
          refine ⟨fun hmeans _ => ⟨hcount, fun _ => ?_⟩, fun hcovers => ?_⟩
          · exact ⟨hvoltage.mp hmeans.1, hcurrent.mp hmeans.2⟩
          · obtain ⟨hv, hi⟩ := (hcovers rfl).2 hfull
            exact ⟨hvoltage.mpr hv, hcurrent.mpr hi⟩

theorem tracks_step {cfg : Config} {p : Data × Window} (h : Tracks cfg p) {e : Event}
    (hcovered : covered cfg p e) : Tracks cfg (watched (step cfg) (windowAfter cfg) p e) := by
  obtain ⟨data, w⟩ := p
  cases e with
  | start => exact tracks_empty cfg true
  | stop => exact ⟨h.voltage, h.current, h.count, h.open_⟩
  | sample v i =>
    show Tracks cfg ((sampleWorkFn cfg data v i).2, windowAfter cfg data (.sample v i) w)
    cases hactive : data.samplingActive with
    | false =>
      have hsilent : sampleWorkFn cfg data v i = (.silent, data) := if_pos (by simp [hactive])
      have hwindow : windowAfter cfg data (.sample v i) w = w := if_pos (by simp [hactive])
      rw [hsilent, hwindow]
      exact h
    | true =>
      simp only [covered, decide_eq_true_eq] at hcovered
      have hcount : cfg.oversampleCount ≠ 0 := (hcovered hactive).1
      have hwindow : windowAfter cfg data (.sample v i) w =
          match (sampleWorkFn cfg data v i).1 with
          | .published _ _ => []
          | _ => w ++ [(v, i)] := if_neg (by simp [hactive])
      obtain ⟨hvoltage, hcurrent, hlength⟩ := h.sums (v := v) (i := i)
      rw [hwindow]
      rcases h.turn (v := v) (i := i) hactive hcount with ⟨hlt, hturn⟩ | ⟨-, hturn⟩
      · rw [hturn]
        exact ⟨hvoltage, hcurrent, hlength, .inl hlt⟩
      · rw [hturn]
        exact tracks_empty cfg true

/-! ## Runs -/

theorem along_exact (cfg : Config) (events : List Event) :
    Along (watched (step cfg) (windowAfter cfg)) (Exact cfg) (initial, []) events ↔
      Along (watched (step cfg) (windowAfter cfg)) (fun p e => covered cfg p e) (initial, [])
        events :=
  along_congr (I := Tracks cfg) (fun _ _ h hcovered => tracks_step h hcovered)
    (fun _ e h => exact_iff h e) (tracks_empty cfg false)

/-- In a run of starts, stops and turns, what is published is exact at every turn exactly if every
turn finds a count other than zero and completes only windows whose failures do not show. -/
theorem oversampling_exact (oversampleCount : UInt32) (events : List Event) :
    let cfg := Config.ofProperty oversampleCount
    Along (watched (step cfg) (windowAfter cfg)) (Exact cfg) (initial, []) events ↔
      Along (watched (step cfg) (windowAfter cfg)) (fun p e => covered cfg p e) (initial, [])
        events :=
  along_exact _ events

def failedRead : List Event :=
  [.start, .sample (some 1000) (some 5000), .sample (some 1000) (some 5000),
    .sample (some 1000) (some 5000), .sample (some 1000) (some 5000), .sample (some 1000) none]

/-- Four currents of 5000 and a read that fails are reported as 4000. -/
theorem failedRead_averaged :
    (sampleWorkFn (.ofProperty 5) (exec (step (.ofProperty 5)) initial failedRead.dropLast)
        (some 1000) none).1 = .published 1000 4000 ∧
      ¬ Along (watched (step (.ofProperty 5)) (windowAfter (.ofProperty 5)))
        (Exact (.ofProperty 5)) (initial, []) failedRead := by
  rw [along_exact]
  decide

end LvbVcChannel
