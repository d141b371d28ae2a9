import HvbFirmware.Derate
import HvbFirmware.SlidingWindow
import HvbFirmware.VcChannelFrame

/-!
# The retry budget

A retry is carried out only when fewer retries than `auto_retry_max_count` are in the window
before it. The channel counts them in a buffer of the last `CONFIG_VC_MAX_RETRY_HISTORY` time
stamps of a clock of 32 bits; the log below has the true run time and all retries there were.
-/
namespace RetryBudget

open VcTypes VcChannel VcController Runs Derate SlidingWindow

variable {σ : Type}

/-! ## The log of a channel -/

/-- The run time of a channel in ms, and the times of its retries in their order. -/
structure Log where
  now : Nat
  retries : List Nat
  deriving DecidableEq, Repr

def logAfter (k : Kconfig) (ch : Channel) (op : ChannelOp) (log : Log) : Log :=
  match op with
  | .advance dtMs => { log with now := log.now + dtMs.toNat }
  | op => if recoversNow k ch op then { log with retries := log.retries ++ [log.now] } else log

/-- The retries that the window before now still covers. -/
def inWindow (ch : Channel) (log : Log) : List Nat :=
  log.retries.filter fun t => log.now ≤ t + ch.config.autoRetryWindow.toNat * 1000

/-- The channel has the run time and the last retries modulo `2 ^ 32`. -/
structure Logged (k : Kconfig) (p : Channel × Log) : Prop where
  uptime : p.1.uptimeRef = UInt32.ofNat p.2.now
  history : p.1.retryTimestampsMs =
    (p.2.retries.rtake k.maxRetryHistory).map UInt32.ofNat
  past : ∀ t ∈ p.2.retries, t ≤ p.2.now
  sorted : p.2.retries.Pairwise (· ≤ ·)

theorem logged_init (k : Kconfig) (node : Node) : Logged k (VcChannel.init k node, ⟨0, []⟩) where
  uptime := rfl
  history := by simp [VcChannel.init]
  past := by simp
  sorted := List.Pairwise.nil

/-- What leaves clock, history and log leaves the invariant. -/
theorem Logged.of_frame {k : Kconfig} {ch ch' : Channel} {log : Log} (h : Logged k (ch, log))
    (huptime : (frame ch').uptimeRef = (frame ch).uptimeRef)
    (hhistory : (frame ch').retryTimestampsMs = (frame ch).retryTimestampsMs) :
    Logged k (ch', log) where
  uptime := huptime.trans h.uptime
  history := hhistory.trans h.history
  past := h.past
  sorted := h.sorted

/-- The shift buffer keeps the last entries of the log. -/
theorem Logged.retry {k : Kconfig} {ch : Channel} {log : Log} (h : Logged k (ch, log)) :
    Logged k (recordRetryAttempt k ch, { log with retries := log.retries ++ [log.now] }) := by
  have huptime : ch.uptimeRef = UInt32.ofNat log.now := h.uptime
  have hhistory : ch.retryTimestampsMs = (log.retries.rtake k.maxRetryHistory).map UInt32.ofNat :=
    h.history
  have hsame : (recordRetryAttempt k ch).uptimeRef = ch.uptimeRef := by
    unfold recordRetryAttempt
    split <;> rfl
  have hbuffer : (recordRetryAttempt k ch).retryTimestampsMs =
      push k.maxRetryHistory ch.retryTimestampsMs ch.uptimeRef := by
    unfold recordRetryAttempt push
    split <;> rfl
  refine ⟨hsame.trans huptime, ?_, fun t ht => ?_, ?_⟩
  · show (recordRetryAttempt k ch).retryTimestampsMs = _
    rw [hbuffer, huptime, hhistory, push_map, push_rtake k.maxRetryHistory_range.1]
  · rcases List.mem_append.mp ht with ht | ht
    · exact h.past t ht
    · exact Nat.le_of_eq (List.mem_singleton.mp ht)
  · refine List.pairwise_append.mpr ⟨h.sorted, List.pairwise_singleton _ _, fun t ht s hs => ?_⟩
    rw [List.mem_singleton.mp hs]
    exact h.past t ht

theorem recoversNow_of_due {k : Kconfig} {ch : Channel} {sysCfg : SystemConfig} {dtMs : UInt32}
    (hdue : retryDue ch sysCfg dtMs) : recoversNow k ch (.tickRecovery sysCfg dtMs) := by
  have hretry : retryable ch sysCfg := by
    simp only [retryDue, decide_eq_true_eq] at hdue
    exact hdue.1
  have hne : ch.activeFaultCause ≠ 0 := by
    simp only [retryable, currentFaultOnly, decide_eq_true_eq, beq_iff_eq] at hretry
    rw [hretry.2.1]
    decide
  have hstep := tickRecovery_step k ch sysCfg dtMs
  simp only [recoversNow, decide_eq_true_eq]
  generalize tickRecovery k ch sysCfg dtMs = ch' at hstep
  cases hstep with
  | idle hnot => exact absurd (hnot.symm.trans hretry) (by decide)
  | cooling _ hnot => exact absurd (hnot.symm.trans hdue) (by decide)
  | exhausted _ hnot => exact absurd (hnot.symm.trans hdue) (by decide)
  | retry =>
    obtain ⟨code, hdrive⟩ := drive_startRecovery (recordRetryAttempt k (waited ch))
      (Int16.ofInt (retryTarget ch))
    exact ⟨hne, congrArg Drive.active hdrive⟩

theorem logged_call {k : Kconfig} {p : Channel × Log} {op : ChannelOp} (h : Logged k p) :
    Logged k (watched (ChannelOp.step k) (logAfter k) p op) := by
  obtain ⟨ch, log⟩ := p
  show Logged k (op.step k ch, logAfter k ch op log)
  have hstep := frame_step k ch op
  generalize hframe : frame (op.step k ch) = f at hstep
  cases hstep with
  | advance dtMs =>
    refine ⟨?_, h.history, fun t ht => Nat.le_trans (h.past t ht) (Nat.le_add_right _ _), h.sorted⟩
    show ch.uptimeRef + dtMs = UInt32.ofNat (log.now + dtMs.toNat)
    have huptime : ch.uptimeRef = UInt32.ofNat log.now := h.uptime
    rw [ofNat_add_toNat, huptime]
  | retry sysCfg dtMs hdue =>
    have hlog : logAfter k ch (.tickRecovery sysCfg dtMs) log =
        { log with retries := log.retries ++ [log.now] } := if_pos (recoversNow_of_due hdue)
    rw [hlog]
    exact h.retry.of_frame (congrArg Frame.uptimeRef hframe)
      (congrArg Frame.retryTimestampsMs hframe)
  | setField => exact h.of_frame (by rw [hframe]) (by rw [hframe])
  | setConfig => exact h.of_frame (by rw [hframe]) (by rw [hframe])
  | same op hadvance hretry =>
    have hnot : recoversNow k ch op = false := Bool.eq_false_iff.mpr fun hrecovers => by
      obtain ⟨sysCfg, dtMs, hop, hdue, -⟩ := recoversNow_drive hrecovers
      exact absurd ((hretry sysCfg dtMs hop).symm.trans hdue) (by decide)
    have hlog : logAfter k ch op log =
        if recoversNow k ch op then { log with retries := log.retries ++ [log.now] } else log := by
      cases op with
      | advance dtMs => exact absurd rfl (hadvance dtMs)
      | _ => rfl
    rw [hlog, hnot]
    exact h.of_frame (congrArg Frame.uptimeRef hframe) (congrArg Frame.retryTimestampsMs hframe)

/-! ## The count -/

theorem windowMs_toNat (window : UInt16) :
    (window.toUInt32 * 1000).toNat = window.toNat * 1000 := by
  have hlt := window.toNat_lt
  have hmul : (window.toUInt32 * 1000).toNat = window.toNat * 1000 % 2 ^ 32 :=
    UInt32.toNat_mul _ _
  omega

/-- Time stamps that alias or are too old only make the count larger. -/
theorem le_countActiveRetries {k : Kconfig} {ch : Channel} {log : Log} (h : Logged k (ch, log))
    {m : Nat} (hm : m ≤ (inWindow ch log).length) (hfits : m ≤ k.maxRetryHistory) :
    m ≤ countActiveRetries ch := by
  -- with a retry the window covers all later ones
  have hlater : log.retries.Pairwise fun s t =>
      decide (log.now ≤ s + ch.config.autoRetryWindow.toNat * 1000) = true →
        decide (log.now ≤ t + ch.config.autoRetryWindow.toNat * 1000) = true := by
    refine h.sorted.imp fun {s t} hst hs => ?_
    simp only [decide_eq_true_eq] at hs ⊢
    omega
  have hkept := le_filter_rtake hlater hm hfits
  have huptime : ch.uptimeRef = UInt32.ofNat log.now := h.uptime
  have hhistory : ch.retryTimestampsMs = (log.retries.rtake k.maxRetryHistory).map UInt32.ofNat :=
    h.history
  refine Nat.le_trans hkept ?_
  unfold countActiveRetries
  dsimp only
  rw [hhistory, huptime, List.filter_map, List.length_map, ← List.countP_eq_length_filter,
    ← List.countP_eq_length_filter]
  refine List.countP_mono_left fun t ht hcovered => ?_
  have hpast : t ≤ log.now := h.past t (List.mem_of_mem_drop ht)
  have hdiff := toNat_ofNat_sub_le hpast
  simp only [decide_eq_true_eq] at hcovered
  simp only [Function.comp, decide_eq_true_eq, UInt32.le_iff_toNat_le, windowMs_toNat]
  omega

/-- At a retry: the configured count fits the history. -/
def fitsHistory (k : Kconfig) (p : Channel × Log) (c : ChannelOp) : Bool :=
  !recoversNow k p.1 c || p.1.config.autoRetryMaxCount.toNat ≤ k.maxRetryHistory

/-- At a retry: fewer earlier ones than the configured count are in the window. -/
def withinBudget (k : Kconfig) (p : Channel × Log) (c : ChannelOp) : Bool :=
  !recoversNow k p.1 c || (inWindow p.1 p.2).length < p.1.config.autoRetryMaxCount.toNat

theorem withinBudget_of_logged {k : Kconfig} {p : Channel × Log} {c : ChannelOp}
    (h : Logged k p) (hfits : fitsHistory k p c) : withinBudget k p c := by
  cases hrecovers : recoversNow k p.1 c with
  | false => simp [withinBudget, hrecovers]
  | true =>
    obtain ⟨sysCfg, dtMs, rfl, hdue, -⟩ := recoversNow_drive hrecovers
    simp only [retryDue, decide_eq_true_eq] at hdue
    obtain ⟨-, -, -, hcount, -⟩ := hdue
    simp only [fitsHistory, hrecovers, Bool.not_true, Bool.false_or, decide_eq_true_eq] at hfits
    have hbudget : (inWindow p.1 p.2).length < p.1.config.autoRetryMaxCount.toNat := by
      refine Nat.lt_of_not_le fun hover => ?_
      exact absurd (le_countActiveRetries h hover hfits) (by omega)
    simp [withinBudget, hbudget]

/-! ## Runs -/

/-- Every call that an operation makes on channel `i` meets `Q`, with the log before it. -/
def EachLogged (k : Kconfig) (i : Nat) (Q : Channel × Log → ChannelOp → Bool)
    (p : Controller σ × Log) (op : PublicOp σ) : Prop :=
  ∀ ch ∈ p.1.channels[i]?, Along (watched (ChannelOp.step k) (logAfter k)) (fun q c => Q q c)
    (ch, p.2) (op.channelOps k p.1 i ch)

instance (k : Kconfig) (i : Nat) (Q : Channel × Log → ChannelOp → Bool)
    (p : Controller σ × Log) (op : PublicOp σ) : Decidable (EachLogged k i Q p op) :=
  inferInstanceAs (Decidable (∀ ch ∈ p.1.channels[i]?, _))

/-- In every run of public calls whose retries on channel `i` find the configured count within
the size of the history, each retry has fewer earlier ones in its window than that count. -/
theorem retries_withinBudget (k : Kconfig) (nodes : List Node) (store : σ) (i : Nat)
    (ops : List (PublicOp σ))
    (hops : Along (watched (PublicOp.step k) (publicHistory k i (logAfter k)))
      (EachLogged k i (fitsHistory k)) (VcController.init k nodes store, ⟨0, []⟩) ops) :
    Along (watched (PublicOp.step k) (publicHistory k i (logAfter k)))
      (EachLogged k i (withinBudget k)) (VcController.init k nodes store, ⟨0, []⟩) ops :=
  publicHistory_along (I := Logged k) (fun _ _ h _ => logged_call h)
    (fun _ _ h hfits => withinBudget_of_logged h hfits) (logged_init k) hops

/-- Operations after which channel 0 trips on every sample that is published over the limit, and
retries within one second. -/
def retryOps (σ : Type) : List (ControllerOp σ) :=
  [.channelSetField 0 .recoveryPolicyMode 1, .channelSetField 0 .autoRetryMaxCount 2,
    .channelSetField 0 .autoRetryWindow 10, .channelSetField 0 .currentProtectionMode 2,
    .channelSetField 0 .currentLimitThreshold 100, .setOperatingMode .automatic,
    .channelSetField 0 .configuredTargetVoltage 300, .tick 5000]

/-- A trip and the retry after it. -/
def tripAndRetry (σ : Type) (timestampMs : UInt32) : List (ControllerOp σ) :=
  [.publishCurrent 0 200000000 timestampMs, .tick 1000, .publishCurrent 0 0 (timestampMs + 1),
    .tick 1000, .tick 5000]

/-- Three trips with a retry each, the third after the first has left the window. -/
theorem retries_withinBudget_example :
    let ops : List (PublicOp Unit) := (retryOps Unit ++ tripAndRetry Unit 1 ++
      tripAndRetry Unit 3 ++ tripAndRetry Unit 5).map .controller
    Along (watched (PublicOp.step Kconfig.hvb) (publicHistory Kconfig.hvb 0
        (logAfter Kconfig.hvb))) (EachLogged Kconfig.hvb 0 (withinBudget Kconfig.hvb))
      (VcController.init Kconfig.hvb [dacNode] (), ⟨0, []⟩) ops :=
  retries_withinBudget Kconfig.hvb [dacNode] () 0 _ (by decide +kernel)

end RetryBudget
