import HvbFirmware.PollScan
import Mathlib.Data.List.Induction
import Mathlib.Order.Basic
import Mathlib.Tactic.IntervalCases

/-!
# The channels that are shown as offline

Both flags follow the polls that were made of a channel, over sweeps that end early and leave
channels out. The graphical client marks a channel at the fifth failure in a row, the terminal
client at the sixth.
-/
namespace OfflineDetection

open PsbBoardSession Interaction Program PollScan Function

/-! ## The polls of a channel -/

/-- The outcome, when the event is a poll of the channel. -/
def pollOf (ch : ℕ) : PollEvent → Option Bool
  | ⟨.readChannelStatus ch' _ _, ok, _⟩ => if ch' = ch then some ok else none
  | _ => none

def polls (ch : ℕ) (t : List PollEvent) : List Bool := t.filterMap (pollOf ch)

@[simp] theorem polls_append (ch : ℕ) (t t' : List PollEvent) :
    polls ch (t ++ t') = polls ch t ++ polls ch t' := List.filterMap_append

variable {ch ch' n : ℕ} {t : List PollEvent}

/-- A poll is one event among those that make up for the capabilities. -/
theorem run_pollChannel {info : ChannelInfo} {r : Bool × ChannelInfo}
    (h : Run (pollChannel ch info) t r) :
    polls ch t = [r.1] ∧ ∀ ch', ch' ≠ ch → polls ch' t = [] := by
  have hpoll : ∀ {caps : UInt16} {info : ChannelInfo} {t : List PollEvent},
      Run (ask (PollCall.readChannelStatus ch caps info)) t r →
      polls ch t = [r.1] ∧ ∀ ch', ch' ≠ ch → polls ch' t = [] := by
    intro caps info t h
    cases run_ask.mp h
    refine ⟨by simp [polls, pollOf], fun ch' hne => ?_⟩
    simp [polls, pollOf, hne.symm]
  unfold pollChannel at h
  split at h
  · obtain ⟨caps, t₁, rfl, h₁⟩ := run_call.mp h
    show polls ch t₁ = [r.1] ∧ ∀ ch', ch' ≠ ch → polls ch' t₁ = []
    cases caps <;> exact hpoll h₁
  · exact hpoll h

/-- Events that are no polls. -/
theorem polls_of_makes {α : Type} {p : PollProgram α} {a : α} (h : Run p t a)
    (hp : p.Makes fun c => ∀ ch caps info, c ≠ .readChannelStatus ch caps info) (ch : ℕ) :
    polls ch t = [] := by
  rw [polls, List.filterMap_eq_nil_iff]
  rintro ⟨c, r⟩ hmem
  have hc := h.makes hp hmem
  cases c with
  | readChannelStatus ch' caps info => exact (hc ch' caps info rfl).elim
  | _ => rfl

theorem run_readSystemStatus {info info' : SystemInfo} (h : Run (readSystemStatus info) t info')
    (ch : ℕ) : polls ch t = [] := by
  refine polls_of_makes h ⟨by simp, fun status => ?_⟩ ch
  cases status <;> exact trivial

/-- Where a flag follows the polls of every channel. -/
def Follows (step : ChannelTrack → Bool → ChannelTrack) (before after : ℕ → ChannelTrack)
    (t : List PollEvent) : Prop :=
  ∀ ch, after ch = (polls ch t).foldl step (before ch)

variable {step : ChannelTrack → Bool → ChannelTrack} {track track' track'' : ℕ → ChannelTrack}

theorem Follows.of_noPolls (h : ∀ ch, polls ch t = []) : Follows step track track t :=
  fun ch => by rw [h ch]; rfl

theorem Follows.ret {α : Type} (f : α → ℕ → ChannelTrack) {a a' : α}
    (h : Run (.ret a : PollProgram α) t a') : Follows step (f a) (f a') t := by
  obtain ⟨rfl, rfl⟩ := run_ret.mp h
  exact .of_noPolls fun _ => rfl

theorem Follows.trans {t' : List PollEvent} (h : Follows step track track' t)
    (h' : Follows step track' track'' t') : Follows step track track'' (t ++ t') := by
  intro ch
  rw [polls_append, List.foldl_append, ← h ch, h' ch]

theorem follows_poll {info : ChannelInfo} {r : Bool × ChannelInfo}
    (h : Run (pollChannel ch info) t r) :
    Follows step track (update track ch (step (track ch) r.1)) t := by
  obtain ⟨hself, hother⟩ := run_pollChannel h
  intro ch'
  by_cases hch : ch' = ch
  · subst hch
    rw [update_self, hself]
    rfl
  · rw [update_of_ne hch, hother ch' hch]
    rfl

/-! ## The sweeps -/

namespace Tui

open PollScan.Tui

theorem run_scanChannels {chs : List ℕ} {s s' : Sweep}
    (h : Run (scanChannels n chs s) t s') : Follows afterPoll s.track s'.track t := by
  induction chs generalizing t s with
  | nil => exact .ret Sweep.track h
  | cons ch chs ih =>
    obtain ⟨pending, t₁, rfl, h₁⟩ := run_call.mp h
    show Follows afterPoll s.track s'.track t₁
    cases pending with
    | true => exact .ret Sweep.track h₁
    | false =>
    change Run (if !shouldPollChannel ch n then _ else _) t₁ s' at h₁
    split at h₁
    next => exact ih h₁
    next =>
      obtain ⟨⟨ok, info⟩, tpoll, t₂, rfl, hpoll, h₂⟩ := run_bind.mp h₁
      exact (follows_poll hpoll).trans (ih h₂)

theorem run_publishOffline {chs : List ℕ} (h : Run (publishOffline chs) t ()) (ch : ℕ) :
    polls ch t = [] := by
  refine polls_of_makes h ?_ ch
  cases chs with
  | nil => exact trivial
  | cons ch chs => exact ⟨by simp, fun _ => trivial⟩

theorem run_doPollScan {data data' : ScannedData} (h : Run (doPollScan data) t data') :
    Follows afterPoll data.track data'.track t := by
  obtain ⟨sysInfo, tstatus, t₁, rfl, hstatus, h₁⟩ := run_bind.mp h
  obtain ⟨s, tscan, t₂, rfl, hscan, h₂⟩ := run_bind.mp h₁
  obtain ⟨_, tpublish, t₃, rfl, hpublish, h₃⟩ := run_bind.mp h₂
  obtain ⟨rfl, rfl⟩ := run_ret.mp h₃
  rw [List.append_nil]
  exact .trans (.of_noPolls (run_readSystemStatus hstatus))
    ((run_scanChannels hscan).trans (.of_noPolls (run_publishOffline hpublish)))

end Tui

namespace Gui

open PollScan.Gui

theorem run_pollChannels {mask : UInt16} {chs : List ℕ} {m : ModbusWorker}
    {r : ModbusWorker × Bool} (h : Run (pollChannels mask chs m) t r) :
    Follows afterPoll m.track r.1.track t := by
  induction chs generalizing t m with
  | nil => exact .ret (·.1.track) h
  | cons ch chs ih =>
    unfold pollChannels at h
    split at h
    next => exact ih h
    next =>
      obtain ⟨⟨ok, info⟩, tpoll, t₁, rfl, hpoll, h₁⟩ := run_bind.mp h
      refine (follows_poll hpoll).trans ?_
      obtain ⟨connected, t₂, rfl, h₂⟩ := run_call.mp h₁
      cases connected with
      | false => exact .ret (·.1.track) h₂
      | true => exact ih h₂

theorem run_emitChannels {mask : UInt16} {m : ModbusWorker} {chs : List ℕ}
    (h : Run (emitChannels mask m chs) t ()) (ch : ℕ) : polls ch t = [] := by
  refine polls_of_makes h ?_ ch
  clear h
  induction chs with
  | nil => exact trivial
  | cons ch chs ih =>
    unfold emitChannels
    split
    · exact ⟨by simp, fun _ => ih⟩
    · exact ih

theorem run_doPollStatus {m m' : ModbusWorker} (h : Run (doPollStatus m) t m') :
    Follows afterPoll m.track m'.track t := by
  obtain ⟨connected, t₁, rfl, h₁⟩ := run_call.mp h
  show Follows afterPoll m.track m'.track t₁
  cases connected with
  | false => exact .ret ModbusWorker.track h₁
  | true =>
  change Run (if m.channelCount = 0 then _ else _) t₁ m' at h₁
  split at h₁
  next => exact .ret ModbusWorker.track h₁
  next =>
  obtain ⟨sysInfo, tstatus, t₂, rfl, hstatus, h₂⟩ := run_bind.mp h₁
  refine Follows.trans (.of_noPolls (run_readSystemStatus hstatus)) ?_
  obtain ⟨connected, t₃, rfl, h₃⟩ := run_call.mp h₂
  show Follows afterPoll m.track m'.track t₃
  cases connected with
  | false => exact .ret (a := { m with cachedSysInfo := sysInfo }) ModbusWorker.track h₃
  | true =>
  change Run (pollChannels _ _ _ >>= _) t₃ m' at h₃
  obtain ⟨⟨mpolled, finished⟩, tpolls, t₄, rfl, hpolls, h₄⟩ := run_bind.mp h₃
  refine (run_pollChannels hpolls).trans ?_
  cases finished with
  | false => exact .ret ModbusWorker.track h₄
  | true =>
  obtain ⟨_, t₅, rfl, h₅⟩ := run_call.mp h₄
  change Run (emitChannels _ _ _ >>= _) t₅ m' at h₅
  obtain ⟨_, temit, t₆, rfl, hemit, h₆⟩ := run_bind.mp h₅
  obtain ⟨rfl, rfl⟩ := run_ret.mp h₆
  rw [List.append_nil]
  show Follows afterPoll m'.track m'.track temit
  exact .of_noPolls (run_emitChannels hemit)

end Gui

/-! ## Failures in a row -/

/-- The failures at the end. -/
def failureRun (history : List Bool) : ℕ := (history.reverse.takeWhile (!·)).length

@[simp] theorem failureRun_success (history : List Bool) : failureRun (history ++ [true]) = 0 := by
  simp [failureRun]

@[simp] theorem failureRun_failure (history : List Bool) :
    failureRun (history ++ [false]) = failureRun history + 1 := by
  simp [failureRun]

/-- The last `k` polls were made, and all of them failed. -/
def LastFailed (k : ℕ) (history : List Bool) : Prop := List.replicate k false <:+ history

theorem lastFailed_iff {k : ℕ} {history : List Bool} :
    LastFailed k history ↔ k ≤ failureRun history := by
  have hprefix : ∀ l : List Bool,
      List.replicate k false <+: l ↔ k ≤ (l.takeWhile (!·)).length := by
    induction k with
    | zero => simp
    | succ k ih =>
      intro l
      rcases l with _ | ⟨_ | _, l⟩
      · simp
      · simpa [List.replicate_succ] using ih l
      · simp [List.replicate_succ]
  rw [LastFailed, failureRun, ← hprefix, ← List.reverse_suffix, List.reverse_reverse,
    List.reverse_replicate]

/-- Short of `k` failures the counter is the run of failures; from there on the flag is up. -/
structure Counts (k : ℕ) (track : ChannelTrack) (failures : ℕ) : Prop where
  counting : failures < k → track = { failCount := Int32.ofNat failures, offline := false }
  offline : k ≤ failures → track.offline = true

theorem Counts.offline_iff {k failures : ℕ} {track : ChannelTrack} (h : Counts k track failures) :
    track.offline = true ↔ k ≤ failures := by
  refine ⟨fun hoffline => ?_, h.offline⟩
  by_contra hlt
  rw [h.counting (not_le.mp hlt)] at hoffline
  cases hoffline

theorem counts_foldl {k : ℕ} {step : ChannelTrack → Bool → ChannelTrack} (hk : 0 < k)
    (hsuccess : ∀ track, step track true = {})
    (hfailure : ∀ {track failures}, Counts k track failures →
      Counts k (step track false) (failures + 1)) (history : List Bool) :
    Counts k (history.foldl step {}) (failureRun history) := by
  have hfresh : Counts k {} 0 := ⟨fun _ => rfl, fun hle => absurd hk (not_lt.mpr hle)⟩
  induction history using List.reverseRecOn with
  | nil => exact hfresh
  | append_singleton history ok ih =>
    rw [List.foldl_append]
    cases ok with
    | true =>
      rw [failureRun_success, List.foldl_cons, List.foldl_nil, hsuccess]
      exact hfresh
    | false =>
      rw [failureRun_failure]
      exact hfailure ih

/-- The counter passes the threshold when the sixth failure comes. -/
theorem Tui.counts (history : List Bool) :
    Counts 6 (history.foldl PollScan.Tui.afterPoll {}) (failureRun history) := by
  refine counts_foldl (by decide) (fun _ => rfl) ?_ history
  intro track failures h
  rcases lt_or_ge failures 6 with hlt | hge
  · rw [h.counting hlt]
    interval_cases failures <;> exact ⟨by decide, by decide⟩
  · refine ⟨fun hlt => by omega, fun _ => ?_⟩
    simp [PollScan.Tui.afterPoll, h.offline hge]

theorem Gui.counts (history : List Bool) :
    Counts 5 (history.foldl PollScan.Gui.afterPoll {}) (failureRun history) := by
  refine counts_foldl (by decide) (fun _ => rfl) ?_ history
  intro track failures h
  rcases lt_or_ge failures 5 with hlt | hge
  · rw [h.counting hlt]
    interval_cases failures <;> exact ⟨by decide, by decide⟩
  · refine ⟨fun hlt => by omega, fun _ => ?_⟩
    unfold PollScan.Gui.afterPoll
    split
    · contradiction
    · split
      · rfl
      · exact h.offline hge

/-! ## Runs of sweeps -/

section Sweeps

variable {δ : Type}

/-- Sweep after sweep. What happens in between may change everything but the counters and the
flags. -/
inductive Sweeps (sweep : δ → PollProgram δ) (tracks : δ → ℕ → ChannelTrack) :
    δ → List PollEvent → δ → Prop
  | start (d : δ) : Sweeps sweep tracks d [] d
  | sweep {d d₁ d₂ d₃ : δ} {t t' : List PollEvent} (hbefore : Sweeps sweep tracks d t d₁)
      (hbetween : tracks d₂ = tracks d₁) (hsweep : Run (sweep d₂) t' d₃) :
      Sweeps sweep tracks d (t ++ t') d₃

theorem Sweeps.follows {sweep : δ → PollProgram δ} {tracks : δ → ℕ → ChannelTrack}
    {step : ChannelTrack → Bool → ChannelTrack}
    (hstep : ∀ {d d' t}, Run (sweep d) t d' → Follows step (tracks d) (tracks d') t) {d d' : δ}
    {t : List PollEvent} (h : Sweeps sweep tracks d t d') :
    Follows step (tracks d) (tracks d') t := by
  induction h with
  | start => exact .of_noPolls fun _ => rfl
  | @sweep d₁ d₂ d₃ t t' hbefore hbetween hsweep ih =>
    refine ih.trans ?_
    rw [← hbetween]
    exact hstep hsweep

end Sweeps

abbrev TuiSweeps := Sweeps PollScan.Tui.doPollScan PollScan.Tui.ScannedData.track

abbrev GuiSweeps := Sweeps PollScan.Gui.doPollStatus PollScan.Gui.ModbusWorker.track

/-- Nothing counted, and nothing offline. -/
def Fresh (tracks : ℕ → ChannelTrack) : Prop := ∀ ch, tracks ch = {}

theorem TuiSweeps.offline {d d' : PollScan.Tui.ScannedData} {t : List PollEvent}
    (hfresh : Fresh d.track) (h : TuiSweeps d t d') (ch : ℕ) :
    (d'.track ch).offline = true ↔ 6 ≤ failureRun (polls ch t) := by
  rw [h.follows Tui.run_doPollScan ch, hfresh ch]
  exact (Tui.counts _).offline_iff

theorem GuiSweeps.offline {m m' : PollScan.Gui.ModbusWorker} {t : List PollEvent}
    (hfresh : Fresh m.track) (h : GuiSweeps m t m') (ch : ℕ) :
    (m'.track ch).offline = true ↔ 5 ≤ failureRun (polls ch t) := by
  rw [h.follows Gui.run_doPollStatus ch, hfresh ch]
  exact (Gui.counts _).offline_iff

/-- The graphical client is always right, and the terminal client unless the channel's polls end
in just five failures; so long the two agree. -/
theorem offline_right_iff {d d' : PollScan.Tui.ScannedData} {m m' : PollScan.Gui.ModbusWorker}
    {t t' : List PollEvent} (hd : Fresh d.track) (hm : Fresh m.track) (htui : TuiSweeps d t d')
    (hgui : GuiSweeps m t' m') (ch : ℕ) :
    ((m'.track ch).offline = true ↔ LastFailed channelOfflineThreshold (polls ch t')) ∧
    (((d'.track ch).offline = true ↔ LastFailed channelOfflineThreshold (polls ch t)) ↔
      failureRun (polls ch t) ≠ channelOfflineThreshold) ∧
    (polls ch t = polls ch t' →
      ((d'.track ch).offline = (m'.track ch).offline ↔
        failureRun (polls ch t) ≠ channelOfflineThreshold)) := by
  rw [lastFailed_iff, lastFailed_iff, channelOfflineThreshold]
  have htuiOffline := htui.offline hd ch
  have hguiOffline := hgui.offline hm ch
  refine ⟨hguiOffline, ?_, ?_⟩
  · rw [htuiOffline]
    omega
  · intro heq
    rw [Bool.eq_iff_iff, htuiOffline, hguiOffline, heq]
    omega

/-! ## A channel that does not answer -/

theorem run_unansweredPoll (ch : ℕ) (info : ChannelInfo) :
    ∃ t, Run (pollChannel ch info) t (false, info) ∧ polls ch t = [false] := by
  have hrun : ∃ t, Run (pollChannel ch info) t (false, info) := by
    unfold pollChannel
    split
    · exact ⟨[⟨.readChannelCapabilities ch, none⟩, ⟨.readChannelStatus ch _ info, (false, info)⟩],
        .call (.call (.ret _))⟩
    · exact ⟨[⟨.readChannelStatus ch _ info, (false, info)⟩], .call (.ret _)⟩
  obtain ⟨t, h⟩ := hrun
  exact ⟨t, h, (run_pollChannel h).1⟩

open PollScan.Tui in
theorem run_unansweredScan {data : ScannedData} (hn : data.numChannels = 1) :
    ∃ t data', Run (doPollScan data) t data' ∧ data'.numChannels = 1 ∧ polls 0 t = [false] := by
  obtain ⟨tpoll, hpoll, hfailed⟩ := run_unansweredPoll 0 (data.chInfo 0)
  let start : Sweep := { staging := data.chInfo, track := data.track }
  have hscan : Run (scanChannels 1 (List.range 1) start) (⟨.hasPendingWork, false⟩ :: tpoll)
      (start.polled 0 false (data.chInfo 0)) := by
    refine .call ?_
    show Run (pollChannel 0 (data.chInfo 0) >>= _) tpoll _
    exact run_bind.mpr ⟨_, tpoll, [], (List.append_nil _).symm, hpoll, .ret _⟩
  have hstatus : Run (readSystemStatus data.sysInfo) [⟨.readSystemStatus, none⟩] data.sysInfo :=
    .call (.ret _)
  obtain ⟨tpublish, hpublish⟩ : ∃ t, Run (publishOffline
      (start.polled 0 false (data.chInfo 0)).newlyOffline) t () := by
    cases (start.polled 0 false (data.chInfo 0)).newlyOffline with
    | nil => exact ⟨[], .ret _⟩
    | cons ch chs => exact ⟨[⟨.publishOffline ch, ()⟩], .call (.ret _)⟩
  have hrun : Run (doPollScan data) ([⟨.readSystemStatus, none⟩] ++
      ((⟨.hasPendingWork, false⟩ :: tpoll) ++ (tpublish ++ [])))
      { data with
        chInfo := (start.polled 0 false (data.chInfo 0)).staging
        track := (start.polled 0 false (data.chInfo 0)).track } := by
    unfold doPollScan
    rw [hn]
    exact run_bind.mpr ⟨_, _, _, rfl, hstatus, run_bind.mpr ⟨_, _, _, rfl, hscan,
      run_bind.mpr ⟨_, _, _, rfl, hpublish, .ret _⟩⟩⟩
  refine ⟨_, _, hrun, hn, ?_⟩
  rw [List.append_nil, polls_append, polls_append, Tui.run_publishOffline hpublish,
    List.append_nil]
  exact hfailed

open PollScan.Gui in
theorem run_unansweredStatus {m : ModbusWorker} (hn : m.channelCount = 1)
    (hmask : m.cachedSysInfo.activeChMask = 1) :
    ∃ t m', Run (doPollStatus m) t m' ∧ m'.channelCount = m.channelCount ∧
      m'.cachedSysInfo = m.cachedSysInfo ∧ polls 0 t = [false] := by
  obtain ⟨tpoll, hpoll, hfailed⟩ := run_unansweredPoll 0 (m.cachedChInfo 0)
  let polled := m.polled 0 false (m.cachedChInfo 0)
  have hactive : active 1 0 = true := by decide
  have hpolls : Run (pollChannels 1 (List.range 1) m) (tpoll ++ [⟨.isConnected, true⟩])
      (polled, true) := by
    show Run (if !active 1 0 then _ else _) _ _
    rw [hactive]
    refine run_bind.mpr ⟨_, tpoll, _, rfl, hpoll, ?_⟩
    show Run (Program.call PollCall.isConnected _) _ _
    exact .call (.ret _)
  have hstatus : Run (readSystemStatus m.cachedSysInfo) [⟨.readSystemStatus, none⟩]
      m.cachedSysInfo := .call (.ret _)
  let emitted : List PollEvent :=
    [⟨.channelInfoReady 0 (polled.cachedChInfo 0) (polled.track 0).offline, ()⟩]
  have hemit : Run (emitChannels 1 polled [0]) emitted () := by
    simp [emitChannels, emitted, hactive]
  let t : List PollEvent := ⟨.isConnected, true⟩ :: ([⟨.readSystemStatus, none⟩] ++
    ⟨.isConnected, true⟩ :: ((tpoll ++ [⟨.isConnected, true⟩]) ++
      ⟨.systemInfoReady m.cachedSysInfo, ()⟩ :: (emitted ++ [])))
  have hrun : Run (doPollStatus m) t polled := by
    refine .call ?_
    show Run (if m.channelCount = 0 then _ else _) _ _
    rw [if_neg (by simp [hn])]
    refine run_bind.mpr ⟨_, _, _, rfl, hstatus, .call ?_⟩
    show Run (pollChannels m.cachedSysInfo.activeChMask (List.range m.channelCount) m >>= _) _ _
    rw [hmask, hn]
    refine run_bind.mpr ⟨_, _, _, rfl, hpolls, .call ?_⟩
    show Run (emitChannels 1 polled (List.range m.channelCount) >>= _) _ _
    rw [hn]
    exact run_bind.mpr ⟨_, _, _, rfl, hemit, .ret _⟩
  refine ⟨t, polled, hrun, rfl, rfl, ?_⟩
  show polls 0 ((tpoll ++ [⟨.isConnected, true⟩]) ++ _) = [false]
  rw [polls_append, polls_append, hfailed]
  rfl

/-- When every sweep can find the channel silent, any number of sweeps can. -/
theorem unansweredSweeps {δ : Type} {sweep : δ → PollProgram δ} {tracks : δ → ℕ → ChannelTrack}
    (P : δ → Prop) (hsweep : ∀ {d}, P d → ∃ t d', Run (sweep d) t d' ∧ P d' ∧
      polls 0 t = [false]) {d : δ} (hd : P d) (k : ℕ) :
    ∃ t d', Sweeps sweep tracks d t d' ∧ polls 0 t = List.replicate k false := by
  have hsweeps : ∃ t d', Sweeps sweep tracks d t d' ∧ P d' ∧
      polls 0 t = List.replicate k false := by
    induction k with
    | zero => exact ⟨[], d, .start d, hd, rfl⟩
    | succ k ih =>
      obtain ⟨t, d₁, hsweeps, hd₁, hpolls⟩ := ih
      obtain ⟨t', d', hrun, hd', hpolls'⟩ := hsweep hd₁
      refine ⟨t ++ t', d', .sweep hsweeps rfl hrun, hd', ?_⟩
      rw [polls_append, hpolls, hpolls', List.replicate_succ']
  obtain ⟨t, d', hsweeps, -, hpolls⟩ := hsweeps
  exact ⟨t, d', hsweeps, hpolls⟩

/-- A board with one channel, as the terminal client first sees it. -/
def oneChannel : PollScan.Tui.ScannedData :=
  { sysInfo := { supportedChannels := 1 }, chInfo := fun _ => {}, track := fun _ => {} }

/-- The same board in the graphical client. -/
def oneWorker : PollScan.Gui.ModbusWorker :=
  { cachedSysInfo := { supportedChannels := 1, activeChMask := 1 }, cachedChInfo := fun _ => {},
    channelCount := 1, track := fun _ => {} }

theorem oneChannel_unanswered (k : ℕ) :
    ∃ t d, TuiSweeps oneChannel t d ∧ polls 0 t = List.replicate k false :=
  unansweredSweeps (fun d => d.numChannels = 1) run_unansweredScan (by decide) k

theorem oneWorker_unanswered (k : ℕ) :
    ∃ t m, GuiSweeps oneWorker t m ∧ polls 0 t = List.replicate k false := by
  refine unansweredSweeps
    (fun m => m.channelCount = 1 ∧ m.cachedSysInfo.activeChMask = 1) ?_ ⟨rfl, rfl⟩ k
  rintro m ⟨hn, hmask⟩
  obtain ⟨t, m', hrun, hn', hinfo, hpolls⟩ := run_unansweredStatus hn hmask
  exact ⟨t, m', hrun, ⟨hn'.trans hn, hinfo ▸ hmask⟩, hpolls⟩

theorem oneChannel_fresh : Fresh oneChannel.track := fun _ => rfl

/-- Six failures in a row on both sides: the graphical client is right, the terminal client is
right again, and the two agree. -/
theorem offline_right_six : ∃ t d t' m, TuiSweeps oneChannel t d ∧ GuiSweeps oneWorker t' m ∧
    polls 0 t = List.replicate 6 false ∧ polls 0 t' = List.replicate 6 false ∧
    (d.track 0).offline = true ∧ (m.track 0).offline = true := by
  obtain ⟨t, d, htui, hpolls⟩ := oneChannel_unanswered 6
  obtain ⟨t', m, hgui, hpolls'⟩ := oneWorker_unanswered 6
  have hworker : Fresh oneWorker.track := fun _ => rfl
  obtain ⟨hmarked, -, hagree⟩ := offline_right_iff oneChannel_fresh hworker htui hgui 0
  have hoffline : (m.track 0).offline = true := hmarked.mpr (by
    rw [hpolls']
    exact ⟨[false], rfl⟩)
  have hsame := (hagree (hpolls.trans hpolls'.symm)).mpr (by
    rw [hpolls]
    decide)
  exact ⟨t, d, t', m, htui, hgui, hpolls, hpolls', hsame.trans hoffline, hoffline⟩

/-- Five failures in a row, and the terminal client still shows the channel. -/
theorem fifth_failure_unmarked : ∃ t d, TuiSweeps oneChannel t d ∧
    LastFailed channelOfflineThreshold (polls 0 t) ∧ (d.track 0).offline = false := by
  obtain ⟨t, d, hsweeps, hpolls⟩ := oneChannel_unanswered 5
  refine ⟨t, d, hsweeps, ?_, ?_⟩
  · rw [hpolls]
    exact List.suffix_rfl
  · rw [Bool.eq_false_iff, ne_eq, hsweeps.offline oneChannel_fresh, hpolls]
    decide

end OfflineDetection
