import Mathlib.Data.List.Nodup
import Mathlib.Logic.Function.Basic
import HvbFirmware.Runs

/-!
# Boards that come and go while the buses run

The runtime of `psb_demo_tui`: one thread for each bus, which polls the boards in its list and
carries out what is queued for it, and the UI thread, which attaches boards and takes them away. A
board is destroyed by the UI thread after its bus thread has taken it out of the list and said so,
and a bus thread is joined after its last board is gone. The threads take atomic steps in any order;
boards and bus workers are named by their addresses, which may be used again.
-/
namespace LiveRuntime

open Runs

abbrev BoardId := Nat
abbrev WorkerId := Nat
abbrev Ticket := Nat

/-! ## State -/

/-- A queued lambda, by the board that it captures: a connect, a disconnect or a command of a
dashboard, a scan of the wizard, or the first half of a removal with its `done` flag. -/
inductive Item where
  | use (board : BoardId)
  | scan
  | detach (board : BoardId) (done : Ticket)
  deriving DecidableEq, Repr

def Item.board : Item → Option BoardId
  | .use board | .detach board _ => some board
  | .scan => none

/-- Where a bus thread is: in the connect sweep of `buildRuntime`, or in `runBusWorkerLoop`. The
lists are what is left of a snapshot. -/
inductive Place where
  | starting
  | connecting (rest : List BoardId)
  | top
  | waiting
  | draining
  | inItem (item : Item)
  | detached (done : Ticket)
  | refreshing
  | polling (rest : List BoardId)
  | exited
  deriving DecidableEq, Repr

structure BusWorker where
  boards : List BoardId
  workQueue : List Item
  stopRequested : Bool
  place : Place
  deriving DecidableEq, Repr

structure PendingRemoval where
  bw : WorkerId
  board : BoardId
  done : Ticket
  deriving DecidableEq, Repr

/-- Where the UI thread is: between two of its functions, or at a step of one that another thread
can come before. -/
inductive Ui where
  | idle
  | attaching (board : BoardId)
  | removing (pr : PendingRemoval)
  | draining (i : Nat)
  | destroyed (i : Nat)
  | joining (i : Nat)
  | leaving
  deriving DecidableEq, Repr

structure Runtime where
  busWorkers : WorkerId → Option BusWorker
  boards : List BoardId
  pendingRemovals : List PendingRemoval
  /-- The `done` flags, and the first that no removal has. -/
  done : Ticket → Bool
  tickets : Ticket
  /-- The bus worker to whose queue the dashboard of a board pushes. -/
  home : BoardId → WorkerId
  ui : Ui
  running : Bool

/-! ## Bus threads -/

/-- One atomic step of a bus thread, with the flag that it sets. With `stay` the poll of a board or
the item at hand goes on. -/
def BusWorker.step (running stay : Bool) (bw : BusWorker) : BusWorker × Option Ticket :=
  match bw.place with
  | .starting => ({ bw with place := .connecting bw.boards }, none)
  | .connecting [] => ({ bw with place := .top }, none)
  | .connecting (_ :: rest) => (if stay then bw else { bw with place := .connecting rest }, none)
  | .top => ({ bw with place := if running && !bw.stopRequested then .waiting else .exited }, none)
  | .waiting => ({ bw with place := .draining }, none)
  | .draining =>
    match bw.workQueue with
    | [] => ({ bw with place := .refreshing }, none)
    | item :: rest => ({ bw with workQueue := rest, place := .inItem item }, none)
  | .inItem (.detach board done) =>
    ({ bw with boards := bw.boards.erase board, place := .detached done }, none)
  | .inItem _ => (if stay then bw else { bw with place := .draining }, none)
  | .detached done => ({ bw with place := .draining }, some done)
  | .refreshing => ({ bw with place := .polling bw.boards }, none)
  | .polling [] => ({ bw with place := .top }, none)
  | .polling (_ :: rest) =>
    if !running then ({ bw with place := .top }, none)
    else (if stay then bw else { bw with place := .polling rest }, none)
  | .exited => (bw, none)

def Runtime.setWorker (s : Runtime) (w : WorkerId) (bw : BusWorker) : Runtime :=
  { s with busWorkers := Function.update s.busWorkers w (some bw) }

def Runtime.workerStep (s : Runtime) (w : WorkerId) (stay : Bool) : Runtime :=
  match s.busWorkers w with
  | none => s
  | some bw =>
    let r := bw.step s.running stay
    let s := s.setWorker w r.1
    match r.2 with
    | none => s
    | some t => { s with done := Function.update s.done t true }

/-! ## The UI thread -/

def BusWorker.push (bw : BusWorker) (item : Item) : BusWorker :=
  { bw with workQueue := bw.workQueue ++ [item] }

/-- A new board, and its connect item. -/
def BusWorker.addBoard (bw : BusWorker) (b : BoardId) : BusWorker :=
  { bw.push (.use b) with boards := bw.boards ++ [b] }

/-- What a dashboard queues for its board. -/
def Runtime.queueUse (s : Runtime) (b : BoardId) : Runtime :=
  match s.busWorkers (s.home b) with
  | none => s
  | some bw => if b ∈ s.boards then s.setWorker (s.home b) (bw.push (.use b)) else s

/-- A button of the dashboard of a board. -/
def Runtime.press (s : Runtime) (b : BoardId) : Runtime := s.queueUse b

/-- The dashboard of a board is drawn, and shows a channel whose recovery and derate blocks have not
been read yet: the drawing queues the reads. -/
def Runtime.drawTab (s : Runtime) (b : BoardId) : Runtime := s.queueUse b

/-- `scanViaLiveBus` -/
def Runtime.scanViaLiveBus (s : Runtime) (w : WorkerId) : Runtime :=
  match s.busWorkers w with
  | none => s
  | some bw => s.setWorker w (bw.push .scan)

/-- The first part of `removeBoardLive`, for a worker that has the board in its list. -/
def Runtime.removeBoardLive (s : Runtime) (b : BoardId) (w : WorkerId) : Runtime :=
  match s.busWorkers w with
  | none => s
  | some bw =>
    if b ∈ s.boards ∧ b ∈ bw.boards then
      { s.setWorker w (bw.push (.detach b s.tickets)) with
        tickets := s.tickets + 1, ui := .removing ⟨w, b, s.tickets⟩ }
    else s

def BusWorker.fresh : BusWorker := ⟨[], [], false, .top⟩

/-- A bus that `applyNewBoardsLive` does not find among the running ones. -/
def Runtime.spawn (s : Runtime) (w : WorkerId) : Runtime :=
  match s.busWorkers w with
  | none => s.setWorker w .fresh
  | some _ => s

def Runtime.Alive (s : Runtime) (b : BoardId) : Prop := b ∈ s.boards ∨ s.ui = .attaching b

instance (s : Runtime) (b : BoardId) : Decidable (s.Alive b) :=
  inferInstanceAs (Decidable (_ ∨ _))

/-- A new board of `applyNewBoardsLive`, up to its place in `rt.boards`. -/
def Runtime.attach (s : Runtime) (w : WorkerId) (b : BoardId) : Runtime :=
  match s.busWorkers w with
  | none => s
  | some bw =>
    if s.Alive b then s
    else
      { s.setWorker w (bw.addBoard b) with
        home := Function.update s.home b w, ui := .attaching b }

/-- The loop of `drainPendingRemovals` at its head. -/
def Runtime.drain (s : Runtime) (i : Nat) : Runtime :=
  match s.pendingRemovals[i]? with
  | none => { s with ui := .idle }
  | some pr =>
    if s.done pr.done then { s with boards := s.boards.erase pr.board, ui := .destroyed i }
    else { s with ui := .draining (i + 1) }

/-- The entry is done with: the next one has moved to its place. -/
def Runtime.forget (s : Runtime) (i : Nat) : Runtime :=
  { s with pendingRemovals := s.pendingRemovals.eraseIdx i, ui := .draining i }

/-- After the board is gone: whether its bus goes too. -/
def Runtime.judgeBus (s : Runtime) (i : Nat) : Runtime :=
  match s.pendingRemovals[i]? with
  | none => s
  | some pr =>
    match s.busWorkers pr.bw with
    | none => s
    | some bw =>
      if bw.boards = [] ∧ ∀ other ∈ s.pendingRemovals.eraseIdx i, other.bw ≠ pr.bw then
        { s.setWorker pr.bw { bw with stopRequested := true } with ui := .joining i }
      else s.forget i

/-- The join, which waits for the thread. -/
def Runtime.join (s : Runtime) (i : Nat) : Runtime :=
  match s.pendingRemovals[i]? with
  | none => s
  | some pr =>
    match s.busWorkers pr.bw with
    | none => s
    | some bw =>
      if bw.place = .exited then
        { s.forget i with busWorkers := Function.update s.busWorkers pr.bw none }
      else s

/-- The UI thread goes on in the function that it is in. -/
def Runtime.uiStep (s : Runtime) : Runtime :=
  match s.ui with
  | .attaching b => { s with boards := s.boards ++ [b], ui := .idle }
  | .removing pr => { s with pendingRemovals := s.pendingRemovals ++ [pr], ui := .idle }
  | .draining i => s.drain i
  | .destroyed i => s.judgeBus i
  | .joining i => s.join i
  | .idle | .leaving => s

/-! ## Runs -/

inductive Act where
  | worker (w : WorkerId) (stay : Bool)
  | ui
  | press (b : BoardId)
  | drawTab (b : BoardId)
  | scan (w : WorkerId)
  | removeBoardLive (b : BoardId) (w : WorkerId)
  | spawn (w : WorkerId)
  | attach (w : WorkerId) (b : BoardId)
  | frame
  | quit
  deriving DecidableEq, Repr

/-- What the UI thread begins, when it is not in a function already. -/
def Runtime.begin (s : Runtime) : Act → Runtime
  | .press b => s.press b
  | .drawTab b => s.drawTab b
  | .scan w => s.scanViaLiveBus w
  | .removeBoardLive b w => s.removeBoardLive b w
  | .spawn w => s.spawn w
  | .attach w b => s.attach w b
  | .frame => { s with ui := .draining 0 }
  | .quit => { s with running := false, ui := .leaving }
  | .worker _ _ | .ui => s

def step (s : Runtime) (act : Act) : Runtime :=
  match act with
  | .worker w stay => s.workerStep w stay
  | .ui => s.uiStep
  | _ => if s.ui = .idle then s.begin act else s

/-- `buildRuntime`, with the boards of each bus. -/
def built (topology : List (List BoardId)) : Runtime where
  busWorkers w := topology[w]?.map fun boards => ⟨boards, [], false, .starting⟩
  boards := topology.flatten
  pendingRemovals := []
  done _ := false
  tickets := 0
  home b := topology.findIdx (b ∈ ·)
  ui := .idle
  running := true

/-- Nothing more is queued for a board that is being removed: no button of it is clicked, Remove
included, and it is not drawn with a channel that has not been read. -/
def Orderly (s : Runtime) : Act → Prop
  | .press b | .drawTab b | .removeBoardLive b _ => ∀ pr ∈ s.pendingRemovals, pr.board ≠ b
  | _ => True

instance (s : Runtime) : ∀ act, Decidable (Orderly s act)
  | .press b | .drawTab b | .removeBoardLive b _ =>
    inferInstanceAs (Decidable (∀ pr ∈ s.pendingRemovals, pr.board ≠ b))
  | .worker _ _ | .ui | .scan _ | .spawn _ | .attach _ _ | .frame | .quit => isTrue trivial

/-! ## What is kept -/

/-- The boards of a snapshot that a thread still goes through. -/
def Place.held : Place → List BoardId
  | .connecting rest | .polling rest => rest
  | _ => []

/-- The item at hand and the ones behind it. -/
def BusWorker.work (bw : BusWorker) : List Item :=
  match bw.place with
  | .inItem item => item :: bw.workQueue
  | _ => bw.workQueue

/-- The removals that are under way: those recorded, without the one whose board is gone already,
and the one that is about to be recorded. -/
def Runtime.active (s : Runtime) : List PendingRemoval :=
  match s.ui with
  | .removing pr => s.pendingRemovals ++ [pr]
  | .destroyed i | .joining i => s.pendingRemovals.eraseIdx i
  | _ => s.pendingRemovals

/-- A bus worker as the runtime knows it. -/
structure Placed (s : Runtime) (w : WorkerId) (bw : BusWorker) : Prop where
  nodup : bw.boards.Nodup
  home : ∀ b ∈ bw.boards, s.Alive b ∧ s.home b = w
  held : ∀ b ∈ bw.place.held, b ∈ bw.boards
  named : ∀ item ∈ bw.work, ∀ b, item.board = some b → b ∈ bw.boards
  /-- Behind the removal of a board nothing is queued for it. -/
  last : bw.work.Pairwise fun item later => ∀ b t, item = .detach b t → later.board ≠ some b
  asked : ∀ b t, .detach b t ∈ bw.work → ⟨w, b, t⟩ ∈ s.active ∧ s.done t = false
  detached : ∀ t, bw.place = .detached t →
    s.done t = false ∧ ∃ b, ⟨w, b, t⟩ ∈ s.active ∧ b ∉ bw.boards

/-- What the UI thread relies on in the middle of a removal. -/
def Runtime.UiReady (s : Runtime) : Prop :=
  match s.ui with
  | .attaching b => b ∉ s.boards
  | .destroyed i => ∃ pr bw, s.pendingRemovals[i]? = some pr ∧ s.busWorkers pr.bw = some bw
  | .joining i => ∃ pr bw, s.pendingRemovals[i]? = some pr ∧ s.busWorkers pr.bw = some bw ∧
      bw.boards = [] ∧ bw.stopRequested = true ∧ ∀ other ∈ s.active, other.bw ≠ pr.bw
  | _ => True

structure Kept (s : Runtime) : Prop where
  placed : ∀ w bw, s.busWorkers w = some bw → Placed s w bw
  boards : s.boards.Nodup
  distinct : (s.active.map (·.board)).Nodup
  tickets : (s.active.map (·.done)).Nodup
  active : ∀ pr ∈ s.active, s.Alive pr.board ∧ s.home pr.board = pr.bw ∧ pr.done < s.tickets
  gone : ∀ pr ∈ s.active, s.done pr.done →
    ∀ bw, s.busWorkers pr.bw = some bw → pr.board ∉ bw.boards
  fresh : ∀ t, s.tickets ≤ t → s.done t = false
  homed : ∀ b, s.Alive b → ∃ bw, s.busWorkers (s.home b) = some bw ∧
    (b ∈ bw.boards ∨ ∃ pr ∈ s.active, pr.board = b)
  ui : s.UiReady

/-! ## Bus threads -/

/-- What a step of a bus thread can do: go on in its work, take a board out of its list, or say that
it has. -/
theorem step_cases (running stay : Bool) (bw : BusWorker) :
    (∃ bw', bw.step running stay = (bw', none) ∧ bw'.boards = bw.boards ∧
      bw'.stopRequested = bw.stopRequested ∧ bw'.work <:+ bw.work ∧
      (∀ b ∈ bw'.place.held, b ∈ bw.boards ∨ b ∈ bw.place.held) ∧
      ∀ t, bw'.place ≠ .detached t) ∨
    (∃ b t, bw.place = .inItem (.detach b t) ∧ bw.step running stay =
      ({ bw with boards := bw.boards.erase b, place := .detached t }, none)) ∨
    ∃ t, bw.place = .detached t ∧
      bw.step running stay = ({ bw with place := .draining }, some t) := by
  obtain ⟨boards, queue, stop, place⟩ := bw
  cases place with
  | inItem item =>
    cases item with
    | detach b t => exact .inr (.inl ⟨b, t, rfl, rfl⟩)
    | use b | scan =>
      left
      cases stay <;> simp [BusWorker.step, BusWorker.work, Place.held, List.suffix_cons]
  | detached t => exact .inr (.inr ⟨t, rfl, rfl⟩)
  | draining =>
    left
    cases queue <;> simp [BusWorker.step, BusWorker.work, Place.held]
  | connecting rest =>
    left
    cases rest with
    | nil => simp [BusWorker.step, BusWorker.work, Place.held]
    | cons b rest => cases stay <;> simp [BusWorker.step, BusWorker.work, Place.held] <;> grind
  | polling rest =>
    left
    cases rest with
    | nil => simp [BusWorker.step, BusWorker.work, Place.held]
    | cons b rest =>
      cases running <;> cases stay <;> simp [BusWorker.step, BusWorker.work, Place.held] <;> grind
  | top =>
    left
    cases running <;> cases stop <;> simp [BusWorker.step, BusWorker.work, Place.held]
  | _ =>
    left
    simp [BusWorker.step, BusWorker.work, Place.held]

variable {s s' : Runtime} {w : WorkerId} {bw bw' : BusWorker}

@[simp] theorem setWorker_self : (s.setWorker w bw).busWorkers w = some bw :=
  Function.update_self ..

theorem setWorker_other {v : WorkerId} (hv : v ≠ w) :
    (s.setWorker w bw).busWorkers v = s.busWorkers v := Function.update_of_ne hv ..

/-- A worker stays in its place if its boards and its removals stay. -/
theorem Placed.mono (h : Placed s w bw)
    (hboards : ∀ b ∈ bw.boards, s.Alive b → s.home b = w → s'.Alive b ∧ s'.home b = w)
    (hactive : ∀ pr ∈ s.active, pr.bw = w → s.done pr.done = false →
      pr ∈ s'.active ∧ s'.done pr.done = false) : Placed s' w bw where
  nodup := h.nodup
  home b hb := hboards b hb (h.home b hb).1 (h.home b hb).2
  held := h.held
  named := h.named
  last := h.last
  asked b t hmem := hactive _ (h.asked b t hmem).1 rfl (h.asked b t hmem).2
  detached t ht := by
    obtain ⟨hdone, b, hmem, hnot⟩ := h.detached t ht
    obtain ⟨hmem', hdone'⟩ := hactive _ hmem rfl hdone
    exact ⟨hdone', b, hmem', hnot⟩

/-- A worker that goes on in its work. -/
theorem Placed.suffix (h : Placed s w bw) (hboards : bw'.boards = bw.boards)
    (hwork : bw'.work <:+ bw.work) (hheld : ∀ b ∈ bw'.place.held, b ∈ bw.boards ∨ b ∈ bw.place.held)
    (hplace : ∀ t, bw'.place ≠ .detached t) : Placed s w bw' where
  nodup := hboards ▸ h.nodup
  home := hboards ▸ h.home
  held b hb := by
    rw [hboards]
    exact (hheld b hb).elim id (h.held b)
  named item hitem := hboards ▸ h.named item (hwork.subset hitem)
  last := h.last.sublist hwork.sublist
  asked b t hmem := h.asked b t (hwork.subset hmem)
  detached t ht := absurd ht (hplace t)

/-- One worker changes: its list loses boards at most whose removal is under way. -/
theorem Kept.setWorker (h : Kept s) (hbw : s.busWorkers w = some bw) (hplaced : Placed s w bw')
    (hsub : ∀ b ∈ bw'.boards, b ∈ bw.boards)
    (hlost : ∀ b ∈ bw.boards, b ∈ bw'.boards ∨ ∃ pr ∈ s.active, pr.board = b)
    (hstop : bw.stopRequested → bw'.stopRequested) : Kept (s.setWorker w bw') := by
  have hworker : ∀ v x, (s.setWorker w bw').busWorkers v = some x →
      Placed s v x ∧ ∃ y, s.busWorkers v = some y ∧ ∀ b ∈ x.boards, b ∈ y.boards := by
    intro v x hx
    by_cases hv : v = w
    · subst hv
      obtain rfl : bw' = x := by simpa using hx
      exact ⟨hplaced, bw, hbw, hsub⟩
    · have hx' : s.busWorkers v = some x := (setWorker_other hv).symm.trans hx
      exact ⟨h.placed v x hx', x, hx', fun _ hb => hb⟩
  have hback : ∀ v y, s.busWorkers v = some y → ∃ x, (s.setWorker w bw').busWorkers v = some x ∧
      (y.stopRequested → x.stopRequested) ∧ (∀ b ∈ x.boards, b ∈ y.boards) ∧
      ∀ b ∈ y.boards, b ∈ x.boards ∨ ∃ pr ∈ s.active, pr.board = b := by
    intro v y hy
    by_cases hv : v = w
    · subst hv
      obtain rfl := Option.some.inj (hbw.symm.trans hy)
      exact ⟨bw', setWorker_self, hstop, hsub, hlost⟩
    · exact ⟨y, (setWorker_other hv).trans hy, id, fun _ hb => hb, fun _ hb => .inl hb⟩
  refine ⟨fun v x hx => ?_, h.boards, h.distinct, h.tickets, h.active, fun pr hpr hdone x hx => ?_,
    h.fresh, fun b hb => ?_, ?_⟩
  · exact (hworker v x hx).1.mono (fun _ _ halive hhome => ⟨halive, hhome⟩)
      fun _ hpr _ hdone => ⟨hpr, hdone⟩
  · obtain ⟨-, y, hy, hsub'⟩ := hworker pr.bw x hx
    exact mt (hsub' pr.board) (h.gone pr hpr hdone y hy)
  · obtain ⟨y, hy, hb'⟩ := h.homed b hb
    obtain ⟨x, hx, -, -, hlost'⟩ := hback _ y hy
    exact ⟨x, hx, hb'.elim (hlost' b) .inr⟩
  · have hui := h.ui
    unfold Runtime.UiReady at hui ⊢
    change match s.ui with
      | .attaching b => b ∉ s.boards
      | .destroyed i => ∃ pr x, s.pendingRemovals[i]? = some pr ∧
          (s.setWorker w bw').busWorkers pr.bw = some x
      | .joining i => ∃ pr x, s.pendingRemovals[i]? = some pr ∧
          (s.setWorker w bw').busWorkers pr.bw = some x ∧
          x.boards = [] ∧ x.stopRequested = true ∧ ∀ other ∈ s.active, other.bw ≠ pr.bw
      | _ => True
    split
    next b hb => simpa [hb] using hui
    next i hi =>
      simp only [hi] at hui
      obtain ⟨pr, y, hpr, hy⟩ := hui
      obtain ⟨x, hx, -⟩ := hback _ y hy
      exact ⟨pr, x, hpr, hx⟩
    next i hi =>
      simp only [hi] at hui
      obtain ⟨pr, y, hpr, hy, hempty, hstop', hothers⟩ := hui
      obtain ⟨x, hx, hstop'', hsub', -⟩ := hback _ y hy
      have hempty' : x.boards = [] :=
        List.eq_nil_iff_forall_not_mem.mpr fun b hb => by simpa [hempty] using hsub' b hb
      exact ⟨pr, x, hpr, hx, hempty', hstop'' hstop', hothers⟩
    next => trivial

theorem Kept.eq_of_done (h : Kept s) {pr pr' : PendingRemoval} (hpr : pr ∈ s.active)
    (hpr' : pr' ∈ s.active) (hdone : pr.done = pr'.done) : pr = pr' :=
  List.inj_on_of_nodup_map h.tickets hpr hpr' hdone

/-- A flag is set whose removal has been carried out. -/
theorem Kept.setDone (h : Kept s) {b : BoardId} {t : Ticket} (hbw : s.busWorkers w = some bw)
    (hpr : ⟨w, b, t⟩ ∈ s.active) (hb : b ∉ bw.boards) (hplace : bw.place = .draining) :
    Kept { s with done := Function.update s.done t true } := by
  have hset : ∀ pr ∈ s.active, pr.done = t → pr = ⟨w, b, t⟩ := fun pr hmem ht =>
    h.eq_of_done hmem hpr ht
  have hother : ∀ v x, s.busWorkers v = some x → ∀ b' t', ⟨v, b', t'⟩ ∈ s.active →
      b' ∈ x.boards ∨ v ≠ w → t' ≠ t := by
    rintro v x hx b' t' hmem hor rfl
    obtain ⟨rfl, rfl, -⟩ := PendingRemoval.mk.inj (hset _ hmem rfl)
    obtain rfl := Option.some.inj (hbw.symm.trans hx)
    exact hor.elim hb fun hne => hne rfl
  refine ⟨fun v x hx => ?_, h.boards, h.distinct, h.tickets, h.active, fun pr hmem hdone x hx => ?_,
    fun t' ht' => ?_, h.homed, h.ui⟩
  · have hold := h.placed v x hx
    refine ⟨hold.nodup, hold.home, hold.held, hold.named, hold.last, fun b' t' hmem => ?_,
      fun t' ht' => ?_⟩
    · obtain ⟨hactive, hdone⟩ := hold.asked b' t' hmem
      have hne := hother v x hx b' t' hactive (.inl (hold.named _ hmem b' rfl))
      exact ⟨hactive, by simpa [Function.update_of_ne hne] using hdone⟩
    · obtain ⟨hdone, b', hactive, hnot⟩ := hold.detached t' ht'
      have hv : v ≠ w := by
        rintro rfl
        obtain rfl := Option.some.inj (hbw.symm.trans hx)
        cases hplace.symm.trans ht'
      have hne := hother v x hx b' t' hactive (.inr hv)
      exact ⟨by simpa [Function.update_of_ne hne] using hdone, b', hactive, hnot⟩
  · by_cases ht : pr.done = t
    · obtain rfl := hset pr hmem ht
      obtain rfl := Option.some.inj (hbw.symm.trans hx)
      exact hb
    · exact h.gone pr hmem (by simpa [Function.update_of_ne ht] using hdone) x hx
  · have hlt := (h.active _ hpr).2.2
    have hne : t' ≠ t := by
      rintro rfl
      exact absurd ht' (Nat.not_le.mpr hlt)
    exact (Function.update_of_ne hne ..).trans (h.fresh t' ht')

/-- The board of the removal at hand leaves the list. -/
theorem Placed.detach (h : Placed s w bw) {b : BoardId} {t : Ticket}
    (hplace : bw.place = .inItem (.detach b t)) :
    Placed s w { bw with boards := bw.boards.erase b, place := .detached t } := by
  have hwork : bw.work = .detach b t :: bw.workQueue := by simp [BusWorker.work, hplace]
  have hlast := h.last
  have hnamed := h.named
  have hasked := h.asked
  rw [hwork] at hlast hnamed hasked
  obtain ⟨hbehind, hrest⟩ := List.pairwise_cons.mp hlast
  refine ⟨h.nodup.erase b, fun b' hb' => h.home b' (List.mem_of_mem_erase hb'), nofun,
    fun item hitem b' hb' => ?_, hrest,
    fun b' t' hmem => hasked b' t' (List.mem_cons_of_mem _ hmem), fun t' ht' => ?_⟩
  · have hne : b' ≠ b := by
      rintro rfl
      exact hbehind item hitem b' t rfl hb'
    exact (List.mem_erase_of_ne hne).mpr (hnamed item (List.mem_cons_of_mem _ hitem) b' hb')
  · obtain rfl : t = t' := Place.detached.inj ht'
    obtain ⟨hactive, hdone⟩ := hasked b t List.mem_cons_self
    exact ⟨hdone, b, hactive, h.nodup.not_mem_erase⟩

theorem kept_workerStep (h : Kept s) (w : WorkerId) (stay : Bool) :
    Kept (s.workerStep w stay) := by
  unfold Runtime.workerStep
  cases hbw : s.busWorkers w with
  | none => exact h
  | some bw =>
    have hplaced := h.placed w bw hbw
    dsimp only
    rcases step_cases s.running stay bw with ⟨bw', hstep, hboards, hstop, hwork, hheld, hplace⟩ |
      ⟨b, t, hplace, hstep⟩ | ⟨t, hplace, hstep⟩
    · rw [hstep]
      exact h.setWorker hbw (hplaced.suffix hboards hwork hheld hplace) (fun b hb => hboards ▸ hb)
        (fun b hb => .inl (hboards ▸ hb)) fun h => hstop ▸ h
    · rw [hstep]
      refine h.setWorker hbw (hplaced.detach hplace) (fun b' hb' => List.mem_of_mem_erase hb')
        (fun b' hb' => ?_) id
      by_cases hb : b' = b
      · have hmem : .detach b t ∈ bw.work := by simp [BusWorker.work, hplace]
        exact .inr ⟨_, (hplaced.asked b t hmem).1, hb.symm⟩
      · exact .inl ((List.mem_erase_of_ne hb).mpr hb')
    · rw [hstep]
      obtain ⟨-, b, hactive, hb⟩ := hplaced.detached t hplace
      have hdraining : Placed s w { bw with place := .draining } :=
        hplaced.suffix rfl (by simp [BusWorker.work, hplace]) nofun nofun
      have hworker : (s.setWorker w { bw with place := .draining }).busWorkers w =
          some { bw with place := .draining } := setWorker_self
      have hset := h.setWorker hbw hdraining (fun _ hb' => hb') (fun _ hb' => .inl hb') id
      exact hset.setDone hworker hactive hb rfl

/-! ## The UI thread begins -/

/-- Another place of the UI thread, between steps that change what is kept. -/
theorem Kept.rebuild (h : Kept s) (hworkers : s'.busWorkers = s.busWorkers)
    (hdone : s'.done = s.done) (htickets : s'.tickets = s.tickets) (hhome : s'.home = s.home)
    (hactive : s'.active = s.active) (halive : ∀ b, s'.Alive b ↔ s.Alive b)
    (hboards : s'.boards.Nodup) (hready : s'.UiReady) : Kept s' where
  placed w bw hbw := (h.placed w bw (hworkers ▸ hbw)).mono
    (fun b _ hb hw => ⟨(halive b).mpr hb, hhome ▸ hw⟩)
    fun pr hpr _ hd => ⟨hactive ▸ hpr, hdone ▸ hd⟩
  boards := hboards
  distinct := hactive ▸ h.distinct
  tickets := hactive ▸ h.tickets
  active pr hpr := by
    rw [hactive] at hpr
    rw [halive, hhome, htickets]
    exact h.active pr hpr
  gone pr hpr hd bw hbw := by
    rw [hactive] at hpr
    rw [hdone] at hd
    rw [hworkers] at hbw
    exact h.gone pr hpr hd bw hbw
  fresh t ht := by
    rw [htickets] at ht
    rw [hdone]
    exact h.fresh t ht
  homed b hb := by
    rw [halive] at hb
    rw [hworkers, hhome, hactive]
    exact h.homed b hb
  ui := hready

theorem Placed.push (h : Placed s w bw) (item : Item)
    (hnamed : ∀ b, item.board = some b → b ∈ bw.boards ∧ ∀ t, .detach b t ∉ bw.work)
    (hasked : ∀ b t, item = .detach b t → ⟨w, b, t⟩ ∈ s.active ∧ s.done t = false) :
    Placed s w (bw.push item) := by
  have hwork : (bw.push item).work = bw.work ++ [item] := by
    unfold BusWorker.work BusWorker.push
    cases bw.place <;> rfl
  refine ⟨h.nodup, h.home, h.held, fun i hi b hb => ?_, ?_, fun b t hmem => ?_, h.detached⟩
  · rw [hwork, List.mem_append, List.mem_singleton] at hi
    rcases hi with hi | rfl
    · exact h.named i hi b hb
    · exact (hnamed b hb).1
  · rw [hwork, List.pairwise_append]
    refine ⟨h.last, List.pairwise_singleton _ _, fun i hi j hj b t hdetach hb => ?_⟩
    obtain rfl := List.mem_singleton.mp hj
    subst hdetach
    exact (hnamed b hb).2 t hi
  · rw [hwork, List.mem_append, List.mem_singleton] at hmem
    rcases hmem with hmem | hmem
    · exact h.asked b t hmem
    · exact hasked b t hmem.symm

/-- A new board in the list. -/
theorem Placed.enlist (h : Placed s w bw) {b : BoardId} (hb : b ∉ bw.boards) (halive : s.Alive b)
    (hhome : s.home b = w) (hactive : ∀ pr ∈ s.active, pr.board ≠ b) :
    Placed s w { bw with boards := bw.boards ++ [b] } := by
  have hmem : ∀ b' ∈ bw.boards, b' ∈ bw.boards ++ [b] := fun b' => List.mem_append_left _
  refine ⟨?_, fun b' hb' => ?_, fun b' hb' => hmem b' (h.held b' hb'),
    fun item hitem b' hb' => hmem b' (h.named item hitem b' hb'), h.last, h.asked, fun t ht => ?_⟩
  · refine List.nodup_append.mpr ⟨h.nodup, List.nodup_singleton b, ?_⟩
    rintro x hx y hy rfl
    exact hb (List.mem_singleton.mp hy ▸ hx)
  · rcases List.mem_append.mp hb' with hb' | hb'
    · exact h.home b' hb'
    · obtain rfl := List.mem_singleton.mp hb'
      exact ⟨halive, hhome⟩
  · obtain ⟨hdone, b', hpr, hnot⟩ := h.detached t ht
    refine ⟨hdone, b', hpr, fun hmem' => ?_⟩
    rcases List.mem_append.mp hmem' with hmem' | hmem'
    · exact hnot hmem'
    · exact hactive _ hpr (List.mem_singleton.mp hmem')

theorem Placed.addBoard (h : Placed s w bw) {b : BoardId} (hb : b ∉ bw.boards) (halive : s.Alive b)
    (hhome : s.home b = w) (hactive : ∀ pr ∈ s.active, pr.board ≠ b) :
    Placed s w (bw.addBoard b) := by
  refine (h.enlist hb halive hhome hactive).push (.use b) (fun b' hb' => ?_) nofun
  obtain rfl : b = b' := Option.some.inj hb'
  have hmem : b ∈ bw.boards ++ [b] := by simp
  exact ⟨hmem, fun t hdetach => hb (h.named _ hdetach b rfl)⟩

theorem Kept.push (h : Kept s) (hbw : s.busWorkers w = some bw) {item : Item}
    (hnamed : ∀ b, item.board = some b → b ∈ bw.boards ∧ ∀ t, .detach b t ∉ bw.work)
    (hasked : ∀ b t, item = .detach b t → ⟨w, b, t⟩ ∈ s.active ∧ s.done t = false) :
    Kept (s.setWorker w (bw.push item)) :=
  h.setWorker hbw ((h.placed w bw hbw).push item hnamed hasked) (fun _ hb => hb)
    (fun _ hb => .inl hb) id

section Begin

variable (h : Kept s) (hidle : s.ui = .idle)

include hidle

theorem active_idle : s.active = s.pendingRemovals := by simp [Runtime.active, hidle]

theorem uiReady_idle : s.UiReady := by simp [Runtime.UiReady, hidle]

theorem alive_idle (b : BoardId) : s.Alive b ↔ b ∈ s.boards := by simp [Runtime.Alive, hidle]

include h

theorem kept_queueUse {b : BoardId} (horderly : ∀ pr ∈ s.pendingRemovals, pr.board ≠ b) :
    Kept (s.queueUse b) := by
  unfold Runtime.queueUse
  cases hbw : s.busWorkers (s.home b) with
  | none => exact h
  | some bw =>
    dsimp only
    split
    next hb =>
      obtain ⟨bw₀, hbw₀, hhomed⟩ := h.homed b ((alive_idle hidle b).mpr hb)
      obtain rfl := Option.some.inj (hbw.symm.trans hbw₀)
      have hfree : ∀ pr ∈ s.active, pr.board ≠ b := active_idle hidle ▸ horderly
      refine h.push hbw (fun b' hb' => ?_) nofun
      obtain rfl : b = b' := Option.some.inj hb'
      refine ⟨hhomed.resolve_right fun ⟨pr, hpr, hboard⟩ => hfree pr hpr hboard, fun t hmem => ?_⟩
      exact hfree _ ((h.placed _ bw hbw).asked b t hmem).1 rfl
    next => exact h

/-- The ticket of a removal is made out, and the removal is about to be recorded. -/
theorem kept_removing {b : BoardId} {w : WorkerId} {bw : BusWorker} (hbw : s.busWorkers w = some bw)
    (hb : b ∈ bw.boards) (hfree : ∀ pr ∈ s.active, pr.board ≠ b) :
    Kept { s with tickets := s.tickets + 1, ui := .removing ⟨w, b, s.tickets⟩ } := by
  let s₁ : Runtime := { s with tickets := s.tickets + 1, ui := .removing ⟨w, b, s.tickets⟩ }
  have hactive₁ : s₁.active = s.active ++ [⟨w, b, s.tickets⟩] := by
    rw [active_idle hidle]
    rfl
  have halive₁ : ∀ b', s₁.Alive b' ↔ s.Alive b' := fun b' => by
    simp [Runtime.Alive, hidle, s₁]
  have hold : ∀ pr ∈ s.active, pr ∈ s₁.active := fun pr hpr =>
    hactive₁ ▸ List.mem_append_left _ hpr
  have hnodup {f : PendingRemoval → Nat} (hf : (s.active.map f).Nodup)
      (hnew : ∀ pr ∈ s.active, f pr ≠ f ⟨w, b, s.tickets⟩) : (s₁.active.map f).Nodup := by
    rw [hactive₁, List.map_append]
    refine List.nodup_append.mpr ⟨hf, List.nodup_singleton _, ?_⟩
    intro x hx y hy
    obtain ⟨pr, hpr, rfl⟩ := List.mem_map.mp hx
    obtain rfl := List.mem_singleton.mp hy
    exact hnew pr hpr
  refine ⟨fun v x hx => ?_, h.boards, hnodup h.distinct hfree,
    hnodup h.tickets fun pr hpr => Nat.ne_of_lt (h.active pr hpr).2.2, fun pr hpr => ?_,
    fun pr hpr hdone x hx => ?_, fun t ht => h.fresh t (Nat.le_of_succ_le ht), fun b' hb' => ?_,
    trivial⟩
  · exact (h.placed v x hx).mono (fun b' _ hb' hw => ⟨(halive₁ b').mpr hb', hw⟩)
      fun pr hpr _ hdone => ⟨hold pr hpr, hdone⟩
  · rw [hactive₁, List.mem_append, List.mem_singleton] at hpr
    rw [halive₁]
    rcases hpr with hpr | rfl
    · obtain ⟨halive, hhome, hlt⟩ := h.active pr hpr
      exact ⟨halive, hhome, Nat.lt_succ_of_lt hlt⟩
    · obtain ⟨halive, hhome⟩ := (h.placed w bw hbw).home b hb
      exact ⟨halive, hhome, Nat.lt_succ_self _⟩
  · rw [hactive₁, List.mem_append, List.mem_singleton] at hpr
    rcases hpr with hpr | rfl
    · exact h.gone pr hpr hdone x hx
    · exact absurd ((h.fresh s.tickets (Nat.le_refl _)).symm.trans hdone) nofun
  · obtain ⟨x, hx, hb''⟩ := h.homed b' ((halive₁ b').mp hb')
    exact ⟨x, hx, hb''.imp_right fun ⟨pr, hpr, hboard⟩ => ⟨pr, hold pr hpr, hboard⟩⟩

theorem kept_removeBoardLive {b : BoardId} {w : WorkerId}
    (horderly : Orderly s (.removeBoardLive b w)) : Kept (s.removeBoardLive b w) := by
  unfold Runtime.removeBoardLive
  cases hbw : s.busWorkers w with
  | none => exact h
  | some bw =>
    dsimp only
    split
    next hb =>
      have hfree : ∀ pr ∈ s.active, pr.board ≠ b := active_idle hidle ▸ horderly
      have hkept := kept_removing h hidle hbw hb.2 hfree
      refine hkept.push (w := w) hbw (fun b' hb' => ?_) fun b' t hdetach => ?_
      · obtain rfl : b = b' := Option.some.inj hb'
        exact ⟨hb.2, fun t hmem => hfree _ ((h.placed w bw hbw).asked b t hmem).1 rfl⟩
      · obtain ⟨rfl, rfl⟩ := Item.detach.inj hdetach
        exact ⟨List.mem_append_right _ (List.mem_singleton.mpr rfl),
          h.fresh s.tickets (Nat.le_refl _)⟩
    next => exact h

theorem kept_spawn (w : WorkerId) : Kept (s.spawn w) := by
  unfold Runtime.spawn
  cases hbw : s.busWorkers w with
  | some bw => exact h
  | none =>
    have hother : ∀ v x, s.busWorkers v = some x → v ≠ w := by
      rintro v x hx rfl
      exact absurd (hbw.symm.trans hx) nofun
    refine ⟨fun v x hx => ?_, h.boards, h.distinct, h.tickets, h.active,
      fun pr hpr hdone x hx => ?_, h.fresh, fun b hb => ?_, ?_⟩
    · by_cases hv : v = w
      · subst hv
        obtain rfl : BusWorker.fresh = x := by simpa using hx
        exact ⟨List.nodup_nil, nofun, nofun, nofun, List.Pairwise.nil, nofun, nofun⟩
      · have hx' : s.busWorkers v = some x := (setWorker_other hv).symm.trans hx
        exact (h.placed v x hx').mono (fun _ _ halive hhome => ⟨halive, hhome⟩)
          fun _ hpr _ hdone => ⟨hpr, hdone⟩
    · obtain ⟨halive, hhome, -⟩ := h.active pr hpr
      obtain ⟨y, hy, -⟩ := h.homed _ halive
      rw [hhome] at hy
      have hx' : s.busWorkers pr.bw = some x := (setWorker_other (hother _ _ hy)).symm.trans hx
      exact h.gone pr hpr hdone x hx'
    · obtain ⟨y, hy, hb'⟩ := h.homed b hb
      exact ⟨y, (setWorker_other (hother _ _ hy)).trans hy, hb'⟩
    · exact uiReady_idle (s := s.setWorker w .fresh) hidle

theorem kept_attach (w : WorkerId) (b : BoardId) : Kept (s.attach w b) := by
  unfold Runtime.attach
  cases hbw : s.busWorkers w with
  | none => exact h
  | some bw =>
    dsimp only
    split
    next => exact h
    next hb =>
      let s₁ : Runtime := { s with home := Function.update s.home b w, ui := .attaching b }
      have hactive₁ : s₁.active = s.active := (active_idle hidle).symm
      have halive₁ : ∀ b', s₁.Alive b' ↔ s.Alive b' ∨ b' = b := fun b' => by
        rw [alive_idle hidle]
        exact or_congr_right ⟨fun h => (Ui.attaching.inj h).symm, fun h => congrArg _ h.symm⟩
      have hne : ∀ b', s.Alive b' → b' ≠ b := by
        rintro b' hb' rfl
        exact hb hb'
      have hhome₁ : ∀ b', s.Alive b' → s₁.home b' = s.home b' := fun b' hb' =>
        Function.update_of_ne (hne b' hb') ..
      have hplaced₁ : ∀ v x, s.busWorkers v = some x → Placed s₁ v x := fun v x hx =>
        (h.placed v x hx).mono
          (fun b' _ hb' hw => ⟨(halive₁ b').mpr (.inl hb'), (hhome₁ b' hb').trans hw⟩)
          fun pr hpr _ hdone => ⟨hactive₁ ▸ hpr, hdone⟩
      have hnew : b ∉ bw.boards := fun hmem => hb ((h.placed w bw hbw).home b hmem).1
      have hadded : Placed s₁ w (bw.addBoard b) :=
        (hplaced₁ w bw hbw).addBoard hnew ((halive₁ b).mpr (.inr rfl)) (Function.update_self ..)
          fun pr hpr => hne pr.board (h.active pr (hactive₁ ▸ hpr)).1
      have hworker : ∀ v x, (s₁.setWorker w (bw.addBoard b)).busWorkers v = some x →
          Placed s₁ v x ∧
            ∀ b' ∈ x.boards, b' = b ∨ ∃ y, s.busWorkers v = some y ∧ b' ∈ y.boards := by
        intro v x hx
        by_cases hv : v = w
        · subst hv
          rw [setWorker_self] at hx
          obtain rfl := Option.some.inj hx
          refine ⟨hadded, fun b' hb' => ?_⟩
          rcases List.mem_append.mp hb' with hold | hnew'
          · exact .inr ⟨bw, hbw, hold⟩
          · exact .inl (List.mem_singleton.mp hnew')
        · have hx' := (setWorker_other hv).symm.trans hx
          exact ⟨hplaced₁ v x hx', fun b' hb' => .inr ⟨x, hx', hb'⟩⟩
      have hback : ∀ v y, s.busWorkers v = some y →
          ∃ x, (s₁.setWorker w (bw.addBoard b)).busWorkers v = some x ∧
            ∀ b' ∈ y.boards, b' ∈ x.boards := by
        intro v y hy
        by_cases hv : v = w
        · subst hv
          obtain rfl := Option.some.inj (hbw.symm.trans hy)
          exact ⟨_, setWorker_self, fun b' hb' => List.mem_append_left _ hb'⟩
        · exact ⟨y, (setWorker_other hv).trans hy, fun _ hb' => hb'⟩
      refine ⟨fun v x hx => ?_, h.boards, hactive₁ ▸ h.distinct, hactive₁ ▸ h.tickets,
        fun pr hpr => ?_, fun pr hpr hdone x hx hmem => ?_, h.fresh, fun b' hb' => ?_, ?_⟩
      · exact (hworker v x hx).1.mono (fun _ _ halive hhome => ⟨halive, hhome⟩)
          fun _ hpr _ hdone => ⟨hpr, hdone⟩
      · obtain ⟨halive, hhome, hlt⟩ := h.active pr (hactive₁ ▸ hpr)
        exact ⟨(halive₁ _).mpr (.inl halive), (hhome₁ _ halive).trans hhome, hlt⟩
      · have hpr' : pr ∈ s.active := hactive₁ ▸ hpr
        rcases (hworker _ x hx).2 _ hmem with heq | ⟨y, hy, hmem'⟩
        · exact hne _ (h.active pr hpr').1 heq
        · exact h.gone pr hpr' hdone y hy hmem'
      · rcases (halive₁ b').mp hb' with hold | rfl
        · obtain ⟨y, hy, hb''⟩ := h.homed b' hold
          obtain ⟨x, hx, hsub⟩ := hback _ y hy
          exact ⟨x, (congrArg _ (hhome₁ b' hold)).trans hx, hb''.imp (hsub b')
            fun ⟨pr, hpr, hboard⟩ => ⟨pr, hactive₁ ▸ hpr, hboard⟩⟩
        · have hhome : s₁.home b' = w := Function.update_self ..
          exact ⟨_, (congrArg _ hhome).trans setWorker_self, .inl (by simp [BusWorker.addBoard])⟩
      · exact fun hmem => hb ((alive_idle hidle b).mpr hmem)

end Begin

/-! ## The UI thread goes on -/

theorem not_mem_eraseIdx {α : Type} {xs : List α} (h : xs.Nodup) {i : Nat} {x : α}
    (hx : xs[i]? = some x) : x ∉ xs.eraseIdx i := by
  intro hmem
  obtain ⟨j, hne, hj⟩ := List.mem_eraseIdx_iff_getElem?.mp hmem
  have hlt := (List.getElem?_eq_some_iff.mp hj).1
  exact hne ((List.getElem?_inj hlt h).mp (hj.trans hx.symm))

/-- The board of a removal that is done leaves the heap: no worker knows it any more. -/
theorem kept_destroy (h : Kept s) {i : Nat} (hui : s.ui = .draining i) {pr : PendingRemoval}
    (hpr : s.pendingRemovals[i]? = some pr) (hdone : s.done pr.done) :
    Kept { s with boards := s.boards.erase pr.board, ui := .destroyed i } := by
  have hactive : s.active = s.pendingRemovals := by simp [Runtime.active, hui]
  have halive : ∀ b, s.Alive b ↔ b ∈ s.boards := by simp [Runtime.Alive, hui]
  have hmem : pr ∈ s.active := hactive ▸ List.mem_of_getElem? hpr
  obtain ⟨hlive, hhome, -⟩ := h.active pr hmem
  obtain ⟨bw, hbw, -⟩ := h.homed _ hlive
  rw [hhome] at hbw
  let s₁ : Runtime := { s with boards := s.boards.erase pr.board, ui := .destroyed i }
  have hactive₁ : s₁.active = s.active.eraseIdx i := hactive ▸ rfl
  have hsub : ∀ other ∈ s₁.active, other ∈ s.active := fun other hother =>
    List.mem_of_mem_eraseIdx (hactive₁ ▸ hother)
  have hothers : ∀ other ∈ s.active, other ≠ pr → other ∈ s₁.active := by
    intro other hother hne
    obtain ⟨j, hj⟩ := List.mem_iff_getElem?.mp hother
    refine hactive₁ ▸ List.mem_eraseIdx_iff_getElem?.mpr ⟨j, ?_, hj⟩
    rintro rfl
    exact hne (Option.some.inj (hj.symm.trans (hactive ▸ hpr)))
  have hboard : ∀ other ∈ s₁.active, other.board ≠ pr.board := by
    intro other hother heq
    obtain rfl := List.inj_on_of_nodup_map h.distinct (hsub other hother) hmem heq
    exact not_mem_eraseIdx (h.distinct.of_map _) (hactive ▸ hpr) (hactive₁ ▸ hother)
  have halive₁ : ∀ b, s₁.Alive b ↔ s.Alive b ∧ b ≠ pr.board := by
    intro b
    rw [halive, and_comm]
    simpa [Runtime.Alive, s₁] using h.boards.mem_erase_iff
  have hfree : ∀ v x, s.busWorkers v = some x → pr.board ∉ x.boards := by
    intro v x hx hb
    obtain rfl : s.home pr.board = v := ((h.placed v x hx).home _ hb).2
    rw [hhome] at hx
    exact h.gone pr hmem hdone x hx hb
  refine ⟨fun v x hx => ?_, h.boards.erase _, ?_, ?_, fun other hother => ?_,
    fun other hother => h.gone other (hsub other hother), h.fresh, fun b hb => ?_, ?_⟩
  · refine (h.placed v x hx).mono (fun b hb hlive hw => ⟨(halive₁ b).mpr ⟨hlive, ?_⟩, hw⟩)
      fun other hother _ hd => ⟨hothers other hother ?_, hd⟩
    · rintro rfl
      exact hfree v x hx hb
    · rintro rfl
      exact absurd (hd.symm.trans hdone) nofun
  · exact h.distinct.sublist (hactive₁ ▸ (List.eraseIdx_sublist ..).map _)
  · exact h.tickets.sublist (hactive₁ ▸ (List.eraseIdx_sublist ..).map _)
  · obtain ⟨hlive', hhome', hlt⟩ := h.active other (hsub other hother)
    exact ⟨(halive₁ _).mpr ⟨hlive', hboard other hother⟩, hhome', hlt⟩
  · obtain ⟨hlive', hne⟩ := (halive₁ b).mp hb
    obtain ⟨x, hx, hb'⟩ := h.homed b hlive'
    refine ⟨x, hx, hb'.imp_right fun ⟨other, hother, heq⟩ => ⟨other, hothers other hother ?_, heq⟩⟩
    rintro rfl
    exact hne heq.symm
  · exact ⟨pr, bw, hpr, hbw⟩

theorem kept_drain (h : Kept s) {i : Nat} (hui : s.ui = .draining i) : Kept (s.drain i) := by
  have halive : ∀ u : Ui, (∀ b, u ≠ .attaching b) → ∀ b, ({ s with ui := u }).Alive b ↔ s.Alive b :=
    fun u hu b => by simp [Runtime.Alive, hui, hu b]
  have hactive : s.active = s.pendingRemovals := by simp [Runtime.active, hui]
  unfold Runtime.drain
  cases hpr : s.pendingRemovals[i]? with
  | none => exact h.rebuild rfl rfl rfl rfl hactive.symm (halive .idle nofun) h.boards trivial
  | some pr =>
    dsimp only
    split
    next hdone => exact kept_destroy h hui hpr hdone
    next => exact h.rebuild rfl rfl rfl rfl hactive.symm (halive _ nofun) h.boards trivial

/-- A removal that is over is forgotten. -/
theorem kept_forget (h : Kept s) {i : Nat} (hui : s.ui = .destroyed i) : Kept (s.forget i) := by
  have hactive : s.active = s.pendingRemovals.eraseIdx i := by simp [Runtime.active, hui]
  refine h.rebuild rfl rfl rfl rfl hactive.symm (fun b => ?_) h.boards trivial
  simp [Runtime.Alive, Runtime.forget, hui]

theorem kept_judgeBus (h : Kept s) {i : Nat} (hui : s.ui = .destroyed i) : Kept (s.judgeBus i) := by
  have hactive : s.active = s.pendingRemovals.eraseIdx i := by simp [Runtime.active, hui]
  unfold Runtime.judgeBus
  cases hpr : s.pendingRemovals[i]? with
  | none => exact h
  | some pr =>
    dsimp only
    cases hbw : s.busWorkers pr.bw with
    | none => exact h
    | some bw =>
      dsimp only
      split
      next hempty =>
        have hplaced := h.placed _ bw hbw
        have hstopped : Placed s pr.bw { bw with stopRequested := true } :=
          ⟨hplaced.nodup, hplaced.home, hplaced.held, hplaced.named, hplaced.last, hplaced.asked,
            hplaced.detached⟩
        have hset := h.setWorker hbw hstopped (fun _ hb => hb) (fun _ hb => .inl hb) fun _ => rfl
        refine hset.rebuild rfl rfl rfl rfl ?_ (fun b => ?_) h.boards ?_
        · exact hactive.symm
        · simp [Runtime.Alive, Runtime.setWorker, hui]
        · exact ⟨pr, _, hpr, setWorker_self, hempty.1, rfl, hempty.2⟩
      next => exact kept_forget h hui

/-- No board belongs to a bus worker that is being joined. -/
theorem home_ne_of_joining (h : Kept s) {v : WorkerId} {x : BusWorker}
    (hx : s.busWorkers v = some x) (hempty : x.boards = []) (hothers : ∀ pr ∈ s.active, pr.bw ≠ v)
    {b : BoardId} (hb : s.Alive b) : s.home b ≠ v := by
  rintro rfl
  obtain ⟨y, hy, hmem | ⟨pr, hpr, rfl⟩⟩ := h.homed b hb
  · obtain rfl := Option.some.inj (hx.symm.trans hy)
    simp [hempty] at hmem
  · exact hothers pr hpr (h.active pr hpr).2.1.symm

theorem kept_join (h : Kept s) {i : Nat} (hui : s.ui = .joining i) : Kept (s.join i) := by
  have hactive : s.active = s.pendingRemovals.eraseIdx i := by simp [Runtime.active, hui]
  have halive : ∀ b, s.Alive b ↔ b ∈ s.boards := by simp [Runtime.Alive, hui]
  have hready := h.ui
  rw [Runtime.UiReady, hui] at hready
  obtain ⟨pr, bw, hpr, hbw, hempty, -, hothers⟩ := hready
  unfold Runtime.join
  simp only [hpr, hbw]
  split
  next =>
    let s₁ : Runtime :=
      { s.forget i with busWorkers := Function.update s.busWorkers pr.bw none }
    have hactive₁ : s₁.active = s.active := hactive.symm
    have halive₁ : ∀ b, s₁.Alive b ↔ s.Alive b := fun b => by
      simp [s₁, Runtime.Alive, Runtime.forget, hui]
    have hworker : ∀ v x, s₁.busWorkers v = some x → s.busWorkers v = some x := by
      intro v x hx
      by_cases hv : v = pr.bw
      · subst hv
        simp [s₁] at hx
      · exact (Function.update_of_ne hv ..).symm.trans hx
    refine ⟨fun v x hx => ?_, h.boards, hactive₁ ▸ h.distinct, hactive₁ ▸ h.tickets,
      fun other hother => ?_, fun other hother hdone x hx => ?_, h.fresh, fun b hb => ?_, trivial⟩
    · exact (h.placed v x (hworker v x hx)).mono (fun b _ hb hw => ⟨(halive₁ b).mpr hb, hw⟩)
        fun other hother _ hd => ⟨hactive₁ ▸ hother, hd⟩
    · rw [halive₁]
      exact h.active other (hactive₁ ▸ hother)
    · exact h.gone other (hactive₁ ▸ hother) hdone x (hworker _ x hx)
    · rw [halive₁] at hb
      rw [hactive₁]
      obtain ⟨x, hx, hb'⟩ := h.homed b hb
      have hne := home_ne_of_joining h hbw hempty hothers hb
      exact ⟨x, (Function.update_of_ne hne ..).trans hx, hb'⟩
  next => exact h

theorem kept_uiStep (h : Kept s) : Kept s.uiStep := by
  unfold Runtime.uiStep
  cases hui : s.ui with
  | idle | leaving => exact h
  | attaching b =>
    have hready : b ∉ s.boards := by
      have h' := h.ui
      rwa [Runtime.UiReady, hui] at h'
    have hactive : s.active = s.pendingRemovals := by simp [Runtime.active, hui]
    refine h.rebuild rfl rfl rfl rfl hactive.symm (fun b' => ?_) ?_ trivial
    · simp [Runtime.Alive, hui, eq_comm]
    · refine List.nodup_append.mpr ⟨h.boards, List.nodup_singleton b, ?_⟩
      rintro x hx y hy rfl
      exact hready (List.mem_singleton.mp hy ▸ hx)
  | removing pr =>
    have hactive : s.active = s.pendingRemovals ++ [pr] := by simp [Runtime.active, hui]
    refine h.rebuild rfl rfl rfl rfl hactive.symm (fun b' => ?_) h.boards trivial
    simp [Runtime.Alive, hui]
  | draining i => exact kept_drain h hui
  | destroyed i => exact kept_judgeBus h hui
  | joining i => exact kept_join h hui

/-! ## Runs -/

theorem kept_begin (h : Kept s) (hidle : s.ui = .idle) {act : Act} (horderly : Orderly s act) :
    Kept (s.begin act) := by
  have hactive := active_idle hidle
  cases act with
  | worker w stay | ui => exact h
  | press b | drawTab b => exact kept_queueUse h hidle horderly
  | removeBoardLive b w => exact kept_removeBoardLive h hidle horderly
  | spawn w => exact kept_spawn h hidle w
  | attach w b => exact kept_attach h hidle w b
  | scan w =>
    show Kept (s.scanViaLiveBus w)
    unfold Runtime.scanViaLiveBus
    cases hbw : s.busWorkers w with
    | none => exact h
    | some bw => exact h.push hbw nofun nofun
  | frame =>
    refine h.rebuild rfl rfl rfl rfl hactive.symm (fun b => ?_) h.boards trivial
    simp [Runtime.Alive, Runtime.begin, hidle]
  | quit =>
    refine h.rebuild rfl rfl rfl rfl hactive.symm (fun b => ?_) h.boards trivial
    simp [Runtime.Alive, Runtime.begin, hidle]

theorem kept_step (h : Kept s) {act : Act} (horderly : Orderly s act) : Kept (step s act) := by
  cases act with
  | worker w stay => exact kept_workerStep h w stay
  | ui => exact kept_uiStep h
  | press | drawTab | scan | removeBoardLive | spawn | attach | frame | quit =>
    unfold step
    dsimp only
    split
    next hidle => exact kept_begin h hidle horderly
    next => exact h

theorem home_built {topology : List (List BoardId)} (h : topology.flatten.Nodup) {w : WorkerId}
    {boards : List BoardId} (hw : topology[w]? = some boards) {b : BoardId} (hb : b ∈ boards) :
    (built topology).home b = w := by
  obtain ⟨hlt, rfl⟩ := List.getElem?_eq_some_iff.mp hw
  refine (List.findIdx_eq hlt).mpr ⟨decide_eq_true hb, fun j hj => decide_eq_false fun hmem => ?_⟩
  have hdisjoint := List.pairwise_iff_getElem.mp (List.nodup_flatten.mp h).2 j w
    (Nat.lt_trans hj hlt) hlt hj
  exact hdisjoint hmem hb

theorem kept_built {topology : List (List BoardId)} (h : topology.flatten.Nodup) :
    Kept (built topology) := by
  have hworker : ∀ w bw, (built topology).busWorkers w = some bw →
      ∃ boards, topology[w]? = some boards ∧ bw = ⟨boards, [], false, .starting⟩ := by
    intro w bw hbw
    obtain ⟨boards, hboards, rfl⟩ := Option.map_eq_some_iff.mp hbw
    exact ⟨boards, hboards, rfl⟩
  refine ⟨fun w bw hbw => ?_, h, List.nodup_nil, List.nodup_nil, nofun, nofun, fun _ _ => rfl,
    fun b hb => ?_, trivial⟩
  · obtain ⟨boards, hboards, rfl⟩ := hworker w bw hbw
    have hmem := List.mem_of_getElem? hboards
    refine ⟨(List.nodup_flatten.mp h).1 boards hmem, fun b hb => ⟨.inl ?_, home_built h hboards hb⟩,
      nofun, nofun, List.Pairwise.nil, nofun, nofun⟩
    exact List.mem_flatten.mpr ⟨boards, hmem, hb⟩
  · have hflat : b ∈ topology.flatten := hb.resolve_right nofun
    obtain ⟨boards, hmem, hb'⟩ := List.mem_flatten.mp hflat
    obtain ⟨w, hw⟩ := List.mem_iff_getElem?.mp hmem
    refine ⟨⟨boards, [], false, .starting⟩, ?_, .inl hb'⟩
    rw [home_built h hw hb']
    exact congrArg (Option.map _) hw

/-- Every pointer that a thread may follow leads to something: the boards that a bus thread polls,
sweeps or has queued, the board and the bus worker of each removal, and the bus worker behind each
dashboard. The boards of the runtime are those of the buses and those that are being removed. -/
structure Sound (s : Runtime) : Prop where
  polled : ∀ w bw, s.busWorkers w = some bw → ∀ b ∈ bw.boards ++ bw.place.held, s.Alive b
  queued : ∀ w bw, s.busWorkers w = some bw → ∀ item ∈ bw.work, ∀ b, item.board = some b → s.Alive b
  removals : ∀ pr ∈ s.active, s.Alive pr.board ∧ (s.busWorkers pr.bw).isSome
  removed : ∀ i, s.ui = .destroyed i ∨ s.ui = .joining i →
    ∃ pr, s.pendingRemovals[i]? = some pr ∧ (s.busWorkers pr.bw).isSome
  dashboards : ∀ b, s.Alive b → (s.busWorkers (s.home b)).isSome
  boards : ∀ b, s.Alive b ↔ (∃ w bw, s.busWorkers w = some bw ∧ b ∈ bw.boards) ∨
    ∃ pr ∈ s.active, pr.board = b

theorem Kept.sound (h : Kept s) : Sound s where
  polled w bw hbw b hb := by
    have hplaced := h.placed w bw hbw
    rcases List.mem_append.mp hb with hb | hb
    · exact (hplaced.home b hb).1
    · exact (hplaced.home b (hplaced.held b hb)).1
  queued w bw hbw item hitem b hb := by
    have hplaced := h.placed w bw hbw
    exact (hplaced.home b (hplaced.named item hitem b hb)).1
  removals pr hpr := by
    obtain ⟨hlive, hhome, -⟩ := h.active pr hpr
    obtain ⟨bw, hbw, -⟩ := h.homed _ hlive
    rw [hhome] at hbw
    exact ⟨hlive, by simp [hbw]⟩
  removed i hi := by
    have hready := h.ui
    rcases hi with hi | hi <;> rw [Runtime.UiReady, hi] at hready
    · obtain ⟨pr, bw, hpr, hbw⟩ := hready
      exact ⟨pr, hpr, by simp [hbw]⟩
    · obtain ⟨pr, bw, hpr, hbw, -⟩ := hready
      exact ⟨pr, hpr, by simp [hbw]⟩
  dashboards b hb := by
    obtain ⟨bw, hbw, -⟩ := h.homed b hb
    simp [hbw]
  boards b := by
    constructor
    · intro hb
      obtain ⟨bw, hbw, hb'⟩ := h.homed b hb
      exact hb'.imp_left fun hmem => ⟨_, bw, hbw, hmem⟩
    · rintro (⟨w, bw, hbw, hmem⟩ | ⟨pr, hpr, rfl⟩)
      · exact ((h.placed w bw hbw).home b hmem).1
      · exact (h.active pr hpr).1

theorem kept_run {topology : List (List BoardId)} (h : topology.flatten.Nodup) {acts : List Act}
    (horderly : Along step Orderly (built topology) acts) :
    Kept (exec step (built topology) acts) :=
  exec_invariant (I := Kept) (fun _ _ hkept hact => kept_step hkept hact) (kept_built h) horderly

/-- In every interleaving of the bus threads with a UI thread that queues nothing for a board that
is being removed, no thread can reach a board or a bus worker that has been destroyed. -/
theorem runtime_sound {topology : List (List BoardId)} (h : topology.flatten.Nodup)
    {acts : List Act} (horderly : Along step Orderly (built topology) acts) :
    Sound (exec step (built topology) acts) :=
  (kept_run h horderly).sound

/-- Boards 1 and 2 share a bus, and board 3 with its own bus is removed after a channel of it has
been shown; one of board 1 is shown meanwhile. -/
def removal : List Act :=
  [.drawTab 3] ++ List.replicate 6 (.worker 1 false) ++ [.removeBoardLive 3 1, .ui, .drawTab 1] ++
    List.replicate 4 (.worker 1 false) ++ [.frame, .ui, .ui]

theorem runtime_sound_removal : Sound (exec step (built [[1, 2], [3]]) removal) :=
  runtime_sound (by decide) (by decide)

/-- A second click before the first removal is carried out leaves a removal whose board is gone. -/
example :
    let clicks : List Act := [.removeBoardLive 3 1, .ui, .removeBoardLive 3 1, .ui]
    let s := exec step (built [[1, 2], [3]])
      (clicks ++ List.replicate 12 (.worker 1 false) ++ [.frame, .ui])
    ∃ pr ∈ s.active, s.done pr.done ∧ ¬ s.Alive pr.board := by
  decide

/-- A channel that is drawn for the first time after the click on Remove, as when both clicks are
taken in before one drawing, leaves reads queued for a board that is gone. -/
example :
    let s := exec step (built [[1, 2], [3]]) ([.removeBoardLive 3 1, .ui, .drawTab 3] ++
      List.replicate 8 (.worker 1 false) ++ [.frame, .ui])
    ∃ bw ∈ s.busWorkers 1, ∃ item ∈ bw.workQueue, ∃ b ∈ item.board, ¬ s.Alive b := by
  decide

/-! ## The join -/

/-- A bus thread that is to end, with no board left and nothing to do but scans. -/
structure Ending (bw : BusWorker) : Prop where
  boards : bw.boards = []
  stopRequested : bw.stopRequested = true
  held : bw.place.held = []
  scans : ∀ item ∈ bw.work, item = .scan
  place : ∀ t, bw.place ≠ .detached t

/-- The steps that are left until the thread ends. -/
def BusWorker.left (bw : BusWorker) : Nat :=
  match bw.place with
  | .exited => 0
  | .top => 1
  | .connecting _ | .polling _ => 2
  | .starting | .refreshing => 3
  | .draining => 4 + 2 * bw.workQueue.length
  | .waiting | .inItem _ => 5 + 2 * bw.workQueue.length
  | .detached _ => 0

theorem ending_step (h : Ending bw) (hplace : bw.place ≠ .exited) (running : Bool) :
    (bw.step running false).2 = none ∧ Ending (bw.step running false).1 ∧
      (bw.step running false).1.left < bw.left := by
  obtain ⟨boards, queue, stop, place⟩ := bw
  obtain ⟨rfl, rfl, hheld, hscans, hnot⟩ := h
  cases place with
  | exited => exact absurd rfl hplace
  | detached t => exact absurd rfl (hnot t)
  | connecting rest =>
    obtain rfl : rest = [] := hheld
    exact ⟨rfl, ⟨rfl, rfl, rfl, hscans, nofun⟩, by simp [BusWorker.step, BusWorker.left]⟩
  | polling rest =>
    obtain rfl : rest = [] := hheld
    exact ⟨rfl, ⟨rfl, rfl, rfl, hscans, nofun⟩, by simp [BusWorker.step, BusWorker.left]⟩
  | top => exact ⟨rfl, by simpa [BusWorker.step] using ⟨rfl, rfl, rfl, hscans, nofun⟩, by
      simp [BusWorker.step, BusWorker.left]⟩
  | inItem item =>
    obtain rfl : item = .scan := hscans item List.mem_cons_self
    refine ⟨rfl, ⟨rfl, rfl, rfl, fun i hi => hscans i (List.mem_cons_of_mem _ hi), nofun⟩, ?_⟩
    simp [BusWorker.step, BusWorker.left]
  | draining =>
    cases queue with
    | nil => exact ⟨rfl, ⟨rfl, rfl, rfl, hscans, nofun⟩, by simp [BusWorker.step, BusWorker.left]⟩
    | cons item rest =>
      refine ⟨rfl, ⟨rfl, rfl, rfl, hscans, nofun⟩, ?_⟩
      simp only [BusWorker.step, BusWorker.left, List.length_cons]
      omega
  | starting | waiting | refreshing =>
    exact ⟨rfl, ⟨rfl, rfl, rfl, hscans, nofun⟩, by simp [BusWorker.step, BusWorker.left]⟩

/-- The thread ends after its steps, whatever it is in the middle of. -/
theorem ending_exits (hbw : s.busWorkers w = some bw) (h : Ending bw) :
    ∃ n ≤ bw.left, ∃ x, exec step s (List.replicate n (.worker w false)) = s.setWorker w x ∧
      x.place = .exited := by
  induction hn : bw.left using Nat.strongRecOn generalizing s bw with
  | ind m ih =>
    by_cases hplace : bw.place = .exited
    · refine ⟨0, Nat.zero_le _, bw, ?_, hplace⟩
      simp [Runtime.setWorker, ← hbw]
    · obtain ⟨hnone, hending, hlt⟩ := ending_step h hplace s.running
      have hstep : step s (.worker w false) = s.setWorker w (bw.step s.running false).1 := by
        simp only [step, Runtime.workerStep, hbw, hnone]
      obtain ⟨n, hle, x, hexec, hexited⟩ := ih _ (hn ▸ hlt) setWorker_self hending rfl
      refine ⟨n + 1, Nat.lt_of_le_of_lt hle (hn ▸ hlt), x, ?_, hexited⟩
      have hrun : exec step s (List.replicate (n + 1) (.worker w false)) =
          exec step (step s (.worker w false)) (List.replicate n (.worker w false)) := rfl
      rw [hrun, hstep, hexec]
      simp [Runtime.setWorker]

/-- The join that takes a bus down waits for no board: the thread has none to poll and nothing
queued but scans, and as soon as it has gone on for so many steps the UI thread does too. -/
theorem join_returns {topology : List (List BoardId)} (h : topology.flatten.Nodup)
    {acts : List Act} (horderly : Along step Orderly (built topology) acts) {i : Nat}
    (hi : (exec step (built topology) acts).ui = .joining i) :
    let s := exec step (built topology) acts
    ∃ pr bw, s.pendingRemovals[i]? = some pr ∧ s.busWorkers pr.bw = some bw ∧
      bw.boards = [] ∧ bw.place.held = [] ∧ (∀ item ∈ bw.work, item = .scan) ∧
      ∃ n ≤ 5 + 2 * bw.workQueue.length,
        (exec step s (List.replicate n (.worker pr.bw false) ++ [.ui])).ui = .draining i := by
  intro s
  have hkept : Kept s := kept_run h horderly
  have hactive : s.active = s.pendingRemovals.eraseIdx i := by simp [Runtime.active, s, hi]
  have hready := hkept.ui
  rw [Runtime.UiReady, show s.ui = .joining i from hi] at hready
  obtain ⟨pr, bw, hpr, hbw, hempty, hstop, hothers⟩ := hready
  have hplaced := hkept.placed _ bw hbw
  have hheld : bw.place.held = [] := List.eq_nil_iff_forall_not_mem.mpr fun b hb => by
    simpa [hempty] using hplaced.held b hb
  have hscans : ∀ item ∈ bw.work, item = .scan := by
    intro item hitem
    cases hboard : item.board with
    | some b => simpa [hempty] using hplaced.named item hitem b hboard
    | none => cases item <;> first | rfl | cases hboard
  have hnot : ∀ t, bw.place ≠ .detached t := by
    intro t ht
    obtain ⟨-, b, hmem, -⟩ := hplaced.detached t ht
    exact hothers _ hmem rfl
  obtain ⟨n, hle, x, hexec, hexited⟩ := ending_exits hbw ⟨hempty, hstop, hheld, hscans, hnot⟩
  refine ⟨pr, bw, hpr, hbw, hempty, hheld, hscans, n, Nat.le_trans hle ?_, ?_⟩
  · unfold BusWorker.left
    split <;> omega
  · rw [exec_append, hexec]
    have hui : (s.setWorker pr.bw x).ui = .joining i := hi
    have hpr' : (s.setWorker pr.bw x).pendingRemovals[i]? = some pr := hpr
    show ((s.setWorker pr.bw x).uiStep).ui = _
    simp [Runtime.uiStep, hui, Runtime.join, hpr', hexited, Runtime.forget]

theorem join_returns_removal :
    let s := exec step (built [[1, 2], [3]]) removal
    ∃ pr bw, s.pendingRemovals[0]? = some pr ∧ s.busWorkers pr.bw = some bw ∧
      bw.boards = [] ∧ bw.place.held = [] ∧ (∀ item ∈ bw.work, item = .scan) ∧
      ∃ n ≤ 5 + 2 * bw.workQueue.length,
        (exec step s (List.replicate n (.worker pr.bw false) ++ [.ui])).ui = .draining 0 :=
  join_returns (by decide) (by decide) (by decide)

end LiveRuntime
