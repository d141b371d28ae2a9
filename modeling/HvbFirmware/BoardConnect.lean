import Mathlib.Data.List.Nodup
import Mathlib.Logic.Function.Basic
import HvbFirmware.Runs

/-!
# Connecting and disconnecting the boards of a bus

The dashboards of `psb_demo_tui` connect and disconnect boards that share a bus. The UI thread only
sets flags and queues items; the bus thread opens and closes the bus, verifies the boards and scans
them. Each access to what the threads share is a step of its own, and the steps come in any order.
Boards that are taken away are left out.
-/
namespace BoardConnect

open Runs

abbrev BoardId := Nat

/-! ## State -/

/-- What `BoardSession` has for a connection; `verified` is the client's, and `allChannelsLoaded`
what the last scan left. -/
structure BoardSession where
  abortConnect : Bool := false
  connecting : Bool := false
  connected : Bool := false
  verified : Bool := false
  allChannelsLoaded : Bool := false
  deriving DecidableEq, Repr

/-- A queued lambda: of `doConnect`, of a hot attach, of `doDisconnect`, of a reset of the board,
or one that leaves the flags alone. -/
inductive Item where
  | connect (b : BoardId)
  | attach (b : BoardId)
  | disconnect (b : BoardId)
  | reset (b : BoardId)
  | other
  deriving DecidableEq, Repr

/-- The three pieces of code that try to connect a board; the sweep at the start goes on with the
rest of the boards. -/
inductive Origin where
  | sweep (busOk : Bool) (rest : List BoardId)
  | attach
  | connect
  deriving DecidableEq, Repr

/-- What an attempt does next, with its local `ok`. -/
inductive Stage where
  | begin
  | opening
  | verifying (ok : Bool)
  | checking (ok : Bool)
  | leaving (ok : Bool)
  | scanning
  | judging
  | publishing (ok : Bool)
  | ending
  deriving DecidableEq, Repr

/-- Where the bus thread is. `closing` has looked for connected boards up to those that are left. -/
inductive Place where
  | starting
  | sweeping (busOk : Bool) (rest : List BoardId)
  | top
  | draining
  | attempting (o : Origin) (b : BoardId) (stage : Stage)
  | detaching (b : BoardId)
  | closing (b : BoardId) (rest : List BoardId)
  | resetting (b : BoardId)
  | unverifying (b : BoardId)
  | exited
  deriving DecidableEq, Repr

/-- Where the UI thread is: between two clicks, in `doConnect` or in `doDisconnect`. -/
inductive Ui where
  | idle
  | reading (b : BoardId)
  | clearing (b : BoardId)
  | claiming (b : BoardId)
  | pushingConnect (b : BoardId)
  | flagged (b : BoardId)
  | dropping (b : BoardId)
  | pushingDisconnect (b : BoardId)
  deriving DecidableEq, Repr

structure BusWorker where
  boards : List BoardId
  session : BoardId → BoardSession
  isOpen : Bool
  workQueue : List Item
  place : Place
  ui : Ui
  running : Bool

def BusWorker.update (s : BusWorker) (b : BoardId) (f : BoardSession → BoardSession) : BusWorker :=
  { s with session := Function.update s.session b (f (s.session b)) }

def BusWorker.goto (s : BusWorker) (place : Place) : BusWorker := { s with place := place }

def BusWorker.push (s : BusWorker) (item : Item) : BusWorker :=
  { s with workQueue := s.workQueue ++ [item] }

/-! ## The bus thread -/

/-- One step of an attempt. `result` is what the wire says: whether the port opens, the board
answers as it should, or all of its channels come. -/
def BusWorker.attempt (s : BusWorker) (result : Bool) (o : Origin) (b : BoardId) :
    Stage → BusWorker
  | .begin =>
    match o with
    | .connect => (s.update b fun x => { x with verified := false }).goto (.attempting o b .opening)
    | .sweep busOk _ =>
      (s.update b fun x => { x with connecting := true }).goto (.attempting o b (.verifying busOk))
    | .attach => s.goto (.attempting o b (.verifying true))
  | .opening =>
    if s.isOpen then s.goto (.attempting o b (.verifying true))
    else { s with isOpen := result, place := .attempting o b (.verifying result) }
  | .verifying ok =>
    if ok then
      let ok := result && s.isOpen
      (s.update b fun x => { x with verified := ok }).goto (.attempting o b (.checking ok))
    else s.goto (.attempting o b (.checking false))
  | .checking ok => s.goto (.attempting o b (.leaving (ok && !(s.session b).abortConnect)))
  | .leaving ok =>
    if o = .connect ∧ !s.running then
      (s.update b fun x => { x with connecting := false }).goto .draining
    else s.goto (.attempting o b (if ok then .scanning else .publishing false))
  | .scanning =>
    (s.update b fun x => { x with allChannelsLoaded := result }).goto (.attempting o b .judging)
  | .judging =>
    let x := s.session b
    s.goto (.attempting o b (.publishing (x.allChannelsLoaded && !x.abortConnect)))
  | .publishing ok =>
    (s.update b fun x => { x with connected := ok }).goto (.attempting o b .ending)
  | .ending =>
    match o with
    | .connect => (s.update b fun x => { x with connecting := false }).goto .draining
    | .sweep busOk rest =>
      (s.update b fun x => { x with connecting := false }).goto (.sweeping busOk rest)
    | .attach => s.goto .draining

def Item.start : Item → Place
  | .connect b => .attempting .connect b .begin
  | .attach b => .attempting .attach b .begin
  | .disconnect b => .detaching b
  | .reset b => .resetting b
  | .other => .draining

def BusWorker.workerStep (s : BusWorker) (result : Bool) : BusWorker :=
  match s.place with
  | .starting =>
    if s.boards = [] then s.goto .top
    else { s with isOpen := result, place := .sweeping result s.boards }
  | .sweeping _ [] => s.goto .top
  | .sweeping busOk (b :: rest) => s.goto (.attempting (.sweep busOk rest) b .begin)
  | .top => s.goto (if s.running then .draining else .exited)
  | .draining =>
    match s.workQueue with
    | [] => s.goto .top
    | item :: rest => { s with workQueue := rest, place := item.start }
  | .attempting o b stage => s.attempt result o b stage
  | .detaching b =>
    (s.update b fun x => { x with verified := false }).goto (.closing b s.boards)
  | .closing _ [] => { s with isOpen := false, place := .draining }
  | .closing b (x :: rest) =>
    if x ≠ b ∧ (s.session x).connected then s.goto .draining else s.goto (.closing b rest)
  | .resetting b =>
    if result then (s.update b fun x => { x with connected := false }).goto (.unverifying b)
    else s.goto .draining
  | .unverifying b => (s.update b fun x => { x with verified := false }).goto .draining
  | .exited => s

/-! ## The UI thread -/

def BusWorker.uiStep (s : BusWorker) : BusWorker :=
  match s.ui with
  | .idle => s
  | .reading b => { s with ui := if (s.session b).connected then .idle else .clearing b }
  | .clearing b => { s.update b fun x => { x with abortConnect := false } with ui := .claiming b }
  | .claiming b =>
    { s.update b fun x => { x with connecting := true } with ui := .pushingConnect b }
  | .pushingConnect b => { s.push (.connect b) with ui := .idle }
  | .flagged b => { s with ui := if (s.session b).connecting then .idle else .dropping b }
  | .dropping b =>
    { s.update b fun x => { x with connected := false } with ui := .pushingDisconnect b }
  | .pushingDisconnect b => { s.push (.disconnect b) with ui := .idle }

/-- The clicks, and the other things that come from outside. -/
inductive Act where
  | worker (result : Bool)
  | ui
  | connect (b : BoardId) (portEmpty : Bool)
  | disconnect (b : BoardId)
  | abort (b : BoardId)
  | command (b : BoardId) (isReset : Bool)
  | attach (b : BoardId)
  | quit
  deriving DecidableEq, Repr

/-- A click comes when the UI thread is done with the one before; each board in the list has a
dashboard to click on. -/
def BusWorker.click (s : BusWorker) : Act → BusWorker
  | .connect b portEmpty =>
    if b ∉ s.boards ∨ portEmpty ∨ (s.session b).connecting then s else { s with ui := .reading b }
  | .disconnect b =>
    if b ∉ s.boards then s
    else { s.update b fun x => { x with abortConnect := true } with ui := .flagged b }
  | .abort b =>
    if b ∉ s.boards then s else s.update b fun x => { x with abortConnect := true }
  | .command b isReset =>
    if b ∉ s.boards then s else s.push (if isReset then .reset b else .other)
  | .attach b =>
    if b ∈ s.boards then s
    else { (s.update b fun _ => {}).push (.attach b) with boards := s.boards ++ [b] }
  | _ => s

def step (s : BusWorker) : Act → BusWorker
  | .worker result => s.workerStep result
  | .ui => s.uiStep
  | .quit => { s with running := false }
  | act => if s.ui = .idle then s.click act else s

/-- `buildRuntime` for one bus. -/
def built (autoConnectAll : Bool) (boards : List BoardId) : BusWorker where
  boards := boards
  session _ := {}
  isOpen := false
  workQueue := []
  place := if autoConnectAll then .starting else .top
  ui := .idle
  running := true

/-- A bus that a hot attach makes, before its first board. -/
def spawned (isOpen : Bool) : BusWorker := { built false [] with isOpen := isOpen }

inductive Started : BusWorker → Prop where
  | built (autoConnectAll : Bool) {boards : List BoardId} (h : boards.Nodup) :
    Started (built autoConnectAll boards)
  | spawned (isOpen : Bool) : Started (spawned isOpen)

/-! ## What is to be done with the boards -/

/-- An attempt to connect a board, or its disconnection. -/
structure Task where
  board : BoardId
  attempt : Bool
  deriving DecidableEq, Repr

def Item.task : Item → Option Task
  | .connect b | .attach b => some ⟨b, true⟩
  | .disconnect b => some ⟨b, false⟩
  | .reset _ | .other => none

def Place.tasks : Place → List Task
  | .sweeping _ rest => rest.map (⟨·, true⟩)
  | .attempting (.sweep _ rest) b _ => ⟨b, true⟩ :: rest.map (⟨·, true⟩)
  | .attempting _ b _ => [⟨b, true⟩]
  | .detaching b | .closing b _ => [⟨b, false⟩]
  | _ => []

def Ui.tasks : Ui → List Task
  | .clearing b | .claiming b | .pushingConnect b => [⟨b, true⟩]
  | .pushingDisconnect b => [⟨b, false⟩]
  | _ => []

/-- The board whose dashboard the UI thread is at. -/
def Ui.board : Ui → Option BoardId
  | .idle => none
  | .reading b | .clearing b | .claiming b | .pushingConnect b | .flagged b | .dropping b
  | .pushingDisconnect b => some b

/-- Everything that has been begun or is going to be, in its order. -/
def BusWorker.tasks (s : BusWorker) : List Task :=
  s.place.tasks ++ (s.workQueue.filterMap Item.task ++ s.ui.tasks)

/-- The boards that the start sweep has yet to come to, or that a hot attach is at. -/
def Place.awaiting : Place → List BoardId
  | .sweeping _ rest => rest
  | .attempting (.sweep _ rest) b .begin => b :: rest
  | .attempting (.sweep _ rest) _ _ => rest
  | .attempting .attach b _ => [b]
  | _ => []

/-- The start sweep or a hot attach has yet to come to the board, or to leave it. -/
def BusWorker.Awaits (s : BusWorker) (b : BoardId) : Prop :=
  s.place = .starting ∨ b ∈ s.place.awaiting ∨ .attach b ∈ s.workQueue

instance (s : BusWorker) (b : BoardId) : Decidable (s.Awaits b) :=
  inferInstanceAs (Decidable (_ ∨ _ ∨ _))

/-- The user leaves a board alone until the start sweep, or its hot attach, has come to it, and
attaches none before the sweep has begun. -/
def Orderly (s : BusWorker) : Act → Prop
  | .connect b _ | .disconnect b => ¬ s.Awaits b
  | .attach _ => s.place ≠ .starting
  | _ => True

instance (s : BusWorker) : ∀ act, Decidable (Orderly s act)
  | .connect _ _ | .disconnect _ | .attach _ => inferInstanceAs (Decidable (¬ _))
  | .worker _ | .ui | .abort _ | .command _ _ | .quit => isTrue trivial

/-! ## The invariant -/

/-- After an attempt on a board nothing else waits for the board. -/
def Clear (x y : Task) : Prop := x.attempt → y.board ≠ x.board

/-- An attempt of a click has claimed its board, and so has the sweep. -/
def BusWorker.Claimed (s : BusWorker) (b : BoardId) : Prop :=
  .connect b ∈ s.workQueue ∨ s.ui = .pushingConnect b ∨
    (∃ stage, s.place = .attempting .connect b stage) ∨
    ∃ busOk rest stage, s.place = .attempting (.sweep busOk rest) b stage ∧ stage ≠ .begin

/-- What an attempt has made sure of. -/
def Stage.Ready (x : BoardSession) (isOpen : Bool) : Stage → Prop
  | .begin | .opening | .verifying _ | .ending => True
  | .checking ok | .leaving ok => ok → x.verified ∧ isOpen
  | .scanning | .judging => x.verified ∧ isOpen
  | .publishing ok => ok → x.verified ∧ isOpen ∧ x.allChannelsLoaded

structure Kept (s : BusWorker) : Prop where
  order : s.tasks.Pairwise Clear
  known {t : Task} (h : t ∈ s.tasks) : t.board ∈ s.boards
  start (h : s.place = .starting) : s.tasks = [] ∧ s.boards.Nodup ∧ s.ui = .idle ∧
    ∀ b, ¬ (s.session b).connected
  connecting (b : BoardId) : (s.session b).connecting ↔ s.Claimed b
  connected {b : BoardId} (h : (s.session b).connected) :
    b ∈ s.boards ∧ s.isOpen ∧ (s.session b).verified ∧ (s.session b).allChannelsLoaded
  /-- A board that is connected has nothing to wait for but the end of its attempt. -/
  done {b : BoardId} (h : (s.session b).connected) {t : Task} (ht : t ∈ s.tasks)
    (htb : t.board = b) : ∃ o, s.place = .attempting o b .ending
  stage {o : Origin} {b : BoardId} {stage : Stage} (h : s.place = .attempting o b stage) :
    stage.Ready (s.session b) s.isOpen
  closing {b c : BoardId} {rest : List BoardId} (h : s.place = .closing b rest)
    (hc : (s.session c).connected) : c ∈ rest
  unverifying {b : BoardId} (h : s.place = .unverifying b) : ¬ (s.session b).connected
  dashboard {b : BoardId} (h : s.ui.board = some b) : b ∈ s.boards
  flagged {b : BoardId} (h : s.ui = .flagged b) : ¬ s.Awaits b
  free {b : BoardId} (h : s.ui = .reading b ∨ s.ui = .dropping b) : ⟨b, true⟩ ∉ s.tasks

/-! ## Small facts -/

variable {s : BusWorker} {b c : BoardId} {f : BoardSession → BoardSession}

@[simp] theorem update_session_self : (s.update b f).session b = f (s.session b) :=
  Function.update_self ..

theorem update_session_ne (h : c ≠ b) : (s.update b f).session c = s.session c :=
  Function.update_of_ne h ..

theorem update_self : s.update b id = s := by
  simp [BusWorker.update]

theorem mem_attempting (o : Origin) (b : BoardId) (stage : Stage) :
    ⟨b, true⟩ ∈ (Place.attempting o b stage).tasks := by
  cases o <;> exact List.mem_cons_self

theorem tasks_attempting (o : Origin) (b : BoardId) (stage stage' : Stage) :
    (Place.attempting o b stage).tasks = (Place.attempting o b stage').tasks := by
  cases o <;> rfl

/-- An attempt that goes on does not wait for more boards. -/
theorem awaiting_attempting {o : Origin} {stage stage' : Stage} (hbegin : stage' ≠ .begin)
    (hc : c ∈ (Place.attempting o b stage').awaiting) :
    c ∈ (Place.attempting o b stage).awaiting := by
  cases o with
  | sweep busOk rest =>
    have hrest : c ∈ rest := by
      cases stage' with
      | begin => exact absurd rfl hbegin
      | _ => exact hc
    cases stage with
    | begin => exact List.mem_cons_of_mem b hrest
    | _ => exact hrest
  | attach => exact hc
  | connect => exact hc

theorem claimed_mem_tasks (h : s.Claimed b) : ⟨b, true⟩ ∈ s.tasks := by
  rcases h with hqueue | hui | ⟨stage, hp⟩ | ⟨busOk, rest, stage, hp, -⟩
  · exact List.mem_append_right _
      (List.mem_append_left _ (List.mem_filterMap.mpr ⟨_, hqueue, rfl⟩))
  · refine List.mem_append_right _ (List.mem_append_right _ ?_)
    rw [hui]
    exact List.mem_singleton.mpr rfl
  · refine List.mem_append_left _ ?_
    rw [hp]
    exact mem_attempting _ b stage
  · refine List.mem_append_left _ ?_
    rw [hp]
    exact mem_attempting _ b stage

/-- A board that is waited for after a move was so before, if the place it left waits for what the
new one does. -/
theorem awaits_goto (place : Place) (hstart : place ≠ .starting)
    (hawaiting : c ∈ place.awaiting → c ∈ s.place.awaiting) (h : (s.goto place).Awaits c) :
    s.Awaits c := by
  rcases h with hp | hc | hqueue
  · exact absurd hp hstart
  · exact .inr (.inl (hawaiting hc))
  · exact .inr (.inr hqueue)

/-- An attempt is waited for, or has claimed its board, or is about to be queued. -/
theorem awaits_or_claimed (h : ⟨b, true⟩ ∈ s.tasks) :
    s.Awaits b ∨ s.Claimed b ∨ s.ui = .clearing b ∨ s.ui = .claiming b := by
  unfold BusWorker.tasks at h
  rcases List.mem_append.mp h with hplace | h
  · cases hp : s.place with
    | attempting o b' stage =>
      rw [hp] at hplace
      cases o with
      | sweep busOk rest =>
        have hb : b = b' ∨ b ∈ rest := by simpa [Place.tasks] using hplace
        rcases hb with rfl | hb
        · by_cases hstage : stage = .begin
          · subst hstage
            exact .inl (.inr (.inl (by simp [hp, Place.awaiting])))
          · exact .inr (.inl (.inr (.inr (.inr ⟨busOk, rest, stage, hp, hstage⟩))))
        · refine .inl (.inr (.inl ?_))
          rw [hp]
          cases stage
          case begin => exact List.mem_cons_of_mem b' hb
          all_goals exact hb
      | attach =>
        obtain rfl : b = b' := by simpa [Place.tasks] using hplace
        exact .inl (.inr (.inl (by simp [hp, Place.awaiting])))
      | connect =>
        obtain rfl : b = b' := by simpa [Place.tasks] using hplace
        exact .inr (.inl (.inr (.inr (.inl ⟨stage, hp⟩))))
    | sweeping busOk rest =>
      rw [hp] at hplace
      exact .inl (.inr (.inl (by simpa [hp, Place.tasks, Place.awaiting] using hplace)))
    | detaching b' => simp [hp, Place.tasks] at hplace
    | closing b' rest => simp [hp, Place.tasks] at hplace
    | _ => simp [hp, Place.tasks] at hplace
  · rcases List.mem_append.mp h with hqueue | hui
    · obtain ⟨item, hitem, htask⟩ := List.mem_filterMap.mp hqueue
      cases item with
      | connect b' =>
        obtain rfl : b' = b := by simpa [Item.task] using htask
        exact .inr (.inl (.inl hitem))
      | attach b' =>
        obtain rfl : b' = b := by simpa [Item.task] using htask
        exact .inl (.inr (.inr hitem))
      | _ => simp [Item.task] at htask
    · cases hu : s.ui with
      | clearing b' => simp_all [Ui.tasks]
      | claiming b' => simp_all [Ui.tasks]
      | pushingConnect b' =>
        obtain rfl : b = b' := by simpa [hu, Ui.tasks] using hui
        exact .inr (.inl (.inr (.inl hu)))
      | _ => simp [hu, Ui.tasks] at hui

/-! ## Steps of an attempt -/

section Attempt

variable (h : Kept s) {o : Origin} {stage stage' : Stage}
  (hplace : s.place = .attempting o b stage)

include h hplace

omit h in
theorem mem_place : ⟨b, true⟩ ∈ s.tasks :=
  List.mem_append_left _ (hplace ▸ mem_attempting o b stage)

theorem Kept.not_connected (hstage : stage ≠ .ending) : ¬ (s.session b).connected := by
  intro hconnected
  obtain ⟨o', hending⟩ := h.done hconnected (mem_place hplace) rfl
  rw [hplace] at hending
  cases hending
  exact hstage rfl

/-- An attempt that goes on. -/
theorem Kept.advance {isOpen : Bool} (hbegin : stage' ≠ .begin) (hopen : s.isOpen → isOpen)
    (hready : stage'.Ready (f (s.session b)) isOpen)
    (hconnecting : (f (s.session b)).connecting ↔ (s.session b).connecting ∨
      stage = .begin ∧ ∃ busOk rest, o = .sweep busOk rest)
    (hconnected : (f (s.session b)).connected → stage' = .ending ∧ isOpen ∧
      (f (s.session b)).verified ∧ (f (s.session b)).allChannelsLoaded) :
    Kept { s.update b f with isOpen := isOpen, place := .attempting o b stage' } := by
  have htasks : BusWorker.tasks
      { s.update b f with isOpen := isOpen, place := .attempting o b stage' } = s.tasks := by
    simp only [BusWorker.tasks, hplace, BusWorker.update, tasks_attempting o b stage' stage]
  have hmem := mem_place hplace
  have hother {c : BoardId} (hc : c ≠ b) (hconnected : (s.session c).connected) {t : Task}
      (ht : t ∈ s.tasks) : t.board ≠ c := by
    intro htb
    obtain ⟨o', hending⟩ := h.done hconnected ht htb
    rw [hplace] at hending
    cases hending
    exact hc rfl
  have hsession {c : BoardId} (hc : c ≠ b) :
      Function.update s.session b (f (s.session b)) c = s.session c := update_session_ne hc
  constructor
  case order => rw [htasks]; exact h.order
  case known =>
    intro t ht
    exact h.known (htasks ▸ ht)
  case start => nofun
  case connecting =>
    intro c
    have hclaimed : BusWorker.Claimed
        { s.update b f with isOpen := isOpen, place := .attempting o b stage' } c ↔
        s.Claimed c ∨ c = b ∧ stage = .begin ∧ ∃ busOk rest, o = .sweep busOk rest := by
      cases o <;> simp only [BusWorker.Claimed, BusWorker.update, hplace] <;> grind
    rw [hclaimed]
    by_cases hcb : c = b
    · subst hcb
      simp only [update_session_self, hconnecting, h.connecting, true_and]
    · simp only [BusWorker.update, hsession hcb, h.connecting, hcb, false_and, or_false]
  case connected =>
    intro c hc
    by_cases hcb : c = b
    · subst hcb
      simp only [update_session_self] at hc ⊢
      exact ⟨h.known hmem, (hconnected hc).2⟩
    · simp only [BusWorker.update, hsession hcb] at hc ⊢
      obtain ⟨hboards, hisOpen, hrest⟩ := h.connected hc
      exact ⟨hboards, hopen hisOpen, hrest⟩
  case done =>
    intro c hc t ht htb
    rw [htasks] at ht
    by_cases hcb : c = b
    · subst hcb
      simp only [update_session_self] at hc
      exact ⟨o, by rw [(hconnected hc).1]⟩
    · simp only [BusWorker.update, hsession hcb] at hc
      exact absurd htb (hother hcb hc ht)
  case stage =>
    intro o' c st hp
    cases hp
    simpa only [update_session_self] using hready
  case closing => nofun
  case unverifying => nofun
  case dashboard =>
    intro c hui
    exact h.dashboard hui
  case flagged =>
    intro c hui hawaits
    refine h.flagged hui (awaits_goto (.attempting o b stage') nofun (fun hc => ?_) hawaits)
    rw [hplace]
    exact awaiting_attempting hbegin hc
  case free =>
    intro c hui
    rw [htasks]
    exact h.free hui

/-- Where the bus thread goes after an attempt. -/
def Origin.next : Origin → Place
  | .sweep busOk rest => .sweeping busOk rest
  | .attach | .connect => .draining

omit h hplace in
theorem awaiting_next {c : BoardId} (hc : c ∈ o.next.awaiting) :
    c ∈ (Place.attempting o b stage).awaiting := by
  cases o with
  | sweep busOk rest =>
    cases stage with
    | begin => exact List.mem_cons_of_mem b hc
    | _ => exact hc
  | attach => cases hc
  | connect => cases hc

omit h in
theorem tasks_next : s.tasks = ⟨b, true⟩ :: (s.goto o.next).tasks := by
  unfold BusWorker.tasks
  rw [hplace]
  cases o <;> rfl

/-- Nothing that comes after an attempt is about its board. -/
theorem Kept.clear {t : Task} (ht : t ∈ (s.goto o.next).tasks) : t.board ≠ b := by
  have horder := h.order
  rw [tasks_next hplace] at horder
  exact (List.pairwise_cons.mp horder).1 t ht rfl

theorem Kept.not_claimed_next : ¬ (s.goto o.next).Claimed b :=
  fun hclaimed => h.clear hplace (claimed_mem_tasks hclaimed) rfl

/-- The end of an attempt. -/
theorem Kept.finish (hf : ∀ x, f x = { x with connecting := (f x).connecting })
    (hconnecting : (f (s.session b)).connecting = false) :
    Kept ((s.update b f).goto o.next) := by
  have htasks : ((s.update b f).goto o.next).tasks = (s.goto o.next).tasks := rfl
  have hmem {t : Task} (ht : t ∈ (s.goto o.next).tasks) : t ∈ s.tasks := by
    rw [tasks_next hplace]
    exact List.mem_cons_of_mem _ ht
  have hconnected (c : BoardId) :
      (((s.update b f).goto o.next).session c).connected = (s.session c).connected := by
    by_cases hcb : c = b
    · subst hcb
      rw [BusWorker.goto, update_session_self, hf]
    · exact congrArg BoardSession.connected (update_session_ne hcb)
  constructor
  case order =>
    have horder := h.order
    rw [tasks_next hplace] at horder
    exact horder.of_cons
  case known =>
    intro t ht
    exact h.known (hmem ht)
  case start => cases o <;> nofun
  case connecting =>
    intro c
    by_cases hcb : c = b
    · subst hcb
      have hnot := h.not_claimed_next hplace
      rw [BusWorker.goto, update_session_self, hconnecting]
      exact ⟨nofun, fun hclaimed => absurd hclaimed hnot⟩
    · have hsame : ((s.update b f).goto o.next).session c = s.session c := update_session_ne hcb
      rw [hsame, h.connecting]
      cases o <;> simp only [BusWorker.Claimed, BusWorker.update, BusWorker.goto, hplace,
        Origin.next] <;> grind
  case connected =>
    intro c hc
    rw [hconnected] at hc
    obtain ⟨hboards, hisOpen, hverified, hloaded⟩ := h.connected hc
    refine ⟨hboards, hisOpen, ?_⟩
    by_cases hcb : c = b
    · subst hcb
      rw [BusWorker.goto, update_session_self, hf]
      exact ⟨hverified, hloaded⟩
    · have hsame : ((s.update b f).goto o.next).session c = s.session c := update_session_ne hcb
      rw [hsame]
      exact ⟨hverified, hloaded⟩
  case done =>
    intro c hc t ht htb
    rw [hconnected] at hc
    obtain ⟨o', hending⟩ := h.done hc (hmem ht) htb
    rw [hplace] at hending
    cases hending
    exact absurd htb (h.clear hplace ht)
  case stage => cases o <;> nofun
  case closing => cases o <;> nofun
  case unverifying => cases o <;> nofun
  case dashboard =>
    intro c hui
    exact h.dashboard hui
  case flagged =>
    intro c hui hawaits
    have hstart : o.next ≠ .starting := by cases o <;> nofun
    refine h.flagged hui (awaits_goto o.next hstart (fun hc => ?_) hawaits)
    rw [hplace]
    exact awaiting_next hc
  case free =>
    intro c hui hc
    exact h.free hui (hmem hc)

/-- An attempt that goes on and leaves its board. -/
theorem Kept.goto_stage (hbegin : stage' ≠ .begin) (hready : stage'.Ready (s.session b) s.isOpen)
    (hstage : stage = .begin → ∀ busOk rest, o ≠ .sweep busOk rest) (hnot : stage ≠ .ending) :
    Kept (s.goto (.attempting o b stage')) := by
  have hadvance := h.advance hplace (f := id) hbegin id hready
    ⟨.inl, fun hc => hc.elim id fun ⟨hst, busOk, rest, ho⟩ => absurd ho (hstage hst busOk rest)⟩
    fun hc => absurd hc (h.not_connected hplace hnot)
  rwa [update_self] at hadvance

end Attempt

/-- Each step of an attempt. -/
theorem kept_attempt (h : Kept s) {o : Origin} {stage : Stage}
    (hplace : s.place = .attempting o b stage) (result : Bool) :
    Kept (s.attempt result o b stage) := by
  have hready := h.stage hplace
  cases stage with
  | begin =>
    cases o with
    | connect =>
      have hnot := h.not_connected hplace nofun
      exact h.advance hplace nofun id trivial (by simp) fun hc => absurd hc hnot
    | sweep busOk rest =>
      have hnot := h.not_connected hplace nofun
      exact h.advance hplace nofun id trivial (by simp) fun hc => absurd hc hnot
    | attach => exact h.goto_stage hplace nofun trivial (fun _ _ _ => nofun) nofun
  | opening =>
    simp only [BusWorker.attempt]
    split
    next => exact h.goto_stage hplace nofun trivial nofun nofun
    next hclosed =>
      have hnot := h.not_connected hplace nofun
      have hadvance : Kept { s.update b id with
          isOpen := result, place := .attempting o b (.verifying result) } :=
        h.advance hplace nofun (fun hopen => absurd hopen hclosed) trivial (by simp)
          fun hc => absurd hc hnot
      rwa [update_self] at hadvance
  | verifying ok =>
    simp only [BusWorker.attempt]
    split
    next =>
      have hnot := h.not_connected hplace nofun
      refine h.advance hplace nofun id ?_ (by simp) fun hc => absurd hc hnot
      intro hok
      exact ⟨hok, (Bool.and_eq_true_iff.mp hok).2⟩
    next => exact h.goto_stage hplace nofun nofun nofun nofun
  | checking ok =>
    refine h.goto_stage hplace nofun (fun hok => ?_) nofun nofun
    exact hready (Bool.and_eq_true_iff.mp hok).1
  | leaving ok =>
    simp only [BusWorker.attempt]
    split
    next hquit =>
      obtain ⟨rfl, -⟩ := hquit
      exact h.finish hplace (fun _ => rfl) rfl
    next =>
      cases ok with
      | true => exact h.goto_stage hplace nofun (hready rfl) nofun nofun
      | false => exact h.goto_stage hplace nofun nofun nofun nofun
  | scanning =>
    have hnot := h.not_connected hplace nofun
    exact h.advance hplace nofun id hready (by simp) fun hc => absurd hc hnot
  | judging =>
    refine h.goto_stage hplace nofun (fun hok => ?_) nofun nofun
    exact ⟨hready.1, hready.2, (Bool.and_eq_true_iff.mp hok).1⟩
  | publishing ok =>
    refine h.advance hplace nofun id trivial (by simp) fun hc => ?_
    obtain ⟨hverified, hopen, hloaded⟩ := hready hc
    exact ⟨rfl, hopen, hverified, hloaded⟩
  | ending =>
    cases o with
    | connect => exact h.finish hplace (fun _ => rfl) rfl
    | sweep busOk rest => exact h.finish hplace (fun _ => rfl) rfl
    | attach =>
      have hclaimed : ¬ s.Claimed b := by
        rintro (hqueue | hui | ⟨_, hp⟩ | ⟨_, _, _, hp, -⟩)
        · exact h.not_claimed_next hplace (.inl hqueue)
        · exact h.not_claimed_next hplace (.inr (.inl hui))
        · cases hplace.symm.trans hp
        · cases hplace.symm.trans hp
      have hfalse : (s.session b).connecting = false :=
        Bool.eq_false_iff.mpr (mt (h.connecting b).mp hclaimed)
      have hfinish := h.finish hplace (f := id) (fun _ => rfl) hfalse
      rwa [update_self] at hfinish

/-! ## Steps between attempts -/

/-- A step from one place that is not in an attempt to another. -/
structure Moves (s : BusWorker) (isOpen : Bool) (workQueue : List Item) (place : Place) :
    Prop where
  tasks : BusWorker.tasks { s with workQueue := workQueue, place := place } <:+ s.tasks
  claimed (c : BoardId) :
    BusWorker.Claimed { s with workQueue := workQueue, place := place } c ↔ s.Claimed c
  awaits {c : BoardId} (h : BusWorker.Awaits { s with workQueue := workQueue, place := place } c) :
    s.Awaits c
  isOpen {c : BoardId} (h : (s.session c).connected) : isOpen
  start : place ≠ .starting
  ending (o : Origin) (c : BoardId) : s.place ≠ .attempting o c .ending
  stage {o : Origin} {c : BoardId} {stage : Stage} (h : place = .attempting o c stage) :
    stage = .begin

theorem Kept.move (h : Kept s) {isOpen : Bool} {workQueue : List Item} {place : Place}
    (hmoves : Moves s isOpen workQueue place)
    (hconnecting : (f (s.session b)).connecting = (s.session b).connecting)
    (hconnected : (f (s.session b)).connected → f (s.session b) = s.session b)
    (hclosing : ∀ {c rest x}, place = .closing c rest → (s.session x).connected → x ∈ rest)
    (hunverifying : ∀ {c}, place = .unverifying c → c = b ∧ (f (s.session b)).connected = false) :
    Kept { s.update b f with isOpen := isOpen, workQueue := workQueue, place := place } := by
  have hsession {c : BoardId} (hc : ((s.update b f).session c).connected) :
      (s.update b f).session c = s.session c := by
    by_cases hcb : c = b
    · subst hcb
      rw [update_session_self] at hc ⊢
      exact hconnected hc
    · exact update_session_ne hcb
  have hdone {c : BoardId} (hc : (s.session c).connected) {t : Task} (ht : t ∈ s.tasks) :
      t.board ≠ c := by
    intro htb
    obtain ⟨o, hending⟩ := h.done hc ht htb
    exact hmoves.ending o c hending
  constructor
  case order => exact h.order.sublist hmoves.tasks.sublist
  case known =>
    intro t ht
    exact h.known (hmoves.tasks.subset ht)
  case start =>
    intro hp
    exact absurd hp hmoves.start
  case connecting =>
    intro c
    refine Iff.trans ?_ ((h.connecting c).trans (hmoves.claimed c).symm)
    by_cases hcb : c = b
    · subst hcb
      rw [update_session_self, hconnecting]
    · exact iff_of_eq (congrArg (·.connecting = true) (update_session_ne hcb))
  case connected =>
    intro c hc
    have hsame := hsession hc
    simp only [hsame] at hc ⊢
    obtain ⟨hboards, -, hrest⟩ := h.connected hc
    exact ⟨hboards, hmoves.isOpen hc, hrest⟩
  case done =>
    intro c hc t ht htb
    have hsame := hsession hc
    simp only [hsame] at hc
    exact absurd htb (hdone hc (hmoves.tasks.subset ht))
  case stage =>
    intro o c stage hp
    rw [hmoves.stage hp]
    trivial
  case closing =>
    intro c x rest hp hx
    have hsame := hsession hx
    simp only [hsame] at hx
    exact hclosing hp hx
  case unverifying =>
    intro c hp
    obtain ⟨rfl, hfalse⟩ := hunverifying hp
    rw [update_session_self, hfalse]
    exact Bool.false_ne_true
  case dashboard =>
    intro c hui
    exact h.dashboard hui
  case flagged =>
    intro c hui hawaits
    exact h.flagged hui (hmoves.awaits hawaits)
  case free =>
    intro c hui hmem
    exact h.free hui (hmoves.tasks.subset hmem)

/-- A step that neither comes from an attempt nor begins one. -/
theorem moves_calm {isOpen : Bool} {place : Place}
    (hfrom : ∀ o c stage, s.place ≠ .attempting o c stage)
    (hto : ∀ o c stage, place ≠ .attempting o c stage) (hstart : place ≠ .starting)
    (hsweep : ∀ busOk rest, place ≠ .sweeping busOk rest) (htasks : place.tasks <:+ s.place.tasks)
    (hopen : ∀ c, (s.session c).connected → isOpen) : Moves s isOpen s.workQueue place where
  tasks := by
    obtain ⟨front, hfront⟩ := htasks
    exact ⟨front, by simp only [BusWorker.tasks, ← hfront, List.append_assoc]⟩
  claimed c := by simp [BusWorker.Claimed, hfrom, hto]
  awaits := by
    refine awaits_goto place hstart fun hc => ?_
    cases place with
    | sweeping busOk rest => exact absurd rfl (hsweep busOk rest)
    | attempting o b stage => exact absurd rfl (hto o b stage)
    | _ => cases hc
  isOpen hc := hopen _ hc
  start := hstart
  ending o c := hfrom o c .ending
  stage hp := absurd hp (hto _ _ _)

theorem moves_sweep (h : Kept s) {busOk : Bool} {rest : List BoardId}
    (hplace : s.place = .sweeping busOk (b :: rest)) :
    Moves s s.isOpen s.workQueue (.attempting (.sweep busOk rest) b .begin) where
  tasks := by
    refine ⟨[], ?_⟩
    simp only [BusWorker.tasks, hplace]
    rfl
  claimed c := by simp [BusWorker.Claimed, hplace]
  awaits := by
    refine awaits_goto (.attempting (.sweep busOk rest) b .begin) nofun fun hc => ?_
    rw [hplace]
    exact hc
  isOpen hc := (h.connected hc).2.1
  start := nofun
  ending o c hp := by rw [hplace] at hp; cases hp
  stage hp := by cases hp; rfl

theorem moves_pop (h : Kept s) {item : Item} {rest : List Item} (hplace : s.place = .draining)
    (hqueue : s.workQueue = item :: rest) : Moves s s.isOpen rest item.start where
  tasks := by
    refine ⟨[], ?_⟩
    simp only [BusWorker.tasks, hplace, hqueue]
    cases item <;> rfl
  claimed c := by
    cases item with
    | connect b =>
      simp only [BusWorker.Claimed, hplace, hqueue, Item.start, List.mem_cons]
      simp [eq_comm]
      grind
    | _ => simp [BusWorker.Claimed, hplace, hqueue, Item.start]
  awaits := by
    intro c hc
    cases item <;> simp_all [BusWorker.Awaits, Item.start, Place.awaiting]
  isOpen hc := (h.connected hc).2.1
  start := by cases item <;> nofun
  ending o c hp := by rw [hplace] at hp; cases hp
  stage hp := by cases item <;> cases hp <;> rfl

theorem Kept.goto (h : Kept s) {place : Place} (hmoves : Moves s s.isOpen s.workQueue place)
    (hclosing : ∀ {c rest x}, place = .closing c rest → (s.session x).connected → x ∈ rest)
    (hunverifying : ∀ c, place ≠ .unverifying c) : Kept (s.goto place) := by
  have hmove := h.move (f := id) (b := 0) hmoves rfl (fun _ => rfl) hclosing
    fun hp => absurd hp (hunverifying _)
  rwa [update_self] at hmove

/-- The bus thread has nothing in hand any more. -/
theorem Kept.rest (h : Kept s) (hfrom : ∀ o c stage, s.place ≠ .attempting o c stage)
    {place : Place} (hplace : place = .top ∨ place = .draining ∨ place = .exited) :
    Kept (s.goto place) := by
  have hopen (c : BoardId) (hc : (s.session c).connected) : s.isOpen := (h.connected hc).2.1
  rcases hplace with rfl | rfl | rfl
  all_goals exact h.goto (moves_calm hfrom nofun nofun nofun List.nil_suffix hopen) nofun nofun

/-- The start sweep finds a bus with no tasks, and takes all of its boards. -/
theorem kept_sweep (h : Kept s) (hplace : s.place = .starting) (result : Bool) :
    Kept { s with isOpen := result, place := .sweeping result s.boards } := by
  obtain ⟨hnone, hnodup, hidle, hconnected⟩ := h.start hplace
  have hempty : s.workQueue.filterMap Item.task ++ s.ui.tasks = [] := by
    simpa only [BusWorker.tasks, hplace, Place.tasks, List.nil_append] using hnone
  have htasks : BusWorker.tasks { s with isOpen := result, place := .sweeping result s.boards } =
      s.boards.map (⟨·, true⟩) := by
    simp only [BusWorker.tasks, Place.tasks, hempty, List.append_nil]
  constructor
  case order =>
    rw [htasks, List.pairwise_map]
    exact hnodup.imp fun hne _ => hne.symm
  case known =>
    intro t ht
    rw [htasks] at ht
    obtain ⟨b, hb, rfl⟩ := List.mem_map.mp ht
    exact hb
  case start => nofun
  case connecting =>
    intro c
    rw [h.connecting]
    simp [BusWorker.Claimed, hplace]
  case connected =>
    intro c hc
    exact absurd hc (hconnected c)
  case done =>
    intro c hc
    exact absurd hc (hconnected c)
  case stage => nofun
  case closing => nofun
  case unverifying => nofun
  case dashboard =>
    intro c hui
    exact h.dashboard hui
  case flagged =>
    intro c hui
    cases hidle.symm.trans hui
  case free =>
    intro c hui
    rcases hui with hui | hui <;> cases hidle.symm.trans hui

theorem kept_workerStep (h : Kept s) (result : Bool) : Kept (s.workerStep result) := by
  unfold BusWorker.workerStep
  have hopen (c : BoardId) (hc : (s.session c).connected) : s.isOpen := (h.connected hc).2.1
  -- outside of the attempts no board that has a task is connected
  have hdone {t : Task} (ht : t ∈ s.tasks)
      (hending : ∀ o, s.place ≠ .attempting o t.board .ending) :
      ¬ (s.session t.board).connected := by
    intro hc
    obtain ⟨o, hp⟩ := h.done hc ht rfl
    exact hending o hp
  split
  next hplace =>
    split
    next => exact h.rest (by simp [hplace]) (.inl rfl)
    next => exact kept_sweep h hplace result
  next hplace => exact h.rest (by simp [hplace]) (.inl rfl)
  next hplace => exact h.goto (moves_sweep h hplace) nofun nofun
  next hplace =>
    cases s.running with
    | true => exact h.rest (by simp [hplace]) (.inr (.inl rfl))
    | false => exact h.rest (by simp [hplace]) (.inr (.inr rfl))
  next hplace =>
    split
    next => exact h.rest (by simp [hplace]) (.inl rfl)
    next item rest hqueue =>
      have hmove := h.move (f := id) (b := 0) (moves_pop h hplace hqueue) rfl (fun _ => rfl)
        (by cases item <;> nofun) (by cases item <;> nofun)
      rwa [update_self] at hmove
  next hplace => exact kept_attempt h hplace result
  next b hplace =>
    have hmem : ⟨b, false⟩ ∈ s.tasks := List.mem_append_left _ (by simp [hplace, Place.tasks])
    have hmoves : Moves s s.isOpen s.workQueue (.closing b s.boards) :=
      moves_calm (by simp [hplace]) nofun nofun nofun (by simp [hplace, Place.tasks]) hopen
    refine h.move (b := b) hmoves rfl (fun hc => absurd hc (hdone hmem (by simp [hplace]))) ?_ nofun
    rintro _ _ x hp hx
    cases hp
    exact (h.connected hx).1
  next b hplace =>
    -- every board has been looked at
    have hmoves : Moves s false s.workQueue .draining :=
      moves_calm (by simp [hplace]) nofun nofun nofun List.nil_suffix
        fun c hc => absurd (h.closing hplace hc) List.not_mem_nil
    have hmove := h.move (f := id) (b := 0) hmoves rfl (fun _ => rfl) nofun nofun
    rwa [update_self] at hmove
  next b x rest hplace =>
    have hmem : ⟨b, false⟩ ∈ s.tasks := List.mem_append_left _ (by simp [hplace, Place.tasks])
    split
    next => exact h.rest (by simp [hplace]) (.inr (.inl rfl))
    next hnone =>
      have hmoves : Moves s s.isOpen s.workQueue (.closing b rest) :=
        moves_calm (by simp [hplace]) nofun nofun nofun (by simp [hplace, Place.tasks]) hopen
      refine h.goto hmoves ?_ nofun
      rintro _ _ c hp hc
      cases hp
      refine (List.mem_cons.mp (h.closing hplace hc)).resolve_left ?_
      rintro rfl
      by_cases hcb : c = b
      · subst hcb
        exact hdone hmem (by simp [hplace]) hc
      · exact hnone ⟨hcb, hc⟩
  next b hplace =>
    split
    next =>
      have hmoves : Moves s s.isOpen s.workQueue (.unverifying b) :=
        moves_calm (by simp [hplace]) nofun nofun nofun List.nil_suffix hopen
      refine h.move hmoves rfl nofun nofun fun hp => ?_
      cases hp
      exact ⟨rfl, rfl⟩
    next => exact h.rest (by simp [hplace]) (.inr (.inl rfl))
  next b hplace =>
    have hmoves : Moves s s.isOpen s.workQueue .draining :=
      moves_calm (by simp [hplace]) nofun nofun nofun List.nil_suffix hopen
    exact h.move hmoves rfl (fun hc => absurd hc (h.unverifying hplace)) nofun nofun
  next => exact h

/-! ## Steps of the UI thread -/

/-- A step of the UI thread, with what it adds to the tasks. -/
structure UiMoves (s s' : BusWorker) (added : List Task) : Prop where
  place : s'.place = s.place
  isOpen : s'.isOpen = s.isOpen
  boards : s.boards ⊆ s'.boards
  tasks : s'.tasks = s.tasks ++ added
  single : added.length ≤ 1
  fresh {t : Task} (h : t ∈ added) :
    t.board ∈ s'.boards ∧ ⟨t.board, true⟩ ∉ s.tasks ∧ ¬ (s'.session t.board).connected
  start (h : s.place = .starting) : added = [] ∧ s'.ui = .idle ∧ s'.boards = s.boards
  connecting (c : BoardId) : (s'.session c).connecting ↔ s'.Claimed c
  session {c : BoardId} (h : c ∈ s.boards) :
    ((s'.session c).connected → (s.session c).connected) ∧
      (s'.session c).verified = (s.session c).verified ∧
      (s'.session c).allChannelsLoaded = (s.session c).allChannelsLoaded
  others {c : BoardId} (h : c ∉ s.boards) : ¬ (s'.session c).connected
  dashboard {c : BoardId} (h : s'.ui.board = some c) : c ∈ s'.boards
  flagged {c : BoardId} (h : s'.ui = .flagged c) : ¬ s'.Awaits c
  free {c : BoardId} (h : s'.ui = .reading c ∨ s'.ui = .dropping c) : ⟨c, true⟩ ∉ s'.tasks

theorem Kept.uiMove {s' : BusWorker} {added : List Task} (h : Kept s)
    (hmoves : UiMoves s s' added) : Kept s' := by
  have hold {c : BoardId} (hc : (s'.session c).connected) :
      c ∈ s.boards ∧ (s.session c).connected := by
    by_cases hmem : c ∈ s.boards
    · exact ⟨hmem, (hmoves.session hmem).1 hc⟩
    · exact absurd hc (hmoves.others hmem)
  have hmem {o : Origin} {b : BoardId} {stage : Stage} (hp : s.place = .attempting o b stage) :
      b ∈ s.boards := h.known (mem_place hp)
  constructor
  case order =>
    rw [hmoves.tasks, List.pairwise_append]
    refine ⟨h.order, ?_, fun x hx y hy hattempt hboard => ?_⟩
    · match added, hmoves.single with
      | [], _ => exact List.Pairwise.nil
      | [t], _ => exact List.pairwise_singleton Clear t
    · obtain ⟨-, hnot, -⟩ := hmoves.fresh hy
      refine hnot ?_
      have hx' : x = ⟨y.board, true⟩ := by
        cases x
        simp_all
      rwa [← hx']
  case known =>
    intro t ht
    rw [hmoves.tasks] at ht
    rcases List.mem_append.mp ht with ht | ht
    · exact hmoves.boards (h.known ht)
    · exact (hmoves.fresh ht).1
  case start =>
    intro hp
    rw [hmoves.place] at hp
    obtain ⟨hnone, hnodup, -, hconnected⟩ := h.start hp
    obtain ⟨hnew, hui, hboards⟩ := hmoves.start hp
    rw [hmoves.tasks, hnone, hnew, hboards]
    exact ⟨rfl, hnodup, hui, fun c hc => hconnected c (hold hc).2⟩
  case connecting => exact hmoves.connecting
  case connected =>
    intro c hc
    obtain ⟨hboard, hc'⟩ := hold hc
    obtain ⟨-, hopen, hverified, hloaded⟩ := h.connected hc'
    obtain ⟨-, hv, hl⟩ := hmoves.session hboard
    rw [hmoves.isOpen, hv, hl]
    exact ⟨hmoves.boards hboard, hopen, hverified, hloaded⟩
  case done =>
    intro c hc t ht htb
    rw [hmoves.tasks] at ht
    rcases List.mem_append.mp ht with ht | ht
    · obtain ⟨o, hending⟩ := h.done (hold hc).2 ht htb
      exact ⟨o, hmoves.place.trans hending⟩
    · subst htb
      exact absurd hc (hmoves.fresh ht).2.2
  case stage =>
    intro o b stage hp
    rw [hmoves.place] at hp
    have hready := h.stage hp
    obtain ⟨-, hv, hl⟩ := hmoves.session (hmem hp)
    rw [hmoves.isOpen]
    cases stage <;> simp only [Stage.Ready, hv, hl] at hready ⊢ <;> exact hready
  case closing =>
    intro b c rest hp hc
    rw [hmoves.place] at hp
    exact h.closing hp (hold hc).2
  case unverifying =>
    intro b hp hc
    rw [hmoves.place] at hp
    exact h.unverifying hp (hold hc).2
  case dashboard => exact hmoves.dashboard
  case flagged => exact hmoves.flagged
  case free => exact hmoves.free

/-- A step that sets flags of a board and queues items, none of them an attach. -/
theorem uiMoves_update (h : Kept s) (items : List Item) {ui : Ui} (added : List Task)
    (hboard : ∀ {c}, ui.board = some c → c ∈ s.boards)
    (htasks : items.filterMap Item.task ++ ui.tasks = s.ui.tasks ++ added)
    (hsingle : added.length ≤ 1)
    (hfresh : ∀ {t}, t ∈ added → t.board ∈ s.boards ∧ ⟨t.board, true⟩ ∉ s.tasks ∧
      ¬ ((s.update b f).session t.board).connected)
    (hstart : s.place = .starting → added = [] ∧ ui = .idle)
    (hqueue : ∀ c, .connect c ∈ items ↔ s.ui = .pushingConnect c)
    (hattach : ∀ c, .attach c ∉ items)
    (hclaims : ∀ {c}, ui = .pushingConnect c → c = b)
    (hconnecting : (f (s.session b)).connecting ↔
      (s.session b).connecting ∨ ui = .pushingConnect b)
    (hsession : ((f (s.session b)).connected → (s.session b).connected) ∧
      (f (s.session b)).verified = (s.session b).verified ∧
      (f (s.session b)).allChannelsLoaded = (s.session b).allChannelsLoaded)
    (hflagged : ∀ {c}, ui = .flagged c → ¬ s.Awaits c)
    (hfree : ∀ {c}, ui = .reading c ∨ ui = .dropping c → ⟨c, true⟩ ∉ s.tasks ∧ added = []) :
    UiMoves s { s.update b f with workQueue := s.workQueue ++ items, ui := ui } added := by
  have hsame {c : BoardId} (hcb : c ≠ b) : (s.update b f).session c = s.session c :=
    update_session_ne hcb
  have htasks' : BusWorker.tasks
      { s.update b f with workQueue := s.workQueue ++ items, ui := ui } = s.tasks ++ added := by
    simp only [BusWorker.tasks, List.filterMap_append, List.append_assoc, htasks]
    rfl
  refine ⟨rfl, rfl, List.Subset.refl _, htasks', hsingle, hfresh, fun hp => ?_, fun c => ?_, ?_, ?_,
    hboard, ?_, ?_⟩
  · obtain ⟨hadded, hidle⟩ := hstart hp
    exact ⟨hadded, hidle, rfl⟩
  · have hclaimed : BusWorker.Claimed
        { s.update b f with workQueue := s.workQueue ++ items, ui := ui } c ↔
        s.Claimed c ∨ ui = .pushingConnect c := by
      simp only [BusWorker.Claimed, List.mem_append, hqueue, BusWorker.update]
      grind
    rw [hclaimed]
    by_cases hcb : c = b
    · subst hcb
      simp only [update_session_self, hconnecting, h.connecting]
    · simp only [hsame hcb, h.connecting]
      exact ⟨.inl, fun hc => hc.resolve_right fun hui => hcb (hclaims hui)⟩
  · intro c _
    by_cases hcb : c = b
    · subst hcb
      simpa only [update_session_self] using hsession
    · simp only [hsame hcb]
      exact ⟨id, trivial, trivial⟩
  · intro c hc hconnected
    refine hc (h.connected ?_).1
    by_cases hcb : c = b
    · subst hcb
      rw [update_session_self] at hconnected
      exact hsession.1 hconnected
    · rwa [hsame hcb] at hconnected
  · intro c hui hawaits
    refine hflagged hui ?_
    simpa only [BusWorker.Awaits, List.mem_append, hattach, or_false, BusWorker.update]
      using hawaits
  · intro c hui
    obtain ⟨hnot, rfl⟩ := hfree hui
    rwa [htasks', List.append_nil]

/-- The same without anything queued. -/
theorem kept_set (h : Kept s) {ui : Ui} (added : List Task)
    (hboard : ∀ {c}, ui.board = some c → c ∈ s.boards) (htasks : ui.tasks = s.ui.tasks ++ added)
    (hsingle : added.length ≤ 1)
    (hfresh : ∀ {t}, t ∈ added → t.board ∈ s.boards ∧ ⟨t.board, true⟩ ∉ s.tasks ∧
      ¬ ((s.update b f).session t.board).connected)
    (hstart : s.place = .starting → added = [] ∧ ui = .idle)
    (hqueue : ∀ c, s.ui ≠ .pushingConnect c) (hclaims : ∀ {c}, ui = .pushingConnect c → c = b)
    (hconnecting : (f (s.session b)).connecting ↔
      (s.session b).connecting ∨ ui = .pushingConnect b)
    (hsession : ((f (s.session b)).connected → (s.session b).connected) ∧
      (f (s.session b)).verified = (s.session b).verified ∧
      (f (s.session b)).allChannelsLoaded = (s.session b).allChannelsLoaded)
    (hflagged : ∀ {c}, ui = .flagged c → ¬ s.Awaits c)
    (hfree : ∀ {c}, ui = .reading c ∨ ui = .dropping c → ⟨c, true⟩ ∉ s.tasks ∧ added = []) :
    Kept { s.update b f with ui := ui } := by
  have hmoves : UiMoves s { s.update b f with workQueue := s.workQueue ++ [], ui := ui } added :=
    uiMoves_update h [] added hboard htasks hsingle hfresh hstart (by simp [hqueue]) (by simp)
      hclaims hconnecting hsession hflagged hfree
  have hkept := h.uiMove hmoves
  rw [List.append_nil] at hkept
  exact hkept

/-- A click, or an access of the UI thread, on a board that it does not touch. -/
theorem kept_turn (h : Kept s) {ui : Ui} (added : List Task)
    (hboard : ∀ {c}, ui.board = some c → c ∈ s.boards) (htasks : ui.tasks = s.ui.tasks ++ added)
    (hsingle : added.length ≤ 1)
    (hfresh : ∀ {t}, t ∈ added → t.board ∈ s.boards ∧ ⟨t.board, true⟩ ∉ s.tasks ∧
      ¬ (s.session t.board).connected)
    (hstart : s.place = .starting → added = [] ∧ ui = .idle)
    (hqueue : ∀ c, s.ui ≠ .pushingConnect c) (hclaims : ∀ c, ui ≠ .pushingConnect c)
    (hflagged : ∀ {c}, ui = .flagged c → ¬ s.Awaits c)
    (hfree : ∀ {c}, ui = .reading c ∨ ui = .dropping c → ⟨c, true⟩ ∉ s.tasks ∧ added = []) :
    Kept { s with ui := ui } := by
  have hset := kept_set (f := id) (b := 0) h added hboard htasks hsingle
    (by rwa [update_self]) hstart hqueue (fun hui => absurd hui (hclaims _))
    (by simp [hclaims]) ⟨id, rfl, rfl⟩ hflagged hfree
  rwa [update_self] at hset

/-- No thread tries to connect a board that is not being connected, if none has yet to come. -/
theorem Kept.not_attempted (h : Kept s) (hawaits : ¬ s.Awaits b)
    (hconnecting : ¬ (s.session b).connecting)
    (hui : ∀ c, s.ui ≠ .clearing c ∧ s.ui ≠ .claiming c) :
    ⟨b, true⟩ ∉ s.tasks := by
  intro hmem
  rcases awaits_or_claimed hmem with hc | hc | hc | hc
  · exact hawaits hc
  · exact hconnecting ((h.connecting b).mpr hc)
  · exact (hui b).1 hc
  · exact (hui b).2 hc

theorem kept_uiStep (h : Kept s) : Kept s.uiStep := by
  have hboard {ui : Ui} {b c : BoardId} (hb : s.ui.board = some b) (hu : ui.board = some b)
      (hc : ui.board = some c) : c ∈ s.boards := by
    rw [hu] at hc
    cases hc
    exact h.dashboard hb
  have hstart {b : BoardId} (hb : s.ui.board = some b) : s.place ≠ .starting := by
    intro hp
    rw [(h.start hp).2.2.1] at hb
    cases hb
  unfold BusWorker.uiStep
  split
  next => exact h
  next b hui =>
    have hb : s.ui.board = some b := by rw [hui]; rfl
    split
    next =>
      exact kept_turn h [] nofun (by simp [hui, Ui.tasks]) (by simp) nofun (fun _ => ⟨rfl, rfl⟩)
        (by simp [hui]) nofun nofun nofun
    next hnot =>
      refine kept_turn h [⟨b, true⟩] (hboard hb rfl) (by simp [hui, Ui.tasks]) (by simp) ?_
        (fun hp => absurd hp (hstart hb)) (by simp [hui]) nofun nofun nofun
      rintro t ht
      obtain rfl := List.mem_singleton.mp ht
      exact ⟨h.dashboard hb, h.free (.inl hui), hnot⟩
  next b hui =>
    have hb : s.ui.board = some b := by rw [hui]; rfl
    exact kept_set h [] (hboard hb rfl) (by simp [hui, Ui.tasks]) (by simp) nofun
      (fun hp => absurd hp (hstart hb)) (by simp [hui]) nofun (by simp) ⟨id, rfl, rfl⟩ nofun nofun
  next b hui =>
    have hb : s.ui.board = some b := by rw [hui]; rfl
    refine kept_set h [] (hboard hb rfl) (by simp [hui, Ui.tasks]) (by simp) nofun
      (fun hp => absurd hp (hstart hb)) (by simp [hui]) ?_ (by simp) ⟨id, rfl, rfl⟩ nofun nofun
    rintro c hc
    cases hc
    rfl
  next b hui =>
    have hmoves : UiMoves s { s.update b id with
        workQueue := s.workQueue ++ [.connect b], ui := .idle } [] :=
      uiMoves_update h [.connect b] [] nofun (by simp [hui, Ui.tasks, Item.task]) (by simp)
        nofun (fun _ => ⟨rfl, rfl⟩) (by simp [hui, eq_comm]) (by simp) nofun (by simp)
        ⟨id, rfl, rfl⟩ nofun nofun
    rw [update_self] at hmoves
    exact h.uiMove hmoves
  next b hui =>
    have hb : s.ui.board = some b := by rw [hui]; rfl
    split
    next =>
      exact kept_turn h [] nofun (by simp [hui, Ui.tasks]) (by simp) nofun (fun _ => ⟨rfl, rfl⟩)
        (by simp [hui]) nofun nofun nofun
    next hnot =>
      refine kept_turn h [] (hboard hb rfl) (by simp [hui, Ui.tasks]) (by simp) nofun
        (fun hp => absurd hp (hstart hb)) (by simp [hui]) nofun nofun ?_
      rintro c (hc | hc) <;> cases hc
      exact ⟨h.not_attempted (h.flagged hui) hnot (by simp [hui]), rfl⟩
  next b hui =>
    have hb : s.ui.board = some b := by rw [hui]; rfl
    refine kept_set h [⟨b, false⟩] (hboard hb rfl) (by simp [hui, Ui.tasks]) (by simp) ?_
      (fun hp => absurd hp (hstart hb)) (by simp [hui]) nofun (by simp) ⟨nofun, rfl, rfl⟩ nofun
      nofun
    rintro t ht
    obtain rfl := List.mem_singleton.mp ht
    exact ⟨h.dashboard hb, h.free (.inr hui), by simp⟩
  next b hui =>
    have hmoves : UiMoves s { s.update b id with
        workQueue := s.workQueue ++ [.disconnect b], ui := .idle } [] :=
      uiMoves_update h [.disconnect b] [] nofun (by simp [hui, Ui.tasks, Item.task]) (by simp)
        nofun (fun _ => ⟨rfl, rfl⟩) (by simp [hui]) (by simp) nofun (by simp) ⟨id, rfl, rfl⟩
        nofun nofun
    rw [update_self] at hmoves
    exact h.uiMove hmoves

theorem kept_attach (h : Kept s) (hidle : s.ui = .idle) (hstart : s.place ≠ .starting)
    (hb : b ∉ s.boards) :
    Kept { (s.update b fun _ => {}).push (.attach b) with boards := s.boards ++ [b] } := by
  have hnew : ⟨b, true⟩ ∉ s.tasks := fun hmem => hb (h.known hmem)
  have hsame {c : BoardId} (hcb : c ≠ b) : (s.update b fun _ => {}).session c = s.session c :=
    update_session_ne hcb
  have hmoves : UiMoves s
      { (s.update b fun _ => {}).push (.attach b) with boards := s.boards ++ [b] }
      [⟨b, true⟩] := ?_
  · exact h.uiMove hmoves
  refine ⟨rfl, rfl, List.subset_append_left _ _, ?_, by simp, ?_, fun hp => absurd hp hstart,
    fun c => ?_, fun {c} hc => ?_, fun {c} hc hconnected => ?_, ?_, ?_, ?_⟩
  · simp [BusWorker.tasks, BusWorker.push, BusWorker.update, hidle, Ui.tasks, Item.task]
  · intro t ht
    obtain rfl := List.mem_singleton.mp ht
    refine ⟨List.mem_append_right _ (List.mem_singleton.mpr rfl), hnew, ?_⟩
    rw [BusWorker.push, update_session_self]
    exact Bool.false_ne_true
  · have hclaimed : BusWorker.Claimed
        { (s.update b fun _ => {}).push (.attach b) with boards := s.boards ++ [b] } c ↔
        s.Claimed c := by
      simp [BusWorker.Claimed, BusWorker.push, BusWorker.update]
    rw [hclaimed]
    by_cases hcb : c = b
    · subst hcb
      rw [BusWorker.push, update_session_self]
      exact ⟨nofun, fun hc => absurd (claimed_mem_tasks hc) hnew⟩
    · simp only [BusWorker.push, hsame hcb, h.connecting]
  · have hcb : c ≠ b := by
      rintro rfl
      exact hb hc
    simp only [BusWorker.push, hsame hcb]
    exact ⟨id, trivial, trivial⟩
  · by_cases hcb : c = b
    · subst hcb
      rw [BusWorker.push, update_session_self] at hconnected
      exact Bool.false_ne_true hconnected
    · simp only [BusWorker.push, hsame hcb] at hconnected
      exact hc (h.connected hconnected).1
  · intro c hui
    have hnone : s.ui.board = some c := hui
    rw [hidle] at hnone
    cases hnone
  · intro c hui
    cases hidle.symm.trans hui
  · intro c hui
    rcases hui with hui | hui <;> cases hidle.symm.trans hui

/-- A command that a dashboard queues. -/
theorem kept_push (h : Kept s) (hidle : s.ui = .idle) {item : Item} (htask : item.task = none) :
    Kept (s.push item) := by
  have hmoves : UiMoves s { s.update 0 id with
      workQueue := s.workQueue ++ [item], ui := .idle } [] :=
    uiMoves_update h [item] [] nofun (by simp [hidle, Ui.tasks, htask]) (by simp) nofun
      (fun _ => ⟨rfl, rfl⟩) (by cases item <;> simp_all [Item.task])
      (by cases item <;> simp_all [Item.task]) nofun (by simp) ⟨id, rfl, rfl⟩ nofun nofun
  rw [update_self] at hmoves
  have hkept := h.uiMove hmoves
  rwa [← hidle] at hkept

theorem kept_click (h : Kept s) (hidle : s.ui = .idle) {act : Act} (horderly : Orderly s act) :
    Kept (s.click act) := by
  have hqueue (c : BoardId) : s.ui ≠ .pushingConnect c := by rw [hidle]; nofun
  cases act with
  | connect b portEmpty =>
    simp only [BusWorker.click]
    split
    next => exact h
    next hpass =>
      simp only [not_or, not_not] at hpass
      obtain ⟨hb, -, hconnecting⟩ := hpass
      have hnot : ⟨b, true⟩ ∉ s.tasks := h.not_attempted horderly hconnecting (by simp [hidle])
      refine kept_turn h [] ?_ (by simp [hidle, Ui.tasks]) (by simp) nofun
        (fun hp => absurd (.inl hp) horderly) hqueue nofun nofun ?_
      · rintro c hc
        cases hc
        exact hb
      · rintro c (hc | hc) <;> cases hc
        exact ⟨hnot, rfl⟩
  | disconnect b =>
    simp only [BusWorker.click]
    split
    next => exact h
    next hb =>
      refine kept_set h [] ?_ (by simp [hidle, Ui.tasks]) (by simp) nofun
        (fun hp => absurd (.inl hp) horderly) hqueue nofun (by simp) ⟨id, rfl, rfl⟩ ?_ nofun
      · rintro c hc
        cases hc
        exact not_not.mp hb
      · rintro c hc
        cases hc
        exact horderly
  | abort b =>
    simp only [BusWorker.click]
    split
    next => exact h
    next =>
      have hset : Kept { s.update b (fun x => { x with abortConnect := true }) with ui := .idle } :=
        kept_set h [] nofun (by simp [hidle, Ui.tasks]) (by simp) nofun (fun _ => ⟨rfl, rfl⟩) hqueue
          nofun (by simp) ⟨id, rfl, rfl⟩ nofun nofun
      rwa [← hidle] at hset
  | command b isReset =>
    simp only [BusWorker.click]
    split
    next => exact h
    next => exact kept_push h hidle (by cases isReset <;> rfl)
  | attach b =>
    simp only [BusWorker.click]
    split
    next => exact h
    next hb => exact kept_attach h hidle horderly hb
  | _ => exact h

theorem kept_step (h : Kept s) {act : Act} (horderly : Orderly s act) : Kept (step s act) := by
  have hclick : Kept (if s.ui = .idle then s.click act else s) := by
    split
    next hidle => exact kept_click h hidle horderly
    next => exact h
  cases act with
  | worker result => exact kept_workerStep h result
  | ui => exact kept_uiStep h
  | quit => exact ⟨h.order, h.known, h.start, h.connecting, h.connected, h.done, h.stage, h.closing,
      h.unverifying, h.dashboard, h.flagged, h.free⟩
  | _ => exact hclick

theorem kept_started (h : Started s) : Kept s := by
  have hinit {boards : List BoardId} {isOpen : Bool} {place : Place}
      (hplace : place = .starting ∧ boards.Nodup ∨ place = .top) :
      Kept ⟨boards, fun _ => {}, isOpen, [], place, .idle, true⟩ := by
    have htasks : BusWorker.tasks ⟨boards, fun _ => {}, isOpen, [], place, .idle, true⟩ = [] := by
      rcases hplace with ⟨rfl, -⟩ | rfl <;> rfl
    constructor
    case order =>
      rw [htasks]
      exact List.Pairwise.nil
    case known =>
      intro t ht
      rw [htasks] at ht
      cases ht
    case start =>
      rintro rfl
      exact ⟨rfl, (hplace.resolve_right nofun).2, rfl, nofun⟩
    case connecting =>
      intro b
      rcases hplace with ⟨rfl, -⟩ | rfl <;> simp [BusWorker.Claimed]
    case connected => nofun
    case done => nofun
    case stage => rcases hplace with ⟨rfl, -⟩ | rfl <;> nofun
    case closing => rcases hplace with ⟨rfl, -⟩ | rfl <;> nofun
    case unverifying => rcases hplace with ⟨rfl, -⟩ | rfl <;> nofun
    case dashboard => nofun
    case flagged => nofun
    case free => nofun
  cases h with
  | built autoConnectAll hnodup =>
    cases autoConnectAll with
    | true => exact hinit (.inl ⟨rfl, hnodup⟩)
    | false => exact hinit (.inr rfl)
  | spawned isOpen => exact hinit (.inr rfl)

/-! ## What holds in every state -/

structure Sound (s : BusWorker) : Prop where
  /-- No board is in two attempts, queued ones and those about to be queued included. -/
  once (b : BoardId) : s.tasks.count ⟨b, true⟩ ≤ 1
  /-- A board shows that it is being connected just while a click or the sweep has it in hand. -/
  connecting (b : BoardId) : (s.session b).connecting ↔ s.Claimed b
  /-- The bus is open under every connected board, which is verified, with all of its channels. -/
  connected {b : BoardId} (h : (s.session b).connected) :
    s.isOpen ∧ (s.session b).verified ∧ (s.session b).allChannelsLoaded
  /-- From a click on Disconnect until it is carried out the board is not connected, and nothing
  that comes before connects it. -/
  disconnecting {b : BoardId} {front rest : List Task} (h : s.tasks = front ++ ⟨b, false⟩ :: rest) :
    ¬ (s.session b).connected ∧ ⟨b, true⟩ ∉ front

theorem Kept.sound (h : Kept s) : Sound s where
  once b := by
    by_contra hmany
    have hsub : (List.replicate 2 ⟨b, true⟩).Sublist s.tasks :=
      List.replicate_sublist_iff.mpr (Nat.not_le.mp hmany)
    have hpair : List.Pairwise Clear [(⟨b, true⟩ : Task), ⟨b, true⟩] := h.order.sublist hsub
    exact (List.pairwise_pair.mp hpair) rfl rfl
  connecting := h.connecting
  connected hc := (h.connected hc).2
  disconnecting {b front rest} htasks := by
    have horder := h.order
    rw [htasks, List.pairwise_append] at horder
    have hfront : ⟨b, true⟩ ∉ front := fun hmem =>
      horder.2.2 _ hmem ⟨b, false⟩ List.mem_cons_self rfl rfl
    refine ⟨fun hc => ?_, hfront⟩
    have hmem : (⟨b, false⟩ : Task) ∈ s.tasks := by
      rw [htasks]
      exact List.mem_append_right _ List.mem_cons_self
    obtain ⟨o, hending⟩ := h.done hc hmem rfl
    have hclear : (⟨b, false⟩ : Task) ∉ (s.goto o.next).tasks := fun hnext =>
      h.clear hending hnext rfl
    rw [tasks_next hending] at hmem
    exact (List.mem_cons.mp hmem).elim nofun hclear

theorem kept_run (h : Started s) {acts : List Act} (horderly : Along step Orderly s acts) :
    Kept (exec step s acts) :=
  exec_invariant (I := Kept) (fun _ _ hs ho => kept_step hs ho) (kept_started h) horderly

/-- Connecting and disconnecting the boards of a bus, in any order and from any number of
dashboards: no board is in two attempts at once, the port is open under every board that is
connected, and a disconnected board stays so until it is connected anew. -/
theorem boards_sound (h : Started s) {acts : List Act} (horderly : Along step Orderly s acts) :
    Sound (exec step s acts) :=
  (kept_run h horderly).sound

/-- Two boards that the sweep connects, a disconnect of one while the other stays, a new connect of
it that is aborted, and a hot attach. -/
def clicks : List Act :=
  List.replicate 20 (.worker true) ++ [.disconnect 1, .ui, .worker true, .ui, .ui] ++
    List.replicate 6 (.worker true) ++ [.connect 1 false, .ui, .ui, .ui, .ui, .abort 1] ++
    List.replicate 12 (.worker true) ++ [.attach 3, .worker false, .worker true, .quit]

theorem boards_sound_clicks : Sound (exec step (built true [1, 2]) clicks) :=
  boards_sound (.built true (by decide)) (by decide)

/-! ## When the clicks pause -/

def Stage.cost : Stage → Nat
  | .begin => 9
  | .opening => 8
  | .verifying _ => 7
  | .checking _ => 6
  | .leaving _ => 5
  | .scanning => 4
  | .judging => 3
  | .publishing _ => 2
  | .ending => 1

/-- The steps that the bus thread has left where it is, on a bus with `n` boards. -/
def Place.cost (n : Nat) : Place → Nat
  | .starting => 10 * n + 3
  | .sweeping _ rest => 10 * rest.length + 2
  | .attempting (.sweep _ rest) _ stage => stage.cost + 10 * rest.length + 2
  | .attempting _ _ stage => stage.cost
  | .top => 1
  | .draining => 0
  | .detaching _ => n + 2
  | .closing _ rest => rest.length + 1
  | .resetting _ => 2
  | .unverifying _ => 1
  | .exited => 0

def Item.cost (n : Nat) (item : Item) : Nat := item.start.cost n + 1

def queueCost (n : Nat) : List Item → Nat
  | [] => 0
  | item :: rest => item.cost n + queueCost n rest

def BusWorker.left (s : BusWorker) : Nat :=
  s.place.cost s.boards.length + queueCost s.boards.length s.workQueue

/-- The bus thread has nothing to do but to poll. -/
def BusWorker.Rests (s : BusWorker) : Prop :=
  s.workQueue = [] ∧ (s.place = .top ∨ s.place = .draining)

theorem attempt_left {o : Origin} {stage : Stage} (hplace : s.place = .attempting o b stage)
    (result : Bool) : (s.attempt result o b stage).left < s.left := by
  cases stage <;> cases o <;>
    simp only [BusWorker.attempt, BusWorker.left, BusWorker.goto, BusWorker.update, hplace] <;>
    repeat' split
  all_goals simp_all [Place.cost, Stage.cost]

/-- Each step of a bus thread that does not rest leaves less to do. -/
theorem workerStep_left (hrunning : s.running) (hexited : s.place ≠ .exited) (hrests : ¬ s.Rests)
    (result : Bool) : (s.workerStep result).left < s.left := by
  unfold BusWorker.workerStep
  split
  next hplace =>
    split
    next => simp [BusWorker.left, BusWorker.goto, hplace, Place.cost]
    next => simp [BusWorker.left, hplace, Place.cost]
  next hplace => simp [BusWorker.left, BusWorker.goto, hplace, Place.cost]
  next hplace =>
    simp [BusWorker.left, BusWorker.goto, hplace, Place.cost, Stage.cost]
    omega
  next hplace => simp [BusWorker.left, BusWorker.goto, hplace, Place.cost, hrunning]
  next hplace =>
    split
    next hqueue => exact absurd ⟨hqueue, .inr hplace⟩ hrests
    next item rest hqueue =>
      simp [BusWorker.left, hplace, hqueue, Place.cost, queueCost, Item.cost]
  next hplace => exact attempt_left hplace result
  next hplace => simp [BusWorker.left, BusWorker.goto, BusWorker.update, hplace, Place.cost]
  next hplace => simp [BusWorker.left, hplace, Place.cost]
  next hplace => split <;> simp [BusWorker.left, BusWorker.goto, hplace, Place.cost]
  next hplace =>
    split <;> simp [BusWorker.left, BusWorker.goto, BusWorker.update, hplace, Place.cost]
  next hplace => simp [BusWorker.left, BusWorker.goto, BusWorker.update, hplace, Place.cost]
  next hplace => exact absurd hplace hexited

theorem workerStep_frame (result : Bool) :
    (s.workerStep result).ui = s.ui ∧ (s.workerStep result).running = s.running := by
  unfold BusWorker.workerStep BusWorker.attempt
  repeat' split
  all_goals exact ⟨rfl, rfl⟩

theorem start_ne_exited (item : Item) : item.start ≠ .exited := by
  cases item <;> nofun

/-- The bus thread goes on while the program runs. -/
theorem workerStep_exited (hrunning : s.running) (hexited : s.place ≠ .exited) (result : Bool) :
    (s.workerStep result).place ≠ .exited := by
  unfold BusWorker.workerStep BusWorker.attempt
  repeat' split
  all_goals simp_all [BusWorker.goto, BusWorker.update, start_ne_exited]

theorem uiStep_frame : s.uiStep.place = s.place ∧ s.uiStep.running = s.running := by
  unfold BusWorker.uiStep
  repeat' split
  all_goals exact ⟨rfl, rfl⟩

theorem click_frame (act : Act) :
    (s.click act).place = s.place ∧ (s.click act).running = s.running := by
  unfold BusWorker.click
  repeat' split
  all_goals exact ⟨rfl, rfl⟩

def BusWorker.Alive (s : BusWorker) : Prop := s.running → s.place ≠ .exited

theorem alive_step (h : s.Alive) (act : Act) : (step s act).Alive := by
  intro hrunning
  have hclick : (if s.ui = .idle then s.click act else s).Alive := by
    split
    next =>
      intro hrunning
      rw [(click_frame act).2] at hrunning
      rw [(click_frame act).1]
      exact h hrunning
    next => exact h
  cases act with
  | worker result =>
    have hrunning : s.running := (workerStep_frame result).2.symm.trans hrunning
    exact workerStep_exited hrunning (h hrunning) result
  | ui =>
    have hrunning : s.running := uiStep_frame.2.symm.trans hrunning
    exact fun hp => h hrunning (uiStep_frame.1.symm.trans hp)
  | quit => cases hrunning
  | _ => exact hclick hrunning

theorem alive_started (h : Started s) : s.Alive := by
  intro _
  cases h with
  | built autoConnectAll _ => cases autoConnectAll <;> nofun
  | spawned isOpen => nofun

theorem rests_step (hrunning : s.running) (h : s.Rests) (result : Bool) :
    (s.workerStep result).Rests := by
  obtain ⟨hqueue, hplace | hplace⟩ := h
  · simp [BusWorker.workerStep, BusWorker.Rests, BusWorker.goto, hplace, hqueue, hrunning]
  · simp [BusWorker.workerStep, BusWorker.Rests, BusWorker.goto, hplace, hqueue]

/-- Enough steps bring the bus thread to rest, whatever the wire says. -/
theorem rests_run (results : List Bool) (hrunning : s.running) (hexited : s.place ≠ .exited)
    (hlong : s.Rests ∨ s.left ≤ results.length) :
    (exec step s (results.map .worker)).Rests := by
  induction results generalizing s with
  | nil =>
    refine hlong.elim id fun hnone => by_contra fun hrests => ?_
    have hless := workerStep_left hrunning hexited hrests false
    exact Nat.not_lt_zero _ (Nat.lt_of_lt_of_le hless hnone)
  | cons result results ih =>
    refine ih ((workerStep_frame result).2.trans hrunning)
      (workerStep_exited hrunning hexited result) ?_
    by_cases hrests : s.Rests
    · exact .inl (rests_step hrunning hrests result)
    · have hless := workerStep_left hrunning hexited hrests result
      have hleft := hlong.resolve_left hrests
      exact .inr (Nat.le_of_lt_succ (Nat.lt_of_lt_of_le hless hleft))

theorem BusWorker.Rests.not_connecting (hrests : s.Rests) (h : Kept s) (hidle : s.ui = .idle) :
    s.tasks = [] ∧ ∀ b, ¬ (s.session b).connecting := by
  have htasks : s.tasks = [] := by
    obtain ⟨hqueue, hplace | hplace⟩ := hrests <;>
      simp [BusWorker.tasks, hqueue, hplace, hidle, Place.tasks, Ui.tasks]
  refine ⟨htasks, fun b hb => ?_⟩
  have hmem := claimed_mem_tasks ((h.connecting b).mp hb)
  rw [htasks] at hmem
  cases hmem

theorem run_ui (results : List Bool) : (exec step s (results.map .worker)).ui = s.ui := by
  induction results generalizing s with
  | nil => rfl
  | cons result results ih => exact ih.trans (workerStep_frame result).1

/-- When the user rests, the bus thread is done with everything after as many steps as it has left,
however the attempts end, and no dashboard is left with a board that is still being connected. -/
theorem attempts_end (h : Started s) {acts : List Act} (horderly : Along step Orderly s acts)
    (hrunning : (exec step s acts).running) (hidle : (exec step s acts).ui = .idle)
    {results : List Bool} (hlong : (exec step s acts).left ≤ results.length) :
    let s' := exec step s (acts ++ results.map .worker)
    s'.Rests ∧ s'.tasks = [] ∧ ∀ b, ¬ (s'.session b).connecting := by
  have halive : (exec step s acts).Alive :=
    exec_invariant (I := BusWorker.Alive) (fun _ act hs _ => alive_step hs act) (alive_started h)
      horderly
  have hworker : Along step Orderly (exec step s acts) (results.map .worker) := by
    refine along_of_forall (fun act hact _ => ?_) _
    obtain ⟨result, -, rfl⟩ := List.mem_map.mp hact
    trivial
  have hkept := kept_run h (along_append.mpr ⟨horderly, hworker⟩)
  have hrests : (exec step s (acts ++ results.map .worker)).Rests := by
    rw [exec_append]
    exact rests_run results hrunning (halive hrunning) (.inr hlong)
  have hidle' : (exec step s (acts ++ results.map .worker)).ui = .idle := by
    rw [exec_append, run_ui, hidle]
  exact ⟨hrests, hrests.not_connecting hkept hidle'⟩

theorem attempts_end_clicks :
    let acts := clicks.take 37
    let s' := exec step (built true [1, 2]) (acts ++ (List.replicate 9 false ++ [true]).map .worker)
    s'.Rests ∧ s'.tasks = [] ∧ ∀ b, ¬ (s'.session b).connecting :=
  attempts_end (.built true (by decide)) (by decide) (by decide) (by decide) (by decide)

end BoardConnect
