import Mathlib.Data.List.Nodup
import Mathlib.Logic.Function.Basic
import HvbFirmware.CatalogLifecycle
import HvbFirmware.VcTypes

/-!
# The command queue of the runtime

A writer of the catalog leaves its command in a bounded queue and waits, the worker dispatches the
commands and answers, and `vc_runtime_destroy` stops the worker. The threads take atomic steps in
any order, from the moment `vc_runtime_create_static` has opened the catalog.
-/
namespace CommandQueue

open Runs Threads VcTypes
open CatalogLifecycle (Place Catalog census)

variable {σ Cmd : Type}

/-! ## State -/

/-- The pointers of an item point into the stack frame of the thread that submitted it. The calls
of `vc_runtime_submit_command` are numbered. -/
structure VcRuntimeWorkItem (Cmd : Type) where
  call : Nat
  command : Cmd
  frame : Nat
  deriving DecidableEq, Repr

/-- Where a thread is in `vc_runtime_submit_command`: the atomic step named is the next one. -/
inductive Client (Cmd : Type) where
  | out
  | putting (work : VcRuntimeWorkItem Cmd)
  | waking (call : Nat)
  | taking (call : Nat)
  | returning (call : Nat)

structure Frame (Cmd : Type) where
  client : Client Cmd
  result : VcStatus
  resultSem : Bool

inductive Worker (Cmd : Type) where
  | checking | sleeping | getting
  | dispatching (work : VcRuntimeWorkItem Cmd)
  | answering (work : VcRuntimeWorkItem Cmd) (result : VcStatus)
  | giving (work : VcRuntimeWorkItem Cmd)
  | ticking

structure VcRuntime (σ Cmd : Type) where
  ctrl : σ
  wake : Bool
  commandQueue : List (VcRuntimeWorkItem Cmd)
  worker : Worker Cmd

/-- What happened to the calls so far. -/
structure Log where
  calls : Nat
  admitted : List Nat
  timedOut : List Nat
  dispatched : List (Nat × VcStatus)
  returned : List (Nat × VcStatus)

structure State (σ Cmd : Type) where
  catalog : CatalogLifecycle.State
  runtime : VcRuntime σ Cmd
  frames : Nat → Frame Cmd
  log : Log

/-- `CONFIG_VC_RUNTIME_COMMAND_QUEUE_DEPTH`, and what the worker does to the controller. -/
structure Program (σ Cmd : Type) where
  depth : Nat
  dispatchCommand : σ → Cmd → VcStatus × σ
  tick : σ → UInt32 → σ

/-! ## Steps -/

def State.setFrame (s : State σ Cmd) (i : Nat) (frame : Frame Cmd) : State σ Cmd :=
  { s with frames := Function.update s.frames i frame }

/-- A step of the catalog. `vc_runtime_destroy` wakes the worker with its stop request. -/
def State.inCatalog (s : State σ Cmd) (i : Nat) (op : CatalogLifecycle.Op) : State σ Cmd :=
  { s with
    catalog := CatalogLifecycle.step s.catalog (.thread i op)
    runtime := { s.runtime with
      wake := s.runtime.wake || (op = .next ∧ s.catalog.place i = some .stopping) } }

def submitCommand (s : State σ Cmd) (i : Nat) (cmd : Cmd) : State σ Cmd :=
  { s.setFrame i ⟨.putting ⟨s.log.calls, cmd, i⟩, .errUnsafeState, false⟩ with
    log := { s.log with calls := s.log.calls + 1 } }

/-- The next step of a thread inside `vc_runtime_submit_command`. -/
def clientStep (p : Program σ Cmd) (s : State σ Cmd) (i : Nat) : State σ Cmd :=
  let frame := s.frames i
  match frame.client with
  | .out => s
  | .putting work =>
    -- `k_msgq_put` blocks while the queue is full
    if s.runtime.commandQueue.length < p.depth then
      { s.setFrame i { frame with client := .waking work.call } with
        runtime := { s.runtime with commandQueue := s.runtime.commandQueue ++ [work] }
        log := { s.log with admitted := s.log.admitted ++ [work.call] } }
    else s
  | .waking call =>
    { s.setFrame i { frame with client := .taking call } with
      runtime := { s.runtime with wake := true } }
  | .taking call =>
    -- `k_sem_take` with K_FOREVER
    if frame.resultSem then
      s.setFrame i { frame with client := .returning call, resultSem := false }
    else s
  | .returning call =>
    { s.setFrame i { frame with client := .out } with
      log := { s.log with returned := s.log.returned ++ [(call, frame.result)] } }

/-- `k_msgq_put` gives up: the queue is full and the timeout of the caller is over. -/
def admissionTimeout (p : Program σ Cmd) (s : State σ Cmd) (i : Nat) : State σ Cmd :=
  let frame := s.frames i
  match frame.client with
  | .putting work =>
    if s.runtime.commandQueue.length < p.depth then s
    else
      { s.setFrame i { frame with client := .out } with
        log := { s.log with
          timedOut := s.log.timedOut ++ [work.call]
          returned := s.log.returned ++ [(work.call, .errUnsafeState)] } }
  | _ => s

/-- The next step of the worker. It sleeps until it is woken or its interval is over, that is for
any time. -/
def workerStep (p : Program σ Cmd) (s : State σ Cmd) (dtMs : UInt32) : State σ Cmd :=
  let runtime := s.runtime
  match runtime.worker with
  | .checking =>
    if s.catalog.shared.stopRequested then
      { s with catalog := CatalogLifecycle.step s.catalog .worker }
    else { s with runtime := { runtime with worker := .sleeping } }
  | .sleeping => { s with runtime := { runtime with worker := .getting, wake := false } }
  | .getting =>
    match runtime.commandQueue with
    | [] => { s with runtime := { runtime with worker := .ticking } }
    | work :: rest =>
      { s with runtime := { runtime with worker := .dispatching work, commandQueue := rest } }
  | .dispatching work =>
    let r := p.dispatchCommand runtime.ctrl work.command
    { s with
      runtime := { runtime with worker := .answering work r.1, ctrl := r.2 }
      log := { s.log with dispatched := s.log.dispatched ++ [(work.call, r.1)] } }
  | .answering work result =>
    { s.setFrame work.frame { s.frames work.frame with result := result } with
      runtime := { runtime with worker := .giving work } }
  | .giving work =>
    { s.setFrame work.frame { s.frames work.frame with resultSem := true } with
      runtime := { runtime with worker := .getting } }
  | .ticking =>
    { s with runtime := { runtime with worker := .checking, ctrl := p.tick runtime.ctrl dtMs } }

inductive Op (Cmd : Type) where
  | acquire
  | release
  /-- `vc_runtime_destroy`, with a runtime or with `NULL`. -/
  | destroy (runtime : Bool)
  | submit (cmd : Cmd)
  /-- Go on with the function that the thread is in. -/
  | next
  | timeout

inductive Event (Cmd : Type) where
  | thread (i : Nat) (op : Op Cmd)
  | worker (dtMs : UInt32)

def Client.isOut : Client Cmd → Bool
  | .out => true
  | _ => false

/-- A thread in the catalog leaves it, or submits a command, when no command of it is under way. -/
def threadStep (p : Program σ Cmd) (s : State σ Cmd) (i : Nat) : Op Cmd → State σ Cmd
  | .acquire => s.inCatalog i .acquire
  | .destroy runtime => s.inCatalog i (.destroy runtime)
  | .release => if (s.frames i).client.isOut then s.inCatalog i .release else s
  | .submit cmd =>
    if s.catalog.place i = some .holding ∧ (s.frames i).client.isOut then submitCommand s i cmd
    else s
  | .next => if (s.frames i).client.isOut then s.inCatalog i .next else clientStep p s i
  | .timeout => admissionTimeout p s i

def step (p : Program σ Cmd) (s : State σ Cmd) : Event Cmd → State σ Cmd
  | .thread i op => threadStep p s i op
  | .worker dtMs => if s.catalog.shared.worker = .running then workerStep p s dtMs else s

/-- The catalog as `vc_runtime_create_static` has opened it, with thread 0 about to start the
worker. -/
def openedCatalog (n : Nat) : CatalogLifecycle.State :=
  ⟨⟨.running, 0, false, true, false, .created⟩, .launching :: List.replicate n .idle⟩

theorem openedCatalog_eq (n : Nat) : exec CatalogLifecycle.step (CatalogLifecycle.initial (n + 1))
    (.thread 0 .create :: CatalogLifecycle.go 0 8) = openedCatalog n := by
  simp [CatalogLifecycle.go, exec, CatalogLifecycle.step, Pool.act, Pool.place, Pool.start,
    Pool.move, CatalogLifecycle.initial, CatalogLifecycle.act, CatalogLifecycle.begin,
    CatalogLifecycle.atomicCas, CatalogLifecycle.next, Catalog.initial, openedCatalog,
    List.replicate_succ]

def opened (ctrl : σ) (n : Nat) : State σ Cmd where
  catalog := openedCatalog n
  runtime := ⟨ctrl, false, [], .checking⟩
  frames _ := ⟨.out, .errUnsafeState, false⟩
  log := ⟨0, [], [], [], []⟩

/-! ## Delivery -/

def Log.dispatchedCalls (log : Log) : List Nat := log.dispatched.map Prod.fst

/-- A call is admitted when its `k_msgq_put` succeeds. -/
structure Delivered (s : State σ Cmd) : Prop where
  inOrder : s.log.dispatchedCalls <+: s.log.admitted
  once : s.log.admitted.Nodup
  ownStatus : ∀ answer ∈ s.log.returned, answer.1 ∈ s.log.admitted → answer ∈ s.log.dispatched
  timeouts : ∀ call ∈ s.log.timedOut, call ∉ s.log.dispatchedCalls
  destroyed : s.catalog.shared.lifecycle = .stopped → s.log.dispatchedCalls = s.log.admitted

/-- No late signal: a thread that is about to give `catalog_quiesced` finds no thread between a
successful `vc_catalog_acquire` and its release. -/
def Clean (s : State σ Cmd) : Event Cmd → Prop
  | .thread i .next => s.catalog.place i = some .giving → s.catalog.count Place.inside = 0
  | _ => True

instance (s : State σ Cmd) : DecidablePred (Clean s)
  | .thread _ .next => inferInstanceAs (Decidable (_ → _))
  | .thread _ .acquire | .thread _ .release | .thread _ (.destroy _) | .thread _ (.submit _)
  | .thread _ .timeout | .worker _ => isTrue trivial

/-! ## The invariant -/

/-- Taken from the queue, not dispatched. -/
def Worker.hand : Worker Cmd → List (VcRuntimeWorkItem Cmd)
  | .dispatching work => [work]
  | _ => []

/-- Taken from the queue, not answered. -/
def Worker.unanswered : Worker Cmd → List (VcRuntimeWorkItem Cmd)
  | .dispatching work | .answering work _ | .giving work => [work]
  | _ => []

def VcRuntime.pending (runtime : VcRuntime σ Cmd) : List (VcRuntimeWorkItem Cmd) :=
  runtime.worker.hand ++ runtime.commandQueue

def VcRuntime.open (runtime : VcRuntime σ Cmd) : List (VcRuntimeWorkItem Cmd) :=
  runtime.worker.unanswered ++ runtime.commandQueue

/-- The frame of a call that is admitted and not answered. -/
structure Frame.Waits (frame : Frame Cmd) (call : Nat) : Prop where
  client : frame.client = .waking call ∨ frame.client = .taking call
  resultSem : frame.resultSem = false

/-- A call before its `k_msgq_put`. -/
structure Log.Fresh (log : Log) (call : Nat) : Prop where
  numbered : call < log.calls
  notAdmitted : call ∉ log.admitted
  notTimedOut : call ∉ log.timedOut

/-- What the place of a thread says of its call. -/
def Frame.Sound (log : Log) (i : Nat) (frame : Frame Cmd) : Prop :=
  match frame.client with
  | .out => True
  | .putting work => work.frame = i ∧ frame.resultSem = false ∧ log.Fresh work.call
  | .waking call | .taking call => frame.resultSem → (call, frame.result) ∈ log.dispatched
  | .returning call => (call, frame.result) ∈ log.dispatched

/-- What the place of the worker says of the command in its hands. -/
def Worker.Sound (log : Log) (frames : Nat → Frame Cmd) : Worker Cmd → Prop
  | .answering work result => (work.call, result) ∈ log.dispatched
  | .giving work => (work.call, (frames work.frame).result) ∈ log.dispatched
  | _ => True

structure Log.Inv (log : Log) : Prop where
  once : log.admitted.Nodup
  numbered : ∀ call ∈ log.admitted ++ log.timedOut, call < log.calls
  disjoint : ∀ call ∈ log.timedOut, call ∉ log.admitted
  returned : ∀ answer ∈ log.returned, answer.1 ∈ log.timedOut ∨ answer ∈ log.dispatched

structure Inv (s : State σ Cmd) : Prop where
  catalog : CatalogLifecycle.Inv s.catalog
  notStarting : s.catalog.shared.lifecycle ≠ .starting
  signalled : ∀ i, s.catalog.place i = some .giving → s.catalog.shared.lifecycle ≠ .running
  exited : s.catalog.shared.worker = .exited → s.catalog.shared.stopRequested
  log : s.log.Inv
  order : s.log.dispatchedCalls ++ s.runtime.pending.map (·.call) = s.log.admitted
  held : ∀ i, (s.frames i).client.isOut = false → s.catalog.place i = some .holding
  waits : ∀ work ∈ s.runtime.open, (s.frames work.frame).Waits work.call
  frames : ∀ i, (s.frames i).Sound s.log i
  distinct : ∀ i j work work', (s.frames i).client = .putting work →
    (s.frames j).client = .putting work' → work.call = work'.call → i = j
  worker : s.runtime.worker.Sound s.log s.frames

/-! ## The catalog within one lifetime -/

/-- What a step of the catalog without a create keeps. -/
structure Advances (c c' : Catalog) : Prop where
  running : c'.lifecycle = .running → c.lifecycle = .running
  starting : c'.lifecycle = .starting → c.lifecycle = .starting
  stop : c.stopRequested → c'.stopRequested
  worker : c'.worker = c.worker ∨ c'.worker = .running

theorem Advances.refl (c : Catalog) : Advances c c := ⟨id, id, id, .inl rfl⟩

section Catalog

variable {c : Catalog} {x : Place} {op : CatalogLifecycle.Op} {i j : Nat}
  {catalog : CatalogLifecycle.State}

theorem next_advances (hx : x.creating = false) : Advances c (CatalogLifecycle.next c x).1 := by
  cases x with
  | zeroing | arming | clearing | resetting | initialising | spawning | publishing | opening =>
    cases hx
  | stopping => exact { Advances.refl c with stop := fun _ => rfl }
  | closing =>
    exact
      { Advances.refl c with
        running := by simp [CatalogLifecycle.next]
        starting := by simp [CatalogLifecycle.next] }
  | launching =>
    refine { Advances.refl c with worker := ?_ }
    rw [CatalogLifecycle.next]
    split
    · exact .inr rfl
    · exact .inl rfl
  | waiting =>
    rw [CatalogLifecycle.next]
    split <;> exact ⟨id, id, id, .inl rfl⟩
  | _ => exact ⟨id, id, id, .inl rfl⟩

theorem act_advances (hcreate : op ≠ .create) (hfail : op ≠ .fail) (hx : x.creating = false) :
    Advances c (CatalogLifecycle.act op c x).1 := by
  cases op with
  | create => exact absurd rfl hcreate
  | fail => exact absurd rfl hfail
  | next => exact next_advances hx
  | acquire => cases x <;> exact Advances.refl c
  | release => cases x <;> exact ⟨id, id, id, .inl rfl⟩
  | destroy runtime =>
    cases x with
    | idle =>
      cases runtime with
      | false => exact Advances.refl c
      | true =>
        simp only [CatalogLifecycle.act, CatalogLifecycle.begin, CatalogLifecycle.atomicCas]
        split
        · exact { Advances.refl c with running := by simp, starting := by simp }
        · exact Advances.refl c
    | _ => exact Advances.refl c

theorem release_not_giving : (CatalogLifecycle.vcCatalogRelease c).2 ≠ .giving := by
  rw [CatalogLifecycle.vcCatalogRelease]
  dsimp only
  split <;> decide

theorem next_giving (h : (CatalogLifecycle.next c x).2 = .giving) :
    (CatalogLifecycle.next c x).1 = c ∧ c.lifecycle = .stopping := by
  cases x with
  | signalling =>
    simp only [CatalogLifecycle.next] at h
    split at h
    next hstopping => exact ⟨rfl, hstopping⟩
    · cases h
  | rechecking | fetching | draining | waiting | joining =>
    simp only [CatalogLifecycle.next] at h
    split at h <;> cases h
  | leaving => exact absurd h release_not_giving
  | _ => cases h

/-- A thread gets to its `k_sem_give` when the catalog stops. -/
theorem act_giving (hcreate : op ≠ .create) (hfail : op ≠ .fail)
    (h : (CatalogLifecycle.act op c x).2 = .giving) :
    (CatalogLifecycle.act op c x).1 = c ∧ (x = .giving ∨ c.lifecycle = .stopping) := by
  cases op with
  | create => exact absurd rfl hcreate
  | fail => exact absurd rfl hfail
  | next => exact (next_giving h).imp_right .inr
  | acquire =>
    cases x with
    | idle =>
      simp only [CatalogLifecycle.act, CatalogLifecycle.begin] at h
      split at h <;> cases h
    | giving => exact ⟨rfl, .inl rfl⟩
    | _ => cases h
  | release =>
    cases x with
    | holding => exact absurd h release_not_giving
    | giving => exact ⟨rfl, .inl rfl⟩
    | _ => cases h
  | destroy runtime =>
    cases x with
    | idle =>
      cases runtime with
      | false => cases h
      | true =>
        simp only [CatalogLifecycle.act, CatalogLifecycle.begin, CatalogLifecycle.atomicCas] at h
        split at h <;> cases h
    | giving => exact ⟨rfl, .inl rfl⟩
    | _ => cases h

theorem place_move (c : Catalog) (y : Place) (hne : j ≠ i) :
    (catalog.move i c y).place j = catalog.place j := by
  simp [Pool.move, Pool.place, List.getElem?_set_ne hne.symm]

theorem place_step (op : CatalogLifecycle.Op) (hne : j ≠ i) :
    (CatalogLifecycle.step catalog (.thread i op)).place j = catalog.place j := by
  rw [CatalogLifecycle.step]
  cases hplace : catalog.place i with
  | none => rw [act_none hplace]
  | some x => rw [act_some hplace, place_move _ _ hne]

/-- A thread in the catalog stays there until it leaves. -/
theorem place_holding (h : catalog.place i = some .holding)
    (hop : op = .acquire ∨ ∃ runtime, op = .destroy runtime) :
    (CatalogLifecycle.step catalog (.thread i op)).place i = some .holding := by
  obtain ⟨hi, -⟩ := List.getElem?_eq_some_iff.mp h
  rw [CatalogLifecycle.step, act_some h]
  rcases hop with rfl | ⟨runtime, rfl⟩
  · exact List.getElem?_set_self hi
  · exact List.getElem?_set_self hi

theorem step_advances (hcreate : op ≠ .create) (hfail : op ≠ .fail)
    (hx : ∀ x, catalog.place i = some x → x.creating = false) :
    Advances catalog.shared (CatalogLifecycle.step catalog (.thread i op)).shared := by
  rw [CatalogLifecycle.step]
  cases hplace : catalog.place i with
  | none =>
    rw [act_none hplace]
    exact Advances.refl _
  | some x =>
    rw [act_some hplace]
    exact act_advances hcreate hfail (hx x hplace)

theorem step_giving (hcreate : op ≠ .create) (hfail : op ≠ .fail)
    (h : (CatalogLifecycle.step catalog (.thread i op)).place i = some .giving) :
    (CatalogLifecycle.step catalog (.thread i op)).shared = catalog.shared ∧
      (catalog.place i = some .giving ∨ catalog.shared.lifecycle = .stopping) := by
  rw [CatalogLifecycle.step] at h ⊢
  cases hplace : catalog.place i with
  | none =>
    rw [act_none hplace, hplace] at h
    cases h
  | some x =>
    obtain ⟨hi, -⟩ := List.getElem?_eq_some_iff.mp hplace
    rw [act_some hplace] at h ⊢
    have hy : (CatalogLifecycle.act op catalog.shared x).2 = .giving :=
      Option.some.inj ((List.getElem?_set_self hi).symm.trans h)
    obtain ⟨hshared, hx⟩ := act_giving hcreate hfail hy
    exact ⟨hshared, hx.imp_left (congrArg some)⟩

end Catalog

/-! ## Steps of the catalog -/

section Steps

variable {p : Program σ Cmd} {s : State σ Cmd} {i : Nat}

theorem Inv.no_creators (h : Inv s) : (census s.catalog).creating = 0 := by
  have hcreators := h.catalog.creators
  rwa [if_neg h.notStarting] at hcreators

theorem Inv.not_creating (h : Inv s) {x : Place} (hplace : s.catalog.place i = some x) :
    x.creating = false := by
  have hnone := h.no_creators
  cases hx : x.creating with
  | false => rfl
  | true =>
    have hpos : 0 < (census s.catalog).creating := count_pos hplace hx
    omega

theorem Inv.clean (h : Inv s) (hclean : Clean s (.thread i .next)) :
    CatalogLifecycle.Clean s.catalog (.thread i .next) := by
  refine ⟨fun hplace => ⟨h.signalled i hplace, ?_, hclean hplace⟩, fun hplace => ?_⟩
  · have hreset : s.catalog.count Place.reset ≤ s.catalog.count Place.creating :=
      count_mono fun place => by cases place <;> decide
    have hnone : s.catalog.count Place.creating = 0 := h.no_creators
    omega
  · exact absurd (h.not_creating hplace) (by decide)

theorem Inv.inCatalog (h : Inv s) {op : CatalogLifecycle.Op} (hcreate : op ≠ .create)
    (hfail : op ≠ .fail) (hclean : CatalogLifecycle.Clean s.catalog (.thread i op))
    (hheld : (s.frames i).client.isOut = false →
      (CatalogLifecycle.step s.catalog (.thread i op)).place i = some .holding) :
    Inv (s.inCatalog i op) := by
  have hadvances := step_advances (i := i) hcreate hfail fun x hplace => h.not_creating hplace
  exact
    { h with
      catalog := CatalogLifecycle.Inv.step h.catalog hclean
      notStarting := fun hstarting => h.notStarting (hadvances.starting hstarting)
      signalled := by
        intro j hplace hrunning
        by_cases hj : j = i
        · subst hj
          obtain ⟨-, hgiving | hstopping⟩ := step_giving hcreate hfail hplace
          · exact h.signalled j hgiving (hadvances.running hrunning)
          · exact absurd (hstopping.symm.trans (hadvances.running hrunning)) nofun
        · rw [State.inCatalog, place_step op hj] at hplace
          exact h.signalled j hplace (hadvances.running hrunning)
      exited := fun hexited => by
        rcases hadvances.worker with hworker | hworker
        · exact hadvances.stop (h.exited (hworker.symm.trans hexited))
        · exact absurd (hworker.symm.trans hexited) nofun
      held := by
        intro j hclient
        by_cases hj : j = i
        · subst hj
          exact hheld hclient
        · rw [State.inCatalog, place_step op hj]
          exact h.held j hclient }

/-! ## Steps of a client -/

@[simp] theorem setFrame_self (frame : Frame Cmd) : (s.setFrame i frame).frames i = frame :=
  Function.update_self ..

theorem setFrame_other {j : Nat} (hj : j ≠ i) (frame : Frame Cmd) :
    (s.setFrame i frame).frames j = s.frames j :=
  Function.update_of_ne hj ..

theorem Frame.Waits.unique {frame : Frame Cmd} {call call' : Nat} (h : frame.Waits call)
    (h' : frame.Waits call') : call = call' := by
  have hclient := h'.client
  rcases h.client with hold | hold <;> rw [hold] at hclient <;>
    rcases hclient with hclient | hclient <;> cases hclient <;> rfl

theorem Frame.sound_iff {log : Log} {frame : Frame Cmd} (call : Nat)
    (hclient : frame.client = .waking call ∨ frame.client = .taking call) :
    frame.Sound log i ↔ (frame.resultSem → (call, frame.result) ∈ log.dispatched) := by
  unfold Frame.Sound
  rcases hclient with hclient | hclient <;> rw [hclient]

theorem Worker.Sound.congr {worker : Worker Cmd} {log log' : Log} {frames frames' : Nat → Frame Cmd}
    (h : worker.Sound log frames) (hlog : log.dispatched ⊆ log'.dispatched)
    (hframes : ∀ work ∈ worker.unanswered,
      (frames' work.frame).result = (frames work.frame).result) :
    worker.Sound log' frames' := by
  cases worker with
  | answering work result => exact hlog h
  | giving work =>
    rw [Worker.Sound, hframes work (List.mem_singleton_self work)]
    exact hlog h
  | _ => trivial

theorem Frame.Sound.mono {log log' : Log} {frame : Frame Cmd} (h : frame.Sound log i)
    (hlog : log.dispatched ⊆ log'.dispatched)
    (hfresh : ∀ work, frame.client = .putting work → log'.Fresh work.call) :
    frame.Sound log' i := by
  unfold Frame.Sound at h ⊢
  split at h
  · trivial
  next work hclient => exact ⟨h.1, h.2.1, hfresh work hclient⟩
  · exact fun hsem => hlog (h hsem)
  · exact fun hsem => hlog (h hsem)
  · exact hlog h

/-- A thread whose frame no open command points into takes a step of its own. -/
theorem Inv.ofClient (h : Inv s) {frame : Frame Cmd} {runtime : VcRuntime σ Cmd} {log : Log}
    (hidle : ∀ work ∈ s.runtime.open, work.frame ≠ i)
    (hworker : runtime.worker = s.runtime.worker)
    (hqueue : ∀ work ∈ runtime.commandQueue,
      work ∈ s.runtime.commandQueue ∨ work.frame = i ∧ frame.Waits work.call)
    (hlog : log.Inv) (hdispatched : log.dispatched = s.log.dispatched)
    (horder : log.dispatchedCalls ++ runtime.pending.map (·.call) = log.admitted)
    (hheld : frame.client.isOut = false → s.catalog.place i = some .holding)
    (hsound : frame.Sound log i)
    (hfresh : ∀ j ≠ i, ∀ work, (s.frames j).client = .putting work → log.Fresh work.call)
    (hdistinct : ∀ work, frame.client = .putting work → ∀ j ≠ i, ∀ work',
      (s.frames j).client = .putting work' → work.call ≠ work'.call) :
    Inv { s.setFrame i frame with runtime := runtime, log := log } := by
  have hself : (s.setFrame i frame).frames i = frame := setFrame_self frame
  have hother : ∀ j ≠ i, (s.setFrame i frame).frames j = s.frames j :=
    fun j hj => setFrame_other hj frame
  exact
    { h with
      log := hlog
      order := horder
      held := by
        intro j hclient
        by_cases hj : j = i
        · subst hj
          exact hheld (hself ▸ hclient)
        · exact h.held j (hother j hj ▸ hclient)
      waits := by
        intro work hwork
        have hcase : work ∈ s.runtime.open ∨ work.frame = i ∧ frame.Waits work.call := by
          rw [VcRuntime.open, hworker] at hwork
          rcases List.mem_append.mp hwork with hwork | hwork
          · exact .inl (List.mem_append_left _ hwork)
          · exact (hqueue work hwork).imp_left (List.mem_append_right _)
        rcases hcase with hopen | ⟨hframe, hwaits⟩
        · show ((s.setFrame i frame).frames work.frame).Waits work.call
          rw [hother work.frame (hidle work hopen)]
          exact h.waits work hopen
        · show ((s.setFrame i frame).frames work.frame).Waits work.call
          rw [hframe, hself]
          exact hwaits
      frames := by
        intro j
        by_cases hj : j = i
        · subst hj
          show ((s.setFrame j frame).frames j).Sound log j
          rw [hself]
          exact hsound
        · show ((s.setFrame i frame).frames j).Sound log j
          rw [hother j hj]
          exact (h.frames j).mono (hdispatched ▸ List.Subset.refl _) (hfresh j hj)
      distinct := by
        intro j k work work' hj hk hcall
        by_contra hne
        by_cases hji : j = i
        · subst hji
          have hk' := hother k (Ne.symm hne) ▸ hk
          exact hdistinct work (hself ▸ hj) k (Ne.symm hne) work' hk' hcall
        · have hj' := hother j hji ▸ hj
          by_cases hki : k = i
          · subst hki
            exact hdistinct work' (hself ▸ hk) j hji work hj' hcall.symm
          · exact hne (h.distinct j k work work' hj' (hother k hki ▸ hk) hcall)
      worker := by
        show runtime.worker.Sound log (s.setFrame i frame).frames
        rw [hworker]
        refine h.worker.congr (hdispatched ▸ List.Subset.refl _) fun work hwork => ?_
        rw [hother work.frame (hidle work (List.mem_append_left _ hwork))] }

/-- A frame that nobody waits in. -/
theorem Inv.not_open (h : Inv s) (hidle : ∀ call, ¬(s.frames i).Waits call) :
    ∀ work ∈ s.runtime.open, work.frame ≠ i :=
  fun work hwork hframe => hidle work.call (hframe ▸ h.waits work hwork)

theorem Inv.not_open_of_client (h : Inv s)
    (hclient : ∀ call, (s.frames i).client ≠ .waking call ∧ (s.frames i).client ≠ .taking call) :
    ∀ work ∈ s.runtime.open, work.frame ≠ i :=
  h.not_open fun call hwaits =>
    hwaits.client.elim (hclient call).1 (hclient call).2

theorem isOut_iff {client : Client Cmd} : client.isOut = true ↔ client = .out := by
  cases client <;> simp [Client.isOut]

theorem Log.Fresh.later {log : Log} {call : Nat} (h : log.Fresh call) :
    Log.Fresh { log with calls := log.calls + 1 } call :=
  { h with numbered := Nat.lt_succ_of_lt h.numbered }

theorem Inv.fresh (h : Inv s) {work : VcRuntimeWorkItem Cmd}
    (hclient : (s.frames i).client = .putting work) :
    work.frame = i ∧ (s.frames i).resultSem = false ∧ s.log.Fresh work.call := by
  have hsound := h.frames i
  rwa [Frame.Sound, hclient] at hsound

theorem Inv.submit (h : Inv s) (cmd : Cmd) (hplace : s.catalog.place i = some .holding)
    (hout : (s.frames i).client.isOut) : Inv (submitCommand s i cmd) := by
  have hclient := isOut_iff.mp hout
  have hnumbered := h.log.numbered
  have hnew : Log.Fresh { s.log with calls := s.log.calls + 1 } s.log.calls :=
    { numbered := Nat.lt_succ_self _
      notAdmitted := fun hmem =>
        Nat.lt_irrefl _ (hnumbered _ (List.mem_append_left _ hmem))
      notTimedOut := fun hmem =>
        Nat.lt_irrefl _ (hnumbered _ (List.mem_append_right _ hmem)) }
  refine h.ofClient (h.not_open_of_client (by simp [hclient])) rfl (fun work hwork => .inl hwork)
    ?_ rfl h.order (fun _ => hplace) ⟨rfl, rfl, hnew⟩
    (fun j _ work hj => (h.fresh hj).2.2.later) ?_
  · exact { h.log with numbered := fun call hmem => Nat.lt_succ_of_lt (hnumbered call hmem) }
  · intro work hwork j _ work' hj hcall
    cases hwork
    exact absurd (h.fresh hj).2.2.numbered (hcall ▸ Nat.lt_irrefl _)

/-- Another thread's call is another one. -/
theorem Inv.distinct_of_ne (h : Inv s) {j : Nat} {work work' : VcRuntimeWorkItem Cmd}
    (hi : (s.frames i).client = .putting work) (hj : (s.frames j).client = .putting work')
    (hne : j ≠ i) : work'.call ≠ work.call :=
  fun hcall => hne (h.distinct j i work' work hj hi hcall)

/-- `k_msgq_put` succeeds. -/
theorem Inv.put (h : Inv s) {work : VcRuntimeWorkItem Cmd}
    (hclient : (s.frames i).client = .putting work) :
    Inv { s.setFrame i { s.frames i with client := .waking work.call } with
      runtime := { s.runtime with commandQueue := s.runtime.commandQueue ++ [work] }
      log := { s.log with admitted := s.log.admitted ++ [work.call] } } := by
  obtain ⟨hframe, hsem, hfresh⟩ := h.fresh hclient
  have hplace := h.held i (by rw [hclient]; rfl)
  refine h.ofClient (h.not_open_of_client (by simp [hclient])) rfl (fun w hw => ?_) ?_ rfl ?_
    (fun _ => hplace) ?_ (fun j hj w hw => ?_) nofun
  · rcases List.mem_append.mp hw with hw | hw
    · exact .inl hw
    · obtain rfl := List.mem_singleton.mp hw
      exact .inr ⟨hframe, .inl rfl, hsem⟩
  · refine { h.log with once := ?_, numbered := ?_, disjoint := ?_ }
    · exact List.nodup_append_comm.mp (List.nodup_cons.mpr ⟨hfresh.notAdmitted, h.log.once⟩)
    · have hnumbered := h.log.numbered
      have hcall := hfresh.numbered
      grind
    · have hdisjoint := h.log.disjoint
      have hcall := hfresh.notTimedOut
      grind
  · have horder := h.order
    simp only [VcRuntime.pending, List.map_append, ← List.append_assoc] at horder ⊢
    rw [← horder]
    rfl
  · exact fun hgiven => absurd (hsem.symm.trans hgiven) nofun
  · have hother := (h.fresh hw).2.2
    have hne := h.distinct_of_ne hclient hw hj
    refine { hother with notAdmitted := fun hmem => ?_ }
    rcases List.mem_append.mp hmem with hmem | hmem
    · exact hother.notAdmitted hmem
    · exact hne (List.mem_singleton.mp hmem)

theorem Inv.timeout (h : Inv s) : Inv (admissionTimeout p s i) := by
  unfold admissionTimeout
  extract_lets frame
  split
  next work hclient =>
    split
    · exact h
    obtain ⟨hframe, hsem, hfresh⟩ := h.fresh hclient
    have hputting : (s.frames i).client = .putting work := hclient
    refine h.ofClient (h.not_open_of_client (by simp [hputting])) rfl (fun w hw => .inl hw) ?_ rfl
      h.order nofun trivial (fun j hj w hw => ?_) nofun
    · refine { h.log with numbered := ?_, disjoint := ?_, returned := ?_ }
      · have hnumbered := h.log.numbered
        have hcall := hfresh.numbered
        grind
      · have hdisjoint := h.log.disjoint
        have hcall := hfresh.notAdmitted
        grind
      · have hreturned := h.log.returned
        grind
    · have hother := (h.fresh hw).2.2
      have hne := h.distinct_of_ne hclient hw hj
      refine { hother with notTimedOut := fun hmem => ?_ }
      rcases List.mem_append.mp hmem with hmem | hmem
      · exact hother.notTimedOut hmem
      · exact hne (List.mem_singleton.mp hmem)
  · exact h

/-- The frame of an admitted call changes. -/
theorem Inv.ofAdmitted (h : Inv s) {frame : Frame Cmd} {runtime : VcRuntime σ Cmd} {call : Nat}
    (hold : (s.frames i).client = .waking call ∨ (s.frames i).client = .taking call)
    (hnew : frame.client = .waking call ∨ frame.client = .taking call)
    (hopen : ∀ work ∈ runtime.open, work ∈ s.runtime.open)
    (hpending : runtime.pending.map (·.call) = s.runtime.pending.map (·.call))
    (hwaits : ∀ work ∈ runtime.open, work.frame = i → (s.frames i).Waits work.call →
      frame.resultSem = false)
    (hsound : frame.Sound s.log i)
    (hworker : runtime.worker.Sound s.log (s.setFrame i frame).frames) :
    Inv { s.setFrame i frame with runtime := runtime } := by
  have hself : (s.setFrame i frame).frames i = frame := setFrame_self frame
  have hother : ∀ j ≠ i, (s.setFrame i frame).frames j = s.frames j :=
    fun j hj => setFrame_other hj frame
  have hputting : ∀ j work, ((s.setFrame i frame).frames j).client = .putting work →
      (s.frames j).client = .putting work := by
    intro j work hj
    by_cases hji : j = i
    · subst hji
      rw [hself] at hj
      rcases hnew with hnew | hnew <;> rw [hnew] at hj <;> cases hj
    · exact hother j hji ▸ hj
  exact
    { h with
      order := hpending ▸ h.order
      held := by
        intro j hclient
        by_cases hj : j = i
        · subst hj
          refine h.held j ?_
          rcases hold with hold | hold <;> rw [hold] <;> rfl
        · exact h.held j (hother j hj ▸ hclient)
      waits := by
        intro work hwork
        have hold' := h.waits work (hopen work hwork)
        show ((s.setFrame i frame).frames work.frame).Waits work.call
        by_cases hj : work.frame = i
        · rw [hj] at hold' ⊢
          have hsame : call = work.call :=
            Frame.Waits.unique ⟨hold, hold'.resultSem⟩ hold'
          rw [hself]
          exact ⟨hsame ▸ hnew, hwaits work hwork hj hold'⟩
        · rw [hother work.frame hj]
          exact hold'
      frames := by
        intro j
        show ((s.setFrame i frame).frames j).Sound s.log j
        by_cases hj : j = i
        · subst hj
          rw [hself]
          exact hsound
        · rw [hother j hj]
          exact h.frames j
      distinct := fun j k work work' hj hk =>
        h.distinct j k work work' (hputting j work hj) (hputting k work' hk)
      worker := hworker }

theorem Inv.wake (h : Inv s) {call : Nat} (hclient : (s.frames i).client = .waking call) :
    Inv { s.setFrame i { s.frames i with client := .taking call } with
      runtime := { s.runtime with wake := true } } := by
  refine h.ofAdmitted (.inl hclient) (.inr rfl) (fun _ hwork => hwork) rfl
    (fun _ _ _ hwaits => hwaits.resultSem) ?_ (h.worker.congr (List.Subset.refl _) ?_)
  · exact (Frame.sound_iff call (.inr rfl)).mpr
      ((Frame.sound_iff call (.inl hclient)).mp (h.frames i))
  · intro work _
    by_cases hframe : work.frame = i
    · rw [hframe, setFrame_self]
    · rw [setFrame_other hframe]

theorem Inv.client (h : Inv s) : Inv (clientStep p s i) := by
  unfold clientStep
  extract_lets frame
  split
  · exact h
  next work hclient =>
    split
    · exact h.put hclient
    · exact h
  next call hclient => exact h.wake hclient
  next call hclient =>
    split
    next hsem =>
      have hplace := h.held i (by rw [hclient]; rfl)
      refine h.ofClient (h.not_open fun call hwaits => ?_) rfl (fun w hw => .inl hw) h.log rfl
        h.order (fun _ => hplace) ?_ (fun j _ w hw => (h.fresh hw).2.2) nofun
      · exact absurd (hwaits.resultSem.symm.trans hsem) nofun
      · exact (Frame.sound_iff call (.inr hclient)).mp (h.frames i) hsem
    · exact h
  next call hclient =>
    have hreturning : (s.frames i).client = .returning call := hclient
    have hsound := h.frames i
    rw [Frame.Sound, hreturning] at hsound
    refine h.ofClient (h.not_open_of_client (by simp [hreturning])) rfl (fun w hw => .inl hw) ?_ rfl
      h.order nofun trivial (fun j _ w hw => ?_) nofun
    · refine { h.log with returned := fun answer hmem => ?_ }
      rcases List.mem_append.mp hmem with hmem | hmem
      · exact h.log.returned answer hmem
      · rw [List.mem_singleton.mp hmem]
        exact .inr hsound
    · exact { (h.fresh hw).2.2 with }

/-! ## Steps of the worker -/

/-- The worker goes on without touching a frame. -/
theorem Inv.ofWorker (h : Inv s) {runtime : VcRuntime σ Cmd} {dispatched : List (Nat × VcStatus)}
    (hdispatched : s.log.dispatched ⊆ dispatched)
    (horder : dispatched.map Prod.fst ++ runtime.pending.map (·.call) = s.log.admitted)
    (hopen : runtime.open = s.runtime.open)
    (hworker : runtime.worker.Sound { s.log with dispatched := dispatched } s.frames) :
    Inv { s with runtime := runtime, log := { s.log with dispatched := dispatched } } :=
  { h with
    log := { h.log with
      returned := fun answer hmem =>
        (h.log.returned answer hmem).imp_right fun hin => hdispatched hin }
    order := horder
    waits := fun work hwork => h.waits work (hopen ▸ hwork)
    frames := fun i => (h.frames i).mono hdispatched fun _ hw => { (h.fresh hw).2.2 with }
    worker := hworker }

/-- The worker sees the stop request. -/
theorem Inv.exit (h : Inv s) :
    Inv { s with catalog := CatalogLifecycle.step s.catalog .worker } := by
  have hshared : (CatalogLifecycle.step s.catalog .worker).shared =
      CatalogLifecycle.vcRuntimeWorker s.catalog.shared := rfl
  have hworker : CatalogLifecycle.vcRuntimeWorker s.catalog.shared =
      { s.catalog.shared with
        worker := (CatalogLifecycle.vcRuntimeWorker s.catalog.shared).worker } := by
    unfold CatalogLifecycle.vcRuntimeWorker
    split <;> rfl
  have hexited : (CatalogLifecycle.vcRuntimeWorker s.catalog.shared).worker = .exited →
      s.catalog.shared.stopRequested := by
    unfold CatalogLifecycle.vcRuntimeWorker
    split
    next hstop => exact fun _ => hstop.2
    · exact h.exited
  rw [hworker] at hshared
  exact
    { h with
      catalog := h.catalog.worker
      notStarting := by
        rw [hshared]
        exact h.notStarting
      signalled := by
        rw [hshared]
        exact h.signalled
      exited := by
        rw [hshared]
        exact hexited }

theorem Inv.worker_step (h : Inv s) (dtMs : UInt32) : Inv (workerStep p s dtMs) := by
  have horder := h.order
  have hsound := h.worker
  have hwaits := h.waits
  obtain ⟨catalog, ⟨ctrl, wake, commandQueue, worker⟩, frames, log⟩ := s
  cases worker with
  | checking =>
    simp only [workerStep]
    split
    · exact h.exit
    · exact h.ofWorker (List.Subset.refl _) horder rfl trivial
  | sleeping => exact h.ofWorker (List.Subset.refl _) horder rfl trivial
  | getting =>
    cases commandQueue with
    | nil => exact h.ofWorker (List.Subset.refl _) horder rfl trivial
    | cons work rest => exact h.ofWorker (List.Subset.refl _) horder rfl trivial
  | dispatching work =>
    refine h.ofWorker (List.subset_append_left ..) ?_ rfl ?_
    · simpa [VcRuntime.pending, Worker.hand, Log.dispatchedCalls] using horder
    · exact List.mem_append_right _ (List.mem_singleton_self _)
  | answering work result =>
    have hwork := hwaits work List.mem_cons_self
    have hclient := hwork.client
    refine h.ofAdmitted hclient hclient (fun _ hin => hin) rfl
      (fun _ _ _ hwaits => hwaits.resultSem) ?_ ?_
    · refine (Frame.sound_iff work.call ?_).mpr fun hsem => ?_
      · exact hclient
      · exact absurd (hwork.resultSem.symm.trans hsem) nofun
    · rw [Worker.Sound, setFrame_self]
      exact hsound
  | giving work =>
    have hwork := hwaits work List.mem_cons_self
    have hclient := hwork.client
    refine h.ofAdmitted hclient hclient (fun _ hin => List.mem_cons_of_mem _ hin) rfl ?_ ?_ trivial
    · -- no command in the queue points into the frame of one that was dispatched
      intro other hother _ hwaits'
      have hcall := hwork.unique hwaits'
      have hdisjoint := (List.nodup_append.mp (horder ▸ h.log.once)).2.2
      exact absurd hcall (hdisjoint work.call (List.mem_map_of_mem hsound) other.call
        (List.mem_map_of_mem hother))
    · refine (Frame.sound_iff work.call ?_).mpr fun _ => ?_
      · exact hclient
      · exact hsound
  | ticking => exact h.ofWorker (List.Subset.refl _) horder rfl trivial

/-! ## Runs -/

theorem Inv.step {e : Event Cmd} (h : Inv s) (hclean : Clean s e) : Inv (step p s e) := by
  cases e with
  | worker dtMs =>
    rw [CommandQueue.step]
    split
    · exact h.worker_step dtMs
    · exact h
  | thread i op =>
    cases op with
    | acquire =>
      exact h.inCatalog nofun nofun trivial fun hclient =>
        place_holding (h.held i hclient) (.inl rfl)
    | destroy runtime =>
      exact h.inCatalog nofun nofun trivial fun hclient =>
        place_holding (h.held i hclient) (.inr ⟨runtime, rfl⟩)
    | release =>
      rw [CommandQueue.step, threadStep]
      split
      next hout =>
        exact h.inCatalog nofun nofun trivial fun hclient => absurd hout (by simp [hclient])
      · exact h
    | submit cmd =>
      rw [CommandQueue.step, threadStep]
      split
      next hcan => exact h.submit cmd hcan.1 hcan.2
      · exact h
    | next =>
      rw [CommandQueue.step, threadStep]
      split
      next hout =>
        exact h.inCatalog nofun nofun (h.clean hclean) fun hclient =>
          absurd hout (by simp [hclient])
      · exact h.client
    | timeout => exact h.timeout

/-- A command that is not answered keeps its thread in the catalog. -/
theorem Inv.open_nil (h : Inv s) (hinside : (census s.catalog).inside = 0) :
    s.runtime.open = [] := by
  refine List.eq_nil_iff_forall_not_mem.mpr fun work hwork => ?_
  have hclient : (s.frames work.frame).client.isOut = false := by
    rcases (h.waits work hwork).client with hclient | hclient <;> rw [hclient] <;> rfl
  have hpos : 0 < (census s.catalog).inside := count_pos (h.held work.frame hclient) rfl
  omega

theorem pending_nil {runtime : VcRuntime σ Cmd} (h : runtime.open = []) : runtime.pending = [] := by
  obtain ⟨hworker, hqueue⟩ := List.append_eq_nil_iff.mp h
  rw [VcRuntime.pending, hqueue]
  cases hplace : runtime.worker <;> rw [hplace] at hworker <;> first | rfl | cases hworker

theorem Inv.all_dispatched (h : Inv s) (hinside : (census s.catalog).inside = 0) :
    s.log.dispatchedCalls = s.log.admitted := by
  have horder := h.order
  rwa [pending_nil (h.open_nil hinside), List.map_nil, List.append_nil] at horder

theorem Inv.dispatched_sublist (h : Inv s) : s.log.dispatchedCalls <+: s.log.admitted :=
  ⟨_, h.order⟩

theorem Inv.delivered (h : Inv s) : Delivered s where
  inOrder := h.dispatched_sublist
  once := h.log.once
  ownStatus answer hreturned hadmitted :=
    (h.log.returned answer hreturned).resolve_left fun htimedOut =>
      h.log.disjoint answer.1 htimedOut hadmitted
  timeouts call htimedOut hdispatched :=
    h.log.disjoint call htimedOut (h.dispatched_sublist.subset hdispatched)
  destroyed hstopped := h.all_dispatched (h.catalog.closed (.inl hstopped))

theorem count_opened (kind : Place → Bool) (hidle : kind .idle = false)
    (hlaunching : kind .launching = false) (n : Nat) : (openedCatalog n).count kind = 0 := by
  simp [openedCatalog, Pool.count, List.countP_replicate, hidle, hlaunching]

theorem openedCatalog_inv (n : Nat) : CatalogLifecycle.Inv (openedCatalog n) :=
  have hinside : (census (openedCatalog n)).inside = 0 := count_opened Place.inside rfl rfl n
  { active := congrArg Int.ofNat (count_opened Place.counted rfl rfl n).symm
    creators := count_opened Place.creating rfl rfl n
    destroyers := count_opened Place.destroying rfl rfl n
    drained := fun _ => hinside
    closed := fun _ => hinside
    token := fun h => absurd h Bool.false_ne_true
    stop := fun h => absurd h Bool.false_ne_true }

theorem Inv.opened (ctrl : σ) (n : Nat) : Inv (opened ctrl n : State σ Cmd) where
  catalog := openedCatalog_inv n
  notStarting := nofun
  signalled i hplace := by
    have hpos : 0 < (openedCatalog n).count (fun place => place = .giving) := count_pos hplace rfl
    rw [count_opened _ rfl rfl n] at hpos
    exact absurd hpos (Nat.lt_irrefl 0)
  exited := nofun
  log := ⟨List.nodup_nil, nofun, nofun, nofun⟩
  order := rfl
  held _ hclient := nomatch hclient
  waits := nofun
  frames _ := trivial
  distinct _ _ _ _ hi := nomatch hi
  worker := trivial

/-! ### Progress -/

def Event.isWorker : Event Cmd → Bool
  | .worker _ => true
  | .thread .. => false

/-- How many steps the worker takes up to its next dispatch, while the queue is not empty. -/
def Worker.distance : Worker Cmd → Nat
  | .dispatching _ => 1
  | .getting => 2
  | .sleeping | .giving _ => 3
  | .checking | .answering .. => 4
  | .ticking => 5

/-- How many steps the worker takes until `k` commands are dispatched, when so many are
admitted. -/
def rank (k : Nat) (s : State σ Cmd) : Nat :=
  if k ≤ s.log.dispatched.length then 0
  else s.runtime.worker.distance + 4 * (k - s.log.dispatched.length - 1)

/-- A step of a thread is none of the worker. -/
structure Threaded (s s' : State σ Cmd) : Prop where
  worker : s'.runtime.worker = s.runtime.worker
  dispatched : s'.log.dispatched = s.log.dispatched
  admitted : s.log.admitted <+: s'.log.admitted

theorem Threaded.refl (s : State σ Cmd) : Threaded s s := ⟨rfl, rfl, List.prefix_refl _⟩

theorem threadStep_threaded (op : Op Cmd) : Threaded s (threadStep p s i op) := by
  have hrefl := Threaded.refl s
  cases op with
  | acquire | destroy => exact ⟨rfl, rfl, List.prefix_refl _⟩
  | release | submit =>
    rw [threadStep]
    split
    · exact ⟨rfl, rfl, List.prefix_refl _⟩
    · exact hrefl
  | timeout =>
    rw [threadStep, admissionTimeout]
    extract_lets frame
    split
    · split
      · exact hrefl
      · exact ⟨rfl, rfl, List.prefix_refl _⟩
    · exact hrefl
  | next =>
    rw [threadStep]
    split
    · exact ⟨rfl, rfl, List.prefix_refl _⟩
    rw [clientStep]
    extract_lets frame
    split
    · exact hrefl
    · split
      · exact ⟨rfl, rfl, List.prefix_append ..⟩
      · exact hrefl
    · exact ⟨rfl, rfl, List.prefix_refl _⟩
    · split
      · exact ⟨rfl, rfl, List.prefix_refl _⟩
      · exact hrefl
    · exact ⟨rfl, rfl, List.prefix_refl _⟩

theorem workerStep_admitted (dtMs : UInt32) :
    (workerStep p s dtMs).log.admitted = s.log.admitted := by
  unfold workerStep
  extract_lets runtime
  split
  case h_1 => split <;> rfl
  case h_3 => split <;> rfl
  all_goals rfl

theorem workerStep_dispatched (dtMs : UInt32) :
    s.log.dispatched <+: (workerStep p s dtMs).log.dispatched := by
  unfold workerStep
  extract_lets runtime
  split
  case h_1 => split <;> exact List.prefix_refl _
  case h_3 => split <;> exact List.prefix_refl _
  case h_4 => exact List.prefix_append ..
  all_goals exact List.prefix_refl _

variable {k : Nat}

theorem dispatchedCalls_length (log : Log) : log.dispatchedCalls.length = log.dispatched.length :=
  List.length_map _

theorem Inv.length_le (h : Inv s) : s.log.dispatched.length ≤ s.log.admitted.length :=
  dispatchedCalls_length s.log ▸ h.dispatched_sublist.length_le

theorem rank_done (h : k ≤ s.log.dispatched.length) : rank k s = 0 := if_pos h

theorem rank_le (k : Nat) (s : State σ Cmd) : rank k s ≤ 4 * (k - s.log.dispatched.length) + 1 := by
  unfold rank
  split
  · omega
  · cases s.runtime.worker <;> simp only [Worker.distance] <;> omega

theorem done_of_rank (h : rank k s = 0) : k ≤ s.log.dispatched.length := by
  unfold rank at h
  split at h
  · assumption
  · cases hworker : s.runtime.worker <;> rw [hworker, Worker.distance] at h <;> omega

/-- When the stop is requested every admitted command is dispatched. -/
theorem Inv.stop_done (h : Inv s) (hstop : s.catalog.shared.stopRequested)
    (hk : k ≤ s.log.admitted.length) : k ≤ s.log.dispatched.length := by
  rw [← dispatchedCalls_length, h.all_dispatched (h.catalog.stop hstop).2.2]
  exact hk

theorem Inv.rank_worker (h : Inv s) (hk : k ≤ s.log.admitted.length) (dtMs : UInt32) :
    rank k (workerStep p s dtMs) ≤ rank k s - 1 := by
  by_cases hdone : k ≤ s.log.dispatched.length
  · rw [rank_done (Nat.le_trans hdone (workerStep_dispatched dtMs).length_le)]
    exact Nat.zero_le _
  have horder := h.order
  have hstop := h.stop_done (k := k)
  obtain ⟨catalog, ⟨ctrl, wake, commandQueue, worker⟩, frames, log⟩ := s
  have hrank : ∀ s' : State σ Cmd, s'.log.dispatched = log.dispatched →
      rank k s' = s'.runtime.worker.distance + 4 * (k - log.dispatched.length - 1) := by
    intro s' hdispatched
    rw [rank, hdispatched, if_neg hdone]
  cases worker with
  | checking =>
    simp only [workerStep]
    split
    next hstopped => exact absurd (hstop hstopped hk) hdone
    · rw [hrank _ rfl, hrank _ rfl]
      simp only [Worker.distance]
      omega
  | getting =>
    cases commandQueue with
    | nil =>
      have hall : log.dispatchedCalls = log.admitted := by
        simpa [VcRuntime.pending, Worker.hand] using horder
      exact absurd (dispatchedCalls_length log ▸ hall ▸ hk) hdone
    | cons work rest =>
      rw [hrank _ rfl, hrank _ rfl]
      simp only [workerStep, Worker.distance]
      omega
  | dispatching work =>
    rw [hrank ⟨catalog, ⟨ctrl, wake, commandQueue, .dispatching work⟩, frames, log⟩ rfl, rank]
    simp only [workerStep, Worker.distance, List.length_append, List.length_singleton]
    split <;> omega
  | sleeping | answering | giving | ticking =>
    rw [hrank _ rfl, hrank _ rfl]
    simp only [workerStep, Worker.distance]
    omega

/-- `k_thread_start` has started the worker. -/
def Started (s : State σ Cmd) : Prop :=
  s.catalog.shared.worker = .running ∨ s.catalog.shared.worker = .exited

theorem inCatalog_started (h : Inv s) (hstarted : Started s) {op : CatalogLifecycle.Op}
    (hcreate : op ≠ .create) (hfail : op ≠ .fail) : Started (s.inCatalog i op) := by
  have hadvances := step_advances (i := i) hcreate hfail fun x hplace => h.not_creating hplace
  rcases hadvances.worker with hworker | hworker
  · exact hstarted.imp hworker.trans hworker.trans
  · exact .inl hworker

theorem clientStep_catalog : (clientStep p s i).catalog = s.catalog := by
  unfold clientStep
  extract_lets frame
  split
  case h_2 => split <;> rfl
  case h_4 => split <;> rfl
  all_goals rfl

theorem admissionTimeout_catalog : (admissionTimeout p s i).catalog = s.catalog := by
  unfold admissionTimeout
  extract_lets frame
  split
  · split <;> rfl
  · rfl

theorem workerStep_started (hstarted : Started s) (dtMs : UInt32) :
    Started (workerStep p s dtMs) := by
  unfold workerStep
  extract_lets runtime
  split
  case h_1 =>
    split
    · show _ ∨ _
      simp only [CatalogLifecycle.step, CatalogLifecycle.vcRuntimeWorker]
      split
      · exact .inr rfl
      · exact hstarted
    · exact hstarted
  case h_3 => split <;> exact hstarted
  all_goals exact hstarted

theorem Inv.step_started (h : Inv s) (hstarted : Started s) (e : Event Cmd) :
    Started (CommandQueue.step p s e) := by
  cases e with
  | worker dtMs =>
    rw [CommandQueue.step]
    split
    · exact workerStep_started hstarted dtMs
    · exact hstarted
  | thread i op =>
    cases op with
    | acquire | destroy => exact inCatalog_started h hstarted nofun nofun
    | release =>
      rw [CommandQueue.step, threadStep]
      split
      · exact inCatalog_started h hstarted nofun nofun
      · exact hstarted
    | submit =>
      rw [CommandQueue.step, threadStep]
      split <;> exact hstarted
    | next =>
      rw [CommandQueue.step, threadStep]
      split
      · exact inCatalog_started h hstarted nofun nofun
      · rw [Started, clientStep_catalog]
        exact hstarted
    | timeout =>
      rw [CommandQueue.step, threadStep, Started, admissionTimeout_catalog]
      exact hstarted

theorem Inv.rank_step (h : Inv s) (hstarted : Started s) (hk : k ≤ s.log.admitted.length)
    (e : Event Cmd) : rank k (CommandQueue.step p s e) ≤ rank k s - e.isWorker.toNat := by
  cases e with
  | thread i op =>
    have hthreaded : Threaded s (CommandQueue.step p s (.thread i op)) := threadStep_threaded op
    rw [rank, rank, hthreaded.worker, hthreaded.dispatched]
    exact Nat.le_refl _
  | worker dtMs =>
    rw [CommandQueue.step]
    split
    · exact h.rank_worker hk dtMs
    next hrun =>
      rw [rank_done (h.stop_done (h.exited (hstarted.resolve_left hrun)) hk)]
      exact Nat.zero_le _

theorem step_admitted (e : Event Cmd) :
    s.log.admitted <+: (CommandQueue.step p s e).log.admitted := by
  cases e with
  | thread i op => exact (threadStep_threaded op).admitted
  | worker dtMs =>
    rw [CommandQueue.step]
    split
    · exact (workerStep_admitted dtMs).symm ▸ List.prefix_refl _
    · exact List.prefix_refl _

/-- The worker gets on, whatever the threads do in between. -/
theorem Inv.rank_exec {events : List (Event Cmd)} (h : Inv s) (hstarted : Started s)
    (hk : k ≤ s.log.admitted.length) (hclean : Along (CommandQueue.step p) Clean s events) :
    rank k (exec (CommandQueue.step p) s events) ≤ rank k s - events.countP Event.isWorker := by
  induction events generalizing s with
  | nil => exact Nat.le_refl _
  | cons e events ih =>
    have hfirst := h.rank_step hstarted hk e (p := p)
    have hrest := ih (h.step hclean.1) (h.step_started hstarted e)
      (Nat.le_trans hk (step_admitted e).length_le) hclean.2
    have hcount : (e :: events).countP Event.isWorker =
        events.countP Event.isWorker + e.isWorker.toNat := by
      rw [List.countP_cons]
      cases e.isWorker <;> rfl
    rw [exec, hcount]
    omega

theorem exec_admitted (s : State σ Cmd) (events : List (Event Cmd)) :
    s.log.admitted <+: (exec (CommandQueue.step p) s events).log.admitted := by
  induction events generalizing s with
  | nil => exact List.prefix_refl _
  | cons e events ih => exact (step_admitted e).trans (ih _)

theorem Inv.exec {events : List (Event Cmd)} (h : Inv s)
    (hclean : Along (CommandQueue.step p) Clean s events) :
    Inv (Runs.exec (CommandQueue.step p) s events) :=
  exec_invariant (fun _ _ hinv hclean => hinv.step hclean) h hclean

/-- So many steps of the worker dispatch every command that is admitted now. -/
theorem Inv.served {events : List (Event Cmd)} (h : Inv s) (hstarted : Started s)
    (hclean : Along (CommandQueue.step p) Clean s events)
    (hcount : 4 * (s.log.admitted.length - s.log.dispatched.length) + 1 ≤
      events.countP Event.isWorker) :
    s.log.admitted <+: (Runs.exec (CommandQueue.step p) s events).log.dispatchedCalls := by
  have hrank := h.rank_exec hstarted (Nat.le_refl _) hclean
  have hbound := rank_le s.log.admitted.length s
  have hdone := done_of_rank (Nat.le_zero.mp (Nat.le_trans hrank (by omega)))
  exact List.prefix_of_prefix_length_le (exec_admitted s events) (h.exec hclean).dispatched_sublist
    (dispatchedCalls_length _ ▸ hdone)

end Steps

/-- Without a late signal every admitted command is dispatched once, in order of admission, its
status goes to its submitter, and the worker gets through the queue before
`vc_runtime_destroy` ends. -/
theorem commands_delivered (p : Program σ Cmd) (ctrl : σ) (n : Nat) (events : List (Event Cmd))
    (h : Along (step p) Clean (opened ctrl n) events) :
    Along (step p) (fun s e => Delivered (step p s e)) (opened ctrl n) events ∧
      ∀ before after, events = before ++ after →
        let s := exec (step p) (opened ctrl n) before
        Started s →
        4 * (s.log.admitted.length - s.log.dispatched.length) + 1 ≤
          after.countP Event.isWorker →
        s.log.admitted <+: (exec (step p) s after).log.dispatchedCalls := by
  refine ⟨.of_invariant (fun _ _ hinv hclean => hinv.step hclean)
    (fun _ _ hinv hclean => (hinv.step hclean).delivered) (Inv.opened ctrl n) h, ?_⟩
  rintro before after rfl s hstarted hcount
  obtain ⟨hbefore, hafter⟩ := along_append.mp h
  exact ((Inv.opened ctrl n).exec hbefore).served hstarted hafter hcount

/-- A queue of one command, and a controller that keeps the last command. -/
def lastCommand : Program Nat Nat where
  depth := 1
  dispatchCommand _ cmd := (if cmd = 0 then .ok else .errInvalidValue, cmd)
  tick ctrl _ := ctrl

def go (i steps : Nat) : List (Event Nat) := List.replicate steps (.thread i .next)

/-- Thread `i` acquires the catalog. -/
def acquired (i : Nat) : List (Event Nat) := .thread i .acquire :: go i 3

def work (steps : Nat) : List (Event Nat) := List.replicate steps (.worker 0)

/-- Two writers find room for one command, the worker serves it, and the runtime is destroyed. -/
def fullQueue : List (Event Nat) :=
  go 0 1 ++ acquired 1 ++ acquired 2 ++ [.thread 1 (.submit 7)] ++ go 1 1 ++
    [.thread 2 (.submit 0), .thread 2 .timeout, .thread 2 .release, .thread 0 (.destroy true)] ++
    go 0 1 ++ work 9 ++ go 1 3 ++ [.thread 1 .release] ++ go 1 2 ++ go 0 3 ++ work 9 ++ go 0 2

theorem commands_delivered_example :
    Along (step lastCommand) (fun s e => Delivered (step lastCommand s e)) (opened 0 2) fullQueue :=
  (commands_delivered lastCommand 0 2 fullQueue (by decide)).1

/-- Writer 1 takes the count to zero, writer 2 comes in and thread 0 starts the shutdown before
writer 1 looks at the lifecycle: its signal ends the wait for writer 2, whose command then goes to
a queue without a worker. -/
def lateSignal : List (Event Nat) :=
  acquired 1 ++ [.thread 1 .release] ++ acquired 2 ++ go 0 1 ++ [.thread 0 (.destroy true)] ++
    go 0 1 ++ go 1 2 ++ go 0 3 ++ work 1 ++ go 0 2 ++ [.thread 2 (.submit 7)] ++ go 2 1

theorem not_delivered :
    ¬Along (step lastCommand) (fun s e => Delivered (step lastCommand s e)) (opened 0 2)
      lateSignal := by
  intro h
  have hlast := (along_append.mp h).2.1
  exact absurd (hlast.destroyed (by decide)) (by decide)

end CommandQueue
