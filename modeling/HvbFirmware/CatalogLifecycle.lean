import HvbFirmware.Runs
import HvbFirmware.Threads

/-!
# The lifecycle of the register catalog

Readers and writers of the catalog count themselves in and out around every access, and
`vc_runtime_destroy` waits until the count is zero. The threads take atomic steps in any order,
and the runtime can be created again after it was destroyed.
-/
namespace CatalogLifecycle

open Runs Threads

/-! ## State -/

inductive VcCatalogLifecycle where
  | stopped | starting | running | stopping
  deriving DecidableEq, Repr

/-- The worker thread of the runtime; `created` until `k_thread_start`. -/
inductive Worker where
  | absent | created | running | exited
  deriving DecidableEq, Repr

/-- `activeOperations` cannot wrap: each thread counts at most once. -/
structure Catalog where
  lifecycle : VcCatalogLifecycle
  activeOperations : Int
  quiesced : Bool
  /-- Whether `catalog_runtime` is set. -/
  runtime : Bool
  stopRequested : Bool
  worker : Worker
  deriving DecidableEq, Repr

/-- Where a thread is: the atomic step named is the next one it takes. -/
inductive Place where
  | idle
  -- vc_catalog_acquire, after its first check
  | counting | rechecking | fetching
  | holding
  -- vc_catalog_release
  | leaving | signalling | giving
  -- vc_runtime_create_static
  | zeroing | arming | clearing | resetting | initialising | spawning | publishing | opening
  | launching
  -- vc_runtime_destroy
  | draining | waiting | unpublishing | stopping | joining | closing
  deriving DecidableEq, Repr

/-! ## Steps -/

/-- `atomic_dec`; the thread that took the count to zero goes on to the lifecycle. -/
def vcCatalogRelease (c : Catalog) : Catalog × Place :=
  ({ c with activeOperations := c.activeOperations - 1 },
    if c.activeOperations = 1 then .signalling else .idle)

/-- `atomic_cas` of the lifecycle. -/
def atomicCas (c : Catalog) (old new : VcCatalogLifecycle) (place : Place) : Catalog × Place :=
  if c.lifecycle = old then ({ c with lifecycle := new }, place) else (c, .idle)

inductive Op where
  | acquire
  | release
  | create
  /-- `vc_runtime_destroy`, with a runtime or with `NULL`. -/
  | destroy (runtime : Bool)
  /-- Go on with the function that the thread is in. -/
  | next
  /-- Go on; what the function calls here fails. -/
  | fail
  deriving DecidableEq, Repr

/-- The next step of a thread inside one of the functions. -/
def next (c : Catalog) : Place → Catalog × Place
  | .counting => ({ c with activeOperations := c.activeOperations + 1 }, .rechecking)
  | .rechecking => (c, if c.lifecycle = .running then .fetching else .leaving)
  | .fetching => (c, if c.runtime then .holding else .leaving)
  | .leaving => vcCatalogRelease c
  | .signalling => (c, if c.lifecycle = .stopping then .giving else .idle)
  | .giving => ({ c with quiesced := true }, .idle)
  | .zeroing => ({ c with stopRequested := false, worker := .absent }, .arming)
  | .arming => ({ c with stopRequested := false }, .clearing)
  | .clearing => ({ c with activeOperations := 0 }, .resetting)
  | .resetting => ({ c with quiesced := false }, .initialising)
  | .initialising => (c, .spawning)
  | .spawning => ({ c with worker := .created }, .publishing)
  | .publishing => ({ c with runtime := true }, .opening)
  | .opening => ({ c with lifecycle := .running }, .launching)
  | .launching => ({ c with worker := if c.worker = .created then .running else c.worker }, .idle)
  | .draining => (c, if c.activeOperations ≠ 0 then .waiting else .unpublishing)
  -- `k_sem_take` blocks while the semaphore is not given
  | .waiting => if c.quiesced then ({ c with quiesced := false }, .unpublishing) else (c, .waiting)
  | .unpublishing => ({ c with runtime := false }, .stopping)
  | .stopping => ({ c with stopRequested := true }, .joining)
  | .joining => (c, if c.worker = .exited then .closing else .joining)
  | .closing => ({ c with lifecycle := .stopped }, .idle)
  | place => (c, place)

/-- `vc_controller_init` or `k_thread_create` brings `NULL`. -/
def fail (c : Catalog) : Place → Catalog × Place
  | .initialising | .spawning => ({ c with lifecycle := .stopped }, .idle)
  | place => (c, place)

def begin (c : Catalog) : Op → Catalog × Place
  | .acquire => (c, if c.lifecycle = .running then .counting else .idle)
  | .create => atomicCas c .stopped .starting .zeroing
  | .destroy true => atomicCas c .running .stopping .draining
  | _ => (c, .idle)

def act (op : Op) (c : Catalog) (place : Place) : Catalog × Place :=
  match op, place with
  | .next, place => next c place
  | .fail, place => fail c place
  | .release, .holding => vcCatalogRelease c
  | op, .idle => begin c op
  | _, place => (c, place)

/-- The worker looks at `stop_requested` before each round. -/
def vcRuntimeWorker (c : Catalog) : Catalog :=
  if c.worker = .running ∧ c.stopRequested then { c with worker := .exited } else c

inductive Event where
  | thread (i : Nat) (op : Op)
  | worker
  deriving DecidableEq, Repr

abbrev State := Pool Catalog Place

def step (s : State) : Event → State
  | .thread i op => s.act (act op) i
  | .worker => { s with shared := vcRuntimeWorker s.shared }

def Catalog.initial : Catalog := ⟨.stopped, 0, false, false, false, .absent⟩

def initial (n : Nat) : State := .start .initial n .idle

/-! ## The two conditions -/

def Place.holds (place : Place) : Bool := place = .holding

/-- Between the second check, passed, and the release. -/
def Place.inside : Place → Bool
  | .fetching | .holding => true
  | _ => false

/-- Between the increment of the counter and its decrement. -/
def Place.counted : Place → Bool
  | .rechecking | .fetching | .holding | .leaving => true
  | _ => false

/-- In `vc_runtime_create_static`, before the lifecycle opens. -/
def Place.creating : Place → Bool
  | .zeroing | .arming | .clearing | .resetting | .initialising | .spawning | .publishing
  | .opening => true
  | _ => false

/-- In `vc_runtime_create_static`, with `stop_requested` cleared. -/
def Place.armed : Place → Bool
  | .clearing | .resetting | .initialising | .spawning | .publishing | .opening => true
  | _ => false

/-- In `vc_runtime_create_static`, with the semaphore reset. -/
def Place.reset : Place → Bool
  | .initialising | .spawning | .publishing | .opening => true
  | _ => false

def Place.destroying : Place → Bool
  | .draining | .waiting | .unpublishing | .stopping | .joining | .closing => true
  | _ => false

/-- In `vc_runtime_destroy`, with the wait for the readers over. -/
def Place.drained : Place → Bool
  | .unpublishing | .stopping | .joining | .closing => true
  | _ => false

/-- `catalog_runtime` is cleared or the worker stopped. -/
def Stops (c c' : Catalog) : Prop :=
  c.runtime ∧ ¬ c'.runtime ∨ ¬ c.stopRequested ∧ c'.stopRequested ∨
    c.worker = .running ∧ c'.worker ≠ .running

/-- The step stops the catalog only when no thread is between a successful `vc_catalog_acquire`
and its release. -/
def Quiet (s : State) (e : Event) : Prop :=
  Stops s.shared (step s e).shared → s.count Place.holds = 0

/-- A `k_sem_give` for a shutdown that can take it: no catalog runs, none is being created with
its semaphore reset, and nobody is inside. A counter is cleared that counts nobody. -/
def Clean (s : State) : Event → Prop
  | .thread i .next =>
    (s.place i = some .giving →
      s.shared.lifecycle ≠ .running ∧ s.count Place.reset = 0 ∧ s.count Place.inside = 0) ∧
    (s.place i = some .clearing → s.count Place.counted = 0)
  | _ => True

instance (s : State) : DecidablePred (Clean s)
  | .thread _ .next => inferInstanceAs (Decidable (_ ∧ _))
  | .thread _ .acquire | .thread _ .release | .thread _ .create | .thread _ (.destroy _)
  | .thread _ .fail | .worker => isTrue trivial

instance (s : State) (e : Event) : Decidable (Quiet s e) :=
  inferInstanceAs (Decidable (_ ∨ _ ∨ _ → _))

/-! ## The invariant -/

/-- How many threads are at the places of each kind. -/
structure Census where
  (inside counted creating armed reset destroying drained : Nat)

def census (s : State) : Census :=
  ⟨s.count Place.inside, s.count Place.counted, s.count Place.creating, s.count Place.armed,
    s.count Place.reset, s.count Place.destroying, s.count Place.drained⟩

/-- One thread goes from `x` to `y`. -/
def Census.shift (n : Census) (x y : Place) : Census where
  inside := n.inside + y.inside.toNat - x.inside.toNat
  counted := n.counted + y.counted.toNat - x.counted.toNat
  creating := n.creating + y.creating.toNat - x.creating.toNat
  armed := n.armed + y.armed.toNat - x.armed.toNat
  reset := n.reset + y.reset.toNat - x.reset.toNat
  destroying := n.destroying + y.destroying.toNat - x.destroying.toNat
  drained := n.drained + y.drained.toNat - x.drained.toNat

/-- What counter, lifecycle, semaphore and stop request say of the threads. -/
structure Consistent (c : Catalog) (n : Census) : Prop where
  active : c.activeOperations = n.counted
  creators : n.creating = if c.lifecycle = .starting then 1 else 0
  destroyers : n.destroying = if c.lifecycle = .stopping then 1 else 0
  drained : 0 < n.drained → n.inside = 0
  closed : c.lifecycle = .stopped ∨ c.lifecycle = .starting → n.inside = 0
  token : c.quiesced → c.lifecycle ≠ .running ∧ n.reset = 0 ∧ n.inside = 0
  stop : c.stopRequested → c.lifecycle ≠ .running ∧ n.armed = 0 ∧ n.inside = 0

def Inv (s : State) : Prop := Consistent s.shared (census s)

variable {c : Catalog} {n : Census} {s : State} {i : Nat} {x y : Place}

theorem census_move (h : s.place i = some x) (c : Catalog) (y : Place) :
    census (s.move i c y) = (census s).shift x y := by
  have hmove := count_move h c y
  have hkind : ∀ kind, (s.move i c y).count kind =
      s.count kind + (kind y).toNat - (kind x).toNat := fun kind => by
    have := hmove kind
    omega
  simp only [census, Census.shift, hkind]

theorem holds_le_inside (s : State) : s.count Place.holds ≤ (census s).inside :=
  count_mono fun place => by cases place <;> decide

theorem inside_le_counted (s : State) : (census s).inside ≤ (census s).counted :=
  count_mono fun place => by cases place <;> decide

theorem drained_le_destroying (s : State) : (census s).drained ≤ (census s).destroying :=
  count_mono fun place => by cases place <;> decide

theorem armed_le_creating (s : State) : (census s).armed ≤ (census s).creating :=
  count_mono fun place => by cases place <;> decide

theorem Inv.initial (n : Nat) : Inv (initial n) := by
  have hcount : ∀ kind : Place → Bool, kind .idle = false →
      (CatalogLifecycle.initial n).count kind = 0 := fun _ => count_start _ n
  have hinside : (census (CatalogLifecycle.initial n)).inside = 0 := hcount _ rfl
  exact
    { active := congrArg Int.ofNat (hcount Place.counted rfl).symm
      creators := hcount Place.creating rfl
      destroyers := hcount Place.destroying rfl
      drained := fun _ => hinside
      closed := fun _ => hinside
      token := fun h => absurd h Bool.false_ne_true
      stop := fun h => absurd h Bool.false_ne_true }

/-! ### What a place tells -/

theorem Consistent.starting (h : Consistent c n) (hcreating : 0 < n.creating) :
    c.lifecycle = .starting := by
  have hcreators := h.creators
  split at hcreators
  next hstarting => exact hstarting
  · omega

theorem Consistent.stopping (h : Consistent c n) (hdestroying : 0 < n.destroying) :
    c.lifecycle = .stopping := by
  have hdestroyers := h.destroyers
  split at hdestroyers
  next hstopping => exact hstopping
  · omega

theorem Inv.starting (h : Inv s) (hplace : s.place i = some x) (hx : x.creating) :
    s.shared.lifecycle = .starting :=
  Consistent.starting h (count_pos hplace hx)

theorem Inv.stopping (h : Inv s) (hplace : s.place i = some x) (hx : x.destroying) :
    s.shared.lifecycle = .stopping :=
  Consistent.stopping h (count_pos hplace hx)

theorem Inv.inside_drained (h : Inv s) (hplace : s.place i = some x) (hx : x.drained) :
    (census s).inside = 0 :=
  Consistent.drained h (count_pos hplace hx)

theorem Inv.not_drained (h : Inv s) (hlifecycle : s.shared.lifecycle ≠ .stopping) :
    (census s).drained = 0 := by
  have hdestroyers := Consistent.destroyers h
  have hdrained := drained_le_destroying s
  rw [if_neg hlifecycle] at hdestroyers
  omega

theorem Inv.not_armed (h : Inv s) (hlifecycle : s.shared.lifecycle ≠ .starting) :
    (census s).armed = 0 := by
  have hcreators := Consistent.creators h
  have harmed := armed_le_creating s
  rw [if_neg hlifecycle] at hcreators
  omega

/-! ## Steps that keep the invariant -/

/-- The invariant does not look at `catalog_runtime` and the worker. -/
theorem Consistent.other (h : Consistent c n) (runtime : Bool) (worker : Worker) :
    Consistent { c with runtime := runtime, worker := worker } n :=
  { h with }

theorem Consistent.fewer (h : Consistent c n) {m : Nat} (hm : m ≤ n.inside) :
    Consistent c { n with inside := m } := by
  have hzero : n.inside = 0 → m = 0 := fun hinside => by omega
  exact
    { h with
      drained := fun hdrained => hzero (h.drained hdrained)
      closed := fun hclosed => hzero (h.closed hclosed)
      token := fun hquiesced => (h.token hquiesced).imp_right (And.imp_right hzero)
      stop := fun hstop => (h.stop hstop).imp_right (And.imp_right hzero) }

/-! ### Readers and writers -/

theorem Consistent.countIn (h : Consistent c n) :
    Consistent { c with activeOperations := c.activeOperations + 1 }
      (n.shift .counting .rechecking) :=
  { h with active := congrArg (· + 1) h.active }

theorem Consistent.enter (h : Consistent c n) (hrun : c.lifecycle = .running)
    (hdrained : n.drained = 0) : Consistent c (n.shift .rechecking .fetching) :=
  { h with
    drained := fun hpos => absurd hdrained (Nat.ne_of_gt hpos)
    closed := fun hclosed => by simp [hrun] at hclosed
    token := fun hquiesced => absurd hrun (h.token hquiesced).1
    stop := fun hstop => absurd hrun (h.stop hstop).1 }

theorem Consistent.leave (h : Consistent c n) : Consistent c (n.shift .fetching .leaving) :=
  h.fewer (Nat.sub_le _ _)

theorem Consistent.countOut (h : Consistent c n) (hcounted : 0 < n.counted)
    (hx : x = .holding ∨ x = .leaving) :
    Consistent (vcCatalogRelease c).1 (n.shift x (vcCatalogRelease c).2) := by
  have hactive : c.activeOperations - 1 = (n.counted - 1 : Nat) := by
    rw [h.active]
    omega
  have hfewer := h.fewer (Nat.sub_le n.inside 1)
  rw [vcCatalogRelease]
  rcases hx with rfl | rfl <;> split
  · exact { hfewer with active := hactive }
  · exact { hfewer with active := hactive }
  · exact { h with active := hactive }
  · exact { h with active := hactive }

theorem Consistent.give (h : Consistent c n) (hrun : c.lifecycle ≠ .running)
    (hreset : n.reset = 0) (hinside : n.inside = 0) :
    Consistent { c with quiesced := true } (n.shift .giving .idle) :=
  { h with token := fun _ => ⟨hrun, hreset, hinside⟩ }

/-! ### `vc_runtime_create_static` -/

theorem Consistent.beginCreate (h : Consistent c n) (hstopped : c.lifecycle = .stopped) :
    Consistent { c with lifecycle := .starting } (n.shift .idle .zeroing) := by
  have hcreators := h.creators
  have hdestroyers := h.destroyers
  rw [hstopped] at hcreators hdestroyers
  exact
    { h with
      creators := congrArg (· + 1) hcreators
      destroyers := hdestroyers
      closed := fun _ => h.closed (.inl hstopped)
      token := fun hquiesced => ⟨nofun, (h.token hquiesced).2⟩
      stop := fun hstop => ⟨nofun, (h.stop hstop).2⟩ }

theorem Consistent.zero (h : Consistent c n) :
    Consistent { c with stopRequested := false, worker := .absent } (n.shift .zeroing .arming) :=
  { h with stop := nofun }

theorem Consistent.arm (h : Consistent c n) :
    Consistent { c with stopRequested := false } (n.shift .arming .clearing) :=
  { h with stop := nofun }

theorem Consistent.clear (h : Consistent c n) (hcounted : n.counted = 0) :
    Consistent { c with activeOperations := 0 } (n.shift .clearing .resetting) :=
  { h with active := congrArg Int.ofNat hcounted.symm }

theorem Consistent.reset (h : Consistent c n) :
    Consistent { c with quiesced := false } (n.shift .resetting .initialising) :=
  { h with token := nofun }

/-- The semaphore is not given and no stop requested when the lifecycle opens. -/
theorem Consistent.open (h : Consistent c n) (hstarting : c.lifecycle = .starting)
    (hreset : 0 < n.reset) (harmed : 0 < n.armed) :
    Consistent { c with lifecycle := .running } (n.shift .opening .launching) := by
  have hcreators := h.creators
  have hdestroyers := h.destroyers
  rw [hstarting] at hcreators hdestroyers
  exact
    { h with
      creators := congrArg (· - 1) hcreators
      destroyers := hdestroyers
      closed := nofun
      token := fun hquiesced => absurd (h.token hquiesced).2.1 (Nat.ne_of_gt hreset)
      stop := fun hstop => absurd (h.stop hstop).2.1 (Nat.ne_of_gt harmed) }

theorem Consistent.abandon (h : Consistent c n) (hstarting : c.lifecycle = .starting)
    (hx : x = .initialising ∨ x = .spawning) :
    Consistent { c with lifecycle := .stopped } (n.shift x .idle) := by
  have hcreators := h.creators
  have hdestroyers := h.destroyers
  have hinside := h.closed (.inr hstarting)
  have hless : ∀ m, m = 0 → m - 1 = 0 := by omega
  rw [hstarting] at hcreators hdestroyers
  rcases hx with rfl | rfl
  all_goals exact
    { h with
      creators := congrArg (· - 1) hcreators
      destroyers := hdestroyers
      closed := fun _ => hinside
      token := fun hquiesced => ⟨nofun, hless _ (h.token hquiesced).2.1, hinside⟩
      stop := fun hstop => ⟨nofun, hless _ (h.stop hstop).2.1, hinside⟩ }

/-! ### `vc_runtime_destroy` -/

theorem Consistent.beginDestroy (h : Consistent c n) (hrun : c.lifecycle = .running) :
    Consistent { c with lifecycle := .stopping } (n.shift .idle .draining) := by
  have hcreators := h.creators
  have hdestroyers := h.destroyers
  rw [hrun] at hcreators hdestroyers
  exact
    { h with
      creators := hcreators
      destroyers := congrArg (· + 1) hdestroyers
      closed := nofun
      token := fun hquiesced => absurd hrun (h.token hquiesced).1
      stop := fun hstop => absurd hrun (h.stop hstop).1 }

/-- The counter reads zero: it counts those inside too. -/
theorem Consistent.drainAtOnce (h : Consistent c n) (hactive : c.activeOperations = 0)
    (hinside : n.inside ≤ n.counted) : Consistent c (n.shift .draining .unpublishing) := by
  have hcounted := h.active
  exact { h with drained := fun _ => show n.inside = 0 by omega }

theorem Consistent.drainBySignal (h : Consistent c n) (hquiesced : c.quiesced) :
    Consistent { c with quiesced := false } (n.shift .waiting .unpublishing) :=
  { h with
    drained := fun _ => (h.token hquiesced).2.2
    token := nofun }

theorem Consistent.requestStop (h : Consistent c n) (hstopping : c.lifecycle = .stopping)
    (harmed : n.armed = 0) (hinside : n.inside = 0) :
    Consistent { c with stopRequested := true } (n.shift .stopping .joining) :=
  { h with stop := fun _ => ⟨by simp [hstopping], harmed, hinside⟩ }

theorem Consistent.close (h : Consistent c n) (hstopping : c.lifecycle = .stopping)
    (hinside : n.inside = 0) :
    Consistent { c with lifecycle := .stopped } (n.shift .closing .idle) := by
  have hcreators := h.creators
  have hdestroyers := h.destroyers
  rw [hstopping] at hcreators hdestroyers
  exact
    { h with
      creators := hcreators
      destroyers := congrArg (· - 1) hdestroyers
      drained := fun _ => hinside
      closed := fun _ => hinside
      token := fun hquiesced => ⟨nofun, (h.token hquiesced).2⟩
      stop := fun hstop => ⟨nofun, (h.stop hstop).2⟩ }

/-! ## Runs -/

theorem Inv.next (h : Inv s) (hplace : s.place i = some x)
    (hclean : Clean s (.thread i .next)) :
    Consistent (next s.shared x).1 ((census s).shift x (next s.shared x).2) := by
  obtain ⟨hgive, hclear⟩ := hclean
  have hinv : Consistent s.shared (census s) := h
  cases x with
  | idle | holding => exact hinv
  | counting => exact hinv.countIn
  | rechecking =>
    rw [CatalogLifecycle.next]
    split
    next hrun => exact hinv.enter hrun (h.not_drained (by simp [hrun]))
    · exact hinv
  | fetching =>
    rw [CatalogLifecycle.next]
    split
    · exact hinv
    · exact hinv.leave
  | leaving => exact hinv.countOut (count_pos hplace rfl) (.inr rfl)
  | signalling =>
    rw [CatalogLifecycle.next]
    split <;> exact hinv
  | giving =>
    obtain ⟨hrun, hreset, hinside⟩ := hgive hplace
    exact hinv.give hrun hreset hinside
  | zeroing => exact hinv.zero
  | arming => exact hinv.arm
  | clearing => exact hinv.clear (hclear hplace)
  | resetting => exact hinv.reset
  | initialising => exact hinv
  | spawning | publishing | launching => exact hinv.other _ _
  | opening =>
    exact hinv.open (h.starting hplace rfl) (count_pos hplace rfl) (count_pos hplace rfl)
  | draining =>
    rw [CatalogLifecycle.next]
    split
    · exact hinv
    next hactive =>
      exact hinv.drainAtOnce (Decidable.not_not.mp hactive) (inside_le_counted s)
  | waiting =>
    rw [CatalogLifecycle.next]
    split
    next hquiesced => exact hinv.drainBySignal hquiesced
    · exact hinv
  | unpublishing => exact hinv.other _ _
  | stopping =>
    have hstopping := h.stopping hplace rfl
    exact hinv.requestStop hstopping (h.not_armed (by simp [hstopping]))
      (h.inside_drained hplace rfl)
  | joining =>
    rw [CatalogLifecycle.next]
    split <;> exact hinv
  | closing => exact hinv.close (h.stopping hplace rfl) (h.inside_drained hplace rfl)

theorem Consistent.fail (h : Consistent c n) (hstarting : x.creating → c.lifecycle = .starting) :
    Consistent (fail c x).1 (n.shift x (fail c x).2) := by
  unfold CatalogLifecycle.fail
  split
  · exact h.abandon (hstarting rfl) (.inl rfl)
  · exact h.abandon (hstarting rfl) (.inr rfl)
  · cases x <;> exact h

theorem Consistent.begin (h : Consistent c n) (op : Op) :
    Consistent (begin c op).1 (n.shift .idle (begin c op).2) := by
  unfold CatalogLifecycle.begin
  split
  · split <;> exact h
  · rw [atomicCas]
    split
    next hstopped => exact h.beginCreate hstopped
    · exact h
  · rw [atomicCas]
    split
    next hrun => exact h.beginDestroy hrun
    · exact h
  · exact h

theorem Inv.act {op : Op} (h : Inv s) (hplace : s.place i = some x)
    (hclean : Clean s (.thread i op)) :
    Consistent (act op s.shared x).1 ((census s).shift x (act op s.shared x).2) := by
  have hinv : Consistent s.shared (census s) := h
  unfold CatalogLifecycle.act
  split
  · exact h.next hplace hclean
  · exact hinv.fail (h.starting hplace)
  · exact hinv.countOut (count_pos hplace rfl) (.inl rfl)
  · exact hinv.begin op
  · cases x <;> exact h

/-- The worker changes nothing that the invariant reads. -/
theorem Inv.worker (h : Inv s) : Inv (step s .worker) := by
  have hworker : vcRuntimeWorker s.shared =
      { s.shared with worker := (vcRuntimeWorker s.shared).worker } := by
    unfold vcRuntimeWorker
    split <;> rfl
  rw [step, hworker]
  exact Consistent.other h _ _

theorem Inv.step {e : Event} (h : Inv s) (hclean : Clean s e) : Inv (step s e) := by
  cases e with
  | worker => exact h.worker
  | thread i op =>
    rw [CatalogLifecycle.step]
    cases hplace : s.place i with
    | none => rwa [act_none hplace]
    | some x =>
      rw [act_some hplace, Inv, move_shared, census_move hplace]
      exact h.act hplace hclean

theorem not_stops {c' : Catalog} (hruntime : c'.runtime = c.runtime)
    (hstop : c'.stopRequested = c.stopRequested)
    (hworker : c.worker = .running → c'.worker = .running) : ¬ Stops c c' := by
  rintro (⟨hset, hclear⟩ | ⟨hclear, hset⟩ | ⟨hrun, hend⟩)
  · exact hclear (hruntime ▸ hset)
  · exact hclear (hstop ▸ hset)
  · exact hend (hworker hrun)

/-- What stops the catalog is a create that has not opened it, or a destroy that has drained it. -/
theorem not_stops_act (op : Op) (hcreating : x.creating = false) (hdrained : x.drained = false) :
    ¬ Stops c (act op c x).1 := by
  unfold act
  split
  · cases x with
    | zeroing | arming | clearing | resetting | initialising | spawning | publishing | opening =>
      cases hcreating
    | unpublishing | stopping | joining | closing => cases hdrained
    | launching => exact not_stops rfl rfl fun hrun => by simp [next, hrun]
    | waiting =>
      rw [next]
      split <;> exact not_stops rfl rfl id
    | _ => exact not_stops rfl rfl id
  · unfold fail
    split <;> exact not_stops rfl rfl id
  · exact not_stops rfl rfl id
  · unfold begin atomicCas
    split
    · exact not_stops rfl rfl id
    · split <;> exact not_stops rfl rfl id
    · split <;> exact not_stops rfl rfl id
    · exact not_stops rfl rfl id
  · exact not_stops rfl rfl id

theorem not_stops_worker (hstop : ¬ c.stopRequested) : ¬ Stops c (vcRuntimeWorker c) := by
  rw [vcRuntimeWorker, if_neg (fun h => hstop h.2)]
  exact not_stops rfl rfl id

theorem Inv.quiet (h : Inv s) (e : Event) : Quiet s e := by
  intro hstops
  have hinv : Consistent s.shared (census s) := h
  suffices hinside : (census s).inside = 0 from
    Nat.le_zero.mp (hinside ▸ holds_le_inside s)
  cases e with
  | worker =>
    cases hstop : s.shared.stopRequested with
    | true => exact (hinv.stop hstop).2.2
    | false => exact absurd hstops (not_stops_worker (by simp [hstop]))
  | thread i op =>
    rw [CatalogLifecycle.step] at hstops
    cases hplace : s.place i with
    | none =>
      rw [act_none hplace] at hstops
      exact absurd hstops (not_stops rfl rfl id)
    | some x =>
      rw [act_some hplace] at hstops
      cases hcreating : x.creating with
      | true => exact hinv.closed (.inr (h.starting hplace hcreating))
      | false =>
        cases hdrained : x.drained with
        | true => exact h.inside_drained hplace hdrained
        | false => exact absurd hstops (not_stops_act op hcreating hdrained)

/-- Without a late signal and a late clear of the counter, no catalog stops under a reader. -/
theorem catalog_outlives_readers (n : Nat) (events : List Event)
    (h : Along step Clean (initial n) events) : Along step Quiet (initial n) events :=
  .of_invariant (fun _ _ => Inv.step) (fun _ e hinv _ => hinv.quiet e) (Inv.initial n) h

def go (i steps : Nat) : List Event := List.replicate steps (.thread i .next)

/-- Thread `i` creates the runtime. -/
def created (i : Nat) : List Event := .thread i .create :: go i 9

/-- Thread `i` acquires the catalog. -/
def acquired (i : Nat) : List Event := .thread i .acquire :: go i 3

/-- Thread 1 is asked to wait for thread 0, is signalled, and the runtime is created again. -/
def turnover : List Event :=
  created 1 ++ acquired 0 ++ [.thread 1 (.destroy true)] ++ go 1 1 ++ [.thread 0 .release] ++
    go 0 2 ++ go 1 3 ++ [.worker] ++ go 1 2 ++ created 1 ++ acquired 0

theorem catalog_outlives_readers_example : Along step Quiet (initial 2) turnover :=
  catalog_outlives_readers 2 turnover (by decide)

/-- Thread 0 takes the count to zero, thread 1 comes in and thread 2 starts a shutdown before
thread 0 looks at the lifecycle: its signal ends the wait for thread 1. -/
def lateSignal : List Event :=
  created 2 ++ acquired 0 ++ [.thread 0 .release] ++ acquired 1 ++ [.thread 2 (.destroy true)] ++
    go 2 1 ++ go 0 2 ++ go 2 2

/-- Thread 0 passes its first check, and counts itself in just before the next
`vc_runtime_create_static` clears the counter. It counts itself out below zero, so that thread 1
is not counted. -/
def lateClear : List Event :=
  created 2 ++ [.thread 0 .acquire, .thread 2 (.destroy true)] ++ go 2 3 ++ [.worker] ++ go 2 2 ++
    [.thread 2 .create] ++ go 2 2 ++ go 0 1 ++ go 2 1 ++ go 0 2 ++ go 2 6 ++ acquired 1 ++
    [.thread 2 (.destroy true)] ++ go 2 2

theorem catalog_cleared_under_reader :
    ¬ Along step Quiet (initial 3) lateSignal ∧ ¬ Along step Quiet (initial 3) lateClear := by
  decide

end CatalogLifecycle
