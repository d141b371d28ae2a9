/-!
# Runs of a deterministic step function

A system is a function `step : S → O → S`; a run is a list of operations from a start
state. The module has the two shapes that facts about runs take (an invariant of the
states passed, a property of every operation carried out), the rules that lift them from
one step, and history variables that watch a run without touching it.
-/
namespace Runs

universe u v w

variable {S : Type u} {O : Type v} {G : Type w} {step : S → O → S}

/-- The state that the operations lead to. -/
def exec (step : S → O → S) : S → List O → S
  | s, [] => s
  | s, o :: ops => exec step (step s o) ops

/-- Every operation of the run meets `Q` in the state it is carried out in. -/
def Along (step : S → O → S) (Q : S → O → Prop) : S → List O → Prop
  | _, [] => True
  | s, o :: ops => Q s o ∧ Along step Q (step s o) ops

instance decidableAlong (Q : S → O → Prop) [∀ s o, Decidable (Q s o)] :
    ∀ s ops, Decidable (Along step Q s ops)
  | _, [] => isTrue trivial
  | s, o :: ops =>
    have := decidableAlong Q (step s o) ops
    inferInstanceAs (Decidable (Q s o ∧ Along step Q (step s o) ops))

@[simp] theorem exec_nil (s : S) : exec step s [] = s := rfl

theorem exec_append (s : S) (xs ys : List O) :
    exec step s (xs ++ ys) = exec step (exec step s xs) ys := by
  induction xs generalizing s with
  | nil => rfl
  | cons o xs ih => exact ih (step s o)

theorem along_append {Q : S → O → Prop} {s : S} {xs ys : List O} :
    Along step Q s (xs ++ ys) ↔ Along step Q s xs ∧ Along step Q (exec step s xs) ys := by
  induction xs generalizing s with
  | nil => simp [Along]
  | cons o xs ih => exact (and_congr_right fun _ => ih).trans and_assoc.symm

theorem Along.mono {Q R : S → O → Prop} (h : ∀ s o, Q s o → R s o) {s : S} {ops : List O}
    (hQ : Along step Q s ops) : Along step R s ops := by
  induction ops generalizing s with
  | nil => trivial
  | cons o ops ih => exact ⟨h s o hQ.1, ih hQ.2⟩

theorem Along.and {Q R : S → O → Prop} {s : S} {ops : List O} (hQ : Along step Q s ops)
    (hR : Along step R s ops) : Along step (fun s o => Q s o ∧ R s o) s ops := by
  induction ops generalizing s with
  | nil => trivial
  | cons o ops ih => exact ⟨⟨hQ.1, hR.1⟩, ih hQ.2 hR.2⟩

theorem along_of_forall {Q : S → O → Prop} {ops : List O} (h : ∀ o ∈ ops, ∀ s, Q s o) (s : S) :
    Along step Q s ops := by
  induction ops generalizing s with
  | nil => trivial
  | cons o ops ih =>
    exact ⟨h o List.mem_cons_self s, ih (fun o' ho' => h o' (List.mem_cons_of_mem o ho')) _⟩

/-! ## Rules -/

/-- The invariant rule: what every step that meets `Q` preserves holds after every run whose
operations all meet `Q`. -/
theorem exec_invariant {I : S → Prop} {Q : S → O → Prop}
    (hstep : ∀ s o, I s → Q s o → I (step s o)) {s : S} {ops : List O}
    (h0 : I s) (hQ : Along step Q s ops) : I (exec step s ops) := by
  induction ops generalizing s with
  | nil => exact h0
  | cons o ops ih => exact ih (hstep s o h0 hQ.1) hQ.2

/-- The step rule: an invariant turns the condition on every operation into a property of
every operation. -/
theorem Along.of_invariant {I : S → Prop} {Q R : S → O → Prop}
    (hstep : ∀ s o, I s → Q s o → I (step s o)) (hR : ∀ s o, I s → Q s o → R s o)
    {s : S} {ops : List O} (h0 : I s) (hQ : Along step Q s ops) : Along step R s ops := by
  induction ops generalizing s with
  | nil => trivial
  | cons o ops ih => exact ⟨hR s o h0 hQ.1, ih (hstep s o h0 hQ.1) hQ.2⟩

/-- Two properties of an operation that agree under an invariant agree along every run. -/
theorem along_congr {I : S → Prop} {Q R : S → O → Prop}
    (hstep : ∀ s o, I s → Q s o → I (step s o)) (hR : ∀ s o, I s → (R s o ↔ Q s o))
    {s : S} {ops : List O} (h0 : I s) : Along step R s ops ↔ Along step Q s ops := by
  induction ops generalizing s with
  | nil => exact Iff.rfl
  | cons o ops ih =>
    have hfirst : R s o ↔ Q s o := hR s o h0
    exact (and_congr_left fun _ => hfirst).trans (and_congr_right fun h => ih (hstep s o h0 h))

/-- An invariant that a step keeps exactly if it meets `Q`. -/
theorem along_invariant_iff {I : S → Prop} {Q : S → O → Prop}
    (hstep : ∀ s o, I s → (I (step s o) ↔ Q s o)) {s : S} {ops : List O} (h0 : I s) :
    Along step (fun s o => I (step s o)) s ops ↔ Along step Q s ops := by
  induction ops generalizing s with
  | nil => exact Iff.rfl
  | cons o ops ih =>
    have hfirst : I (step s o) ↔ Q s o := hstep s o h0
    exact (and_congr_right fun h => ih h).trans (and_congr_left fun _ => hfirst)

/-- Over a whole run, where what breaks the invariant leaves it broken, and only operations that
cannot mend it follow one that might break it. -/
theorem exec_invariant_iff_of_lost {I B : S → Prop} {Q : S → O → Prop} {R : O → Prop}
    (hstep : ∀ s o, I s → (I (step s o) ↔ Q s o)) (hlost : ∀ s o, I s → ¬ Q s o → B (step s o))
    (hkeep : ∀ s o, R o → B s → B (step s o)) (hbroken : ∀ s, B s → ¬ I s)
    {s : S} {ops : List O} (hops : ops.Pairwise fun o o' => (∀ s, Q s o) ∨ R o') (h0 : I s) :
    I (exec step s ops) ↔ Along step Q s ops := by
  induction ops generalizing s with
  | nil => exact iff_of_true h0 trivial
  | cons o ops ih =>
    obtain ⟨hfirst, hrest⟩ := List.pairwise_cons.mp hops
    by_cases hQ : Q s o
    · exact (ih hrest ((hstep s o h0).mpr hQ)).trans (and_iff_right hQ).symm
    · have hquiet : ∀ o' ∈ ops, R o' := fun o' ho' =>
        (hfirst o' ho').resolve_left fun hall => hQ (hall s)
      have hlater : B (exec step (step s o) ops) :=
        exec_invariant (Q := fun _ o' => R o') (fun s o' hB ho' => hkeep s o' ho' hB)
          (hlost s o h0 hQ) (along_of_forall (fun o' ho' _ => hquiet o' ho') _)
      exact iff_of_false (hbroken _ hlater) fun halong => hQ halong.1

/-- Over a whole run, where an operation that might not keep the invariant stands alone. -/
theorem exec_invariant_iff {I : S → Prop} {Q : S → O → Prop}
    (hstep : ∀ s o, I s → (I (step s o) ↔ Q s o)) {s : S} {ops : List O}
    (halone : ∀ o ∈ ops, (∀ s, Q s o) ∨ ops = [o]) (h0 : I s) :
    I (exec step s ops) ↔ Along step Q s ops := by
  refine exec_invariant_iff_of_lost (B := fun s => ¬ I s) (R := fun _ => False) hstep
    (fun s o h hQ => mt (hstep s o h).mp hQ) (fun _ _ hfalse => hfalse.elim) (fun _ h => h) ?_ h0
  by_cases hall : ∀ o ∈ ops, ∀ s, Q s o
  · exact List.pairwise_of_forall_mem_list fun o ho _ _ => .inl (hall o ho)
  · simp only [Classical.not_forall] at hall
    obtain ⟨o, hmem, s', hnot⟩ := hall
    obtain rfl := (halone o hmem).resolve_left fun hQ => hnot (hQ s')
    exact List.pairwise_singleton _ _

/-! ## History variables -/

/-- The system with a history variable beside its state: `upd` sees each operation and the
state before it. -/
def watched (step : S → O → S) (upd : S → O → G → G) (p : S × G) (o : O) : S × G :=
  (step p.1 o, upd p.1 o p.2)

theorem exec_watched_fst (step : S → O → S) (upd : S → O → G → G) (p : S × G) (ops : List O) :
    (exec (watched step upd) p ops).1 = exec step p.1 ops := by
  induction ops generalizing p with
  | nil => rfl
  | cons o ops ih => exact ih (watched step upd p o)

/-- A property that does not look at the history is one of the run itself. -/
theorem along_watched {upd : S → O → G → G} {Q : S → O → Prop} {p : S × G} {ops : List O} :
    Along (watched step upd) (fun p o => Q p.1 o) p ops ↔ Along step Q p.1 ops := by
  induction ops generalizing p with
  | nil => exact Iff.rfl
  | cons o ops ih => exact and_congr_right fun _ => ih

end Runs
