import HvbFirmware.Interaction

/-!
# Triples of programs that call their surroundings

What a program does to surroundings with a state, whatever state with a property it is started
in. The rules follow the shape of the program, so that a triple of a function is proved from the
triples of the calls that it makes.
-/
namespace Interaction

open Program

universe u v w x

variable {C : Type u} {A : C → Type v} {α β σ : Type v} {ι : Type w} {μ : Type x}

/-- Started where `P` holds, the program ends with a result and a state of which `Q` holds. -/
def Triple (answer : (c : C) → σ → A c × σ) (P : σ → Prop) (p : Program C A α)
    (Q : α → σ → Prop) : Prop :=
  ∀ s, P s → Q (exec answer p s).1 (exec answer p s).2.2

variable {answer : (c : C) → σ → A c × σ} {P P' : σ → Prop} {Q Q' : α → σ → Prop}

theorem triple_ret {a : α} (h : ∀ s, P s → Q a s) : Triple answer P (ret a) Q := h

theorem triple_ask {c : C} {Q : A c → σ → Prop}
    (h : ∀ s, P s → Q (answer c s).1 (answer c s).2) : Triple answer P (ask c) Q := h

theorem triple_bind {p : Program C A α} {f : α → Program C A β} {R : α → σ → Prop}
    {Q : β → σ → Prop} (hp : Triple answer P p R) (hf : ∀ a, Triple answer (R a) (f a) Q) :
    Triple answer P (p >>= f) Q := by
  intro s hs
  rw [exec_bind]
  exact hf _ _ (hp s hs)

theorem Triple.mono {p : Program C A α} (h : Triple answer P p Q) (hP : ∀ s, P' s → P s)
    (hQ : ∀ a s, Q a s → Q' a s) : Triple answer P' p Q' :=
  fun s hs => hQ _ _ (h s (hP s hs))

/-- A fact that does not look at the state is there before and after. -/
theorem Triple.frame {p : Program C A α} {F : Prop} (h : Triple answer P p Q) :
    Triple answer (fun s => F ∧ P s) p fun a s => F ∧ Q a s :=
  fun s hs => ⟨hs.1, h s hs.2⟩

/-- A fact of the precondition that does not look at the state. -/
theorem triple_fact {p : Program C A α} {F : Prop} (h : F → Triple answer P p Q) :
    Triple answer (fun s => F ∧ P s) p Q :=
  fun s hs => h hs.1 s hs.2

/-- A parameter of the triple that the start state fixes. -/
theorem triple_exists {p : Program C A α} {P : ι → σ → Prop}
    (h : ∀ i, Triple answer (P i) p Q) : Triple answer (fun s => ∃ i, P i s) p Q :=
  fun s ⟨i, hs⟩ => h i s hs

/-! ## A list of programs -/

/-- The programs one after another, with their results. -/
def runAll : List (Program C A α) → Program C A (List α)
  | [] => ret []
  | p :: ps => p >>= fun a => runAll ps >>= fun as => ret (a :: as)

/-- A model moves along a list of programs and their results. -/
inductive Follows (move : ι → μ → α → μ → Prop) : μ → List ι → List α → μ → Prop where
  | nil (m : μ) : Follows move m [] [] m
  | cons {m m' m'' : μ} {i : ι} {a : α} {is : List ι} {as : List α} (hmove : move i m a m')
      (hrest : Follows move m' is as m'') : Follows move m (i :: is) (a :: as) m''

/-- The state stands in a relation to a model, and each program moves the model by a step of its
own: the list of programs moves it along. -/
theorem triple_runAll {R : μ → σ → Prop} {prog : ι → Program C A α}
    {move : ι → μ → α → μ → Prop} (is : List ι) (hstep : ∀ i ∈ is, ∀ m,
      Triple answer (R m) (prog i) (fun a s => ∃ m', move i m a m' ∧ R m' s)) (m : μ) :
    Triple answer (R m) (runAll (is.map prog))
      (fun as s => ∃ m', Follows move m is as m' ∧ R m' s) := by
  induction is generalizing m with
  | nil => exact triple_ret fun s hs => ⟨m, .nil m, hs⟩
  | cons i is ih =>
    refine triple_bind (hstep i List.mem_cons_self m) fun a => triple_exists fun m' => ?_
    refine triple_bind (R := fun as s => ∃ m'', move i m a m' ∧ Follows move m' is as m'' ∧
      R m'' s) ?_ fun as => triple_ret ?_
    · rintro s ⟨hmove, hs⟩
      have hrest := ih (fun j hj => hstep j (List.mem_cons_of_mem i hj)) m'
      obtain ⟨m'', hfollows, hs'⟩ := hrest s hs
      exact ⟨m'', hmove, hfollows, hs'⟩
    · rintro s ⟨m'', hmove, hrest, hs⟩
      exact ⟨m'', .cons hmove hrest, hs⟩

end Interaction
