/-!
# Threads over a shared state

Any number of threads, each at a place in its code, take atomic steps on one shared state. What
such a system keeps is counted: how many of the threads are at the places of a kind, and how that
number changes when one thread moves.
-/
namespace Threads

universe u v

structure Pool (S : Type u) (P : Type v) where
  shared : S
  threads : List P
  deriving DecidableEq, Repr

variable {S : Type u} {P : Type v}

/-- All threads at one place. -/
def Pool.start (shared : S) (n : Nat) (place : P) : Pool S P := ⟨shared, List.replicate n place⟩

def Pool.place (s : Pool S P) (i : Nat) : Option P := s.threads[i]?

def Pool.count (s : Pool S P) (kind : P → Bool) : Nat := s.threads.countP kind

/-- The state after an atomic step of thread `i` that leaves it at `place`. -/
def Pool.move (s : Pool S P) (i : Nat) (shared : S) (place : P) : Pool S P :=
  ⟨shared, s.threads.set i place⟩

/-- Thread `i` takes the step that `f` has for its place. -/
def Pool.act (f : S → P → S × P) (s : Pool S P) (i : Nat) : Pool S P :=
  match s.place i with
  | none => s
  | some place => s.move i (f s.shared place).1 (f s.shared place).2

variable {s : Pool S P} {i : Nat} {place place' : P} {kind kind' : P → Bool}

@[simp] theorem move_shared (shared : S) : (s.move i shared place).shared = shared := rfl

theorem act_none {f : S → P → S × P} (h : s.place i = none) : s.act f i = s := by
  rw [Pool.act, h]

theorem act_some {f : S → P → S × P} (h : s.place i = some place) :
    s.act f i = s.move i (f s.shared place).1 (f s.shared place).2 := by
  rw [Pool.act, h]

/-! ## Counting -/

theorem count_start (shared : S) (n : Nat) (h : kind place = false) :
    (Pool.start shared n place).count kind = 0 := by
  simp [Pool.start, Pool.count, List.countP_replicate, h]

/-- One thread moves: it leaves the kinds of its old place and enters those of its new one. -/
theorem count_move (h : s.place i = some place) (shared : S) (place' : P) (kind : P → Bool) :
    (s.move i shared place').count kind + (kind place).toNat =
      s.count kind + (kind place').toNat := by
  obtain ⟨hi, hplace⟩ := List.getElem?_eq_some_iff.mp h
  have hpos : kind place → 0 < s.threads.countP kind := fun hkind =>
    List.countP_pos_iff.mpr ⟨place, hplace ▸ List.getElem_mem hi, hkind⟩
  rw [Pool.count, Pool.count, Pool.move, List.countP_set hi, hplace]
  cases hold : kind place with
  | false => simp only [Bool.false_eq_true, if_false, Bool.toNat_false]; cases kind place' <;> rfl
  | true =>
    have hpos := hpos hold
    cases kind place' <;> simp only [if_true, Bool.false_eq_true, if_false, Bool.toNat_true,
      Bool.toNat_false] <;> omega

theorem count_mono (h : ∀ place, kind place → kind' place) : s.count kind ≤ s.count kind' :=
  List.countP_mono_left fun place _ => h place

theorem count_pos (h : s.place i = some place) (hkind : kind place) : 0 < s.count kind :=
  List.countP_pos_iff.mpr ⟨place, List.mem_of_getElem? h, hkind⟩

end Threads
