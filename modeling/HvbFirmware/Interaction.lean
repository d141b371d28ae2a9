/-!
# Programs that call their surroundings

A program is a tree of calls: each call waits for an answer of its own type, and the answer decides
how the program goes on. A run is the list of calls with the answers that they got. A property that
holds of every run holds whatever the surroundings answer.
-/
namespace Interaction

universe u v

/-- A call and its answer. -/
abbrev Event (C : Type u) (A : C → Type v) := (c : C) × A c

inductive Program (C : Type u) (A : C → Type v) (α : Type v) where
  | ret (result : α)
  | call (c : C) (next : A c → Program C A α)

variable {C : Type u} {A : C → Type v} {α β : Type v}

namespace Program

protected def bind : Program C A α → (α → Program C A β) → Program C A β
  | ret a, f => f a
  | call c next, f => call c fun r => (next r).bind f

instance : Monad (Program C A) where
  pure := ret
  bind := Program.bind

/-- A call whose answer is the result. -/
def ask (c : C) : Program C A (A c) := call c ret

@[simp] theorem pure_eq (a : α) : (pure a : Program C A α) = ret a := rfl

@[simp] theorem ret_bind (a : α) (f : α → Program C A β) : ret a >>= f = f a := rfl

@[simp] theorem call_bind (c : C) (next : A c → Program C A α) (f : α → Program C A β) :
    call c next >>= f = call c fun r => next r >>= f := rfl

@[simp] theorem ask_bind (c : C) (f : A c → Program C A β) : ask c >>= f = call c f := rfl

end Program

open Program

/-- The program makes the calls of the list, gets its answers, and ends with the result. -/
inductive Run : Program C A α → List (Event C A) → α → Prop where
  | ret (a : α) : Run (ret a) [] a
  | call {c : C} {next : A c → Program C A α} {r : A c} {t : List (Event C A)} {a : α} :
      Run (next r) t a → Run (call c next) (⟨c, r⟩ :: t) a

@[simp] theorem run_ret {a b : α} {t : List (Event C A)} :
    Run (ret a : Program C A α) t b ↔ t = [] ∧ b = a := by
  constructor
  · rintro ⟨⟩
    exact ⟨rfl, rfl⟩
  · rintro ⟨rfl, rfl⟩
    exact .ret b

@[simp] theorem run_call {c : C} {next : A c → Program C A α} {a : α} {t : List (Event C A)} :
    Run (Program.call c next) t a ↔ ∃ r t', t = ⟨c, r⟩ :: t' ∧ Run (next r) t' a := by
  constructor
  · rintro (_ | h)
    exact ⟨_, _, rfl, h⟩
  · rintro ⟨r, t', rfl, h⟩
    exact .call h

theorem run_ask {c : C} {r : A c} {t : List (Event C A)} :
    Run (ask c : Program C A (A c)) t r ↔ t = [⟨c, r⟩] := by
  constructor
  · rintro (_ | h)
    obtain ⟨rfl, rfl⟩ := run_ret.mp h
    rfl
  · rintro rfl
    exact .call (.ret r)

/-- A run of two programs in a row is a run of the first and then one of the second. -/
theorem run_bind {p : Program C A α} {f : α → Program C A β} {t : List (Event C A)} {b : β} :
    Run (p >>= f) t b ↔ ∃ a t₁ t₂, t = t₁ ++ t₂ ∧ Run p t₁ a ∧ Run (f a) t₂ b := by
  induction p generalizing t with
  | ret a =>
    constructor
    · intro h
      exact ⟨a, [], t, rfl, .ret a, h⟩
    · rintro ⟨_, _, t₂, rfl, ⟨⟩, h⟩
      exact h
  | call c next ih =>
    rw [call_bind, run_call]
    constructor
    · rintro ⟨r, t', rfl, h⟩
      obtain ⟨a, t₁, t₂, rfl, h₁, h₂⟩ := (ih r).mp h
      exact ⟨a, ⟨c, r⟩ :: t₁, t₂, rfl, .call h₁, h₂⟩
    · rintro ⟨a, t₁, t₂, rfl, h₁, h₂⟩
      obtain ⟨r, t', rfl, hnext⟩ := run_call.mp h₁
      exact ⟨r, t' ++ t₂, rfl, (ih r).mpr ⟨a, t', t₂, rfl, hnext, h₂⟩⟩

/-! ## Programs that make only some calls -/

def Program.Makes (P : C → Prop) : Program C A α → Prop
  | .ret _ => True
  | .call c next => P c ∧ ∀ r, (next r).Makes P

variable {P : C → Prop}

@[simp] theorem makes_ret (a : α) : (ret a : Program C A α).Makes P := trivial

@[simp] theorem makes_call {c : C} {next : A c → Program C A α} :
    (Program.call c next).Makes P ↔ P c ∧ ∀ r, (next r).Makes P := Iff.rfl

theorem makes_bind {p : Program C A α} {f : α → Program C A β} (hp : p.Makes P)
    (hf : ∀ a, (f a).Makes P) : (p >>= f).Makes P := by
  induction p with
  | ret a => exact hf a
  | call c next ih => exact ⟨hp.1, fun r => ih r (hp.2 r)⟩

/-- A run makes the calls that its program can make, and no others. -/
theorem Run.makes {p : Program C A α} {t : List (Event C A)} {a : α} (h : Run p t a)
    (hp : p.Makes P) {e : Event C A} (he : e ∈ t) : P e.1 := by
  induction h with
  | ret a => cases he
  | call h ih =>
    rcases List.mem_cons.mp he with rfl | he
    · exact hp.1
    · exact ih (hp.2 _) he

/-! ## What some run does -/

/-- Some run ends with the result. -/
def Program.Returns (p : Program C A α) (a : α) : Prop := ∃ t, Run p t a

/-- Some run makes the call. -/
def Program.MayMake (p : Program C A α) (c : C) : Prop := ∃ t a r, Run p t a ∧ ⟨c, r⟩ ∈ t

@[simp] theorem returns_ret {a b : α} : (ret a : Program C A α).Returns b ↔ b = a :=
  ⟨fun ⟨_, h⟩ => (run_ret.mp h).2, fun h => ⟨[], run_ret.mpr ⟨rfl, h⟩⟩⟩

@[simp] theorem returns_call {c : C} {next : A c → Program C A α} {a : α} :
    (Program.call c next).Returns a ↔ ∃ r, (next r).Returns a := by
  constructor
  · rintro ⟨_, h⟩
    obtain ⟨r, t, rfl, hnext⟩ := run_call.mp h
    exact ⟨r, t, hnext⟩
  · rintro ⟨r, t, h⟩
    exact ⟨_, .call h⟩

@[simp] theorem not_mayMake_ret {a : α} {c : C} : ¬ (ret a : Program C A α).MayMake c := by
  rintro ⟨t, _, r, h, hmem⟩
  obtain ⟨rfl, -⟩ := run_ret.mp h
  cases hmem

section Inhabited

variable [∀ c, Inhabited (A c)]

/-- Where every call has some answer, every program has some run. -/
theorem exists_run (p : Program C A α) : ∃ t a, Run p t a := by
  induction p with
  | ret a => exact ⟨[], a, .ret a⟩
  | call c next ih =>
    obtain ⟨t, a, h⟩ := ih default
    exact ⟨_, a, .call h⟩

@[simp] theorem mayMake_call {c c' : C} {next : A c' → Program C A α} :
    (Program.call c' next).MayMake c ↔ c' = c ∨ ∃ r, (next r).MayMake c := by
  constructor
  · rintro ⟨_, a, r, h, hmem⟩
    obtain ⟨r', t, rfl, hnext⟩ := run_call.mp h
    rcases List.mem_cons.mp hmem with heq | hmem
    · cases heq
      exact .inl rfl
    · exact .inr ⟨r', t, a, r, hnext, hmem⟩
  · rintro (rfl | ⟨r', t, a, r, h, hmem⟩)
    · obtain ⟨t, a, h⟩ := exists_run (next default)
      exact ⟨_, a, default, .call h, List.mem_cons_self⟩
    · exact ⟨_, a, r, .call h, List.mem_cons_of_mem _ hmem⟩

theorem mayMake_bind {p : Program C A α} {f : α → Program C A β} {c : C} :
    (p >>= f).MayMake c ↔ p.MayMake c ∨ ∃ a, p.Returns a ∧ (f a).MayMake c := by
  constructor
  · rintro ⟨_, b, r, h, hmem⟩
    obtain ⟨a, t₁, t₂, rfl, h₁, h₂⟩ := run_bind.mp h
    rcases List.mem_append.mp hmem with hmem | hmem
    · exact .inl ⟨t₁, a, r, h₁, hmem⟩
    · exact .inr ⟨a, ⟨t₁, h₁⟩, t₂, b, r, h₂, hmem⟩
  · rintro (⟨t₁, a, r, h₁, hmem⟩ | ⟨a, ⟨t₁, h₁⟩, t₂, b, r, h₂, hmem⟩)
    · obtain ⟨t₂, b, h₂⟩ := exists_run (f a)
      exact ⟨_, b, r, run_bind.mpr ⟨a, t₁, t₂, rfl, h₁, h₂⟩, List.mem_append_left _ hmem⟩
    · exact ⟨_, b, r, run_bind.mpr ⟨a, t₁, t₂, rfl, h₁, h₂⟩, List.mem_append_right _ hmem⟩

end Inhabited

/-! ## Surroundings with a state -/

/-- What comes of a program when the surroundings answer from a state: the result, the calls made,
and the state left behind. -/
def exec {σ : Type v} (answer : (c : C) → σ → A c × σ) : Program C A α → σ →
    α × List (Event C A) × σ
  | .ret a, s => (a, [], s)
  | .call c next, s =>
    let r := answer c s
    let rest := exec answer (next r.1) r.2
    (rest.1, ⟨c, r.1⟩ :: rest.2.1, rest.2.2)

/-- What the surroundings make of a program is one of its runs. -/
theorem run_exec {σ : Type v} (answer : (c : C) → σ → A c × σ) (p : Program C A α) (s : σ) :
    Run p (exec answer p s).2.1 (exec answer p s).1 := by
  induction p generalizing s with
  | ret a => exact .ret a
  | call c next ih => exact .call (ih _ _)

theorem exec_bind {σ : Type v} (answer : (c : C) → σ → A c × σ) (p : Program C A α)
    (f : α → Program C A β) (s : σ) :
    exec answer (p >>= f) s =
      let first := exec answer p s
      let second := exec answer (f first.1) first.2.2
      (second.1, first.2.1 ++ second.2.1, second.2.2) := by
  induction p generalizing s with
  | ret a => rfl
  | call c next ih =>
    rw [call_bind, exec, ih]
    rfl

/-- Surroundings that answer every call in one way. -/
theorem answer_exec (f : (c : C) → A c) (p : Program C A α) (s : PUnit.{v + 1}) {c : C} {r : A c}
    (h : ⟨c, r⟩ ∈ (exec (fun c s => (f c, s)) p s).2.1) : r = f c := by
  induction p generalizing s with
  | ret a => cases h
  | call c' next ih =>
    rcases List.mem_cons.mp h with heq | hmem
    · cases heq
      rfl
    · exact ih _ _ hmem

/-! ## A larger set of calls -/

section Lift

universe w

variable {C' : Type w} {A' : C' → Type v} (embed : C → C')
  (back : (c : C) → A' (embed c) → A c)

/-- The program as one that makes the calls of a larger system. -/
def Program.lift : Program C A α → Program C' A' α
  | .ret a => .ret a
  | .call c next => .call (embed c) fun r => (next (back c r)).lift

@[simp] theorem lift_call (c : C) (next : A c → Program C A α) :
    (Program.call c next).lift embed back =
      .call (embed c) fun r => (next (back c r)).lift embed back := rfl

@[simp] theorem lift_bind (p : Program C A α) (f : α → Program C A β) :
    (p >>= f).lift embed back = p.lift embed back >>= fun a => (f a).lift embed back := by
  induction p with
  | ret a => rfl
  | call c next ih =>
    rw [call_bind, lift_call, lift_call, call_bind]
    exact congrArg _ (funext fun r => ih _)

theorem makes_lift {P : C' → Prop} (hP : ∀ c, P (embed c)) (p : Program C A α) :
    (p.lift embed back).Makes P := by
  induction p with
  | ret a => exact trivial
  | call c next ih => exact ⟨hP c, fun r => ih _⟩

end Lift

end Interaction
