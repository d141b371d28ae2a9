/-!
# A lock with a two-step key

The lock opens on `first` immediately followed by `second`; any other write shuts it. What the
writes have made of it is told by their last two.
-/
namespace TwoStepLock

universe u

inductive Lock where
  | shut | armed | opened
  deriving DecidableEq, Repr

variable {α : Type u} [DecidableEq α] (first second : α)

def write (lock : Lock) (value : α) : Lock :=
  if value = first then .armed
  else if value = second ∧ lock = .armed then .opened
  else .shut

/-- The lock after a list of writes, the last one at the end. -/
def after (writes : List α) : Lock := writes.foldl (write first second) .shut

@[simp] theorem after_nil : after first second [] = .shut := rfl

@[simp] theorem after_concat (writes : List α) (value : α) :
    after first second (writes ++ [value]) = write first second (after first second writes) value :=
  List.foldl_append

theorem after_armed {writes : List α} (h : after first second writes = .armed) :
    ∃ earlier, writes = earlier ++ [first] := by
  rcases List.eq_nil_or_concat writes with rfl | ⟨earlier, value, rfl⟩
  · cases h
  rw [List.concat_eq_append, after_concat, write] at h
  split at h
  next hvalue => exact ⟨earlier, by rw [List.concat_eq_append, hvalue]⟩
  · split at h <;> cases h

/-- An open lock has seen its key last. -/
theorem after_opened {writes : List α} (h : after first second writes = .opened) :
    ∃ earlier, writes = earlier ++ [first, second] := by
  rcases List.eq_nil_or_concat writes with rfl | ⟨earlier, value, rfl⟩
  · cases h
  rw [List.concat_eq_append, after_concat, write] at h
  split at h
  · cases h
  split at h
  next hvalue =>
    obtain ⟨start, hstart⟩ := after_armed first second hvalue.2
    exact ⟨start, by simp [hstart, hvalue.1]⟩
  · cases h

end TwoStepLock
