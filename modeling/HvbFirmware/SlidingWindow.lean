import Mathlib.Data.List.DropRight

/-!
# Bounded histories and wrapping clocks

A history buffer with room for `n` entries keeps the last `n` of a list that grows at its end
(`List.rtake`). Of the entries that a window still covers it misses none before it has `n` of
them. A clock of 32 bits shows the true time modulo `2 ^ 32`, and differences on it are never
too large.
-/
namespace SlidingWindow

universe u

variable {α : Type u} {l : List α} {n : Nat}

/-- A full buffer makes room at its front. -/
def push (n : Nat) (buffer : List α) (x : α) : List α :=
  if buffer.length < n then buffer ++ [x] else buffer.tail ++ [x]

theorem rtake_of_length_le (h : l.length ≤ n) : l.rtake n = l := by
  rw [List.rtake, Nat.sub_eq_zero_of_le h, List.drop_zero]

theorem length_rtake (l : List α) (n : Nat) : (l.rtake n).length = min l.length n := by
  rw [List.rtake, List.length_drop]
  omega

theorem tail_rtake_succ (h : n < l.length) : (l.rtake (n + 1)).tail = l.rtake n := by
  rw [List.rtake, List.rtake, List.tail_drop]
  congr 1
  omega

/-- A buffer that holds the last `n` entries holds the last `n` after a push. -/
theorem push_rtake (hn : 0 < n) (l : List α) (x : α) :
    push n (l.rtake n) x = (l ++ [x]).rtake n := by
  obtain ⟨m, rfl⟩ := Nat.exists_eq_succ_of_ne_zero (Nat.pos_iff_ne_zero.mp hn)
  rw [List.rtake_concat_succ, push, length_rtake]
  split
  next hroom =>
    rw [rtake_of_length_le (by omega : l.length ≤ m + 1), rtake_of_length_le (by omega)]
  next hfull => rw [tail_rtake_succ (by omega)]

theorem push_map {β : Type u} (f : α → β) (buffer : List α) (x : α) :
    push n (buffer.map f) (f x) = (push n buffer x).map f := by
  unfold push
  rw [List.length_map]
  split <;> simp

/-- Entries that a window covers together with all later ones: the last `n` hold `n` of them, or
all. -/
theorem le_filter_rtake {p : α → Bool} (h : l.Pairwise fun a b => p a → p b) {m : Nat}
    (hm : m ≤ (l.filter p).length) (hmn : m ≤ n) : m ≤ ((l.rtake n).filter p).length := by
  induction l with
  | nil => simpa using hm
  | cons a l ih =>
    obtain ⟨hlater, h⟩ := List.pairwise_cons.mp h
    by_cases hlen : (a :: l).length ≤ n
    · rwa [rtake_of_length_le hlen]
    have hn : n ≤ l.length := by
      simp only [List.length_cons] at hlen
      omega
    have hshift : (a :: l).rtake n = l.rtake n := by
      rw [List.rtake, List.rtake, List.length_cons, Nat.succ_sub hn, List.drop_succ_cons]
    rw [hshift]
    cases ha : p a with
    | true =>
      have hall : (l.rtake n).filter p = l.rtake n :=
        List.filter_eq_self.mpr fun b hb => hlater b (List.mem_of_mem_drop hb) ha
      rw [hall, length_rtake]
      omega
    | false =>
      rw [List.filter_cons, ha] at hm
      exact ih h hm

/-! ## A wrapping clock -/

theorem toNat_ofNat_sub_le {now t : Nat} (h : t ≤ now) :
    (UInt32.ofNat now - UInt32.ofNat t).toNat ≤ now - t := by
  rw [← UInt32.ofNat_sub h, UInt32.toNat_ofNat']
  exact Nat.mod_le _ _

theorem ofNat_add_toNat (now : Nat) (dt : UInt32) :
    UInt32.ofNat (now + dt.toNat) = UInt32.ofNat now + dt := by
  rw [UInt32.ofNat_add, UInt32.ofNat_toNat]

end SlidingWindow
