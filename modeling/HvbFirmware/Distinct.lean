import Mathlib.Data.List.Nodup

/-!
# Lists of distinct keys

What edits do to a list whose elements have distinct keys: changing one element, renaming a key
everywhere, and changing one list of a list of lists.
-/
namespace Distinct

universe u v w

variable {α : Type u} {β : Type v} {γ : Type w}

/-! ## Renaming -/

def rename [DecidableEq α] (old new a : α) : α := if a = old then new else a

section Rename

variable [DecidableEq α] {old new : α}

@[simp] theorem rename_self (a : α) : rename old old a = a := by
  unfold rename
  split
  next h => exact h.symm
  · rfl

theorem rename_inj {a b : α} (ha : a = new → new = old) (hb : b = new → new = old)
    (h : rename old new a = rename old new b) : a = b := by
  unfold rename at h
  grind

theorem nodup_rename {l : List α} (h : l.Nodup) (hnew : new ∈ l → new = old) :
    (l.map (rename old new)).Nodup :=
  h.map_on fun _ ha _ hb =>
    rename_inj (fun heq => hnew (heq ▸ ha)) (fun heq => hnew (heq ▸ hb))

/-- Renaming one component of distinct pairs merges two of them, if the other component is the
same. -/
theorem nodup_rename_pair_iff {l : List (α × β)} (h : l.Nodup) (hne : old ≠ new) :
    (l.map fun p => (rename old new p.1, p.2)).Nodup ↔ ∀ b, (old, b) ∈ l → (new, b) ∉ l := by
  rw [List.nodup_map_iff_inj_on h]
  constructor
  · intro hinj b hold hnew
    have hsame := hinj (old, b) hold (new, b) hnew (by simp [rename, hne.symm])
    exact hne (congrArg Prod.fst hsame)
  · rintro hclear ⟨a, b⟩ ha ⟨a', b'⟩ ha' heq
    obtain ⟨hfst, rfl⟩ := Prod.mk.inj heq
    unfold rename at hfst
    grind

end Rename

/-! ## Changing one element -/

theorem forall_mem_modify {P : α → Prop} {f : α → α} {l : List α} {i : Nat} (h : ∀ a ∈ l, P a)
    (hf : ∀ a ∈ l[i]?, P (f a)) : ∀ a ∈ l.modify i f, P a := by
  induction l generalizing i with
  | nil => simp
  | cons a l ih =>
    obtain ⟨ha, hl⟩ := List.forall_mem_cons.mp h
    cases i with
    | zero => exact List.forall_mem_cons.mpr ⟨hf a rfl, hl⟩
    | succ i => exact List.forall_mem_cons.mpr ⟨ha, ih hl hf⟩

/-- The keys stay distinct if the new one differs from all others. -/
theorem nodup_modify {key : α → β} {f : α → α} {l : List α} {i : Nat} (h : (l.map key).Nodup)
    (hf : ∀ a ∈ l[i]?, ∀ j ≠ i, ∀ b ∈ l[j]?, key b ≠ key (f a)) :
    ((l.modify i f).map key).Nodup := by
  induction l generalizing i with
  | nil => simp
  | cons a l ih =>
    obtain ⟨ha, hl⟩ := List.nodup_cons.mp h
    cases i with
    | zero =>
      refine List.nodup_cons.mpr ⟨?_, hl⟩
      rintro hmem
      obtain ⟨b, hb, hkey⟩ := List.mem_map.mp hmem
      obtain ⟨j, hj⟩ := List.mem_iff_getElem?.mp hb
      exact hf a rfl (j + 1) (by omega) b hj hkey
    | succ i =>
      refine List.nodup_cons.mpr ⟨?_, ih hl fun b hb j hj c hc => hf b hb (j + 1) (by omega) c hc⟩
      have hothers : ∀ b ∈ l.modify i f, key b ≠ key a :=
        forall_mem_modify (fun b hb hkey => ha (hkey ▸ List.mem_map_of_mem hb))
          fun b hb hkey => hf b hb 0 (by omega) a rfl hkey.symm
      intro hmem
      obtain ⟨b, hb, hkey⟩ := List.mem_map.mp hmem
      exact hothers b hb hkey

/-- A change that keeps the keys. -/
theorem map_modify_congr {key : α → β} {f : α → α} {l : List α} {i : Nat}
    (h : ∀ a, key (f a) = key a) : (l.modify i f).map key = l.map key := by
  induction l generalizing i with
  | nil => simp
  | cons a l ih =>
    cases i with
    | zero => exact congrArg (· :: l.map key) (h a)
    | succ i => exact congrArg (key a :: ·) ih

theorem nodup_modify_congr {key : α → β} {f : α → α} {l : List α} {i : Nat}
    (h : (l.map key).Nodup) (hf : ∀ a, key (f a) = key a) :
    ((l.modify i f).map key).Nodup := by
  rw [map_modify_congr hf]
  exact h

/-! ## Changing one list -/

section Nested

variable {f : α → α} {g : α → List γ} {l : List α} {i : Nat}

theorem flatMap_modify_sublist (h : ∀ a ∈ l[i]?, (g (f a)).Sublist (g a)) :
    ((l.modify i f).flatMap g).Sublist (l.flatMap g) := by
  induction l generalizing i with
  | nil => simp
  | cons a l ih =>
    cases i with
    | zero => exact (h a rfl).append (List.Sublist.refl _)
    | succ i => exact (List.Sublist.refl _).append (ih h)

theorem flatMap_modify_append {c : γ} {a : α} (ha : l[i]? = some a) (h : g (f a) = g a ++ [c]) :
    ((l.modify i f).flatMap g).Perm (c :: l.flatMap g) := by
  induction l generalizing i with
  | nil => cases ha
  | cons b l ih =>
    cases i with
    | zero =>
      obtain rfl := Option.some.inj ha
      show (g (f b) ++ l.flatMap g).Perm (c :: (g b ++ l.flatMap g))
      rw [h, List.append_assoc]
      exact List.perm_middle
    | succ i => exact ((ih ha).append_left (g b)).trans List.perm_middle

/-- A change that keeps what is read of every list. -/
theorem flatMap_modify_congr {β : Type v} {key : γ → β}
    (h : ∀ a ∈ l[i]?, (g (f a)).map key = (g a).map key) :
    ((l.modify i f).flatMap g).map key = (l.flatMap g).map key := by
  induction l generalizing i with
  | nil => simp
  | cons a l ih =>
    cases i with
    | zero =>
      show (g (f a) ++ l.flatMap g).map key = (g a ++ l.flatMap g).map key
      rw [List.map_append, h a rfl, List.map_append]
    | succ i =>
      show (g a ++ (l.modify i f).flatMap g).map key = (g a ++ l.flatMap g).map key
      rw [List.map_append, ih h, List.map_append]

theorem nodup_flatMap_modify_congr {β : Type v} {key : γ → β}
    (hl : ((l.flatMap g).map key).Nodup) (h : ∀ a ∈ l[i]?, (g (f a)).map key = (g a).map key) :
    (((l.modify i f).flatMap g).map key).Nodup := by
  rw [flatMap_modify_congr h]
  exact hl

end Nested

end Distinct
