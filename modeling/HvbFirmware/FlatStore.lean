import Mathlib.Data.List.AList
import Mathlib.Logic.Function.Basic

/-!
# Records in a flat store

Byte strings under path names, as a settings subsystem keeps them: one value for each name, loads
that visit a subtree of the names, and calls that may fail. A directory gives a client its names,
none of them inside the subtree of another; over a directory the store is as good as one cell for
each name, and what other clients store does not show.
-/
namespace FlatStore

abbrev Key := List Char

abbrev Bytes := List UInt8

/-- What is stored: at most one value for each name. -/
abbrev Contents := Key → Option Bytes

/-! ## Layouts -/

/-- A record type as memory holds it: a fixed number of bytes, which bring the record back. -/
structure Layout (α : Type) where
  size : Nat
  bytes : α → Bytes
  parse : Bytes → α
  length_bytes : ∀ a, (bytes a).length = size
  parse_bytes : ∀ a, parse (bytes a) = a

namespace Layout

variable {α β : Type}

/-- Two bytes, the low one first. -/
def u16 : Layout UInt16 where
  size := 2
  bytes v := [UInt8.ofNat v.toNat, UInt8.ofNat (v.toNat / 256)]
  parse bs := UInt16.ofNat (bs.headD 0).toNat + UInt16.ofNat ((bs.drop 1).headD 0).toNat * 256
  length_bytes _ := rfl
  parse_bytes v := by
    have hlt := v.toNat_lt
    apply UInt16.toNat.inj
    simp
    omega

def bool : Layout Bool where
  size := 1
  bytes b := [if b then 1 else 0]
  parse bs := bs.headD 0 != 0
  length_bytes _ := rfl
  parse_bytes b := by cases b <;> rfl

/-- One record behind another. -/
def pair (A : Layout α) (B : Layout β) : Layout (α × β) where
  size := A.size + B.size
  bytes p := A.bytes p.1 ++ B.bytes p.2
  parse bs := (A.parse (bs.take A.size), B.parse (bs.drop A.size))
  length_bytes p := by rw [List.length_append, A.length_bytes, B.length_bytes]
  parse_bytes p := by
    rw [List.take_left' (A.length_bytes p.1), List.drop_left' (A.length_bytes p.1),
      A.parse_bytes, B.parse_bytes]

/-- A record with bytes behind it that mean nothing. -/
def padded (A : Layout α) (n : Nat) : Layout α where
  size := A.size + n
  bytes a := A.bytes a ++ List.replicate n 0
  parse bs := A.parse (bs.take A.size)
  length_bytes a := by rw [List.length_append, A.length_bytes, List.length_replicate]
  parse_bytes a := by rw [List.take_left' (A.length_bytes a), A.parse_bytes]

/-- A record kept as another one. -/
def via (A : Layout α) (f : β → α) (g : α → β) (h : ∀ b, g (f b) = b) : Layout β where
  size := A.size
  bytes b := A.bytes (f b)
  parse bs := g (A.parse bs)
  length_bytes b := A.length_bytes (f b)
  parse_bytes b := by rw [A.parse_bytes, h]

def i16 : Layout Int16 := u16.via Int16.toUInt16 UInt16.toInt16 fun _ => rfl

/-- An enumeration in four bytes. The upper half tells a value that has no name from the name that
the same number stands for. -/
def enumeration [DecidableEq α] (toValue : α → UInt16) (ofValue other : UInt16 → α)
    (h : ∀ a, ofValue (toValue a) = a ∨ other (toValue a) = a) : Layout α :=
  (u16.pair u16).via (fun a => (toValue a, if ofValue (toValue a) = a then 0 else 1))
    (fun p => if p.2 = 0 then ofValue p.1 else other p.1) fun a => by
      by_cases ha : ofValue (toValue a) = a
      · simp [ha]
      · simpa [ha] using (h a).resolve_left ha

end Layout

/-! ## Subtrees -/

/-- A name is in the subtree of `root`: `root` itself, or below it behind a separator. -/
def InSubtree (root key : Key) : Prop := key = root ∨ root ++ ['/'] <+: key

instance (root key : Key) : Decidable (InSubtree root key) :=
  inferInstanceAs (Decidable (_ ∨ _))

/-- Nothing is stored strictly below the root. -/
def Leaf (root : Key) (c : Contents) : Prop :=
  ∀ key, (c key).isSome → InSubtree root key → key = root

/-! ## The subsystem -/

variable {β σ : Type}

/-- A callback of a load: the length of a value, the value if it can be read, and the parameter. -/
abbrev Loader (β : Type) := (len : Nat) → (read : Option Bytes) → β → Int × β

/-- Values handed to a callback one after another, until it answers with an error. -/
def visit (readable : Key → Bool) (cb : Loader β) : List (Key × Bytes) → β → Int × β
  | [], param => (0, param)
  | entry :: entries, param =>
    let r := cb entry.2.length (if readable entry.1 then some entry.2 else none) param
    if r.1 ≠ 0 then r else visit readable cb entries r.2

/-- How a load goes: zero or an error of its own, and which of the values can be read. -/
structure LoadOutcome where
  result : Int
  readable : Key → Bool

/-- A settings subsystem over states `σ`, of which only this is relied on. Saves, deletes and loads
are told what they come to, zero for success: a save or a delete that fails leaves what is stored,
and a load that fails visits nothing. A load that succeeds visits the values of the subtree, each
once and in any order, and ends as `stopped` says at an error of the callback. -/
structure Subsystem (σ : Type) where
  content : σ → Contents
  saveOne : (rc : Int) → Key → Bytes → σ → σ
  delete : (rc : Int) → Key → σ → σ
  loadSubtreeDirect : {β : Type} → LoadOutcome → Key → Loader β → β → σ → Int × β
  entries : Key → σ → List (Key × Bytes)
  stopped : Int → Int
  save_done : ∀ key bytes s,
    content (saveOne 0 key bytes s) = Function.update (content s) key (some bytes)
  save_failed : ∀ rc key bytes s, rc ≠ 0 → content (saveOne rc key bytes s) = content s
  delete_done : ∀ key s, content (delete 0 key s) = Function.update (content s) key none
  delete_failed : ∀ rc key s, rc ≠ 0 → content (delete rc key s) = content s
  load_failed : ∀ {β : Type} o root (cb : Loader β) param s, o.result ≠ 0 →
    loadSubtreeDirect o root cb param s = (o.result, param)
  load_visits : ∀ {β : Type} o root (cb : Loader β) param s, o.result = 0 →
    loadSubtreeDirect o root cb param s =
      let r := visit o.readable cb (entries root s) param
      (if r.1 = 0 then 0 else stopped r.1, r.2)
  entries_nodup : ∀ root s, ((entries root s).map Prod.fst).Nodup
  mem_entries : ∀ root s key bytes,
    (key, bytes) ∈ entries root s ↔ InSubtree root key ∧ content s key = some bytes

namespace Subsystem

variable (S : Subsystem σ)

theorem content_save (rc : Int) (key : Key) (bytes : Bytes) (s : σ) :
    S.content (S.saveOne rc key bytes s) =
      if rc = 0 then Function.update (S.content s) key (some bytes) else S.content s := by
  split
  next h => rw [h, S.save_done]
  next h => exact S.save_failed rc key bytes s h

theorem content_delete (rc : Int) (key : Key) (s : σ) :
    S.content (S.delete rc key s) =
      if rc = 0 then Function.update (S.content s) key none else S.content s := by
  split
  next h => rw [h, S.delete_done]
  next h => exact S.delete_failed rc key s h

/-- A leaf has its own value in its subtree and no other. -/
theorem entries_leaf {root : Key} {s : σ} (h : Leaf root (S.content s)) :
    S.entries root s = ((S.content s root).map fun bytes => (root, bytes)).toList := by
  have hmem : ∀ entry, entry ∈ S.entries root s ↔
      entry.1 = root ∧ S.content s root = some entry.2 := by
    rintro ⟨key, bytes⟩
    rw [S.mem_entries]
    constructor
    · rintro ⟨hin, hkey⟩
      obtain rfl : key = root := h key (by rw [hkey]; rfl) hin
      exact ⟨rfl, hkey⟩
    · rintro ⟨rfl, hkey⟩
      exact ⟨.inl rfl, hkey⟩
  have hnodup := S.entries_nodup root s
  cases hroot : S.content s root with
  | none =>
    refine List.eq_nil_iff_forall_not_mem.mpr fun entry hentry => ?_
    exact absurd (hroot.symm.trans ((hmem entry).mp hentry).2) nofun
  | some bytes =>
    generalize S.entries root s = entries at hmem hnodup
    cases entries with
    | nil => exact absurd ((hmem (root, bytes)).mpr ⟨rfl, hroot⟩) List.not_mem_nil
    | cons entry entries =>
      obtain ⟨hfirst, hvalue⟩ := (hmem entry).mp List.mem_cons_self
      have hentry : entry = (root, bytes) :=
        Prod.ext hfirst (Option.some.inj (hvalue.symm.trans hroot))
      have hnone : entries = [] := by
        refine List.eq_nil_iff_forall_not_mem.mpr fun other hother => ?_
        have hother' := ((hmem other).mp (List.mem_cons_of_mem _ hother)).1
        refine (List.nodup_cons.mp hnodup).1 (List.mem_map.mpr ⟨other, hother, ?_⟩)
        exact hother'.trans hfirst.symm
      rw [hentry, hnone]
      rfl

/-- Over a leaf the callback gets the value of the root and no other. -/
theorem load_leaf {root : Key} {s : σ} (h : Leaf root (S.content s)) {o : LoadOutcome}
    (ho : o.result = 0) (cb : Loader β) (param : β) :
    S.loadSubtreeDirect o root cb param s =
      match S.content s root with
      | none => (0, param)
      | some bytes =>
        let r := cb bytes.length (if o.readable root then some bytes else none) param
        (if r.1 = 0 then 0 else S.stopped r.1, r.2) := by
  rw [S.load_visits o root cb param s ho, S.entries_leaf h]
  cases S.content s root with
  | none => rfl
  | some bytes =>
    by_cases hret : (cb bytes.length (if o.readable root then some bytes else none) param).1 = 0
    · simp [visit, hret]
    · simp [visit, hret]

end Subsystem

/-- A list of values, which keeps the error of a callback to itself. -/
def listed : Subsystem (AList fun _ : Key => Bytes) where
  content s key := s.lookup key
  saveOne rc key bytes s := if rc = 0 then s.insert key bytes else s
  delete rc key s := if rc = 0 then s.erase key else s
  loadSubtreeDirect o root cb param s :=
    if o.result ≠ 0 then (o.result, param)
    else (0, (visit o.readable cb
      ((s.entries.map fun e => (e.1, e.2)).filter fun e => InSubtree root e.1) param).2)
  entries root s := (s.entries.map fun e => (e.1, e.2)).filter fun e => InSubtree root e.1
  stopped _ := 0
  save_done key bytes s := by
    funext key'
    by_cases hkey : key' = key
    · subst hkey
      simp
    · simp [hkey, AList.lookup_insert_ne]
  save_failed rc key bytes s h := by simp [h]
  delete_done key s := by
    funext key'
    by_cases hkey : key' = key
    · subst hkey
      simp
    · simp [hkey, AList.lookup_erase_ne]
  delete_failed rc key s h := by simp [h]
  load_failed o root cb param s h := if_pos h
  load_visits o root cb param s h := by simp [h]
  entries_nodup root s := by
    have hkeys : ((s.entries.map fun e => (e.1, e.2)).map Prod.fst).Nodup := by
      rw [List.map_map]
      exact s.nodupKeys
    exact hkeys.sublist (List.filter_sublist.map Prod.fst)
  mem_entries root s key bytes := by
    simp only [List.mem_filter, List.mem_map, decide_eq_true_eq]
    constructor
    · rintro ⟨⟨entry, hentry, heq⟩, hin⟩
      obtain ⟨rfl, rfl⟩ := Prod.mk.inj heq
      exact ⟨hin, AList.mem_lookup_iff.mpr hentry⟩
    · rintro ⟨hin, hkey⟩
      exact ⟨⟨⟨key, bytes⟩, AList.mem_lookup_iff.mp hkey, rfl⟩, hin⟩

/-! ## Directories -/

/-- The names of a client. -/
structure Directory (ν : Type) where
  path : ν → Key
  flat : ∀ {a b}, InSubtree (path a) (path b) → a = b

variable {ν : Type} (D : Directory ν)

theorem Directory.path_inj {a b : ν} : D.path a = D.path b ↔ a = b :=
  ⟨fun h => D.flat (.inl h.symm), congrArg D.path⟩

/-- The value under a name. -/
def Directory.cell (c : Contents) (a : ν) : Option Bytes := c (D.path a)

/-- Another value under a name. -/
def Directory.put (c : Contents) (a : ν) (value : Option Bytes) : Contents :=
  Function.update c (D.path a) value

/-- Nothing is stored below a name of the client. -/
def Directory.Clear (c : Contents) : Prop := ∀ a, Leaf (D.path a) c

/-- The same values under the names of others. -/
def Directory.SameOthers (c c' : Contents) : Prop :=
  ∀ key, (∀ a, D.path a ≠ key) → c' key = c key

variable {D} {c : Contents}

theorem Directory.SameOthers.refl (c : Contents) : D.SameOthers c c := fun _ _ => rfl

theorem Directory.SameOthers.trans {c' c'' : Contents} (h : D.SameOthers c c')
    (h' : D.SameOthers c' c'') : D.SameOthers c c'' :=
  fun key hkey => (h' key hkey).trans (h key hkey)

theorem Directory.sameOthers_put (c : Contents) (a : ν) (value : Option Bytes) :
    D.SameOthers c (D.put c a value) :=
  fun _ hkey => Function.update_of_ne (hkey a).symm ..

theorem Directory.clear_empty (D : Directory ν) : D.Clear fun _ => none :=
  fun _ _ hkey => absurd hkey nofun

theorem Directory.Clear.put (h : D.Clear c) (a : ν) (value : Option Bytes) :
    D.Clear (D.put c a value) := by
  intro b key hkey hin
  by_cases ha : key = D.path a
  · subst ha
    exact congrArg D.path (D.flat hin).symm
  · unfold Directory.put at hkey
    rw [Function.update_of_ne ha] at hkey
    exact h b key hkey hin

theorem Directory.cell_put [DecidableEq ν] (c : Contents) (a : ν) (value : Option Bytes) :
    D.cell (D.put c a value) = Function.update (D.cell c) a value := by
  funext b
  by_cases hb : b = a
  · subst hb
    rw [Function.update_self]
    exact Function.update_self ..
  · rw [Function.update_of_ne hb]
    exact Function.update_of_ne (fun h => hb (D.path_inj.mp h)) ..

/-! ## Deleting names -/

variable (D) (S : Subsystem σ)

/-- Names deleted one after another; some of the deletes may fail. -/
def Directory.deleteAll (rc : ν → Int) (as : List ν) (s : σ) : σ :=
  as.foldl (fun s a => S.delete (rc a) (D.path a) s) s

variable {D S} {rc : ν → Int}

theorem Directory.content_delete (a : ν) (s : σ) :
    S.content (S.delete (rc a) (D.path a) s) =
      if rc a = 0 then D.put (S.content s) a none else S.content s :=
  S.content_delete (rc a) (D.path a) s

theorem Directory.cell_deleteAll [DecidableEq ν] (as : List ν) (s : σ) (b : ν) :
    D.cell (S.content (D.deleteAll S rc as s)) b =
      if b ∈ as ∧ rc b = 0 then none else D.cell (S.content s) b := by
  induction as generalizing s with
  | nil => simp [Directory.deleteAll]
  | cons a as ih =>
    have hcons : D.deleteAll S rc (a :: as) s =
        D.deleteAll S rc as (S.delete (rc a) (D.path a) s) := rfl
    rw [hcons, ih, D.content_delete]
    by_cases ha : rc a = 0
    · rw [if_pos ha, D.cell_put]
      by_cases hb : b = a <;> simp [hb, ha]
    · rw [if_neg ha]
      by_cases hb : b = a
      · subst hb
        simp [ha]
      · simp [hb]

theorem Directory.Clear.deleteAll {s : σ} (h : D.Clear (S.content s)) (as : List ν) :
    D.Clear (S.content (D.deleteAll S rc as s)) := by
  induction as generalizing s with
  | nil => exact h
  | cons a as ih =>
    refine ih ?_
    rw [D.content_delete]
    split
    · exact h.put a none
    · exact h

theorem Directory.sameOthers_deleteAll (as : List ν) (s : σ) :
    D.SameOthers (S.content s) (S.content (D.deleteAll S rc as s)) := by
  induction as generalizing s with
  | nil => exact .refl _
  | cons a as ih =>
    refine Directory.SameOthers.trans ?_ (ih _)
    rw [D.content_delete]
    split
    · exact D.sameOthers_put _ a none
    · exact .refl _

end FlatStore
