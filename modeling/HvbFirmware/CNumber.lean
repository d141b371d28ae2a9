import Mathlib.Data.Int.ModEq
import Mathlib.Data.List.TakeWhile

/-!
# Numbers in C strings

`strtoul` and `strtol` as the C standard has them: white space is skipped, and the longest start of
the rest that has the form of an integer constant, with an optional sign, is converted. A
`Numeral` is a string that has this form throughout.
-/
namespace CNumber

/-! ## Numerals -/

def digitVal (c : Char) : Option ℕ :=
  if c.isDigit then some (c.toNat - '0'.toNat)
  else if c.isLower then some (c.toNat - 'a'.toNat + 10)
  else if c.isUpper then some (c.toNat - 'A'.toNat + 10)
  else none

def isDigit (radix : ℕ) (c : Char) : Bool := (digitVal c).any (· < radix)

def valueOf (radix : ℕ) (ds : List Char) : ℕ :=
  ds.foldl (fun n c => n * radix + (digitVal c).getD 0) 0

/-- The prefix and the radix of digits; base 0 leaves both to the string. -/
inductive Radix (base : ℕ) : List Char → List Char → ℕ → Prop
  | hex {x : Char} {ds : List Char} (hx : x = 'x' ∨ x = 'X') (hbase : base = 0 ∨ base = 16) :
      Radix base ['0', x] ds 16
  | given {ds : List Char} (hbase : base ≠ 0) : Radix base [] ds base
  | octal {ds : List Char} (hbase : base = 0) (h : ds.head? = some '0') : Radix base [] ds 8
  | decimal {ds : List Char} (hbase : base = 0) (h : ds.head? ≠ some '0') : Radix base [] ds 10

inductive Magnitude (base : ℕ) : List Char → ℕ → Prop
  | mk {pre ds : List Char} {radix : ℕ} (hradix : Radix base pre ds radix) (hne : ds ≠ [])
      (hdigits : ∀ c ∈ ds, isDigit radix c) : Magnitude base (pre ++ ds) (valueOf radix ds)

inductive Numeral (base : ℕ) : List Char → ℤ → Prop
  | unsigned {s : List Char} {m : ℕ} (h : Magnitude base s m) : Numeral base s m
  | plus {s : List Char} {m : ℕ} (h : Magnitude base s m) : Numeral base ('+' :: s) m
  | minus {s : List Char} {m : ℕ} (h : Magnitude base s m) : Numeral base ('-' :: s) (-m)

/-! ## The conversion -/

def isSpace (c : Char) : Bool := c ∈ [' ', '\t', '\n', '\x0b', '\x0c', '\r']

def splitSign : List Char → Bool × List Char
  | '-' :: s => (true, s)
  | '+' :: s => (false, s)
  | s => (false, s)

/-- The digits behind the prefix of a hexadecimal constant. -/
def hexDigits? : List Char → Option (List Char)
  | '0' :: x :: c :: s => if (x = 'x' ∨ x = 'X') ∧ isDigit 16 c then some (c :: s) else none
  | _ => none

def splitRadix (base : ℕ) (s : List Char) : ℕ × List Char :=
  match if base = 0 ∨ base = 16 then hexDigits? s else none with
  | some ds => (16, ds)
  | none =>
    if base ≠ 0 then (base, s)
    else if s.head? = some '0' then (8, s)
    else (10, s)

/-- What is converted, and what follows it. -/
structure Subject where
  negative : Bool
  magnitude : ℕ
  rest : List Char
  deriving DecidableEq

def Subject.value (p : Subject) : ℤ := if p.negative then -p.magnitude else p.magnitude

def subject (base : ℕ) (s : List Char) : Option Subject :=
  let (negative, s) := splitSign s
  let (radix, s) := splitRadix base s
  let ds := s.takeWhile (isDigit radix)
  if ds = [] then none
  else some { negative, magnitude := valueOf radix ds, rest := s.dropWhile (isDigit radix) }

/-- The width of `long`. -/
structure LongWidth where
  bits : ℕ
  minimum : 32 ≤ bits

/-- The value, and what the end pointer is left at. -/
def strtoul (w : LongWidth) (s : List Char) (base : ℕ) : ℕ × List Char :=
  match subject base (s.dropWhile isSpace) with
  | none => (0, s)
  | some p =>
    (if p.magnitude < 2 ^ w.bits then (p.value % 2 ^ w.bits).toNat else 2 ^ w.bits - 1, p.rest)

def strtol (w : LongWidth) (s : List Char) (base : ℕ) : ℤ × List Char :=
  match subject base (s.dropWhile isSpace) with
  | none => (0, s)
  | some p => (max (-2 ^ (w.bits - 1)) (min p.value (2 ^ (w.bits - 1) - 1)), p.rest)

/-! ## A numeral is converted throughout -/

theorem ne_of_isDigit {radix : ℕ} {c d : Char} (h : isDigit radix c) (hd : digitVal d = none) :
    c ≠ d := by
  rintro rfl
  simp [isDigit, hd] at h

theorem hexDigits?_eq_none {radix : ℕ} {ds : List Char} (hradix : radix ≤ 16)
    (h : ∀ c ∈ ds, isDigit radix c) : hexDigits? ds = none := by
  have hx : ∀ x, isDigit radix x → ¬ (x = 'x' ∨ x = 'X') := by
    have h33 : ∀ x, x = 'x' ∨ x = 'X' → digitVal x = some 33 := by
      rintro x (rfl | rfl) <;> decide
    intro x hdigit hx
    rw [isDigit, h33 x hx] at hdigit
    have hlt : 33 < radix := by simpa using hdigit
    omega
  unfold hexDigits?
  split
  · exact if_neg fun hhex => hx _ (h _ (by simp)) hhex.1
  · rfl

theorem splitRadix_of_radix {base radix : ℕ} {pre ds : List Char} (h : Radix base pre ds radix)
    (hne : ds ≠ []) (hdigits : ∀ c ∈ ds, isDigit radix c) :
    splitRadix base (pre ++ ds) = (radix, ds) := by
  obtain ⟨c, ds, rfl⟩ := List.exists_cons_of_ne_nil hne
  cases h with
  | @hex x _ hx hbase =>
    have hhex : hexDigits? ('0' :: x :: c :: ds) = some (c :: ds) :=
      if_pos ⟨hx, hdigits c List.mem_cons_self⟩
    simp [splitRadix, hbase, hhex]
  | given hbase =>
    have hnone : (if base = 0 ∨ base = 16 then hexDigits? (c :: ds) else none) = none := by
      split
      next h16 => exact hexDigits?_eq_none (h16.resolve_left hbase).le hdigits
      next => rfl
    rw [splitRadix, List.nil_append, hnone]
    exact if_pos hbase
  | octal hbase hhead =>
    rw [splitRadix, List.nil_append, hexDigits?_eq_none (by decide) hdigits, ite_self]
    dsimp only
    rw [if_neg (not_not.mpr hbase), if_pos hhead]
  | decimal hbase hhead =>
    rw [splitRadix, List.nil_append, hexDigits?_eq_none (by decide) hdigits, ite_self]
    dsimp only
    rw [if_neg (not_not.mpr hbase), if_neg hhead]

theorem radix_of_splitRadix (base : ℕ) (s : List Char) :
    ∃ pre, s = pre ++ (splitRadix base s).2 ∧
      Radix base pre (splitRadix base s).2 (splitRadix base s).1 := by
  unfold splitRadix
  split
  next ds hds =>
    split at hds
    next hbase =>
      unfold hexDigits? at hds
      split at hds
      next x c s =>
        split at hds
        next hhex =>
          cases hds
          exact ⟨['0', x], rfl, .hex hhex.1 hbase⟩
        next => cases hds
      next => cases hds
    next => cases hds
  next =>
    split
    next hbase => exact ⟨[], rfl, .given hbase⟩
    next hbase =>
      split
      next hhead => exact ⟨[], rfl, .octal (not_not.mp hbase) hhead⟩
      next hhead => exact ⟨[], rfl, .decimal (not_not.mp hbase) hhead⟩

/-- The first character of a magnitude. -/
theorem Magnitude.head {base m : ℕ} {s : List Char} (h : Magnitude base s m) :
    ∃ c s', s = c :: s' ∧ digitVal c ≠ none := by
  obtain ⟨hradix, hne, hdigits⟩ := h
  cases hradix with
  | hex => exact ⟨'0', _, rfl, by decide⟩
  | _ =>
    obtain ⟨c, ds, rfl⟩ := List.exists_cons_of_ne_nil hne
    exact ⟨c, ds, rfl, fun hnone => ne_of_isDigit (hdigits c List.mem_cons_self) hnone rfl⟩

theorem subject_of_magnitude {base m : ℕ} {s s' : List Char} {negative : Bool}
    (hsign : splitSign s' = (negative, s)) (h : Magnitude base s m) :
    subject base s' = some { negative, magnitude := m, rest := [] } := by
  obtain ⟨hradix, hne, hdigits⟩ := h
  rw [subject, hsign]
  dsimp only
  rw [splitRadix_of_radix hradix hne hdigits]
  dsimp only
  rw [List.takeWhile_eq_self_iff.mpr hdigits, List.dropWhile_eq_nil_iff.mpr hdigits, if_neg hne]

theorem magnitude_of_subject {base : ℕ} {s : List Char} {p : Subject}
    (h : subject base s = some p) (hrest : p.rest = []) :
    p.negative = (splitSign s).1 ∧ Magnitude base (splitSign s).2 p.magnitude := by
  obtain ⟨pre, hs, hradix⟩ := radix_of_splitRadix base (splitSign s).2
  unfold subject at h
  dsimp only at h
  split at h
  next => cases h
  next hne =>
    cases h
    have hall := List.dropWhile_eq_nil_iff.mp hrest
    have hwhole := List.takeWhile_eq_self_iff.mpr hall
    rw [hwhole] at hne ⊢
    have hmagnitude := Magnitude.mk hradix hne hall
    rw [← hs] at hmagnitude
    exact ⟨rfl, hmagnitude⟩

/-- A numeral is a string that is converted to its end. -/
theorem numeral_iff {base : ℕ} {s : List Char} {v : ℤ} :
    Numeral base s v ↔ ∃ p, subject base s = some p ∧ p.rest = [] ∧ p.value = v := by
  constructor
  · rintro (h | h | h)
    · obtain ⟨c, s', rfl, hc⟩ := h.head
      have hsign : splitSign (c :: s') = (false, c :: s') := by
        unfold splitSign
        split <;> simp_all [digitVal]
      exact ⟨_, subject_of_magnitude hsign h, rfl, rfl⟩
    · exact ⟨_, subject_of_magnitude rfl h, rfl, rfl⟩
    · exact ⟨_, subject_of_magnitude rfl h, rfl, rfl⟩
  · rintro ⟨p, hsubject, hrest, rfl⟩
    obtain ⟨hnegative, hmagnitude⟩ := magnitude_of_subject hsubject hrest
    rw [Subject.value, hnegative]
    unfold splitSign at hmagnitude ⊢
    split at hmagnitude
    · exact .minus hmagnitude
    · exact .plus hmagnitude
    · exact .unsigned hmagnitude

theorem Numeral.dropWhile_isSpace {base : ℕ} {s : List Char} {v : ℤ} (h : Numeral base s v) :
    s.dropWhile isSpace = s := by
  have hspace : ∀ c, isSpace c → digitVal c = none := by
    intro c hc
    simp only [isSpace, decide_eq_true_eq, List.mem_cons, List.not_mem_nil, or_false] at hc
    rcases hc with rfl | rfl | rfl | rfl | rfl | rfl <;> decide
  rcases h with h | h | h
  · obtain ⟨c, s', rfl, hc⟩ := h.head
    exact List.dropWhile_cons_of_neg fun hisSpace => hc (hspace c hisSpace)
  · exact List.dropWhile_cons_of_neg (by decide)
  · exact List.dropWhile_cons_of_neg (by decide)

theorem Numeral.subject {base : ℕ} {s : List Char} {v : ℤ} (h : Numeral base s v) :
    ∃ p, CNumber.subject base (s.dropWhile isSpace) = some p ∧ p.rest = [] ∧ p.value = v := by
  rw [h.dropWhile_isSpace]
  exact numeral_iff.mp h

theorem Subject.natAbs_value (p : Subject) : p.value.natAbs = p.magnitude := by
  unfold Subject.value
  split <;> omega

/-- A numeral that `unsigned long` has room for, up to its sign. -/
theorem strtoul_numeral {w : LongWidth} {base : ℕ} {s : List Char} {v : ℤ}
    (h : Numeral base s v) (hv : v.natAbs < 2 ^ w.bits) :
    strtoul w s base = ((v % 2 ^ w.bits).toNat, []) := by
  obtain ⟨p, hsubject, hrest, rfl⟩ := h.subject
  rw [p.natAbs_value] at hv
  rw [strtoul, hsubject]
  dsimp only
  rw [if_pos hv, hrest]

/-- A numeral in the range of `long`. -/
theorem strtol_numeral {w : LongWidth} {base : ℕ} {s : List Char} {v : ℤ} (h : Numeral base s v)
    (hlow : -2 ^ (w.bits - 1) ≤ v) (hhigh : v ≤ 2 ^ (w.bits - 1) - 1) :
    strtol w s base = (v, []) := by
  obtain ⟨p, hsubject, hrest, rfl⟩ := h.subject
  rw [strtol, hsubject]
  dsimp only
  rw [min_eq_left hhigh, max_eq_right hlow, hrest]

end CNumber
