import HvbFirmware.ModbusRegister
import HvbFirmware.Runs

/-!
# The two halves of a 32-bit register

A master reads the high word and then the low word. The latch makes the two one sample for the
registers of the system block. A channel request makes guard reads first, all of 16 bits, and each
clears the latch, so the low word of a channel register is always read anew.
-/
namespace WordCoherence

open VcTypes RegCatalog ModbusRegister Runs

/-! ## Requests -/

inductive Request where
  | inputRd (addr : UInt16)
  | holdingRd (addr : UInt16)
  | holdingWr (addr val : UInt16)
  deriving DecidableEq, Repr

/-- A request, with what the world answers while it is served. -/
structure Call where
  request : Request
  answers : Answers

def serve (b : Build) (latch : WordLatch) (c : Call) : WordLatch :=
  match c.request with
  | .inputRd addr => (vcMbInputRd c.answers b addr latch).2
  | .holdingRd addr => (vcMbHoldingRd c.answers b addr latch).2
  | .holdingWr addr val => (vcMbHoldingWr c.answers b addr val latch).2

/-- The word that an input read brings, if it is accepted. -/
def received (b : Build) (latch : WordLatch) (c : Call) : Option UInt16 :=
  match c.request with
  | .inputRd addr => (vcMbInputRd c.answers b addr latch).1.toOption
  | _ => none

def Call.addr (c : Call) : Option WireAddr :=
  match c.request with
  | .inputRd addr => addrDecode addr
  | _ => none

def wireReg (wire : Option WireReg) (ch : UInt8) : Option (RegDescriptor × Nat) :=
  wire.bind fun wire => (wire.handle ch).map fun desc => (desc, wire.word)

/-- The register at a block address of the input view, and its half. -/
def inputReg (b : Build) : WireAddr → Option (RegDescriptor × Nat)
  | .sys off => wireReg (sysInputView b off) 0
  | .channel ch off => wireReg (chInputView b off) ch

/-- The half of a 32-bit register that the request reads, if it reads one. -/
def Call.half (b : Build) (c : Call) : Option (RegDescriptor × Nat) :=
  (c.addr.bind (inputReg b)).filter fun r => r.1.type.is32

/-- The value that a register has when the request reads it. -/
def Call.sample (c : Call) (desc : RegDescriptor) : RegStatus × UInt32 :=
  regReadDescriptor (c.answers.read .requested) desc

/-! ## Reads of one wire register -/

theorem latchHit_clear (latch : WordLatch) (desc : RegDescriptor) (word : Nat) :
    latchHit latch.clear desc word = false := by
  simp [latchHit, WordLatch.clear]

/-- A half of a 32-bit register comes from the latch or from the owner. -/
theorem readWire_half {a : Answers} {wire : WireReg} {ch : UInt8} {desc : RegDescriptor}
    (hdesc : wire.handle ch = some desc) (h32 : desc.type.is32) (haccess : desc.access ≠ .wo)
    (reading : Reading) (latch : WordLatch) :
    readWire a reading (some wire) ch latch =
      if latchHit latch desc wire.word then (.ok (loWord latch.value), latch.clear)
      else
        let answer := regReadDescriptor (a.read reading) desc
        if answer.1 ≠ .ok then (.error answer.1, latch)
        else if wire.word = 0 then (.ok (hiWord answer.2), ⟨desc.id, answer.2, true⟩)
        else (.ok (loWord answer.2), latch.clear) := by
  have hreadable : (regReadDescriptor (a.read reading) desc).1 ≠ .writeOnly := by
    rw [regReadDescriptor, if_neg haccess]
    exact a.read_readable reading desc haccess
  unfold readWire
  simp only [hdesc, h32, hreadable, if_false, Bool.not_true, Bool.false_eq_true]

/-- A 16-bit read leaves the latch or clears it, and does not look at it. -/
theorem readWire_narrow {a : Answers} {wire : Option WireReg} {ch : UInt8}
    (hnarrow : ∀ r ∈ wireReg wire ch, r.1.type.is32 = false) (reading : Reading)
    (latch : WordLatch) :
    (readWire a reading wire ch latch).1 = (readWire a reading wire ch .initial).1 ∧
      ((readWire a reading wire ch latch).2 = latch ∧
          guardValue (readWire a reading wire ch latch).1 = 0 ∨
        (readWire a reading wire ch latch).2 = latch.clear) := by
  cases wire with
  | none => exact ⟨rfl, .inl ⟨rfl, rfl⟩⟩
  | some wire =>
    cases hdesc : wire.handle ch with
    | none =>
      simp only [readWire, hdesc]
      exact ⟨trivial, .inl ⟨trivial, rfl⟩⟩
    | some desc =>
      have h16 : desc.type.is32 = false := hnarrow (desc, wire.word) (by simp [wireReg, hdesc])
      have hhit : ∀ latch, latchHit latch desc wire.word = false := by simp [latchHit, h16]
      simp only [readWire, hdesc, hhit, h16, Bool.false_eq_true, if_false, Bool.not_false, if_true]
      split
      · exact ⟨rfl, .inl ⟨rfl, rfl⟩⟩
      split
      · exact ⟨rfl, .inl ⟨rfl, rfl⟩⟩
      · exact ⟨rfl, .inr rfl⟩

/-! ## Reads through the guards of a channel -/

theorem count_narrow (b : Build) : ∀ r ∈ wireReg (sysInputView b 4) 0, r.1.type.is32 = false := by
  rintro _ ⟨rfl⟩
  rfl

theorem mode_narrow (b : Build) : ∀ r ∈ wireReg (sysInputView b 12) 0, r.1.type.is32 = false := by
  rintro _ ⟨rfl⟩
  rfl

theorem caps_narrow (b : Build) (ch : UInt8) :
    ∀ r ∈ wireReg (chInputView b 9) ch, r.1.type.is32 = false := by
  intro r hr
  have hwire : wireReg (chInputView b 9) ch =
      (regVcChannelHandle b ch .capabilityFlags).map fun desc => (desc, 0) := rfl
  rw [hwire, regVcChannelHandle] at hr
  split at hr
  · cases hr
  · obtain rfl := Option.some.inj hr
    rfl

/-- The count that lets a channel through is not zero, so its read has cleared the latch. -/
theorem readCount_of_lt {a : Answers} {b : Build} {ch : UInt8} {latch : WordLatch}
    (h : ch.toUInt16 < guardValue (readCount a b latch).1) :
    (readCount a b latch).2 = latch.clear := by
  rcases (readWire_narrow (count_narrow b) .count latch).2 with ⟨-, hzero⟩ | hclear
  · have hzero : guardValue (readCount a b latch).1 = 0 := hzero
    rw [hzero] at h
    exact absurd h (by simp)
  · exact hclear

/-- The later guards keep the latch cleared. -/
theorem guard_clear {a : Answers} {wire : Option WireReg} {ch : UInt8}
    (hnarrow : ∀ r ∈ wireReg wire ch, r.1.type.is32 = false) (reading : Reading)
    (latch : WordLatch) :
    readWire a reading wire ch latch.clear =
      ((readWire a reading wire ch .initial).1, latch.clear) := by
  obtain ⟨hvalue, hlatch⟩ := readWire_narrow (a := a) hnarrow reading latch.clear
  refine Prod.ext hvalue ?_
  rcases hlatch with ⟨h, -⟩ | h <;> exact h

/-- The guards of `vc_reg_read_ch_input`, none of which looks at the latch. -/
def admits (a : Answers) (b : Build) (ch : UInt8) (off : Nat) : Bool :=
  ch.toUInt16 < guardValue (readCount a b .initial).1 ∧ off < chBlockSize ∧
    chInputSupported (guardValue (readCaps a b ch .initial).1) off ∧
    ¬ (isChCalInputReg off ∧ guardValue (readMode a b .initial).1 ≠ calibrationMode)

theorem read_admitted {a : Answers} {b : Build} {ch : UInt8} {off : Nat}
    (h : admits a b ch off) (latch : WordLatch) :
    vcRegReadChInput a b ch off latch =
      readWire a .requested (chInputView b off) ch latch.clear := by
  simp only [admits, decide_eq_true_eq] at h
  obtain ⟨hch, hoff, hcaps, hmode⟩ := h
  have hcount : (readCount a b latch).1 = (readCount a b .initial).1 :=
    (readWire_narrow (count_narrow b) .count latch).1
  rw [← hcount] at hch
  have hcleared := readCount_of_lt hch
  have hreadCaps : readCaps a b ch latch.clear = ((readCaps a b ch .initial).1, latch.clear) :=
    guard_clear (caps_narrow b ch) .caps latch
  have hreadMode : readMode a b latch.clear = ((readMode a b .initial).1, latch.clear) :=
    guard_clear (mode_narrow b) .mode latch
  unfold vcRegReadChInput
  simp only [hcleared, hreadCaps, hreadMode]
  rw [if_neg (by simpa using hch), if_neg (by simpa using hoff), if_neg (by simp [hcaps]),
    if_neg hmode]

theorem read_refused {a : Answers} {b : Build} {ch : UInt8} {off : Nat}
    (h : admits a b ch off = false) (latch : WordLatch) :
    ∃ st, (vcRegReadChInput a b ch off latch).1 = .error st := by
  have hcount : (readCount a b latch).1 = (readCount a b .initial).1 :=
    (readWire_narrow (count_narrow b) .count latch).1
  unfold vcRegReadChInput
  dsimp only
  split
  · exact ⟨_, rfl⟩
  next hch =>
  rw [readCount_of_lt (by simpa using hch)]
  split
  · exact ⟨_, rfl⟩
  next hoff =>
  have hreadCaps : readCaps a b ch latch.clear = ((readCaps a b ch .initial).1, latch.clear) :=
    guard_clear (caps_narrow b ch) .caps latch
  have hreadMode : readMode a b latch.clear = ((readMode a b .initial).1, latch.clear) :=
    guard_clear (mode_narrow b) .mode latch
  simp only [hreadCaps, hreadMode]
  split
  · exact ⟨_, rfl⟩
  next hcaps =>
  split
  · exact ⟨_, rfl⟩
  next hmode =>
  -- every guard has let the request through
  have hadmits : admits a b ch off := by
    rw [hcount] at hch
    simp only [admits, decide_eq_true_eq]
    exact ⟨by simpa using hch, by simpa using hoff, by simpa using hcaps, hmode⟩
  rw [hadmits] at h
  cases h

/-! ## Reads of one half -/

/-- Whether the input view lets the request through to its register. -/
def Call.admitted (b : Build) (c : Call) : Bool :=
  match c.addr with
  | some (.channel ch off) => admits c.answers b ch off
  | _ => true

def Call.onChannel (c : Call) : Bool :=
  match c.addr with
  | some (.channel _ _) => true
  | _ => false

theorem sysInputView_readable {b : Build} {off : Nat} {desc : RegDescriptor} {word : Nat}
    (h : wireReg (sysInputView b off) 0 = some (desc, word)) :
    desc.access = .ro ∧ (word = 0 ∨ word = 1) := by
  unfold sysInputView at h
  split at h
  case h_7 | h_8 =>
    simp only [wireReg, sysStatusWire, Option.bind_some] at h
    split at h
    · cases h
      exact ⟨rfl, .inl rfl⟩
    · cases h
  all_goals
    cases h <;> first | exact ⟨rfl, .inl rfl⟩ | exact ⟨rfl, .inr rfl⟩

theorem chInputView_readable {b : Build} {ch : UInt8} {off : Nat} {desc : RegDescriptor}
    {word : Nat} (h : wireReg (chInputView b off) ch = some (desc, word)) :
    desc.access = .ro ∧ (word = 0 ∨ word = 1) := by
  obtain ⟨wire, hwire, hdesc⟩ := Option.bind_eq_some_iff.mp h
  obtain ⟨⟨reg, word'⟩, hreg, rfl⟩ := Option.map_eq_some_iff.mp hwire
  obtain ⟨desc', hdesc', heq⟩ := Option.map_eq_some_iff.mp hdesc
  simp only [regVcChannelHandle] at hdesc'
  cases heq
  split at hdesc'
  · cases hdesc'
  cases hdesc'
  unfold chInputReg at hreg
  split at hreg <;> cases hreg <;> first | exact ⟨rfl, .inl rfl⟩ | exact ⟨rfl, .inr rfl⟩

/-- An accepted request for half a register, with its reply and the latch it leaves. -/
inductive HalfRead (b : Build) (latch : WordLatch) (c : Call) (desc : RegDescriptor) (word : Nat) :
    Option UInt16 → WordLatch → Prop where
  | latched (hsys : c.onChannel = false) (hhit : latchHit latch desc word) :
      HalfRead b latch c desc word (some (loWord latch.value)) latch.clear
  | high (hadmitted : c.admitted b) (hword : word = 0) (hok : (c.sample desc).1 = .ok) :
      HalfRead b latch c desc word (some (hiWord (c.sample desc).2))
        ⟨desc.id, (c.sample desc).2, true⟩
  | low (hadmitted : c.admitted b) (hword : word = 1) (hok : (c.sample desc).1 = .ok)
      (hhit : c.onChannel = false → latchHit latch desc word = false) :
      HalfRead b latch c desc word (some (loWord (c.sample desc).2)) latch.clear
  | failed (latch' : WordLatch) (hfailed : c.admitted b → (c.sample desc).1 ≠ .ok)
      (hhit : c.onChannel = false → latchHit latch desc word = false) :
      HalfRead b latch c desc word none latch'

theorem toOption_toMb (r : Except RegStatus UInt16 × WordLatch) :
    (toMb r).1.toOption = r.1.toOption := by
  rcases r with ⟨_ | _, _⟩ <;> rfl

theorem exists_wire {wire : Option WireReg} {ch : UInt8} {desc : RegDescriptor} {word : Nat}
    (h : wireReg wire ch = some (desc, word)) :
    ∃ w, wire = some w ∧ w.handle ch = some desc ∧ w.word = word := by
  obtain ⟨w, hw, hdesc⟩ := Option.bind_eq_some_iff.mp h
  obtain ⟨desc', hdesc', heq⟩ := Option.map_eq_some_iff.mp hdesc
  cases heq
  exact ⟨w, hw, hdesc', rfl⟩

/-- The latch that the read of the register itself finds. -/
def latchBefore (latch : WordLatch) (c : Call) : WordLatch :=
  if c.onChannel then latch.clear else latch

theorem halfRead_wire {b : Build} {latch : WordLatch} {c : Call} {desc : RegDescriptor}
    {wire : WireReg} {ch : UInt8} (hadmitted : c.admitted b) (h32 : desc.type.is32)
    (hdesc : wire.handle ch = some desc) (hro : desc.access = .ro)
    (hword : wire.word = 0 ∨ wire.word = 1) :
    HalfRead b latch c desc wire.word
      (readWire c.answers .requested (some wire) ch (latchBefore latch c)).1.toOption
      (readWire c.answers .requested (some wire) ch (latchBefore latch c)).2 := by
  rw [readWire_half hdesc h32 (by simp [hro])]
  by_cases hhit : latchHit (latchBefore latch c) desc wire.word
  · -- guards would have cleared the latch
    have hsys : c.onChannel = false := by
      by_cases hch : c.onChannel
      · rw [latchBefore, if_pos hch, latchHit_clear] at hhit
        cases hhit
      · simpa using hch
    have hsame : latchBefore latch c = latch := by rw [latchBefore, hsys]; rfl
    rw [hsame] at hhit ⊢
    rw [if_pos hhit]
    exact .latched hsys hhit
  rw [if_neg hhit]
  have hmiss : c.onChannel = false → latchHit latch desc wire.word = false := by
    intro hsys
    have hsame : latchBefore latch c = latch := by rw [latchBefore, hsys]; rfl
    rw [hsame] at hhit
    simpa using hhit
  have hclear : (latchBefore latch c).clear = latch.clear := by
    unfold latchBefore
    split <;> rfl
  dsimp only
  by_cases hok : (c.sample desc).1 = .ok
  · rw [if_neg (by simpa [Call.sample] using hok)]
    rcases hword with hword | hword
    · rw [if_pos hword]
      exact .high hadmitted hword hok
    · rw [if_neg (by simp [hword]), hclear]
      exact .low hadmitted hword hok hmiss
  · rw [if_pos (by simpa [Call.sample] using hok)]
    exact .failed _ (fun _ => hok) hmiss

theorem off_lt {addr : UInt16} {off : Nat} (h : addrDecode addr = some (.sys off)) :
    off < chBlockSize := by
  unfold addrDecode at h
  split at h
  next hlt =>
    cases h
    exact hlt
  · dsimp only at h
    split at h <;> cases h

theorem inputRd_sys {addr : UInt16} {off : Nat} (h : addrDecode addr = some (.sys off))
    (a : Answers) (b : Build) (latch : WordLatch) :
    vcMbInputRd a b addr latch = toMb (readWire a .requested (sysInputView b off) 0 latch) := by
  simp only [vcMbInputRd, h, vcRegReadSysInput, if_neg (Nat.not_le.mpr (off_lt h))]

theorem inputRd_channel {addr : UInt16} {ch : UInt8} {off : Nat}
    (h : addrDecode addr = some (.channel ch off)) (a : Answers) (b : Build)
    (latch : WordLatch) :
    vcMbInputRd a b addr latch = toMb (vcRegReadChInput a b ch off latch) := by
  simp only [vcMbInputRd, h]

theorem halfRead {b : Build} {c : Call} {desc : RegDescriptor} {word : Nat}
    (h : c.half b = some (desc, word)) (latch : WordLatch) :
    HalfRead b latch c desc word (received b latch c) (serve b latch c) := by
  obtain ⟨hbind, h32⟩ := Option.filter_eq_some_iff.mp h
  obtain ⟨addr, haddr, hreg⟩ := Option.bind_eq_some_iff.mp hbind
  obtain ⟨request, answers⟩ := c
  cases request with
  | holdingRd _ => cases haddr
  | holdingWr _ _ => cases haddr
  | inputRd wireAddr =>
    have hdecode : addrDecode wireAddr = some addr := haddr
    simp only [received, serve]
    cases addr with
    | sys off =>
      obtain ⟨hro, hword⟩ := sysInputView_readable hreg
      obtain ⟨wire, hwire, hdesc, rfl⟩ := exists_wire hreg
      have hbefore : latchBefore latch ⟨.inputRd wireAddr, answers⟩ = latch := by
        simp [latchBefore, Call.onChannel, haddr]
      have hadmitted : Call.admitted b ⟨.inputRd wireAddr, answers⟩ := by
        simp [Call.admitted, haddr]
      have hread : HalfRead b latch ⟨.inputRd wireAddr, answers⟩ desc wire.word _ _ :=
        halfRead_wire hadmitted h32 hdesc hro hword
      rw [hbefore] at hread
      rw [inputRd_sys hdecode, toOption_toMb, hwire]
      exact hread
    | channel ch off =>
      obtain ⟨hro, hword⟩ := chInputView_readable hreg
      obtain ⟨wire, hwire, hdesc, rfl⟩ := exists_wire hreg
      have hbefore : latchBefore latch ⟨.inputRd wireAddr, answers⟩ = latch.clear := by
        simp [latchBefore, Call.onChannel, haddr]
      have hadmits : Call.admitted b ⟨.inputRd wireAddr, answers⟩ = admits answers b ch off := by
        simp [Call.admitted, haddr]
      rw [inputRd_channel hdecode, toOption_toMb]
      by_cases hadmitted : admits answers b ch off
      · have hread : HalfRead b latch ⟨.inputRd wireAddr, answers⟩ desc wire.word _ _ :=
          halfRead_wire (hadmits.trans hadmitted) h32 hdesc hro hword
        rw [hbefore] at hread
        rw [read_admitted hadmitted, hwire]
        exact hread
      · obtain ⟨st, hst⟩ := read_refused (eq_false_of_ne_true hadmitted) latch
        rw [hst]
        exact .failed _ (fun h => absurd (hadmits ▸ h) hadmitted)
          fun hsys => by simp [Call.onChannel, haddr] at hsys

/-! ## What the master sees -/

/-- The reply to the last request, if that was the high word of a 32-bit register. -/
structure HiRead where
  id : RegId
  word : UInt16
  sample : UInt32
  deriving DecidableEq, Repr

def hiRead (b : Build) (latch : WordLatch) (c : Call) : Option HiRead :=
  match c.half b, received b latch c with
  | some (desc, 0), some word => some ⟨desc.id, word, (c.sample desc).2⟩
  | _, _ => none

/-- The latch with what the master has just read. -/
abbrev view (b : Build) (p : WordLatch × Option HiRead) (c : Call) : WordLatch × Option HiRead :=
  watched (serve b) (fun latch c _ => hiRead b latch c) p c

/-- The high word that was read right before a half of this register. -/
def adjacent (hi : Option HiRead) (desc : RegDescriptor) : Option HiRead :=
  hi.filter fun hi => hi.id = desc.id

def IsPair (raw : UInt32) (hi lo : UInt16) : Prop := hi = hiWord raw ∧ lo = loWord raw

instance (raw : UInt32) (hi lo : UInt16) : Decidable (IsPair raw hi lo) :=
  inferInstanceAs (Decidable (_ ∧ _))

/-- A low word makes a pair with the high word read right before it, from one of the two samples
taken; with no such high word it is from the sample of its own request. -/
def LowCoherent (hi : Option HiRead) (c : Call) (desc : RegDescriptor) (lo : UInt16) : Prop :=
  match adjacent hi desc with
  | some hi => IsPair hi.sample hi.word lo ∨
    (c.sample desc).1 = .ok ∧ IsPair (c.sample desc).2 hi.word lo
  | none => (c.sample desc).1 = .ok ∧ lo = loWord (c.sample desc).2

def Coherent (b : Build) (p : WordLatch × Option HiRead) (c : Call) : Prop :=
  match c.half b, received b p.1 c with
  | some (desc, 1), some lo => LowCoherent p.2 c desc lo
  | _, _ => True

/-- When the low word that a request asks for is a fit one. On a channel the two samples have a
half in common; in the system block the latch holds nothing of the register, or the low word that
the register still has. -/
def LowSteady (b : Build) (p : WordLatch × Option HiRead) (c : Call) (desc : RegDescriptor) :
    Prop :=
  if c.onChannel then
    ∀ hi ∈ adjacent p.2 desc, c.admitted b → (c.sample desc).1 = .ok →
      hiWord (c.sample desc).2 = hiWord hi.sample ∨ loWord (c.sample desc).2 = loWord hi.sample
  else
    adjacent p.2 desc = none → latchHit p.1 desc 1 →
      (c.sample desc).1 = .ok ∧ loWord p.1.value = loWord (c.sample desc).2

def Steady (b : Build) (p : WordLatch × Option HiRead) (c : Call) : Prop :=
  match c.half b with
  | some (desc, 1) => LowSteady b p c desc
  | _ => True

/-! ## The latch holds what was read -/

/-- After the high word of a register the latch holds its sample. -/
def Held (p : WordLatch × Option HiRead) : Prop :=
  ∀ hi ∈ p.2, p.1 = ⟨hi.id, hi.sample, true⟩ ∧ hi.word = hiWord hi.sample

theorem held_view (b : Build) (p : WordLatch × Option HiRead) (c : Call) : Held (view b p c) := by
  intro hi hhi
  have hhi : hiRead b p.1 c = some hi := hhi
  show serve b p.1 c = _ ∧ _
  unfold hiRead at hhi
  split at hhi
  next desc word hhalf hreceived =>
    have hread := halfRead hhalf p.1
    rw [hreceived] at hread
    generalize serve b p.1 c = latch at hread ⊢
    cases hread with
    | latched _ hhit => simp [latchHit] at hhit
    | high _ _ _ =>
      cases hhi
      exact ⟨rfl, rfl⟩
    | low _ hword _ _ => cases hword
  · cases hhi

theorem coherent_iff {b : Build} {p : WordLatch × Option HiRead} (hheld : Held p) (c : Call) :
    Coherent b p c ↔ Steady b p c := by
  unfold Coherent Steady
  cases hhalf : c.half b with
  | none => simp
  | some r =>
    obtain ⟨desc, word⟩ := r
    by_cases hword : word = 1
    · subst hword
      have h32 : desc.type.is32 := (Option.filter_eq_some_iff.mp hhalf).2
      have hread := halfRead hhalf p.1
      -- a high word of the register is in the latch
      have hhit : ∀ hi, adjacent p.2 desc = some hi → hi.word = hiWord hi.sample ∧
          p.1.value = hi.sample ∧ latchHit p.1 desc 1 := by
        intro hi hadjacent
        obtain ⟨hmem, hid⟩ := Option.filter_eq_some_iff.mp hadjacent
        obtain ⟨hlatch, hhigh⟩ := hheld hi hmem
        have hid : hi.id = desc.id := by simpa using hid
        rw [hlatch]
        exact ⟨hhigh, rfl, by simp [latchHit, h32, hid]⟩
      generalize received b p.1 c = reply, serve b p.1 c = latch at hread
      cases hread with
      | latched hsys hlatched =>
        show LowCoherent p.2 c desc _ ↔ LowSteady b p c desc
        unfold LowCoherent LowSteady
        rw [hsys, if_neg (by simp)]
        cases hadjacent : adjacent p.2 desc with
        | none => simp [hlatched]
        | some hi =>
          obtain ⟨hhigh, hvalue, -⟩ := hhit hi hadjacent
          simp [IsPair, hhigh, hvalue]
      | high _ hword _ => cases hword
      | low hadmitted _ hok hmiss =>
        show LowCoherent p.2 c desc _ ↔ LowSteady b p c desc
        unfold LowCoherent LowSteady
        cases hadjacent : adjacent p.2 desc with
        | none =>
          cases hch : c.onChannel with
          | true => simp [hok]
          | false => simp [hok, hmiss hch]
        | some hi =>
          obtain ⟨hhigh, -, hlatched⟩ := hhit hi hadjacent
          cases hch : c.onChannel with
          | true =>
            simp only [IsPair, hhigh, hok, hadmitted, true_and, if_true, Option.mem_def,
              Option.some.injEq, forall_const]
            grind
          | false =>
            rw [hmiss hch] at hlatched
            cases hlatched
      | failed _ hfailed hmiss =>
        show True ↔ LowSteady b p c desc
        unfold LowSteady
        cases hch : c.onChannel with
        | true =>
          simp only [if_true, true_iff]
          exact fun hi _ hadmitted hok => absurd hok (hfailed hadmitted)
        | false => simp [hmiss hch]
    · split
      next heq _ =>
        cases heq
        exact absurd rfl hword
      · split
        next heq =>
          cases heq
          exact absurd rfl hword
        · exact Iff.rfl

/-- In every run of requests, with any change of the registers between them, the low words make
pairs and are never stale exactly when each of them is asked for steadily. -/
theorem words_coherent (b : Build) (calls : List Call) :
    Along (view b) (Coherent b) (.initial, none) calls ↔
      Along (view b) (Steady b) (.initial, none) calls := by
  have hstart : Held (WordLatch.initial, none) := fun hi h => nomatch h
  constructor
  · exact Along.of_invariant (fun p c _ _ => held_view b p c)
      (fun p c hheld h => (coherent_iff hheld c).mp h) hstart
  · exact Along.of_invariant (fun p c _ _ => held_view b p c)
      (fun p c hheld h => (coherent_iff hheld c).mpr h) hstart

/-! ## Two runs that go wrong -/

/-- A board with two channels, in NORMAL mode, whose registers all hold `value`. -/
def answering (value : UInt32) : Answers where
  read reading _ :=
    match reading with
    | .count => (.ok, 2)
    | .caps => (.ok, 15)
    | .mode => (.ok, 0)
    | .requested => (.ok, value)
  write _ _ := .ok
  paramAction _ := .ok
  read_readable reading _ _ := by cases reading <;> simp

def board : Build := ⟨2, true, by decide⟩

/-- LAST_FAULT_TIMESTAMP of channel 0 goes from `0x0000ffff` to `0x00010000` between its halves,
and the master puts zero together. UPTIME is read in its high word, an unmapped offset comes
between, and the low word is still the old one. -/
theorem words_torn :
    ¬ Along (view board) (Coherent board) (.initial, none)
        [⟨.inputRd 46, answering 0x0000ffff⟩, ⟨.inputRd 47, answering 0x00010000⟩] ∧
      ¬ Along (view board) (Coherent board) (.initial, none)
        [⟨.inputRd 8, answering 0x10⟩, ⟨.inputRd 20, answering 0⟩,
          ⟨.inputRd 9, answering 0x20⟩] := by
  constructor
  · intro h
    have hpair : IsPair 0x0000ffff 0 0 ∨ RegStatus.ok = .ok ∧ IsPair 0x00010000 0 0 := h.2.1
    revert hpair
    decide
  · intro h
    have hfresh : RegStatus.ok = .ok ∧ (0x10 : UInt16) = loWord 0x20 := h.2.2.1
    revert hfresh
    decide

end WordCoherence
