import HvbFirmware.VcShell
import Mathlib.Tactic.Positivity

/-!
# What a typed number becomes

None of the conversions is asked whether it took a number at all, only one where it stopped, and
only one whether the value fits: a setpoint of 65636 is one of 100, and 12x is 12.
-/
namespace ShellNumbers

open VcTypes RegCatalog Interaction Program CNumber VcShell

instance : ∀ c : ShellCall, Inhabited c.Answer
  | .initialized => ⟨true⟩
  | .readSystemSnapshot => ⟨none⟩
  | .regWrite _ _ => ⟨.ok⟩
  | .shellError _ | .shellPrint _ => ⟨()⟩

variable (w : LongWidth)

/-! ## The writes of a command -/

section Writes

variable {desc : RegDescriptor} {word : UInt16}

@[simp] theorem mayMake_shellError_bind {α : Type} {text : String} {p : ShellProgram α} :
    (shellError text >>= fun _ => p).MayMake (.regWrite desc word) ↔
      p.MayMake (.regWrite desc word) := by
  simp [shellError]

@[simp] theorem mayMake_writeCommand {id : Option RegDescriptor} {input : UInt16} :
    (writeCommand id input).MayMake (.regWrite desc word) ↔ id = some desc ∧ word = input := by
  have hrest : ∀ status : RegStatus, ¬ (if status ≠ .ok then do
        shellError ("error: " ++ regStatusName status)
        return Errno.eio
      else return Errno.ok : ShellProgram Errno).MayMake (.regWrite desc word) := by
    intro status
    split <;> simp
  cases id with
  | none =>
    rw [writeCommand, writeRegister, pure_eq, ret_bind]
    exact iff_of_false (hrest _) nofun
  | some desc' =>
    rw [writeCommand, writeRegister, ask_bind, mayMake_call]
    simp only [hrest, exists_false, or_false, ShellCall.regWrite.injEq, Option.some.injEq]
    exact and_congr_right fun _ => eq_comm

@[simp] theorem mayMake_invalid {text : String} :
    ¬ (invalid text).MayMake (.regWrite desc word) := by
  simp [invalid]

@[simp] theorem mayMake_ctxCheck {p : ShellProgram Errno} :
    (ctxCheck p).MayMake (.regWrite desc word) ↔ p.MayMake (.regWrite desc word) := by
  simp [ctxCheck]

variable {w}

@[simp] theorem mayMake_parseChannel {n : String} :
    ¬ (parseChannel w n).MayMake (.regWrite desc word) := by
  unfold parseChannel
  dsimp only
  split
  · simp
  rw [ask_bind, mayMake_call]
  rintro (heq | ⟨supported, h⟩)
  · cases heq
  cases supported with
  | none => simp at h
  | some supported =>
    dsimp only at h
    split at h <;> simp at h

/-- A channel that every board has. -/
theorem returns_zero : (parseChannel w "0").Returns (some 0) := by
  have hzero : strtoul w "0".toList 10 = (0, []) := by
    have hnumeral : Numeral 10 "0".toList 0 := numeral_iff.mpr ⟨⟨false, 0, []⟩, by decide, rfl, rfl⟩
    rw [strtoul_numeral hnumeral (Nat.two_pow_pos _)]
    simp
  unfold parseChannel
  rw [hzero]
  dsimp only
  rw [if_neg (by simp), ask_bind, returns_call]
  exact ⟨some 1, by simp⟩

@[simp] theorem mayMake_lookupIn {α : Type} {unknown name : String} {table : List (String × α)} :
    ¬ (lookupIn unknown table name).MayMake (.regWrite desc word) := by
  unfold lookupIn
  split <;> simp [shellPrint]

@[simp] theorem returns_lookupIn {α : Type} {unknown name : String} {table : List (String × α)}
    {field : α} :
    (lookupIn unknown table name).Returns (some field) ↔ table.lookup name = some field := by
  unfold lookupIn
  split
  next hfield => simp [hfield, eq_comm]
  next hnone => simp [hnone, shellError, shellPrint]

theorem mayMake_cmdSysSet {name s : String} :
    (cmdSysSet w name s).MayMake (.regWrite desc word) ↔
      ∃ field, sysFields.lookup name = some field ∧
        desc = (if field = .operatingMode then GlobalReg.operatingMode
          else .startupChannelPolicy).descriptor ∧ word = wordOf w s := by
  simp [cmdSysSet, lookupField, mayMake_bind, Option.exists, eq_comm]

variable {others : UInt8 → String → List String → ShellProgram Errno} {n : String}

theorem mayMake_cmdCh_target {s : String} :
    (cmdCh w others n "target" [s]).MayMake (.regWrite desc word) ↔
      ∃ ch, (parseChannel w n).Returns (some ch) ∧ desc = regVcId ch .cfgTargetVoltage ∧
        word = wordOf w s := by
  simp [cmdCh, mayMake_bind, Option.exists, eq_comm]

theorem mayMake_cmdCh_set {name s : String} :
    (cmdCh w others n "set" [name, s]).MayMake (.regWrite desc word) ↔
      ∃ ch, (parseChannel w n).Returns (some ch) ∧ ∃ field, chFields.lookup name = some field ∧
        channelConfigId ch field = some desc ∧ word = wordOf w s := by
  simp [cmdCh, lookupField, mayMake_bind, Option.exists]

variable {global : String → List String → ShellProgram Errno}

theorem mayMake_cmdCal_dac {s : String} (hn : n ∉ calGlobalWords) :
    (cmdCal w global others n ["dac", s]).MayMake (.regWrite desc word) ↔
      ∃ ch, (parseChannel w n).Returns (some ch) ∧ (strtoul w s.toList 0).1 ≤ 65535 ∧
        desc = regVcId ch .calDacCode ∧ word = wordOf w s := by
  have hdac : ∀ ch, (calDac w ch s).MayMake (.regWrite desc word) ↔
      (strtoul w s.toList 0).1 ≤ 65535 ∧ desc = regVcId ch .calDacCode ∧ word = wordOf w s := by
    intro ch
    unfold calDac
    dsimp only
    split
    next hover => simp [not_le.mpr hover]
    next hin =>
      rw [mayMake_bind, mayMake_writeCommand, and_iff_right (not_lt.mp hin)]
      refine or_iff_left_of_imp ?_ |>.trans ?_
      · rintro ⟨ret, -, h⟩
        split at h <;> simp [shellPrint] at h
      · simp [wordOf, eq_comm]
  simp [cmdCal, hn, mayMake_bind, Option.exists, hdac]

theorem mayMake_cmdCal_set {name s : String} (hn : n ∉ calGlobalWords) :
    (cmdCal w global others n ["set", name, s]).MayMake (.regWrite desc word) ↔
      ∃ ch, (parseChannel w n).Returns (some ch) ∧ ∃ field, calFields.lookup name = some field ∧
        (strtol w s.toList 10).2 = [] ∧ calConfigId ch field = some desc ∧
        word = (Int16.ofInt (strtol w s.toList 10).1).toUInt16 := by
  have hset : ∀ ch, (calSet w ch name s).MayMake (.regWrite desc word) ↔
      ∃ field, calFields.lookup name = some field ∧ (strtol w s.toList 10).2 = [] ∧
        calConfigId ch field = some desc ∧
        word = (Int16.ofInt (strtol w s.toList 10).1).toUInt16 := by
    intro ch
    unfold calSet lookupCalField
    by_cases hrest : (strtol w s.toList 10).2 = [] <;> simp [mayMake_bind, Option.exists, hrest]
  simp [cmdCal, hn, mayMake_bind, Option.exists, hset]

end Writes

/-! ## Words -/

/-- What a register of the type takes the word for. -/
def wordValue (type : RegType) (word : UInt16) : ℤ :=
  if type = .s16 then word.toInt16.toInt else word.toNat

/-- The values that a register of the type can hold. -/
def InRange (type : RegType) (v : ℤ) : Prop :=
  if type = .s16 then -32768 ≤ v ∧ v ≤ 32767 else 0 ≤ v ∧ v ≤ 65535

theorem inRange_wordValue (type : RegType) (word : UInt16) :
    InRange type (wordValue type word) := by
  unfold InRange wordValue
  split
  · exact ⟨word.toInt16.le_toInt, Int.le_of_lt_add_one word.toInt16.toInt_lt⟩
  · have hlt := word.toNat_lt
    omega

theorem toUInt16_ofInt (v : ℤ) : (Int16.ofInt v).toUInt16 = UInt16.ofInt v := by
  refine UInt16.toNat.inj ?_
  show (BitVec.ofInt 16 v).toNat = (UInt16.ofNat (v % 65536).toNat).toNat
  rw [BitVec.toNat_ofInt, UInt16.toNat_ofNat_of_lt' (by show _ < 65536; omega)]
  rfl

theorem wordValue_ofInt {type : RegType} {v : ℤ} (h : InRange type v) :
    wordValue type (UInt16.ofInt v) = v := by
  unfold wordValue
  by_cases htype : type = .s16
  · rw [InRange, if_pos htype] at h
    rw [if_pos htype, ← toUInt16_ofInt]
    exact Int16.toInt_ofInt_of_le (by omega) (by omega)
  · rw [InRange, if_neg htype] at h
    rw [if_neg htype, UInt16.ofInt, Int.emod_eq_of_lt h.1 (by omega),
      UInt16.toNat_ofNat_of_lt' (by show _ < 65536; omega), Int.toNat_of_nonneg h.1]

theorem InRange.bounds {type : RegType} {v : ℤ} (h : InRange type v) : -32768 ≤ v ∧ v ≤ 65535 := by
  unfold InRange at h
  split at h <;> omega

variable {w}

theorem two_pow_le {n : ℕ} (h : 31 ≤ n) : (2147483648 : ℤ) ≤ 2 ^ n := by
  exact_mod_cast Nat.pow_le_pow_right (show 0 < 2 by decide) h

/-- A numeral in the range of the register becomes its word, whatever the width of a `long`. -/
theorem wordOf_numeral {type : RegType} {s : String} {v : ℤ} (h : Numeral 0 s.toList v)
    (hv : InRange type v) : wordOf w s = UInt16.ofInt v := by
  have hbounds := hv.bounds
  have hminimum := w.minimum
  have hlong : (2147483648 : ℤ) ≤ (2 ^ w.bits : ℕ) := by exact_mod_cast two_pow_le (by omega)
  have hdvd : (2 : ℤ) ^ 16 ∣ 2 ^ w.bits := pow_dvd_pow 2 (show 16 ≤ w.bits by omega)
  rw [wordOf, strtoul_numeral h (by omega)]
  refine UInt16.toNat.inj ?_
  rw [UInt16.ofInt, UInt16.toNat_ofNat', UInt16.toNat_ofNat', ← Int.emod_emod_of_dvd v hdvd]
  omega

theorem strtol_word {type : RegType} {s : String} {v : ℤ} (h : Numeral 10 s.toList v)
    (hv : InRange type v) :
    (Int16.ofInt (strtol w s.toList 10).1).toUInt16 = UInt16.ofInt v := by
  have hbounds := hv.bounds
  have hminimum := w.minimum
  have hlong := two_pow_le (show 31 ≤ w.bits - 1 by omega)
  rw [strtol_numeral h (by omega) (by omega), toUInt16_ofInt]

/-! ## The commands -/

/-- The commands that write a number, with the field that some of them name. -/
inductive NumberCommand where
  | sysSet (field : String)
  | chTarget
  | chSet (field : String)
  | calDac
  | calSet (field : String)

namespace NumberCommand

variable (w) (others : UInt8 → String → List String → ShellProgram Errno)
  (global : String → List String → ShellProgram Errno)

/-- The command on the channel `n`, with the number `s`. -/
def program (c : NumberCommand) (n s : String) : ShellProgram Errno :=
  match c with
  | sysSet field => cmdSysSet w field s
  | chTarget => cmdCh w others n "target" [s]
  | chSet field => cmdCh w others n "set" [field, s]
  | calDac => cmdCal w global others n ["dac", s]
  | calSet field => cmdCal w global others n ["set", field, s]

def base : NumberCommand → ℕ
  | calSet _ => 10
  | _ => 0

/-- The type of the register, when there is such a field. -/
def type : NumberCommand → Option RegType
  | sysSet field => (sysFields.lookup field).map fun f =>
    (if f = .operatingMode then GlobalReg.operatingMode else .startupChannelPolicy).row.type
  | chTarget => some VcReg.cfgTargetVoltage.row.type
  | chSet field => (chFields.lookup field).bind fun f =>
    (channelConfigReg f).map fun reg => reg.row.type
  | calDac => some VcReg.calDacCode.row.type
  | calSet field => (calFields.lookup field).map fun f => (calConfigReg f).row.type

/-- The one check that the command makes of the string. -/
def Passes (c : NumberCommand) (s : String) : Prop :=
  match c with
  | calDac => (strtoul w s.toList 0).1 ≤ 65535
  | calSet _ => (strtol w s.toList 10).2 = []
  | _ => True

def word (c : NumberCommand) (s : String) : UInt16 :=
  match c with
  | calSet _ => (Int16.ofInt (strtol w s.toList 10).1).toUInt16
  | _ => wordOf w s

variable {w others global} {c : NumberCommand} {s : String}

/-- What the command writes is the word of its string, to a register of its type. -/
theorem write_of_program {n : String} {desc : RegDescriptor} {word : UInt16}
    (hn : n ∉ calGlobalWords)
    (h : (c.program w others global n s).MayMake (.regWrite desc word)) :
    c.type = some desc.type ∧ c.Passes w s ∧ word = c.word w s := by
  cases c with
  | sysSet field =>
    obtain ⟨f, hf, rfl, rfl⟩ := mayMake_cmdSysSet.mp h
    exact ⟨by rw [type, hf]; rfl, trivial, rfl⟩
  | chTarget =>
    obtain ⟨ch, -, rfl, rfl⟩ := mayMake_cmdCh_target.mp h
    exact ⟨rfl, trivial, rfl⟩
  | chSet field =>
    obtain ⟨ch, -, f, hf, hid, rfl⟩ := mayMake_cmdCh_set.mp h
    obtain ⟨reg, hreg, rfl⟩ := Option.map_eq_some_iff.mp hid
    refine ⟨?_, trivial, rfl⟩
    rw [type, hf, Option.bind_some, hreg]
    rfl
  | calDac =>
    change (cmdCal w global others n ["dac", s]).MayMake _ at h
    obtain ⟨ch, -, hle, rfl, rfl⟩ := (mayMake_cmdCal_dac hn).mp h
    exact ⟨rfl, hle, rfl⟩
  | calSet field =>
    change (cmdCal w global others n ["set", field, s]).MayMake _ at h
    obtain ⟨ch, -, f, hf, hrest, hid, rfl⟩ := (mayMake_cmdCal_set hn).mp h
    cases hid
    exact ⟨by rw [type, hf]; rfl, hrest, rfl⟩

/-- A string that passes the check is written, on channel 0 at the latest. -/
theorem program_write {t : RegType} (htype : c.type = some t) (hpasses : c.Passes w s) :
    ∃ desc, desc.type = t ∧
      (c.program w others global "0" s).MayMake (.regWrite desc (c.word w s)) := by
  have hzero : "0" ∉ calGlobalWords := by decide
  cases c with
  | sysSet field =>
    obtain ⟨f, hf, rfl⟩ := Option.map_eq_some_iff.mp htype
    exact ⟨_, rfl, mayMake_cmdSysSet.mpr ⟨f, hf, rfl, rfl⟩⟩
  | chTarget =>
    cases htype
    exact ⟨regVcId 0 .cfgTargetVoltage, rfl, mayMake_cmdCh_target.mpr ⟨0, returns_zero, rfl, rfl⟩⟩
  | chSet field =>
    obtain ⟨f, hf, hmap⟩ := Option.bind_eq_some_iff.mp htype
    obtain ⟨reg, hreg, rfl⟩ := Option.map_eq_some_iff.mp hmap
    refine ⟨regVcId 0 reg, rfl, mayMake_cmdCh_set.mpr ⟨0, returns_zero, f, hf, ?_, rfl⟩⟩
    rw [channelConfigId, hreg]
    rfl
  | calDac =>
    cases htype
    refine ⟨regVcId 0 .calDacCode, rfl, ?_⟩
    change (cmdCal w global others "0" ["dac", s]).MayMake _
    exact (mayMake_cmdCal_dac hzero).mpr ⟨0, returns_zero, hpasses, rfl, rfl⟩
  | calSet field =>
    obtain ⟨f, hf, rfl⟩ := Option.map_eq_some_iff.mp htype
    refine ⟨regVcId 0 (calConfigReg f), rfl, ?_⟩
    change (cmdCal w global others "0" ["set", field, s]).MayMake _
    exact (mayMake_cmdCal_set hzero).mpr ⟨0, returns_zero, f, hf, hpasses, rfl, rfl⟩

theorem word_numeral {t : RegType} {v : ℤ} (h : Numeral c.base s.toList v) (hv : InRange t v) :
    c.word w s = UInt16.ofInt v := by
  cases c with
  | calSet => exact strtol_word h hv
  | _ => exact wordOf_numeral h hv

end NumberCommand

/-- Whatever the command writes, on any channel and in any run, is the number that was typed. -/
def MeansTyped (w : LongWidth) (others : UInt8 → String → List String → ShellProgram Errno)
    (global : String → List String → ShellProgram Errno) (c : NumberCommand) (s : String) : Prop :=
  ∀ n desc word, n ∉ calGlobalWords →
    (c.program w others global n s).MayMake (.regWrite desc word) →
    Numeral c.base s.toList (wordValue desc.type word)

/-- There is no such field, the command refuses the string, or it is a numeral in the range of the
field. -/
def Fits (w : LongWidth) (c : NumberCommand) (s : String) : Prop :=
  ∀ t, c.type = some t → c.Passes w s → ∃ v, Numeral c.base s.toList v ∧ InRange t v

/-- A command writes only what was typed exactly when its check lets nothing else through. -/
theorem meansTyped_iff (others : UInt8 → String → List String → ShellProgram Errno)
    (global : String → List String → ShellProgram Errno) (c : NumberCommand) (s : String) :
    MeansTyped w others global c s ↔ Fits w c s := by
  constructor
  · intro h t htype hpasses
    obtain ⟨desc, rfl, hwrite⟩ : ∃ desc, desc.type = t ∧
        (c.program w others global "0" s).MayMake (.regWrite desc (c.word w s)) :=
      NumberCommand.program_write htype hpasses
    exact ⟨_, h "0" desc _ (by decide) hwrite, inRange_wordValue _ _⟩
  · intro h n desc word hn hwrite
    obtain ⟨htype, hpasses, rfl⟩ := NumberCommand.write_of_program hn hwrite
    obtain ⟨v, hnumeral, hv⟩ := h desc.type htype hpasses
    rw [NumberCommand.word_numeral hnumeral hv, wordValue_ofInt hv]
    exact hnumeral

/-! ## Two setpoints -/

def long32 : LongWidth := ⟨32, le_rfl⟩

/-- A string has one value. -/
theorem numeral_value {base : ℕ} {s : List Char} {p : Subject} {v : ℤ}
    (hsubject : subject base s = some p) (h : Numeral base s v) : p.rest = [] ∧ p.value = v := by
  obtain ⟨q, hq, hrest, hv⟩ := numeral_iff.mp h
  cases hsubject.symm.trans hq
  exact ⟨hrest, hv⟩

/-- `vc ch 0 target 12x` sets 12, and `vc ch 0 target 65636` sets 100. -/
theorem target_not_typed :
    ¬ MeansTyped long32 (fun _ _ _ => return .einval) (fun _ _ => return .einval) .chTarget "12x" ∧
    ¬ MeansTyped long32 (fun _ _ _ => return .einval) (fun _ _ => return .einval) .chTarget
      "65636" := by
  have hwrite : ∀ s, ∃ desc, desc.type = .s16 ∧
      (NumberCommand.program long32 (fun _ _ _ => return .einval) (fun _ _ => return .einval)
        .chTarget "0" s).MayMake (.regWrite desc (NumberCommand.word long32 .chTarget s)) :=
    fun s => NumberCommand.program_write rfl trivial
  constructor
  · intro h
    obtain ⟨desc, -, hmay⟩ := hwrite "12x"
    have hsubject : subject 0 "12x".toList = some ⟨false, 12, ['x']⟩ := by decide
    exact absurd (numeral_value hsubject (h "0" desc _ (by decide) hmay)).1 (by simp)
  · intro h
    obtain ⟨desc, -, hmay⟩ := hwrite "65636"
    have hsubject : subject 0 "65636".toList = some ⟨false, 65636, []⟩ := by decide
    have hvalue := (numeral_value hsubject (h "0" desc _ (by decide) hmay)).2
    have hbounds :=
      (inRange_wordValue desc.type (NumberCommand.word long32 .chTarget "65636")).bounds
    rw [← hvalue] at hbounds
    exact absurd hbounds.2 (by decide)

end ShellNumbers
