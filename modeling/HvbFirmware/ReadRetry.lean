import HvbFirmware.HostSession

/-!
# Reads that are tried once more

`readWithRetry` of the terminal client takes a new error text for the sign of a failure. The text
stays from one failure to the next, so a failure that leaves the text of the one before goes
unnoticed.
-/
namespace ReadRetry

open PsbBoardSession Interaction HostSession Program

variable {α β : Type}

/-- The result, and whether `fn` was run again for it. -/
def readWithRetry (fn : SessionProgram α) : SessionProgram (α × Bool) := do
  let before ← ask SessionCall.lastError
  let result ← fn
  if (← ask SessionCall.lastError) ≠ before then
    let result ← fn
    return (result, true)
  else return (result, false)

abbrev SessionEvent := Event SessionCall SessionCall.Answer

/-- A transaction that was refused or not answered. -/
def failed : SessionEvent → Bool
  | ⟨.checkConnected, connected⟩ => !connected
  | ⟨.readRegsInternal _ _ _ _, regs⟩ => regs.isNone
  | ⟨.writeRegsInternal _ _ _, ok⟩ => !ok
  | ⟨.lastError, _⟩ => false

variable (b : RegBus β)

/-- The texts that the failures of a program leave, in their order. -/
def failureTexts : SessionProgram α → Session β → List String
  | .ret _, _ => []
  | .call c next, s =>
    let r := answer b c s
    (if failed ⟨c, r.1⟩ then [r.2.errorText] else []) ++ failureTexts (next r.1) r.2

variable {b}

theorem checkConnected_errorText {s s' : Session β} {bus : β}
    (h : PsbBoardSession.checkConnected b.toBus s = (some bus, s')) :
    s'.errorText = s.errorText := by
  unfold PsbBoardSession.checkConnected at h
  split at h <;> cases h
  rfl

theorem readRegsInternal_errorText {s s' : Session β} {holding : Bool} {addr : UInt16} {count : Nat}
    {timeout : Int} {regs : Vector UInt16 count}
    (h : HostSession.readRegsInternal b s holding addr count timeout = (some regs, s')) :
    s'.errorText = s.errorText := by
  unfold HostSession.readRegsInternal at h
  split at h
  next => cases h
  next bus s₁ hconnected =>
    have htext := checkConnected_errorText hconnected
    split at h <;> cases h
    exact htext

theorem writeRegsInternal_errorText {s s' : Session β} {addr : UInt16} {values : List UInt16}
    {timeout : Int} (h : writeRegsInternal b s addr values timeout = (true, s')) :
    s'.errorText = s.errorText := by
  unfold writeRegsInternal at h
  split at h
  next => cases h
  next bus s₁ hconnected =>
    have htext := checkConnected_errorText hconnected
    split at h <;> cases h
    exact htext

/-- Only a failure changes the text. -/
theorem answer_errorText (c : SessionCall) (s : Session β)
    (h : failed ⟨c, (answer b c s).1⟩ = false) : (answer b c s).2.errorText = s.errorText := by
  cases c with
  | lastError => rfl
  | checkConnected =>
    rcases heq : PsbBoardSession.checkConnected b.toBus s with ⟨_ | bus, s'⟩
    · simp [answer, heq, failed] at h
    · simpa [answer, heq] using checkConnected_errorText heq
  | readRegsInternal holding addr count timeout =>
    rcases heq : HostSession.readRegsInternal b s holding addr count timeout with ⟨_ | regs, s'⟩
    · simp [answer, heq, failed] at h
    · simpa [answer, heq] using readRegsInternal_errorText heq
  | writeRegsInternal addr values timeout =>
    rcases heq : writeRegsInternal b s addr values timeout with ⟨_ | _, s'⟩
    · simp [answer, heq, failed] at h
    · simpa [answer, heq] using writeRegsInternal_errorText heq

theorem failureTexts_eq_nil {fn : SessionProgram α} {s : Session β} :
    failureTexts b fn s = [] ↔ ∀ e ∈ (exec (answer b) fn s).2.1, failed e = false := by
  induction fn generalizing s with
  | ret a => simp [failureTexts, exec]
  | call c next ih =>
    rw [failureTexts, List.append_eq_nil_iff, ih]
    simp [exec]

/-- The text of the last failure is there at the end, or the text of the beginning. -/
theorem errorText_exec (fn : SessionProgram α) (s : Session β) :
    (exec (answer b) fn s).2.2.errorText = (failureTexts b fn s).getLast?.getD s.errorText := by
  induction fn generalizing s with
  | ret a => rfl
  | call c next ih =>
    rw [exec, failureTexts, List.getLast?_append]
    dsimp only
    rw [ih]
    cases hrest : (failureTexts b (next (answer b c s).1) (answer b c s).2).getLast? with
    | some text => rfl
    | none =>
      cases hfailed : failed ⟨c, (answer b c s).1⟩ with
      | true => rfl
      | false => exact answer_errorText c s hfailed

theorem again_iff (fn : SessionProgram α) (s : Session β) :
    (exec (answer b) (readWithRetry fn) s).1.2 = true ↔
      (exec (answer b) fn s).2.2.errorText ≠ s.errorText := by
  have hlast : ∀ s, answer b .lastError s = (s.errorText, s) := fun _ => rfl
  rw [readWithRetry, ask_bind, exec, exec_bind]
  dsimp only
  rw [ask_bind, exec, hlast, hlast]
  dsimp only
  split
  next hne =>
    rw [exec_bind]
    exact iff_of_true rfl hne
  next heq => exact iff_of_false Bool.false_ne_true heq

/-- A read is tried again just when it has failed, unless its last failure left the text that was
there before. -/
theorem retried_iff (b : RegBus β) (fn : SessionProgram α) (s : Session β) :
    ((exec (answer b) (readWithRetry fn) s).1.2 = true ↔
      ∃ e ∈ (exec (answer b) fn s).2.1, failed e) ↔
    (failureTexts b fn s).getLast? ≠ some s.errorText := by
  have hfailed : (∃ e ∈ (exec (answer b) fn s).2.1, failed e) ↔ failureTexts b fn s ≠ [] := by
    rw [ne_eq, failureTexts_eq_nil]
    simp
  rw [again_iff, errorText_exec, hfailed]
  cases hlast : (failureTexts b fn s).getLast? with
  | none => simp [List.getLast?_eq_none_iff.mp hlast]
  | some text =>
    have hne : failureTexts b fn s ≠ [] := by
      rintro hnil
      rw [hnil] at hlast
      cases hlast
    simp [hne]

/-- A bus on which nothing answers. -/
def silentBus : RegBus Unit where
  isConnected _ := true
  lastError _ := "Modbus error: timeout"
  readInputRegs _ _ _ _ _ := (none, ())
  readHoldingRegs _ _ _ _ _ := (none, ())
  writeRegs _ _ _ _ _ := (false, ())

def freshSession : Session Unit := { bus := some (), slaveId := 1, errorText := "" }

/-- The second read times out as the first did, and is not tried again. -/
theorem second_timeout_unnoticed :
    let fn := readChannelInfo 0 0
    let s := (exec (answer silentBus) (readWithRetry fn) freshSession).2.2
    ¬ ((exec (answer silentBus) (readWithRetry fn) s).1.2 = true ↔
      ∃ e ∈ (exec (answer silentBus) fn s).2.1, failed e) := by
  intro fn s h
  have hfailed : ∃ e ∈ (exec (answer silentBus) fn s).2.1, failed e :=
    ⟨⟨.readRegsInternal false (chAddr 0 0) 10 normalTimeout, none⟩,
      List.mem_cons_of_mem _ List.mem_cons_self, rfl⟩
  have hagain : (exec (answer silentBus) (readWithRetry fn) s).1.2 = false := by decide
  rw [h.mpr hfailed] at hagain
  cases hagain

end ReadRetry
