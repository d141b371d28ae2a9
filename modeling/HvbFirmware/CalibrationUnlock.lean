import HvbFirmware.VcControllerRuns
import HvbFirmware.TwoStepLock

/-!
# The unlock before a session

A change of the live mode to CALIBRATION needs `cal_unlocked`, and the unlock writes set and
clear it as a two-step lock. Leaving a session does not shut that lock, so the writes since the
last exit tell its state only in a run that leaves each session with the lock shut.
-/
namespace CalibrationUnlock

open VcTypes VcChannel VcController Runs TwoStepLock

variable {σ : Type}

/-! ## The unlock fields as a lock -/

/-- `cal_unlock_step` and `cal_unlocked` for each state of the lock. -/
def unlockFields : Lock → UInt8 × Bool
  | .shut => (0, false)
  | .armed => (1, false)
  | .opened => (0, true)

def Shows (c : Control) (lock : Lock) : Prop := (c.unlockStep, c.unlocked) = unlockFields lock

theorem shows_step_eq_one {c : Control} {lock : Lock} (h : Shows c lock) :
    c.unlockStep = 1 ↔ lock = .armed := by
  have h : c.unlockStep = (unlockFields lock).1 := congrArg Prod.fst h
  rw [h]
  cases lock <;> simp [unlockFields]

theorem shows_unlock {c : Control} {lock : Lock} (h : Shows c lock) (value : UInt16) :
    Shows (c.unlock value) (write calUnlockStep1 calUnlockStep2 lock value) := by
  have harmed := shows_step_eq_one h
  unfold Control.unlock write
  by_cases h₁ : value = calUnlockStep1
  · rw [if_pos h₁, if_pos h₁]
    rfl
  rw [if_neg h₁, if_neg h₁]
  by_cases h₂ : value = calUnlockStep2 ∧ c.unlockStep = 1
  · rw [if_pos h₂, if_pos ⟨h₂.1, harmed.mp h₂.2⟩]
    rfl
  · rw [if_neg h₂, if_neg fun h => h₂ ⟨h.1, harmed.mpr h.2⟩]
    rfl

def unlockValue : ControllerOp σ → Option UInt16
  | .calibrationUnlock value => some value
  | _ => none

theorem shows_recorded {c : Control} {lock : Lock} (h : Shows c lock)
    (record : Option SystemConfig) : Shows (c.recorded record) lock := by
  cases record <;> exact h

theorem shows_moved {c : Control} {lock : Lock} (h : Shows c lock) {mode : Option OperatingMode}
    (hmode : (c.moved mode).mode ≠ .calibration) : Shows (c.moved mode) lock := by
  cases mode with
  | none => exact h
  | some mode =>
    unfold Control.moved Control.enter at hmode ⊢
    dsimp only at hmode ⊢
    by_cases hcal : mode = .calibration
    · simp [hcal] at hmode
    · rw [if_neg hcal]
      exact h

/-- Outside a session an operation leaves the lock alone, unless it is an unlock write. -/
theorem shows_step {k : Kconfig} {ctrl : Controller σ} {op : ControllerOp σ} {lock : Lock}
    (h : Shows (control ctrl) lock) (hop : unlockValue op = none)
    (hmode : (op.step k ctrl).operatingMode ≠ .calibration) :
    Shows (control (op.step k ctrl)) lock := by
  replace hmode : (control (op.step k ctrl)).mode ≠ .calibration := hmode
  rw [control_step] at hmode ⊢
  cases op
  case calibrationUnlock value => cases hop
  case systemParamAction action =>
    cases action
    case factoryReset => exact h
    all_goals exact shows_moved (shows_recorded h _) hmode
  all_goals exact shows_moved (shows_recorded h _) hmode

/-! ## Leaving and entering -/

/-- A session is left with the unlock fields cleared. -/
def LeavesShut (ctrl : Controller σ) (op : ControllerOp σ) : Prop :=
  leavesSession ctrl op → ctrl.calUnlockStep = 0 ∧ ctrl.calUnlocked = false

instance (ctrl : Controller σ) (op : ControllerOp σ) : Decidable (LeavesShut ctrl op) :=
  inferInstanceAs (Decidable (_ → _))

/-- The unlock writes since the last exit from CALIBRATION, or since the start. -/
def unlocksSinceExit (k : Kconfig) (ctrl : Controller σ) (op : ControllerOp σ)
    (unlocks : List UInt16) : List UInt16 :=
  if ctrl.operatingMode = .calibration ∧ (op.step k ctrl).operatingMode ≠ .calibration then []
  else unlocks ++ (unlockValue op).toList

/-- An operation that enters CALIBRATION comes after the two-step key with no unlock write
between. -/
def EntersUnlocked (k : Kconfig) (p : Controller σ × List UInt16) (op : ControllerOp σ) : Prop :=
  p.1.operatingMode ≠ .calibration → (op.step k p.1).operatingMode = .calibration →
    ∃ earlier, p.2 = earlier ++ [calUnlockStep1, calUnlockStep2]

/-- Outside a session the unlock fields show what the writes since the last exit made of them. -/
def Told (p : Controller σ × List UInt16) : Prop :=
  p.1.operatingMode ≠ .calibration →
    Shows (control p.1) (after calUnlockStep1 calUnlockStep2 p.2)

theorem told_step {k : Kconfig} {p : Controller σ × List UInt16} {op : ControllerOp σ}
    (h : Told p) (hop : LeavesShut p.1 op) :
    Told (watched (ControllerOp.step k) (unlocksSinceExit k) p op) := by
  obtain ⟨ctrl, unlocks⟩ := p
  intro hmode'
  have hmode' : (op.step k ctrl).operatingMode ≠ .calibration := hmode'
  show Shows (control (op.step k ctrl)) (after _ _ (unlocksSinceExit k ctrl op unlocks))
  unfold unlocksSinceExit
  by_cases hmode : ctrl.operatingMode = .calibration
  · have hleaves := (leavesSession_iff k ctrl op).mpr ⟨hmode, hmode'⟩
    obtain ⟨hstep, hlocked⟩ := hop hleaves
    have hshut : Shows (control ctrl) .shut := Prod.ext hstep hlocked
    have hnone : unlockValue op = none := by
      cases op
      case calibrationUnlock value =>
        rw [operatingMode_step] at hmode'
        exact absurd hmode hmode'
      all_goals rfl
    rw [if_pos ⟨hmode, hmode'⟩]
    exact shows_step hshut hnone hmode'
  · have hshows := h hmode
    rw [if_neg fun h => hmode h.1]
    cases hvalue : unlockValue op with
    | none =>
      rw [Option.toList_none, List.append_nil]
      exact shows_step hshows hvalue hmode'
    | some value =>
      rw [Option.toList_some, after_concat]
      have hcontrol : control (op.step k ctrl) = (control ctrl).unlock value := by
        cases op <;> cases hvalue
        exact control_step k ctrl _
      rw [hcontrol]
      exact shows_unlock hshows value

theorem entersUnlocked_of_told {k : Kconfig} {p : Controller σ × List UInt16}
    {op : ControllerOp σ} (h : Told p) : EntersUnlocked k p op := by
  intro hmode hmode'
  have hmoves : op.movesTo p.1 = some .calibration :=
    (inCalibration_step hmode').resolve_right fun h => hmode h.1
  have hunlocked : p.1.calUnlocked := by
    have hmove := canMove_of_movesTo hmoves
    simp only [canMove, Bool.and_eq_true, bne_self_eq_false, Bool.false_or] at hmove
    exact hmove.1.2
  have hshows := congrArg Prod.snd (h hmode)
  cases hlock : after calUnlockStep1 calUnlockStep2 p.2 with
  | opened => exact after_opened _ _ hlock
  | shut =>
    rw [hlock] at hshows
    exact absurd (hunlocked.symm.trans hshows) (by decide)
  | armed =>
    rw [hlock] at hshows
    exact absurd (hunlocked.symm.trans hshows) (by decide)

/-- In every run that leaves each session with the unlock fields cleared, each change of the
live mode to CALIBRATION comes after the two-step key, written since the last exit. -/
theorem calibration_unlocked (k : Kconfig) (nodes : List Node) (store : σ)
    (ops : List (ControllerOp σ))
    (hops : Along (ControllerOp.step k) LeavesShut (VcController.init k nodes store) ops) :
    Along (watched (ControllerOp.step k) (unlocksSinceExit k)) (EntersUnlocked k)
      (VcController.init k nodes store, []) ops := by
  have hinit : Told (VcController.init k nodes store, []) := fun _ => rfl
  exact Along.of_invariant (I := Told) (fun _ _ => told_step)
    (fun _ _ h _ => entersUnlocked_of_told h) hinit
    (along_watched.mpr hops)

/-- Two sessions, each with its unlock writes. -/
theorem calibration_unlocked_example :
    Along (watched (ControllerOp.step Kconfig.hvb) (unlocksSinceExit Kconfig.hvb))
      (EntersUnlocked Kconfig.hvb) (VcController.init Kconfig.hvb [dacNode] (), [])
      [.calibrationUnlock calUnlockStep1, .calibrationUnlock calUnlockStep2,
        .setOperatingMode .calibration, .calExit, .calibrationUnlock calUnlockStep1,
        .calibrationUnlock calUnlockStep2, .setOperatingMode .calibration] :=
  calibration_unlocked Kconfig.hvb [dacNode] () _ (by decide +kernel)

/-- Unlock writes inside a session let the next one be entered without any. -/
theorem calibration_not_unlocked :
    ¬ ∀ ops : List (ControllerOp Unit),
      Along (watched (ControllerOp.step Kconfig.hvb) (unlocksSinceExit Kconfig.hvb))
        (EntersUnlocked Kconfig.hvb) (VcController.init Kconfig.hvb [dacNode] (), []) ops := by
  intro h
  obtain ⟨-, -, -, -, -, -, hlast, -⟩ := h [.calibrationUnlock calUnlockStep1,
    .calibrationUnlock calUnlockStep2, .setOperatingMode .calibration,
    .calibrationUnlock calUnlockStep1, .calibrationUnlock calUnlockStep2, .calExit,
    .setOperatingMode .calibration]
  obtain ⟨earlier, hearlier⟩ := hlast (by decide +kernel) (by decide +kernel)
  have hne : earlier ++ [calUnlockStep1, calUnlockStep2] ≠ [] := by simp
  rw [← hearlier] at hne
  exact hne (by decide +kernel)

end CalibrationUnlock
