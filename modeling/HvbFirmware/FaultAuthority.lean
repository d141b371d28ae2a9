import HvbFirmware.VcControllerRuns

/-!
# Who may clear a fault

A bit of `active_fault_cause` goes away by an accepted CLEAR_ACTIVE or, if it is the current
fault and nothing else is active, by an automatic retry in AUTOMATIC. Both ask
`is_safe_to_clear_active` first, whose limit an `int32_t` holds for every safe band.
-/
namespace FaultAuthority

open VcTypes VcChannel VcController Runs

variable {σ : Type}

/-! ## The safe limit in `int32_t` -/

/-- `100 - (int32_t)cfg->current_safe_band_pct`. -/
def bandFactor (cfg : ChannelConfig) : Int32 := 100 - cfg.currentSafeBandPct.toUInt32.toInt32

def bandProduct (cfg : ChannelConfig) : Int32 :=
  cfg.currentLimitThreshold.toInt32 * bandFactor cfg

def safeLimit32 (cfg : ChannelConfig) : Int32 := bandProduct cfg / 100

theorem toInt_toInt32 (pct : UInt16) : pct.toUInt32.toInt32.toInt = pct.toNat := by
  have hlt := pct.toNat_lt
  have hnat : pct.toUInt32.toNat = pct.toNat := UInt16.toNat_toUInt32 pct
  have hbmod : pct.toUInt32.toInt32.toInt = (pct.toUInt32.toNat : Int).bmod (2 ^ 32) :=
    BitVec.toInt_eq_toNat_bmod pct.toUInt32.toBitVec
  rw [hbmod, hnat]
  exact Int.bmod_eq_of_le (by omega) (by omega)

theorem toInt_bandFactor (cfg : ChannelConfig) :
    (bandFactor cfg).toInt = 100 - cfg.currentSafeBandPct.toNat := by
  have hlt := cfg.currentSafeBandPct.toNat_lt
  have hhundred : (100 : Int32).toInt = 100 := rfl
  rw [bandFactor, Int32.toInt_sub, toInt_toInt32, hhundred]
  exact Int.bmod_eq_of_le (by omega) (by omega)

/-- The product of a threshold and a factor stays in range: the factor is between -65435 and
100, the threshold between -32768 and 32767. -/
theorem product_fits (threshold factor : Int) (hlow : -32768 ≤ threshold)
    (hhigh : threshold ≤ 32767) (hfactor : -65435 ≤ factor) (hfactor' : factor ≤ 100) :
    -2147483648 ≤ threshold * factor ∧ threshold * factor < 2147483648 := by
  have hthreshold : threshold.natAbs ≤ 32768 := by omega
  have hfactor : factor.natAbs ≤ 65435 := by omega
  have hproduct := Nat.mul_le_mul hthreshold hfactor
  rw [← Int.natAbs_mul] at hproduct
  omega

theorem toInt_bandProduct (cfg : ChannelConfig) : (bandProduct cfg).toInt =
    cfg.currentLimitThreshold.toInt * (100 - cfg.currentSafeBandPct.toNat) := by
  have hlt := cfg.currentSafeBandPct.toNat_lt
  have hlow := cfg.currentLimitThreshold.le_toInt
  have hhigh := cfg.currentLimitThreshold.toInt_lt
  obtain ⟨hfit, hfit'⟩ := product_fits cfg.currentLimitThreshold.toInt
    (100 - cfg.currentSafeBandPct.toNat) (by omega) (by omega) (by omega) (by omega)
  rw [bandProduct, Int32.toInt_mul, toInt_bandFactor, Int16.toInt_toInt32]
  exact Int.bmod_eq_of_le (by omega) (by omega)

theorem toInt_safeLimit32 (cfg : ChannelConfig) : (safeLimit32 cfg).toInt = safeLimit cfg := by
  have hhundred : (100 : Int32).toInt = 100 := rfl
  rw [safeLimit32, Int32.toInt_div_of_ne_right _ _ (by decide), toInt_bandProduct, hhundred]
  rfl

/-! ## What a call removes -/

/-- The bits of `active_fault_cause` that a call removes. -/
def removed (k : Kconfig) (ch : Channel) (c : ChannelOp) : UInt16 :=
  ch.activeFaultCause &&& ~~~(c.step k ch).activeFaultCause

theorem and_not_or (a b : UInt16) : a &&& ~~~(a ||| b) = 0 := by
  refine UInt16.toBitVec_inj.mp ?_
  ext i hi
  simp only [UInt16.toBitVec_and, UInt16.toBitVec_not, UInt16.toBitVec_or, BitVec.getElem_and,
    BitVec.getElem_not, BitVec.getElem_or]
  cases a.toBitVec[i] <;> simp

/-- Only a CLEAR_ACTIVE that is carried out and a retry remove a bit. -/
theorem removed_cases (k : Kconfig) (ch : Channel) (c : ChannelOp) :
    removed k ch c = 0 ∨
      c = .faultCommand .clearActive ∧ isSafeToClearActive ch ∨
      ∃ sysCfg dtMs, c = .tickRecovery sysCfg dtMs ∧ retryDue ch sysCfg dtMs ∧
        ch.activeFaultCause = faultCurrent := by
  have heff := step_effect k ch c
  have hremoved : removed k ch c = ch.activeFaultCause &&& ~~~(drive (c.step k ch)).active := rfl
  rw [hremoved]
  have hsame : ch.activeFaultCause &&& ~~~(drive ch).active = 0 := UInt16.and_not_self
  generalize drive (c.step k ch) = d' at heff
  cases heff with
  | clearActive hactive hsafe => exact .inr (.inl ⟨rfl, hsafe⟩)
  | retry sysCfg dtMs code hdue hactive => exact .inr (.inr ⟨sysCfg, dtMs, rfl, hdue, hactive⟩)
  -- a trip finds no bit set
  | tripGraceful op code htrip hactive => exact .inl (by simp [hactive])
  | tripCleared op code smf htrip hactive => exact .inl (by simp [hactive])
  | tripOnly op code htrip hactive => exact .inl (by simp [hactive])
  | exhausted sysCfg dtMs hretry hactive =>
    rw [hactive]
    exact .inl (and_not_or _ _)
  | fault cause code => exact .inl (and_not_or _ _)
  | hold =>
    rw [Drive.finish_active]
    exact .inl hsame
  | arrive dtMs code =>
    have hfinish : (Drive.settle (Drive.finish { drive ch with operational := selectedTarget ch })
        code).active = (drive ch).active := Drive.finish_active _
    rw [hfinish]
    exact .inl hsame
  | _ => exact .inl hsame

/-! ## Authority -/

/-- The operation is a CLEAR_ACTIVE command to channel `i`. -/
def commandsClear (i : Nat) : PublicOp σ → Bool
  | .controller (.channelFaultCommand j .clearActive) => j == i
  | .channel j (.faultCommand .clearActive) => j == i
  | _ => false

/-- The call is the CLEAR_ACTIVE of the command, and it is accepted. -/
def ClearedBy (i : Nat) (op : PublicOp σ) (ch : Channel) (c : ChannelOp) : Prop :=
  commandsClear i op ∧ c = .faultCommand .clearActive ∧ (faultCommand ch .clearActive).1 = .ok

/-- The call is a `tick_recovery` in AUTOMATIC, the policy retries, and the current fault is the
only one. A tick of the controller hands it the stored configuration. -/
def RetriedBy (ctrl : Controller σ) (op : PublicOp σ) (ch : Channel) (c : ChannelOp) : Prop :=
  ∃ sysCfg dtMs, c = .tickRecovery sysCfg dtMs ∧ sysCfg.operatingMode = .automatic ∧
    (∀ op', op = .controller op' → sysCfg = ctrl.sysCfg) ∧
    (ch.config.recoveryPolicyMode = .autoRetry ∨
      ch.config.recoveryPolicyMode = .autoDerateRetry) ∧
    ch.activeFaultCause = faultCurrent

/-- What a call that an operation makes on channel `i` may remove. -/
structure Authorised (k : Kconfig) (ctrl : Controller σ) (i : Nat) (op : PublicOp σ)
    (ch : Channel) (c : ChannelOp) : Prop where
  other : removed k ch c &&& ~~~faultCurrent ≠ 0 → ClearedBy i op ch c
  current : removed k ch c &&& faultCurrent ≠ 0 → ClearedBy i op ch c ∨ RetriedBy ctrl op ch c
  safe : removed k ch c &&& faultCurrent ≠ 0 →
    ch.measuredCurrent.toInt ≤ (safeLimit32 ch.config).toInt

theorem faultCommand_ok {ch : Channel} (h : isSafeToClearActive ch) :
    (faultCommand ch .clearActive).1 = .ok := by
  by_cases hactive : ch.activeFaultCause = 0
  · simp [faultCommand, isValidChannelFaultCommand, hactive]
  · simp [faultCommand, isValidChannelFaultCommand, hactive, h]

/-- Only the fault command of the host reaches a channel as CLEAR_ACTIVE. -/
theorem commandsClear_of_mem {k : Kconfig} {ctrl : Controller σ} {op : PublicOp σ} {i : Nat}
    {ch : Channel} (h : .faultCommand .clearActive ∈ op.channelOps k ctrl i ch) :
    commandsClear i op := by
  cases op with
  | controller op =>
    rcases mem_channelOps h with ⟨mode, -, h⟩ | h
    · rcases mem_transitionOps h with ⟨_, h⟩ | ⟨h, -⟩ | ⟨h, -⟩ <;> cases h
    · cases h with
      | run dtMs c hmode hrun =>
        simp only [runOps, List.mem_cons, List.not_mem_nil, or_false] at hrun
        rcases hrun with h | h | h | h | h <;> cases h
      | faultCommand => exact beq_self_eq_true i
  | channel j op =>
    simp only [PublicOp.channelOps] at h
    split at h
    · cases h
    next hij =>
    obtain rfl := List.mem_singleton.mp h
    simpa [commandsClear] using hij

/-- A tick of the controller recovers with the stored configuration. -/
theorem sysCfg_of_mem {k : Kconfig} {ctrl : Controller σ} {op : PublicOp σ} {i : Nat}
    {ch : Channel} {sysCfg : SystemConfig} {dtMs : UInt32}
    (h : .tickRecovery sysCfg dtMs ∈ op.channelOps k ctrl i ch) :
    ∀ op', op = .controller op' → sysCfg = ctrl.sysCfg := by
  rintro op' rfl
  exact (tickRecovery_mem h).1

theorem measured_le {ch : Channel} (hsafe : isSafeToClearActive ch)
    (hfault : ch.activeFaultCause &&& faultCurrent ≠ 0) :
    ch.measuredCurrent.toInt ≤ (safeLimit32 ch.config).toInt := by
  rw [toInt_safeLimit32]
  simpa [isSafeToClearActive, hfault] using hsafe

theorem isRetryPolicy_cases {policy : RecoveryPolicyMode} (h : isRetryPolicy policy) :
    policy = .autoRetry ∨ policy = .autoDerateRetry := by
  cases policy <;> simp [isRetryPolicy] at h ⊢

/-- A bit that a call removes was set. -/
theorem set_of_removed {k : Kconfig} {ch : Channel} {c : ChannelOp} {mask : UInt16}
    (h : removed k ch c &&& mask ≠ 0) : ch.activeFaultCause &&& mask ≠ 0 := by
  intro hzero
  refine h ?_
  rw [removed, UInt16.and_assoc, UInt16.and_comm _ mask, ← UInt16.and_assoc, hzero]
  exact UInt16.zero_and

theorem authorised_of_mem {k : Kconfig} {ctrl : Controller σ} {op : PublicOp σ} {i : Nat}
    {ch₀ ch : Channel} {c : ChannelOp} (h : c ∈ op.channelOps k ctrl i ch₀) :
    Authorised k ctrl i op ch c := by
  rcases removed_cases k ch c with hnone | ⟨rfl, hsafe⟩ | ⟨sysCfg, dtMs, rfl, hdue, hactive⟩
  · exact ⟨by simp [hnone], by simp [hnone], by simp [hnone]⟩
  · have hcleared : ClearedBy i op ch (.faultCommand .clearActive) :=
      ⟨commandsClear_of_mem h, rfl, faultCommand_ok hsafe⟩
    exact ⟨fun _ => hcleared, fun _ => .inl hcleared,
      fun hcurrent => measured_le hsafe (set_of_removed hcurrent)⟩
  · simp only [retryDue, retryable, decide_eq_true_eq] at hdue
    obtain ⟨⟨hmode, -, hpolicy, -⟩, -, hsafe, -⟩ := hdue
    refine ⟨fun hother => ?_, fun _ => ?_, fun hcurrent => ?_⟩
    · have hset := set_of_removed hother
      rw [hactive] at hset
      exact absurd UInt16.and_not_self hset
    · exact .inr ⟨sysCfg, dtMs, rfl, hmode, sysCfg_of_mem h, isRetryPolicy_cases hpolicy, hactive⟩
    · exact measured_le hsafe (set_of_removed hcurrent)

/-- Every call of the operation on every channel is authorised. -/
def AuthorisedOp (k : Kconfig) (ctrl : Controller σ) (op : PublicOp σ) : Prop :=
  ∀ i, ∀ ch ∈ ctrl.channels[i]?,
    Along (ChannelOp.step k) (Authorised k ctrl i op) ch (op.channelOps k ctrl i ch)

/-- In every run of public calls, bits of a fault mask are removed with authority only; and the
safe limit that `int32_t` arithmetic gives for any configuration is the exact one. -/
theorem faults_clearedWithAuthority (k : Kconfig) (nodes : List Node) (store : σ)
    (ops : List (PublicOp σ)) :
    Along (PublicOp.step k) (AuthorisedOp k) (VcController.init k nodes store) ops ∧
      ∀ cfg : ChannelConfig,
        (bandFactor cfg).toInt = 100 - cfg.currentSafeBandPct.toNat ∧
        (bandProduct cfg).toInt =
          cfg.currentLimitThreshold.toInt * (100 - cfg.currentSafeBandPct.toNat) ∧
        (safeLimit32 cfg).toInt =
          (cfg.currentLimitThreshold.toInt * (100 - cfg.currentSafeBandPct.toNat)).tdiv 100 := by
  refine ⟨along_of_forall (fun op _ ctrl i ch _ => ?_) _, fun cfg =>
    ⟨toInt_bandFactor cfg, toInt_bandProduct cfg, toInt_safeLimit32 cfg⟩⟩
  exact Along.mono (fun ch c hc => authorised_of_mem hc)
    (along_of_forall (Q := fun _ c => c ∈ op.channelOps k ctrl i ch) (fun c hc _ => hc) ch)

end FaultAuthority
