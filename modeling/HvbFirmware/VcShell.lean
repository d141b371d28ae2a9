import HvbFirmware.CNumber
import HvbFirmware.Interaction
import HvbFirmware.RegCatalog
import HvbFirmware.VcTypes

/-!
# The numbers of the shell

The commands of `vc_shell.c` that write a number into a register: `vc sys set`, `vc ch <n> target`,
`vc ch <n> set`, `vc cal <n> dac` and `vc cal <n> set`. What the shell hands over is split into
words already, with as many of them as the command asks for.
-/
namespace VcShell

open VcTypes RegCatalog Interaction Program CNumber

/-! ## The shell -/

/-- A write names the register by its descriptor, which the catalog finds for the id; its timeout
is left out. -/
inductive ShellCall where
  | initialized
  | readSystemSnapshot
  | regWrite (desc : RegDescriptor) (value : UInt16)
  | shellError (text : String)
  | shellPrint (text : String)

/-- Of the snapshot only `supported_channel_count` is used here. -/
abbrev ShellCall.Answer : ShellCall → Type
  | .initialized => Bool
  | .readSystemSnapshot => Option UInt16
  | .regWrite _ _ => RegStatus
  | .shellError _ | .shellPrint _ => Unit

abbrev ShellProgram := Program ShellCall ShellCall.Answer

def shellError (text : String) : ShellProgram Unit := ask (ShellCall.shellError text)

def shellPrint (text : String) : ShellProgram Unit := ask (ShellCall.shellPrint text)

inductive Errno where
  | ok
  | einval
  | eio
  | enodev
  deriving DecidableEq, Repr

def regStatusName : RegStatus → String
  | .ok => "ok"
  | .notFound => "not_found"
  | .invalidArgument => "invalid_argument"
  | .invalidValue => "invalid_value"
  | .readOnly => "read_only"
  | .writeOnly => "write_only"
  | .unsupported => "unsupported"
  | .busy => "busy"
  | .ioError => "io_error"

/-- The id 0, which is no register, is `none`. -/
def writeRegister (id : Option RegDescriptor) (input : UInt16) : ShellProgram Errno := do
  let status ← match id with
    | none => pure RegStatus.invalidArgument
    | some desc => ask (ShellCall.regWrite desc input)
  if status ≠ .ok then
    shellError ("error: " ++ regStatusName status)
    return .eio
  else return .ok

def writeCommand (id : Option RegDescriptor) (input : UInt16) : ShellProgram Errno :=
  writeRegister id input

/-! ## Arguments -/

variable (w : LongWidth)

def parseChannel (s : String) : ShellProgram (Option UInt8) := do
  let (v, rest) := strtoul w s.toList 10
  if rest ≠ [] then
    shellError ("invalid channel: " ++ s)
    return none
  else
    match ← ask ShellCall.readSystemSnapshot with
    | none =>
      shellError "voltage control unavailable"
      return none
    | some supported =>
      if supported.toNat ≤ v then
        shellError ("channel " ++ toString v ++ " out of range (0.." ++
          toString ((supported.toNat : ℤ) - 1) ++ ")")
        return none
      else return some (UInt8.ofNat v)

def sysFields : List (String × ConfigField) :=
  [("mode", .operatingMode), ("startup_policy", .startupChannelPolicy)]

def chFields : List (String × ConfigField) :=
  [("target", .configuredTargetVoltage), ("startup", .configuredOutputEnabled),
    ("ramp_up_step", .rampUpStep), ("ramp_up_int", .rampUpInterval),
    ("ramp_dn_step", .rampDownStep), ("ramp_dn_int", .rampDownInterval),
    ("recovery", .recoveryPolicyMode), ("retry_delay", .autoRetryDelay),
    ("retry_max", .autoRetryMaxCount), ("retry_window", .autoRetryWindow),
    ("safe_band", .currentSafeBandPct), ("prot_mode", .currentProtectionMode),
    ("prot_action", .currentProtOutAction), ("i_limit", .currentLimitThreshold),
    ("derate_step", .autoDerateStep)]

def calFields : List (String × CalField) :=
  [("out_cal_k", .outputK), ("out_cal_b", .outputB), ("out_cal_k_exp", .outputKExp),
    ("v_cal_k", .measuredVK), ("v_cal_b", .measuredVB), ("v_cal_k_exp", .measuredVKExp),
    ("i_cal_k", .measuredIK), ("i_cal_b", .measuredIB), ("i_cal_k_exp", .measuredIKExp)]

/-- The two lookups; only their first words differ. The fields that there are go out in pieces in
the source. -/
def lookupIn {α : Type} (unknown : String) (table : List (String × α)) (name : String) :
    ShellProgram (Option α) := do
  match table.lookup name with
  | some field => return some field
  | none =>
    shellError (unknown ++ name)
    shellPrint ("available:" ++ String.join (table.map fun e => " " ++ e.1) ++ "\n")
    return none

def lookupField (table : List (String × ConfigField)) (name : String) :
    ShellProgram (Option ConfigField) :=
  lookupIn "unknown field: " table name

def lookupCalField (name : String) : ShellProgram (Option CalField) :=
  lookupIn "unknown cal field: " calFields name

def regVcId (ch : UInt8) (reg : VcReg) : RegDescriptor :=
  reg.row.descriptor moduleVoltageControl ch

def channelConfigReg : ConfigField → Option VcReg
  | .configuredTargetVoltage => some .cfgTargetVoltage
  | .configuredOutputEnabled => some .cfgOutputEnabled
  | .rampUpStep => some .rampUpStep
  | .rampUpInterval => some .rampUpInterval
  | .rampDownStep => some .rampDownStep
  | .rampDownInterval => some .rampDownInterval
  | .recoveryPolicyMode => some .recoveryPolicyMode
  | .autoRetryDelay => some .autoRetryDelay
  | .autoRetryMaxCount => some .autoRetryMaxCount
  | .autoRetryWindow => some .autoRetryWindow
  | .currentSafeBandPct => some .currentSafeBandPct
  | .currentProtectionMode => some .currentProtectionMode
  | .currentProtOutAction => some .currentProtOutAction
  | .currentLimitThreshold => some .currentLimitThreshold
  | .autoDerateStep => some .autoDerateStep
  | .operatingMode | .startupChannelPolicy => none

def channelConfigId (ch : UInt8) (field : ConfigField) : Option RegDescriptor :=
  (channelConfigReg field).map (regVcId ch)

def calConfigReg : CalField → VcReg
  | .outputK => .outputCalK
  | .outputB => .outputCalB
  | .outputKExp => .outputCalKExp
  | .measuredVK => .measuredVCalK
  | .measuredVB => .measuredVCalB
  | .measuredVKExp => .measuredVCalKExp
  | .measuredIK => .measuredICalK
  | .measuredIB => .measuredICalB
  | .measuredIKExp => .measuredICalKExp

def calConfigId (ch : UInt8) (field : CalField) : Option RegDescriptor :=
  some (regVcId ch (calConfigReg field))

/-! ## Commands -/

/-- `CTX_CHECK` -/
def ctxCheck (p : ShellProgram Errno) : ShellProgram Errno := do
  if !(← ask ShellCall.initialized) then
    shellError "vc not initialized"
    return .enodev
  else p

/-- What is refused with a text. -/
def invalid (text : String) : ShellProgram Errno := do
  shellError text
  return .einval

/-- `(uint16_t)strtoul(s, NULL, 0)` -/
def wordOf (s : String) : UInt16 := UInt16.ofNat (strtoul w s.toList 0).1

def cmdSysSet (name value : String) : ShellProgram Errno :=
  ctxCheck do
    match ← lookupField sysFields name with
    | none => return .einval
    | some field =>
      let reg := if field = .operatingMode then GlobalReg.operatingMode else .startupChannelPolicy
      writeCommand (some reg.descriptor) (wordOf w value)

/-- The subcommands that take no number are left open. -/
def cmdCh (others : UInt8 → String → List String → ShellProgram Errno) (n sub : String)
    (args : List String) : ShellProgram Errno :=
  ctxCheck do
    match ← parseChannel w n with
    | none => return .einval
    | some ch =>
      if sub = "target" then
        match args with
        | value :: _ => writeCommand (some (regVcId ch .cfgTargetVoltage)) (wordOf w value)
        | [] => invalid ("usage: vc ch " ++ toString ch.toNat ++ " target <voltage>")
      else if sub = "set" then
        match args with
        | name :: value :: _ =>
          match ← lookupField chFields name with
          | none => return .einval
          | some field => writeCommand (channelConfigId ch field) (wordOf w value)
        | _ => invalid ("usage: vc ch " ++ toString ch.toNat ++ " set <field> <value>")
      else others ch sub args

def calDac (ch : UInt8) (s : String) : ShellProgram Errno := do
  let raw := (strtoul w s.toList 0).1
  if 65535 < raw then invalid "dac code out of range (0–65535)"
  else
    let ret ← writeCommand (some (regVcId ch .calDacCode)) (UInt16.ofNat raw)
    if ret = .ok then shellPrint ("hint: vc cal " ++ toString ch.toNat ++ " sample")
    return ret

def calSet (ch : UInt8) (name s : String) : ShellProgram Errno := do
  match ← lookupCalField name with
  | none => return .einval
  | some field =>
    let (val, rest) := strtol w s.toList 10
    if rest ≠ [] then invalid ("invalid value: " ++ s)
    else writeCommand (calConfigId ch field) (Int16.ofInt val).toUInt16

/-- The words that stand in the place of a channel. -/
def calGlobalWords : List String := ["unlock", "exit", "status", "watch"]

/-- The subcommands that take no number are left open. -/
def cmdCal (global : String → List String → ShellProgram Errno)
    (others : UInt8 → String → List String → ShellProgram Errno) (n : String)
    (args : List String) : ShellProgram Errno :=
  ctxCheck do
    if n ∈ calGlobalWords then global n args
    else
      match ← parseChannel w n with
      | none => invalid "usage: vc cal <unlock|exit|status|watch|<ch> <subcmd>>"
      | some ch =>
        match args with
        | [] =>
          invalid ("usage: vc cal " ++ toString ch.toNat ++
            " <output|dac|sample|commit|config|set>")
        | "dac" :: value :: _ => calDac w ch value
        | ["dac"] => invalid ("usage: vc cal " ++ toString ch.toNat ++ " dac <code>")
        | "set" :: name :: value :: _ => calSet w ch name value
        | "set" :: _ => invalid ("usage: vc cal " ++ toString ch.toNat ++ " set <field> <value>")
        | sub :: rest => others ch sub rest

end VcShell
