import HvbFirmware.Interaction
import HvbFirmware.PsbBoardSession
import Mathlib.Data.Int.Notation
import Mathlib.Data.Nat.Notation
import Mathlib.Logic.Function.Basic

/-!
# The poll sweeps of the two clients

`doPollScan` of the terminal client and `doPollStatus` of the graphical one: the channels are polled
one after the other, and a channel whose polls keep failing is marked offline. The functions of the
session are calls here, with any answers; the redraws and the clock are left out.
-/
namespace PollScan

open PsbBoardSession Interaction Program Function

/-! ## Calls -/

/-- The dynamic fields of a `SystemInfo`. -/
structure SystemStatus where
  boardTempRaw : Int16 := 0
  boardHumidityRaw : UInt16 := 0
  uptimeSec : UInt32 := 0
  activeOpMode : UInt16 := 0
  sysStatus : UInt16 := 0
  faultCause : UInt16 := 0
  deriving DecidableEq

/-- The fields that the sweeps look at. -/
structure SystemInfo where
  supportedChannels : ℤ := 0
  activeChMask : UInt16 := 0
  status : SystemStatus := {}
  deriving DecidableEq

/-- What is counted of a channel, and whether it is shown as offline. -/
structure ChannelTrack where
  failCount : Int32 := 0
  offline : Bool := false
  deriving DecidableEq

inductive PollCall where
  | isConnected
  | hasPendingWork
  | readSystemStatus
  | readChannelCapabilities (ch : ℕ)
  | readChannelStatus (ch : ℕ) (caps : UInt16) (info : ChannelInfo)
  | publishOffline (ch : ℕ)
  | systemInfoReady (info : SystemInfo)
  | channelInfoReady (ch : ℕ) (info : ChannelInfo) (offline : Bool)

/-- A read that fails gives nothing; the status of a channel is read into a struct. -/
abbrev PollCall.Answer : PollCall → Type
  | .isConnected | .hasPendingWork => Bool
  | .readSystemStatus => Option SystemStatus
  | .readChannelCapabilities _ => Option UInt16
  | .readChannelStatus _ _ _ => Bool × ChannelInfo
  | .publishOffline _ | .systemInfoReady _ | .channelInfoReady _ _ _ => Unit

abbrev PollProgram := Program PollCall PollCall.Answer

abbrev PollEvent := Event PollCall PollCall.Answer

/-- `kChannelOfflineThreshold`, of both clients. -/
def channelOfflineThreshold : ℕ := 5

/-- The poll of a channel, behind the read of capabilities that are not known yet. -/
def pollChannel (ch : ℕ) (info : ChannelInfo) : PollProgram (Bool × ChannelInfo) := do
  if info.chCapFlags = 0 then
    match ← ask (PollCall.readChannelCapabilities ch) with
    | some caps =>
      let info := if caps ≠ 0 then { info with chCapFlags := caps } else info
      ask (PollCall.readChannelStatus ch info.chCapFlags info)
    | none => ask (PollCall.readChannelStatus ch info.chCapFlags info)
  else ask (PollCall.readChannelStatus ch info.chCapFlags info)

def readSystemStatus (info : SystemInfo) : PollProgram SystemInfo := do
  match ← ask PollCall.readSystemStatus with
  | some status => return { info with status }
  | none => return info

/-! ## The terminal client -/

namespace Tui

structure ScannedData where
  sysInfo : SystemInfo
  chInfo : ℕ → ChannelInfo
  track : ℕ → ChannelTrack

/-- `MAX_CHANNELS` is 16. -/
def ScannedData.numChannels (data : ScannedData) : ℕ :=
  if 0 < data.sysInfo.supportedChannels ∧ data.sysInfo.supportedChannels ≤ 16 then
    data.sysInfo.supportedChannels.toNat
  else 0

def shouldPollChannel (ch numChannels : ℕ) : Bool := ch < numChannels

/-- The counter and the flag behind a poll. -/
def afterPoll (track : ChannelTrack) (ok : Bool) : ChannelTrack :=
  if ok then { failCount := 0, offline := false }
  else if (channelOfflineThreshold : ℤ) < (track.failCount + 1).toInt ∧ !track.offline then
    { failCount := track.failCount + 1, offline := true }
  else { track with failCount := track.failCount + 1 }

/-- The variables of the sweep. -/
structure Sweep where
  staging : ℕ → ChannelInfo
  track : ℕ → ChannelTrack
  newlyOffline : List ℕ := []

def Sweep.polled (s : Sweep) (ch : ℕ) (ok : Bool) (info : ChannelInfo) : Sweep :=
  { staging := update s.staging ch info
    track := update s.track ch (afterPoll (s.track ch) ok)
    newlyOffline :=
      if (afterPoll (s.track ch) ok).offline ∧ !(s.track ch).offline then s.newlyOffline ++ [ch]
      else s.newlyOffline }

def scanChannels (n : ℕ) : List ℕ → Sweep → PollProgram Sweep
  | [], s => return s
  | ch :: chs, s => do
    if ← ask PollCall.hasPendingWork then return s
    else if !shouldPollChannel ch n then scanChannels n chs s
    else
      let (ok, info) ← pollChannel ch (s.staging ch)
      scanChannels n chs (s.polled ch ok info)

/-- The message names the first of them. -/
def publishOffline : List ℕ → PollProgram Unit
  | [] => return ()
  | ch :: _ => ask (PollCall.publishOffline ch)

def doPollScan (data : ScannedData) : PollProgram ScannedData := do
  let n := data.numChannels
  let sysInfo ← readSystemStatus data.sysInfo
  let s ← scanChannels n (List.range n) { staging := data.chInfo, track := data.track }
  publishOffline s.newlyOffline
  return { sysInfo, chInfo := s.staging, track := s.track }

end Tui

/-! ## The graphical client -/

namespace Gui

structure ModbusWorker where
  cachedSysInfo : SystemInfo
  cachedChInfo : ℕ → ChannelInfo
  channelCount : ℕ
  track : ℕ → ChannelTrack

def afterPoll (track : ChannelTrack) (ok : Bool) : ChannelTrack :=
  if ok then { failCount := 0, offline := false }
  else if (channelOfflineThreshold : ℤ) ≤ (track.failCount + 1).toInt then
    { failCount := track.failCount + 1, offline := true }
  else { track with failCount := track.failCount + 1 }

def ModbusWorker.polled (m : ModbusWorker) (ch : ℕ) (ok : Bool) (info : ChannelInfo) :
    ModbusWorker :=
  { m with
    cachedChInfo := update m.cachedChInfo ch info
    track := update m.track ch (afterPoll (m.track ch) ok) }

def active (activeMask : UInt16) (ch : ℕ) : Bool := activeMask.toNat.testBit ch

/-- The loop, and whether the connection lasted to its end. -/
def pollChannels (activeMask : UInt16) : List ℕ → ModbusWorker → PollProgram (ModbusWorker × Bool)
  | [], m => return (m, true)
  | ch :: chs, m => do
    if !active activeMask ch then pollChannels activeMask chs m
    else
      let (ok, info) ← pollChannel ch (m.cachedChInfo ch)
      if !(← ask PollCall.isConnected) then return (m.polled ch ok info, false)
      else pollChannels activeMask chs (m.polled ch ok info)

def emitChannels (activeMask : UInt16) (m : ModbusWorker) : List ℕ → PollProgram Unit
  | [] => return ()
  | ch :: chs => do
    if active activeMask ch then
      ask (PollCall.channelInfoReady ch (m.cachedChInfo ch) (m.track ch).offline)
    emitChannels activeMask m chs

def doPollStatus (m : ModbusWorker) : PollProgram ModbusWorker := do
  if !(← ask PollCall.isConnected) then return m
  else if m.channelCount = 0 then return m
  else
    let sysInfo ← readSystemStatus m.cachedSysInfo
    let m := { m with cachedSysInfo := sysInfo }
    if !(← ask PollCall.isConnected) then return m
    else
      let activeMask := m.cachedSysInfo.activeChMask
      let (m, finished) ← pollChannels activeMask (List.range m.channelCount) m
      if !finished then return m
      else
        ask (PollCall.systemInfoReady m.cachedSysInfo)
        emitChannels activeMask m (List.range m.channelCount)
        return m

end Gui

end PollScan
