import HvbFirmware.AlwaysOn
import HvbFirmware.AutomaticEntry
import HvbFirmware.BoardConnect
import HvbFirmware.CalSample
import HvbFirmware.CalWatchdog
import HvbFirmware.CalibrationFit
import HvbFirmware.CalibrationUnlock
import HvbFirmware.Coherence
import HvbFirmware.CommandQueue
import HvbFirmware.ConfigRoundTrip
import HvbFirmware.CooldownRegister
import HvbFirmware.DacCeiling
import HvbFirmware.DisableOff
import HvbFirmware.EnableTarget
import HvbFirmware.FactoryReset
import HvbFirmware.FaultAuthority
import HvbFirmware.FaultTimestamp
import HvbFirmware.FullScan
import HvbFirmware.GainExponent
import HvbFirmware.LiveRuntime
import HvbFirmware.LvbVcChannel
import HvbFirmware.MapConformance
import HvbFirmware.OfflineDetection
import HvbFirmware.RampTime
import HvbFirmware.Recovery
import HvbFirmware.Retreat
import HvbFirmware.SelfCal
import HvbFirmware.SettingsStore
import HvbFirmware.ShellNumbers
import HvbFirmware.Snapshot
import HvbFirmware.StatusBits
import HvbFirmware.StatusRead
import HvbFirmware.SweepPoints
import HvbFirmware.TestVerdict
import HvbFirmware.TopologyFile
import HvbFirmware.WritePaths
