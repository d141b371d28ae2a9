import HvbFirmware.Toml
import HvbFirmware.Topology

/-!
# The topology file

`topology_config.cpp`: a topology is saved as tables, one function for each level, and loaded with
a default for every value that the file leaves out. Printing and parsing the tables is the
library's.
-/
namespace TopologyFile

open Toml Topology

/-! ## Files -/

/-- The TOML library; `parse` is `none` where the library throws. -/
structure Library extends Tables where
  print : Table → String
  parse : String → Option Table

/-- The files by their paths, and which of the paths can be written. -/
structure Files where
  text : String → Option String
  /-- Whether the directory of the file can be created and the file opened for writing. -/
  canWrite : String → Bool

def Files.exists (files : Files) (path : String) : Bool := (files.text path).isSome

def Files.write (files : Files) (path text : String) : Files :=
  { files with text := fun path' => if path' = path then some text else files.text path' }

/-! ## Loading -/

variable (lib : Library)

def loadBoard (boardTbl : lib.Table) : BoardConfig where
  nickname := stringOr "" (lib.get boardTbl "nickname")
  slaveId := lib.intOr 1 (lib.get boardTbl "slave_id")
  channelAliases :=
    match asArray? (lib.get boardTbl "channel_aliases") with
    | some aliasArr => aliasArr.map fun aliasNode => stringOr "" (some aliasNode)
    | none => []

/-- The index counts from 0 here. -/
def loadBus (index : Nat) (busTbl : lib.Table) : BusConfig where
  name := stringOr ("bus" ++ toString (index + 1)) (lib.get busTbl "name")
  port := stringOr "" (lib.get busTbl "port")
  baudRate := lib.intOr 115200 (lib.get busTbl "baud_rate")
  boards :=
    match asArray? (lib.get busTbl "board") with
    | some boardArr => readTables (fun _ => loadBoard lib) boardArr
    | none => []

def loadRef (chTbl : lib.Table) : GroupChannelRef :=
  let channelIndex := lib.intOr 0 (lib.get chTbl "channel")
  let aliasName := stringOr "" (lib.get chTbl "alias")
  { boardNickname := stringOr "" (lib.get chTbl "board")
    channelIndex
    aliasName := if aliasName = "" then defaultChannelAlias channelIndex else aliasName }

def loadGroup (groupTbl : lib.Table) : GroupConfig where
  name := stringOr "" (lib.get groupTbl "name")
  channels :=
    match asArray? (lib.get groupTbl "channel") with
    | some chArr => readTables (fun _ => loadRef lib) chArr
    | none => []

/-- A file without an array of buses is no topology. -/
def loadTable (tbl : lib.Table) : Option TopologyConfig :=
  (asArray? (lib.get tbl "bus")).map fun busArr =>
    { buses := readTables (loadBus lib) busArr
      groups :=
        match asArray? (lib.get tbl "group") with
        | some groupArr => readTables (fun _ => loadGroup lib) groupArr
        | none => [] }

def load (files : Files) (path : String) : Option TopologyConfig :=
  if files.exists path then ((files.text path).bind lib.parse).bind (loadTable lib) else none

/-! ## Saving -/

def saveBoard (board : BoardConfig) : lib.Table :=
  let boardTbl := lib.insertOrAssign "slave_id" (.integer board.slaveId)
    (lib.insertOrAssign "nickname" (.string board.nickname) lib.empty)
  if board.channelAliases = [] then boardTbl
  else lib.insertOrAssign "channel_aliases" (.array (board.channelAliases.map .string)) boardTbl

def saveBus (bus : BusConfig) : lib.Table :=
  lib.insertOrAssign "board" (.array (writeTables (saveBoard lib) bus.boards))
    (lib.insertOrAssign "baud_rate" (.integer bus.baudRate)
      (lib.insertOrAssign "port" (.string bus.port)
        (lib.insertOrAssign "name" (.string bus.name) lib.empty)))

def saveRef (ref : GroupChannelRef) : lib.Table :=
  lib.insertOrAssign "alias"
    (.string (if ref.aliasName = "" then defaultChannelAlias ref.channelIndex else ref.aliasName))
    (lib.insertOrAssign "channel" (.integer ref.channelIndex)
      (lib.insertOrAssign "board" (.string ref.boardNickname) lib.empty))

def saveGroup (group : GroupConfig) : lib.Table :=
  lib.insertOrAssign "channel" (.array (writeTables (saveRef lib) group.channels))
    (lib.insertOrAssign "name" (.string group.name) lib.empty)

def saveTable (topo : TopologyConfig) : lib.Table :=
  let root := lib.insertOrAssign "bus" (.array (writeTables (saveBus lib) topo.buses)) lib.empty
  if topo.groups = [] then root
  else lib.insertOrAssign "group" (.array (writeTables (saveGroup lib) topo.groups)) root

/-- Nothing is written when the file cannot be opened. -/
def save (files : Files) (path : String) (topo : TopologyConfig) : Bool × Files :=
  if files.canWrite path then (true, files.write path (lib.print (saveTable lib topo)))
  else (false, files)

/-! ## What comes back -/

variable {lib : Library}

/-- An `int` of the source. -/
structure IntsFit (topo : TopologyConfig) : Prop where
  baudRate : ∀ bus ∈ topo.buses, FitsInt bus.baudRate
  slaveId : ∀ bus ∈ topo.buses, ∀ board ∈ bus.boards, FitsInt board.slaveId
  channelIndex : ∀ group ∈ topo.groups, ∀ ref ∈ group.channels, FitsInt ref.channelIndex

/-- A channel without a name gets the default one, when it is saved and when it is loaded. -/
def namedRef (ref : GroupChannelRef) : GroupChannelRef :=
  { ref with
    aliasName :=
      if ref.aliasName = "" then defaultChannelAlias ref.channelIndex else ref.aliasName }

def namedGroup (group : GroupConfig) : GroupConfig :=
  { group with channels := group.channels.map namedRef }

/-- Every channel of a group under a name. -/
def named (topo : TopologyConfig) : TopologyConfig :=
  { topo with groups := topo.groups.map namedGroup }

theorem loadBoard_saveBoard {board : BoardConfig} (hfits : FitsInt board.slaveId) :
    loadBoard lib (saveBoard lib board) = board := by
  obtain ⟨nickname, slaveId, channelAliases⟩ := board
  cases channelAliases with
  | nil => simp [loadBoard, saveBoard, lib.intOr_integer hfits, asArray?]
  | cons a as => simp [loadBoard, saveBoard, lib.intOr_integer hfits, Function.comp_def]

theorem loadBus_saveBus {bus : BusConfig} (hbaud : FitsInt bus.baudRate)
    (hslave : ∀ board ∈ bus.boards, FitsInt board.slaveId) (index : Nat) :
    loadBus lib index (saveBus lib bus) = bus := by
  have hboards : readTables (fun _ => loadBoard lib) (writeTables (saveBoard lib) bus.boards) =
      bus.boards.map id :=
    readTables_writeTables fun board hboard _ => loadBoard_saveBoard (hslave board hboard)
  rw [List.map_id] at hboards
  simp [loadBus, saveBus, lib.intOr_integer hbaud, hboards]

theorem loadRef_saveRef {ref : GroupChannelRef} (hfits : FitsInt ref.channelIndex) :
    loadRef lib (saveRef lib ref) = namedRef ref := by
  by_cases hname : ref.aliasName = "" <;>
    simp [loadRef, saveRef, namedRef, lib.intOr_integer hfits, hname]

theorem loadGroup_saveGroup {group : GroupConfig}
    (hfits : ∀ ref ∈ group.channels, FitsInt ref.channelIndex) :
    loadGroup lib (saveGroup lib group) = namedGroup group := by
  have hrefs : readTables (fun _ => loadRef lib) (writeTables (saveRef lib) group.channels) =
      group.channels.map namedRef :=
    readTables_writeTables fun ref href _ => loadRef_saveRef (hfits ref href)
  simp [loadGroup, saveGroup, namedGroup, hrefs]

theorem loadTable_saveTable {topo : TopologyConfig} (hfit : IntsFit topo) :
    loadTable lib (saveTable lib topo) = some (named topo) := by
  have hbuses : readTables (loadBus lib) (writeTables (saveBus lib) topo.buses) =
      topo.buses.map id :=
    readTables_writeTables fun bus hbus index =>
      loadBus_saveBus (hfit.baudRate bus hbus) (hfit.slaveId bus hbus) index
  have hgroups : readTables (fun _ => loadGroup lib) (writeTables (saveGroup lib) topo.groups) =
      topo.groups.map namedGroup :=
    readTables_writeTables fun group hgroup _ =>
      loadGroup_saveGroup (hfit.channelIndex group hgroup)
  rw [List.map_id] at hbuses
  by_cases hnone : topo.groups = []
  · simp [loadTable, saveTable, named, hbuses, hnone, asArray?]
  · simp [loadTable, saveTable, named, hbuses, hgroups, hnone]

/-- What was saved is loaded again, its channels named. -/
theorem load_save {files files' : Files} {path : String} {topo : TopologyConfig}
    (hfit : IntsFit topo)
    (hparse : lib.parse (lib.print (saveTable lib topo)) = some (saveTable lib topo))
    (hsave : save lib files path topo = (true, files')) :
    load lib files' path = some (named topo) := by
  rw [save] at hsave
  split at hsave
  · obtain ⟨-, rfl⟩ := Prod.mk.inj hsave
    simp [load, Files.exists, Files.write, hparse, loadTable_saveTable hfit]
  · cases hsave

/-- A board, and a group whose only channel has no name. -/
def bench : TopologyConfig where
  buses := [⟨"bus1", "/dev/ttyUSB0", 115200, [⟨"hvb-bench", 1, ["Cell1", "", "Cell3"]⟩]⟩]
  groups := [⟨"bank", [⟨"hvb-bench", 0, ""⟩]⟩]

def benchText : String :=
  "[[bus]]\nbaud_rate = 115200\nname = 'bus1'\nport = '/dev/ttyUSB0'\n" ++
  "[[bus.board]]\nchannel_aliases = [ 'Cell1', '', 'Cell3' ]\n" ++
  "nickname = 'hvb-bench'\nslave_id = 1\n" ++
  "[[group]]\nname = 'bank'\n" ++
  "[[group.channel]]\nalias = 'CH0'\nboard = 'hvb-bench'\nchannel = 0\n"

/-- The library on this one text. -/
def benchLibrary : Library where
  toTables := assigned
  print _ := benchText
  parse text :=
    if text = benchText then some (saveTable ⟨assigned, fun _ => "", fun _ => none⟩ bench) else none

def disk : Files := ⟨fun _ => none, fun _ => true⟩

theorem save_bench : save benchLibrary disk "topology.toml" bench =
    (true, disk.write "topology.toml" benchText) := by
  rw [save, if_pos (by rfl)]
  rfl

theorem parse_bench : benchLibrary.parse (benchLibrary.print (saveTable benchLibrary bench)) =
    some (saveTable benchLibrary bench) := by
  simp [benchLibrary]
  rfl

theorem load_save_example :
    load benchLibrary (disk.write "topology.toml" benchText) "topology.toml" =
      some (named bench) :=
  load_save ⟨by decide, by decide, by decide⟩ parse_bench save_bench

end TopologyFile
