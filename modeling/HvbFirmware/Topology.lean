import Mathlib.Data.List.Flatten
import HvbFirmware.Distinct
import HvbFirmware.Runs

/-!
# The topology of the host tools

`topology_rules.cpp`: the buses with their boards, and the groups, which refer to a board by its
nickname. An operation answers with an error text, or with the empty text and the topology that it
has edited.
-/
namespace Topology

open Distinct Runs

/-- A board, under a nickname that is its own in the whole topology and an address on its bus. -/
structure BoardConfig where
  nickname : String
  slaveId : Int
  channelAliases : List String
  deriving DecidableEq, Repr

/-- A serial port with the boards behind it. -/
structure BusConfig where
  name : String
  port : String
  baudRate : Int
  boards : List BoardConfig
  deriving DecidableEq, Repr

/-- A channel of a board as a member of a group. -/
structure GroupChannelRef where
  boardNickname : String
  channelIndex : Int
  aliasName : String
  deriving DecidableEq, Repr

/-- A named set of channels, from any boards. -/
structure GroupConfig where
  name : String
  channels : List GroupChannelRef
  deriving DecidableEq, Repr

structure TopologyConfig where
  buses : List BusConfig
  groups : List GroupConfig
  deriving DecidableEq, Repr

def TopologyConfig.empty : TopologyConfig := ⟨[], []⟩

/-- `totalBoardCount` counts these. -/
def TopologyConfig.boards (topo : TopologyConfig) : List BoardConfig :=
  topo.buses.flatMap (·.boards)

def TopologyConfig.refs (topo : TopologyConfig) : List GroupChannelRef :=
  topo.groups.flatMap (·.channels)

/-! ## Lookups -/

def defaultChannelAlias (channelIndex : Int) : String := "CH" ++ toString channelIndex

/-- Whether some board of the topology has the nickname. -/
def boardNicknameInUse (topo : TopologyConfig) (nickname : String) : Bool :=
  topo.buses.any fun bus => bus.boards.any fun board => board.nickname = nickname

def slaveIdInUse (bus : BusConfig) (slaveId : Int) : Bool :=
  bus.boards.any fun board => board.slaveId = slaveId

def groupNameInUse (topo : TopologyConfig) (name : String) : Bool :=
  topo.groups.any fun group => group.name = name

/-- How an error text names a channel. -/
def boardChannelId (boardNickname : String) (channelIndex : Int) : String :=
  boardNickname ++ "/" ++ defaultChannelAlias channelIndex

def isRef (boardNickname : String) (channelIndex : Int) (ref : GroupChannelRef) : Bool :=
  ref.boardNickname = boardNickname ∧ ref.channelIndex = channelIndex

/-- The index, and none for the -1 of the source. -/
def findGroupForBoardChannel (topo : TopologyConfig) (boardNickname : String)
    (channelIndex : Int) : Option Nat :=
  topo.groups.findIdx? fun group => group.channels.any (isRef boardNickname channelIndex)

/-- `exceptChannelIdx` is -1 by default. -/
def groupAliasInUse (group : GroupConfig) (aliasName : String) (exceptChannelIdx : Int) : Bool :=
  group.channels.zipIdx.any fun channel =>
    (channel.2 : Int) ≠ exceptChannelIdx ∧ channel.1.aliasName = aliasName

def quoted (text : String) : String := "\"" ++ text ++ "\""

/-- An index that the source checks against a size. -/
def validIdx {α : Type} (xs : List α) (idx : Int) : Bool := 0 ≤ idx ∧ idx < xs.length

/-! ## Operations -/

/-- The error text, empty when there is none, with the topology as edited or as it was. -/
abbrev Answer := String × TopologyConfig

/-- A bus without a name is numbered. -/
def addBus (topo : TopologyConfig) (name port : String) (baud : Int) : Answer :=
  if port = "" then ("port required", topo)
  else
    match topo.buses.find? fun bus => bus.port = port with
    | some bus => ("port already in use by bus " ++ quoted bus.name, topo)
    | none =>
      let name := if name = "" then "bus" ++ toString (topo.buses.length + 1) else name
      ("", { topo with buses := topo.buses ++ [⟨name, port, baud, []⟩] })

def removeBus (topo : TopologyConfig) (busIdx : Int) : Answer :=
  if !validIdx topo.buses busIdx then ("invalid bus index", topo)
  else ("", { topo with buses := topo.buses.eraseIdx busIdx.toNat })

/-- The nickname is looked for on all buses, the address on this one. -/
def addBoard (topo : TopologyConfig) (busIdx : Int) (nickname : String) (slaveId : Int) : Answer :=
  match if validIdx topo.buses busIdx then topo.buses[busIdx.toNat]? else none with
  | none => ("invalid bus index", topo)
  | some bus =>
    if nickname = "" then ("nickname required", topo)
    else if slaveId < 0 ∨ slaveId > 247 then ("slave ID must be 0-247", topo)
    else if boardNicknameInUse topo nickname then
      ("nickname " ++ quoted nickname ++ " already in use", topo)
    else if slaveIdInUse bus slaveId then
      ("slave ID " ++ toString slaveId ++ " already used on this bus", topo)
    else ("", { topo with
      buses := topo.buses.modify busIdx.toNat fun bus =>
        { bus with boards := bus.boards ++ [⟨nickname, slaveId, []⟩] } })

/-- The last board of the name, which `foundBoard` points to when the loops end, renamed. -/
def renameLastBoard (previousNickname nickname : String) :
    List BoardConfig → Bool × List BoardConfig
  | [] => (false, [])
  | board :: boards =>
    let r := renameLastBoard previousNickname nickname boards
    if r.1 then (true, board :: r.2)
    else if board.nickname = previousNickname then
      (true, { board with nickname := nickname } :: boards)
    else (false, board :: boards)

def renameLastBus (previousNickname nickname : String) : List BusConfig → Bool × List BusConfig
  | [] => (false, [])
  | bus :: buses =>
    let r := renameLastBus previousNickname nickname buses
    if r.1 then (true, bus :: r.2)
    else
      let s := renameLastBoard previousNickname nickname bus.boards
      if s.1 then (true, { bus with boards := s.2 } :: buses) else (false, bus :: buses)

/-- The references follow their board. -/
def renameRefs (previousNickname nickname : String) (group : GroupConfig) : GroupConfig :=
  { group with channels := group.channels.map fun ref =>
      if ref.boardNickname = previousNickname then { ref with boardNickname := nickname }
      else ref }

/-- The new nickname is looked for among the boards of another name. What the groups hold under it
already is not looked at. -/
def renameBoard (topo : TopologyConfig) (previousNickname nickname : String) : Answer :=
  if nickname = "" then ("nickname required", topo)
  else if topo.boards.any fun board =>
      board.nickname ≠ previousNickname ∧ board.nickname = nickname then
    ("nickname " ++ quoted nickname ++ " already in use", topo)
  else
    let r := renameLastBus previousNickname nickname topo.buses
    if !r.1 then ("board " ++ quoted previousNickname ++ " not found", topo)
    else ("", ⟨r.2, topo.groups.map (renameRefs previousNickname nickname)⟩)

/-- The references to the board stay. -/
def removeBoard (topo : TopologyConfig) (busIdx boardIdx : Int) : Answer :=
  match if validIdx topo.buses busIdx then topo.buses[busIdx.toNat]? else none with
  | none => ("invalid bus index", topo)
  | some bus =>
    if !validIdx bus.boards boardIdx then ("invalid board index", topo)
    else ("", { topo with
      buses := topo.buses.modify busIdx.toNat fun bus =>
        { bus with boards := bus.boards.eraseIdx boardIdx.toNat } })

def addGroup (topo : TopologyConfig) (name : String) : Answer :=
  if name = "" then ("group name required", topo)
  else if groupNameInUse topo name then
    ("group name " ++ quoted name ++ " already in use", topo)
  else ("", { topo with groups := topo.groups ++ [⟨name, []⟩] })

/-- A group may keep its own name. -/
def renameGroup (topo : TopologyConfig) (groupIdx : Int) (name : String) : Answer :=
  if !validIdx topo.groups groupIdx then ("invalid group index", topo)
  else if name = "" then ("group name required", topo)
  else if topo.groups.zipIdx.any fun group =>
      (group.2 : Int) ≠ groupIdx ∧ group.1.name = name then
    ("group name " ++ quoted name ++ " already in use", topo)
  else ("", { topo with groups := topo.groups.modify groupIdx.toNat fun group =>
      { group with name := name } })

def removeGroup (topo : TopologyConfig) (groupIdx : Int) : Answer :=
  if !validIdx topo.groups groupIdx then ("invalid group index", topo)
  else ("", { topo with groups := topo.groups.eraseIdx groupIdx.toNat })

/-- A channel belongs to one group at most, and an alias to one channel of its group. -/
def addChannelToGroup (topo : TopologyConfig) (groupIdx : Int) (boardNickname : String)
    (channelIndex : Int) (aliasName : String) : Answer :=
  match if validIdx topo.groups groupIdx then topo.groups[groupIdx.toNat]? else none with
  | none => ("invalid group index", topo)
  | some group =>
    if boardNickname = "" then ("board required", topo)
    else if channelIndex < 0 then ("invalid channel index", topo)
    else
      let finalAlias := if aliasName = "" then defaultChannelAlias channelIndex else aliasName
      match findGroupForBoardChannel topo boardNickname channelIndex with
      | some assignedGroup =>
        (boardChannelId boardNickname channelIndex ++ " already assigned to group " ++
          ((topo.groups[assignedGroup]?.map (·.name)).getD ""), topo)
      | none =>
        if groupAliasInUse group finalAlias (-1) then
          ("alias " ++ quoted finalAlias ++ " already in use in group " ++ group.name, topo)
        else ("", { topo with groups := topo.groups.modify groupIdx.toNat fun group =>
            { group with channels := group.channels ++
                [⟨boardNickname, channelIndex, finalAlias⟩] } })

def renameGroupChannelAlias (topo : TopologyConfig) (groupIdx channelIdx : Int)
    (aliasName : String) : Answer :=
  match if validIdx topo.groups groupIdx then topo.groups[groupIdx.toNat]? else none with
  | none => ("invalid group index", topo)
  | some group =>
    match
      if validIdx group.channels channelIdx then group.channels[channelIdx.toNat]? else none with
    | none => ("invalid channel index", topo)
    | some ref =>
      let finalAlias := if aliasName = "" then defaultChannelAlias ref.channelIndex else aliasName
      if groupAliasInUse group finalAlias channelIdx then
        ("alias " ++ quoted finalAlias ++ " already in use in group " ++ group.name, topo)
      else ("", { topo with groups := topo.groups.modify groupIdx.toNat fun group =>
          { group with channels := group.channels.modify channelIdx.toNat fun ref =>
              { ref with aliasName := finalAlias } } })

/-- The same for a channel that is looked up in the groups. -/
def renameGroupChannelAliasForBoardChannel (topo : TopologyConfig) (boardNickname : String)
    (channelIndex : Int) (aliasName : String) : Answer :=
  let missing := boardChannelId boardNickname channelIndex ++ " is not assigned to a group"
  match findGroupForBoardChannel topo boardNickname channelIndex with
  | none => (missing, topo)
  | some groupIdx =>
    match topo.groups[groupIdx]?.bind fun group =>
        group.channels.findIdx? (isRef boardNickname channelIndex) with
    | none => (missing, topo)
    | some channelIdx => renameGroupChannelAlias topo groupIdx channelIdx aliasName

def removeChannelFromGroup (topo : TopologyConfig) (groupIdx channelIdx : Int) : Answer :=
  match if validIdx topo.groups groupIdx then topo.groups[groupIdx.toNat]? else none with
  | none => ("invalid group index", topo)
  | some group =>
    if !validIdx group.channels channelIdx then ("invalid channel index", topo)
    else ("", { topo with groups := topo.groups.modify groupIdx.toNat fun group =>
        { group with channels := group.channels.eraseIdx channelIdx.toNat } })

/-- The edits, each with the arguments of its function. -/
inductive Op where
  | addBus (name port : String) (baud : Int)
  | removeBus (busIdx : Int)
  | addBoard (busIdx : Int) (nickname : String) (slaveId : Int)
  | renameBoard (previousNickname nickname : String)
  | removeBoard (busIdx boardIdx : Int)
  | addGroup (name : String)
  | renameGroup (groupIdx : Int) (name : String)
  | removeGroup (groupIdx : Int)
  | addChannelToGroup (groupIdx : Int) (boardNickname : String) (channelIndex : Int)
      (aliasName : String)
  | renameGroupChannelAlias (groupIdx channelIdx : Int) (aliasName : String)
  | renameGroupChannelAliasForBoardChannel (boardNickname : String) (channelIndex : Int)
      (aliasName : String)
  | removeChannelFromGroup (groupIdx channelIdx : Int)

def Op.call (topo : TopologyConfig) : Op → Answer
  | .addBus name port baud => Topology.addBus topo name port baud
  | .removeBus busIdx => Topology.removeBus topo busIdx
  | .addBoard busIdx nickname slaveId => Topology.addBoard topo busIdx nickname slaveId
  | .renameBoard previousNickname nickname => Topology.renameBoard topo previousNickname nickname
  | .removeBoard busIdx boardIdx => Topology.removeBoard topo busIdx boardIdx
  | .addGroup name => Topology.addGroup topo name
  | .renameGroup groupIdx name => Topology.renameGroup topo groupIdx name
  | .removeGroup groupIdx => Topology.removeGroup topo groupIdx
  | .addChannelToGroup groupIdx boardNickname channelIndex aliasName =>
    Topology.addChannelToGroup topo groupIdx boardNickname channelIndex aliasName
  | .renameGroupChannelAlias groupIdx channelIdx aliasName =>
    Topology.renameGroupChannelAlias topo groupIdx channelIdx aliasName
  | .renameGroupChannelAliasForBoardChannel boardNickname channelIndex aliasName =>
    Topology.renameGroupChannelAliasForBoardChannel topo boardNickname channelIndex aliasName
  | .removeChannelFromGroup groupIdx channelIdx =>
    Topology.removeChannelFromGroup topo groupIdx channelIdx

def Op.step (topo : TopologyConfig) (op : Op) : TopologyConfig := (op.call topo).2

/-! ## Integrity -/

/-- Ports, nicknames, and the addresses on each bus are distinct, and no nickname is empty. -/
structure BusesIntact (buses : List BusConfig) : Prop where
  ports : (buses.map (·.port)).Nodup
  nicknames : ((buses.flatMap (·.boards)).map (·.nickname)).Nodup
  named : ∀ bus ∈ buses, ∀ board ∈ bus.boards, board.nickname ≠ ""
  slaveIds : ∀ bus ∈ buses, (bus.boards.map (·.slaveId)).Nodup

/-- The names of the groups and the aliases in each group are distinct, and no name is empty. -/
structure GroupsIntact (groups : List GroupConfig) : Prop where
  groupNames : (groups.map (·.name)).Nodup
  groupNamed : ∀ group ∈ groups, group.name ≠ ""
  aliases : ∀ group ∈ groups, (group.channels.map (·.aliasName)).Nodup

/-- The (boardNickname, channelIndex) pairs of all groups. -/
def members (groups : List GroupConfig) : List (String × Int) :=
  (groups.flatMap (·.channels)).map fun ref => (ref.boardNickname, ref.channelIndex)

/-- Buses and groups are intact, and no channel is in two groups. -/
structure Integrity (topo : TopologyConfig) : Prop extends
    BusesIntact topo.buses, GroupsIntact topo.groups where
  assigned : (members topo.groups).Nodup

/-- What an operation gets under an index that it has checked. -/
theorem picked {α : Type} {xs : List α} {idx : Int} {a : α}
    (h : (if validIdx xs idx then xs[idx.toNat]? else none) = some a) :
    xs[idx.toNat]? = some a := by
  split at h
  · exact h
  · cases h

theorem boardNicknameInUse_iff {topo : TopologyConfig} {nickname : String} :
    boardNicknameInUse topo nickname ↔
      nickname ∈ (topo.buses.flatMap (·.boards)).map (·.nickname) := by
  simp only [boardNicknameInUse, List.any_eq_true, decide_eq_true_eq, List.mem_map,
    List.mem_flatMap]
  grind

theorem addBus_buses {topo : TopologyConfig} {name port : String} {baud : Int}
    (h : BusesIntact topo.buses) : BusesIntact (addBus topo name port baud).2.buses := by
  unfold addBus
  split
  · exact h
  split
  · exact h
  next hport =>
    have hports : ∀ bus ∈ topo.buses, bus.port ≠ port := by simpa using hport
    refine ⟨?_, ?_, ?_, ?_⟩
    · simpa [List.nodup_append] using ⟨h.ports, hports⟩
    · simpa using h.nicknames
    · simpa [or_imp, forall_and] using h.named
    · simpa [or_imp, forall_and] using h.slaveIds

/-- Distinctness survives the loss of a bus. -/
theorem eraseIdx_buses {buses : List BusConfig} {i : Nat} (h : BusesIntact buses) :
    BusesIntact (buses.eraseIdx i) := by
  have hsub := List.eraseIdx_sublist buses i
  exact ⟨h.ports.sublist (hsub.map _), h.nicknames.sublist ((hsub.flatMap _).map _),
    fun bus hbus => h.named bus (hsub.subset hbus),
    fun bus hbus => h.slaveIds bus (hsub.subset hbus)⟩

theorem removeBus_buses {topo : TopologyConfig} {busIdx : Int} (h : BusesIntact topo.buses) :
    BusesIntact (removeBus topo busIdx).2.buses := by
  unfold removeBus
  split
  · exact h
  · exact eraseIdx_buses h

theorem addBoard_buses {topo : TopologyConfig} {busIdx : Int} {nickname : String} {slaveId : Int}
    (h : BusesIntact topo.buses) : BusesIntact (addBoard topo busIdx nickname slaveId).2.buses := by
  unfold addBoard
  split
  · exact h
  next bus hbus =>
    have hbus := picked hbus
    split
    · exact h
    split
    · exact h
    split
    · exact h
    split
    · exact h
    next hname _ hnick hslave =>
      have hperm := flatMap_modify_append (g := BusConfig.boards)
        (f := fun bus => { bus with boards := bus.boards ++ [⟨nickname, slaveId, []⟩] }) hbus rfl
      have hnew : slaveId ∉ bus.boards.map (·.slaveId) := by
        simpa [slaveIdInUse] using hslave
      refine ⟨nodup_modify_congr h.ports fun _ => rfl, ?_, forall_mem_modify h.named ?_,
        forall_mem_modify h.slaveIds ?_⟩
      · rw [(hperm.map _).nodup_iff]
        exact List.nodup_cons.mpr ⟨fun hmem => hnick (boardNicknameInUse_iff.mpr hmem), h.nicknames⟩
      · intro bus hmem board hboard
        rcases List.mem_append.mp hboard with hboard | hboard
        · exact h.named bus (List.mem_of_getElem? hmem) board hboard
        · rw [List.mem_singleton.mp hboard]
          exact hname
      · intro bus' hmem
        obtain rfl := Option.some.inj (hbus.symm.trans hmem)
        rw [List.map_append]
        exact List.nodup_append_comm.mp
          (List.nodup_cons.mpr ⟨hnew, h.slaveIds bus (List.mem_of_getElem? hbus)⟩)

/-! ## Renaming a board -/

def BoardConfig.renamed (previousNickname nickname : String) (board : BoardConfig) : BoardConfig :=
  { board with nickname := rename previousNickname nickname board.nickname }

def BusConfig.renamed (previousNickname nickname : String) (bus : BusConfig) : BusConfig :=
  { bus with boards := bus.boards.map (BoardConfig.renamed previousNickname nickname) }

section Renamed

variable {previousNickname nickname : String}

theorem renamed_of_ne {board : BoardConfig} (h : board.nickname ≠ previousNickname) :
    board.renamed previousNickname nickname = board := by
  unfold BoardConfig.renamed rename
  rw [if_neg h]

theorem map_renamed_of_notMem {boards : List BoardConfig}
    (h : previousNickname ∉ boards.map (·.nickname)) :
    boards.map (BoardConfig.renamed previousNickname nickname) = boards := by
  refine (List.map_congr_left fun board hboard => ?_).trans (List.map_id _)
  exact renamed_of_ne fun heq => h (heq ▸ List.mem_map_of_mem hboard)

theorem busRenamed_of_notMem {bus : BusConfig}
    (h : previousNickname ∉ bus.boards.map (·.nickname)) :
    bus.renamed previousNickname nickname = bus := by
  unfold BusConfig.renamed
  rw [map_renamed_of_notMem h]

/-- Where the nicknames are distinct the last board of the name is the only one. -/
theorem renameLastBoard_eq {boards : List BoardConfig} (h : (boards.map (·.nickname)).Nodup) :
    renameLastBoard previousNickname nickname boards =
      (decide (previousNickname ∈ boards.map (·.nickname)),
        boards.map (BoardConfig.renamed previousNickname nickname)) := by
  induction boards with
  | nil => rfl
  | cons board boards ih =>
    obtain ⟨(hboard : board.nickname ∉ _), hboards⟩ := List.nodup_cons.mp h
    unfold renameLastBoard
    rw [ih hboards]
    by_cases hmem : previousNickname ∈ boards.map (·.nickname)
    · have hne : board.nickname ≠ previousNickname := fun heq => hboard (heq ▸ hmem)
      simp [hmem, renamed_of_ne hne]
    · by_cases heq : board.nickname = previousNickname
      · simp [hmem, heq, map_renamed_of_notMem hmem, BoardConfig.renamed, rename]
      · simp [hmem, heq, renamed_of_ne heq, Ne.symm heq, map_renamed_of_notMem hmem]

theorem renameLastBus_eq {buses : List BusConfig}
    (h : ((buses.flatMap (·.boards)).map (·.nickname)).Nodup) :
    renameLastBus previousNickname nickname buses =
      (decide (previousNickname ∈ (buses.flatMap (·.boards)).map (·.nickname)),
        buses.map (BusConfig.renamed previousNickname nickname)) := by
  induction buses with
  | nil => rfl
  | cons bus buses ih =>
    rw [List.flatMap_cons, List.map_append] at h ⊢
    obtain ⟨hbus, hbuses, hdisjoint⟩ := List.nodup_append.mp h
    unfold renameLastBus
    rw [ih hbuses, renameLastBoard_eq hbus]
    by_cases hmem : previousNickname ∈ (buses.flatMap (·.boards)).map (·.nickname)
    · have hnot : previousNickname ∉ bus.boards.map (·.nickname) :=
        fun hin => hdisjoint _ hin _ hmem rfl
      simp [hmem, busRenamed_of_notMem hnot]
    · have hrest : buses.map (BusConfig.renamed previousNickname nickname) = buses := by
        refine (List.map_congr_left fun other hother => ?_).trans (List.map_id _)
        refine busRenamed_of_notMem fun hin => hmem ?_
        rw [List.map_flatMap]
        exact List.mem_flatMap.mpr ⟨other, hother, hin⟩
      by_cases hin : previousNickname ∈ bus.boards.map (·.nickname)
      · simp [hmem, hin, hrest, BusConfig.renamed]
      · simp [hmem, hin, hrest, busRenamed_of_notMem hin]

/-- A renamed board is renamed in the members. -/
theorem members_renameRefs (groups : List GroupConfig) :
    members (groups.map (renameRefs previousNickname nickname)) =
      (members groups).map fun pair => (rename previousNickname nickname pair.1, pair.2) := by
  unfold members
  rw [List.flatMap_map, List.map_flatMap, List.map_flatMap, List.map_flatMap]
  refine List.flatMap_congr fun group _ => ?_
  unfold renameRefs
  rw [List.map_map, List.map_map]
  refine List.map_congr_left fun ref _ => ?_
  simp only [Function.comp_apply, rename]
  split <;> rfl

end Renamed

/-- The rename is carried out. -/
def Renames (topo : TopologyConfig) (previousNickname nickname : String) : Prop :=
  nickname ≠ "" ∧ boardNicknameInUse topo previousNickname ∧
    (boardNicknameInUse topo nickname → nickname = previousNickname)

/-- A rename is carried out on every board and reference of the name, or the topology stays. -/
theorem renameBoard_cases {topo : TopologyConfig} (h : BusesIntact topo.buses)
    (previousNickname nickname : String) :
    (¬Renames topo previousNickname nickname ∧
      (renameBoard topo previousNickname nickname).2 = topo) ∨
    (Renames topo previousNickname nickname ∧
      (renameBoard topo previousNickname nickname).2 =
        ⟨topo.buses.map (BusConfig.renamed previousNickname nickname),
          topo.groups.map (renameRefs previousNickname nickname)⟩) := by
  have hother : (topo.boards.any fun board =>
      board.nickname ≠ previousNickname ∧ board.nickname = nickname) = true ↔
      ¬(boardNicknameInUse topo nickname → nickname = previousNickname) := by
    rw [boardNicknameInUse_iff]
    simp only [TopologyConfig.boards, List.any_eq_true, decide_eq_true_eq, List.mem_map]
    grind
  unfold renameBoard
  split
  next hname => exact Or.inl ⟨fun hrenames => hrenames.1 hname, rfl⟩
  split
  next hused => exact Or.inl ⟨fun hrenames => hother.mp hused hrenames.2.2, rfl⟩
  next hname hfree =>
    rw [renameLastBus_eq h.nicknames]
    by_cases hfound : previousNickname ∈ (topo.buses.flatMap (·.boards)).map (·.nickname)
    · refine Or.inr ⟨⟨hname, boardNicknameInUse_iff.mpr hfound, ?_⟩, ?_⟩
      · exact Classical.not_not.mp fun hnot => hfree (hother.mpr hnot)
      · simp [hfound]
    · refine Or.inl ⟨fun hrenames => hfound (boardNicknameInUse_iff.mp hrenames.2.1), ?_⟩
      simp [hfound]

theorem renameBoard_buses {topo : TopologyConfig} {previousNickname nickname : String}
    (h : BusesIntact topo.buses) :
    BusesIntact (renameBoard topo previousNickname nickname).2.buses := by
  obtain ⟨-, heq⟩ | ⟨⟨hname, -, hfree⟩, heq⟩ := renameBoard_cases h previousNickname nickname
  · rw [heq]
    exact h
  · rw [heq]
    refine ⟨?_, ?_, ?_, ?_⟩
    · rw [List.map_map]
      exact h.ports
    · have hnicknames : ((topo.buses.map (BusConfig.renamed previousNickname nickname)).flatMap
            (·.boards)).map (·.nickname) =
          ((topo.buses.flatMap (·.boards)).map (·.nickname)).map
            (rename previousNickname nickname) := by
        rw [List.flatMap_map, List.map_flatMap, List.map_flatMap, List.map_flatMap]
        refine List.flatMap_congr fun bus _ => ?_
        simp only [BusConfig.renamed, BoardConfig.renamed, List.map_map, Function.comp_def]
      rw [hnicknames]
      exact nodup_rename h.nicknames fun hmem => hfree (boardNicknameInUse_iff.mpr hmem)
    · intro bus hbus board hboard
      obtain ⟨bus, hmem, rfl⟩ := List.mem_map.mp hbus
      obtain ⟨board, hin, rfl⟩ := List.mem_map.mp hboard
      simp only [BoardConfig.renamed, rename]
      split
      · exact hname
      · exact h.named bus hmem board hin
    · intro bus hbus
      obtain ⟨bus, hmem, rfl⟩ := List.mem_map.mp hbus
      simp only [BusConfig.renamed, List.map_map]
      exact h.slaveIds bus hmem

theorem removeBoard_buses {topo : TopologyConfig} {busIdx boardIdx : Int}
    (h : BusesIntact topo.buses) : BusesIntact (removeBoard topo busIdx boardIdx).2.buses := by
  unfold removeBoard
  split
  · exact h
  split
  · exact h
  have hsub (bus : BusConfig) :
      (bus.boards.eraseIdx boardIdx.toNat).Sublist bus.boards := List.eraseIdx_sublist ..
  refine ⟨nodup_modify_congr h.ports fun _ => rfl, ?_, forall_mem_modify h.named ?_,
    forall_mem_modify h.slaveIds ?_⟩
  · exact h.nicknames.sublist ((flatMap_modify_sublist fun bus _ => hsub bus).map _)
  · intro bus hbus board hboard
    exact h.named bus (List.mem_of_getElem? hbus) board ((hsub bus).subset hboard)
  · intro bus hbus
    exact (h.slaveIds bus (List.mem_of_getElem? hbus)).sublist ((hsub bus).map _)

/-! ## Edits of the groups -/

/-- Every other channel of a group has another alias than one that is not in use. -/
theorem aliasName_ne {group : GroupConfig} {aliasName : String} {exceptChannelIdx : Int}
    (h : ¬groupAliasInUse group aliasName exceptChannelIdx) {j : Nat} {ref : GroupChannelRef}
    (href : group.channels[j]? = some ref) (hj : (j : Int) ≠ exceptChannelIdx) :
    ref.aliasName ≠ aliasName := by
  intro hsame
  refine h (List.any_eq_true.mpr ⟨(ref, j), List.mem_zipIdx_iff_getElem?.mpr href, ?_⟩)
  simp only [decide_eq_true_eq]
  exact ⟨hj, hsame⟩

theorem toNat_of_validIdx {α : Type} {xs : List α} {idx : Int} (h : validIdx xs idx) :
    (idx.toNat : Int) = idx := by
  simp only [validIdx, decide_eq_true_eq] at h
  omega

/-- A group that keeps its name and has distinct aliases again. -/
theorem GroupsIntact.modify {groups : List GroupConfig} (h : GroupsIntact groups) {i : Nat}
    {f : GroupConfig → GroupConfig} (hname : ∀ group, (f group).name = group.name)
    (haliases : ∀ group ∈ groups[i]?, ((f group).channels.map (·.aliasName)).Nodup) :
    GroupsIntact (groups.modify i f) := by
  refine ⟨nodup_modify_congr h.groupNames hname, forall_mem_modify h.groupNamed ?_,
    forall_mem_modify h.aliases haliases⟩
  intro group hmem
  rw [hname]
  exact h.groupNamed group (List.mem_of_getElem? hmem)

section Groups

variable {topo : TopologyConfig} {groupIdx channelIdx channelIndex : Int}
  {name aliasName boardNickname : String}

theorem addGroup_groups (h : GroupsIntact topo.groups) :
    GroupsIntact (addGroup topo name).2.groups := by
  unfold addGroup
  split
  · exact h
  split
  · exact h
  next hname hfree =>
    have hnames : ∀ group ∈ topo.groups, group.name ≠ name := by
      simpa [groupNameInUse] using hfree
    refine ⟨?_, ?_, ?_⟩
    · simpa [List.nodup_append] using ⟨h.groupNames, hnames⟩
    · simpa [or_imp, forall_and] using ⟨h.groupNamed, hname⟩
    · simpa [or_imp, forall_and] using h.aliases

theorem renameGroup_groups (h : GroupsIntact topo.groups) :
    GroupsIntact (renameGroup topo groupIdx name).2.groups := by
  unfold renameGroup
  split
  · exact h
  split
  · exact h
  split
  · exact h
  next hidx hname hfree =>
    refine ⟨nodup_modify h.groupNames ?_, forall_mem_modify h.groupNamed fun _ _ => hname,
      forall_mem_modify h.aliases fun group hgroup => h.aliases group (List.mem_of_getElem? hgroup)⟩
    have hidx := toNat_of_validIdx (by simpa using hidx)
    intro _ _ j hj other hother hsame
    refine hfree (List.any_eq_true.mpr ⟨(other, j), List.mem_zipIdx_iff_getElem?.mpr hother, ?_⟩)
    simp only [decide_eq_true_eq]
    exact ⟨by omega, hsame⟩

theorem removeGroup_groups (h : GroupsIntact topo.groups) :
    GroupsIntact (removeGroup topo groupIdx).2.groups := by
  unfold removeGroup
  split
  · exact h
  have hsub := List.eraseIdx_sublist topo.groups groupIdx.toNat
  exact ⟨h.groupNames.sublist (hsub.map _),
    fun group hgroup => h.groupNamed group (hsub.subset hgroup),
    fun group hgroup => h.aliases group (hsub.subset hgroup)⟩

theorem addChannelToGroup_groups (h : GroupsIntact topo.groups) :
    GroupsIntact
      (addChannelToGroup topo groupIdx boardNickname channelIndex aliasName).2.groups := by
  unfold addChannelToGroup
  split
  · exact h
  next group hgroup =>
    have hgroup := picked hgroup
    split
    · exact h
    split
    · exact h
    extract_lets finalAlias
    split
    · exact h
    split
    · exact h
    next hfree =>
      refine h.modify (fun _ => rfl) fun group' hmem => ?_
      obtain rfl := Option.some.inj (hgroup.symm.trans hmem)
      have hnew : finalAlias ∉ group.channels.map (·.aliasName) := by
        intro hin
        obtain ⟨ref, href, hsame⟩ := List.mem_map.mp hin
        obtain ⟨j, hj⟩ := List.mem_iff_getElem?.mp href
        exact aliasName_ne hfree hj (by omega) hsame
      rw [List.map_append]
      exact List.nodup_append_comm.mp
        (List.nodup_cons.mpr ⟨hnew, h.aliases group (List.mem_of_getElem? hgroup)⟩)

theorem renameGroupChannelAlias_groups (h : GroupsIntact topo.groups) :
    GroupsIntact (renameGroupChannelAlias topo groupIdx channelIdx aliasName).2.groups := by
  unfold renameGroupChannelAlias
  split
  · exact h
  next group hgroup =>
    have hgroup := picked hgroup
    split
    · exact h
    next ref href =>
      extract_lets finalAlias
      split
      · exact h
      next hfree =>
        refine h.modify (fun _ => rfl) fun group' hmem => ?_
        obtain rfl := Option.some.inj (hgroup.symm.trans hmem)
        refine nodup_modify (h.aliases group (List.mem_of_getElem? hgroup)) ?_
        intro _ _ j hj other hother
        refine aliasName_ne hfree hother ?_
        split at href
        next hidx =>
          have hidx := toNat_of_validIdx hidx
          omega
        · cases href

theorem renameGroupChannelAliasForBoardChannel_cases (topo : TopologyConfig)
    (boardNickname : String) (channelIndex : Int) (aliasName : String) :
    (renameGroupChannelAliasForBoardChannel topo boardNickname channelIndex aliasName).2 = topo ∨
      ∃ groupIdx channelIdx,
        renameGroupChannelAliasForBoardChannel topo boardNickname channelIndex aliasName =
          renameGroupChannelAlias topo groupIdx channelIdx aliasName := by
  unfold renameGroupChannelAliasForBoardChannel
  dsimp only
  split
  · exact Or.inl rfl
  split
  · exact Or.inl rfl
  · exact Or.inr ⟨_, _, rfl⟩

theorem removeChannelFromGroup_groups (h : GroupsIntact topo.groups) :
    GroupsIntact (removeChannelFromGroup topo groupIdx channelIdx).2.groups := by
  unfold removeChannelFromGroup
  split
  · exact h
  split
  · exact h
  refine h.modify (fun _ => rfl) fun group hmem => ?_
  exact (h.aliases group (List.mem_of_getElem? hmem)).sublist
    ((List.eraseIdx_sublist ..).map _)

/-! ## The other half of the topology -/

section Frame

variable {baud busIdx boardIdx slaveId : Int} {port nickname : String}

@[simp] theorem addBus_frame : (addBus topo name port baud).2.groups = topo.groups := by
  unfold addBus
  split
  · rfl
  · split <;> rfl

@[simp] theorem removeBus_frame : (removeBus topo busIdx).2.groups = topo.groups := by
  unfold removeBus
  split <;> rfl

@[simp] theorem addBoard_frame :
    (addBoard topo busIdx nickname slaveId).2.groups = topo.groups := by
  unfold addBoard
  split
  · rfl
  · repeat' split
    all_goals rfl

@[simp] theorem removeBoard_frame :
    (removeBoard topo busIdx boardIdx).2.groups = topo.groups := by
  unfold removeBoard
  split
  · rfl
  · split <;> rfl

@[simp] theorem addGroup_frame : (addGroup topo name).2.buses = topo.buses := by
  unfold addGroup
  split
  · rfl
  · split <;> rfl

@[simp] theorem renameGroup_frame : (renameGroup topo groupIdx name).2.buses = topo.buses := by
  unfold renameGroup
  repeat' split
  all_goals rfl

@[simp] theorem removeGroup_frame : (removeGroup topo groupIdx).2.buses = topo.buses := by
  unfold removeGroup
  split <;> rfl

@[simp] theorem addChannelToGroup_frame :
    (addChannelToGroup topo groupIdx boardNickname channelIndex aliasName).2.buses =
      topo.buses := by
  unfold addChannelToGroup
  split
  · rfl
  extract_lets finalAlias
  repeat' split
  all_goals rfl

@[simp] theorem renameGroupChannelAlias_frame :
    (renameGroupChannelAlias topo groupIdx channelIdx aliasName).2.buses = topo.buses := by
  unfold renameGroupChannelAlias
  split
  · rfl
  split
  · rfl
  extract_lets finalAlias
  split <;> rfl

@[simp] theorem renameGroupChannelAliasForBoardChannel_frame :
    (renameGroupChannelAliasForBoardChannel topo boardNickname channelIndex aliasName).2.buses =
      topo.buses := by
  obtain heq | ⟨groupIdx, channelIdx, heq⟩ :=
    renameGroupChannelAliasForBoardChannel_cases topo boardNickname channelIndex aliasName
  · rw [heq]
  · rw [heq, renameGroupChannelAlias_frame]

@[simp] theorem removeChannelFromGroup_frame :
    (removeChannelFromGroup topo groupIdx channelIdx).2.buses = topo.buses := by
  unfold removeChannelFromGroup
  split
  · rfl
  · split <;> rfl

end Frame

/-! ## Members -/

theorem addGroup_members (h : (members topo.groups).Nodup) :
    (members (addGroup topo name).2.groups).Nodup := by
  unfold addGroup
  split
  · exact h
  split
  · exact h
  · simpa [members] using h

theorem renameGroup_members (h : (members topo.groups).Nodup) :
    (members (renameGroup topo groupIdx name).2.groups).Nodup := by
  unfold renameGroup
  split
  · exact h
  split
  · exact h
  split
  · exact h
  · exact nodup_flatMap_modify_congr h fun _ _ => rfl

theorem removeGroup_members (h : (members topo.groups).Nodup) :
    (members (removeGroup topo groupIdx).2.groups).Nodup := by
  unfold removeGroup
  split
  · exact h
  · exact h.sublist (((List.eraseIdx_sublist ..).flatMap _).map _)

/-- The lookup finds nothing exactly for a channel that is no member. -/
theorem findGroupForBoardChannel_none :
    findGroupForBoardChannel topo boardNickname channelIndex = none ↔
      (boardNickname, channelIndex) ∉ members topo.groups := by
  simp only [findGroupForBoardChannel, members, List.findIdx?_eq_none_iff, List.any_eq_false, isRef,
    decide_eq_true_eq, List.mem_map, List.mem_flatMap, Prod.mk.injEq]
  grind

theorem addChannelToGroup_members (h : (members topo.groups).Nodup) :
    (members (addChannelToGroup topo groupIdx boardNickname channelIndex aliasName).2.groups).Nodup
    := by
  unfold addChannelToGroup
  split
  · exact h
  next group hgroup =>
    have hgroup := picked hgroup
    split
    · exact h
    split
    · exact h
    extract_lets finalAlias
    split
    · exact h
    next hfree =>
      split
      · exact h
      have hperm := flatMap_modify_append (g := GroupConfig.channels)
        (f := fun group => { group with channels := group.channels ++
          [⟨boardNickname, channelIndex, finalAlias⟩] }) hgroup rfl
      unfold members
      rw [(hperm.map _).nodup_iff]
      exact List.nodup_cons.mpr ⟨findGroupForBoardChannel_none.mp hfree, h⟩

theorem renameGroupChannelAlias_members (h : (members topo.groups).Nodup) :
    (members (renameGroupChannelAlias topo groupIdx channelIdx aliasName).2.groups).Nodup := by
  unfold renameGroupChannelAlias
  split
  · exact h
  split
  · exact h
  extract_lets finalAlias
  split
  · exact h
  · exact nodup_flatMap_modify_congr h fun _ _ => map_modify_congr fun _ => rfl

theorem removeChannelFromGroup_members (h : (members topo.groups).Nodup) :
    (members (removeChannelFromGroup topo groupIdx channelIdx).2.groups).Nodup := by
  unfold removeChannelFromGroup
  split
  · exact h
  split
  · exact h
  · exact h.sublist ((flatMap_modify_sublist fun _ _ => List.eraseIdx_sublist ..).map _)

end Groups

/-! ## Runs -/

/-- A renamed board takes no channel that a group already refers to under the new nickname. -/
def Clear (topo : TopologyConfig) : Op → Prop
  | .renameBoard previousNickname nickname =>
    nickname ≠ "" → boardNicknameInUse topo previousNickname → ¬boardNicknameInUse topo nickname →
      ∀ ref ∈ topo.refs, ref.boardNickname = previousNickname →
        findGroupForBoardChannel topo nickname ref.channelIndex = none
  | _ => True

/-- A rename keeps the members distinct exactly when it is clear. -/
theorem renameBoard_members {topo : TopologyConfig} {previousNickname nickname : String}
    (hbuses : BusesIntact topo.buses) (h : (members topo.groups).Nodup) :
    (members (renameBoard topo previousNickname nickname).2.groups).Nodup ↔
      Clear topo (.renameBoard previousNickname nickname) := by
  have hrefs : (∀ ref ∈ topo.refs, ref.boardNickname = previousNickname →
      findGroupForBoardChannel topo nickname ref.channelIndex = none) ↔
      ∀ channelIndex, (previousNickname, channelIndex) ∈ members topo.groups →
        (nickname, channelIndex) ∉ members topo.groups := by
    simp only [findGroupForBoardChannel_none, members, TopologyConfig.refs, List.mem_map,
      Prod.mk.injEq]
    grind
  obtain ⟨hstay, heq⟩ | ⟨⟨hname, hfound, hfree⟩, heq⟩ :=
    renameBoard_cases hbuses previousNickname nickname
  · rw [heq]
    refine iff_of_true h fun hname hfound hfree => ?_
    exact absurd ⟨hname, hfound, fun hused => absurd hused hfree⟩ hstay
  · rw [heq, members_renameRefs]
    by_cases hsame : nickname = previousNickname
    · subst hsame
      refine iff_of_true ?_ fun _ hfound hfree => absurd hfound hfree
      simpa using h
    · rw [nodup_rename_pair_iff h (Ne.symm hsame), ← hrefs]
      exact ⟨fun hclear _ _ _ => hclear,
        fun hclear => hclear hname hfound fun hused => hsame (hfree hused)⟩

section Step

variable {topo : TopologyConfig}

/-- The half of the buses is kept by every edit. -/
theorem step_buses (op : Op) (h : BusesIntact topo.buses) : BusesIntact (op.step topo).buses := by
  cases op with
  | addBus name port baud => exact addBus_buses h
  | removeBus busIdx => exact removeBus_buses h
  | addBoard busIdx nickname slaveId => exact addBoard_buses h
  | renameBoard previousNickname nickname => exact renameBoard_buses h
  | removeBoard busIdx boardIdx => exact removeBoard_buses h
  | addGroup name =>
    rw [Op.step, Op.call, addGroup_frame]
    exact h
  | renameGroup groupIdx name =>
    rw [Op.step, Op.call, renameGroup_frame]
    exact h
  | removeGroup groupIdx =>
    rw [Op.step, Op.call, removeGroup_frame]
    exact h
  | addChannelToGroup groupIdx boardNickname channelIndex aliasName =>
    rw [Op.step, Op.call, addChannelToGroup_frame]
    exact h
  | renameGroupChannelAlias groupIdx channelIdx aliasName =>
    rw [Op.step, Op.call, renameGroupChannelAlias_frame]
    exact h
  | renameGroupChannelAliasForBoardChannel boardNickname channelIndex aliasName =>
    rw [Op.step, Op.call, renameGroupChannelAliasForBoardChannel_frame]
    exact h
  | removeChannelFromGroup groupIdx channelIdx =>
    rw [Op.step, Op.call, removeChannelFromGroup_frame]
    exact h

theorem renameBoard_groups {previousNickname nickname : String} (hbuses : BusesIntact topo.buses)
    (h : GroupsIntact topo.groups) :
    GroupsIntact (renameBoard topo previousNickname nickname).2.groups := by
  obtain ⟨-, heq⟩ | ⟨-, heq⟩ := renameBoard_cases hbuses previousNickname nickname
  · rw [heq]
    exact h
  · rw [heq]
    refine ⟨?_, ?_, ?_⟩
    · rw [List.map_map]
      exact h.groupNames
    · intro group hgroup
      obtain ⟨group, hmem, rfl⟩ := List.mem_map.mp hgroup
      exact h.groupNamed group hmem
    · intro group hgroup
      obtain ⟨group, hmem, rfl⟩ := List.mem_map.mp hgroup
      have haliases : (renameRefs previousNickname nickname group).channels.map (·.aliasName) =
          group.channels.map (·.aliasName) := by
        unfold renameRefs
        rw [List.map_map]
        refine List.map_congr_left fun ref _ => ?_
        rw [Function.comp_apply]
        split <;> rfl
      rw [haliases]
      exact h.aliases group hmem

theorem step_groups (op : Op) (hbuses : BusesIntact topo.buses) (h : GroupsIntact topo.groups) :
    GroupsIntact (op.step topo).groups := by
  cases op with
  | addBus name port baud =>
    rw [Op.step, Op.call, addBus_frame]
    exact h
  | removeBus busIdx =>
    rw [Op.step, Op.call, removeBus_frame]
    exact h
  | addBoard busIdx nickname slaveId =>
    rw [Op.step, Op.call, addBoard_frame]
    exact h
  | renameBoard previousNickname nickname => exact renameBoard_groups hbuses h
  | removeBoard busIdx boardIdx =>
    rw [Op.step, Op.call, removeBoard_frame]
    exact h
  | addGroup name => exact addGroup_groups h
  | renameGroup groupIdx name => exact renameGroup_groups h
  | removeGroup groupIdx => exact removeGroup_groups h
  | addChannelToGroup groupIdx boardNickname channelIndex aliasName =>
    exact addChannelToGroup_groups h
  | renameGroupChannelAlias groupIdx channelIdx aliasName => exact renameGroupChannelAlias_groups h
  | renameGroupChannelAliasForBoardChannel boardNickname channelIndex aliasName =>
    rw [Op.step, Op.call]
    obtain heq | ⟨groupIdx, channelIdx, heq⟩ :=
      renameGroupChannelAliasForBoardChannel_cases topo boardNickname channelIndex aliasName
    · rw [heq]
      exact h
    · rw [heq]
      exact renameGroupChannelAlias_groups h
  | removeChannelFromGroup groupIdx channelIdx => exact removeChannelFromGroup_groups h

/-- Only a renamed board can make two references to one channel. -/
theorem step_members (op : Op) (hbuses : BusesIntact topo.buses)
    (h : (members topo.groups).Nodup) :
    (members (op.step topo).groups).Nodup ↔ Clear topo op := by
  cases op with
  | addBus name port baud =>
    rw [Op.step, Op.call, addBus_frame]
    exact iff_of_true h trivial
  | removeBus busIdx =>
    rw [Op.step, Op.call, removeBus_frame]
    exact iff_of_true h trivial
  | addBoard busIdx nickname slaveId =>
    rw [Op.step, Op.call, addBoard_frame]
    exact iff_of_true h trivial
  | renameBoard previousNickname nickname => exact renameBoard_members hbuses h
  | removeBoard busIdx boardIdx =>
    rw [Op.step, Op.call, removeBoard_frame]
    exact iff_of_true h trivial
  | addGroup name => exact iff_of_true (addGroup_members h) trivial
  | renameGroup groupIdx name => exact iff_of_true (renameGroup_members h) trivial
  | removeGroup groupIdx => exact iff_of_true (removeGroup_members h) trivial
  | addChannelToGroup groupIdx boardNickname channelIndex aliasName =>
    exact iff_of_true (addChannelToGroup_members h) trivial
  | renameGroupChannelAlias groupIdx channelIdx aliasName =>
    exact iff_of_true (renameGroupChannelAlias_members h) trivial
  | renameGroupChannelAliasForBoardChannel boardNickname channelIndex aliasName =>
    refine iff_of_true ?_ trivial
    rw [Op.step, Op.call]
    obtain heq | ⟨groupIdx, channelIdx, heq⟩ :=
      renameGroupChannelAliasForBoardChannel_cases topo boardNickname channelIndex aliasName
    · rw [heq]
      exact h
    · rw [heq]
      exact renameGroupChannelAlias_members h
  | removeChannelFromGroup groupIdx channelIdx =>
    exact iff_of_true (removeChannelFromGroup_members h) trivial

/-- One edit keeps the integrity exactly when it is clear. -/
theorem step_integrity_iff (op : Op) (h : Integrity topo) :
    Integrity (op.step topo) ↔ Clear topo op := by
  rw [← step_members op h.toBusesIntact h.assigned]
  exact ⟨fun hstep => hstep.assigned, fun hassigned =>
    ⟨step_buses op h.toBusesIntact, step_groups op h.toBusesIntact h.toGroupsIntact, hassigned⟩⟩

end Step

theorem integrity_empty : Integrity .empty where
  ports := List.nodup_nil
  nicknames := List.nodup_nil
  named _ hbus := nomatch hbus
  slaveIds _ hbus := nomatch hbus
  groupNames := List.nodup_nil
  groupNamed _ hgroup := nomatch hgroup
  aliases _ hgroup := nomatch hgroup
  assigned := List.nodup_nil

/-- The integrity holds in every topology that a run passes exactly if each of its renames is
clear. -/
theorem integrity_iff_clear (ops : List Op) :
    Along Op.step (fun topo op => Integrity (op.step topo)) .empty ops ↔
      Along Op.step Clear .empty ops :=
  along_invariant_iff (fun _ op h => step_integrity_iff op h) integrity_empty

/-- A removed board leaves its reference, and the next board takes the name and the reference. -/
theorem not_integrity : ¬Integrity (exec Op.step .empty
    [.addBus "left" "ttyUSB0" 115200, .addBoard 0 "A" 1, .addBoard 0 "B" 2, .addGroup "G",
      .addChannelToGroup 0 "A" 0 "a", .addChannelToGroup 0 "B" 0 "b", .removeBoard 0 0,
      .renameBoard "B" "A"]) :=
  fun h => absurd h.assigned (by decide)

end Topology
