import HvbFirmware.BackendRefinement
import HvbFirmware.FlatStore
import HvbFirmware.MbAdapter

/-!
# The settings on the flash

The controller keeps its records under `vc/sys`, `vc/chN/cfg` and `vc/chN/cal`, the Modbus adapter
keeps its own under `mb/cfg`, and both work on one settings store, whose calls may fail. What the
other modules take the storage to be, a cell for each record, is what this store does: over any
interleaving of the two clients with power cycles, records of a size that no longer fits included.
-/
namespace SettingsStore

open VcTypes VcChannel VcController FlatStore StoredMode BackendRefinement Runs
open VcRuntime (Settings vcSettingsStorage boot)
open MbAdapter (MbAdapterConfig MbState Errno Ret)

/-! ## Names -/

/-- A buffer of `size` characters keeps the last one for the end of the string. -/
def snprintk (size : Nat) (text : List Char) : Key := text.take (size - 1)

inductive Name where
  | sys
  | config (ch : UInt8)
  | cal (ch : UInt8)
  | comm
  deriving DecidableEq, Repr

/-- `vc/ch%u` with what follows. -/
def channelKey (ch : UInt8) (field : List Char) : Key :=
  snprintk 16 ("vc/ch".toList ++ (Nat.toDigits 10 ch.toNat ++ field))

def Name.path : Name → Key
  | .sys => "vc/sys".toList
  | .config ch => channelKey ch "/cfg".toList
  | .cal ch => channelKey ch "/cal".toList
  | .comm => "mb/cfg".toList

/-- No name is cut short. -/
theorem channelKey_eq (ch : UInt8) {field : List Char} (h : field.length = 4) :
    channelKey ch field = "vc/ch".toList ++ (Nat.toDigits 10 ch.toNat ++ field) := by
  have hdigits : (Nat.toDigits 10 ch.toNat).length ≤ 3 :=
    (Nat.length_toDigits_le_iff (by decide) (by decide)).mpr
      (Nat.lt_of_lt_of_le ch.toNat_lt (by decide))
  have hprefix : "vc/ch".toList.length = 5 := by decide
  refine List.take_of_length_le ?_
  simp only [List.length_append, hprefix, h]
  omega

theorem slash_notMem_digits (n : Nat) : '/' ∉ Nat.toDigits 10 n := fun h =>
  absurd (Nat.isDigit_of_mem_toDigits (by decide) (by decide) h) (by decide)

theorem count_channelKey (ch : UInt8) {field : List Char} (h : field.length = 4) :
    (channelKey ch field).count '/' = 1 + field.count '/' := by
  have hprefix : "vc/ch".toList.count '/' = 1 := by decide
  rw [channelKey_eq ch h, List.count_append, List.count_append, hprefix,
    List.count_eq_zero_of_not_mem (slash_notMem_digits _), Nat.zero_add]

theorem channelKey_inj {ch ch' : UInt8} {field field' : List Char} (h : field.length = 4)
    (h' : field'.length = 4) (heq : channelKey ch field = channelKey ch' field') :
    ch = ch' ∧ field = field' := by
  rw [channelKey_eq ch h, channelKey_eq ch' h'] at heq
  have hrest := List.append_cancel_left heq
  obtain ⟨hdigits, hfield⟩ := List.append_inj' hrest (h.trans h'.symm)
  have hnat := congrArg (Nat.ofDigitChars 10 · 0) hdigits
  simp only [Nat.ofDigitChars_ten_toDigits] at hnat
  exact ⟨UInt8.toNat.inj hnat, hfield⟩

/-- What tells the records of the controller from each other and from that of the adapter. -/
def Name.start : Name → Key
  | .sys => "vc/s".toList
  | .config _ | .cal _ => "vc/c".toList
  | .comm => "mb/c".toList

theorem take_path (a : Name) : a.path.take 4 = a.start := by
  have hchannel : ∀ ch {field : List Char}, field.length = 4 →
      (channelKey ch field).take 4 = "vc/c".toList := by
    intro ch field h
    rw [channelKey_eq ch h]
    rfl
  cases a with
  | sys | comm => rfl
  | config ch | cal ch => exact hchannel ch rfl

theorem path_inj {a b : Name} (h : a.path = b.path) : a = b := by
  have hstart := congrArg (List.take 4) h
  rw [take_path, take_path] at hstart
  cases a <;> cases b
  case config.config ch ch' => rw [(channelKey_inj rfl rfl h).1]
  case cal.cal ch ch' => rw [(channelKey_inj rfl rfl h).1]
  case config.cal ch ch' => exact absurd (channelKey_inj rfl rfl h).2 (by decide)
  case cal.config ch ch' => exact absurd (channelKey_inj rfl rfl h).2 (by decide)
  case sys.sys => rfl
  case comm.comm => rfl
  all_goals simp [Name.start] at hstart

/-- The names of channels have two separators, the others one. -/
def Name.depth : Name → Nat
  | .sys | .comm => 1
  | .config _ | .cal _ => 2

theorem count_path (a : Name) : a.path.count '/' = a.depth := by
  cases a with
  | sys | comm => rfl
  | config ch | cal ch => exact count_channelKey ch rfl

theorem four_le_length (a : Name) : 4 ≤ a.path.length := by
  have hlength := congrArg List.length (take_path a)
  rw [List.length_take] at hlength
  have hstart : a.start.length = 4 := by cases a <;> rfl
  omega

/-- What lies below a name has more separators, and starts as the name does. -/
theorem not_below (a b : Name) : ¬ a.path ++ ['/'] <+: b.path := by
  intro h
  have hcount := h.sublist.count_le '/'
  rw [List.count_append, count_path, count_path] at hcount
  have hone : ['/'].count '/' = 1 := rfl
  rw [hone] at hcount
  obtain ⟨rest, hrest⟩ := h
  have hstart := congrArg (List.take 4) hrest
  rw [List.append_assoc, List.take_append_of_le_length (four_le_length a), take_path,
    take_path] at hstart
  cases a <;> cases b <;> simp [Name.depth, Name.start] at hcount hstart

/-- No name lies in the subtree of another. -/
theorem path_flat {a b : Name} (h : InSubtree a.path b.path) : a = b := by
  rcases h with h | h
  · exact (path_inj h).symm
  · exact absurd h (not_below a b)

def names : Directory Name := ⟨Name.path, path_flat⟩

/-! ## The two clients -/

/-- The bytes of the records, as the compiler lays them out. -/
structure Layouts where
  system : Layout SystemConfig
  config : Layout ChannelConfig
  cal : Layout ChannelCalConfig
  comm : Layout MbAdapterConfig

/-- The settings subsystem, the layouts and `VC_MAX_CHANNELS`. -/
structure Flash (σ : Type) where
  sub : Subsystem σ
  layouts : Layouts
  maxChannels : UInt8

/-- What the calls of one operation to the settings come to, zero for success: the one save, and for
each record a delete, a load and whether its value can be read. -/
structure Outcomes where
  save : Int
  delete : Name → Int
  load : Name → Int
  readable : Name → Bool

def Outcomes.fine : Outcomes := ⟨0, fun _ => 0, fun _ => 0, fun _ => true⟩

def errInval : Int := -22

def errIo : Int := -5

section Code

variable {α σ : Type} (F : Flash σ) (o : Outcomes)

/-- `settings_direct_loader`, and the `adapter_settings_loader` that is written like it. A read that
fails is taken to leave the buffer. -/
def settingsDirectLoader (L : Layout α) (len : Nat) (read : Option Bytes) (ctx : α × Bool) :
    Int × α × Bool :=
  if len ≠ L.size then (errInval, ctx)
  else
    match read with
    | none => (errIo, ctx)
    | some value => (0, L.parse value, true)

/-- `settings_load_key`, whose lines `adapter_load_config` has too. -/
def settingsLoadKey (L : Layout α) (a : Name) (dst : α) (s : σ) : Int × α :=
  let r := F.sub.loadSubtreeDirect ⟨o.load a, fun _ => o.readable a⟩ (names.path a)
    (settingsDirectLoader L) (dst, false) s
  (if r.1 < 0 then r.1 else if r.2.2 then 0 else errNoEnt, r.2.1)

/-- `settings_save_one` with the bytes of a record. -/
def settingsSaveOne (L : Layout α) (a : Name) (x : α) (s : σ) : Int × σ :=
  (o.save, F.sub.saveOne o.save (names.path a) (L.bytes x) s)

/-- The names that `settings_erase` deletes. -/
def erasedNames (maxChannels : UInt8) : List Name :=
  .sys :: (List.range maxChannels.toNat).flatMap fun i =>
    [.config (UInt8.ofNat i), .cal (UInt8.ofNat i)]

def settingsErase (s : σ) : Int × σ :=
  (0, names.deleteAll F.sub o.delete (erasedNames F.maxChannels) s)

/-- `vc_settings_storage`, in an operation whose calls come to `o`. -/
def flashStorage : StorageBackend σ where
  saveSystemConfig := some fun cfg s => settingsSaveOne F o F.layouts.system .sys cfg s
  loadSystemConfig := some fun s =>
    let r := settingsLoadKey F o F.layouts.system .sys ⟨.normal, 0⟩ s
    (r.1, r.2, s)
  saveChannelConfig := some fun i cfg s =>
    settingsSaveOne F o F.layouts.config (.config (UInt8.ofNat i)) cfg s
  loadChannelConfig := some fun i buffer s =>
    let r := settingsLoadKey F o F.layouts.config (.config (UInt8.ofNat i)) buffer s
    (r.1, r.2, s)
  saveChannelCal := some fun i cal s =>
    settingsSaveOne F o F.layouts.cal (.cal (UInt8.ofNat i)) cal s
  loadChannelCal := some fun i buffer s =>
    let r := settingsLoadKey F o F.layouts.cal (.cal (UInt8.ofNat i)) buffer s
    (r.1, r.2, s)
  eraseAll := some fun s => settingsErase F o s

end Code

/-! ## A cell for each record -/

section Cells

variable {α : Type} (stopped : Int → Int) (o : Outcomes)

/-- The load of a cell, where the calls come to `o`: an error of the load or of the read, or what
the cell has. -/
def cellLoad (a : Name) (cell : Option α) (buffer : α) : Int × α :=
  if o.load a < 0 then (o.load a, buffer)
  else if o.load a ≠ 0 then (errNoEnt, buffer)
  else if cell.isSome ∧ !o.readable a then
    (if stopped errIo < 0 then stopped errIo else errNoEnt, buffer)
  else VcRuntime.settingsLoadKey cell buffer

/-- The cells that an erase leaves: those whose delete fails. -/
def erasedCells (cells : Settings) : Settings where
  sys := if o.delete .sys = 0 then none else cells.sys
  config i := if o.delete (.config (UInt8.ofNat i)) = 0 then none else cells.config i
  cal i := if o.delete (.cal (UInt8.ofNat i)) = 0 then none else cells.cal i

/-- The storage of `VcRuntime`, where calls may fail. -/
def cellStorage : StorageBackend Settings where
  saveSystemConfig := some fun cfg s => (o.save, if o.save = 0 then s.saveSys cfg else s)
  loadSystemConfig := some fun s =>
    let r := cellLoad stopped o .sys s.sys ⟨.normal, 0⟩
    (r.1, r.2, s)
  saveChannelConfig := some fun i cfg s => (o.save, if o.save = 0 then s.saveConfig i cfg else s)
  loadChannelConfig := some fun i buffer s =>
    let r := cellLoad stopped o (.config (UInt8.ofNat i)) (s.config i) buffer
    (r.1, r.2, s)
  saveChannelCal := some fun i cal s => (o.save, if o.save = 0 then s.saveCal i cal else s)
  loadChannelCal := some fun i buffer s =>
    let r := cellLoad stopped o (.cal (UInt8.ofNat i)) (s.cal i) buffer
    (r.1, r.2, s)
  eraseAll := some fun s => (0, erasedCells o s)

end Cells

theorem cellLoad_fine {α : Type} (stopped : Int → Int) (a : Name) (cell : Option α) (buffer : α) :
    cellLoad stopped .fine a cell buffer = VcRuntime.settingsLoadKey cell buffer := by
  simp [cellLoad, Outcomes.fine]

/-- Where no call fails, that is the storage of `VcRuntime`. -/
theorem cellStorage_fine (stopped : Int → Int) : cellStorage stopped .fine = vcSettingsStorage := by
  simp only [cellStorage, cellLoad_fine]
  rfl

/-- The record that a value holds, if it has the size. -/
def record {α : Type} (L : Layout α) (value : Option Bytes) : Option α :=
  (value.filter fun bytes => bytes.length = L.size).map L.parse

@[simp] theorem record_bytes {α : Type} (L : Layout α) (a : α) :
    record L (some (L.bytes a)) = some a := by
  simp [record, L.length_bytes, L.parse_bytes]

variable {σ : Type}

/-- What is stored under a name. -/
def Flash.cell (F : Flash σ) (s : σ) (a : Name) : Option Bytes := names.cell (F.sub.content s) a

/-- The size of the record under a name. -/
def Flash.size (F : Flash σ) : Name → Nat
  | .sys => F.layouts.system.size
  | .config _ => F.layouts.config.size
  | .cal _ => F.layouts.cal.size
  | .comm => F.layouts.comm.size

/-- Every record has its size, or the settings subsystem keeps the error of the loader to itself. -/
def Readable (F : Flash σ) (s : σ) : Prop :=
  ∀ a, ∀ value ∈ F.cell s a, value.length = F.size a ∨ 0 ≤ F.sub.stopped errInval

/-- The records of the controller. -/
def settings (F : Flash σ) (s : σ) : Settings where
  sys := record F.layouts.system (F.cell s .sys)
  config i :=
    if i < F.maxChannels.toNat then
      record F.layouts.config (F.cell s (.config (UInt8.ofNat i)))
    else none
  cal i :=
    if i < F.maxChannels.toNat then
      record F.layouts.cal (F.cell s (.cal (UInt8.ofNat i)))
    else none

/-- The record of the adapter. -/
def comm (F : Flash σ) (s : σ) : Option MbAdapterConfig :=
  record F.layouts.comm (F.cell s .comm)

variable {F : Flash σ} {o : Outcomes} {s : σ}

/-- A load brings what it brings of the cell. -/
theorem settingsLoadKey_eq {α : Type} (L : Layout α) {a : Name}
    (hclear : names.Clear (F.sub.content s))
    (hread : ∀ value ∈ F.cell s a, value.length = L.size ∨ 0 ≤ F.sub.stopped errInval) (dst : α) :
    settingsLoadKey F o L a dst s =
      cellLoad F.sub.stopped o a (record L (F.cell s a)) dst := by
  by_cases hload : o.load a = 0
  · have hleaf := F.sub.load_leaf (hclear a) (o := ⟨o.load a, fun _ => o.readable a⟩) hload
      (settingsDirectLoader L) (dst, false)
    unfold settingsLoadKey cellLoad
    rw [hleaf, hload]
    have hcell : F.cell s a = F.sub.content s (names.path a) := rfl
    rw [hcell] at hread ⊢
    generalize F.sub.content s (names.path a) = found at hread ⊢
    cases found with
    | none => simp [record, VcRuntime.settingsLoadKey]
    | some value =>
      by_cases hsize : value.length = L.size
      · have hrecord : record L (some value) = some (L.parse value) := by simp [record, hsize]
        rw [hrecord]
        cases hreadable : o.readable a with
        | true => simp [settingsDirectLoader, VcRuntime.settingsLoadKey, hsize]
        | false =>
          have hne : errIo ≠ 0 := by decide
          simp [settingsDirectLoader, hsize, hne]
      · have hrecord : record L (some value) = none := by simp [record, hsize]
        have hpass : ¬ F.sub.stopped errInval < 0 :=
          Int.not_lt.mpr ((hread value rfl).resolve_left hsize)
        have hne : errInval ≠ 0 := by decide
        rw [hrecord]
        simp [settingsDirectLoader, VcRuntime.settingsLoadKey, hsize, hpass, hne]
  · have hfailed := F.sub.load_failed ⟨o.load a, fun _ => o.readable a⟩ (names.path a)
      (settingsDirectLoader L) (dst, false) s hload
    unfold settingsLoadKey cellLoad
    rw [hfailed]
    by_cases hneg : o.load a < 0 <;> simp [hload, hneg]

/-! ## The stores in step -/

/-- What a flash that started with the contents `c₀` and holds `value` as the record of the adapter
keeps, and how the cells follow it. -/
structure Holds (F : Flash σ) (c₀ : Contents) (value : Option Bytes) (s : σ)
    (cells : Settings) : Prop where
  clear : names.Clear (F.sub.content s)
  readable : Readable F s
  settings : settings F s = cells
  comm : F.cell s .comm = value
  others : names.SameOthers c₀ (F.sub.content s)

variable {c₀ : Contents} {value : Option Bytes} {cells : Settings}

/-- A save that succeeds puts the bytes of the record under its name. -/
theorem content_settingsSaveOne {α : Type} (L : Layout α) (a : Name) (x : α) (s : σ) :
    F.sub.content (settingsSaveOne F o L a x s).2 =
      if o.save = 0 then names.put (F.sub.content s) a (some (L.bytes x))
      else F.sub.content s :=
  F.sub.content_save o.save (names.path a) (L.bytes x) s

/-- And changes one cell. -/
theorem cell_save {α : Type} (L : Layout α) (a : Name) (x : α) (s : σ) :
    F.cell (settingsSaveOne F o L a x s).2 =
      if o.save = 0 then Function.update (F.cell s) a (some (L.bytes x)) else F.cell s := by
  unfold Flash.cell
  rw [content_settingsSaveOne]
  split
  · exact names.cell_put (F.sub.content s) a (some (L.bytes x))
  · rfl

theorem Readable.save {α : Type} (h : Readable F s) (L : Layout α) (a : Name) (x : α)
    (hsize : L.size = F.size a) : Readable F (settingsSaveOne F o L a x s).2 := by
  intro b bytes hbytes
  rw [cell_save] at hbytes
  split at hbytes
  · by_cases hb : b = a
    · subst hb
      rw [Function.update_self] at hbytes
      exact .inl (Option.some.inj hbytes ▸ (L.length_bytes x).trans hsize)
    · rw [Function.update_of_ne hb] at hbytes
      exact h b bytes hbytes
  · exact h b bytes hbytes

/-- A save of a record keeps what the flash is relied on for. -/
theorem clear_save {α : Type} (h : names.Clear (F.sub.content s)) (L : Layout α) (a : Name)
    (x : α) : names.Clear (F.sub.content (settingsSaveOne F o L a x s).2) := by
  rw [content_settingsSaveOne]
  split
  · exact h.put a (some (L.bytes x))
  · exact h

theorem others_save {α : Type} (h : names.SameOthers c₀ (F.sub.content s)) (L : Layout α)
    (a : Name) (x : α) :
    names.SameOthers c₀ (F.sub.content (settingsSaveOne F o L a x s).2) := by
  rw [content_settingsSaveOne]
  split
  · exact h.trans (names.sameOthers_put _ a _)
  · exact h

/-- A save of one of the records of the controller. -/
theorem Holds.save {α : Type} (h : Holds F c₀ value s cells) (L : Layout α) (a : Name)
    (ha : a ≠ .comm) (x : α) (hsize : L.size = F.size a) {cells' : Settings}
    (hcells : o.save = 0 → SettingsStore.settings F (settingsSaveOne F o L a x s).2 = cells') :
    Holds F c₀ value (settingsSaveOne F o L a x s).2 (if o.save = 0 then cells' else cells) where
  clear := clear_save h.clear L a x
  readable := h.readable.save L a x hsize
  settings := by
    split
    next hok => exact hcells hok
    next hfailed =>
      have hsame : F.cell (settingsSaveOne F o L a x s).2 = F.cell s := by
        rw [cell_save, if_neg hfailed]
      rw [← h.settings]
      unfold SettingsStore.settings
      rw [hsame]
  comm := by
    rw [cell_save]
    split
    · rw [Function.update_of_ne ha.symm, h.comm]
    · exact h.comm
  others := others_save h.others L a x

theorem ofNat_inj {m : UInt8} {i j : Nat} (hi : i < m.toNat) (hj : j < m.toNat) :
    UInt8.ofNat i = UInt8.ofNat j ↔ i = j := by
  refine ⟨fun h => ?_, congrArg UInt8.ofNat⟩
  have hm := m.toNat_lt
  have hnat := congrArg UInt8.toNat h
  rw [UInt8.toNat_ofNat_of_lt' (Nat.lt_trans hi hm),
    UInt8.toNat_ofNat_of_lt' (Nat.lt_trans hj hm)] at hnat
  exact hnat

theorem settings_saveSys (hok : o.save = 0) (cfg : SystemConfig) :
    settings F (settingsSaveOne F o F.layouts.system .sys cfg s).2 =
      (settings F s).saveSys cfg := by
  simp [settings, Settings.saveSys, cell_save, hok]

/-- A save of the record of one channel changes the cell of that channel. -/
theorem cells_save {α : Type} (L : Layout α) (name : UInt8 → Name) (c : Name → Option Bytes)
    (hname : ∀ a b, name a = name b ↔ a = b) {m : UInt8} {i : Nat} (hi : i < m.toNat) (x : α) :
    (fun j => if j < m.toNat then
        record L (Function.update c (name (UInt8.ofNat i)) (some (L.bytes x))
          (name (UInt8.ofNat j))) else none) =
      fun j => if j = i then some x else if j < m.toNat then
        record L (c (name (UInt8.ofNat j))) else none := by
  funext j
  by_cases hj : j < m.toNat
  · have hcell : name (UInt8.ofNat j) = name (UInt8.ofNat i) ↔ j = i :=
      (hname _ _).trans (ofNat_inj hj hi)
    simp only [Function.update_apply, hj, hcell]
    by_cases hji : j = i <;> simp [hji]
  · have hji : j ≠ i := by omega
    simp [hj, hji]

theorem settings_saveConfig (hok : o.save = 0) {i : Nat} (hi : i < F.maxChannels.toNat)
    (cfg : ChannelConfig) :
    settings F (settingsSaveOne F o F.layouts.config (.config (UInt8.ofNat i)) cfg s).2 =
      (settings F s).saveConfig i cfg := by
  have hcells := cells_save F.layouts.config .config (F.cell s) (by simp) hi cfg
  unfold settings Settings.saveConfig
  rw [cell_save, if_pos hok, hcells]
  simp

theorem settings_saveCal (hok : o.save = 0) {i : Nat} (hi : i < F.maxChannels.toNat)
    (cal : ChannelCalConfig) :
    settings F (settingsSaveOne F o F.layouts.cal (.cal (UInt8.ofNat i)) cal s).2 =
      (settings F s).saveCal i cal := by
  have hcells := cells_save F.layouts.cal .cal (F.cell s) (by simp) hi cal
  unfold settings Settings.saveCal
  rw [cell_save, if_pos hok, hcells]
  simp

theorem mem_erasedNames {m : UInt8} {i : Nat} (hi : i < m.toNat) :
    .config (UInt8.ofNat i) ∈ erasedNames m ∧ .cal (UInt8.ofNat i) ∈ erasedNames m := by
  have hmem : i ∈ List.range m.toNat := List.mem_range.mpr hi
  refine ⟨List.mem_cons_of_mem _ ?_, List.mem_cons_of_mem _ ?_⟩ <;>
    exact List.mem_flatMap.mpr ⟨i, hmem, by simp⟩

theorem comm_notMem_erasedNames (m : UInt8) : .comm ∉ erasedNames m := by simp [erasedNames]

theorem cell_erase (a : Name) : F.cell (settingsErase F o s).2 a =
    if a ∈ erasedNames F.maxChannels ∧ o.delete a = 0 then none else F.cell s a :=
  names.cell_deleteAll ..

/-- An erase empties the cells of the controller, but for those that it fails to delete. -/
theorem settings_erase :
    settings F (settingsErase F o s).2 = erasedCells o (settings F s) := by
  have hsys : .sys ∈ erasedNames F.maxChannels := List.mem_cons_self
  unfold settings erasedCells
  simp only [cell_erase, hsys, true_and]
  congr 1
  · split <;> rfl
  all_goals
    funext i
    split
    · simp only [mem_erasedNames ‹_›, true_and]
      split <;> rfl
    · simp

theorem Holds.erase (h : Holds F c₀ value s cells) :
    Holds F c₀ value (settingsErase F o s).2 (erasedCells o cells) where
  clear := h.clear.deleteAll _
  readable a bytes hbytes := by
    rw [cell_erase] at hbytes
    split at hbytes
    · cases hbytes
    · exact h.readable a bytes hbytes
  settings := by rw [settings_erase, h.settings]
  comm := by
    rw [cell_erase, if_neg fun hmem => comm_notMem_erasedNames _ hmem.1, h.comm]
  others := h.others.trans (names.sameOthers_deleteAll _ s)

/-- A load of one of the records of the controller. -/
theorem Holds.load {α : Type} (h : Holds F c₀ value s cells) (L : Layout α) (a : Name)
    (hsize : F.size a = L.size) (dst : α) {cell : Option α}
    (hcell : record L (F.cell s a) = cell) :
    settingsLoadKey F o L a dst s = cellLoad F.sub.stopped o a cell dst := by
  rw [settingsLoadKey_eq L h.clear (hsize ▸ h.readable a), hcell]

theorem Holds.loaded {α : Type} (h : Holds F c₀ value s cells) {x y : Int × α} (hxy : x = y) :
    Loaded (Holds F c₀ value) (x.1, x.2, s) (y.1, y.2, cells) := by
  subst hxy
  exact ⟨rfl, rfl, h⟩

section Backend

variable (h : Holds F c₀ value s cells) {i : Nat} (hi : i < F.maxChannels.toNat)

include h

theorem Holds.saveSys (cfg : SystemConfig) :
    Holds F c₀ value (settingsSaveOne F o F.layouts.system .sys cfg s).2
      (if o.save = 0 then cells.saveSys cfg else cells) :=
  h.save F.layouts.system .sys nofun cfg rfl fun hok => h.settings ▸ settings_saveSys hok cfg

include hi

theorem Holds.saveConfig (cfg : ChannelConfig) :
    Holds F c₀ value
      (settingsSaveOne F o F.layouts.config (.config (UInt8.ofNat i)) cfg s).2
      (if o.save = 0 then cells.saveConfig i cfg else cells) :=
  h.save F.layouts.config (.config _) nofun cfg rfl fun hok =>
    h.settings ▸ settings_saveConfig hok hi cfg

theorem Holds.saveCal (cal : ChannelCalConfig) :
    Holds F c₀ value (settingsSaveOne F o F.layouts.cal (.cal (UInt8.ofNat i)) cal s).2
      (if o.save = 0 then cells.saveCal i cal else cells) :=
  h.save F.layouts.cal (.cal _) nofun cal rfl fun hok =>
    h.settings ▸ settings_saveCal hok hi cal

theorem Holds.config_eq :
    record F.layouts.config (F.cell s (.config (UInt8.ofNat i))) = cells.config i := by
  rw [← h.settings]
  exact (if_pos hi).symm

theorem Holds.cal_eq :
    record F.layouts.cal (F.cell s (.cal (UInt8.ofNat i))) = cells.cal i := by
  rw [← h.settings]
  exact (if_pos hi).symm

end Backend

/-- The flash answers the controller as the cells do. -/
theorem refines_flash (F : Flash σ) (o : Outcomes) (c₀ : Contents) (value : Option Bytes) :
    Refines (Holds F c₀ value) F.maxChannels.toNat (flashStorage F o)
      (cellStorage F.sub.stopped o) where
  saveSystemConfig := .some fun cfg _ _ h => ⟨rfl, h.saveSys cfg⟩
  loadSystemConfig := .some fun _ _ h =>
    h.loaded (h.load F.layouts.system .sys rfl _ (congrArg Settings.sys h.settings))
  saveChannelConfig := .some fun _ hi cfg _ _ h => ⟨rfl, h.saveConfig hi cfg⟩
  loadChannelConfig := .some fun i hi _ _ _ h =>
    h.loaded (h.load F.layouts.config (.config (UInt8.ofNat i)) rfl _ (h.config_eq hi))
  saveChannelCal := .some fun _ hi cal _ _ h => ⟨rfl, h.saveCal hi cal⟩
  loadChannelCal := .some fun i hi _ _ _ h =>
    h.loaded (h.load F.layouts.cal (.cal (UInt8.ofNat i)) rfl _ (h.cal_eq hi))
  eraseAll := .some fun _ _ h => h.erase

/-! ## A board -/

/-- `struct vc_system_config` with enumerations of 32 bits. -/
def systemLayout : Layout SystemConfig :=
  (((Layout.enumeration OperatingMode.toValue OperatingMode.ofValue .other fun mode => by
    cases mode <;> first | exact .inl rfl | exact .inr rfl).pair Layout.u16).padded 2).via
    (fun cfg => (cfg.operatingMode, cfg.startupChannelPolicy)) (fun r => ⟨r.1, r.2⟩) fun _ => rfl

def policyLayout : Layout RecoveryPolicyMode :=
  Layout.enumeration RecoveryPolicyMode.toValue RecoveryPolicyMode.ofValue .other fun mode => by
    cases mode <;> first | exact .inl rfl | exact .inr rfl

def protectionLayout : Layout ProtectionMode :=
  Layout.enumeration ProtectionMode.toValue ProtectionMode.ofValue .other fun mode => by
    cases mode <;> first | exact .inl rfl | exact .inr rfl

def actionLayout : Layout OutputAction :=
  Layout.enumeration OutputAction.toValue OutputAction.ofValue .other fun action => by
    cases action <;> first | exact .inl rfl | exact .inr rfl

open Layout in
/-- `struct vc_channel_config`. -/
def configLayout : Layout ChannelConfig :=
  (i16.pair ((bool.padded 1).pair (u16.pair (u16.pair (u16.pair (u16.pair (policyLayout.pair
    (u16.pair (u16.pair (u16.pair (u16.pair (protectionLayout.pair (actionLayout.pair
      (i16.pair u16)))))))))))))).via
    (fun cfg => (cfg.configuredTargetVoltage, cfg.configuredOutputEnabled, cfg.rampUpStep,
      cfg.rampUpInterval, cfg.rampDownStep, cfg.rampDownInterval, cfg.recoveryPolicyMode,
      cfg.autoRetryDelay, cfg.autoRetryMaxCount, cfg.autoRetryWindow, cfg.currentSafeBandPct,
      cfg.currentProtectionMode, cfg.currentProtectionOutputAction, cfg.currentLimitThreshold,
      cfg.autoDerateStep))
    (fun (a, b, c, d, e, f, g, h, i, j, l, m, n, o, q) =>
      ⟨a, b, c, d, e, f, g, h, i, j, l, m, n, o, q⟩) fun _ => rfl

open Layout in
/-- `struct vc_channel_cal_config`. -/
def calLayout : Layout ChannelCalConfig :=
  (u16.pair (i16.pair (u16.pair (i16.pair (u16.pair (i16.pair (i16.pair (i16.pair i16)))))))).via
    (fun cal => (cal.outputCalibK, cal.outputCalibB, cal.measuredVoltageCalibK,
      cal.measuredVoltageCalibB, cal.measuredCurrentCalibK, cal.measuredCurrentCalibB,
      cal.outputCalibKExp, cal.measuredVoltageCalibKExp, cal.measuredCurrentCalibKExp))
    (fun (a, b, c, d, e, f, g, h, i) => ⟨a, b, c, d, e, f, g, h, i⟩) fun _ => rfl

/-- `struct mb_adapter_config`. -/
def commLayout : Layout MbAdapterConfig :=
  (Layout.u16.pair Layout.u16).via (fun cfg => (cfg.slaveAddress, cfg.baudRateCode))
    (fun r => ⟨r.1, r.2⟩) fun _ => rfl

def hvbLayouts : Layouts := ⟨systemLayout, configLayout, calLayout, commLayout⟩

/-! ## Both clients -/

/-- What happens on a board: a call of the controller, a power cycle, a save or a load of the
adapter. -/
inductive Event where
  | call (op : ControllerOp Unit)
  | reboot
  | adapterSave (cfg : MbAdapterConfig)
  | adapterLoad (buffer : MbAdapterConfig)

inductive Answer where
  | status (st : VcStatus)
  | saved (ret : Ret)
  | loaded (ret : Except Errno MbAdapterConfig)

def errnoOf (rc : Int) : Errno :=
  if rc = -2 then .noEnt
  else if rc = -12 then .noMem
  else if rc = -19 then .noDev
  else if rc = -22 then .inval
  else if rc = -134 then .notSup
  else .other rc.natAbs

def retOf (rc : Int) : Ret := if rc = 0 then .ok () else .error (errnoOf rc)

/-- On the flash. -/
def flashStep (F : Flash σ) (k : Kconfig) (nodes : List Node) (ctrl : Controller σ)
    (event : Event × Outcomes) : Answer × Controller σ :=
  match event.1 with
  | .call op =>
    let backend := flashStorage F event.2
    let r := (opOver backend op).call k (rewire backend ctrl)
    (.status r.1, r.2)
  | .reboot =>
    (.status .ok, autoLoad k (flashStorage F event.2) (VcController.init k nodes ctrl.store))
  | .adapterSave cfg =>
    let r := settingsSaveOne F event.2 F.layouts.comm .comm cfg ctrl.store
    (.saved (retOf r.1), { ctrl with store := r.2 })
  | .adapterLoad buffer =>
    let r := settingsLoadKey F event.2 F.layouts.comm .comm buffer ctrl.store
    (.loaded (if r.1 = 0 then .ok r.2 else .error (errnoOf r.1)), ctrl)

/-- What the adapter is told about its record, where the calls come to `o`. -/
def Outcomes.adapter (o : Outcomes) (stopped : Int → Int) (stored : Option MbAdapterConfig) :
    MbAdapter.Outcomes :=
  { MbAdapter.Outcomes.fine with
    save := retOf o.save
    load := retOf (cellLoad stopped o .comm stored ⟨0, 0⟩).1 }

/-- On cells, with the adapter as `MbAdapter` has it, of whose state only the record counts. -/
def cellStep (stopped : Int → Int) (k : Kconfig) (nodes : List Node)
    (s : Controller Settings × MbState) (event : Event × Outcomes) :
    Answer × Controller Settings × MbState :=
  let answers := event.2.adapter stopped s.2.stored
  match event.1 with
  | .call op =>
    let backend := cellStorage stopped event.2
    let r := (opOver backend op).call k (rewire backend s.1)
    (.status r.1, r.2, s.2)
  | .reboot =>
    (.status .ok, autoLoad k (cellStorage stopped event.2) (VcController.init k nodes s.1.store),
      s.2)
  | .adapterSave cfg =>
    let r := MbAdapter.adapterSaveConfig answers cfg s.2
    (.saved r.1, s.1, r.2)
  | .adapterLoad _ => (.loaded (MbAdapter.adapterLoadConfig answers s.2), s)

abbrev Both (σ : Type) := Controller σ × Controller Settings × MbState

/-- One event on both. -/
def bothStep (F : Flash σ) (k : Kconfig) (nodes : List Node) (p : Both σ)
    (event : Event × Outcomes) : Both σ :=
  ((flashStep F k nodes p.1 event).2, (cellStep F.sub.stopped k nodes p.2 event).2)

def SameAnswer (F : Flash σ) (k : Kconfig) (nodes : List Node) (p : Both σ)
    (event : Event × Outcomes) : Prop :=
  (flashStep F k nodes p.1 event).1 = (cellStep F.sub.stopped k nodes p.2 event).1

/-- Both before the first boot. -/
def bothUnbooted (F : Flash σ) (k : Kconfig) (nodes : List Node) (s : σ) (mb : MbState) :
    Both σ :=
  (VcController.init k nodes s, VcController.init k nodes (settings F s),
    { mb with stored := comm F s })

/-- The flash and the cells of both clients in step. -/
def InStep (F : Flash σ) (c₀ : Contents) (p : Both σ) : Prop :=
  ∃ value A B, record F.layouts.comm value = p.2.2.stored ∧
    Related (Holds F c₀ value) F.maxChannels.toNat A B p.1 p.2.1

theorem Holds.adapterSave (h : Holds F c₀ value s cells) (cfg : MbAdapterConfig) :
    Holds F c₀ (if o.save = 0 then some (F.layouts.comm.bytes cfg) else value)
      (settingsSaveOne F o F.layouts.comm .comm cfg s).2 cells where
  clear := clear_save h.clear F.layouts.comm .comm cfg
  readable := h.readable.save F.layouts.comm .comm cfg rfl
  settings := by
    rw [← h.settings]
    unfold SettingsStore.settings
    rw [cell_save]
    split <;> simp
  comm := by
    rw [cell_save]
    split
    · exact Function.update_self ..
    · exact h.comm
  others := others_save h.others F.layouts.comm .comm cfg

/-- Where no call fails, a power cycle is the boot of `VcRuntime`. -/
theorem boot_eq (stopped : Int → Int) (k : Kconfig) (nodes : List Node) (cells : Settings) :
    VcRuntime.boot k nodes cells =
      autoLoad k (cellStorage stopped .fine) (VcController.init k nodes cells) := by
  rw [cellStorage_fine]
  exact (autoLoad_settings k _).symm

/-- A load that fails answers an error, and one that does not brings what is there. -/
theorem cellLoad_cases {α : Type} (stopped : Int → Int) (a : Name) (cell : Option α) :
    (∃ rc, rc ≠ 0 ∧ ∀ buffer, cellLoad stopped o a cell buffer = (rc, buffer)) ∨
      ∀ buffer, cellLoad stopped o a cell buffer = VcRuntime.settingsLoadKey cell buffer := by
  have hnoEnt : errNoEnt ≠ 0 := by decide
  unfold cellLoad
  split
  next hneg => exact .inl ⟨o.load a, Int.ne_of_lt hneg, fun _ => rfl⟩
  split
  next => exact .inl ⟨errNoEnt, hnoEnt, fun _ => rfl⟩
  split
  next =>
    refine .inl ⟨_, ?_, fun _ => rfl⟩
    split
    next hneg => exact Int.ne_of_lt hneg
    next => exact hnoEnt
  next => exact .inr fun _ => rfl

/-- The adapter hears of its cell what a load brings. -/
theorem adapterLoad_eq (stopped : Int → Int) (buffer : MbAdapterConfig) (mb : MbState) :
    let r := cellLoad stopped o .comm mb.stored buffer
    MbAdapter.adapterLoadConfig (o.adapter stopped mb.stored) mb =
      if r.1 = 0 then .ok r.2 else .error (errnoOf r.1) := by
  intro r
  have hanswer : (o.adapter stopped mb.stored).load =
      retOf (cellLoad stopped o .comm mb.stored ⟨0, 0⟩).1 := rfl
  unfold MbAdapter.adapterLoadConfig
  rw [hanswer]
  rcases cellLoad_cases (o := o) stopped .comm mb.stored with ⟨rc, hrc, hload⟩ | hload
  · rw [show r = _ from hload buffer, hload, retOf, if_neg hrc, if_neg hrc]
  · rw [show r = _ from hload buffer, hload]
    cases mb.stored with
    | none => rfl
    | some cfg => rfl

variable {k : Kconfig} {nodes : List Node} {p : Both σ}

theorem inStep_bothStep (hnodes : nodes.length ≤ F.maxChannels.toNat) (h : InStep F c₀ p)
    (event : Event × Outcomes) :
    SameAnswer F k nodes p event ∧ InStep F c₀ (bothStep F k nodes p event) := by
  obtain ⟨value, A, B, hvalue, hrelated⟩ := h
  obtain ⟨event, o⟩ := event
  have hrefines := refines_flash F o c₀ value
  cases event with
  | call op =>
    have hop : ∀ backend, opOver (flashStorage F o) op = .setStorageBackend (some backend) →
        backend = flashStorage F o := by
      intro backend h
      cases op with
      | setStorageBackend given =>
        cases given with
        | none => exact absurd h (by simp [opOver])
        | some given => simpa [opOver] using h.symm
      | _ => exact absurd h nofun
    have hcall := (hrelated.rewire (flashStorage F o) (cellStorage F.sub.stopped o)).call hrefines k
      (opOver (flashStorage F o) op) hop
    rw [opOver_opOver] at hcall
    exact ⟨congrArg Answer.status hcall.1, value, _, _, hvalue, hcall.2⟩
  | reboot => exact ⟨rfl, value, _, _, hvalue, related_boot hrefines k hnodes hrelated.store⟩
  | adapterSave cfg =>
    refine ⟨?_, if o.save = 0 then some (F.layouts.comm.bytes cfg) else value, A, B, ?_,
      hrelated.withStore (hrelated.store.adapterSave cfg)⟩
    · by_cases hok : o.save = 0 <;>
        simp [SameAnswer, flashStep, cellStep, settingsSaveOne, Outcomes.adapter, retOf,
          MbAdapter.adapterSaveConfig, hok]
    · by_cases hok : o.save = 0 <;>
        simp [bothStep, cellStep, Outcomes.adapter, retOf, MbAdapter.adapterSaveConfig, hok, hvalue]
  | adapterLoad buffer =>
    refine ⟨?_, value, A, B, hvalue, hrelated⟩
    have hcell : record F.layouts.comm (F.cell p.1.store .comm) = p.2.2.stored :=
      (congrArg (record F.layouts.comm) hrelated.store.comm).trans hvalue
    have hload := hrelated.store.load (o := o) F.layouts.comm .comm rfl buffer hcell
    have hadapter := adapterLoad_eq (o := o) F.sub.stopped buffer p.2.2
    rw [← hload] at hadapter
    exact (congrArg Answer.loaded hadapter).symm

theorem inStep_unbooted (hnodes : nodes.length ≤ F.maxChannels.toNat)
    (hclear : names.Clear (F.sub.content s)) (hread : Readable F s) (mb : MbState) :
    InStep F (F.sub.content s) (bothUnbooted F k nodes s mb) := by
  have hholds : Holds F (F.sub.content s) (F.cell s .comm) s (settings F s) :=
    ⟨hclear, hread, rfl, rfl, .refl _⟩
  refine ⟨F.cell s .comm, flashStorage F .fine, cellStorage F.sub.stopped .fine, rfl, rfl, ?_,
    .inl ⟨rfl, rfl⟩, hholds⟩
  exact Nat.le_trans (Nat.le_of_eq (List.length_map _)) hnodes

/-- The flash is as good as a cell for each record: whatever the controller and the adapter do, in
any order and over power cycles, and whichever of the calls to the settings fail, every call answers
as it does on the cells and leaves the controller as it is there, the cells are what is stored, and
what else the flash holds stays. -/
theorem flash_refines_cells (F : Flash σ) (k : Kconfig) (nodes : List Node)
    (hnodes : nodes.length ≤ F.maxChannels.toNat) {s : σ}
    (hclear : names.Clear (F.sub.content s)) (hread : Readable F s) (mb : MbState)
    (events : List (Event × Outcomes)) :
    let p := exec (bothStep F k nodes) (bothUnbooted F k nodes s mb) events
    Along (bothStep F k nodes) (SameAnswer F k nodes) (bothUnbooted F k nodes s mb) events ∧
      onto p.1 p.2.1.storage p.2.1.store = p.2.1 ∧ settings F p.1.store = p.2.1.store ∧
      comm F p.1.store = p.2.2.stored ∧
      names.SameOthers (F.sub.content s) (F.sub.content p.1.store) := by
  have hstart := inStep_unbooted (k := k) hnodes hclear hread mb
  have hstep : ∀ p (event : Event × Outcomes), InStep F (F.sub.content s) p → True →
      InStep F (F.sub.content s) (bothStep F k nodes p event) :=
    fun _ event h _ => (inStep_bothStep hnodes h event).2
  have hall : Along (bothStep F k nodes) (fun _ _ => True) (bothUnbooted F k nodes s mb) events :=
    along_of_forall (fun _ _ _ => trivial) _
  intro p
  obtain ⟨value, A, B, hvalue, hrelated⟩ : InStep F (F.sub.content s) p :=
    exec_invariant hstep hstart hall
  refine ⟨Along.of_invariant hstep (fun _ event h _ => (inStep_bothStep hnodes h event).1) hstart
    hall, hrelated.same, hrelated.store.settings, ?_, hrelated.store.others⟩
  exact (congrArg (record F.layouts.comm) hrelated.store.comm).trans hvalue

def hvbFlash : Flash (AList fun _ : Key => Bytes) := ⟨listed, hvbLayouts, 1⟩

/-- A flash on which the record of the adapter was cut short. The first save is refused, the record
of the adapter cannot be read once, and an erase does not get the configuration deleted. -/
theorem flash_refines_cells_hvb :
    let worn := listed.saveOne 0 (names.path .comm) [1, 2, 3] ∅
    let fine := Outcomes.fine
    let events : List (Event × Outcomes) := [(.reboot, fine),
      (.call (.channelParamAction 0 .save), { fine with save := -28 }),
      (.call (.channelParamAction 0 .save), fine), (.adapterSave ⟨5, 1⟩, fine),
      (.adapterLoad ⟨1, 0⟩, { fine with readable := fun a => a ≠ .comm }),
      (.call (.systemParamAction .factoryReset),
        { fine with delete := fun a => if a = .config 0 then -5 else 0 }),
      (.reboot, fine)]
    let start := bothUnbooted hvbFlash Kconfig.hvb [dacNode] worn
      ⟨⟨⟨0, 0⟩, ⟨0, 0⟩⟩, false, true, none, none⟩
    let p := exec (bothStep hvbFlash Kconfig.hvb [dacNode]) start events
    (Along (bothStep hvbFlash Kconfig.hvb [dacNode]) (SameAnswer hvbFlash Kconfig.hvb [dacNode])
        start events ∧
      onto p.1 p.2.1.storage p.2.1.store = p.2.1 ∧ settings hvbFlash p.1.store = p.2.1.store ∧
      comm hvbFlash p.1.store = p.2.2.stored ∧
      names.SameOthers (listed.content worn) (listed.content p.1.store)) ∧
    comm hvbFlash worn = none ∧ p.2.2.stored = some ⟨5, 1⟩ ∧ (p.2.1.store.config 0).isSome := by
  refine ⟨flash_refines_cells hvbFlash Kconfig.hvb [dacNode] (Nat.le_refl 1) ?_ ?_ _ _,
    by decide +kernel⟩
  · have hworn : listed.content (listed.saveOne 0 (names.path .comm) [1, 2, 3] ∅) =
        names.put (fun _ => none) .comm (some [1, 2, 3]) := listed.save_done ..
    exact hworn ▸ names.clear_empty.put .comm (some [1, 2, 3])
  · exact fun _ _ _ => .inr (Int.le_refl 0)

end SettingsStore
