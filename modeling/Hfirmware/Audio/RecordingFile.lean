/-
The file of a recording. Its path ends in a number of four digits, counted up until a
file of that name does not exist.
-/

import Hfirmware.CString

namespace Hfirmware.Audio.RecordingFile

open List
open CString

abbrev Path := List UInt8

def ascii (character : Char) : UInt8 := UInt8.ofNat character.toNat

def recRoot0 : Path := [ '0', ':', '/', '/'].map ascii

def recRoot1 : Path := [ '1', ':', '/', '/'].map ascii

def recDirnameLen : Nat := 32

def recFilefixLen : Nat := 16

def recPathLen : Nat := recDirnameLen + recFilefixLen + 6

structure RecCfg where
  u8DirName : Text recDirnameLen
  u8FilePrefix : Text recFilefixLen
  u32MaxNum : Nat

def defaultCfg : RecCfg :=
  { u8DirName := ⟨[ 'R', 'E', 'C', 'O', 'R', 'D', 'E', 'R'].map ascii, by decide, by decide⟩
    u8FilePrefix := ⟨[ 'R', 'E', 'C'].map ascii, by decide, by decide⟩
    u32MaxNum := 10000 }

def recorderCreate (stored : Option RecCfg) : RecCfg :=
  let cfg := stored.getD defaultCfg
  { cfg with u32MaxNum := if 10000 < cfg.u32MaxNum then 10000 else cfg.u32MaxNum }

/-- The file system: which files exist, and which of them can be opened. The memory ends
`extent` bytes behind the start of the path. -/
structure Disk where
  (musicPos extent : Nat)
  fStat : Path → Bool
  fOpen : Path → Bool

inductive FsCall where
  | fMkdir (path : Path)
  | fStat (path : Path)
  | fOpen (path : Path)
  | saveCurrPath (path : Path)

def Disk.root (disk : Disk) : Path := if disk.musicPos = 0 then recRoot0 else recRoot1

def Disk.pathAt (disk : Disk) (memory : Nat → UInt8) : Path := read memory 0 disk.extent

def recwrCreateDir (disk : Disk) (cfg : RecCfg) (memory : Nat → UInt8) :
    (Nat → UInt8) × Nat × List FsCall :=
  let zeroed := ByteImage.patch memory 0 recPathLen fun _ => 0
  let rooted := store zeroed 0 disk.root
  let named := store rooted disk.root.length cfg.u8DirName.bytes
  let tail := disk.root.length + cfg.u8DirName.bytes.length
  (store named tail [ascii '/'], tail + 1, [.fMkdir (disk.pathAt named)])

def recwrGetPath (cfg : RecCfg) (memory : Nat → UInt8) (address u32Idx : Nat) : Nat → UInt8 :=
  let thousands := u32Idx % 10000
  let hundreds := thousands % 1000
  let tens := hundreds % 100
  let prefixed := store memory address cfg.u8FilePrefix.bytes
  let numbered := store prefixed (address + cfg.u8FilePrefix.bytes.length)
    [UInt8.ofNat (thousands / 1000 + 48), UInt8.ofNat (hundreds / 100 + 48),
      UInt8.ofNat (tens / 10 + 48), UInt8.ofNat (tens % 10 + 48)]
  store numbered (address + cfg.u8FilePrefix.bytes.length + 4) ([ '.', 'w', 'a', 'v'].map ascii)

def nameLoop (disk : Disk) (cfg : RecCfg) (address : Nat) :
    Nat → Nat → (Nat → UInt8) → (Nat → UInt8) × List FsCall
  | 0, _, memory => (memory, [])
  | count + 1, i, memory =>
    let named := recwrGetPath cfg memory address i
    let path := disk.pathAt named
    if disk.fStat path then
      let (after, calls) := nameLoop disk cfg address count (i + 1) named
      (after, .fStat path :: calls)
    else (named, [.fStat path])

/-- The memory after `_recwr_createFile`, its calls of the file system, and whether it returns
a file. -/
structure Created where
  memory : Nat → UInt8
  calls : List FsCall
  file : Bool

def recwrCreateFile (disk : Disk) (fileAlloc pathAlloc : Bool) (cfg : RecCfg)
    (memory : Nat → UInt8) : Created :=
  if fileAlloc = false then ⟨memory, [], false⟩
  else if pathAlloc = false then ⟨memory, [], false⟩
  else
    let (directory, address, made) := recwrCreateDir disk cfg memory
    let (named, searched) := nameLoop disk cfg address cfg.u32MaxNum 0 directory
    let path := disk.pathAt named
    if disk.fOpen path then ⟨named, made ++ searched ++ [.fOpen path, .saveCurrPath path], true⟩
    else ⟨named, made ++ searched ++ [.fOpen path], false⟩

def digit (value : Nat) : UInt8 := UInt8.ofNat (value % 10 + 48)

def recordingName (cfg : RecCfg) (i : Nat) : Path :=
  cfg.u8FilePrefix.bytes ++ [digit (i / 1000), digit (i / 100), digit (i / 10), digit i] ++
    [ '.', 'w', 'a', 'v'].map ascii

def recordingDir (disk : Disk) (cfg : RecCfg) : Path :=
  disk.root ++ cfg.u8DirName.bytes ++ [ascii '/']

def recordingPath (disk : Disk) (cfg : RecCfg) (i : Nat) : Path :=
  recordingDir disk cfg ++ recordingName cfg i

def FsCall.opened : FsCall → Option Path
  | .fOpen path => some path
  | _ => none

structure FileChoice (disk : Disk) (cfg : RecCfg) (before : Nat → UInt8) (created : Created) :
    Prop where
  terminated : ∃ address < recPathLen, created.memory address = 0
  inside : ∀ address, recPathLen ≤ address → created.memory address = before address
  opens : ∀ i < cfg.u32MaxNum, disk.fStat (recordingPath disk cfg i) = false →
    (∀ j < i, disk.fStat (recordingPath disk cfg j) = true) →
    created.calls.filterMap FsCall.opened = [recordingPath disk cfg i]
  full : (∀ i < cfg.u32MaxNum, disk.fStat (recordingPath disk cfg i) = true) →
    created.calls.filterMap FsCall.opened = [] ∧ created.file = false
  keeps : ∀ path ∈ created.calls.filterMap FsCall.opened, disk.fStat path = false

section

variable (disk : Disk) (cfg : RecCfg) (memory : Nat → UInt8)

def zeroed : Nat → UInt8 := ByteImage.patch memory 0 recPathLen fun _ => 0

theorem recwrCreateDir_eq : ∃ call, recwrCreateDir disk cfg memory =
    (store (zeroed memory) 0 (recordingDir disk cfg), (recordingDir disk cfg).length, [call]) ∧
      call.opened = none := by
  refine ⟨.fMkdir (disk.pathAt (store (zeroed memory) 0 (disk.root ++ cfg.u8DirName.bytes))),
    ?_, rfl⟩
  have tail : (recordingDir disk cfg).length = (disk.root ++ cfg.u8DirName.bytes).length + 1 := by
    unfold recordingDir
    rw [length_append]
    rfl
  unfold recwrCreateDir
  dsimp only
  rw [← zeroed, store_append_start, ← length_append, store_append_start, tail]
  rfl

theorem recwrGetPath_eq (address i : Nat) :
    recwrGetPath cfg memory address i = store memory address (recordingName cfg i) := by
  have digits : [UInt8.ofNat (i % 10000 / 1000 + 48), UInt8.ofNat (i % 10000 % 1000 / 100 + 48),
      UInt8.ofNat (i % 10000 % 1000 % 100 / 10 + 48),
      UInt8.ofNat (i % 10000 % 1000 % 100 % 10 + 48)] =
      [digit (i / 1000), digit (i / 100), digit (i / 10), digit i] := by
    have first : i % 10000 / 1000 = i / 1000 % 10 := by omega
    have second : i % 10000 % 1000 / 100 = i / 100 % 10 := by omega
    have third : i % 10000 % 1000 % 100 / 10 = i / 10 % 10 := by omega
    have fourth : i % 10000 % 1000 % 100 % 10 = i % 10 := by omega
    rw [first, second, third, fourth]
    rfl
  unfold recwrGetPath recordingName
  dsimp only
  have tail : address + cfg.u8FilePrefix.bytes.length + 4 = address + (cfg.u8FilePrefix.bytes ++
        [digit (i / 1000), digit (i / 100), digit (i / 10), digit i]).length := by
    rw [length_append, add_assoc]
    rfl
  rw [digits, store_append, tail, store_append]

theorem recordingName_length (i : Nat) :
    (recordingName cfg i).length = cfg.u8FilePrefix.bytes.length + 8 := by
  unfold recordingName
  rw [length_append, length_append]
  rfl

theorem root_length : disk.root.length = 4 := by
  unfold Disk.root
  split
  · rfl
  · rfl

theorem recordingPath_length (i : Nat) : (recordingPath disk cfg i).length =
    cfg.u8DirName.bytes.length + cfg.u8FilePrefix.bytes.length + 13 := by
  unfold recordingPath recordingDir
  rw [length_append, length_append, length_append, root_length,
    recordingName_length, length_singleton]
  omega

theorem digit_ne_zero (value : Nat) : digit value ≠ 0 := by
  intro zero
  have same := congrArg UInt8.toNat zero
  unfold digit at same
  rw [UInt8.toNat_ofNat'] at same
  change _ = 0 at same
  omega

theorem recordingPath_nonzero (i : Nat) : 0 ∉ recordingPath disk cfg i := by
  have root : 0 ∉ disk.root := by
    unfold Disk.root
    split
    · decide
    · decide
  unfold recordingPath recordingDir recordingName
  intro member
  simp only [mem_append] at member
  rcases member with ((inRoot | inDir) | inSlash) | (inPrefix | inDigits) | inExtension
  · exact root inRoot
  · exact cfg.u8DirName.nonzero inDir
  · exact absurd inSlash (by decide)
  · exact cfg.u8FilePrefix.nonzero inPrefix
  · simp only [mem_cons, not_mem_nil, or_false] at inDigits
    rcases inDigits with same | same | same | same
    · exact digit_ne_zero _ same.symm
    · exact digit_ne_zero _ same.symm
    · exact digit_ne_zero _ same.symm
    · exact digit_ne_zero _ same.symm
  · exact absurd inExtension (by decide)

end

/-! ### The search for a free number -/

section

variable {disk : Disk} {cfg : RecCfg} {start : Nat → UInt8} {address : Nat} {written : Path}

theorem getPath_again (short : written.length ≤ (recordingName cfg 0).length) (i : Nat) :
    recwrGetPath cfg (store start address written) address i =
      store start address (recordingName cfg i) := by
  rw [recwrGetPath_eq]
  apply store_cover
  rwa [recordingName_length] at short ⊢

theorem name_short (i : Nat) : (recordingName cfg i).length ≤ (recordingName cfg 0).length := by
  rw [recordingName_length, recordingName_length]

theorem nameLoop_memory (short : written.length ≤ (recordingName cfg 0).length) (count i : Nat) :
    ∃ j, (nameLoop disk cfg address (count + 1) i (store start address written)).1 =
      store start address (recordingName cfg j) := by
  induction count generalizing i written with
  | zero =>
    refine ⟨i, ?_⟩
    rw [nameLoop, getPath_again short]
    split
    · rfl
    · rfl
  | succ _ ih =>
    rw [nameLoop, getPath_again short]
    split
    · exact ih (name_short i) (i + 1)
    · exact ⟨i, rfl⟩

theorem nameLoop_opens_nothing (count i : Nat) (memory : Nat → UInt8) :
    (nameLoop disk cfg address count i memory).2.filterMap FsCall.opened = [] := by
  induction count generalizing i memory with
  | zero => rfl
  | succ _ ih =>
    rw [nameLoop]
    split
    · exact ih _ _
    · rfl

theorem nameLoop_stops (short : written.length ≤ (recordingName cfg 0).length)
    (reads : ∀ j, disk.pathAt (store start address (recordingName cfg j)) =
      recordingPath disk cfg j) {stop : Nat} (count i : Nat) (above : i ≤ stop)
    (below : stop < i + count)
    (taken : ∀ j, i ≤ j → j < stop → disk.fStat (recordingPath disk cfg j))
    (stops : disk.fStat (recordingPath disk cfg stop) = false ∨ stop + 1 = i + count) :
    (nameLoop disk cfg address count i (store start address written)).1 =
      store start address (recordingName cfg stop) := by
  induction count generalizing i written with
  | zero => omega
  | succ count ih =>
    rw [nameLoop, getPath_again short, reads]
    rcases eq_or_lt_of_le above with rfl | later
    · split
      · rename_i isTaken
        have last : count = 0 := by
          rcases stops with free | last
          · rw [free] at isTaken
            cases isTaken
          · omega
        rw [last]
        rfl
      · rfl
    · rw [taken i (le_refl i) later, if_pos rfl]
      exact ih (name_short i) (i + 1) later (by omega) (fun j after => taken j (by omega))
        (stops.imp_right fun last => by omega)

end

section

variable {disk : Disk} {cfg : RecCfg} {memory : Nat → UInt8}

def searchedMemory (disk : Disk) (cfg : RecCfg) (memory : Nat → UInt8) : Nat → UInt8 :=
  (nameLoop disk cfg (recordingDir disk cfg).length cfg.u32MaxNum 0
    (store (zeroed memory) 0 (recordingDir disk cfg))).1

theorem recwrCreateFile_memory :
    (recwrCreateFile disk true true cfg memory).memory = searchedMemory disk cfg memory := by
  obtain ⟨_, made, -⟩ := recwrCreateDir_eq disk cfg memory
  unfold recwrCreateFile
  rw [if_neg nofun, if_neg nofun, made]
  dsimp only
  split
  · rfl
  · rfl

theorem recwrCreateFile_opened :
    (recwrCreateFile disk true true cfg memory).calls.filterMap FsCall.opened =
      [disk.pathAt (searchedMemory disk cfg memory)] := by
  obtain ⟨call, made, silent⟩ := recwrCreateDir_eq disk cfg memory
  have before : ([call] ++ (nameLoop disk cfg (recordingDir disk cfg).length cfg.u32MaxNum 0
      (store (zeroed memory) 0 (recordingDir disk cfg))).2).filterMap FsCall.opened = [] := by
    rw [filterMap_append, nameLoop_opens_nothing, filterMap_cons_none silent]
    rfl
  unfold recwrCreateFile
  rw [if_neg nofun, if_neg nofun, made]
  dsimp only
  split
  · rw [filterMap_append, before]
    rfl
  · rw [filterMap_append, before]
    rfl

theorem store_dir_nil : store (zeroed memory) 0 (recordingDir disk cfg) =
    store (store (zeroed memory) 0 (recordingDir disk cfg)) (recordingDir disk cfg).length [] := by
  rw [store_append_start, append_nil]

theorem store_path (i : Nat) :
    store (store (zeroed memory) 0 (recordingDir disk cfg)) (recordingDir disk cfg).length
      (recordingName cfg i) = store (zeroed memory) 0 (recordingPath disk cfg i) :=
  store_append_start

theorem searchedMemory_some (positive : 0 < cfg.u32MaxNum) :
    ∃ i, searchedMemory disk cfg memory = store (zeroed memory) 0 (recordingPath disk cfg i) := by
  obtain ⟨count, more⟩ := Nat.exists_eq_succ_of_ne_zero (ne_of_gt positive)
  obtain ⟨i, same⟩ := @nameLoop_memory disk cfg _
    _ [] (Nat.zero_le _) count 0
  refine ⟨i, ?_⟩
  unfold searchedMemory
  rw [more, store_dir_nil, same, store_path]

def RecCfg.Short (cfg : RecCfg) : Prop :=
  cfg.u8DirName.bytes.length + cfg.u8FilePrefix.bytes.length ≤ 40

theorem RecCfg.Short.path_length (short : cfg.Short) (i : Nat) :
    (recordingPath disk cfg i).length < recPathLen := by
  unfold RecCfg.Short at short
  rw [recordingPath_length]
  change _ < 54
  omega

theorem zeroed_inside {address : Nat} (below : address < recPathLen) : zeroed memory address = 0 :=
  ByteImage.patch_inside _ _ (Nat.zero_le _) (by omega)

section

variable (short : cfg.Short) (room : recPathLen ≤ disk.extent)
include short room

theorem RecCfg.Short.reads (i : Nat) :
    disk.pathAt (store (zeroed memory) 0 (recordingPath disk cfg i)) =
      recordingPath disk cfg i := by
  have length := @RecCfg.Short.path_length disk cfg short i
  apply read_store (recordingPath_nonzero disk cfg i)
  · rw [zero_add]
    exact zeroed_inside length
  · omega

theorem RecCfg.Short.searched {free : Nat} (below : free < cfg.u32MaxNum)
    (isFree : disk.fStat (recordingPath disk cfg free) = false)
    (taken : ∀ j < free, disk.fStat (recordingPath disk cfg j)) :
    searchedMemory disk cfg memory = store (zeroed memory) 0 (recordingPath disk cfg free) := by
  unfold searchedMemory
  rw [store_dir_nil, ← store_path free]
  exact nameLoop_stops (Nat.zero_le _) (fun j => store_path j ▸ short.reads room j) _ 0
    (Nat.zero_le _) (by omega) (fun j _ before => taken j before) (.inl isFree)

theorem RecCfg.Short.opens_last {last : Nat} (limit : cfg.u32MaxNum = last + 1)
    (taken : ∀ i < cfg.u32MaxNum, disk.fStat (recordingPath disk cfg i)) :
    (recwrCreateFile disk true true cfg memory).calls.filterMap FsCall.opened =
      [recordingPath disk cfg last] := by
  have stored : searchedMemory disk cfg memory =
      store (zeroed memory) 0 (recordingPath disk cfg last) := by
    unfold searchedMemory
    rw [store_dir_nil, ← store_path last]
    exact nameLoop_stops (Nat.zero_le _) (fun j => store_path j ▸ short.reads room j) _ 0
      (Nat.zero_le _) (by omega) (fun j _ before => taken j (by omega)) (.inr (by omega))
  rw [recwrCreateFile_opened, stored, short.reads room]

end

theorem fileChoice_short (positive : 0 < cfg.u32MaxNum)
    (choice : FileChoice disk cfg memory (recwrCreateFile disk true true cfg memory)) :
    cfg.Short := by
  have terminated := choice.terminated
  rw [recwrCreateFile_memory] at terminated
  obtain ⟨address, below, zero⟩ := terminated
  obtain ⟨i, stored⟩ := @searchedMemory_some disk cfg memory positive
  have length := recordingPath_length disk cfg i
  by_contra long
  have inside : address < (recordingPath disk cfg i).length := by
    unfold RecCfg.Short at long
    change address < 54 at below
    omega
  have byte := @store_inside (zeroed memory) 0 _ address inside
  rw [zero_add, ← stored, zero] at byte
  apply recordingPath_nonzero disk cfg i
  rw [byte]
  exact List.get_mem _ _

theorem fileChoice_free
    (choice : FileChoice disk cfg memory (recwrCreateFile disk true true cfg memory)) :
    ∃ i < cfg.u32MaxNum, disk.fStat (recordingPath disk cfg i) = false := by
  by_contra noneFree
  have all : ∀ i < cfg.u32MaxNum, disk.fStat (recordingPath disk cfg i) := by
    intro i below
    cases answer : disk.fStat (recordingPath disk cfg i) with
    | true => rfl
    | false => exact absurd ⟨i, below, answer⟩ noneFree
  have nothing := (choice.full all).1
  rw [recwrCreateFile_opened] at nothing
  cases nothing

theorem fileChoice_of_short (short : cfg.Short) (room : recPathLen ≤ disk.extent)
    (free : ∃ i < cfg.u32MaxNum, disk.fStat (recordingPath disk cfg i) = false) :
    FileChoice disk cfg memory (recwrCreateFile disk true true cfg memory) := by
  have first : ∃ i < cfg.u32MaxNum, disk.fStat (recordingPath disk cfg i) = false ∧
      ∀ j < i, disk.fStat (recordingPath disk cfg j) := by
    obtain ⟨below, isFree⟩ := Nat.find_spec free
    refine ⟨Nat.find free, below, isFree, fun j before => ?_⟩
    have earlier := Nat.find_min free before
    cases answer : disk.fStat (recordingPath disk cfg j) with
    | true => rfl
    | false => exact absurd ⟨lt_trans before below, answer⟩ earlier
  have opened : ∀ i < cfg.u32MaxNum, disk.fStat (recordingPath disk cfg i) = false →
      (∀ j < i, disk.fStat (recordingPath disk cfg j)) →
      (recwrCreateFile disk true true cfg memory).calls.filterMap FsCall.opened =
        [recordingPath disk cfg i] := by
    intro i below isFree taken
    rw [recwrCreateFile_opened, short.searched room below isFree taken, short.reads room]
  obtain ⟨i, below, isFree, taken⟩ := first
  have stored : (recwrCreateFile disk true true cfg memory).memory =
      store (zeroed memory) 0 (recordingPath disk cfg i) := by
    rw [recwrCreateFile_memory]
    exact short.searched room below isFree taken
  have length := @RecCfg.Short.path_length disk cfg short i
  constructor
  · refine ⟨(recordingPath disk cfg i).length, length, ?_⟩
    rw [stored, store_outside (.inr (by omega))]
    exact zeroed_inside length
  · intro _ above
    rw [stored, store_outside (.inr (by omega))]
    exact ByteImage.patch_outside _ _ (by omega)
  · exact opened
  · exact fun all => absurd (all i below) (Bool.eq_false_iff.mp isFree)
  · intro _ member
    rw [opened i below isFree taken] at member
    rwa [mem_singleton.mp member]

end

/-- The file of a recording is chosen well exactly if the names leave room for the rest of the
path and some number is free. -/
theorem recording_file_choice (disk : Disk) (cfg : RecCfg) (memory : Nat → UInt8)
    (positive : 0 < cfg.u32MaxNum) (room : recPathLen ≤ disk.extent) :
    FileChoice disk cfg memory (recwrCreateFile disk true true cfg memory) ↔
      cfg.u8DirName.bytes.length + cfg.u8FilePrefix.bytes.length ≤ 40 ∧
        ∃ i < cfg.u32MaxNum, disk.fStat (recordingPath disk cfg i) = false := by
  constructor
  · exact fun choice => ⟨fileChoice_short positive choice, fileChoice_free choice⟩
  · exact fun ⟨short, free⟩ => fileChoice_of_short short room free

def emptyDisk : Disk := ⟨0, 64, fun _ => false, fun _ => true⟩

/-- The first two numbers are taken. -/
def startedDisk : Disk :=
  { emptyDisk with fStat := fun path =>
      path = recordingPath emptyDisk (recorderCreate none) 0 ∨
        path = recordingPath emptyDisk (recorderCreate none) 1 }

theorem recording_file_choice_default : FileChoice startedDisk (recorderCreate none) (fun _ => 7)
    (recwrCreateFile startedDisk true true (recorderCreate none) fun _ => 7) :=
  (recording_file_choice startedDisk (recorderCreate none) (fun _ => 7) (by decide)
    (by decide)).mpr ⟨by decide, 2, by decide, by decide⟩

def fullDisk : Disk := ⟨0, 64, fun _ => true, fun _ => true⟩

def longNames : RecCfg :=
  { u8DirName := ⟨List.replicate 31 (ascii 'D'), by decide, by decide⟩
    u8FilePrefix := ⟨List.replicate 10 (ascii 'P'), by decide, by decide⟩
    u32MaxNum := 10000 }

/-- With all numbers taken the file of the last one is opened; with long names the path has no
terminator in its block. -/
theorem recording_file_choice_fails :
    (recwrCreateFile fullDisk true true (recorderCreate none) fun _ => 7).calls.filterMap
        FsCall.opened = [recordingPath fullDisk (recorderCreate none) 9999] ∧
      ¬ FileChoice fullDisk (recorderCreate none) (fun _ => 7)
        (recwrCreateFile fullDisk true true (recorderCreate none) fun _ => 7) ∧
      ¬ FileChoice emptyDisk longNames (fun _ => 7)
        (recwrCreateFile emptyDisk true true longNames fun _ => 7) := by
  have short : (recorderCreate none).Short := (by decide : 8 + 3 ≤ 40)
  refine ⟨short.opens_last (by decide) rfl fun _ _ => rfl, ?_, ?_⟩
  · intro choice
    obtain ⟨_, _, free⟩ := fileChoice_free choice
    cases free
  · intro choice
    exact absurd (fileChoice_short (by decide) choice) (by unfold RecCfg.Short; decide)

end Hfirmware.Audio.RecordingFile
