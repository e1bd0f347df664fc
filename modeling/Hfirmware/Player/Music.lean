/-
The music player: the files of an SD card and a U-disk, the index that is played, the
window of indices and the names last played.
-/

import Hfirmware.ByteImage
import Hfirmware.FixedWidth

namespace Hfirmware.Player.Music

open ByteImage

abbrev Name : Type := List UInt16

def maxLfn : Nat := 128

inductive Repeat where
  | all | one | off | shuffle
deriving DecidableEq

/-- `playMode`, of which a stored byte may be none. -/
def repeatOf : Nat → Option Repeat
  | 0 => some .all
  | 1 => some .one
  | 2 => some .off
  | 3 => some .shuffle
  | _ => none

/-- The part of `hs_musicpara_t` that chooses what is played. `sd_name` and
`udisk_name` follow each other in `names`. -/
structure Para where
  (playMode mode_map musicPos : Nat)
  names : Nat → UInt16

def sdName : Nat := 0

def udiskName : Nat := maxLfn

inductive Status where
  | stoped | playing | pause
deriving DecidableEq

inductive Msg where
  | pause | stop | start | next | prev
deriving DecidableEq

inductive LastPos where
  | none | sd | udisk
deriving DecidableEq

/-- `hs_musicinfo_t`. There are at most 800 files, so that no count exceeds its
width. `pstTimer` holds `pTimerArg` while the timer runs. -/
structure Info where
  files : List Name
  current : Int
  (sdNum udiskNum minIdx maxIdx : Nat)
  stCfg : Para
  eStatus : Status
  (pstAdec saved : Bool)
  pstTimer : Option (Option Name)
  msgs : List Msg

structure Load where
  current : Int
  (minIdx maxIdx amount : Nat)
  filename : Option Name
  ok : Bool
deriving DecidableEq

/-- The player, `g_u16LastPos`, the stored configuration, and the notes. -/
structure System where
  info : Info
  lastPos : LastPos
  stored : Para
  loads : List Load
  moduli : List Int

/-- `wstrcmp` of the text at `start` with a name, for equality. -/
def sameText (cells : Nat → UInt16) : Nat → Name → Bool
  | start, [] => cells start == 0
  | start, char :: name => cells start == char && sameText cells (start + 1) name

/-- The loop of `_music_searchByName` from index `i` on, for the `cnt`-th match. -/
def searchFrom (found : Name → Bool) : List Name → Nat → Nat → Option Nat
  | [], _, _ => none
  | name :: rest, i, cnt =>
    if found name then
      if cnt = 1 then some i else searchFrom found rest (i + 1) (cnt - 1)
    else searchFrom found rest (i + 1) cnt

def searchByName (info : Info) (filename cnt : Nat) : Option Nat :=
  if u8 cnt = 0 then none
  else searchFrom (sameText info.stCfg.names filename) info.files 0 (u8 cnt)

/-- The loop of `_music_searchUdisk`, which is left when a match is missing. -/
def searchUdiskLoop (info : Info) : Nat → Nat → Option Nat
  | 0, _ => none
  | fuel + 1, i =>
    match searchByName info udiskName i with
    | none => none
    | some idx =>
      if info.sdNum ≤ idx then some idx
      else if idx > 0 then searchUdiskLoop info fuel (i + 1)
      else some idx

def searchUdisk (info : Info) : Option Nat :=
  if info.stCfg.names udiskName = 0 then some info.sdNum
  else searchUdiskLoop info (info.files.length + 1) 1

def getCurrIdx (lastPos : LastPos) (info : Info) : Nat :=
  match lastPos with
  | .none =>
    if info.sdNum > 0 then (searchByName info sdName 1).getD 0
    else (searchByName info udiskName 1).getD 0
  | .sd => if info.sdNum = 0 then 0 else (searchByName info sdName 1).getD 0
  | .udisk => if info.udiskNum = 0 then 0 else (searchUdisk info).getD info.sdNum

def Info.nameAt (info : Info) (index : Int) : Option Name :=
  if index < 0 then none else info.files[index.toNat]?

def Info.getCurr (info : Info) : Option Name := info.nameAt info.current

def shuffled (info : Info) (rand : Nat) : Int :=
  (info.minIdx : Int) + ((rand : Int) % ((info.maxIdx : Int) - info.minIdx))

/-- `_music_getNext`: the new index, and whether its name is returned. -/
def nextIdx (info : Info) (rand : Nat) : Int × Bool :=
  match repeatOf info.stCfg.playMode with
  | some .off =>
    if info.current + 1 ≥ info.maxIdx then (info.minIdx, false) else (info.current + 1, true)
  | some .all =>
    if info.current + 1 ≥ info.maxIdx then (info.minIdx, true) else (info.current + 1, true)
  | some .shuffle => (shuffled info rand, true)
  | some .one | none => (info.current, true)

def prevIdx (info : Info) (rand : Nat) : Int × Bool :=
  match repeatOf info.stCfg.playMode with
  | some .off =>
    if info.current - 1 < info.minIdx then (info.minIdx, false) else (info.current - 1, true)
  | some .all =>
    if info.current - 1 < info.minIdx then ((info.maxIdx : Int) - 1, true)
    else (info.current - 1, true)
  | some .shuffle => (shuffled info rand, true)
  | some .one | none => (info.current, true)

/-! ### Loads -/

inductive LoadOutcome where
  | openFails | creatFails | skipFails | ok
deriving DecidableEq

def System.post (player : System) (msg : Msg) : System :=
  { player with info := { player.info with msgs := player.info.msgs ++ [msg] } }

def System.note (player : System) (filename : Option Name) (ok : Bool) : System :=
  { player with
    loads := player.loads ++
      [{ current := player.info.current
         minIdx := player.info.minIdx
         maxIdx := player.info.maxIdx
         amount := player.info.files.length
         filename := filename
         ok := ok }] }

def Info.slotAt (info : Info) (index : Int) : Nat :=
  if index ≥ info.sdNum then udiskName else sdName

def Info.slot (info : Info) : Nat := info.slotAt info.current

/-- The `memcpy` of `_music_load`, and `hs_cfg_setDataByIndex` with all of `stCfg`. -/
def System.keepName (player : System) (filename : Name) : System :=
  let info := player.info
  let stCfg :=
    { info.stCfg with
      names := patch info.stCfg.names info.slot filename.length fun k => filename.getD k 0 }
  { player with info := { info with stCfg }, stored := stCfg }

/-- `_music_load`; nothing can be opened without a name. -/
def musicLoad (outcome : LoadOutcome) (filename : Option Name) (player : System) : Bool × System :=
  let info := player.info
  let stopped := if info.pstAdec then { info with eStatus := .pause } else info
  match filename, outcome with
  | none, _ | some _, .openFails =>
    (false, { player.note filename false with info := stopped })
  | some _, .creatFails =>
    (false, { player.note filename false with info := { stopped with pstAdec := false } })
  | some _, .skipFails =>
    (false, { player.note filename false with info := { stopped with pstAdec := true } })
  | some name, .ok =>
    (true,
      System.keepName
        { player.note filename true with info := { stopped with pstAdec := true } } name)

def System.giveUp (player : System) : System := (player.post .stop).post .next

def System.setStatus (player : System) (eStatus : Status) : System :=
  { player with info := { player.info with eStatus } }

def musicLoadDec (outcome : LoadOutcome) (player : System) : System :=
  match player.info.pstTimer with
  | none => player
  | some filename =>
    let expired := { player with info := { player.info with pstTimer := none } }
    match musicLoad outcome filename expired with
    | (true, loaded) => loaded.setStatus .playing
    | (false, failed) => failed.giveUp

/-- `_music_msgHandlerLoad`: the name slot is cleared, and the timer started. -/
def msgHandlerLoad (filename : Option Name) (player : System) : System :=
  let info := (player.post .stop).info
  let start := if info.current < info.sdNum then sdName else udiskName
  { player with
    info :=
      { info with
        stCfg := { info.stCfg with names := patch info.stCfg.names start maxLfn fun _ => 0 }
        pstTimer := some filename } }

def System.noteModulus (player : System) : System :=
  if repeatOf player.info.stCfg.playMode = some .shuffle then
    { player with
      moduli := player.moduli ++ [(player.info.maxIdx : Int) - player.info.minIdx] }
  else player

/-- `PLAY_NEXT` and `PLAY_PREV`, for the index that `_music_getNext` or
`_music_getPrev` finds. -/
def goTo (target : Int × Bool) (player : System) : System :=
  if player.info.files.length = 0 then msgHandlerLoad none player
  else
    let noted := player.noteModulus
    let moved := { noted with info := { noted.info with current := target.1 } }
    msgHandlerLoad (if target.2 then moved.info.getCurr else none) moved

def playNext (rand : Nat) (player : System) : System := goTo (nextIdx player.info rand) player

def playPrev (rand : Nat) (player : System) : System := goTo (prevIdx player.info rand) player

def playStart (outcome : LoadOutcome) (player : System) : System :=
  let tried :=
    if player.info.eStatus = .pause then player
    else if player.info.files.length = 0 then player.post .stop
    else
      match musicLoad outcome player.info.getCurr player with
      | (true, loaded) => loaded
      | (false, failed) => failed.giveUp
  tried.setStatus .playing

def msgHandler (rand : Nat) (outcome : LoadOutcome) (player : System) : Msg → System
  | .pause => player.setStatus .pause
  | .start => playStart outcome player
  | .next => playNext rand player
  | .prev => playPrev rand player
  | .stop => player.setStatus .stoped

/-- `_music_saveContext`; `frames` if `hs_adec_context` is above 0. -/
def saveContext (frames : Bool) (player : System) : System :=
  let info := player.info
  if info.saved || !frames then player
  else
    let stCfg := { info.stCfg with musicPos := if info.current < info.sdNum then 0 else 1 }
    { player with info := { info with stCfg, saved := true }, stored := stCfg }

def modeLoop (mode_map : Nat) : Nat → Nat → Nat
  | 0, playMode => playMode
  | rounds + 1, playMode =>
    let changed := (playMode + 1) % 4
    if mode_map.testBit changed then changed else modeLoop mode_map rounds changed

def modeChange (player : System) : System :=
  let info := player.info
  let playMode := modeLoop info.stCfg.mode_map 5 info.stCfg.playMode
  { player with
    info := { info with stCfg := { info.stCfg with playMode } }
    stored := { player.stored with playMode } }

def toSd (info : Info) : Info :=
  { info with
    minIdx := 0
    maxIdx := info.sdNum
    current := ((searchByName info sdName 1).getD 0 : Nat) }

def toUdisk (info : Info) : Info :=
  { info with
    minIdx := info.sdNum
    maxIdx := info.files.length
    current := ((searchUdisk info).getD 0 : Nat) }

/-- A change of device goes on with `PLAY_START`. -/
def System.restart (player : System) (info : Info) : System :=
  System.post { player with info := { info with eStatus := .stoped } } .start

def memOut (sd udisk frames : Bool) (player : System) : System :=
  let kept := saveContext frames player
  let info := kept.info
  if !sd && !udisk then { kept with lastPos := .none }
  else if sd then
    let moved :=
      if info.current ≥ info.sdNum then kept.restart (toSd info)
      else { kept with info := { info with minIdx := 0, maxIdx := info.sdNum } }
    { moved with info := { moved.info with udiskNum := 0 } }
  else
    let moved :=
      if info.current < info.sdNum then kept.restart (toUdisk info)
      else { kept with info := { info with minIdx := info.sdNum, maxIdx := info.files.length } }
    { moved with info := { moved.info with sdNum := 0 } }

def changeDev (frames : Bool) (player : System) : System :=
  let kept := { saveContext frames player with lastPos := .none }
  let info := kept.info
  if info.current ≥ info.sdNum then
    if info.sdNum = 0 then kept else kept.restart (toSd info)
  else if info.udiskNum = 0 then kept
  else kept.restart (toUdisk info)

def setIdx (u32Idx : Nat) (player : System) : System :=
  let info := player.info
  let go := fun index : Nat =>
    System.post
      { (player.post .stop) with info := { (player.post .stop).info with current := index } } .start
  if u32Idx = 0 then player
  else if info.current ≥ info.sdNum then
    let index := u32 (u32 (info.minIdx + u32Idx) + 2 ^ 32 - 1)
    if index ≥ info.files.length then player else go index
  else if u32Idx - 1 ≥ info.sdNum then player
  else go (u32Idx - 1)

/-! ### The player as a whole -/

inductive Action where
  | next | prev | start
  | changeDev (frames : Bool)
  | setIdx (u32Idx : Nat)
  | modeChange
  | memIn (udisk : Bool)
  | memOut (sd udisk frames : Bool)
  | handle (rand : Nat) (outcome : LoadOutcome)
  /-- The decoder is at the end of the file, which may be gone. -/
  | trackEnds (present : Bool) (rand : Nat)
  | timer (outcome : LoadOutcome)

def System.step (player : System) : Action → System
  | .next => player.post .next
  | .prev => player.post .prev
  | .start => player.post (if player.info.eStatus = .playing then .pause else .start)
  | .changeDev frames => Music.changeDev frames player
  | .setIdx u32Idx => Music.setIdx u32Idx player
  | .modeChange => Music.modeChange player
  | .memIn udisk => { player with lastPos := if udisk then .udisk else .sd }
  | .memOut sd udisk frames => Music.memOut sd udisk frames player
  | .handle rand outcome =>
    match player.info.msgs with
    | [] => player
    | msg :: rest =>
      msgHandler rand outcome { player with info := { player.info with msgs := rest } } msg
  | .trackEnds present rand =>
    if player.info.msgs ≠ [] ∨ player.info.eStatus = .stoped then player
    else if present then playNext rand player
    else player.setStatus .stoped
  | .timer outcome => musicLoadDec outcome player

/-- `hs_music_create` over the stored configuration, with the files that the scan
has found, in the order that the sort has left them in. -/
def musicCreate (files : List Name) (sdNum udiskNum : Nat) (lastPos : LastPos) (stored : Para) :
    System :=
  let stCfg :=
    { stored with mode_map := if stored.mode_map = 0 then 0xffff else stored.mode_map }
  let lastPos :=
    if lastPos = .none then if stCfg.musicPos = 0 then .sd else .udisk else lastPos
  let empty : Info :=
    { files := files
      current := 0
      sdNum := sdNum
      udiskNum := udiskNum
      minIdx := 0
      maxIdx := 0
      stCfg := stCfg
      eStatus := .stoped
      pstAdec := false
      saved := false
      pstTimer := none
      msgs := [] }
  let current := getCurrIdx lastPos empty
  let info := { empty with current }
  let window :=
    if current ≥ sdNum ∧ udiskNum > 0 then
      { info with minIdx := sdNum, maxIdx := files.length }
    else if current < sdNum then { info with minIdx := 0, maxIdx := sdNum }
    else info
  ⟨window, lastPos, stored, [], []⟩

end Hfirmware.Player.Music
