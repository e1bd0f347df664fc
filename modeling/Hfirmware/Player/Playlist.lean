/-
The index of the music player.
-/

import Hfirmware.GuardedRun
import Hfirmware.Player.Music

namespace Hfirmware.Player.Music

open List Option GuardedRun

variable {idx cnt : Nat} {files : List Name} {found : Name → Bool}

theorem searchFrom_spec {i : Nat} (result : searchFrom found files i cnt = some idx) :
    ∃ k name, idx = i + k ∧ files[k]? = some name ∧ found name := by
  induction files generalizing i cnt with
  | nil => cases result
  | cons name _ ih =>
    unfold searchFrom at result
    split at result
    · next here =>
      split at result
      · obtain rfl := some.inj result
        exact ⟨0, name, rfl, rfl, here⟩
      · obtain ⟨k, other, place, there, matched⟩ := ih result
        exact ⟨k + 1, other, by omega, there, matched⟩
    · obtain ⟨k, other, place, there, matched⟩ := ih result
      exact ⟨k + 1, other, by omega, there, matched⟩

theorem searchFrom_first {i : Nat}
    (some : ∃ name ∈ files, found name) : (searchFrom found files i 1).isSome := by
  induction files generalizing i with
  | nil =>
    obtain ⟨_, member, _⟩ := some
    cases member
  | cons name _ ih =>
    unfold searchFrom
    split
    · rfl
    · next here =>
      obtain ⟨other, member, matched⟩ := some
      rcases mem_cons.mp member with rfl | later
      · exact absurd matched here
      · exact ih ⟨other, later, matched⟩

theorem searchByName_one (info : Info) (filename : Nat) : searchByName info filename 1 =
    searchFrom (sameText info.stCfg.names filename) info.files 0 1 := rfl

theorem searchByName_spec {info : Info} {filename : Nat}
    (result : searchByName info filename cnt = some idx) :
    ∃ name, info.files[idx]? = some name ∧ sameText info.stCfg.names filename name := by
  unfold searchByName at result
  split at result
  · cases result
  · obtain ⟨_, name, place, there, matched⟩ := searchFrom_spec result
    rw [zero_add] at place
    exact ⟨name, place ▸ there, matched⟩

theorem searchByName_lt {info : Info} {filename : Nat}
    (result : searchByName info filename cnt = some idx) : idx < info.files.length := by
  obtain ⟨_, there, _⟩ := searchByName_spec result
  exact (List.getElem?_eq_some_iff.mp there).1

theorem searchUdiskLoop_lt {info : Info} {fuel i : Nat}
    (result : searchUdiskLoop info fuel i = some idx) : idx < info.files.length := by
  induction fuel generalizing i with
  | zero => cases result
  | succ _ ih =>
    unfold searchUdiskLoop at result
    cases found : searchByName info udiskName i with
    | none =>
      rw [found] at result
      cases result
    | some =>
      rw [found] at result
      dsimp only at result
      have inside := searchByName_lt found
      split at result
      · obtain rfl := some.inj result
        exact inside
      · split at result
        · exact ih result
        · obtain rfl := some.inj result
          exact inside

def SdFits (info : Info) : Prop :=
  ∀ name ∈ info.files.drop info.sdNum, sameText info.stCfg.names sdName name = false

def UdiskFits (info : Info) : Prop :=
  info.stCfg.names udiskName = 0 ∨
    (∀ name ∈ info.files.take info.sdNum, sameText info.stCfg.names udiskName name = false) ∧
      ∃ name ∈ info.files.drop info.sdNum, sameText info.stCfg.names udiskName name = true

instance (info : Info) : Decidable (SdFits info) := inferInstanceAs (Decidable (∀ _ ∈ _, _))

instance (info : Info) : Decidable (UdiskFits info) := inferInstanceAs (Decidable (_ ∨ _))

theorem SdFits.search_lt {info : Info} (fits : SdFits info)
    (result : searchByName info sdName 1 = some idx) : idx < info.sdNum := by
  obtain ⟨name, there, matched⟩ := searchByName_spec result
  by_contra beyond
  have member : name ∈ info.files.drop info.sdNum := by
    apply mem_iff_getElem?.mpr
    refine ⟨idx - info.sdNum, ?_⟩
    rwa [List.getElem?_drop, Nat.add_sub_cancel' (Nat.le_of_not_lt beyond)]
  rw [fits name member] at matched
  cases matched

theorem UdiskFits.search {info : Info} (fits : UdiskFits info)
    (files : info.sdNum < info.files.length) :
    ∃ idx, searchUdisk info = some idx ∧ info.sdNum ≤ idx ∧ idx < info.files.length := by
  unfold searchUdisk
  split
  · exact ⟨info.sdNum, rfl, .refl, files⟩
  · next empty =>
    obtain ⟨before, name, member, matched⟩ := fits.resolve_left empty
    have first := @searchFrom_first _ _ 0 ⟨name, mem_of_mem_drop member, matched⟩
    rw [← searchByName_one] at first
    obtain ⟨idx, result⟩ := isSome_iff_exists.mp first
    have behind : info.sdNum ≤ idx := by
      by_contra early
      obtain ⟨other, there, found⟩ := searchByName_spec result
      have onSd : other ∈ info.files.take info.sdNum := by
        apply mem_iff_getElem?.mpr
        refine ⟨idx, ?_⟩
        rwa [List.getElem?_take_of_lt (Nat.lt_of_not_le early)]
      rw [before other onSd] at found
      cases found
    refine ⟨idx, ?_, behind, searchByName_lt result⟩
    unfold searchUdiskLoop
    rw [result]
    exact if_pos behind

structure InWindow (info : Info) : Prop where
  low : (info.minIdx : Int) ≤ info.current
  high : info.current < info.maxIdx
  amount : info.maxIdx ≤ info.files.length
  udisk : 0 < info.udiskNum → info.sdNum < info.files.length
  onSd : info.current < info.sdNum → info.minIdx = 0 ∧ info.maxIdx = info.sdNum
  onUdisk : info.sdNum ≤ info.current → info.sdNum ≤ info.minIdx ∧ info.maxIdx = info.files.length

def Info.place (info : Info) : List Name × Int × Nat × Nat × Nat × Nat :=
  (info.files, info.current, info.sdNum, info.udiskNum, info.minIdx, info.maxIdx)

section

variable {info : Info}

section

variable (inWindow : InWindow info)
include inWindow

theorem InWindow.congr {other : Info} (same : other.place = info.place) : InWindow other := by
  obtain ⟨files, current, sdNum, udiskNum, minIdx, maxIdx⟩ := info
  cases same
  exact { inWindow with }

theorem InWindow.named : info.getCurr.isSome := by
  have low := inWindow.low
  have high := inWindow.high
  have amount := inWindow.amount
  have inList : info.current.toNat < info.files.length := by omega
  unfold Info.getCurr Info.nameAt
  rw [if_neg (by omega), List.getElem?_eq_getElem inList]
  rfl

theorem InWindow.move {index : Int} (low : (info.minIdx : Int) ≤ index)
    (high : index < info.maxIdx) :
    InWindow { info with current := index } := by
  refine ⟨low, high, inWindow.amount, inWindow.udisk, fun before => ?_, fun behind => ?_⟩
  · by_cases here : info.current < info.sdNum
    · exact inWindow.onSd here
    · obtain ⟨above, _⟩ := inWindow.onUdisk (Int.not_lt.mp here)
      dsimp only at before
      omega
  · by_cases here : info.current < info.sdNum
    · obtain ⟨_, below⟩ := inWindow.onSd here
      dsimp only at behind
      omega
    · exact inWindow.onUdisk (Int.not_lt.mp here)

def NextFits (info : Info) : Prop :=
  repeatOf info.stCfg.playMode = some .off → info.current + 1 < info.maxIdx

def PrevFits (info : Info) : Prop :=
  repeatOf info.stCfg.playMode = some .off → (info.minIdx : Int) < info.current

theorem InWindow.shuffled (rand : Nat) :
    (info.minIdx : Int) ≤ shuffled info rand ∧ shuffled info rand < info.maxIdx := by
  have low := inWindow.low
  have high := inWindow.high
  have positive : 0 < (info.maxIdx : Int) - info.minIdx := by omega
  have above := Int.emod_nonneg (rand : Int) (Int.ne_of_gt positive)
  have below := Int.emod_lt_of_pos (rand : Int) positive
  unfold Music.shuffled
  omega

def Lands (info : Info) (target : Int × Bool) : Prop :=
  (info.minIdx : Int) ≤ target.1 ∧ target.1 < info.maxIdx ∧ target.2 = true

theorem InWindow.nextIdx (fits : NextFits info) (rand : Nat) : Lands info (nextIdx info rand) := by
  have low := inWindow.low
  have high := inWindow.high
  unfold Music.nextIdx
  cases mode : repeatOf info.stCfg.playMode with
  | none => exact ⟨low, high, rfl⟩
  | some which =>
    cases which with
    | all =>
      dsimp only
      split
      · exact ⟨Int.le_refl _, by dsimp only; omega, rfl⟩
      · exact ⟨by dsimp only; omega, by dsimp only; omega, rfl⟩
    | one => exact ⟨low, high, rfl⟩
    | off =>
      have more := fits mode
      rw [if_neg (by omega)]
      exact ⟨by dsimp only; omega, more, rfl⟩
    | shuffle =>
      obtain ⟨above, below⟩ := inWindow.shuffled rand
      exact ⟨above, below, rfl⟩

theorem InWindow.prevIdx (fits : PrevFits info) (rand : Nat) : Lands info (prevIdx info rand) := by
  have low := inWindow.low
  have high := inWindow.high
  unfold Music.prevIdx
  cases mode : repeatOf info.stCfg.playMode with
  | none => exact ⟨low, high, rfl⟩
  | some which =>
    cases which with
    | all =>
      dsimp only
      split
      · exact ⟨by dsimp only; omega, by dsimp only; omega, rfl⟩
      · exact ⟨by dsimp only; omega, by dsimp only; omega, rfl⟩
    | one => exact ⟨low, high, rfl⟩
    | off =>
      have more := fits mode
      rw [if_neg (by omega)]
      exact ⟨by dsimp only; omega, by dsimp only; omega, rfl⟩
    | shuffle =>
      obtain ⟨above, below⟩ := inWindow.shuffled rand
      exact ⟨above, below, rfl⟩

end

theorem inWindow_toSd (amount : info.sdNum ≤ info.files.length) (files : 0 < info.sdNum)
    (udisk : 0 < info.udiskNum → info.sdNum < info.files.length) (fits : SdFits info) :
    InWindow (toSd info) := by
  have below : (searchByName info sdName 1).getD 0 < info.sdNum := by
    cases result : searchByName info sdName 1 with
    | none => exact files
    | some => exact fits.search_lt result
  refine ⟨?_, ?_, amount, udisk, fun _ => ⟨rfl, rfl⟩, fun behind => ?_⟩
  · exact Int.natCast_nonneg _
  · exact Int.ofNat_lt.mpr below
  · have beyond : info.sdNum ≤ (searchByName info sdName 1).getD 0 := Int.ofNat_le.mp behind
    omega

theorem inWindow_toUdisk (files : info.sdNum < info.files.length) (fits : UdiskFits info) :
    InWindow (toUdisk info) := by
  obtain ⟨idx, result, behind, inside⟩ := fits.search files
  have current : (toUdisk info).current = (idx : Int) := by
    change (((searchUdisk info).getD 0 : Nat) : Int) = idx
    rw [result]
    rfl
  refine ⟨?_, ?_, .refl, fun _ => files, fun before => ?_, fun _ => ⟨.refl, rfl⟩⟩
  · rw [current]
    exact Int.ofNat_le.mpr behind
  · rw [current]
    exact Int.ofNat_lt.mpr inside
  · rw [current] at before
    have early : idx < info.sdNum := Int.ofNat_lt.mp before
    omega

end

structure Load.Fits (load : Load) : Prop where
  low : (load.minIdx : Int) ≤ load.current
  high : load.current < load.maxIdx
  amount : load.maxIdx ≤ load.amount
  named : load.filename ≠ none

structure System.LoadsFit (player : System) : Prop where
  loads : ∀ load ∈ player.loads, load.Fits
  moduli : ∀ modulus ∈ player.moduli, modulus ≠ 0

structure PlayInv (player : System) : Prop where
  window : InWindow player.info
  timer : ∀ filename, player.info.pstTimer = some filename → filename.isSome = true
  noted : player.LoadsFit

/-- The step stays in a list that is played once, the device that is changed to has
files, and its name is not that of a file of the other one. -/
def KeepsWindow (player : System) : Action → Prop
  | .next | .prev | .start | .modeChange | .memIn _ | .timer _ => True
  | .setIdx u32Idx =>
    u32Idx < 2 ^ 32 ∧
      (player.info.sdNum ≤ player.info.current → player.info.minIdx + u32Idx ≤ 2 ^ 32)
  | .changeDev _ =>
    (player.info.sdNum ≤ player.info.current → 0 < player.info.sdNum → SdFits player.info) ∧
      (player.info.current < player.info.sdNum → 0 < player.info.udiskNum → UdiskFits player.info)
  | .memOut sd udisk _ =>
    (sd = true → 0 < player.info.sdNum ∧
      (player.info.sdNum ≤ player.info.current → SdFits player.info)) ∧
    (sd = false → udisk = true → player.info.sdNum < player.info.files.length ∧
      (player.info.current < player.info.sdNum → UdiskFits player.info))
  | .handle _ _ =>
    (player.info.msgs.head? = some .next → NextFits player.info) ∧
      (player.info.msgs.head? = some .prev → PrevFits player.info)
  | .trackEnds _ _ => NextFits player.info

section

variable {player : System}

section

variable (inv : PlayInv player)
include inv

theorem PlayInv.withInfo {info : Info} (same : info.place = player.info.place)
    (timer : info.pstTimer = player.info.pstTimer) : PlayInv { player with info } :=
  ⟨inv.window.congr same, fun filename armed => inv.timer filename (timer ▸ armed),
    ⟨inv.noted.loads, inv.noted.moduli⟩⟩

theorem PlayInv.post (msg : Msg) : PlayInv (player.post msg) :=
  inv.withInfo rfl rfl

theorem PlayInv.setStatus (eStatus : Status) :
    PlayInv (player.setStatus eStatus) := inv.withInfo rfl rfl

theorem PlayInv.stored (lastPos : LastPos) (stored : Para) :
    PlayInv { player with lastPos, stored } :=
  ⟨inv.window, inv.timer, ⟨inv.noted.loads, inv.noted.moduli⟩⟩

variable {filename : Option Name}

theorem PlayInv.note (named : filename.isSome) (ok : Bool) : PlayInv (player.note filename ok) := by
  refine ⟨inv.window, inv.timer, forall_mem_append.mpr ⟨inv.noted.loads,
    forall_mem_singleton.mpr { inv.window with named := ?_ }⟩,
    inv.noted.moduli⟩
  rintro rfl
  cases named

theorem PlayInv.keepName (filename : Name) : PlayInv (player.keepName filename) :=
  PlayInv.stored (@PlayInv.withInfo player inv (player.keepName filename).info rfl rfl) _ _

theorem PlayInv.load (outcome : LoadOutcome)
    (named : filename.isSome) : PlayInv (musicLoad outcome filename player).2 := by
  obtain ⟨name, rfl⟩ := isSome_iff_exists.mp named
  have paused : PlayInv { player.note (some name) false with
      info := if player.info.pstAdec then { player.info with eStatus := .pause }
        else player.info } := by
    cases player.info.pstAdec <;> exact (inv.note named false).withInfo rfl rfl
  have reopened : ∀ pstAdec ok, PlayInv { player.note (some name) ok with
      info :=
        { (if player.info.pstAdec then { player.info with eStatus := .pause }
            else player.info) with
          pstAdec := pstAdec } } := by
    intro pstAdec ok
    cases player.info.pstAdec <;> exact (inv.note named ok).withInfo rfl rfl
  cases outcome with
  | openFails => exact paused
  | creatFails => exact reopened false false
  | skipFails => exact reopened true false
  | ok => exact (reopened true true).keepName name

theorem PlayInv.giveUp : PlayInv player.giveUp :=
  (inv.post .stop).post .next

theorem PlayInv.loadDec (outcome : LoadOutcome) : PlayInv (musicLoadDec outcome player) := by
  unfold musicLoadDec
  cases armed : player.info.pstTimer with
  | none => exact inv
  | some filename =>
    have named := inv.timer filename armed
    have expired : PlayInv { player with info := { player.info with pstTimer := none } } :=
      ⟨inv.window.congr rfl, nofun, ⟨inv.noted.loads, inv.noted.moduli⟩⟩
    have loaded := expired.load outcome named
    dsimp only
    generalize musicLoad outcome filename _ = result at loaded
    obtain ⟨ok, _⟩ := result
    cases ok with
    | true => exact loaded.setStatus .playing
    | false => exact loaded.giveUp

theorem PlayInv.msgHandlerLoad (named : filename.isSome) :
    PlayInv (msgHandlerLoad filename player) :=
  ⟨inv.window.congr rfl, fun _ armed => some.inj armed ▸ named,
    ⟨inv.noted.loads, inv.noted.moduli⟩⟩

theorem PlayInv.noteModulus : PlayInv player.noteModulus := by
  have low := inv.window.low
  have high := inv.window.high
  unfold System.noteModulus
  split
  · refine ⟨inv.window, inv.timer, inv.noted.loads, forall_mem_append.mpr
      ⟨inv.noted.moduli, forall_mem_singleton.mpr ?_⟩⟩
    omega
  · exact inv

end

theorem noteModulus_info (player : System) : player.noteModulus.info = player.info := by
  unfold System.noteModulus
  split <;> rfl

section

variable (inv : PlayInv player)
include inv

theorem PlayInv.goTo {target : Int × Bool}
    (lands : Lands player.info target) : PlayInv (goTo target player) := by
  obtain ⟨low, high, named⟩ := lands
  have window := inv.window.move low high
  have some : ¬player.info.files.length = 0 := by
    have amount := inv.window.amount
    omega
  have moved : PlayInv { player.noteModulus with
      info := { player.noteModulus.info with current := target.1 } } := by
    refine ⟨?_, ?_, ⟨inv.noteModulus.noted.loads, inv.noteModulus.noted.moduli⟩⟩
    · rwa [noteModulus_info]
    · rw [noteModulus_info]
      exact inv.timer
  unfold Music.goTo
  dsimp only
  rw [if_neg some, named, if_pos rfl]
  exact moved.msgHandlerLoad moved.window.named

theorem PlayInv.playStart (outcome : LoadOutcome) : PlayInv (playStart outcome player) := by
  apply PlayInv.setStatus
  split
  · exact inv
  · split
    · exact inv.post .stop
    · have loaded := inv.load outcome inv.window.named
      generalize musicLoad outcome player.info.getCurr player = result at loaded
      obtain ⟨ok, _⟩ := result
      cases ok with
      | true => exact loaded
      | false => exact loaded.giveUp

theorem PlayInv.saveContext (frames : Bool) : PlayInv (saveContext frames player) := by
  unfold Music.saveContext
  dsimp only
  split
  · exact inv
  · exact ⟨inv.window.congr rfl, inv.timer, ⟨inv.noted.loads, inv.noted.moduli⟩⟩

theorem PlayInv.restart {info : Info} (window : InWindow info)
    (timer : info.pstTimer = player.info.pstTimer) : PlayInv (player.restart info) :=
  ⟨window.congr rfl, fun filename armed => inv.timer filename (timer ▸ armed),
    ⟨inv.noted.loads, inv.noted.moduli⟩⟩

end

theorem InWindow.sd_le {info : Info} (inWindow : InWindow info) :
    info.sdNum ≤ info.files.length := by
  have amount := inWindow.amount
  have high := inWindow.high
  by_cases here : info.current < info.sdNum
  · have window := inWindow.onSd here
    omega
  · omega

variable {action : Action}

theorem KeepsWindow.saveContext (frames : Bool)
    (fits : KeepsWindow player action) : KeepsWindow (saveContext frames player) action := by
  unfold Music.saveContext
  dsimp only
  split
  · exact fits
  · cases action <;> exact fits

theorem PlayInv.changeDev (inv : PlayInv player) {frames : Bool}
    (fits : KeepsWindow player (.changeDev frames)) : PlayInv (changeDev frames player) := by
  have kept := inv.saveContext frames
  obtain ⟨sdFits, udiskFits⟩ := fits.saveContext frames
  unfold Music.changeDev
  dsimp only
  generalize Music.saveContext frames player = saved at kept sdFits udiskFits
  have idle := kept.stored .none saved.stored
  split
  · rename_i behind
    split
    · exact idle
    · rename_i files
      have positive := Nat.pos_of_ne_zero files
      exact idle.restart (inWindow_toSd kept.window.sd_le positive kept.window.udisk
        (sdFits behind positive)) rfl
  · rename_i before
    split
    · exact idle
    · rename_i files
      have positive := Nat.pos_of_ne_zero files
      exact idle.restart (inWindow_toUdisk (kept.window.udisk positive)
        (udiskFits (Int.not_le.mp before) positive)) rfl

theorem InWindow.withoutUdisk {info : Info} (inWindow : InWindow info) :
    InWindow { info with udiskNum := 0 } :=
  { inWindow with udisk := nofun }

theorem InWindow.withoutSd {info : Info} (inWindow : InWindow info)
    (behind : info.sdNum ≤ info.current) : InWindow { info with sdNum := 0 } := by
  have low := inWindow.low
  have high := inWindow.high
  obtain ⟨_, whole⟩ := inWindow.onUdisk behind
  refine ⟨low, high, inWindow.amount, fun _ => ?_, fun before => ?_, fun _ => ⟨?_, whole⟩⟩
  · dsimp only
    omega
  · dsimp only at before
    omega
  · exact Nat.zero_le _

theorem PlayInv.memOut (inv : PlayInv player) {sd udisk frames : Bool}
    (fits : KeepsWindow player (.memOut sd udisk frames)) :
    PlayInv (memOut sd udisk frames player) := by
  have kept := inv.saveContext frames
  obtain ⟨sdFits, udiskFits⟩ := fits.saveContext frames
  unfold Music.memOut
  dsimp only
  generalize Music.saveContext frames player = saved at kept sdFits udiskFits
  have window := kept.window
  cases sd with
  | true =>
    obtain ⟨files, fits⟩ := sdFits rfl
    rw [if_neg (by simp), if_pos rfl]
    split
    · next behind =>
      have moved := kept.restart (inWindow_toSd window.sd_le files window.udisk (fits behind)) rfl
      exact ⟨moved.window.withoutUdisk, moved.timer, ⟨moved.noted.loads, moved.noted.moduli⟩⟩
    · next behind =>
      obtain ⟨minIdx, maxIdx⟩ := window.onSd (Int.not_le.mp behind)
      refine ⟨(window.congr ?_).withoutUdisk, kept.timer, ⟨kept.noted.loads, kept.noted.moduli⟩⟩
      unfold Info.place
      dsimp only
      rw [minIdx, maxIdx]
  | false =>
    cases udisk with
    | false => exact kept.stored .none saved.stored
    | true =>
      obtain ⟨files, fits⟩ := udiskFits rfl rfl
      rw [if_neg (by simp), if_neg (by simp)]
      split
      · next before =>
        have there := inWindow_toUdisk files (fits before)
        have moved := kept.restart there rfl
        exact ⟨moved.window.withoutSd there.low, moved.timer,
          ⟨moved.noted.loads, moved.noted.moduli⟩⟩
      · next before =>
        have behind := Int.not_lt.mp before
        have whole : InWindow { saved.info with
            minIdx := saved.info.sdNum, maxIdx := saved.info.files.length } :=
          ⟨behind, Int.lt_of_lt_of_le window.high (Int.ofNat_le.mpr window.amount),
            .refl, window.udisk, fun early => absurd early before,
            fun _ => ⟨.refl, rfl⟩⟩
        exact ⟨whole.withoutSd behind, kept.timer, ⟨kept.noted.loads, kept.noted.moduli⟩⟩

theorem setIdx_wrap {minIdx u32Idx : Nat} (positive : 0 < u32Idx)
    (small : minIdx + u32Idx ≤ 2 ^ 32) :
    u32 (u32 (minIdx + u32Idx) + 2 ^ 32 - 1) = minIdx + (u32Idx - 1) := by
  unfold u32
  omega

section

variable (inv : PlayInv player)
include inv

theorem PlayInv.jump {index : Nat} (low : player.info.minIdx ≤ index)
    (high : index < player.info.maxIdx) : PlayInv (System.post
      { (player.post .stop) with info := { (player.post .stop).info with current := index } }
      .start) := by
  have stopped := inv.post .stop
  apply PlayInv.post
  exact ⟨stopped.window.move (Int.ofNat_le.mpr low) (Int.ofNat_lt.mpr high), stopped.timer,
    ⟨stopped.noted.loads, stopped.noted.moduli⟩⟩

theorem PlayInv.setIdx {u32Idx : Nat}
    (fits : KeepsWindow player (.setIdx u32Idx)) : PlayInv (setIdx u32Idx player) := by
  obtain ⟨_, small⟩ := fits
  unfold Music.setIdx
  dsimp only
  split
  · exact inv
  · next zero =>
    split
    · next behind =>
      rw [setIdx_wrap (Nat.pos_of_ne_zero zero) (small behind)]
      obtain ⟨_, whole⟩ := inv.window.onUdisk behind
      split
      · exact inv
      · rename_i inside
        exact inv.jump (Nat.le_add_right _ _) (whole ▸ Nat.lt_of_not_le inside)
    · next behind =>
      obtain ⟨minIdx, maxIdx⟩ := inv.window.onSd (Int.not_le.mp behind)
      split
      · exact inv
      · rename_i inside
        exact inv.jump (minIdx ▸ Nat.zero_le _) (maxIdx ▸ Nat.lt_of_not_le inside)

theorem PlayInv.handle {rand : Nat} {outcome : LoadOutcome}
    (fits : KeepsWindow player (.handle rand outcome)) :
    PlayInv (player.step (.handle rand outcome)) := by
  obtain ⟨nextFits, prevFits⟩ := fits
  unfold System.step
  cases queue : player.info.msgs with
  | nil => exact inv
  | cons msg rest =>
    rw [queue] at nextFits prevFits
    have taken : PlayInv { player with info := { player.info with msgs := rest } } :=
      inv.withInfo rfl rfl
    cases msg with
    | pause => exact taken.setStatus .pause
    | stop => exact taken.setStatus .stoped
    | start => exact taken.playStart outcome
    | next => exact taken.goTo (taken.window.nextIdx (nextFits rfl) rand)
    | prev => exact taken.goTo (taken.window.prevIdx (prevFits rfl) rand)

theorem PlayInv.step (fits : KeepsWindow player action) : PlayInv (player.step action) := by
  cases action with
  | next | prev | start => exact inv.post _
  | changeDev => exact inv.changeDev fits
  | setIdx => exact inv.setIdx fits
  | modeChange =>
    exact PlayInv.stored (@PlayInv.withInfo player inv (modeChange player).info rfl rfl) _ _
  | memIn => exact inv.stored _ _
  | memOut => exact inv.memOut fits
  | handle => exact inv.handle fits
  | trackEnds _ rand =>
    unfold System.step
    dsimp only
    split
    · exact inv
    · split
      · exact inv.goTo (inv.window.nextIdx fits rand)
      · exact inv.setStatus .stoped
  | timer outcome => exact inv.loadDec outcome

end

end

theorem getCurrIdx_lt {info : Info} (files : 0 < info.files.length)
    (udisk : 0 < info.udiskNum → info.sdNum < info.files.length) (lastPos : LastPos) :
    getCurrIdx lastPos info < info.files.length := by
  have named : ∀ start, (searchByName info start 1).getD 0 < info.files.length := by
    intro start
    cases found : searchByName info start 1 with
    | none => exact files
    | some => exact searchByName_lt found
  cases lastPos with
  | none =>
    unfold getCurrIdx
    dsimp only
    split <;> exact named _
  | sd =>
    unfold getCurrIdx
    dsimp only
    split
    · exact files
    · exact named _
  | udisk =>
    unfold getCurrIdx
    dsimp only
    split
    · exact files
    · rename_i some
      have behind := udisk (Nat.pos_of_ne_zero some)
      unfold searchUdisk
      split
      · exact behind
      · cases found : searchUdiskLoop info (info.files.length + 1) 1 with
        | none => exact behind
        | some => exact searchUdiskLoop_lt found

theorem playInv_create {sdNum udiskNum : Nat}
    (amount : files.length = sdNum + udiskNum) (some : 0 < files.length) (lastPos : LastPos)
    (stored : Para) : PlayInv (musicCreate files sdNum udiskNum lastPos stored) := by
  unfold musicCreate
  dsimp only
  generalize (if lastPos = .none then _ else lastPos) = from'
  have inside := @getCurrIdx_lt
    { files := files
      current := 0
      sdNum := sdNum
      udiskNum := udiskNum
      minIdx := 0
      maxIdx := 0
      stCfg := { stored with mode_map := if stored.mode_map = 0 then 0xffff else stored.mode_map }
      eStatus := .stoped
      pstAdec := false
      saved := false
      pstTimer := none
      msgs := [] } some (fun more => by dsimp only at more ⊢; omega) from'
  generalize getCurrIdx from' _ = current at inside
  dsimp only at inside
  refine ⟨?_, ?_, ⟨nofun, nofun⟩⟩
  · split
    · rename_i onUdisk
      obtain ⟨behind, more⟩ := onUdisk
      exact ⟨Int.ofNat_le.mpr behind, Int.ofNat_lt.mpr inside, .refl, fun _ => by dsimp only; omega,
        fun before => absurd (Int.ofNat_lt.mp before) (not_lt.mpr behind),
        fun _ => ⟨.refl, rfl⟩⟩
    · rename_i notUdisk
      have before : current < sdNum := by omega
      rw [if_pos before]
      exact ⟨Int.natCast_nonneg _, Int.ofNat_lt.mpr before, by dsimp only; omega,
        fun more => by dsimp only at more ⊢; omega, fun _ => ⟨rfl, rfl⟩,
        fun behind => absurd (Int.ofNat_le.mp behind) (not_le.mpr before)⟩
  · split
    · nofun
    · split <;> nofun

instance (player : System) (action : Action) : Decidable (KeepsWindow player action) := by
  unfold KeepsWindow NextFits PrevFits
  cases action <;> infer_instance

theorem playlist_index (files : List Name) (sdNum udiskNum : Nat) (lastPos : LastPos)
    (stored : Para) (actions : List Action) (amount : files.length = sdNum + udiskNum)
    (some : 0 < files.length)
    (fits : Along System.step KeepsWindow (musicCreate files sdNum udiskNum lastPos stored)
      actions) :
    (actions.foldl System.step (musicCreate files sdNum udiskNum lastPos stored)).LoadsFit := by
  have preserved : ∀ player action, PlayInv player → KeepsWindow player action →
      PlayInv (player.step action) := fun _ _ inv fits => inv.step fits
  exact (invariant_of_along preserved (playInv_create amount some lastPos stored) fits).noted

def freshPara (playMode : Nat) : Para := ⟨playMode, 0, 0, fun _ => 0⟩

theorem playlist_index_change :
    ([.handle 0 .ok, .next, .handle 0 .ok, .timer .ok, .changeDev true, .handle 0 .ok,
        .handle 0 .ok, .memOut true false true, .handle 0 .ok].foldl System.step
      (musicCreate [[1], [2], [3]] 2 1 .none (freshPara 0))).LoadsFit :=
  playlist_index [[1], [2], [3]] 2 1 .none (freshPara 0) _ rfl (by decide) (by decide)

theorem playlist_index_end : ¬([.next, .handle 0 .ok, .timer .ok].foldl System.step
      (musicCreate [[1]] 1 0 .none (freshPara 2))).LoadsFit ∧
    ¬([.memOut true false true, .next, .handle 0 .ok, .handle 0 .ok].foldl System.step
      (musicCreate [[1]] 0 1 .none (freshPara 3))).LoadsFit := by
  constructor
  · intro all
    exact (all.loads ⟨0, 0, 1, 1, none, false⟩ (by decide)).named rfl
  · intro all
    exact all.moduli 0 (by decide) rfl

end Hfirmware.Player.Music
