/-
The bonded devices as three byte strings: the item as the store delivers it, the item as
a power loss leaves it, and the backup.
-/

import Hfirmware.Bluetooth.BondStore

namespace Hfirmware.Bluetooth

open List Option AppDevInst ByteImage NorFlash
open Config (Para Store CfgRes FlushType ItemBoard g_SFInfo hsCfgHalRead hsCfgHalWrite
  hsCfgHalErase hsCfgGetPartDataByIndex hsCfgSetDataByIndex hsCfgFlush hsCfgInit zeroBytes
  partBytes itemPart)

abbrev PairInfo := Fin 138 → UInt8

structure Copies where
  (live saved : Option PairInfo)
  backup : Fin 139 → UInt8

def pairInfoOf (list : List AppDevInst) : PairInfo := fun k => fillDevices list 0 zeroBytes k

def Copies.backedUp (copies : Copies) : PairInfo := fun k => copies.backup k.succ

def erasedBackup : Fin 139 → UInt8 := fun _ => blank

def Copies.put (copies : Copies) (list : List AppDevInst) : Copies :=
  { copies with
    live := some (pairInfoOf list)
    backup := fun k => copies.backup k &&& flagged (fillDevices list 0 zeroBytes) k }

def Copies.handle (copies : Copies) : Copies :=
  if copies.backup 0 ≠ 0x01 then copies
  else if copies.live = some copies.backedUp then { copies with backup := erasedBackup }
  else
    { live := some copies.backedUp
      saved := some copies.backedUp
      backup := erasedBackup }

def Copies.flush (copies : Copies) : Copies := { copies with saved := copies.live }

def Copies.powerLoss (copies : Copies) : Copies := { copies with live := copies.saved }

def Copies.clear (copies : Copies) : Copies := { copies with live := some fun _ => 0 }

def loadEntries (info : Nat → UInt8) : Nat → Nat → List AppDevInst
  | 0, _ => []
  | count + 1, index =>
    let inst := AppDevInst.ofBytes fun k => info (index * pairEntrySize + k)
    if inst.valid then inst :: loadEntries info count (index + 1) else []

def Copies.load (copies : Copies) : List AppDevInst :=
  match copies.live with
  | some info => loadEntries (partBytes info) bondedDeviceMaxCount 0
  | none => []

@[simp] theorem AppDevInst.ofBytes_bytes (inst : AppDevInst) : ofBytes inst.bytes = inst := by
  obtain ⟨_, link_key, _⟩ := inst
  simp only [ofBytes, mk.injEq]
  refine ⟨?_, ?_, rfl⟩
  · funext k
    exact dif_pos k.isLt
  · funext k
    simp only [bytes]
    rw [dif_neg (by omega), dif_pos (by omega)]
    exact congrArg link_key (Fin.ext (by simp))

theorem AppDevInst.ofBytes_congr {left right : Nat → UInt8}
    (same : ∀ k < pairEntrySize, left k = right k) : ofBytes left = ofBytes right := by
  unfold pairEntrySize at same
  simp only [ofBytes, mk.injEq]
  refine ⟨?_, ?_, same 22 (by omega)⟩
  · funext k
    exact same k (by omega)
  · funext k
    exact same (6 + k) (by omega)

theorem AppDevInst.zero_not_valid : (ofBytes zeroBytes).valid = false := by decide

section

variable (list : List AppDevInst)

theorem fillDevices_entry (index : Nat) (devices : Nat → UInt8) {n k : Nat}
    (entry : n < bondedDeviceMaxCount) (inside : k < pairEntrySize) :
    fillDevices list index devices (n * pairEntrySize + k) =
      if index ≤ n then
        match list[n - index]? with
        | some inst => inst.bytes k
        | none => devices (n * pairEntrySize + k) else devices (n * pairEntrySize + k) := by
  unfold bondedDeviceMaxCount at entry
  unfold pairEntrySize at inside ⊢
  induction list generalizing index devices with
  | nil =>
    split <;> rfl
  | cons inst rest ih =>
    rw [fillDevices]
    by_cases room : index < bondedDeviceMaxCount
    · rw [if_pos room, ih]
      unfold pairEntrySize
      rcases lt_trichotomy index n with before | rfl | after
      · have step : n - index = n - (index + 1) + 1 := by omega
        rw [if_pos (show index + 1 ≤ n by omega), if_pos (show index ≤ n by omega), step,
          List.getElem?_cons_succ]
        cases rest[n - (index + 1)]? with
        | some => rfl
        | none => exact patch_outside _ _ (by omega)
      · rw [if_neg (by omega), if_pos (.refl), Nat.sub_self, List.getElem?_cons_zero,
          patch_inside _ _ (by omega) (by omega), Nat.add_sub_cancel_left]
      · rw [if_neg (by omega), if_neg (by omega)]
        exact patch_outside _ _ (by omega)
    · unfold bondedDeviceMaxCount at room
      rw [if_neg (by unfold bondedDeviceMaxCount; omega), if_neg (by omega)]

theorem partBytes_entry {n k : Nat} (entry : n < bondedDeviceMaxCount)
    (inside : k < pairEntrySize) : partBytes (pairInfoOf list) (n * pairEntrySize + k) =
      match list[n]? with
      | some inst => inst.bytes k
      | none => 0 := by
  have below : n * pairEntrySize + k < 138 := by
    unfold bondedDeviceMaxCount at entry
    unfold pairEntrySize at inside ⊢
    omega
  rw [partBytes, dif_pos below]
  exact fillDevices_entry list 0 zeroBytes entry inside

theorem pairInfoOf_take : pairInfoOf (list.take bondedDeviceMaxCount) = pairInfoOf list := by
  funext k
  have entry : k.val / pairEntrySize < bondedDeviceMaxCount := by
    unfold pairEntrySize bondedDeviceMaxCount
    omega
  have inside : k.val % pairEntrySize < pairEntrySize := Nat.mod_lt _ (by decide)
  have place : k.val / pairEntrySize * pairEntrySize + k.val % pairEntrySize = k.val :=
    Nat.div_add_mod' _ _
  have taken := fillDevices_entry (list.take bondedDeviceMaxCount) 0 zeroBytes entry inside
  have whole := fillDevices_entry list 0 zeroBytes entry inside
  rw [place] at taken whole
  unfold pairInfoOf
  rw [taken, whole, Nat.sub_zero, List.getElem?_take_of_lt entry]

end

variable {index : Nat}

theorem loadEntries_pairInfoOf (list : List AppDevInst) (count : Nat)
    (room : index + count ≤ bondedDeviceMaxCount)
    (valid : ∀ inst ∈ list.take bondedDeviceMaxCount, inst.valid) :
    loadEntries (partBytes (pairInfoOf list)) count index = (list.drop index).take count := by
  induction count generalizing index with
  | zero => rfl
  | succ count ih =>
    have entry {k : Nat} (inside : k < pairEntrySize) :=
      partBytes_entry list (show index < bondedDeviceMaxCount by omega) inside
    rw [loadEntries]
    cases found : list[index]? with
    | some inst =>
      have same : AppDevInst.ofBytes (fun k =>
          partBytes (pairInfoOf list) (index * pairEntrySize + k)) = inst := by
        rw [← ofBytes_bytes inst]
        apply ofBytes_congr
        intro k inside
        rw [entry inside, found]
      obtain ⟨below, here⟩ := List.getElem?_eq_some_iff.mp found
      have member : inst ∈ list.take bondedDeviceMaxCount := by
        rw [← here]
        exact mem_take_iff_getElem.mpr ⟨index, by omega, rfl⟩
      rw [same, if_pos (valid inst member), ih (by omega), drop_eq_getElem_cons below,
        take_succ_cons, here]
    | none =>
      have same : AppDevInst.ofBytes (fun k =>
          partBytes (pairInfoOf list) (index * pairEntrySize + k)) =
            AppDevInst.ofBytes zeroBytes := by
        apply ofBytes_congr
        intro k inside
        rw [entry inside, found]
        rfl
      have past := List.getElem?_eq_none_iff.mp found
      rw [same, zero_not_valid, drop_eq_nil_of_le past, take_nil]
      rfl

structure BondBoard extends ItemBoard where
  atBackUp : sector = backUpFlash
  room : bufferLen + 1 ≤ len

structure Represents (board : BondBoard) (store : Store) (copies : Copies) : Prop where
  seated : board.Seated store
  live : board.livePart store 1 138 = copies.live
  saved : board.savedPart store 1 138 = copies.saved
  backup : ∀ k : Fin 139, store.flash (backUpFlash + k) = copies.backup k

section

variable {board : BondBoard} {store : Store} {copies : Copies}

theorem BondBoard.inside (board : BondBoard) : 1 + 138 ≤ board.len := by
  have room := board.room
  unfold bufferLen at room
  omega

theorem Represents.malloc (represents : Represents board store copies) :
    store.malloc = (true, { store with heap := store.heap.tail }) ∧
      Represents board { store with heap := store.heap.tail } copies :=
  ⟨represents.seated.malloc.1, represents.seated.malloc.2, represents.live, represents.saved,
    represents.backup⟩

theorem Represents.sectorChanged (represents : Represents board store copies)
    {flash : Nat → UInt8} {backup : Fin 139 → UInt8}
    (same : ∀ a, a / 4096 ≠ backUpFlash / 4096 → flash a = store.flash a)
    (changed : ∀ k : Fin 139, flash (backUpFlash + k) = backup k) :
    Represents board { store with flash } { copies with backup } := by
  have outside : ∀ a, a / 4096 ≠ board.sector / 4096 → flash a = store.flash a := by
    rwa [board.atBackUp]
  have parts := board.sectorChanged_parts outside board.inside
  exact ⟨represents.seated.sectorChanged outside, parts.1.trans represents.live,
    parts.2.trans represents.saved, changed⟩

theorem programBackUp_flash (store : Store) (pu8Ptr : Nat → UInt8) :
    (programBackUp store pu8Ptr).flash = program store.flash backUpFlash 139 pu8Ptr :=
  (Config.hsCfgHalWrite_programs (show g_SFInfo.pageSize ∣ 2 ^ 24 by decide) pu8Ptr
    (show backUpFlash % 2 ^ 28 + 139 ≤ 2 ^ 24 by decide)).applyAll_eq store.flash

section

variable (represents : Represents board store copies)
include represents

theorem Represents.programmed (pu8Ptr : Nat → UInt8) : Represents board (programBackUp store pu8Ptr)
    { copies with backup := fun k => copies.backup k &&& pu8Ptr k } := by
  have flash := programBackUp_flash store pu8Ptr
  refine represents.sectorChanged (fun a outside => ?_) (fun k => ?_)
  · refine (congrFun flash a).trans (program_outside _ ?_)
    unfold backUpFlash at outside ⊢
    omega
  · refine (congrFun flash _).trans ?_
    rw [program_inside _ (Nat.le_add_right _ _) (by omega), represents.backup k,
      Nat.add_sub_cancel_left]

theorem Represents.erased :
    Represents board (eraseBackUp store) { copies with backup := erasedBackup } := by
  have flash : (eraseBackUp store).flash = _ :=
    @Config.applyAll_eraseBlock _ _ (by decide) (by decide)
  have start : backUpFlash % 2 ^ 28 = backUpFlash := rfl
  rw [start] at flash
  refine represents.sectorChanged (fun a outside => ?_) (fun k => ?_)
  · refine (congrFun flash a).trans ?_
    rw [Config.eraseRun_one, if_neg outside]
  · refine (congrFun flash _).trans ?_
    rw [Config.eraseRun_one, if_pos (by unfold backUpFlash; omega)]
    rfl

theorem Represents.set {info : Nat → UInt8} {length start : Nat} (low : start ≤ 1)
    (high : 139 ≤ start + length) (fits : start + length ≤ board.len) :
    ∃ after, hsCfgSetDataByIndex board.para store board.index info length start =
        some (.ok, after) ∧
      Represents board after { copies with live := some fun k => info (1 - start + k) } := by
  obtain ⟨after, run, seated, flash, written⟩ :=
    represents.seated.set (show 0 < length by omega) fits info
  refine ⟨after, run, seated, board.livePart_set written low high fits, ?_, ?_⟩
  · rw [← represents.saved]
    unfold ItemBoard.savedPart
    rw [flash]
  · rw [flash]
    exact represents.backup

theorem Represents.update (info : Nat → UInt8) :
    ∃ after, appCfgUpdatePairInfo board.para board.index store info = some after ∧
      Represents board after { copies with live := some fun k => info k } := by
  obtain ⟨after, run, updated⟩ := @Represents.set board store copies represents info bufferLen 1
    (.refl) (.refl) board.inside
  refine ⟨after, ?_, ?_⟩
  · rw [appCfgUpdatePairInfo, run, map_some]
  · simpa only [Nat.sub_self, zero_add] using updated

theorem Represents.clear : ∃ after, appCfgClearPairInfo board.para board.index store = some after ∧
    Represents board after copies.clear := by
  obtain ⟨mallocked, left⟩ := represents.malloc
  obtain ⟨after, run, cleared⟩ := @Represents.set board _ copies left zeroBytes 139 0
    (Nat.zero_le 1) (le_refl 139) (show 0 + 139 ≤ board.len from zero_add 139 ▸ board.room)
  refine ⟨after, ?_, cleared⟩
  simp only [appCfgClearPairInfo, mallocked, if_true, bufferLen]
  rw [run, map_some]

theorem Represents.flush (type : FlushType) :
    Represents board (hsCfgFlush board.para type store).2 copies.flush := by
  obtain ⟨_, run, flushed⟩ := represents.seated.flush type
  have parts := flushed.parts board.inside
  rw [run]
  refine ⟨flushed.seated, parts.1.trans represents.live, parts.2.trans represents.live, ?_⟩
  intro k
  have kept := flushed.sector represents.seated (show k.val < 4096 by omega)
  rw [board.atBackUp] at kept
  exact kept.trans (represents.backup k)

theorem Represents.powerLoss : Represents board (hsCfgInit board.para store) copies.powerLoss := by
  have parts := represents.seated.powerLoss_parts board.inside
  refine ⟨represents.seated.powerLoss, parts.1.trans represents.saved,
    parts.2.trans represents.saved, ?_⟩
  rw [represents.seated.hsCfgInit_eq]
  exact represents.backup

theorem Represents.put (list : List AppDevInst) :
    ∃ after, appStoreBondedDevice board.para board.index store list = some after ∧
      Represents board after (copies.put list) := by
  obtain ⟨_, run, holds⟩ := represents.update (fillDevices list 0 zeroBytes)
  obtain ⟨mallocked, left⟩ := holds.malloc
  refine ⟨_, ?_, left.programmed (flagged (fillDevices list 0 zeroBytes))⟩
  simp only [appStoreBondedDevice, run, map_some, hscStoreBackUpLinkKey, mallocked, if_true]

theorem Represents.readBackUp (k : Fin 139) :
    hsCfgHalRead store.flash backUpFlash k = copies.backup k :=
  represents.backup k

theorem Represents.copied (info : Nat → UInt8) :
    ∃ after, copyBackUp board.para board.index store info = some after ∧ Represents board after
        { live := some fun k => info k
          saved := some fun k => info k
          backup := erasedBackup } := by
  obtain ⟨_, run, holds⟩ := represents.update info
  refine ⟨_, ?_, (holds.flush .all).erased⟩
  rw [copyBackUp, run, map_some]

theorem Represents.get_some {part : PairInfo} (holds : copies.live = some part) :
    hsCfgGetPartDataByIndex board.para store board.index zeroBytes bufferLen 1 =
      some (.ok, patch zeroBytes 0 bufferLen (partBytes part),
        { store with heap := store.heap.tail }) := by
  have got := represents.seated.get board.inside zeroBytes
  have live : itemPart store.byteAt board.addr board.len 1 138 = some part :=
    represents.live.trans holds
  rwa [live] at got

theorem Represents.get_none (broken : copies.live = none) :
    hsCfgGetPartDataByIndex board.para store board.index zeroBytes bufferLen 1 =
      some (.error, zeroBytes, { store with heap := store.heap.tail }) := by
  have got := represents.seated.get board.inside zeroBytes
  have live : itemPart store.byteAt board.addr board.len 1 138 = none :=
    represents.live.trans broken
  rwa [live] at got

end

theorem backedUp_eq_iff (copies : Copies) (part : PairInfo) {pu8Ptr : Nat → UInt8}
    (read : ∀ k : Fin 139, pu8Ptr k = copies.backup k) :
    (∀ k < bufferLen, pu8Ptr (1 + k) = patch zeroBytes 0 bufferLen (partBytes part) k) ↔
      some part = some copies.backedUp := by
  have shifted (k : Fin 138) : pu8Ptr (1 + k) = copies.backedUp k := by
    have byte := read k.succ
    rwa [Fin.val_succ, add_comm] at byte
  have stored (k : Fin 138) : patch zeroBytes 0 bufferLen (partBytes part) k = part k := by
    have below := k.isLt
    rw [patch_inside _ _ (Nat.zero_le _) (by unfold bufferLen; omega), Nat.sub_zero,
      partBytes, dif_pos below]
  constructor
  · intro same
    congr 1
    funext k
    rw [← stored k, ← shifted k]
    exact (same k k.isLt).symm
  · intro same k below
    have byte := congrFun (some.inj same) ⟨k, below⟩
    rw [← stored ⟨k, below⟩, ← shifted ⟨k, below⟩] at byte
    exact byte.symm

theorem Represents.handle (represents : Represents board store copies) :
    ∃ after, hscHandleBackUpLinkKey board.para board.index store = some after ∧
      Represents board after copies.handle := by
  obtain ⟨firstMalloc, first⟩ := represents.malloc
  obtain ⟨secondMalloc, second⟩ := first.malloc
  have left := second.malloc.2
  have flag := first.readBackUp 0
  have entries : (fun k : Fin 138 => hsCfgHalRead store.flash backUpFlash (1 + k)) =
      copies.backedUp := by
    funext k
    have byte := first.readBackUp k.succ
    rwa [Fin.val_succ, add_comm] at byte
  obtain ⟨copied, copyRun, copyHolds⟩ :=
    left.copied fun k => hsCfgHalRead store.flash backUpFlash (1 + k)
  rw [entries] at copyHolds
  unfold Copies.handle
  by_cases flagged : copies.backup 0 = 0x01
  · have notOther : ¬hsCfgHalRead store.flash backUpFlash 0 ≠ 0x01 := by
      rwa [not_not, ← flagged]
    rw [if_neg (not_not_intro flagged)]
    cases live : copies.live with
    | none =>
      refine ⟨copied, ?_, copyHolds⟩
      simp only [hscHandleBackUpLinkKey, firstMalloc, if_true, if_neg notOther, secondMalloc,
        second.get_none live, bind_some]
      exact copyRun
    | some part =>
      have same := backedUp_eq_iff copies part first.readBackUp
      simp only [hscHandleBackUpLinkKey, firstMalloc, if_true, if_neg notOther, secondMalloc,
        second.get_some live, bind_some, ne_eq, not_true_eq_false, if_false]
      by_cases equal : some part = some copies.backedUp
      · rw [if_pos (same.mpr equal), if_pos equal, ← live]
        exact ⟨_, rfl, left.erased⟩
      · rw [if_neg (mt same.mp equal), if_neg equal]
        exact ⟨copied, copyRun, copyHolds⟩
  · have other : hsCfgHalRead store.flash backUpFlash 0 ≠ 0x01 := fun same =>
      flagged (flag.symm.trans same)
    rw [if_pos flagged]
    refine ⟨{ store with heap := store.heap.tail }, ?_, first⟩
    simp only [hscHandleBackUpLinkKey, firstMalloc, if_true, if_pos other]

/-! ### The list is loaded -/

theorem itemPart_entry (bytes : Nat → UInt8) (addr len index : Nat)
    (entry : index < bondedDeviceMaxCount) :
    itemPart bytes addr len (1 + index * pairEntrySize) pairEntrySize =
      (itemPart bytes addr len 1 138).map fun info (k : Fin pairEntrySize) =>
        partBytes info (index * pairEntrySize + k) := by
  by_cases sum : word bytes addr = u32 (byteSum bytes (addr + 8) len)
  · rw [Config.itemPart_of_sum sum, Config.itemPart_of_sum sum, map_some]
    congr 1
    funext k
    have inside := k.isLt
    unfold bondedDeviceMaxCount at entry
    unfold pairEntrySize at inside ⊢
    rw [partBytes, dif_pos (by omega)]
    exact congrArg bytes (by simp only; omega)
  · rw [Config.itemPart_of_not_sum sum, Config.itemPart_of_not_sum sum, map_none]

section

variable (represents : Represents board store copies)
include represents

theorem Represents.getPairInfo (entry : index < bondedDeviceMaxCount) :
    ∃ inst, appCfgGetPairInfo board.para board.index store index =
        some (copies.live.isSome && inst.valid, inst, { store with heap := store.heap.tail }) ∧
      ∀ info, copies.live = some info →
        inst = AppDevInst.ofBytes fun k => partBytes info (index * pairEntrySize + k) := by
  have room := board.room
  have fits : 1 + index * pairEntrySize + pairEntrySize ≤ board.len := by
    unfold bondedDeviceMaxCount at entry
    unfold pairEntrySize
    unfold bufferLen at room
    omega
  have got := represents.seated.get fits zeroBytes
  have live : itemPart store.byteAt board.addr board.len 1 138 = copies.live := represents.live
  rw [itemPart_entry _ _ _ _ entry, live] at got
  rw [appCfgGetPairInfo, got]
  cases copies.live with
  | none =>
    refine ⟨AppDevInst.ofBytes zeroBytes, rfl, ?_⟩
    intro info impossible
    cases impossible
  | some info =>
    refine ⟨_, rfl, ?_⟩
    intro _ same
    obtain rfl := some.inj same
    apply ofBytes_congr
    intro k inside
    rw [patch_inside _ _ (Nat.zero_le _) (by omega), Nat.sub_zero, partBytes, dif_pos inside]

theorem Represents.loadFrom {count : Nat} (room : index + count ≤ bondedDeviceMaxCount) :
    ∃ after, loadPairInfo board.para board.index count index store = some (after,
        match copies.live with
        | some info => loadEntries (partBytes info) count index
        | none => []) ∧ Represents board after copies := by
  induction count generalizing index store with
  | zero =>
    refine ⟨store, ?_, represents⟩
    cases copies.live <;> rfl
  | succ count ih =>
    obtain ⟨inst, got, isEntry⟩ :=
      represents.getPairInfo (show index < bondedDeviceMaxCount by omega)
    have left := represents.malloc.2
    obtain ⟨after, run, holds⟩ := ih left (show index + 1 + count ≤ bondedDeviceMaxCount by omega)
    rw [loadPairInfo, got, bind_some]
    cases live : copies.live with
    | none => exact ⟨_, rfl, left⟩
    | some info =>
      rw [live] at run
      have same := isEntry info live
      simp only [isSome_some, Bool.true_and, loadEntries, ← same]
      by_cases valid : inst.valid
      · rw [if_pos valid, if_pos valid, run, map_some]
        exact ⟨after, rfl, holds⟩
      · rw [if_neg valid, if_neg valid]
        exact ⟨_, rfl, left⟩

theorem Represents.boot :
    ∃ after, appFsmInitPairInfo board.para board.index (hsCfgInit board.para store) =
        some (after, copies.powerLoss.handle.load) ∧
      Represents board after copies.powerLoss.handle := by
  obtain ⟨_, run, holds⟩ := represents.powerLoss.handle
  obtain ⟨after, loaded, last⟩ := holds.loadFrom (zero_add bondedDeviceMaxCount).le
  exact ⟨after, by rw [appFsmInitPairInfo, run, bind_some, loaded]; rfl, last⟩

end

end

end Hfirmware.Bluetooth
