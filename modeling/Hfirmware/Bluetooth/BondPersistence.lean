/-
The bonded devices over a whole life of the board: lists are stored, the last connection
goes down, the configuration is flushed, and power is lost and comes back.
-/

import Hfirmware.Bluetooth.BondCopies

namespace Hfirmware.Bluetooth

open List Option Copies GuardedRun NorFlash
open Config (Store FlushType hsCfgFlush hsCfgInit zeroBytes poweredOn boardPara)

inductive BondAction where
  | store (list : List AppDevInst)
  | disconnect
  | flush (type : FlushType)
  | boot

/-- The store, and the lists that were passed to `App_StoreBondedDevice`, the
last one first. -/
structure BondRun where
  store : Store
  stored : List (List AppDevInst)

def BondRun.step (board : BondBoard) (run : BondRun) : BondAction → BondRun
  | .store list =>
    { store := (appStoreBondedDevice board.para board.index run.store list).getD run.store
      stored := list :: run.stored }
  | .disconnect =>
    { run with
      store := (hscHandleBackUpLinkKey board.para board.index run.store).getD run.store }
  | .flush type => { run with store := (hsCfgFlush board.para type run.store).2 }
  | .boot =>
    match appFsmInitPairInfo board.para board.index (hsCfgInit board.para run.store) with
    | some (after, _) => { run with store := after }
    | none => run

/-- What a boot promises once a list has been stored: it loads the first six entries of a
list that was stored, and of the one stored last. -/
def Persistent (board : BondBoard) (run : BondRun) : BondAction → Prop
  | .boot => ∃ after loaded,
      appFsmInitPairInfo board.para board.index (hsCfgInit board.para run.store) =
        some (after, loaded) ∧
      (run.stored ≠ [] → ∃ list ∈ run.stored, loaded = list.take bondedDeviceMaxCount) ∧
      ∀ last, run.stored.head? = some last → loaded = last.take bondedDeviceMaxCount
  | _ => True

/-- A list is stored over an erased backup and its first six addresses are accepted by the
loader. -/
def Undisturbed (board : BondBoard) (run : BondRun) : BondAction → Prop
  | .store list =>
    (∀ k : Fin 139, run.store.flash (backUpFlash + k) = blank) ∧
      ∀ inst ∈ list.take bondedDeviceMaxCount, inst.valid = true
  | .disconnect => True
  | .flush _ => True
  | .boot => run.store.flash backUpFlash = 0x01 ∨
      board.savedPart run.store 1 138 = board.livePart run.store 1 138

/-- The three copies while `list` is the one to keep: the store delivers it, and
a pending backup holds it. -/
structure Holding (copies : Copies) (list : List AppDevInst) : Prop where
  live : copies.live = some (pairInfoOf list)
  pending : copies.backup 0 = 0x01 → copies.backedUp = pairInfoOf list
  valid : ∀ inst ∈ list.take bondedDeviceMaxCount, inst.valid = true

def Kept (copies : Copies) (stored : List (List AppDevInst)) : Prop :=
  ∀ last, stored.head? = some last → Holding copies last

section

variable {copies : Copies} {list : List AppDevInst}

theorem Copies.handle_of_not_flagged (plain : copies.backup 0 ≠ 0x01) : copies.handle = copies :=
  if_pos plain

section

variable (pending : copies.backup 0 = 0x01)
include pending

theorem Copies.handle_of_same (same : copies.live = some copies.backedUp) :
    copies.handle = { copies with backup := erasedBackup } := by
  rw [handle, if_neg (not_not_intro pending), if_pos same]

theorem Copies.handle_of_other (differs : copies.live ≠ some copies.backedUp) : copies.handle =
      { live := some copies.backedUp
        saved := some copies.backedUp
        backup := erasedBackup } := by
  rw [handle, if_neg (not_not_intro pending), if_neg differs]

theorem Copies.handle_live : copies.handle.live = some copies.backedUp := by
  by_cases same : copies.live = some copies.backedUp
  · rwa [handle_of_same pending same]
  · rw [handle_of_other pending same]

end

theorem Copies.put_erased (erased : copies.backup = erasedBackup) (list : List AppDevInst) :
    (copies.put list).backup = fun k : Fin 139 => flagged (fillDevices list 0 zeroBytes) k := by
  funext k
  simp only [put, erased, erasedBackup, blank_and]

theorem Holding.put (erased : copies.backup = erasedBackup)
    (valid : ∀ inst ∈ list.take bondedDeviceMaxCount, inst.valid) :
    Holding (copies.put list) list := by
  have backup := put_erased erased list
  refine ⟨rfl, fun _ => ?_, valid⟩
  funext k
  unfold backedUp
  rw [backup]
  rfl

theorem Holding.of_erased (live : copies.live = some (pairInfoOf list))
    (erased : copies.backup = erasedBackup)
    (valid : ∀ inst ∈ list.take bondedDeviceMaxCount, inst.valid) :
    Holding copies list := by
  refine ⟨live, fun pending => ?_, valid⟩
  rw [erased] at pending
  exact absurd pending (by decide)

section

variable (holding : Holding copies list)
include holding

theorem Holding.flush : Holding copies.flush list :=
  { holding with }

theorem Holding.handle : Holding copies.handle list := by
  by_cases pending : copies.backup 0 = 0x01
  · rw [Copies.handle_of_same pending (by rw [holding.pending pending, holding.live])]
    exact Holding.of_erased holding.live rfl holding.valid
  · rwa [handle_of_not_flagged pending]

theorem Holding.boot (secured : copies.backup 0 = 0x01 ∨ copies.saved = copies.live) :
    Holding copies.powerLoss.handle list := by
  by_cases pending : copies.powerLoss.backup 0 = 0x01
  · have entries : copies.powerLoss.backedUp = pairInfoOf list := holding.pending pending
    by_cases equal : copies.powerLoss.live = some copies.powerLoss.backedUp
    · rw [Copies.handle_of_same pending equal]
      rw [entries] at equal
      exact Holding.of_erased equal rfl holding.valid
    · rw [Copies.handle_of_other pending equal, entries]
      exact Holding.of_erased rfl rfl holding.valid
  · rw [handle_of_not_flagged pending]
    have saved := secured.resolve_left pending
    exact { holding with live := saved.trans holding.live }

theorem Holding.take_six : Holding copies (list.take bondedDeviceMaxCount) := by
  refine ⟨?_, ?_, fun inst member => holding.valid inst (mem_of_mem_take member)⟩
  · rw [pairInfoOf_take]
    exact holding.live
  · rw [pairInfoOf_take]
    exact holding.pending

end

theorem Copies.load_of_live (live : copies.live = some (pairInfoOf list))
    (valid : ∀ inst ∈ list.take bondedDeviceMaxCount, inst.valid) :
    copies.load = list.take bondedDeviceMaxCount := by
  have whole := loadEntries_pairInfoOf list bondedDeviceMaxCount (zero_add _).le valid
  unfold Copies.load
  rwa [live]

theorem Holding.load (holding : Holding copies list) :
    copies.load = list.take bondedDeviceMaxCount :=
  load_of_live holding.live holding.valid

end

def InHand (board : BondBoard) (run : BondRun) : Prop :=
  ∃ copies, Represents board run.store copies ∧ Kept copies run.stored

theorem Represents.secured {board : BondBoard} {store : Store} {copies : Copies}
    (represents : Represents board store copies) (allowed : store.flash backUpFlash = 0x01 ∨
      board.savedPart store 1 138 = board.livePart store 1 138) :
    copies.backup 0 = 0x01 ∨ copies.saved = copies.live := by
  rwa [← represents.backup 0, ← represents.saved, ← represents.live]

section

variable (board : BondBoard) (run : BondRun) (action : BondAction) (inHand : InHand board run)
  (allowed : Undisturbed board run action)
include board run action inHand allowed

theorem InHand.step : InHand board (run.step board action) := by
  obtain ⟨copies, represents, kept⟩ := inHand
  obtain ⟨store, stored⟩ := run
  cases action with
  | store list =>
    obtain ⟨after, ran, holds⟩ := represents.put list
    have erased : copies.backup = erasedBackup := by
      funext k
      rw [← represents.backup k]
      exact allowed.1 k
    refine ⟨copies.put list, ?_, ?_⟩
    · simp only [BondRun.step, ran]
      exact holds
    · intro last first
      obtain rfl := some.inj first
      exact Holding.put erased allowed.2
  | disconnect =>
    obtain ⟨after, ran, holds⟩ := represents.handle
    refine ⟨copies.handle, ?_, fun last first => (kept last first).handle⟩
    simp only [BondRun.step, ran]
    exact holds
  | flush type =>
    exact ⟨copies.flush, represents.flush type, fun last first => (kept last first).flush⟩
  | boot =>
    obtain ⟨after, ran, holds⟩ := represents.boot
    have same : BondRun.step board ⟨store, stored⟩ .boot = ⟨after, stored⟩ := by
      simp only [BondRun.step, ran]
    rw [same]
    exact ⟨copies.powerLoss.handle, holds,
      fun last first => (kept last first).boot (represents.secured allowed)⟩

theorem InHand.persistent : Persistent board run action := by
  obtain ⟨_, represents, kept⟩ := inHand
  cases action with
  | boot =>
    obtain ⟨after, ran, _⟩ := represents.boot
    have loads (last : List AppDevInst) (first : run.stored.head? = some last) :=
      ((kept last first).boot (represents.secured allowed)).load
    refine ⟨after, _, ran, ?_, loads⟩
    intro some
    obtain ⟨last, _, whole⟩ := exists_cons_of_ne_nil some
    rw [whole] at loads ⊢
    exact ⟨last, .head _, loads last rfl⟩
  | store => trivial
  | disconnect => trivial
  | flush => trivial

end

def BondRun.start (board : BondBoard) (heap : List Bool) : BondRun :=
  { store := poweredOn board.image heap
    stored := [] }

def BondBoard.startCopies (board : BondBoard) (heap : List Bool) : Copies :=
  { live := board.livePart (poweredOn board.image heap) 1 138
    saved := board.savedPart (poweredOn board.image heap) 1 138
    backup := erasedBackup }

theorem BondBoard.represents_start (board : BondBoard) {heap : List Bool}
    (succeed : ∀ outcome ∈ heap, outcome)
    (erased : ∀ k : Fin 139, board.image (backUpFlash + k) = blank) :
    Represents board (BondRun.start board heap).store (board.startCopies heap) :=
  ⟨board.seated_image succeed, rfl, rfl, erased⟩

theorem bonds_persist (board : BondBoard) (heap : List Bool) (actions : List BondAction)
    (succeed : ∀ outcome ∈ heap, outcome = true)
    (erased : ∀ k : Fin 139, board.image (backUpFlash + k) = blank)
    (undisturbed : Along (BondRun.step board) (Undisturbed board) (BondRun.start board heap)
      actions) :
    Along (BondRun.step board) (Persistent board) (BondRun.start board heap) actions := by
  have initial : InHand board (BondRun.start board heap) := by
    refine ⟨board.startCopies heap, board.represents_start succeed erased, ?_⟩
    intro _ first
    cases first
  exact along_of_invariant (InHand.step board) (InHand.persistent board) initial
    undisturbed

/-! A board with the pair information as entry 3 of the index table and the backup area
at `0x22008`; everything else is blank. -/

def bondFlash : Nat → UInt8 := fun a =>
  if a = 0x20003 ∨ a = 0x20005 then 0 else if a = 0x20004 then 0x80
  else if a = 0x20009 then 2 else if a = 0x2000a then 4 else if a = 0x2000b then 0
  else if a = 0x20104 then 139 else if 0x20100 ≤ a ∧ a < 0x20193 then 0
  else blank

def bondBoard : BondBoard where
  para := boardPara
  image := bondFlash
  index := 3
  addr := 0x20100
  attr := 2
  len := 139
  area := 0x22008
  sector := 0xfc000
  bValid := rfl
  ordinary := by decide
  located := rfl
  writable := by decide
  length := by decide
  fits := ⟨by decide, by decide⟩
  oneBlock := by decide
  entryFits := ⟨by decide, by decide⟩
  entryApart := by decide
  areaFound := rfl
  areaRoom := by decide
  bawRoom := by decide
  bawApart := by decide
  sectorAligned := by decide
  sectorRoom := by decide
  sectorOff := by decide
  itemOff := by decide
  bawOff := by decide
  entryOff := by decide
  idle := Config.ofBytes_invalid_of_flag (by decide)
  atBackUp := rfl
  room := by decide

theorem bondBoard_erased (k : Fin 139) : bondBoard.image (backUpFlash + k) = blank := by
  have far : 0xfc000 ≤ backUpFlash + k := Nat.le_add_right _ _
  change bondFlash (backUpFlash + k) = blank
  unfold bondFlash
  simp only [show ¬(backUpFlash + k.val = 0x20003 ∨ backUpFlash + k.val = 0x20005) by omega,
    show ¬backUpFlash + k.val = 0x20004 by omega, show ¬backUpFlash + k.val = 0x20009 by omega,
    show ¬backUpFlash + k.val = 0x2000a by omega, show ¬backUpFlash + k.val = 0x2000b by omega,
    show ¬backUpFlash + k.val = 0x20104 by omega,
    show ¬(0x20100 ≤ backUpFlash + k.val ∧ backUpFlash + k.val < 0x20193) by omega, if_false]

def uniformDevice (byte : UInt8) : AppDevInst :=
  { bd := fun _ => byte
    link_key := fun _ => byte
    key_type := 4 }

theorem bonds_persist_flushed :
    Along (BondRun.step bondBoard) (Persistent bondBoard) (BondRun.start bondBoard [])
      [.store [uniformDevice 3], .flush .all, .disconnect, .boot] := by
  have start := @BondBoard.represents_start _ [] (by decide) bondBoard_erased
  obtain ⟨_, ran, holds⟩ := start.put [uniformDevice 3]
  have flushed := holds.flush .all
  apply bonds_persist bondBoard [] _ (by decide) bondBoard_erased
  obtain ⟨_, handleRan, handleHolds⟩ := flushed.handle
  have holding : Holding ((bondBoard.startCopies []).put [uniformDevice 3]).flush
      [uniformDevice 3] := Holding.flush (Holding.put rfl (by decide))
  have same : ((bondBoard.startCopies []).put [uniformDevice 3]).flush.live =
      some ((bondBoard.startCopies []).put [uniformDevice 3]).flush.backedUp := by
    rw [holding.live, holding.pending rfl]
  refine ⟨⟨bondBoard_erased, by decide⟩, trivial, trivial, .inr ?_, trivial⟩
  simp only [BondRun.step, ran, handleRan, getD_some]
  rw [handleHolds.saved, handleHolds.live, Copies.handle_of_same rfl same]
  rfl

/-- Two lists stored during one connection: the boot loads the bitwise conjunction of
the two. -/
theorem bonds_not_persist_twice :
    ¬Along (BondRun.step bondBoard) (Persistent bondBoard) (BondRun.start bondBoard [])
      [.store [uniformDevice 3], .store [uniformDevice 5], .disconnect, .boot] := by
  rintro ⟨_, _, _, ⟨_, _, ran, among, _⟩, _⟩
  have start := @BondBoard.represents_start _ [] (by decide) bondBoard_erased
  obtain ⟨_, firstRan, firstHolds⟩ := start.put [uniformDevice 3]
  obtain ⟨_, secondRan, secondHolds⟩ := firstHolds.put [uniformDevice 5]
  obtain ⟨_, thirdRan, thirdHolds⟩ := secondHolds.handle
  obtain ⟨_, lastRan, _⟩ := thirdHolds.boot
  simp only [BondRun.step, firstRan, secondRan, thirdRan, getD_some] at ran among
  have both := some.inj (ran.symm.trans lastRan)
  obtain ⟨_, member, same⟩ := among nofun
  have differs : (((bondBoard.startCopies []).put [uniformDevice 3]).put [uniformDevice 5]).live ≠
      some (((bondBoard.startCopies []).put [uniformDevice 3]).put [uniformDevice 5]).backedUp := by
    intro equal
    exact absurd (congrFun (some.inj equal) 0) (by decide)
  have handled := Copies.handle_of_other rfl differs
  have spoiled := (congrArg Prod.snd both).trans (congrArg (fun copies : Copies =>
    copies.powerLoss.handle.load) handled)
  dsimp only at spoiled
  rw [spoiled] at same
  revert same
  rcases mem_cons.mp member with rfl | older
  · decide
  · obtain rfl := mem_singleton.mp older
    decide

end Hfirmware.Bluetooth
