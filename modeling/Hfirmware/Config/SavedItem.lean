/-
One configuration item with its two copies.
-/

import Hfirmware.Config.Items

namespace Hfirmware.Config

open List ByteImage Store NorFlash BlockWalk

/-- A flash image with a writable item that lies in one cache block, the backup
area of the store, and a sector that is neither. -/
structure ItemBoard where
  para : Para
  image : Nat → UInt8
  (index addr attr len area sector : Nat)
  bValid : para.bValid = true
  ordinary : index ≠ bawAread ∧ index ≠ soundInfo
  located : decodeIndex para index (fun k => image ((cfgIdxAddr para index + k) % 2 ^ 28)) =
    .ok (addr, attr)
  writable : attr &&& cfgDataWrMask ≠ 0
  length : word image (addr % 2 ^ 28 + 4) = len
  fits : Fits (cfgWindow para) addr (8 + len)
  oneBlock : addr % 4096 + (8 + len) ≤ 4096
  entryFits : Fits (cfgWindow para) (cfgIdxAddr para index) 3
  entryApart : cfgIdxAddr para index + 3 ≤ addr ∨ addr + 8 + len ≤ cfgIdxAddr para index
  areaFound : bawOffset para image = .ok area
  areaRoom : area % 2 ^ 28 + 8192 ≤ 2 ^ 24
  bawRoom : bawEntry para + 3 ≤ 2 ^ 24
  bawApart : bawEntry para + 3 ≤ addr % 2 ^ 28 ∨ addr % 2 ^ 28 + 8 + len ≤ bawEntry para
  sectorAligned : sector % 4096 = 0
  sectorRoom : sector + 4096 ≤ 2 ^ 24
  sectorOff : ¬InBackupArea area sector
  itemOff : ¬InBackupArea area (addr % 2 ^ 28) ∧ addr % 2 ^ 28 / 4096 ≠ sector / 4096
  bawOff : ¬InBackupArea area (bawEntry para) ∧ bawEntry para / 4096 ≠ sector / 4096
  entryOff : ∀ k < 3, ¬InBackupArea area ((cfgIdxAddr para index + k) % 2 ^ 28) ∧
    (cfgIdxAddr para index + k) % 2 ^ 28 / 4096 ≠ sector / 4096
  idle : (HsCfgBkw.ofBytes (hsCfgHalRead image area)).valid = false

structure ItemBoard.Untouched (board : ItemBoard) (a : Nat) : Prop where
  item : ¬(board.addr ≤ a ∧ a < board.addr + 8 + board.len)
  area : ¬InBackupArea board.area (a % 2 ^ 28)
  sector : a % 2 ^ 28 / 4096 ≠ board.sector / 4096

structure ItemBoard.Seated (board : ItemBoard) (store : Store) : Prop where
  cached : store.cache = [] ∨
    ∃ block, store.cache = [block] ∧ block.u32PhyAddr = cacheBkAlign board.addr
  heap : ∀ outcome ∈ store.heap, outcome = true
  live : ∀ a, cfgWindow board.para ≤ a → a < cfgWindow board.para + 2 ^ 24 → board.Untouched a →
    store.byteAt a = board.image (a % 2 ^ 28)
  saved : ∀ a, cfgWindow board.para ≤ a → a < cfgWindow board.para + 2 ^ 24 →
    board.Untouched a → store.flash (a % 2 ^ 28) = board.image (a % 2 ^ 28)
  liveLength : word store.byteAt (board.addr + 4) = board.len
  savedLength : word store.flash (board.addr % 2 ^ 28 + 4) = board.len
  idle : (HsCfgBkw.ofBytes (hsCfgHalRead store.flash board.area)).valid = false

def poweredOn (flash : Nat → UInt8) (heap : List Bool) : Store :=
  { flash := flash
    cache := []
    heap := heap }

def itemPart (bytes : Nat → UInt8) (addr len offset count : Nat) : Option (Fin count → UInt8) :=
  if word bytes addr = u32 (byteSum bytes (addr + 8) len) then
    some fun k => bytes (addr + 8 + offset + k)
  else none

variable {bytes : Nat → UInt8} {addr len : Nat}

open ItemBoard

theorem itemPart_of_sum {offset count : Nat}
    (sum : word bytes addr = u32 (byteSum bytes (addr + 8) len)) :
    itemPart bytes addr len offset count =
      some fun k : Fin count => bytes (addr + 8 + offset + k) :=
  if_pos sum

theorem itemPart_of_not_sum {offset count : Nat}
    (wrong : ¬word bytes addr = u32 (byteSum bytes (addr + 8) len)) :
    itemPart bytes addr len offset count = none :=
  if_neg wrong

theorem itemPart_congr {left right : Nat → UInt8} {a b offset count : Nat}
    (inside : offset + count ≤ len) (same : ∀ k < 8 + len, left (a + k) = right (b + k)) :
    itemPart left a len offset count = itemPart right b len offset count := by
  have tags := word_congr fun k below => same k (by omega)
  have sums : byteSum left (a + 8) len = byteSum right (b + 8) len := by
    apply byteSum_congr
    intro k below
    have shifted := same (8 + k) (by omega)
    rwa [← add_assoc, ← add_assoc] at shifted
  have parts : (fun k : Fin count => left (a + 8 + offset + k)) =
      fun k : Fin count => right (b + 8 + offset + k) := by
    funext k
    have shifted := same (8 + offset + k) (by omega)
    rwa [← add_assoc, ← add_assoc, ← add_assoc, ← add_assoc] at shifted
  unfold itemPart
  rw [tags, sums, parts]

variable {length : Nat} {buf : Nat → UInt8}

theorem itemPart_rewritten {target offset count : Nat} :
    itemPart (rewrittenItem bytes addr len target length buf) addr len offset count =
      some fun k : Fin count => patch bytes target length buf (addr + 8 + offset + k) := by
  unfold itemPart
  rw [if_pos (rewrittenItem_sum target)]
  congr 1
  funext k
  exact rewrittenItem_body (by omega)

theorem Store.byteAt_empty {store : Store} (empty : store.cache = []) (a : Nat) :
    store.byteAt a = store.flash (a % 2 ^ 28) := by
  unfold byteAt
  rw [empty]
  rfl

variable {block : CacheBlock}

theorem Store.byteAt_single {store : Store} (single : store.cache = [block]) (a : Nat) :
    store.byteAt a =
      if Covers 4096 block.u32PhyAddr a then block.u8VtCache (a - block.u32PhyAddr)
      else store.flash (a % 2 ^ 28) := by
  unfold byteAt
  rw [single]
  by_cases covers : Covers 4096 block.u32PhyAddr a
  · simp [find?, covers]
  · simp [find?, covers]

variable {starts : List Nat}

theorem inOrder_single {block : Nat} (only : starts = [] ∨ starts = [block])
    (offset len : Nat) : InOrder 4096 starts offset len := by
  rcases only with rfl | rfl
  · exact List.Pairwise.nil
  · exact pairwise_singleton _ _

theorem touched_single {offset block : Nat}
    (only : starts = [] ∨ starts = [cacheBkAlign block]) (some : 0 < len)
    (low : cacheBkAlign block ≤ offset) (high : offset + len ≤ cacheBkAlign block + 4096) :
    touched starts offset len = [cacheBkAlign block] := by
  have aligned := cacheBkAlign_aligned block
  have number : offset / 4096 = cacheBkAlign block / 4096 := by omega
  have last : (offset + len - 1) / 4096 = cacheBkAlign block / 4096 := by omega
  have back : cacheBkAlign block / 4096 * 4096 = cacheBkAlign block := by omega
  have one : blocksOf offset len = [cacheBkAlign block] := by
    unfold blocksOf
    rw [if_neg (by omega), last, number, Nat.sub_self]
    exact congrArg (fun start => [start]) back
  unfold touched
  rw [one]
  rcases only with rfl | rfl
  · simp
  · simp

/-- `hs_cfg_Init` after a power loss: the cache starts empty and `hs_cfg_restore`
finishes a flush that was cut. -/
def hsCfgInit (para : Para) (store : Store) : Store :=
  { store with
    flash := applyAll g_SFInfo store.flash (cfgCachememRestore para store.flash).2
    cache := [] }

section

variable {board : ItemBoard} {store : Store}

theorem ItemBoard.block_bounds (board : ItemBoard) :
    cfgWindow board.para ≤ cacheBkAlign board.addr ∧
      cacheBkAlign board.addr + 4096 ≤ cfgWindow board.para + 2 ^ 24 ∧
        cacheBkAlign board.addr ≤ board.addr ∧
          board.addr + (8 + board.len) ≤ cacheBkAlign board.addr + 4096 := by
  have base := (cfgWindow_isWindow board.para).1
  have low := board.fits.low
  have high := board.fits.high
  have inside := board.oneBlock
  simp only [cacheBkAlign, cfgBkwBlockSize]
  omega

theorem ItemBoard.Seated.phys_eq (seated : board.Seated store) :
    phys store.cache = [] ∨ phys store.cache = [cacheBkAlign board.addr] := by
  rcases seated.cached with empty | ⟨block, single, start⟩
  · left
    rw [empty, phys_nil]
  · right
    rw [single, phys_cons, phys_nil, start]

theorem sited_single (board : ItemBoard) (only : starts = [] ∨ starts = [cacheBkAlign board.addr]) :
    Sited (cfgWindow board.para) starts := by
  have bounds := board.block_bounds
  rcases only with rfl | rfl
  · exact ⟨by simp, by simp, .nil⟩
  · refine ⟨?_, ?_, nodup_singleton _⟩
    · intro start member
      rw [mem_singleton.mp member]
      exact cacheBkAlign_aligned _
    · intro start member
      rw [mem_singleton.mp member]
      exact ⟨bounds.1, bounds.2.1⟩

theorem ItemBoard.Seated.holds (seated : board.Seated store) :
    Holds (cfgWindow board.para) store.byteAt store :=
  holds_byteAt (cfgWindow_isWindow _) (sited_single board seated.phys_eq)

theorem ItemBoard.Seated.located (seated : board.Seated store) :
    cfgGetOffsetByIndex board.para store board.index = some (.ok (board.addr, board.attr)) := by
  have fits := board.entryFits
  have read := seated.holds.read (cfgWindow_isWindow _) fits (inOrder_single seated.phys_eq _ _)
    zeroBytes
  have valid : ¬(board.para.bValid = false ∧ board.index ≠ bawAread) := by
    rw [board.bValid]
    simp
  simp only [cfgGetOffsetByIndex, if_neg valid, if_pos board.ordinary.1, cfgIndexLength, read,
    Option.map_some]
  rw [← board.located]
  congr 1
  apply decodeIndex_congr
  intro k below
  have off := board.entryOff k below
  have apart := board.entryApart
  obtain ⟨low, high⟩ := fits
  rw [patch_inside _ _ (Nat.zero_le _) (by omega), Nat.sub_zero]
  exact seated.live _ (by omega) (by omega) ⟨by omega, off.1, off.2⟩

theorem ItemBoard.untouched_baw (board : ItemBoard) {k : Nat} (below : k < 3) :
    let after := cfgWindow board.para + bawEntry board.para + k
    board.Untouched after ∧ after % 2 ^ 28 = bawEntry board.para + k := by
  have base := (cfgWindow_isWindow board.para).1
  have room := board.bawRoom
  have apart := board.bawApart
  have low := board.fits.low
  have sector := bawEntry_sector board.para below
  obtain ⟨areaOff, sectorOff⟩ := board.bawOff
  have address : (cfgWindow board.para + bawEntry board.para + k) % 2 ^ 28 =
      bawEntry board.para + k := by omega
  refine ⟨⟨by omega, ?_, ?_⟩, address⟩
  · rw [address]
    unfold InBackupArea at areaOff ⊢
    rwa [sector]
  · rwa [address, sector]

theorem ItemBoard.Seated.area_eq (seated : board.Seated store) :
    bawOffset board.para store.flash = .ok board.area := by
  rw [← board.areaFound]
  apply bawOffset_congr
  intro _ below
  obtain ⟨untouched, address⟩ := board.untouched_baw below
  have room := board.bawRoom
  have kept := seated.saved _ (by omega) (by omega) untouched
  rwa [address] at kept

theorem ItemBoard.seated_image (board : ItemBoard) {heap : List Bool}
    (succeed : ∀ outcome ∈ heap, outcome) : board.Seated (poweredOn board.image heap) := by
  have base := (cfgWindow_isWindow board.para).1
  have low := board.fits.low
  have high := board.fits.high
  refine ⟨.inl rfl, succeed, fun a _ _ _ => rfl, fun a _ _ _ => rfl, ?_, board.length, board.idle⟩
  rw [← board.length]
  apply word_congr
  intro k below
  exact congrArg board.image (by omega)

theorem ItemBoard.Seated.malloc (seated : board.Seated store) :
    store.malloc = (true, { store with heap := store.heap.tail }) ∧
      board.Seated { store with heap := store.heap.tail } :=
  ⟨malloc_of_heap seated.heap,
    { seated with heap := fun outcome member => seated.heap outcome (mem_of_mem_tail member) }⟩

def partBytes {count : Nat} (part : Fin count → UInt8) : Nat → UInt8 := fun k =>
  if below : k < count then part ⟨k, below⟩ else 0

theorem ItemBoard.Seated.get (seated : board.Seated store) {offset : Nat}
    (inside : offset + length ≤ board.len) (buf : Nat → UInt8) :
    hsCfgGetPartDataByIndex board.para store board.index buf length offset =
      some (match itemPart store.byteAt board.addr board.len offset length with
        | some part => (.ok, patch buf 0 length (partBytes part),
            { store with heap := store.heap.tail })
        | none => (.error, buf, { store with heap := store.heap.tail })) := by
  rw [hsCfgGetPartDataByIndex_checked seated.holds seated.heap seated.located seated.liveLength
    board.fits inside (inOrder_single seated.phys_eq _ _) (inOrder_single seated.phys_eq _ _)
    (fun _ _ => inOrder_single seated.phys_eq _ _) board.ordinary.2]
  by_cases sum : word store.byteAt board.addr =
      u32 (byteSum store.byteAt (board.addr + 8) board.len)
  · have same : patch buf 0 length (fun k => store.byteAt (board.addr + 8 + offset + k)) =
        patch buf 0 length (partBytes fun k : Fin length =>
          store.byteAt (board.addr + 8 + offset + k)) := by
      apply patch_congr
      intro k below
      rw [partBytes, dif_pos below]
    rw [if_pos sum, itemPart_of_sum sum, same]
  · rw [if_neg sum, itemPart_of_not_sum sum]

theorem ItemBoard.Seated.set (seated : board.Seated store) {offset : Nat} (some : 0 < length)
    (inside : offset + length ≤ board.len) (buf : Nat → UInt8) :
    ∃ after, hsCfgSetDataByIndex board.para store board.index buf length offset =
        Option.some (.ok, after) ∧ board.Seated after ∧ after.flash = store.flash ∧
      ∀ a, cfgWindow board.para ≤ a → a < cfgWindow board.para + 2 ^ 24 →
        after.byteAt a = rewrittenItem store.byteAt board.addr board.len
          (board.addr + 8 + offset) length buf a := by
  have base := cfgWindow_isWindow board.para
  have bounded := board.fits.bounded base
  have bounds := board.block_bounds
  have target : u32 (offset + (board.addr + 8)) = board.addr + 8 + offset := by
    rw [u32_of_lt (by omega)]
    omega
  have final : finalStarts store board.addr (board.addr + 8 + offset) length =
      [cacheBkAlign board.addr] := by
    unfold finalStarts
    rw [touched_single seated.phys_eq some (by omega) (by omega)]
    exact touched_single (.inr rfl) (by decide) (by omega) (by omega)
  have ordered := inOrder_single (.inr final)
  obtain ⟨after, run, wrote⟩ := @hsCfgSetDataByIndex_accepted _ store _
    _ _ _ offset length buf (sited_single board seated.phys_eq) seated.heap
    ⟨seated.located, seated.liveLength⟩ board.writable board.fits
    (by rw [u32_of_lt (by omega)]; exact inside)
    (by
      rw [target]
      exact ⟨⟨by omega, by omega⟩, ordered _ _, ordered _ _, ordered _ _, fun _ _ => ordered _ _⟩)
  rw [target] at wrote
  rw [final] at wrote
  have holdsAfter : Holds (cfgWindow board.para) _ after := wrote.coherent
  have bytes : ∀ a, cfgWindow board.para ≤ a → a < cfgWindow board.para + 2 ^ 24 →
      after.byteAt a = rewrittenItem store.byteAt board.addr board.len
        (board.addr + 8 + offset) length buf a :=
    fun a above below => holdsAfter.byteAt_eq base above below
  refine ⟨after, run, ?_, wrote.flash, bytes⟩
  refine ⟨?_, wrote.heap, ?_, ?_, ?_, ?_, ?_⟩
  · right
    obtain ⟨block, single, start⟩ := map_eq_singleton_iff.mp wrote.starts
    exact ⟨block, single, start⟩
  · intro a above below untouched
    have outside := untouched.item
    rw [bytes a above below, rewrittenItem_outside inside (by omega)]
    exact seated.live a above below untouched
  · rw [wrote.flash]
    exact seated.saved
  · rw [← @rewrittenItem_len _ board.len length buf _ (by omega)
      _]
    exact word_congr fun k below => bytes _ (by omega) (by omega)
  · rw [wrote.flash]
    exact seated.savedLength
  · rw [wrote.flash]
    exact seated.idle

/-! ### Flushing -/

theorem applyAll_blockwr_header {para : Para} {u32BWAddr u32PhyAddr : Nat}
    {content image : Nat → UInt8} (located : bawOffset para image = .ok u32BWAddr)
    (areaRoom : u32BWAddr % 2 ^ 28 + 8192 ≤ 2 ^ 24) :
    applyAll g_SFInfo image (cfgCachememBlockwr para image u32PhyAddr content).2
      (u32BWAddr % 2 ^ 28) = 0 := by
  simp only [cfgCachememBlockwr, located]
  rw [applyAll_append, blockwrTarget, applyAll_append, applyAll_append,
    (writeHeader_programs zeroBytes (by omega)).applyAll_eq,
    program_inside _ (.refl) (by omega), zeroBytes, UInt8.and_zero]

structure ItemBoard.Flushed (board : ItemBoard) (before after : Store) : Prop where
  seated : board.Seated after
  empty : after.cache = []
  flash : ∀ a, cfgWindow board.para ≤ a → a < cfgWindow board.para + 2 ^ 24 →
    ¬InBackupArea board.area (a % 2 ^ 28) → after.flash (a % 2 ^ 28) = before.byteAt a

theorem ItemBoard.item_off (board : ItemBoard) {k : Nat} (below : k < 8 + board.len) :
    ¬InBackupArea board.area ((board.addr + k) % 2 ^ 28) ∧
      (board.addr + k) % 2 ^ 28 / 4096 ≠ board.sector / 4096 ∧
        (board.addr + k) % 2 ^ 28 = board.addr % 2 ^ 28 + k := by
  have inside := board.oneBlock
  obtain ⟨areaOff, _⟩ := board.itemOff
  have address : (board.addr + k) % 2 ^ 28 = board.addr % 2 ^ 28 + k := by omega
  have sector : (board.addr % 2 ^ 28 + k) / 4096 = board.addr % 2 ^ 28 / 4096 := by omega
  rw [address]
  refine ⟨?_, ?_, rfl⟩
  · unfold InBackupArea at areaOff ⊢
    rwa [sector]
  · rwa [sector]

section

variable (seated : board.Seated store)
include seated

theorem ItemBoard.Flushed.of_single
    (single : store.cache = [block]) (start : block.u32PhyAddr = cacheBkAlign board.addr) :
    board.Flushed store { store with
        flash := applyAll g_SFInfo store.flash
          (cfgCachememBlockwr board.para store.flash block.u32PhyAddr block.u8VtCache).2
        cache := [] } := by
  have base := cfgWindow_isWindow board.para
  have windowBase := base.1
  have bounds := board.block_bounds
  have aligned := cacheBkAlign_aligned board.addr
  have flash : ∀ a, cfgWindow board.para ≤ a → a < cfgWindow board.para + 2 ^ 24 →
      ¬InBackupArea board.area (a % 2 ^ 28) →
        applyAll g_SFInfo store.flash
          (cfgCachememBlockwr board.para store.flash block.u32PhyAddr block.u8VtCache).2
          (a % 2 ^ 28) = store.byteAt a := by
    intro a low high off
    have address : a % 2 ^ 28 = a - cfgWindow board.para := by
      omega
    have covered := inBlock_iff base aligned bounds.1 (by omega) low
    rw [start, applyAll_blockwr seated.area_eq board.areaRoom aligned (by omega) off,
      byteAt_single single, start]
    by_cases covers : Covers 4096 (cacheBkAlign board.addr) a
    · rw [if_pos covers, if_pos (address ▸ covered.mpr covers), address]
      exact congrArg block.u8VtCache (by omega)
    · rw [if_neg covers, if_neg (address ▸ mt covered.mp covers)]
  have savedBytes (a : Nat) (low : cfgWindow board.para ≤ a)
      (high : a < cfgWindow board.para + 2 ^ 24) (untouched : board.Untouched a) :
      _ = board.image (a % 2 ^ 28) :=
    (flash a low high untouched.area).trans (seated.live a low high untouched)
  have lengthBytes : ∀ k < 4, applyAll g_SFInfo store.flash
      (cfgCachememBlockwr board.para store.flash block.u32PhyAddr block.u8VtCache).2
        ((board.addr + 4 + k) % 2 ^ 28) = store.byteAt (board.addr + 4 + k) := by
    intro k below
    have off := @item_off board (4 + k) (by omega)
    rw [← add_assoc] at off
    exact flash _ (by omega) (by omega) off.1
  refine ⟨⟨.inl rfl, seated.heap, ?_, savedBytes, ?_, ?_, ?_⟩, rfl, flash⟩
  · intro a low high untouched
    exact savedBytes a low high untouched
  · rw [← seated.liveLength]
    apply word_congr
    intro k below
    exact lengthBytes k below
  · rw [← seated.liveLength]
    apply word_congr
    intro k below
    have off := @item_off board (4 + k) (by omega)
    rw [← lengthBytes k below, add_assoc, add_assoc, off.2.2]
  · apply ofBytes_invalid_of_flag
    rw [hsCfgHalRead, add_zero]
    dsimp only
    rw [applyAll_blockwr_header seated.area_eq board.areaRoom]
    decide

theorem ItemBoard.Seated.flush (type : FlushType) :
    ∃ after, hsCfgFlush board.para type store = (.ok, after) ∧ board.Flushed store after := by
  rcases seated.cached with empty | ⟨block, single, start⟩
  · refine ⟨store, ?_, seated, empty, fun a _ _ _ => (byteAt_empty empty a).symm⟩
    cases type with
    | all => simp [hsCfgFlush, cfgCachememCleanall, empty, cleanRounds]
    | oneBlock => simp [hsCfgFlush, cfgCachememCleanunit, empty]
  · refine ⟨_, ?_, ItemBoard.Flushed.of_single seated single start⟩
    have unit : cfgCachememCleanunit board.para store = (.ok, { store with
        flash := applyAll g_SFInfo store.flash
          (cfgCachememBlockwr board.para store.flash block.u32PhyAddr block.u8VtCache).2
        cache := [] }) := by
      simp [cfgCachememCleanunit, single, cfgCachememBlockwr, seated.area_eq]
    cases type with
    | all =>
      simp only [hsCfgFlush, cfgCachememCleanall, single, length_cons, length_nil,
        cleanRounds, unit, if_true]
    | oneBlock => simp only [hsCfgFlush, unit, if_true]

theorem ItemBoard.Seated.hsCfgInit_eq :
    hsCfgInit board.para store = { store with cache := [] } := by
  have quiet := quiet_of_invalid seated.area_eq seated.idle
  unfold hsCfgInit
  rw [applyAll_of_quiet quiet]

theorem ItemBoard.Seated.powerLoss : board.Seated (hsCfgInit board.para store) := by
  rw [seated.hsCfgInit_eq]
  refine { seated with cached := .inl rfl, live := ?_, liveLength := ?_ }
  · intro a low high untouched
    exact seated.saved a low high untouched
  · rw [← seated.savedLength]
    apply word_congr
    intro k _
    have off := @item_off board (4 + k) (by omega)
    rw [byteAt_empty rfl, add_assoc, off.2.2, add_assoc]

end

variable {flash : Nat → UInt8}

theorem ItemBoard.byteAt_of_sector (board : ItemBoard)
    (same : ∀ a, a / 4096 ≠ board.sector / 4096 → flash a = store.flash a) {a : Nat}
    (off : a % 2 ^ 28 / 4096 ≠ board.sector / 4096) :
    byteAt { store with flash } a = store.byteAt a := by
  unfold byteAt
  cases store.cache.find? fun block => Covers 4096 block.u32PhyAddr a with
  | some => rfl
  | none => exact same _ off

theorem ItemBoard.Seated.sectorChanged (seated : board.Seated store)
    (same : ∀ a, a / 4096 ≠ board.sector / 4096 → flash a = store.flash a) :
    board.Seated { store with flash } := by
  have length (k : Nat) (below : k < 4) := @item_off board (4 + k) (by omega)
  refine ⟨seated.cached, seated.heap, ?_, ?_, ?_, ?_, ?_⟩
  · intro a low high untouched
    rw [board.byteAt_of_sector same untouched.sector]
    exact seated.live a low high untouched
  · intro a low high untouched
    exact (same _ untouched.sector).trans (seated.saved a low high untouched)
  · rw [← seated.liveLength]
    apply word_congr
    intro k below
    apply board.byteAt_of_sector same
    rw [add_assoc]
    exact (length k below).2.1
  · rw [← seated.savedLength]
    apply word_congr
    intro k below
    apply same
    rw [add_assoc, ← (length k below).2.2]
    exact (length k below).2.1
  · rw [← seated.idle]
    congr 1
    apply ofBytes_congr
    intro k below
    apply same
    have off := board.sectorOff
    unfold InBackupArea at off
    omega

/-! ### The two copies -/

def ItemBoard.livePart (board : ItemBoard) (store : Store) (offset count : Nat) :
    Option (Fin count → UInt8) :=
  itemPart store.byteAt board.addr board.len offset count

def ItemBoard.savedPart (board : ItemBoard) (store : Store) (offset count : Nat) :
    Option (Fin count → UInt8) :=
  itemPart store.flash (board.addr % 2 ^ 28) board.len offset count

variable {offset count : Nat} {after : Store}

theorem ItemBoard.Flushed.parts (flushed : board.Flushed store after)
    (inside : offset + count ≤ board.len) :
    board.livePart after offset count = board.livePart store offset count ∧
      board.savedPart after offset count = board.livePart store offset count := by
  have low := board.fits.low
  have high := board.fits.high
  have bytes (k : Nat) (below : k < 8 + board.len) :
      after.flash ((board.addr + k) % 2 ^ 28) = store.byteAt (board.addr + k) :=
    flushed.flash _ (by omega) (by omega) (board.item_off below).1
  constructor
  · apply itemPart_congr inside
    intro k below
    rw [byteAt_empty flushed.empty]
    exact bytes k below
  · apply itemPart_congr inside
    intro k below
    rw [← bytes k below, (board.item_off below).2.2]

theorem ItemBoard.Flushed.sector (flushed : board.Flushed store after)
    (seated : board.Seated store) {k : Nat} (below : k < 4096) :
    after.flash (board.sector + k) = store.flash (board.sector + k) := by
  have base := (cfgWindow_isWindow board.para).1
  have room := board.sectorRoom
  have aligned := board.sectorAligned
  have bounds := board.block_bounds
  have blockAligned := cacheBkAlign_aligned board.addr
  have areaOff := board.sectorOff
  have itemOff := board.itemOff.2
  have address : (cfgWindow board.para + board.sector + k) % 2 ^ 28 = board.sector + k := by omega
  have same : (board.sector + k) / 4096 = board.sector / 4096 := by omega
  have kept := flushed.flash (cfgWindow board.para + board.sector + k) (by omega) (by omega) (by
    rw [address]
    unfold InBackupArea at areaOff ⊢
    rwa [same])
  rw [address] at kept
  rw [kept]
  rcases seated.cached with empty | ⟨block, single, start⟩
  · rw [byteAt_empty empty, address]
  · rw [byteAt_single single, start, if_neg, address]
    unfold Covers
    omega

theorem ItemBoard.Seated.powerLoss_parts (seated : board.Seated store)
    (inside : offset + count ≤ board.len) :
    board.livePart (hsCfgInit board.para store) offset count = board.savedPart store offset count ∧
      board.savedPart (hsCfgInit board.para store) offset count =
        board.savedPart store offset count := by
  rw [seated.hsCfgInit_eq]
  refine ⟨?_, rfl⟩
  apply itemPart_congr inside
  intro _ below
  rw [byteAt_empty rfl, (board.item_off below).2.2]

theorem ItemBoard.sectorChanged_parts (board : ItemBoard)
    (same : ∀ a, a / 4096 ≠ board.sector / 4096 → flash a = store.flash a)
    (inside : offset + count ≤ board.len) :
    board.livePart { store with flash } offset count = board.livePart store offset count ∧
      board.savedPart { store with flash } offset count = board.savedPart store offset count := by
  constructor
  · apply itemPart_congr inside
    intro k below
    exact board.byteAt_of_sector same (board.item_off below).2.1
  · apply itemPart_congr inside
    intro k below
    apply same
    rw [← (board.item_off below).2.2]
    exact (board.item_off below).2.1

theorem ItemBoard.livePart_set {start : Nat}
    (written : ∀ a, cfgWindow board.para ≤ a → a < cfgWindow board.para + 2 ^ 24 → after.byteAt a =
        rewrittenItem store.byteAt board.addr board.len (board.addr + 8 + start) length buf a)
    (low : start ≤ offset) (high : offset + count ≤ start + length)
    (inside : start + length ≤ board.len) :
    board.livePart after offset count = some fun k : Fin count => buf (offset - start + k) := by
  have lowFits := board.fits.low
  have highFits := board.fits.high
  have same : board.livePart after offset count =
      itemPart (rewrittenItem store.byteAt board.addr board.len (board.addr + 8 + start) length buf)
        board.addr board.len offset count :=
    itemPart_congr (by omega) fun k below => written _ (by omega) (by omega)
  rw [same, itemPart_rewritten]
  congr 1
  funext k
  rw [patch_inside _ _ (by omega) (by omega)]
  exact congrArg buf (by omega)

end

end Hfirmware.Config
