/-
The two buffers of the write side as a window of the stream of buffers that a command
fills.
-/

import Hfirmware.RingWindow
import Hfirmware.Usb.WriteStorage

namespace Hfirmware.Usb

open List Nat WDataBuf Function RingWindow

def sector (data : Nat → UInt8) (index : Nat) : List (Option UInt8) :=
  (List.range mmcsdBlockSize).map fun offset => some (data (mmcsdBlockSize * index + offset))

def expectedSectors (data : Nat → UInt8) (block count : Nat) : List (Nat × List (Option UInt8)) :=
  (List.range count).map fun index => (u32 (block + index), sector data index)

def bufferCount (count : Nat) : Nat := (count + 3) / 4

def bufferBlocks (count k : Nat) : Nat := min 4 (count - 4 * k)

structure WCell where
  status : WBufStatus
  len : Nat
  bytes : Nat → Option UInt8

def WDataBuf.cell (w_buf : WDataBuf) (index : Nat) : WCell :=
  { status := w_buf.status index
    len := w_buf.len index
    bytes := w_buf.pbuf index }

/-- Buffer number `k`, with buffer number `current` being filled: `arrived` bytes
of that one have been stored. -/
structure Filled (data : Nat → UInt8) (count current arrived k : Nat) (cell : WCell) : Prop where
  status : cell.status = if k = current then .bufFilling else .bufFull
  len : cell.len = mmcsdBlockSize * bufferBlocks count k
  bytes : ∀ offset, offset < (if k = current then arrived else cell.len) →
    cell.bytes offset = some (data (bufSizDataW * k + offset))

structure Buffers (data : Nat → UInt8) (block count received written : Nat) (filling : Bool)
    (arrived : Nat) (storage : WriteStorage) : Prop where
  fromBlock : storage.g_write_xfer.block = block
  total : storage.g_write_xfer.count = count
  small : count < 2 ^ 16
  done : storage.g_write_xfer.count_done = min (4 * written) count
  head : storage.w_buf.head = received % bufNumDataW
  tail : storage.w_buf.tail = written % bufNumDataW
  revNum : storage.w_buf.rev_num = received
  residue : storage.Residue = mmcsdBlockSize * (count - 4 * received)
  taken : storage.taken = mmcsdBlockSize * min (4 * received) count + arrived
  most : received + filling.toNat ≤ bufferCount count
  cells : Window bufNumDataW storage.w_buf.cell written (received + filling.toNat)
    (Filled data count received arrived) (fun cell => cell.status = .bufEmpty)

section

variable {count k : Nat}

theorem bufferBlocks_pos (more : k < bufferCount count) : 0 < bufferBlocks count k := by
  unfold bufferCount at more
  unfold bufferBlocks
  omega

theorem blocks_left (count k : Nat) :
    count - 4 * k = bufferBlocks count k + (count - 4 * (k + 1)) := by
  unfold bufferBlocks
  omega

theorem blocks_done (count k : Nat) :
    min (4 * (k + 1)) count = min (4 * k) count + bufferBlocks count k := by
  unfold bufferBlocks
  omega

theorem blocks_done_of_lt (more : k < bufferCount count) : min (4 * k) count = 4 * k := by
  unfold bufferCount at more
  omega

theorem blocks_done_eq (count k : Nat) : min (4 * k) count = count ↔ bufferCount count ≤ k := by
  unfold bufferCount
  omega

theorem blocks_left_eq_zero (count k : Nat) : count - 4 * k = 0 ↔ bufferCount count ≤ k := by
  unfold bufferCount
  omega

end

section

variable {data : Nat → UInt8} {block count received written arrived : Nat} {filling : Bool}
  {storage : WriteStorage}

theorem Buffers.of_eq (buffers : Buffers data block count received written filling arrived storage)
    {after : WriteStorage} (xfer : after.g_write_xfer = storage.g_write_xfer)
    (w_buf : after.w_buf = storage.w_buf) (residue : after.Residue = storage.Residue)
    (taken : after.taken = storage.taken) :
    Buffers data block count received written filling arrived after := by
  obtain ⟨fromBlock, total, small, done, head, tail, revNum, left, got, most, cells⟩ := buffers
  rw [← xfer] at fromBlock total done
  rw [← w_buf] at head tail revNum cells
  exact ⟨fromBlock, total, small, done, head, tail, revNum, residue.trans left, taken.trans got,
    most, cells⟩

theorem WDataBuf.cell_update {w_buf after : WDataBuf} {index : Nat} {value : WCell}
    (status : after.status = update w_buf.status index value.status)
    (len : after.len = update w_buf.len index value.len)
    (pbuf : after.pbuf = update w_buf.pbuf index value.bytes) :
    after.cell = update w_buf.cell index value := by
  funext k
  unfold WDataBuf.cell
  rw [status, len, pbuf]
  by_cases same : k = index
  · subst same
    simp only [update_self]
  · simp only [update_of_ne same]

theorem Filled.of_ne {current arrived later next k : Nat} {cell : WCell}
    (filled : Filled data count current arrived k cell) (old : k ≠ current) (stays : k ≠ next) :
    Filled data count next later k cell := by
  obtain ⟨status, len, bytes⟩ := filled
  rw [if_neg old] at status
  refine ⟨by rw [status, if_neg stays], len, fun offset below => bytes offset ?_⟩
  rw [if_neg stays] at below
  rwa [if_neg old]

section

variable (buffers : Buffers data block count received written false 0 storage)
include buffers

theorem Buffers.len_at_begin :
    (if bufSizDataW < storage.Residue then bufSizDataW else storage.Residue) =
      mmcsdBlockSize * bufferBlocks count received := by
  rw [buffers.residue]
  unfold bufSizDataW bufferBlocks mmcsdBlockSize
  split <;> omega

theorem Buffers.beginReceive
    (room : received < written + bufNumDataW) (more : received < bufferCount count) (size : Nat) :
    Buffers data block count received written true 0 (storage.beginReceive size) := by
  have changed : (storage.beginReceive size).w_buf.cell =
      update storage.w_buf.cell (received % bufNumDataW)
        ⟨.bufFilling, mmcsdBlockSize * bufferBlocks count received,
          (storage.beginReceive size).w_buf.pbuf storage.w_buf.head⟩ := by
    rw [← buffers.head, ← buffers.len_at_begin]
    refine cell_update rfl rfl ?_
    unfold WriteStorage.beginReceive WriteStorage.startReceive
    simp only [update_self]
  have cells : Window bufNumDataW storage.w_buf.cell written received
      (Filled data count received 0) (fun cell => cell.status = .bufEmpty) := buffers.cells
  refine { buffers with most := more, cells := ?_ }
  rw [changed]
  refine cells.push room ⟨(if_pos rfl).symm, rfl, fun offset below => ?_⟩
  rw [if_pos rfl] at below
  exact absurd below (Nat.not_lt_zero _)

end

theorem WDataBuf.cell_update_pbuf (w_buf : WDataBuf) (index : Nat) (bytes : Nat → Option UInt8) :
    { w_buf with pbuf := update w_buf.pbuf index bytes }.cell =
      update w_buf.cell index { w_buf.cell index with bytes } :=
  cell_update (update_eq_self _ _).symm (update_eq_self _ _).symm rfl

theorem Buffers.current (buffers : Buffers data block count received written true arrived storage)
    (order : written ≤ received) :
    Filled data count received arrived received (storage.w_buf.cell (received % bufNumDataW)) :=
  buffers.cells.held received order (lt_succ_self _)

theorem Buffers.startReceive
    (buffers : Buffers data block count received written true storage.rxcnt storage)
    (order : written ≤ received) (size : Nat) :
    Buffers data block count received written true storage.rxcnt (storage.startReceive size) := by
  have current := buffers.current order
  refine { buffers with cells := ?_ }
  unfold WriteStorage.startReceive
  rw [cell_update_pbuf, buffers.head]
  refine buffers.cells.write_last order { current with bytes := fun offset below => ?_ }
    fun k content _ held => held
  rw [if_pos rfl] at below
  have kept : ¬(storage.rxcnt ≤ offset ∧ offset < storage.rxcnt + size) := by omega
  dsimp only
  rw [if_neg kept]
  exact current.bytes offset (by rwa [if_pos rfl])

theorem Buffers.stored {size : Nat}
    (buffers : Buffers data block count received written true (storage.rxcnt - size) storage)
    (order : written ≤ received) (part : size ≤ storage.rxcnt) :
    Buffers data block count received written true storage.rxcnt (storage.stored data size) := by
  have current := buffers.current order
  have position : storage.taken + size =
      mmcsdBlockSize * min (4 * received) count + storage.rxcnt := by
    rw [buffers.taken]
    omega
  have base : mmcsdBlockSize * min (4 * received) count = bufSizDataW * received := by
    rw [blocks_done_of_lt buffers.most]
    exact (mul_assoc _ _ _).symm
  refine { buffers with taken := position, cells := ?_ }
  unfold WriteStorage.stored
  rw [cell_update_pbuf, buffers.head]
  refine buffers.cells.write_last order { current with bytes := fun offset below => ?_ }
    fun k content before held => held.of_ne before.ne before.ne
  rw [if_pos rfl] at below
  dsimp only
  by_cases fresh : storage.rxcnt - size ≤ offset
  · rw [if_pos ⟨fresh, below⟩, buffers.taken, base]
    congr 2
    omega
  · rw [if_neg fun inside => fresh inside.1]
    exact current.bytes offset (by rw [if_pos rfl]; omega)

theorem Buffers.bufferReceived_eq
    (buffers : Buffers data block count received written filling arrived storage)
    (whole : storage.rxcnt = mmcsdBlockSize * bufferBlocks count received) :
    storage.bufferReceived =
      storage.closeBuffer (mmcsdBlockSize * (count - 4 * (received + 1))) := by
  have small := buffers.small
  have left : u32Sub storage.Residue storage.rxcnt =
      mmcsdBlockSize * (count - 4 * (received + 1)) := by
    rw [buffers.residue, whole, blocks_left count received, u32Sub_of_le, mul_add,
      Nat.add_sub_cancel_left]
    · unfold mmcsdBlockSize bufferBlocks
      omega
    · exact Nat.mul_le_mul_left _ (Nat.le_add_right _ _)
  unfold WriteStorage.bufferReceived
  rw [left]

theorem Buffers.closeBuffer
    (buffers : Buffers data block count received written true storage.rxcnt storage)
    (order : written ≤ received)
    (whole : storage.rxcnt = mmcsdBlockSize * bufferBlocks count received) :
    Buffers data block count (received + 1) written false 0
      (storage.closeBuffer (mmcsdBlockSize * (count - 4 * (received + 1)))) := by
  have current := buffers.current order
  have small := buffers.small
  have most := buffers.most
  have next : (storage.w_buf.head + 1) % bufNumDataW = (received + 1) % bufNumDataW := by
    rw [buffers.head, mod_add_mod]
  have number : u16 (storage.w_buf.rev_num + 1) = received + 1 := by
    rw [buffers.revNum, u16_of_lt]
    unfold bufferCount at most
    omega
  have position : storage.taken = mmcsdBlockSize * min (4 * (received + 1)) count + 0 := by
    rw [buffers.taken, whole, blocks_done, mul_add, add_zero]
  refine ⟨buffers.fromBlock, buffers.total, small, buffers.done, next, buffers.tail, number, rfl,
    position, most, ?_⟩
  have changed : (storage.closeBuffer (mmcsdBlockSize * (count - 4 * (received + 1)))).w_buf.cell =
      update storage.w_buf.cell (received % bufNumDataW)
        { storage.w_buf.cell (received % bufNumDataW) with status := .bufFull } := by
    rw [← buffers.head]
    exact cell_update rfl (update_eq_self _ _).symm (update_eq_self _ _).symm
  have notNext : received ≠ received + 1 := Nat.ne_of_lt (lt_succ_self _)
  rw [changed]
  refine buffers.cells.write_last order ⟨(if_neg notNext).symm, current.len,
      fun offset below => current.bytes offset ?_⟩
    fun k content before held =>
      held.of_ne before.ne (Nat.ne_of_lt (lt_succ_of_lt before))
  rw [if_neg notNext] at below
  rwa [if_pos rfl, whole, ← current.len]

section

variable (buffers : Buffers data block count received written filling arrived storage)
  (before : written < received)
include buffers before

theorem Buffers.first : (storage.w_buf.cell storage.w_buf.tail).status = .bufFull ∧
    storage.w_buf.len storage.w_buf.tail = mmcsdBlockSize * bufferBlocks count written ∧
    ∀ offset, offset < mmcsdBlockSize * bufferBlocks count written →
      storage.w_buf.pbuf storage.w_buf.tail offset =
        some (data (bufSizDataW * written + offset)) := by
  obtain ⟨status, len, bytes⟩ :=
    buffers.cells.held written (.refl) (Nat.lt_add_right _ before)
  rw [if_neg before.ne] at status bytes
  rw [buffers.tail]
  exact ⟨status, len, fun offset below => bytes offset (len ▸ below)⟩

theorem Buffers.blocksAtTail :
    storage.w_buf.len storage.w_buf.tail / mmcsdBlockSize = bufferBlocks count written := by
  rw [(buffers.first before).2.1]
  exact Nat.mul_div_cancel_left _ (by decide)

end

theorem expectedSectors_add (data : Nat → UInt8) (block first more : Nat) :
    expectedSectors data block (first + more) = expectedSectors data block first ++
      (List.range more).map fun index =>
        (u32 (block + first + index), sector data (first + index)) := by
  unfold expectedSectors
  rw [range_add, map_append, map_map]
  congr 1
  refine map_congr_left fun index _ => ?_
  simp only [comp_apply, add_assoc]

theorem sector_eq {bytes : Nat → Option UInt8} {index : Nat}
    (same : ∀ offset, offset < mmcsdBlockSize →
      bytes offset = some (data (mmcsdBlockSize * index + offset))) :
    (List.range mmcsdBlockSize).map bytes = sector data index := by
  exact map_congr_left fun offset inSector => same offset (mem_range.mp inSector)

section

variable (buffers : Buffers data block count received written filling arrived storage)
include buffers

theorem Buffers.sdcWrite (before : written < received) (more : written < bufferCount count)
    (card : storage.card = expectedSectors data block (min (4 * written) count)) :
    storage.sdcWrite.card = expectedSectors data block (min (4 * (written + 1)) count) := by
  obtain ⟨-, -, bytes⟩ := buffers.first before
  unfold WriteStorage.sdcWrite
  rw [buffers.blocksAtTail before, card, blocks_done, expectedSectors_add, buffers.fromBlock,
    buffers.done]
  refine congrArg (expectedSectors data block _ ++ ·) (map_congr_left fun index inBuffer =>
      congrArg (Prod.mk _) (sector_eq fun offset short => ?_))
  have within := mem_range.mp inBuffer
  rw [bytes (mmcsdBlockSize * index + offset), blocks_done_of_lt more]
  · congr 2
    unfold bufSizDataW mmcsdBlockSize
    omega
  · calc mmcsdBlockSize * index + offset < mmcsdBlockSize * index + mmcsdBlockSize := by omega
      _ = mmcsdBlockSize * (index + 1) := (mul_succ _ _).symm
      _ ≤ mmcsdBlockSize * bufferBlocks count written := Nat.mul_le_mul_left _ within

theorem Buffers.bufferWritten (before : written < received) :
    Buffers data block count received (written + 1) filling arrived storage.bufferWritten := by
  have next : (storage.w_buf.tail + 1) % bufNumDataW = (written + 1) % bufNumDataW := by
    rw [buffers.tail, mod_add_mod]
  have done : storage.g_write_xfer.count_done +
      storage.w_buf.len storage.w_buf.tail / mmcsdBlockSize = min (4 * (written + 1)) count := by
    rw [buffers.done, buffers.blocksAtTail before, blocks_done]
  have changed : storage.bufferWritten.w_buf.cell =
      update storage.w_buf.cell (written % bufNumDataW)
        { storage.w_buf.cell (written % bufNumDataW) with status := .bufEmpty } := by
    rw [← buffers.tail]
    exact cell_update rfl (update_eq_self _ _).symm (update_eq_self _ _).symm
  refine { buffers with done, tail := next, cells := ?_ }
  rw [changed]
  exact buffers.cells.pop (Nat.lt_add_right _ before) rfl fun k content _ held => held

theorem Buffers.all_of_residue (last : storage.Residue = 0) : received = bufferCount count := by
  have most := buffers.most
  rw [buffers.residue] at last
  have none := (Nat.mul_eq_zero.mp last).resolve_left (by decide)
  have least := (blocks_left_eq_zero _ _).mp none
  omega

end

end

end Hfirmware.Usb
