/-
The read pipeline as a whole.
-/

import Hfirmware.GuardedRun
import Hfirmware.RingWindow
import Hfirmware.Usb.BulkIn

namespace Hfirmware.Usb

open List Nat Option Storage RingWindow GuardedRun

variable {block count sent : Nat} {sending : Bool} {storage : Storage}

def blocksSent (block sent : Nat) : List Packet :=
  (List.range sent).map fun k => .data (some (u32 (block + k)))

def expectedPackets (block count : Nat) : List Packet := blocksSent block count ++ [.csw 0 0]

def SlotStatus (sending : Bool) (sent k : Nat) (status : BufStatus) : Prop :=
  status = if sending = true ∧ k = sent then .bufSending else .bufFull

structure View where
  inFlight : List Transmission
  callback : Callback
  isPaused : Bool
  count_done : Nat
  stage : Stage
  (Residue Status tail : Nat)
  host : List Packet

def Storage.view (storage : Storage) : View :=
  { inFlight := storage.inFlight
    callback := storage.callback
    isPaused := storage.g_isPaused
    count_done := storage.g_read_xfer.count_done
    stage := storage.stage
    Residue := storage.Residue
    Status := storage.Status
    tail := storage.r_buf.tail
    host := storage.host }

structure InData (block count sent : Nat) (view : View) : Prop where
  stage : view.stage = .stageData
  residue : view.Residue = mmcsdBlockSize * (count - sent)
  more : sent < count
  small : count < 2 ^ 16
  tail : view.tail = sent % bufNumDataR
  host : view.host = blocksSent block sent

/-- How far the command has come with `sent` blocks delivered, and whether a
block is on its way. -/
inductive Phase (block count sent : Nat) (view : View) : Bool → Prop where
  | starting (data : InData block count sent view) (none : view.inFlight = [])
      (idle : view.callback = .idle) (unpaused : view.isPaused = false)
      (first : sent = 0) (unread : view.count_done = 0) : Phase block count sent view false
  | sending (data : InData block count sent view) (txcnt : Nat) (below : txcnt < mmcsdBlockSize)
      (one : view.inFlight = [⟨.slot (sent % bufNumDataR), mmcsdBlockSize, txcnt⟩])
      (idle : view.callback = .idle) (unpaused : view.isPaused = false)
      (read : sent < view.count_done) : Phase block count sent view true
  | paused (data : InData block count sent view) (none : view.inFlight = [])
      (idle : view.callback = .idle) (isPaused : view.isPaused = true)
      (read : view.count_done = sent) : Phase block count sent view false
  | inCallback (data : InData block count sent view) (none : view.inFlight = [])
      (running : view.callback = .posting ∨ view.callback = .posted)
      (unpaused : view.isPaused = false) (started : 0 < sent) : Phase block count sent view false
  | closing (txcnt : Nat) (below : txcnt < bulkCswSize)
      (one : view.inFlight = [⟨.csw, bulkCswSize, txcnt⟩]) (idle : view.callback = .idle)
      (unpaused : view.isPaused = false) (stage : view.stage = .stageCbw)
      (residue : view.Residue = 0) (status : view.Status = 0) (all : sent = count)
      (host : view.host = blocksSent block count) :
      Phase block count sent view false
  | finished (none : view.inFlight = []) (idle : view.callback = .idle)
      (unpaused : view.isPaused = false) (stage : view.stage = .stageCbw) (all : sent = count)
      (host : view.host = expectedPackets block count) :
      Phase block count sent view false

structure Loaded (block count sent : Nat) (sending : Bool) (storage : Storage) : Prop where
  fromBlock : storage.g_read_xfer.block = block
  total : storage.g_read_xfer.count = count
  done_le : storage.g_read_xfer.count_done ≤ count
  head : storage.r_buf.head = storage.g_read_xfer.count_done % bufNumDataR
  statuses : Window bufNumDataR storage.r_buf.status sent storage.g_read_xfer.count_done
    (SlotStatus sending sent) (· = .bufEmpty)
  contents : Window bufNumDataR storage.r_buf.pbuf sent storage.g_read_xfer.count_done
    (fun k content => content = some (u32 (block + k))) (fun _ => True)

/-- The read thread: it reads only into a free slot, and as long as there is a
block to read and a slot for it, it is at work or will be told. -/
structure Reader (block count sent : Nat) (storage : Storage) : Prop where
  underway : storage.readThread = .reading ∨ storage.readThread = .filled →
    storage.g_read_xfer.count_done < count ∧ storage.g_read_xfer.count_done < sent + bufNumDataR
  holding : storage.readThread = .filled →
    storage.r_buf.pbuf storage.r_buf.head = some (u32 (block + storage.g_read_xfer.count_done))
  mail : storage.g_read_mbox ≤ usMailboxSize
  wake : storage.g_read_xfer.count_done < count →
    storage.g_read_xfer.count_done < sent + bufNumDataR →
    storage.readThread ≠ .fetch ∨ 0 < storage.g_read_mbox ∨ storage.cbwPosting = true ∨
      storage.callback = .posting

structure Pipe (block count sent : Nat) (sending : Bool) (storage : Storage) : Prop where
  loaded : Loaded block count sent sending storage
  reader : Reader block count sent storage
  phase : Phase block count sent storage.view sending

variable {view : View} {after : Storage}

section

theorem Loaded.of_eq (loaded : Loaded block count sent sending storage)
    (xfer : after.g_read_xfer = storage.g_read_xfer) (buf : after.r_buf = storage.r_buf) :
    Loaded block count sent sending after := by
  obtain ⟨fromBlock, total, done_le, head, statuses, contents⟩ := loaded
  rw [← xfer, ← buf] at *
  exact ⟨fromBlock, total, done_le, head, statuses, contents⟩

theorem InData.of_eq {after : View} (data : InData block count sent view)
    (stage : after.stage = view.stage) (residue : after.Residue = view.Residue)
    (tail : after.tail = view.tail) (host : after.host = view.host) :
    InData block count sent after :=
  ⟨stage.trans data.stage, residue.trans data.residue, data.more, data.small,
    tail.trans data.tail, host.trans data.host⟩

theorem Reader.of_eq (reader : Reader block count sent storage)
    (xfer : after.g_read_xfer = storage.g_read_xfer)
    (thread : after.readThread = storage.readThread)
    (head : after.r_buf.head = storage.r_buf.head) (pbuf : after.r_buf.pbuf = storage.r_buf.pbuf)
    (mail : after.g_read_mbox = storage.g_read_mbox) (cbw : after.cbwPosting = storage.cbwPosting)
    (callback : storage.callback = .posting → after.callback = .posting) :
    Reader block count sent after := by
  obtain ⟨underway, holding, fits, wake⟩ := reader
  rw [← xfer, ← thread] at underway wake
  rw [← xfer, ← thread, ← head, ← pbuf] at holding
  rw [← mail] at fits wake
  rw [← cbw] at wake
  refine ⟨underway, holding, fits, fun more room => ?_⟩
  exact (wake more room).imp_right (Or.imp_right (Or.imp_right callback))

section

variable (loaded : Loaded block count sent sending storage)
include loaded

theorem Loaded.head_empty (room : storage.g_read_xfer.count_done < sent + bufNumDataR) :
    storage.r_buf.status storage.r_buf.head = .bufEmpty := by
  rw [loaded.head]
  exact loaded.statuses.free _ (.refl) room

theorem Loaded.room (empty : storage.r_buf.status storage.r_buf.head = .bufEmpty) :
    storage.g_read_xfer.count_done < sent + bufNumDataR := by
  refine lt_of_le_of_ne loaded.statuses.fits fun full => ?_
  have first := loaded.statuses.held sent (.refl)
    (lt_of_lt_of_eq (Nat.lt_add_of_pos_right (by decide)) full.symm)
  rw [loaded.head, full, add_mod_right, first] at empty
  split at empty <;> cases empty

theorem Loaded.setPbuf (room : storage.g_read_xfer.count_done < sent + bufNumDataR)
    (content : Option Nat) :
    Loaded block count sent sending (storage.setPbuf storage.r_buf.head content) := by
  refine { loaded with contents := ?_ }
  rw [loaded.head]
  exact loaded.contents.write_next room trivial

theorem Loaded.slotFull (more : storage.g_read_xfer.count_done < count)
    (room : storage.g_read_xfer.count_done < sent + bufNumDataR)
    (notFirst : sending → sent < storage.g_read_xfer.count_done)
    (holding : storage.r_buf.pbuf storage.r_buf.head =
      some (u32 (block + storage.g_read_xfer.count_done))) :
    Loaded block count sent sending storage.slotFull := by
  refine ⟨loaded.fromBlock, loaded.total, more, ?_, ?_, ?_⟩
  · change (storage.r_buf.head + 1) % bufNumDataR = _
    rw [loaded.head, mod_add_mod]
    rfl
  · change Window _ (Function.update storage.r_buf.status storage.r_buf.head .bufFull) _ _ _ _
    rw [loaded.head]
    refine loaded.statuses.push room (if_neg fun both => ?_).symm
    exact ne_of_gt (notFirst both.1) both.2
  · refine loaded.contents.extend room ?_
    rwa [← loaded.head]

end

theorem Loaded.sendTail (loaded : Loaded block count sent false storage)
    (tail : storage.r_buf.tail = sent % bufNumDataR)
    (read : sent < storage.g_read_xfer.count_done) :
    Loaded block count sent true storage.sendTail := by
  refine { loaded with statuses := ?_ }
  change Window _ (Function.update storage.r_buf.status storage.r_buf.tail .bufSending) _ _ _ _
  rw [tail]
  refine loaded.statuses.write_first read (if_pos ⟨rfl, rfl⟩).symm fun k content after full => ?_
  have isFull : content = .bufFull := full.trans (if_neg nofun)
  rw [isFull]
  exact (if_neg fun both => ne_of_gt after both.2).symm

theorem Loaded.freeTail (loaded : Loaded block count sent true storage)
    (tail : storage.r_buf.tail = sent % bufNumDataR)
    (read : sent < storage.g_read_xfer.count_done) :
    Loaded block count (sent + 1) false (storage.setStatus storage.r_buf.tail .bufEmpty) := by
  refine { loaded with statuses := ?_, contents := loaded.contents.drop read trivial }
  rw [tail]
  refine loaded.statuses.pop read rfl fun k content after full => ?_
  have isFull : content = .bufFull := full.trans (if_neg fun both => ne_of_gt after both.2)
  rw [isFull]
  exact (if_neg nofun).symm

section

variable (loaded : Loaded block count sent sending storage)
  (mail : storage.g_read_mbox ≤ usMailboxSize)
include loaded mail

theorem Loaded.beginRead (more : storage.g_read_xfer.count_done < count)
    (empty : storage.r_buf.status storage.r_buf.head = .bufEmpty) :
    Loaded block count sent sending storage.beginRead ∧
      Reader block count sent storage.beginRead := by
  have room := loaded.room empty
  exact ⟨(loaded.setPbuf room none).of_eq rfl rfl, fun _ => ⟨more, room⟩, nofun, mail,
    fun _ _ => .inl nofun⟩

theorem Loaded.toFetch (nothing : ¬(storage.g_read_xfer.count_done < count ∧
      storage.r_buf.status storage.r_buf.head = .bufEmpty)) :
    Loaded block count sent sending { storage with readThread := .fetch } ∧
      Reader block count sent { storage with readThread := .fetch } := by
  refine ⟨loaded.of_eq rfl rfl, nofun, nofun, mail, fun more room => ?_⟩
  exact absurd ⟨more, loaded.head_empty room⟩ nothing

end

end

/-! ### The steps of the thread -/

section

theorem Pipe.check (pipe : Pipe block count sent sending storage) :
    Pipe block count sent sending storage.checkRead := by
  unfold checkRead
  rw [pipe.loaded.total]
  split
  case isTrue reads =>
    obtain ⟨loaded, reader⟩ := pipe.loaded.beginRead pipe.reader.mail reads.1 reads.2
    exact ⟨loaded, reader, pipe.phase⟩
  case isFalse reads =>
    obtain ⟨loaded, reader⟩ := pipe.loaded.toFetch pipe.reader.mail reads
    exact ⟨loaded, reader, pipe.phase⟩

theorem Pipe.sdcRead (pipe : Pipe block count sent sending storage)
    (reading : storage.readThread = .reading) :
    Pipe block count sent sending storage.sdcRead := by
  obtain ⟨more, room⟩ := pipe.reader.underway (.inl reading)
  refine ⟨(pipe.loaded.setPbuf room _).of_eq rfl rfl,
    ⟨fun _ => ⟨more, room⟩, fun _ => ?_, pipe.reader.mail, fun _ _ => .inl nofun⟩, pipe.phase⟩
  change Function.update storage.r_buf.pbuf storage.r_buf.head _ storage.r_buf.head = _
  rw [Function.update_self, pipe.loaded.fromBlock]
  rfl

theorem InData.sendTail (data : InData block count sent storage.view)
    (none : storage.inFlight = []) (idle : storage.callback = .idle)
    (read : sent < storage.g_read_xfer.count_done) :
    Phase block count sent storage.sendTail.view true := by
  refine .sending (data.of_eq rfl rfl rfl rfl) 0 (by decide) ?_ idle rfl read
  change storage.inFlight ++ [⟨.slot storage.r_buf.tail, mmcsdBlockSize, 0⟩] = _
  have tail : storage.r_buf.tail = sent % bufNumDataR := data.tail
  rw [none, tail]
  rfl

theorem Loaded.continueRead (loaded : Loaded block count sent sending storage)
    (mail : storage.g_read_mbox ≤ usMailboxSize) :
    (Loaded block count sent sending storage.continueRead ∧
        Reader block count sent storage.continueRead) ∧
      storage.continueRead.view = storage.view := by
  have total := loaded.total
  have done_le := loaded.done_le
  unfold Storage.continueRead
  split_ifs with last empty
  · exact ⟨loaded.toFetch mail fun both => by omega, rfl⟩
  · exact ⟨loaded.beginRead mail (by omega) empty, rfl⟩
  · exact ⟨loaded.toFetch mail fun both => empty both.2, rfl⟩

theorem Pipe.sendIfDue (pipe : Pipe block count sent sending storage)
    (filled : storage.readThread = .filled) :
    ∃ sending, Loaded block count sent sending storage.slotFull.sendIfDue ∧
      Phase block count sent storage.slotFull.sendIfDue.view sending := by
  obtain ⟨more, room⟩ := pipe.reader.underway (.inr filled)
  have holding := pipe.reader.holding filled
  have order := pipe.loaded.statuses.order
  have counted : storage.slotFull.g_read_xfer.count_done = storage.g_read_xfer.count_done + 1 := rfl
  have samePause : storage.slotFull.g_isPaused = storage.g_isPaused := rfl
  have slotData (data : InData block count sent storage.view) :
      InData block count sent storage.slotFull.view := data.of_eq rfl rfl rfl rfl
  have later : sent < storage.slotFull.g_read_xfer.count_done := by omega
  unfold Storage.sendIfDue
  rw [counted, samePause]
  cases pipe.phase with
  | starting data none idle unpaused _ unread =>
    have unread : storage.g_read_xfer.count_done = 0 := unread
    have loaded := pipe.loaded.slotFull more room nofun holding
    rw [if_pos (.inl (by rw [unread]))]
    exact ⟨true, loaded.sendTail data.tail later, (slotData data).sendTail none idle later⟩
  | sending data txcnt below one idle unpaused read =>
    have read : sent < storage.g_read_xfer.count_done := read
    have unpaused : storage.g_isPaused = false := unpaused
    rw [if_neg (by rw [unpaused]; simp; omega)]
    exact ⟨true, pipe.loaded.slotFull more room (fun _ => read) holding,
      .sending (slotData data) txcnt below one idle unpaused later⟩
  | paused data none idle isPaused read =>
    have loaded := pipe.loaded.slotFull more room nofun holding
    have isPaused := isPaused
    rw [if_pos (.inr isPaused)]
    exact ⟨true, loaded.sendTail data.tail later, (slotData data).sendTail none idle later⟩
  | inCallback data none running unpaused started =>
    have unpaused : storage.g_isPaused = false := unpaused
    rw [if_neg (by rw [unpaused]; simp; omega)]
    exact ⟨false, pipe.loaded.slotFull more room nofun holding,
      .inCallback (slotData data) none running unpaused started⟩
  | closing | finished => omega

theorem Pipe.fill (pipe : Pipe block count sent sending storage)
    (filled : storage.readThread = .filled) :
    ∃ sending, Pipe block count sent sending storage.fillSlot := by
  obtain ⟨sending, loaded, phase⟩ := pipe.sendIfDue filled
  have mail : storage.slotFull.sendIfDue.g_read_mbox ≤ usMailboxSize := by
    unfold Storage.sendIfDue
    split <;> exact pipe.reader.mail
  obtain ⟨⟨laterLoaded, reader⟩, sameView⟩ := loaded.continueRead mail
  exact ⟨sending, laterLoaded, reader, sameView ▸ phase⟩

end

section

theorem Phase.of_busy (phase : Phase block count sent view sending) (busy : view.callback ≠ .idle) :
    sending = false ∧ InData block count sent view ∧ view.inFlight = [] ∧
      view.isPaused = false ∧ 0 < sent := by
  cases phase with
  | starting _ _ idle | sending _ _ _ _ idle | paused _ _ idle | closing _ _ _ idle
  | finished _ idle => exact absurd idle busy
  | inCallback data none _ unpaused started => exact ⟨rfl, data, none, unpaused, started⟩

theorem Pipe.post (pipe : Pipe block count sent sending storage)
    (posting : storage.callback = .posting) (room : storage.g_read_mbox < usMailboxSize) :
    Pipe block count sent sending
      { storage with g_read_mbox := storage.g_read_mbox + 1, callback := .posted } := by
  obtain ⟨rfl, data, none, unpaused, started⟩ :=
    pipe.phase.of_busy fun idle => nomatch posting.symm.trans idle
  exact ⟨pipe.loaded.of_eq rfl rfl,
    { pipe.reader with mail := room, wake := fun _ _ => .inr (.inl (succ_pos _)) },
    .inCallback (data.of_eq rfl rfl rfl rfl) none (.inr rfl) unpaused started⟩

theorem Pipe.resume (pipe : Pipe block count sent sending storage)
    (posted : storage.callback = .posted) :
    ∃ sending, Pipe block count sent sending storage.afterPost := by
  obtain ⟨rfl, data, none, _, _⟩ :=
    pipe.phase.of_busy fun idle => nomatch posted.symm.trans idle
  have tail : storage.r_buf.tail = sent % bufNumDataR := data.tail
  have statuses := pipe.loaded.statuses
  have notPosting {after : Callback} (posting : storage.callback = .posting) :
      after = .posting := by
    cases posted.symm.trans posting
  have data : InData block count sent { storage with callback := .idle : Storage }.view :=
    data.of_eq rfl rfl rfl rfl
  unfold afterPost
  by_cases read : sent < storage.g_read_xfer.count_done
  · have full : storage.r_buf.status storage.r_buf.tail = .bufFull := by
      rw [tail]
      exact (statuses.held sent (.refl) read).trans (if_neg nofun)
    rw [if_pos full]
    exact ⟨true, (pipe.loaded.sendTail tail read).of_eq rfl rfl,
      pipe.reader.of_eq rfl rfl rfl rfl rfl rfl notPosting, data.sendTail none rfl read⟩
  · have same := le_antisymm (not_lt.mp read) statuses.order
    have empty : storage.r_buf.status storage.r_buf.tail = .bufEmpty := by
      rw [tail]
      exact statuses.free sent same.le (Nat.lt_add_of_pos_right (by decide))
    rw [if_neg (by rw [empty]; nofun)]
    exact ⟨false, pipe.loaded.of_eq rfl rfl, pipe.reader.of_eq rfl rfl rfl rfl rfl rfl notPosting,
      .paused (data.of_eq rfl rfl rfl rfl) none rfl rfl same⟩

/-! ### Transmissions -/

theorem blocksSent_succ (block sent : Nat) :
    blocksSent block (sent + 1) = blocksSent block sent ++ [.data (some (u32 (block + sent)))] := by
  unfold blocksSent
  rw [range_succ, map_append]
  rfl

/-- The moment between the end of block number `sent` and what the callback makes
of it: the slot is free and the tail still points to it. -/
structure Freed (block count sent : Nat) (storage : Storage) : Prop where
  loaded : Loaded block count (sent + 1) false storage
  reader : Reader block count sent storage
  residue : storage.Residue = mmcsdBlockSize * (count - (sent + 1))
  stage : storage.stage = .stageData
  more : sent < count
  small : count < 2 ^ 16
  tail : storage.r_buf.tail = sent % bufNumDataR
  host : storage.host = blocksSent block (sent + 1)
  none : storage.inFlight = []
  idle : storage.callback = .idle
  unpaused : storage.g_isPaused = false

theorem Pipe.freeTail (pipe : Pipe block count sent true storage)
    (data : InData block count sent storage.view) (idle : storage.callback = .idle)
    (unpaused : storage.g_isPaused = false) (read : sent < storage.g_read_xfer.count_done) :
    Freed block count sent
      ((storage.deliver (.slot (sent % bufNumDataR)) []).freeTail mmcsdBlockSize) := by
  have more := data.more
  have small := data.small
  have left : u32Sub storage.Residue mmcsdBlockSize = mmcsdBlockSize * (count - (sent + 1)) := by
    have residue : storage.Residue = mmcsdBlockSize * (count - sent) := data.residue
    rw [residue]
    unfold mmcsdBlockSize
    rw [u32Sub_of_le (by omega) (by omega)]
    omega
  have content := congrArg Packet.data (pipe.loaded.contents.held sent (.refl) read)
  have host : storage.host ++ [storage.packet (.slot (sent % bufNumDataR))] =
      blocksSent block (sent + 1) := by
    rw [blocksSent_succ, ← content]
    exact congrArg (· ++ _) data.host
  exact ⟨(pipe.loaded.freeTail data.tail read).of_eq rfl rfl,
    pipe.reader.of_eq rfl rfl rfl rfl rfl rfl id, left, data.stage, more, small, data.tail, host,
    rfl, idle, unpaused⟩

section

variable (freed : Freed block count sent storage)
include freed

theorem Freed.reader_of_wake (xfer : after.g_read_xfer = storage.g_read_xfer)
    (thread : after.readThread = storage.readThread)
    (head : after.r_buf.head = storage.r_buf.head) (pbuf : after.r_buf.pbuf = storage.r_buf.pbuf)
    (mail : after.g_read_mbox = storage.g_read_mbox)
    (wake : storage.g_read_xfer.count_done < count → after.callback = .posting) :
    Reader block count (sent + 1) after := by
  obtain ⟨underway, holding, fits, -⟩ := freed.reader
  rw [← xfer, ← thread] at underway
  rw [← xfer, ← thread, ← head, ← pbuf] at holding
  rw [← mail] at fits
  rw [← xfer] at wake
  refine ⟨fun busy => ?_, holding, fits, fun more _ => .inr (.inr (.inr (wake more)))⟩
  obtain ⟨more, _⟩ := underway busy
  exact ⟨more, by omega⟩

theorem Freed.sendCsw (last : storage.Residue = 0) :
    Pipe block count (sent + 1) false storage.sendCsw := by
  have all : sent + 1 = count := by
    have residue := freed.residue
    have more := freed.more
    unfold mmcsdBlockSize at residue
    omega
  have order := freed.loaded.statuses.order
  refine ⟨freed.loaded.of_eq rfl rfl,
    freed.reader_of_wake rfl rfl rfl rfl rfl fun more => by omega, ?_⟩
  exact .closing 0 (by decide) (congrArg (· ++ _) freed.none) freed.idle freed.unpaused rfl last rfl
    all (all ▸ freed.host)

theorem Freed.moveTail (more : storage.Residue ≠ 0) :
    Pipe block count (sent + 1) false storage.moveTail := by
  have more : sent + 1 < count := by
    have residue := freed.residue
    unfold mmcsdBlockSize at residue
    omega
  have tail : (storage.r_buf.tail + 1) % bufNumDataR = (sent + 1) % bufNumDataR := by
    rw [freed.tail, mod_add_mod]
  obtain ⟨fromBlock, total, done_le, head, statuses, contents⟩ := freed.loaded
  refine ⟨⟨fromBlock, total, done_le, head, statuses, contents⟩,
    freed.reader_of_wake rfl rfl rfl rfl rfl fun _ => rfl, ?_⟩
  exact .inCallback { freed with more, tail } freed.none (.inl rfl) freed.unpaused (succ_pos _)

end

theorem Freed.blockSent {delivered : Storage} {txcnt : Nat}
    (freed : Freed block count sent (delivered.freeTail txcnt)) :
    Pipe block count (sent + 1) false (delivered.blockSent txcnt) := by
  unfold Storage.blockSent
  dsimp only
  split
  case isTrue last => exact freed.sendCsw last
  case isFalse more => exact freed.moveTail more

theorem Pipe.cswSent (pipe : Pipe block count sent false storage)
    (idle : storage.callback = .idle) (unpaused : storage.g_isPaused = false)
    (stage : storage.stage = .stageCbw) (residue : storage.Residue = 0)
    (status : storage.Status = 0) (all : sent = count)
    (host : storage.host = blocksSent block count) :
    Pipe block count sent false (storage.deliver .csw []) := by
  have content : storage.packet .csw = .csw 0 0 := congrArg₂ Packet.csw residue status
  have allHost : storage.host ++ [storage.packet .csw] = expectedPackets block count := by
    rw [content, host]
    rfl
  exact ⟨pipe.loaded.of_eq rfl rfl, pipe.reader.of_eq rfl rfl rfl rfl rfl rfl id,
    .finished rfl idle unpaused stage all allHost⟩

theorem Pipe.transmit (pipe : Pipe block count sent sending storage)
    {transmission : Transmission} {rest : List Transmission} {more : Nat}
    (flying : storage.inFlight = transmission :: rest)
    (fits : transmission.txcnt + more ≤ transmission.txsize) :
    ∃ sent sending, Pipe block count sent sending
      (usbstorageDataTransmitted storage transmission rest more) := by
  have nonempty : storage.view.inFlight ≠ [] := fun none => nomatch flying.symm.trans none
  unfold usbstorageDataTransmitted
  cases pipe.phase with
  | starting _ none | paused _ none | inCallback _ none | finished none =>
    exact absurd none nonempty
  | sending data txcnt below one idle unpaused read =>
    obtain ⟨rfl, rfl⟩ := cons.inj (flying.symm.trans one)
    dsimp only at fits ⊢
    split
    case isTrue goesOn =>
      exact ⟨sent, true, pipe.loaded.of_eq rfl rfl, pipe.reader.of_eq rfl rfl rfl rfl rfl rfl id,
        .sending (data.of_eq rfl rfl rfl rfl) (txcnt + more) goesOn rfl idle unpaused read⟩
    case isFalse whole =>
      have exactly := le_antisymm fits (not_lt.mp whole)
      have stage : (storage.deliver (.slot (sent % bufNumDataR)) []).stage = .stageData :=
        data.stage
      rw [transmitted_of_data stage, exactly]
      exact ⟨sent + 1, false, (pipe.freeTail data idle unpaused read).blockSent⟩
  | closing txcnt below one idle unpaused stage residue status all host =>
    obtain ⟨rfl, rfl⟩ := cons.inj (flying.symm.trans one)
    dsimp only at fits ⊢
    split
    case isTrue goesOn =>
      exact ⟨sent, false, pipe.loaded.of_eq rfl rfl, pipe.reader.of_eq rfl rfl rfl rfl rfl rfl id,
        .closing (txcnt + more) goesOn rfl idle unpaused stage residue status all host⟩
    case isFalse whole =>
      have isCbw : (storage.deliver .csw []).stage = .stageCbw := stage
      rw [transmitted_of_cbw isCbw]
      exact ⟨sent, false, pipe.cswSent idle unpaused stage residue status all host⟩

end

/-! ### Every interleaving -/

section

theorem Pipe.step (pipe : Pipe block count sent sending storage) {action : ReadAction}
    {next : Storage} (taken : storage.step action = some next) :
    ∃ sent sending, Pipe block count sent sending next := by
  cases action with
  | fetch =>
    obtain ⟨-, ⟨⟩⟩ := ite_none_right_eq_some.mp taken
    exact ⟨sent, sending, pipe.loaded.of_eq rfl rfl, ⟨nofun, nofun,
      le_trans (sub_le _ 1) pipe.reader.mail, fun _ _ => .inl nofun⟩, pipe.phase⟩
  | check =>
    obtain ⟨-, ⟨⟩⟩ := ite_none_right_eq_some.mp taken
    exact ⟨sent, sending, pipe.check⟩
  | sdcRead =>
    obtain ⟨reading, ⟨⟩⟩ := ite_none_right_eq_some.mp taken
    exact ⟨sent, sending, pipe.sdcRead reading⟩
  | fill =>
    obtain ⟨filled, ⟨⟩⟩ := ite_none_right_eq_some.mp taken
    exact ⟨sent, pipe.fill filled⟩
  | cbwPost =>
    obtain ⟨⟨-, room⟩, ⟨⟩⟩ := ite_none_right_eq_some.mp taken
    exact ⟨sent, sending, pipe.loaded.of_eq rfl rfl,
      { pipe.reader with mail := room, wake := fun _ _ => .inr (.inl (succ_pos _)) }, pipe.phase⟩
  | transmit =>
    obtain ⟨_, _, flying, -, fits, rfl⟩ := step_transmit taken
    exact pipe.transmit flying fits
  | post =>
    obtain ⟨⟨posting, room⟩, ⟨⟩⟩ := ite_none_right_eq_some.mp taken
    exact ⟨sent, sending, pipe.post posting room⟩
  | resume =>
    obtain ⟨posted, ⟨⟩⟩ := ite_none_right_eq_some.mp taken
    exact ⟨sent, pipe.resume posted⟩

theorem sum_blocksSent {size : Packet → Nat}
    (sized : ∀ content, size (.data content) = mmcsdBlockSize)
    {host : List Packet} {block sent : Nat} (same : host = blocksSent block sent) :
    (host.map size).sum = mmcsdBlockSize * sent := by
  subst same
  induction sent with
  | zero => rfl
  | succ _ ih =>
    rw [blocksSent_succ, map_append, List.sum_append, ih, mul_succ]
    simp [sized]

theorem InData.delivering (data : InData block count sent storage.view) :
    Delivering (mmcsdBlockSize * count) mmcsdBlockSize (mmcsdBlockSize * sent) storage.traffic := by
  have small := data.small
  refine ⟨data.stage, data.residue.trans (Nat.mul_sub _ _ _),
    Nat.mul_lt_mul_of_pos_left data.more (by decide), ?_, dvd_mul_right _ _,
    dvd_mul_right _ _, sum_blocksSent (fun _ => rfl) data.host,
    sum_blocksSent (fun _ => rfl) data.host⟩
  unfold mmcsdBlockSize
  omega

/-- Every state of the pipeline is one of the data phase counted in bytes, which
bounds the number of steps. -/
theorem Pipe.dataIn (pipe : Pipe block count sent sending storage) :
    DataIn (mmcsdBlockSize * count) mmcsdBlockSize (mmcsdBlockSize * sent) storage := by
  obtain ⟨loaded, reader, phase⟩ := pipe
  have total := loaded.total
  have order := loaded.statuses.order
  have done_le := loaded.done_le
  refine ⟨?_, fun busy => total ▸ (reader.underway busy).1⟩
  have quiet (unpaused : storage.g_isPaused = false) (all : sent = count) : Quiet storage.traffic :=
    ⟨unpaused, show 0 < storage.g_read_xfer.count_done ∨ storage.g_read_xfer.count = 0 by omega⟩
  cases phase with
  | starting data none idle unpaused _ unread =>
    exact .starting data.delivering rfl none idle unpaused unread
  | sending data txcnt below one idle unpaused read =>
    have begun := zero_lt_of_lt read
    exact .sending data.delivering (.slot (sent % bufNumDataR)) txcnt nofun rfl nofun below one idle
      ⟨unpaused, .inl begun⟩ (.inl ⟨rfl, begun⟩)
  | paused data none idle isPaused => exact .paused data.delivering rfl none idle isPaused
  | inCallback data none running unpaused started =>
    exact .inCallback data.delivering rfl none running unpaused (started.trans_le order)
  | closing txcnt below one idle unpaused stage _ _ all host =>
    exact .closing ⟨stage, idle, quiet unpaused all, sum_blocksSent (fun _ => rfl) host⟩ txcnt below
      one (sum_blocksSent (fun _ => rfl) host)
  | finished none idle unpaused stage all host =>
    have host : storage.traffic.host = expectedPackets block count := host
    refine .finished ⟨stage, idle, quiet unpaused all, ?_⟩ none ⟨0, 0, ?_⟩
    · rw [host, expectedPackets, map_append, List.sum_append,
        sum_blocksSent (fun _ => rfl) rfl]
      rfl
    · rw [host]
      exact mem_append_right _ (.head _)

theorem Pipe.preserved (block count : Nat) (state : Storage) (action : ReadAction)
    (next : Storage) (invariant : ∃ sent sending, Pipe block count sent sending state)
    (taken : state.step action = some next) :
    (∃ sent sending, Pipe block count sent sending next) ∧
      next.inWork (mmcsdBlockSize * count) < state.inWork (mmcsdBlockSize * count) := by
  obtain ⟨sent, sending, pipe⟩ := invariant
  exact ⟨pipe.step taken, (pipe.dataIn.step taken).2.1⟩

theorem Pipe.host_of_stuck (pipe : Pipe block count sent sending storage)
    (stuck : ∀ action, storage.step action = none) :
    storage.host = expectedPackets block count := by
  have atFetch : storage.readThread = .fetch := by
    cases thread : storage.readThread with
    | fetch => rfl
    | check => exact absurd (stuck .check) (by simp [Storage.step, thread])
    | reading => exact absurd (stuck .sdcRead) (by simp [Storage.step, thread])
    | filled => exact absurd (stuck .fill) (by simp [Storage.step, thread])
  have noMail : storage.g_read_mbox = 0 := by
    have blocked := stuck .fetch
    simpa [Storage.step, atFetch] using blocked
  have notPosting : storage.callback ≠ .posting := by
    have blocked := stuck .post
    simpa [Storage.step, noMail, usMailboxSize] using blocked
  have notPosted : storage.callback ≠ .posted := by
    have blocked := stuck .resume
    simpa [Storage.step] using blocked
  -- A thread at `chMBFetch` that nobody will wake has nothing left to read.
  have noneLeft (more : storage.g_read_xfer.count_done < count)
      (room : storage.g_read_xfer.count_done < sent + bufNumDataR) : False := by
    rcases pipe.reader.wake more room with busy | mail | cbw | posting
    · exact busy atFetch
    · exact ne_of_gt mail noMail
    · have blocked := stuck .cbwPost
      simp [Storage.step, noMail, usMailboxSize, cbw] at blocked
    · exact notPosting posting
  have noneFlying {transmission : Transmission} (one : storage.inFlight = [transmission])
      (idle : storage.callback = .idle) (below : transmission.txcnt < transmission.txsize) :
      False := by
    have blocked := stuck (.transmit 1)
    unfold Storage.step at blocked
    rw [one] at blocked
    dsimp only at blocked
    rw [if_pos ⟨idle, one_pos, below⟩] at blocked
    cases blocked
  cases pipe.phase with
  | starting data none idle _ _ unread =>
    have unread : storage.g_read_xfer.count_done = 0 := unread
    have more := data.more
    exact (noneLeft (by omega) (by rw [unread]; exact Nat.add_pos_right _ (by decide))).elim
  | sending _ _ below one idle => exact (noneFlying one idle below).elim
  | paused data none idle _ read =>
    have read : storage.g_read_xfer.count_done = sent := read
    have more := data.more
    exact (noneLeft (by omega) (by rw [read]; exact Nat.lt_add_of_pos_right (by decide))).elim
  | inCallback _ _ running =>
    rcases running with posting | posted
    · exact absurd posting notPosting
    · exact absurd posted notPosted
  | closing _ below one idle =>
    exact (noneFlying one idle below).elim
  | finished _ _ _ _ _ host => exact host

end

/-- What holds at any moment of a command: the host has the beginning of what it
should receive, the slot being read into is empty, and at most one transmission
is outstanding. -/
structure Safe (block count : Nat) (storage : Storage) : Prop where
  inOrder : storage.host <+: expectedPackets block count
  notRefilled : storage.readThread = .reading ∨ storage.readThread = .filled →
    storage.r_buf.status storage.r_buf.head = .bufEmpty
  oneOutstanding : storage.inFlight.length ≤ 1

theorem blocksSent_prefix (block : Nat) {sent count : Nat} (le : sent ≤ count) :
    blocksSent block sent <+: expectedPackets block count := by
  obtain ⟨_, rfl⟩ := Nat.exists_eq_add_of_le le
  unfold expectedPackets blocksSent
  rw [range_add, map_append, append_assoc]
  exact prefix_append _ _

theorem Phase.host_inFlight {block count sent : Nat} {sending : Bool}
    (phase : Phase block count sent view sending) :
    view.host <+: expectedPackets block count ∧ view.inFlight.length ≤ 1 := by
  have inData (data : InData block count sent view) :
      view.host <+: expectedPackets block count := by
    rw [data.host]
    exact blocksSent_prefix block data.more.le
  cases phase with
  | starting data none | paused data none | inCallback data none =>
    exact ⟨inData data, by simp [none]⟩
  | sending data _ _ one => exact ⟨inData data, by simp [one]⟩
  | closing _ _ one _ _ _ _ _ _ host =>
    refine ⟨?_, by simp [one]⟩
    rw [host]
    exact blocksSent_prefix block (.refl)
  | finished none _ _ _ _ host => exact ⟨host ▸ prefix_rfl, by simp [none]⟩

theorem Pipe.safe {block count sent : Nat} {sending : Bool} {storage : Storage}
    (pipe : Pipe block count sent sending storage) : Safe block count storage := by
  obtain ⟨inOrder, oneOutstanding⟩ := pipe.phase.host_inFlight
  exact ⟨inOrder, fun busy => pipe.loaded.head_empty (pipe.reader.underway busy).2, oneOutstanding⟩

structure Idle (storage : Storage) : Prop where
  stage : storage.stage = .stageCbw
  unpaused : storage.g_isPaused = false
  mail : storage.g_read_mbox ≤ usMailboxSize
  thread : storage.readThread = .fetch ∨ storage.readThread = .check
  callback : storage.callback = .idle
  none : storage.inFlight = []
  host : storage.host = []

theorem BulkCbw.count_lt (cbw : BulkCbw) : cbw.count < 2 ^ 16 := by
  unfold BulkCbw.count
  omega

theorem usbstorageHandleCbw_read {cbw : BulkCbw} (storage : Storage)
    (dirIn : cbw.Flags &&& 0x80 ≠ 0) (positive : 0 < cbw.count)
    (length : cbw.DataTransferLength = cbw.count * mmcsdBlockSize) :
    usbstorageHandleCbw storage cbw true = { storage with
        r_buf := cleanReadBuf
        g_read_xfer := { block := cbw.block, count := cbw.count, count_done := 0 }
        Status := 0
        stage := .stageData
        Residue := cbw.count * mmcsdBlockSize
        cbwPosting := true } := by
  have accepted : read10 cbw true =
      .ok ({ block := cbw.block, count := cbw.count, count_done := 0 },
        cbw.count * mmcsdBlockSize) := by
    unfold read10
    rw [if_neg dirIn, if_neg nofun, length, min_self]
  have some : cbw.count * mmcsdBlockSize ≠ 0 :=
    ne_of_gt (mul_pos positive (by decide))
  unfold usbstorageHandleCbw
  rw [accepted]
  dsimp only
  rw [if_neg some]

theorem Idle.pipe {storage : Storage} (idle : Idle storage) {cbw : BulkCbw}
    (dirIn : cbw.Flags &&& 0x80 ≠ 0) (positive : 0 < cbw.count)
    (length : cbw.DataTransferLength = cbw.count * mmcsdBlockSize) :
    Pipe cbw.block cbw.count 0 false (usbstorageHandleCbw storage cbw true) ∧
      (usbstorageHandleCbw storage cbw true).inWork (mmcsdBlockSize * cbw.count) ≤
        7 * (mmcsdBlockSize * cbw.count + bulkCswSize) + 2 * cbw.count + 48 := by
  rw [usbstorageHandleCbw_read storage dirIn positive length]
  have notBusy : ¬(storage.readThread = .reading ∨ storage.readThread = .filled) := by
    rcases idle.thread with thread | thread <;> simp [thread]
  refine ⟨⟨⟨rfl, rfl, Nat.zero_le _, rfl, ?_, ?_⟩, ?_, ?_⟩, ?_⟩
  · exact ⟨.refl, Nat.zero_le _, nofun, fun _ _ _ => rfl⟩
  · exact ⟨.refl, Nat.zero_le _, nofun, fun _ _ _ => trivial⟩
  · exact ⟨fun busy => absurd busy notBusy, fun filled => absurd (.inr filled) notBusy,
      idle.mail, fun _ _ => .inr (.inr (.inl rfl))⟩
  · exact .starting ⟨rfl, mul_comm _ _, positive, cbw.count_lt, rfl, idle.host⟩ idle.none
      idle.callback idle.unpaused rfl rfl
  · have mail := idle.mail
    unfold usMailboxSize at mail
    have thread : storage.readThread.work ≤ 3 := by
      rcases idle.thread with thread | thread <;> rw [thread] <;> decide
    unfold inWork threadWork
    simp only [idle.callback, Callback.work, Bool.toNat_true]
    omega

/-- Every interleaving of a read command is safe, ends within a bound, and can
only end with the host having received the blocks in order and one CSW. -/
theorem readPipeline_complete {storage : Storage} (idle : Idle storage) {cbw : BulkCbw}
    (dirIn : cbw.Flags &&& 0x80 ≠ 0) (positive : 0 < cbw.count)
    (length : cbw.DataTransferLength = cbw.count * mmcsdBlockSize)
    {actions : List ReadAction} {final : Storage}
    (run : runEnabled Storage.step (usbstorageHandleCbw storage cbw true) actions = some final) :
    Safe cbw.block cbw.count final ∧
      ((∀ action, final.step action = none) → final.host = expectedPackets cbw.block cbw.count) ∧
      actions.length ≤ 7 * (mmcsdBlockSize * cbw.count + bulkCswSize) + 2 * cbw.count + 48 := by
  obtain ⟨initial, _⟩ := idle.pipe dirIn positive length
  obtain ⟨⟨_, _, pipe⟩, _⟩ :=
    runEnabled_spec (Pipe.preserved cbw.block cbw.count) ⟨0, false, initial⟩ run
  exact ⟨pipe.safe, pipe.host_of_stuck, by omega⟩

def freshStorage : Storage :=
  { r_buf := cleanReadBuf
    stage := .stageCbw
    Residue := 0
    Status := 0
    g_read_xfer := { block := 0, count := 0, count_done := 0 }
    g_isPaused := false
    g_read_mbox := 1
    readThread := .fetch
    callback := .idle
    cbwPosting := false
    inFlight := []
    host := [] }

def readTwo : BulkCbw :=
  { Flags := 0x80
    DataTransferLength := 1024
    CDB := fun index => if index = 5 then 7 else if index = 8 then 2 else 0 }

def readTwoActions : List ReadAction :=
  [.fetch, .check, .sdcRead, .cbwPost, .fill, .sdcRead, .fill, .transmit 64, .transmit 448, .post,
    .fetch, .check, .fetch, .check, .resume, .transmit 512, .transmit 13]

def readTwoFinal : Storage :=
  (runEnabled Storage.step (usbstorageHandleCbw freshStorage readTwo true)
    readTwoActions).getD freshStorage

theorem readPipeline_complete_two : Safe readTwo.block readTwo.count readTwoFinal ∧
    readTwoFinal.host = expectedPackets readTwo.block readTwo.count := by
  have idle : Idle freshStorage := ⟨rfl, rfl, by decide, .inl rfl, rfl, rfl, rfl⟩
  have run : runEnabled Storage.step (usbstorageHandleCbw freshStorage readTwo true)
      readTwoActions = some readTwoFinal := rfl
  have stuck (action : ReadAction) : readTwoFinal.step action = none := by
    cases action <;> rfl
  obtain ⟨safe, complete, -⟩ :=
    readPipeline_complete idle (by decide) (by decide) (by decide) run
  exact ⟨safe, complete stuck⟩

end Hfirmware.Usb
