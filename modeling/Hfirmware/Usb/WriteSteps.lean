/-
The invariant of a write command: where the callback and the thread stand, how many
messages each of them has sent and fetched, and what is on the card.
-/

import Hfirmware.Usb.WriteBuffers
import Hfirmware.Usb.ReadPipeline

namespace Hfirmware.Usb

open List Nat WriteStorage Storage

variable {data : Nat → UInt8} {block count arrived onCard : Nat} {counts : Counts} {filling : Bool}
  {storage : WriteStorage}

structure Counts where
  (received written posted synced fetched signalled : Nat)

structure Bus where
  stage : Stage
  Status : Nat
  callback : Callback
  inFlight : List Transmission
  host : List Packet
  (rxcnt rxsize : Nat)

def WriteStorage.bus (storage : WriteStorage) : Bus :=
  { stage := storage.stage
    Status := storage.Status
    callback := storage.callback
    inFlight := storage.inFlight
    host := storage.host
    rxcnt := storage.rxcnt
    rxsize := storage.rxsize }

structure InWrite (bus : Bus) : Prop where
  stage : bus.stage = .stageData
  inFlight : bus.inFlight = []
  host : bus.host = []
  callback : bus.callback = .idle

structure Announced (count received size : Nat) (bus : Bus) : Prop where
  going : InWrite bus
  positive : 0 < size
  fits : size ≤ mmcsdBlockSize * bufferBlocks count received
  empty : bus.rxcnt = 0
  more : received < bufferCount count
  late : bufNumDataW ≤ received

structure Drained (count received synced posted : Nat) (bus : Bus) : Prop where
  empty : bus.rxcnt = 0
  all : received = bufferCount count
  synced : synced = bufferCount count
  posted : posted = received

inductive Receiving (count received synced posted : Nat) (bus : Bus) :
    Receiver → Bool → Nat → Prop where
  | between (going : InWrite bus) (empty : bus.rxcnt = 0) (more : received < bufferCount count)
      (balance : synced = received - 2) (told : posted = received) :
      Receiving count received synced posted bus .idle false 0
  | waiting (size : Nat) (announced : Announced count received size bus)
      (balance : synced + 2 = received) (told : posted = received) :
      Receiving count received synced posted bus (.waitSync size) false 0
  | starting (size : Nat) (announced : Announced count received size bus)
      (balance : synced + 1 = received) (told : posted = received) :
      Receiving count received synced posted bus (.starting size) false 0
  | asleep (size : Nat) (going : InWrite bus) (positive : 0 < size) (part : size ≤ bus.rxcnt)
      (fits : bus.rxcnt ≤ bus.rxsize)
      (whole : bus.rxsize = mmcsdBlockSize * bufferBlocks count received)
      (balance : synced = received - 1) (told : posted = received) :
      Receiving count received synced posted bus (.asleep size) true (bus.rxcnt - size)
  | midway (going : InWrite bus) (some : 0 < bus.rxcnt) (fits : bus.rxcnt < bus.rxsize)
      (whole : bus.rxsize = mmcsdBlockSize * bufferBlocks count received)
      (balance : synced = received - 1) (told : posted = received) :
      Receiving count received synced posted bus .idle true bus.rxcnt
  | posting (going : InWrite bus) (empty : bus.rxcnt = 0) (balance : synced = received - 2)
      (told : posted + 1 = received) : Receiving count received synced posted bus .posting false 0
  | draining (i : Nat) (going : InWrite bus) (empty : bus.rxcnt = 0)
      (all : received = bufferCount count) (before : synced < bufferCount count)
      (balance : synced + i = bufferCount count - 2 + 255) (few : i ≤ 255)
      (told : posted = received) : Receiving count received synced posted bus (.draining i) false 0
  | closing (going : InWrite bus) (drained : Drained count received synced posted bus) :
      Receiving count received synced posted bus .closing false 0
  | sending (txcnt : Nat) (drained : Drained count received synced posted bus)
      (below : txcnt < bulkCswSize) (stage : bus.stage = .stageCbw)
      (one : bus.inFlight = [⟨.csw, bulkCswSize, txcnt⟩]) (host : bus.host = [])
      (status : bus.Status = 0) (callback : bus.callback = .idle) :
      Receiving count received synced posted bus .idle false 0
  | finished (drained : Drained count received synced posted bus)
      (stage : bus.stage = .stageCbw) (none : bus.inFlight = [])
      (host : bus.host = [.csw 0 0]) :
      Receiving count received synced posted bus .idle false 0

inductive Writing (count written fetched signalled : Nat) : WriteThread → Nat → Prop where
  | fetch (ends : written = 0 ∨ written = bufferCount count) (balance : fetched = written)
      (told : signalled = written) : Writing count written fetched signalled .fetch written
  | check (balance : fetched = written + 1) (told : signalled = written) :
      Writing count written fetched signalled .check written
  | writing (balance : fetched = written + 1) (told : signalled = written) :
      Writing count written fetched signalled .writing written
  | written (balance : fetched = written + 1) (told : signalled = written) :
      Writing count written fetched signalled .written (written + 1)
  | posting (balance : fetched = written) (told : signalled + 1 = written) :
      Writing count written fetched signalled (.posting (written != bufferCount count)) written
  | fetchS (more : written < bufferCount count) (balance : fetched = written)
      (told : signalled = written) : Writing count written fetched signalled .fetchS written
  | recheck (balance : fetched = written + 1) (told : signalled = written) :
      Writing count written fetched signalled .recheck written

/-- The messages number `synced` up to `signalled` of the thread: the last one of
a transfer is `FALSE`. -/
def syncMessages (count synced signalled : Nat) : List Bool :=
  (List.range' synced (signalled - synced)).map fun k => k + 1 != bufferCount count

structure WritePipe (data : Nat → UInt8) (block count : Nat) (counts : Counts) (filling : Bool)
    (arrived onCard : Nat) (storage : WriteStorage) : Prop where
  buffers : Buffers data block count counts.received counts.written filling arrived storage
  receiving : Receiving count counts.received counts.synced counts.posted storage.bus
    storage.receiver filling arrived
  writing : Writing count counts.written counts.fetched counts.signalled storage.writer onCard
  mail : storage.g_write_mbox + counts.fetched = counts.posted
  order : counts.synced ≤ counts.signalled
  sync : storage.g_write_sync_mbox = syncMessages count counts.synced counts.signalled
  card : storage.card = expectedSectors data block (min (4 * onCard) count)

def InPipe (data : Nat → UInt8) (block count : Nat) (storage : WriteStorage) : Prop :=
  ∃ counts filling arrived onCard, WritePipe data block count counts filling arrived onCard storage

def Receiver.work : Receiver → Nat
  | .waitSync _ => 0
  | .starting _ => 0
  | .idle => 1
  | .draining _ => 2
  | .closing => 2
  | .posting => 9
  | .asleep _ => 10

def WriteThread.work : WriteThread → Nat
  | .fetch => 0
  | .fetchS => 0
  | .posting _ => 2
  | .written => 3
  | .writing => 4
  | .check => 5
  | .recheck => 5

/-- A bound on the steps that are left. A message to the thread is good for the
five steps of a write, and a byte from the host may bring such a message. -/
def WriteStorage.work (storage : WriteStorage) : Nat :=
  11 * (storage.Residue - storage.rxcnt) + storage.receiver.work + storage.writer.work +
    6 * storage.g_write_mbox + storage.g_write_sync_mbox.length +
    (bulkCswSize - storage.toStorage.bytesOut)

/-- A step that keeps the invariant and uses up some of the work. -/
abbrev WriteStorage.Advances (data : Nat → UInt8) (block count : Nat)
    (storage after : WriteStorage) : Prop :=
  InPipe data block count after ∧ after.work < storage.work

variable {msg : Bool} {signalled synced : Nat} {rest : List Bool}

theorem syncMessages_cons {count : Nat}
    (messages : syncMessages count synced signalled = msg :: rest) :
    synced < signalled ∧ msg = (synced + 1 != bufferCount count) ∧
      rest = syncMessages count (synced + 1) signalled := by
  unfold syncMessages at messages
  cases left : signalled - synced with
  | zero =>
    rw [left] at messages
    cases messages
  | succ more =>
    rw [left, range'_succ, map_cons] at messages
    obtain ⟨rfl, rfl⟩ := cons.inj messages
    refine ⟨by omega, rfl, ?_⟩
    unfold syncMessages
    rw [show signalled - (synced + 1) = more by omega]

theorem syncMessages_snoc {count : Nat} (order : synced ≤ signalled) :
    syncMessages count synced (signalled + 1) =
      syncMessages count synced signalled ++ [signalled + 1 != bufferCount count] := by
  unfold syncMessages
  rw [succ_sub order, range'_concat, map_append]
  simp only [one_mul, Nat.add_sub_cancel' order]
  rfl

theorem length_syncMessages (count synced signalled : Nat) :
    (syncMessages count synced signalled).length = signalled - synced := by
  unfold syncMessages
  rw [length_map, length_range']

/-! ### The steps of the callback -/

variable {after : WriteStorage}

section

variable {size : Nat}

theorem Writing.bounds {written fetched : Nat} {thread : WriteThread}
    (writing : Writing count written fetched signalled thread onCard) :
    signalled ≤ written ∧ written ≤ fetched ∧ written ≤ onCard ∧ onCard ≤ fetched := by
  cases writing <;> omega

variable {receiver : Receiver}

theorem Receiving.posted_le {received posted : Nat} {bus : Bus}
    (receiving : Receiving count received synced posted bus receiver filling arrived) :
    posted ≤ received := by
  cases receiving with
  | closing _ drained | sending _ drained | finished drained => exact drained.posted.le
  | _ => omega

theorem Receiving.received_le {received posted : Nat} {bus : Bus}
    (receiving : Receiving count received synced posted bus receiver filling arrived) :
    received ≤ synced + 2 := by
  cases receiving with
  | closing _ drained | sending _ drained | finished drained =>
    exact drained.all.trans_le (drained.synced ▸ Nat.le_add_right _ _)
  | _ => omega

structure Counts.Ordered (count : Nat) (counts : Counts) : Prop where
  synced : counts.synced ≤ counts.signalled
  signalled : counts.signalled ≤ counts.written
  written : counts.written ≤ counts.fetched
  fetched : counts.fetched ≤ counts.posted
  posted : counts.posted ≤ counts.received
  received : counts.received ≤ bufferCount count
  room : counts.received ≤ counts.written + 2

theorem WritePipe.ordered
    (pipe : WritePipe data block count counts filling arrived onCard storage) :
    counts.Ordered count := by
  obtain ⟨signalled, written, -, -⟩ := pipe.writing.bounds
  have mail := pipe.mail
  have fits := pipe.buffers.cells.fits
  exact ⟨pipe.order, signalled, written, by omega, pipe.receiving.posted_le,
    le_trans (Nat.le_add_right _ _) pipe.buffers.most,
    le_trans (Nat.le_add_right _ _) fits⟩

theorem WriteStorage.work_lt_of_receiver (writer : after.writer = storage.writer)
    (out : after.toStorage.bytesOut = storage.toStorage.bytesOut)
    (less : 11 * (after.Residue - after.rxcnt) + after.receiver.work + 6 * after.g_write_mbox +
        after.g_write_sync_mbox.length <
      11 * (storage.Residue - storage.rxcnt) + storage.receiver.work + 6 * storage.g_write_mbox +
        storage.g_write_sync_mbox.length) :
    after.work < storage.work := by
  unfold WriteStorage.work
  rw [writer, out]
  omega

theorem WritePipe.beginReceive (pipe : WritePipe data block count counts false 0 onCard storage)
    (going : InWrite storage.bus) (positive : 0 < size)
    (fits : size ≤ mmcsdBlockSize * bufferBlocks count counts.received)
    (empty : storage.rxcnt = 0) (more : counts.received < bufferCount count)
    (balance : counts.synced = counts.received - 1) (told : counts.posted = counts.received) :
    storage.Advances data block count (storage.beginReceive size) := by
  have ordered := pipe.ordered
  have room : counts.received < counts.written + bufNumDataW := by
    have := ordered.synced
    have := ordered.signalled
    unfold bufNumDataW
    omega
  have bytes : (storage.beginReceive size).rxcnt = size := zero_add size
  have whole := pipe.buffers.len_at_begin
  have sleeping : Receiving count counts.received counts.synced counts.posted
      (storage.beginReceive size).bus (.asleep size) true
      ((storage.beginReceive size).rxcnt - size) :=
    .asleep size { going with } positive bytes.symm.le
      (bytes.trans_le (fits.trans_eq whole.symm)) whole balance told
  rw [bytes, Nat.sub_self] at sleeping
  refine ⟨⟨counts, true, 0, onCard, pipe.buffers.beginReceive room more size, sleeping,
    pipe.writing, pipe.mail, pipe.order, pipe.sync, pipe.card⟩, ?_⟩
  refine work_lt_of_receiver rfl rfl ?_
  have left : size ≤ storage.Residue := by
    rw [pipe.buffers.residue, blocks_left, mul_add]
    omega
  have after : (storage.beginReceive size).Residue = storage.Residue := rfl
  have sleeps : (storage.beginReceive size).receiver.work = 10 := rfl
  have mail : (storage.beginReceive size).g_write_mbox = storage.g_write_mbox := rfl
  have sync : (storage.beginReceive size).g_write_sync_mbox = storage.g_write_sync_mbox := rfl
  rw [bytes, after, empty, sleeps, mail, sync]
  omega

theorem packetRoom_eq (buffers : Buffers data block count counts.received counts.written false 0
      storage) (empty : storage.rxcnt = 0) :
    storage.packetRoom = mmcsdBlockSize * bufferBlocks count counts.received := by
  unfold packetRoom
  rw [if_pos empty, ← buffers.len_at_begin]
  split <;> omega

theorem WritePipe.startReceive
    (pipe : WritePipe data block count counts true storage.rxcnt onCard storage)
    (going : InWrite storage.bus) (positive : 0 < size)
    (fits : storage.rxcnt + size ≤ storage.rxsize)
    (whole : storage.rxsize = mmcsdBlockSize * bufferBlocks count counts.received)
    (balance : counts.synced = counts.received - 1) (told : counts.posted = counts.received) :
    storage.Advances data block count (storage.startReceive size) := by
  have order : counts.written ≤ counts.received := by
    have ordered := pipe.ordered
    exact ordered.written.trans (ordered.fetched.trans ordered.posted)
  have sleeping : Receiving count counts.received counts.synced counts.posted
      (storage.startReceive size).bus (.asleep size) true (storage.rxcnt + size - size) :=
    .asleep size { going with } positive (Nat.le_add_left _ _) fits whole balance told
  rw [Nat.add_sub_cancel] at sleeping
  refine ⟨⟨counts, true, storage.rxcnt, onCard, pipe.buffers.startReceive order size, sleeping,
    pipe.writing, pipe.mail, pipe.order, pipe.sync, pipe.card⟩,
    work_lt_of_receiver rfl rfl ?_⟩
  have left : storage.rxsize ≤ storage.Residue := by
    rw [whole, pipe.buffers.residue, blocks_left, mul_add]
    omega
  have after : (storage.startReceive size).Residue - (storage.startReceive size).rxcnt =
      storage.Residue - (storage.rxcnt + size) := rfl
  have sleeps : (storage.startReceive size).receiver.work = 10 := rfl
  have mail : (storage.startReceive size).g_write_mbox = storage.g_write_mbox := rfl
  have sync : (storage.startReceive size).g_write_sync_mbox = storage.g_write_sync_mbox := rfl
  rw [after, sleeps, mail, sync]
  omega

theorem WritePipe.waitSync (pipe : WritePipe data block count counts false 0 onCard storage)
    (idle : storage.receiver = .idle) (announced : Announced count counts.received size storage.bus)
    (balance : counts.synced = counts.received - 2) (told : counts.posted = counts.received) :
    storage.Advances data block count { storage with receiver := .waitSync size } := by
  have late : 2 ≤ counts.received := announced.late
  refine ⟨⟨counts, false, 0, onCard, { pipe with
    buffers := pipe.buffers.of_eq rfl rfl rfl rfl, receiving := ?_ }⟩,
    work_lt_of_receiver rfl rfl ?_⟩
  · exact .waiting size announced (by omega) told
  · simp only [idle, Receiver.work]
    omega

section

variable (pipe : WritePipe data block count counts filling arrived onCard storage)
include pipe

theorem WritePipe.packet (idle : storage.receiver = .idle) (stage : storage.stage = .stageData)
    (positive : 0 < size) (room : size ≤ storage.packetRoom) :
    storage.Advances data block count (usbstorageDataReceived storage size) := by
  have receiving := pipe.receiving
  rw [idle] at receiving
  unfold usbstorageDataReceived
  cases receiving with
  | between going empty more balance told =>
    have isEmpty : storage.rxcnt = 0 := empty
    have fits := room.trans_eq (packetRoom_eq pipe.buffers isEmpty)
    rw [if_pos isEmpty]
    split
    · next late =>
      rw [pipe.buffers.revNum] at late
      exact pipe.waitSync idle ⟨going, positive, fits, empty, more, late⟩ balance told
    · next late =>
      rw [pipe.buffers.revNum] at late
      have early : counts.received < 2 := not_le.mp late
      exact pipe.beginReceive going positive fits isEmpty more (by omega) told
  | midway going some fits whole balance told =>
    have nonzero : storage.rxcnt ≠ 0 := some.ne'
    have within : storage.rxcnt < storage.rxsize := fits
    have isRoom : storage.packetRoom = storage.rxsize - storage.rxcnt := if_neg nonzero
    rw [if_neg nonzero, if_pos within]
    exact pipe.startReceive going positive (by omega) whole balance told
  | sending _ _ _ isCbw | finished _ isCbw => exact nomatch isCbw.symm.trans stage

theorem WritePipe.fetchSync
    (waits : storage.receiver = .waitSync size)
    (messages : storage.g_write_sync_mbox = msg :: rest) :
    storage.Advances data block count
      { storage with g_write_sync_mbox := rest, receiver := .starting size } := by
  obtain ⟨more, -, tail⟩ := syncMessages_cons (pipe.sync.symm.trans messages)
  have receiving := pipe.receiving
  rw [waits] at receiving
  cases receiving with
  | waiting _ announced balance told =>
    have next := balance
    refine ⟨⟨{ counts with synced := counts.synced + 1 }, false, 0, onCard,
      pipe.buffers.of_eq rfl rfl rfl rfl, ?_, pipe.writing, pipe.mail, more, tail, pipe.card⟩,
      work_lt_of_receiver rfl rfl ?_⟩
    · exact .starting size announced next told
    · simp only [waits, messages, Receiver.work, length_cons]
      omega

theorem WritePipe.start (starts : storage.receiver = .starting size) :
    storage.Advances data block count (storage.beginReceive size) := by
  have receiving := pipe.receiving
  rw [starts] at receiving
  cases receiving with
  | starting _ announced _ told =>
    exact pipe.beginReceive announced.going announced.positive announced.fits announced.empty
      announced.more (by omega) told

theorem WritePipe.dmaDone (sleeps : storage.receiver = .asleep size) :
    storage.Advances data block count (storage.dmaDone data size) := by
  have ordered := pipe.ordered
  have order := ordered.written.trans (ordered.fetched.trans ordered.posted)
  have receiving := pipe.receiving
  rw [sleeps] at receiving
  cases receiving with
  | asleep _ going positive part fits whole balance told =>
    have stored := pipe.buffers.stored order part
    unfold WriteStorage.dmaDone WriteStorage.received
    by_cases full : (storage.stored data size).rxcnt = (storage.stored data size).rxsize
    · have isFull := full.trans whole
      have least : storage.Residue - storage.rxcnt =
          mmcsdBlockSize * (count - 4 * (counts.received + 1)) := by
        rw [pipe.buffers.residue, blocks_left count counts.received, mul_add]
        exact Nat.sub_eq_of_eq_add (by rw [show storage.rxcnt = _ from isFull, add_comm])
      rw [if_pos full, stored.bufferReceived_eq isFull]
      refine ⟨⟨{ counts with received := counts.received + 1 }, false, 0, onCard,
        stored.closeBuffer order isFull, ?_, pipe.writing, pipe.mail, pipe.order, pipe.sync,
        pipe.card⟩, work_lt_of_receiver rfl rfl ?_⟩
      · exact .posting { going with } rfl (by simpa using balance)
          (congrArg Nat.succ told)
      · rw [least, sleeps]
        exact Nat.add_lt_add_right (Nat.add_lt_add_right (lt_succ_self _) _) _
    · rw [if_neg full]
      refine ⟨⟨counts, true, storage.rxcnt, onCard, stored.of_eq rfl rfl rfl rfl, ?_, pipe.writing,
        pipe.mail, pipe.order, pipe.sync, pipe.card⟩, work_lt_of_receiver rfl rfl ?_⟩
      · exact .midway going (positive.trans_le part) (lt_of_le_of_ne fits full) whole
          balance told
      · simp only [WriteStorage.stored, sleeps, Receiver.work]
        omega

theorem WritePipe.post (posting : storage.receiver = .posting) : storage.Advances data block count
    { storage with g_write_mbox := storage.g_write_mbox + 1 : WriteStorage }.posted := by
  have receiving := pipe.receiving
  rw [posting] at receiving
  cases receiving with
  | posting going empty balance told =>
    have mail : storage.g_write_mbox + 1 + counts.fetched = counts.posted + 1 := by
      rw [add_right_comm, pipe.mail]
    have ordered := pipe.ordered.received
    by_cases last : storage.Residue = 0
    · have all := pipe.buffers.all_of_residue last
      have drains : { storage with
          g_write_mbox := storage.g_write_mbox + 1 : WriteStorage }.posted.receiver =
          .draining 255 := if_pos last
      refine ⟨⟨{ counts with posted := counts.posted + 1 }, false, 0, onCard,
        { pipe with buffers := pipe.buffers.of_eq rfl rfl rfl rfl, receiving := ?_, mail }⟩,
        work_lt_of_receiver rfl rfl ?_⟩
      · have before : counts.synced < bufferCount count := by omega
        have left : counts.synced + 255 = bufferCount count - 2 + 255 := by omega
        rw [drains]
        exact .draining 255 going empty all before left (.refl) told
      · rw [drains, posting]
        simp only [WriteStorage.posted, Receiver.work]
        omega
    · have more : counts.received < bufferCount count := by
        refine lt_of_le_of_ne ordered fun all => last ?_
        rw [pipe.buffers.residue, (blocks_left_eq_zero _ _).mpr all.symm.le]
        rfl
      have waits : { storage with
          g_write_mbox := storage.g_write_mbox + 1 : WriteStorage }.posted.receiver = .idle :=
        if_neg last
      refine ⟨⟨{ counts with posted := counts.posted + 1 }, false, 0, onCard,
        { pipe with buffers := pipe.buffers.of_eq rfl rfl rfl rfl, receiving := ?_, mail }⟩,
        work_lt_of_receiver rfl rfl ?_⟩
      · rw [waits]
        exact .between going empty more balance told
      · rw [waits, posting]
        simp only [WriteStorage.posted, Receiver.work]
        omega

theorem WritePipe.drain {i : Nat}
    (drains : storage.receiver = .draining i) (messages : storage.g_write_sync_mbox = msg :: rest) :
    storage.Advances data block count { storage with
        g_write_sync_mbox := rest
        receiver := if msg = false ∨ i = 1 then .closing else .draining (i - 1) } := by
  obtain ⟨more, isLast, tail⟩ := syncMessages_cons (pipe.sync.symm.trans messages)
  have receiving := pipe.receiving
  rw [drains] at receiving
  cases receiving with
  | draining _ going empty all before _ _ told =>
    by_cases last : counts.synced + 1 = bufferCount count
    · have ends : msg = false ∨ i = 1 := by
        refine .inl ?_
        rw [isLast, last, bne_self_eq_false]
      rw [if_pos ends]
      refine ⟨⟨{ counts with synced := counts.synced + 1 }, false, 0, onCard,
        pipe.buffers.of_eq rfl rfl rfl rfl, ?_, pipe.writing, pipe.mail, more, tail, pipe.card⟩,
        work_lt_of_receiver rfl rfl ?_⟩
      · exact .closing going ⟨empty, all, last, told⟩
      · simp only [drains, messages, Receiver.work, length_cons]
        omega
    · have goesOn : ¬(msg = false ∨ i = 1) := by
        rw [isLast, bne_eq_false_iff_eq]
        omega
      have left : counts.synced + 1 + (i - 1) = bufferCount count - 2 + 255 := by omega
      rw [if_neg goesOn]
      refine ⟨⟨{ counts with synced := counts.synced + 1 }, false, 0, onCard,
        pipe.buffers.of_eq rfl rfl rfl rfl, ?_, pipe.writing, pipe.mail, more, tail, pipe.card⟩,
        work_lt_of_receiver rfl rfl ?_⟩
      · exact .draining (i - 1) going empty all (lt_of_le_of_ne before last) left (by omega) told
      · simp only [drains, messages, Receiver.work, length_cons]
        omega

theorem WritePipe.close (closes : storage.receiver = .closing) :
    storage.Advances data block count storage.sendCsw := by
  have receiving := pipe.receiving
  rw [closes] at receiving
  cases receiving with
  | closing going drained =>
    have none : storage.inFlight = [] := going.inFlight
    have one : storage.sendCsw.inFlight = [⟨.csw, bulkCswSize, 0⟩] := by
      show storage.inFlight ++ [⟨.csw, bulkCswSize, 0⟩] = _
      rw [none, nil_append]
    have out : storage.sendCsw.toStorage.bytesOut = storage.toStorage.bytesOut := by
      unfold bytesOut
      rw [one, none]
      rfl
    refine ⟨⟨counts, false, 0, onCard, { pipe with
      buffers := pipe.buffers.of_eq rfl rfl rfl rfl, receiving := ?_ }⟩,
      work_lt_of_receiver rfl out ?_⟩
    · exact .sending 0 { drained with } (by decide) rfl
        one going.host rfl going.callback
    · simp only [WriteStorage.sendCsw, Storage.sendCsw, startTransmit, closes,
        Receiver.work]
      omega

end

theorem WriteStorage.work_lt_of_bytesOut {driver : Storage}
    (residue : driver.Residue = storage.Residue) {before after : Nat}
    (wasOut : storage.toStorage.bytesOut = before) (isOut : driver.bytesOut = after)
    (more : before < after) (below : before < bulkCswSize) :
    { storage with toStorage := driver : WriteStorage }.work < storage.work := by
  unfold WriteStorage.work
  dsimp only
  omega

theorem WritePipe.transmit (pipe : WritePipe data block count counts filling arrived onCard storage)
    {more : Nat} {transmitted : Storage}
    (taken : storage.toStorage.step (.transmit more) = some transmitted) :
    storage.Advances data block count { storage with toStorage := transmitted } := by
  obtain ⟨_, _, flying, positive, _, rfl⟩ := step_transmit taken
  have nonempty : storage.bus.inFlight ≠ [] := fun none => nomatch flying.symm.trans none
  have receiving := pipe.receiving
  obtain ⟨receiver, stands⟩ : ∃ receiver, storage.receiver = receiver := ⟨_, rfl⟩
  rw [stands] at receiving
  cases receiving with
  | between going | asleep _ going | midway going | posting going | draining i going
  | closing going => exact absurd going.inFlight nonempty
  | waiting _ announced | starting _ announced => exact absurd announced.going.inFlight nonempty
  | finished _ _ none => exact absurd none nonempty
  | sending txcnt drained _ stage one host status callback =>
    obtain ⟨rfl, rfl⟩ := cons.inj (flying.symm.trans one)
    have wasOut : storage.toStorage.bytesOut = 0 + txcnt :=
      bytesOut_eq host flying rfl rfl
    unfold usbstorageDataTransmitted
    by_cases goesOn : bulkCswSize > txcnt + more
    · rw [if_pos goesOn]
      refine ⟨⟨counts, false, 0, onCard, { pipe with
        buffers := pipe.buffers.of_eq rfl rfl rfl rfl, receiving := ?_ }⟩, ?_⟩
      · rw [stands]
        exact .sending (txcnt + more) { drained with } goesOn stage rfl host status callback
      · exact work_lt_of_bytesOut rfl wasOut (bytesOut_eq host rfl rfl rfl)
          (Nat.add_lt_add_left (Nat.lt_add_of_pos_right positive) 0) (by omega)
    · have isCbw : (storage.toStorage.deliver .csw []).stage = .stageCbw := stage
      have residue : storage.Residue = 0 := by
        rw [pipe.buffers.residue, (blocks_left_eq_zero _ _).mpr drained.all.symm.le]
        rfl
      have content : storage.toStorage.packet .csw = .csw 0 0 :=
        congrArg₂ Packet.csw residue status
      have delivered : (storage.toStorage.deliver .csw []).host = [.csw 0 0] := by
        show storage.host ++ [storage.toStorage.packet .csw] = _
        rw [content, show storage.host = [] from host, nil_append]
      rw [if_neg goesOn, transmitted_of_cbw isCbw]
      refine ⟨⟨counts, false, 0, onCard, { pipe with
        buffers := pipe.buffers.of_eq rfl rfl rfl rfl, receiving := ?_ }⟩, ?_⟩
      · rw [stands]
        exact .finished { drained with } stage rfl
          delivered
      · have isOut : (storage.toStorage.deliver .csw []).bytesOut = bulkCswSize + 0 :=
          bytesOut_eq delivered rfl rfl rfl
        exact work_lt_of_bytesOut rfl wasOut isOut (by omega) (by omega)

end

/-! ### The steps of the thread -/

section

theorem WriteStorage.work_lt_of_writer
    (driver : after.toStorage = storage.toStorage) (rxcnt : after.rxcnt = storage.rxcnt)
    (receiver : after.receiver = storage.receiver)
    (less : after.writer.work + 6 * after.g_write_mbox + after.g_write_sync_mbox.length <
      storage.writer.work + 6 * storage.g_write_mbox + storage.g_write_sync_mbox.length) :
    after.work < storage.work := by
  unfold WriteStorage.work
  rw [driver, rxcnt, receiver]
  omega

section

variable (pipe : WritePipe data block count counts filling arrived onCard storage)
include pipe

section

variable (mail : 0 < storage.g_write_mbox)
include mail

theorem WritePipe.fetched {next : WriteThread}
    (waits : storage.writer.work = 0) (busy : next.work = 5)
    (now : Writing count counts.written (counts.fetched + 1) counts.signalled next onCard) :
    storage.Advances data block count
      { storage with g_write_mbox := storage.g_write_mbox - 1, writer := next } := by
  have fetched : storage.g_write_mbox - 1 + (counts.fetched + 1) = counts.posted := by
    have := pipe.mail
    omega
  refine ⟨⟨{ counts with fetched := counts.fetched + 1 }, filling, arrived, onCard,
    pipe.buffers.of_eq rfl rfl rfl rfl, pipe.receiving, now, fetched, pipe.order, pipe.sync,
    pipe.card⟩, work_lt_of_writer rfl rfl rfl ?_⟩
  dsimp only
  omega

theorem WritePipe.fetch (waits : storage.writer = .fetch) : storage.Advances data block count
      { storage with g_write_mbox := storage.g_write_mbox - 1, writer := .check } := by
  have idle := congrArg WriteThread.work waits
  have writing := pipe.writing
  rw [waits] at writing
  cases writing with
  | fetch _ balance told =>
    exact pipe.fetched mail idle rfl (.check (congrArg Nat.succ balance) told)

theorem WritePipe.fetchS (waits : storage.writer = .fetchS) : storage.Advances data block count
      { storage with g_write_mbox := storage.g_write_mbox - 1, writer := .recheck } := by
  have idle := congrArg WriteThread.work waits
  have writing := pipe.writing
  rw [waits] at writing
  cases writing with
  | fetchS _ balance told =>
    exact pipe.fetched mail idle rfl (.recheck (congrArg Nat.succ balance) told)

end

theorem WritePipe.before_of_fetched (balance : counts.fetched = counts.written + 1) :
    counts.written < counts.received ∧ counts.written < bufferCount count := by
  have ordered := pipe.ordered
  have := ordered.fetched
  have := ordered.posted
  have := ordered.received
  omega

end

theorem WritePipe.testFull
    (pipe : WritePipe data block count counts filling arrived counts.written storage)
    (balance : counts.fetched = counts.written + 1) (told : counts.signalled = counts.written)
    (busy : storage.writer.work = 5) :
    storage.Advances data block count storage.testFull := by
  have full := (pipe.buffers.first (pipe.before_of_fetched balance).1).1
  have writes : storage.testFull.writer = .writing := if_pos full
  refine ⟨⟨counts, filling, arrived, counts.written, pipe.buffers.of_eq rfl rfl rfl rfl,
    pipe.receiving, ?_, pipe.mail, pipe.order, pipe.sync, pipe.card⟩,
    work_lt_of_writer rfl rfl rfl ?_⟩
  · rw [writes]
    exact .writing balance told
  · rw [writes, busy]
    exact Nat.add_lt_add_right (Nat.add_lt_add_right (by decide) _) _

section

variable (pipe : WritePipe data block count counts filling arrived onCard storage)
include pipe

theorem WritePipe.check (checks : storage.writer = .check) :
    storage.Advances data block count storage.checkWrite := by
  have writing := pipe.writing
  rw [checks] at writing
  cases writing with
  | check balance told =>
    have more := (pipe.before_of_fetched balance).2
    have undone : storage.g_write_xfer.count_done < storage.g_write_xfer.count := by
      rw [pipe.buffers.done, pipe.buffers.total]
      unfold bufferCount at more
      omega
    unfold checkWrite
    rw [if_pos undone]
    exact pipe.testFull balance told (congrArg WriteThread.work checks)

theorem WritePipe.recheck (checks : storage.writer = .recheck) :
    storage.Advances data block count storage.testFull := by
  have writing := pipe.writing
  rw [checks] at writing
  cases writing with
  | recheck balance told => exact pipe.testFull balance told (congrArg WriteThread.work checks)

theorem WritePipe.sdcWrite (writes : storage.writer = .writing) :
    storage.Advances data block count storage.sdcWrite := by
  have writing := pipe.writing
  rw [writes] at writing
  cases writing with
  | writing balance told =>
    obtain ⟨before, more⟩ := pipe.before_of_fetched balance
    refine ⟨⟨counts, filling, arrived, counts.written + 1, pipe.buffers.of_eq rfl rfl rfl rfl,
      pipe.receiving, ?_, pipe.mail, pipe.order, pipe.sync,
      pipe.buffers.sdcWrite before more pipe.card⟩, work_lt_of_writer rfl rfl rfl ?_⟩
    · exact .written balance told
    · rw [writes]
      exact Nat.add_lt_add_right (Nat.add_lt_add_right (show 3 < 4 by decide) _) _

theorem WritePipe.written (done : storage.writer = .written) :
    storage.Advances data block count storage.bufferWritten := by
  have writing := pipe.writing
  rw [done] at writing
  cases writing with
  | written balance told =>
    obtain ⟨before, _⟩ := pipe.before_of_fetched balance
    have buffers := pipe.buffers.bufferWritten before
    have last : storage.bufferWritten.writer =
        .posting (counts.written + 1 != bufferCount count) := by
      refine congrArg WriteThread.posting (Bool.eq_iff_iff.mpr ?_)
      rw [bne_iff_ne, bne_iff_ne, show storage.g_write_xfer.count_done + _ = _ from buffers.done,
        pipe.buffers.total]
      exact not_congr ((blocks_done_eq _ _).trans (by omega))
    refine ⟨⟨{ counts with written := counts.written + 1 }, filling, arrived, counts.written + 1,
      buffers, pipe.receiving, ?_, pipe.mail, pipe.order, pipe.sync, pipe.card⟩,
      work_lt_of_writer rfl rfl rfl ?_⟩
    · rw [last]
      exact .posting balance (congrArg Nat.succ told)
    · rw [last, done]
      exact Nat.add_lt_add_right (Nat.add_lt_add_right (show 2 < 3 by decide) _) _

theorem WritePipe.postSync (posts : storage.writer = .posting msg) :
    storage.Advances data block count { storage with
        g_write_sync_mbox := storage.g_write_sync_mbox ++ [msg]
        writer := if msg then .fetchS else .fetch } := by
  have writing := pipe.writing
  rw [posts] at writing
  cases writing with
  | posting balance told =>
    have order := le_succ_of_le pipe.order
    have sync : storage.g_write_sync_mbox ++ [counts.written != bufferCount count] =
        syncMessages count counts.synced (counts.signalled + 1) := by
      rw [pipe.sync, syncMessages_snoc pipe.order, told]
    have most : counts.written ≤ bufferCount count := by
      have ordered := pipe.ordered
      exact ordered.written.trans (ordered.fetched.trans (ordered.posted.trans ordered.received))
    have writing : Writing count counts.written counts.fetched (counts.signalled + 1)
        (if (counts.written != bufferCount count) = true then .fetchS else .fetch)
        counts.written := by
      by_cases last : counts.written = bufferCount count
      · rw [last, bne_self_eq_false, if_neg nofun, ← last]
        exact .fetch (.inr last) balance told
      · rw [if_pos (bne_iff_ne.mpr last)]
        exact .fetchS (lt_of_le_of_ne most last) balance told
    refine ⟨⟨{ counts with signalled := counts.signalled + 1 }, filling, arrived, counts.written,
      pipe.buffers.of_eq rfl rfl rfl rfl, pipe.receiving, writing, pipe.mail, order, sync,
      pipe.card⟩, work_lt_of_writer rfl rfl rfl ?_⟩
    have idle : (if (counts.written != bufferCount count) = true then WriteThread.fetchS
        else .fetch).work = 0 := by
      split <;> rfl
    have busy : storage.writer.work = 2 := congrArg WriteThread.work posts
    dsimp only
    rw [idle, busy, length_append, length_singleton]
    omega

end

end

end Hfirmware.Usb
