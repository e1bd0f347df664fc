/-
The write pipeline as a whole.
-/

import Hfirmware.Usb.WriteSteps

namespace Hfirmware.Usb

open List Option WriteStorage RingWindow GuardedRun

variable {action : WriteAction}

section

variable {data : Nat → UInt8} {block count : Nat} {counts : Counts} {filling : Bool}
  {arrived onCard : Nat} {storage : WriteStorage}

variable {next : WriteStorage}

section

variable (pipe : WritePipe data block count counts filling arrived onCard storage)
include pipe

theorem WritePipe.receiverStep (taken : storage.receiverStep data action = some next) :
    storage.Advances data block count next := by
  cases action with
  | packet =>
    obtain ⟨⟨idle, stage, positive, room⟩, ⟨⟩⟩ := ite_none_right_eq_some.mp taken
    exact pipe.packet idle stage positive room
  | sync =>
    simp only [WriteStorage.receiverStep] at taken
    split at taken
    case h_1 size msg rest waits messages =>
      cases taken
      exact pipe.fetchSync waits messages
    case h_2 => cases taken
  | begin =>
    simp only [WriteStorage.receiverStep] at taken
    split at taken
    case h_1 size starts =>
      cases taken
      exact pipe.start starts
    case h_2 => cases taken
  | dmaDone =>
    simp only [WriteStorage.receiverStep] at taken
    split at taken
    case h_1 size sleeps =>
      cases taken
      exact pipe.dmaDone sleeps
    case h_2 => cases taken
  | post =>
    obtain ⟨⟨posting, -⟩, ⟨⟩⟩ := ite_none_right_eq_some.mp taken
    exact pipe.post posting
  | drain =>
    simp only [WriteStorage.receiverStep] at taken
    split at taken
    case h_1 i msg rest drains messages =>
      cases taken
      exact pipe.drain drains messages
    case h_2 => cases taken
  | close =>
    obtain ⟨closes, ⟨⟩⟩ := ite_none_right_eq_some.mp taken
    exact pipe.close closes
  | transmit =>
    obtain ⟨_, sent, ⟨⟩⟩ := map_eq_some_iff.mp taken
    exact pipe.transmit sent
  | _ => cases taken

theorem WritePipe.writerStep
    (taken : storage.writerStep action = some next) : storage.Advances data block count next := by
  cases action with
  | fetch =>
    obtain ⟨⟨waits, mail⟩, ⟨⟩⟩ := ite_none_right_eq_some.mp taken
    exact pipe.fetch mail waits
  | check =>
    obtain ⟨checks, ⟨⟩⟩ := ite_none_right_eq_some.mp taken
    exact pipe.check checks
  | sdcWrite =>
    obtain ⟨writes, ⟨⟩⟩ := ite_none_right_eq_some.mp taken
    exact pipe.sdcWrite writes
  | written =>
    obtain ⟨done, ⟨⟩⟩ := ite_none_right_eq_some.mp taken
    exact pipe.written done
  | postSync =>
    simp only [WriteStorage.writerStep] at taken
    split at taken
    case h_1 msg posts =>
      obtain ⟨-, ⟨⟩⟩ := ite_none_right_eq_some.mp taken
      exact pipe.postSync posts
    case h_2 => cases taken
  | fetchS =>
    obtain ⟨⟨waits, mail⟩, ⟨⟩⟩ := ite_none_right_eq_some.mp taken
    exact pipe.fetchS mail waits
  | recheck =>
    obtain ⟨checks, ⟨⟩⟩ := ite_none_right_eq_some.mp taken
    exact pipe.recheck checks
  | _ => cases taken

end

theorem InPipe.step (inPipe : InPipe data block count storage)
    (taken : storage.step data action = some next) : storage.Advances data block count next := by
  obtain ⟨_, _, _, _, pipe⟩ := inPipe
  cases or_eq_some_iff.mp taken with
  | inl received => exact pipe.receiverStep received
  | inr written => exact pipe.writerStep written.2

/-- The card holds the first sectors, a buffer is begun only when the one in its place
is on the card, and the one CSW is sent when the last sector is on the card. -/
structure WriteSafe (data : Nat → UInt8) (block count : Nat) (storage : WriteStorage) : Prop where
  inOrder : ∃ sectors, sectors ≤ count ∧ storage.card = expectedSectors data block sectors
  notOverwritten : ∀ action next, storage.step data action = some next → storage.rxcnt = 0 →
    0 < next.rxcnt → storage.w_buf.head = storage.w_buf.rev_num % bufNumDataW ∧
      storage.w_buf.status storage.w_buf.head = .bufEmpty ∧
      4 * (storage.w_buf.rev_num - 1) ≤ storage.card.length
  oneCsw : storage.host.length + storage.inFlight.length ≤ 1
  cswLast : storage.host ≠ [] ∨ storage.inFlight ≠ [] →
    storage.card = expectedSectors data block count

theorem WriteStorage.writerStep_frame (taken : storage.writerStep action = some next) :
    next.toStorage = storage.toStorage ∧ next.rxcnt = storage.rxcnt ∧
      next.receiver = storage.receiver := by
  cases action with
  | fetch | sdcWrite | written | fetchS | recheck =>
    obtain ⟨-, ⟨⟩⟩ := ite_none_right_eq_some.mp taken
    exact ⟨rfl, rfl, rfl⟩
  | check =>
    obtain ⟨-, ⟨⟩⟩ := ite_none_right_eq_some.mp taken
    unfold checkWrite
    split <;> exact ⟨rfl, rfl, rfl⟩
  | postSync =>
    simp only [WriteStorage.writerStep] at taken
    split at taken
    case h_1 msg posts =>
      obtain ⟨-, ⟨⟩⟩ := ite_none_right_eq_some.mp taken
      exact ⟨rfl, rfl, rfl⟩
    case h_2 => cases taken
  | _ => cases taken

theorem WriteStorage.received_rxcnt (storage : WriteStorage) (empty : storage.rxcnt = 0) :
    storage.received.rxcnt = 0 := by
  unfold WriteStorage.received
  split
  · rfl
  · exact empty

theorem WriteStorage.receiverStep_begins
    (taken : storage.receiverStep data action = some next) (empty : storage.rxcnt = 0)
    (begins : 0 < next.rxcnt) :
    (∃ size, storage.receiver = .starting size) ∨
      storage.receiver = .idle ∧ storage.stage = .stageData ∧
        storage.w_buf.rev_num < bufNumDataW := by
  have notBegun : storage.rxcnt ≠ next.rxcnt := by omega
  cases action with
  | packet =>
    obtain ⟨⟨idle, stage, -, -⟩, ⟨⟩⟩ := ite_none_right_eq_some.mp taken
    refine .inr ⟨idle, stage, not_le.mp fun late => ?_⟩
    unfold usbstorageDataReceived at notBegun
    rw [if_pos empty, if_pos late] at notBegun
    exact notBegun rfl
  | begin =>
    simp only [WriteStorage.receiverStep] at taken
    split at taken
    case h_1 size starts => exact .inl ⟨size, starts⟩
    case h_2 => cases taken
  | sync =>
    simp only [WriteStorage.receiverStep] at taken
    split at taken
    case h_1 size msg rest waits messages =>
      cases taken
      exact absurd rfl notBegun
    case h_2 => cases taken
  | dmaDone =>
    simp only [WriteStorage.receiverStep] at taken
    split at taken
    case h_1 size sleeps =>
      cases taken
      exact absurd (received_rxcnt (storage.stored data size) empty)
        begins.ne'
    case h_2 => cases taken
  | post | close =>
    obtain ⟨-, ⟨⟩⟩ := ite_none_right_eq_some.mp taken
    exact absurd rfl notBegun
  | drain =>
    simp only [WriteStorage.receiverStep] at taken
    split at taken
    case h_1 i msg rest drains messages =>
      cases taken
      exact absurd rfl notBegun
    case h_2 => cases taken
  | transmit =>
    obtain ⟨transmitted, -, ⟨⟩⟩ := map_eq_some_iff.mp taken
    exact absurd rfl notBegun
  | _ => cases taken

theorem WritePipe.received_le_of_begins
    (pipe : WritePipe data block count counts filling arrived onCard storage)
    (taken : storage.step data action = some next) (empty : storage.rxcnt = 0)
    (begins : 0 < next.rxcnt) : counts.received ≤ counts.written + 1 ∧ filling = false := by
  have ordered := pipe.ordered
  have synced := ordered.synced
  have signalled := ordered.signalled
  have receiving := pipe.receiving
  cases or_eq_some_iff.mp taken with
  | inr written =>
    exact absurd (writerStep_frame written.2).2.1 (by omega)
  | inl received =>
    cases receiverStep_begins received empty begins with
    | inl isStarting =>
      obtain ⟨_, starts⟩ := isStarting
      rw [starts] at receiving
      cases receiving with
      | starting _ announced balance told => exact ⟨by omega, rfl⟩
    | inr isFirst =>
      obtain ⟨idle, _, early⟩ := isFirst
      rw [pipe.buffers.revNum] at early
      unfold bufNumDataW at early
      have isEarly : counts.received ≤ counts.written + 1 := by omega
      rw [idle] at receiving
      cases receiving with
      | between | sending | finished => exact ⟨isEarly, rfl⟩
      | midway _ some => exact absurd empty some.ne'

theorem length_expectedSectors (data : Nat → UInt8) (block count : Nat) :
    (expectedSectors data block count).length = count := by
  unfold expectedSectors
  rw [length_map, length_range]

theorem Receiving.going_or_drained {received synced posted : Nat} {bus : Bus} {receiver : Receiver}
    (receiving : Receiving count received synced posted bus receiver filling arrived) :
    InWrite bus ∨ Drained count received synced posted bus ∧
      bus.host.length + bus.inFlight.length = 1 ∧ bus.stage = .stageCbw := by
  cases receiving with
  | between going | asleep _ going | midway going | posting going | draining i going
  | closing going => exact .inl going
  | waiting _ announced | starting _ announced => exact .inl announced.going
  | sending _ drained _ stage one host =>
    refine .inr ⟨drained, ?_, stage⟩
    rw [host, one]
    rfl
  | finished drained stage none host =>
    refine .inr ⟨drained, ?_, stage⟩
    rw [host, none]
    rfl

theorem WritePipe.card_of_drained
    (pipe : WritePipe data block count counts filling arrived onCard storage)
    (drained : counts.synced = bufferCount count) :
    counts.written = bufferCount count ∧ counts.signalled = bufferCount count ∧
      counts.fetched = bufferCount count ∧ storage.card = expectedSectors data block count := by
  obtain ⟨synced, signalled, written, fetched, posted, received, -⟩ := pipe.ordered
  obtain ⟨-, -, least, most⟩ := pipe.writing.bounds
  refine ⟨by omega, by omega, by omega, ?_⟩
  rw [pipe.card, (blocks_done_eq _ _).mpr (by omega)]

theorem InPipe.safe (inPipe : InPipe data block count storage) :
    WriteSafe data block count storage := by
  obtain ⟨counts, _, _, _, pipe⟩ := inPipe
  refine ⟨⟨_, min_le_right _ _, pipe.card⟩, fun action next taken empty begins => ?_, ?_, ?_⟩
  · obtain ⟨near, rfl⟩ := pipe.received_le_of_begins taken empty begins
    have ordered := pipe.ordered.received
    obtain ⟨-, -, least, -⟩ := pipe.writing.bounds
    rw [pipe.buffers.revNum, pipe.card, length_expectedSectors]
    refine ⟨pipe.buffers.head, ?_, ?_⟩
    · rw [pipe.buffers.head]
      exact pipe.buffers.cells.free counts.received (.refl) (Nat.lt_succ_of_le near)
    · unfold bufferCount at ordered
      omega
  · cases pipe.receiving.going_or_drained with
    | inl going =>
      have inFlight : storage.inFlight = [] := going.inFlight
      have host : storage.host = [] := going.host
      rw [inFlight, host]
      exact Nat.zero_le 1
    | inr drained => exact drained.2.1.le
  · intro started
    cases pipe.receiving.going_or_drained with
    | inl going => exact absurd started (not_or.mpr ⟨not_not.mpr going.host,
        not_not.mpr going.inFlight⟩)
    | inr drained => exact (pipe.card_of_drained drained.1.synced).2.2.2

section

variable (pipe : WritePipe data block count counts filling arrived onCard storage)
include pipe

theorem WritePipe.thread_of_stuck
    (stuck : ∀ action, action.bytes = 0 → storage.writerStep action = none) :
    storage.g_write_mbox = 0 ∧ counts.fetched = counts.written ∧
      counts.signalled = counts.written := by
  have ordered := pipe.ordered
  obtain ⟨thread, stands⟩ : ∃ thread, storage.writer = thread := ⟨_, rfl⟩
  have writing := pipe.writing
  rw [stands] at writing
  cases writing with
  | fetch _ balance told =>
    refine ⟨Nat.eq_zero_of_not_pos fun mail => ?_, balance, told⟩
    exact nomatch (stuck .fetch rfl).symm.trans (if_pos ⟨stands, mail⟩)
  | fetchS _ balance told =>
    refine ⟨Nat.eq_zero_of_not_pos fun mail => ?_, balance, told⟩
    exact nomatch (stuck .fetchS rfl).symm.trans (if_pos ⟨stands, mail⟩)
  | check => exact nomatch (stuck .check rfl).symm.trans (if_pos stands)
  | writing => exact nomatch (stuck .sdcWrite rfl).symm.trans (if_pos stands)
  | written => exact nomatch (stuck .written rfl).symm.trans (if_pos stands)
  | recheck => exact nomatch (stuck .recheck rfl).symm.trans (if_pos stands)
  | posting balance told =>
    -- The callback has fetched all but the last two messages, so there is room.
    have room : storage.g_write_sync_mbox.length < usMailboxSize := by
      have near := pipe.receiving.received_le
      have behind := ordered.written.trans (ordered.fetched.trans ordered.posted)
      rw [pipe.sync, length_syncMessages]
      unfold usMailboxSize
      omega
    have free := stuck .postSync rfl
    simp only [WriteStorage.writerStep, stands] at free
    exact nomatch free.symm.trans (if_pos room)

theorem WritePipe.done_of_stuck
    (stuck : ∀ action, action.bytes = 0 → storage.step data action = none)
    (fed : ¬(storage.receiver = .idle ∧ storage.stage = .stageData ∧ 0 < storage.packetRoom)) :
    storage.card = expectedSectors data block count ∧ storage.host = [.csw 0 0] ∧
      storage.g_write_mbox = 0 ∧ storage.g_write_sync_mbox = [] := by
  have stuckReceiver (action : WriteAction) (noBytes : action.bytes = 0) :
      storage.receiverStep data action = none :=
    (or_eq_none_iff.mp (stuck action noBytes)).1
  obtain ⟨mailEmpty, _, _⟩ := pipe.thread_of_stuck fun action noBytes =>
    (or_eq_none_iff.mp (stuck action noBytes)).2
  have mail := pipe.mail
  obtain ⟨receiver, stands⟩ : ∃ receiver, storage.receiver = receiver := ⟨_, rfl⟩
  have receiving := pipe.receiving
  rw [stands] at receiving
  have noMessage (empty : storage.g_write_sync_mbox = []) : counts.signalled ≤ counts.synced := by
    have none := length_syncMessages count counts.synced counts.signalled
    rw [← pipe.sync, empty] at none
    exact Nat.le_of_sub_eq_zero none.symm
  cases receiving with
  | between going empty more =>
    have room : 0 < storage.packetRoom := by
      rw [packetRoom_eq pipe.buffers empty]
      exact mul_pos (by decide) (bufferBlocks_pos more)
    exact absurd ⟨stands, going.stage, room⟩ fed
  | midway going some fits =>
    have room : 0 < storage.packetRoom := by
      have nonzero : storage.rxcnt ≠ 0 := some.ne'
      unfold packetRoom
      rw [if_neg nonzero]
      exact Nat.sub_pos_of_lt fits
    exact absurd ⟨stands, going.stage, room⟩ fed
  | waiting _ _ isBehind isTold =>
    have blocked := stuckReceiver .sync rfl
    cases messages : storage.g_write_sync_mbox with
    | nil =>
      have := noMessage messages
      omega
    | cons =>
      simp only [WriteStorage.receiverStep, stands, messages] at blocked
      cases blocked
  | starting =>
    have blocked := stuckReceiver .begin rfl
    simp only [WriteStorage.receiverStep, stands] at blocked
    cases blocked
  | asleep =>
    have blocked := stuckReceiver .dmaDone rfl
    simp only [WriteStorage.receiverStep, stands] at blocked
    cases blocked
  | posting =>
    have room : storage.g_write_mbox < usMailboxSize := mailEmpty.trans_lt (by decide)
    exact nomatch (stuckReceiver .post rfl).symm.trans (if_pos ⟨stands, room⟩)
  | draining _ going empty _ _ isBehind _ isTold =>
    have blocked := stuckReceiver .drain rfl
    cases messages : storage.g_write_sync_mbox with
    | nil =>
      have := noMessage messages
      omega
    | cons =>
      simp only [WriteStorage.receiverStep, stands, messages] at blocked
      cases blocked
  | closing => exact nomatch (stuckReceiver .close rfl).symm.trans (if_pos stands)
  | sending _ _ below _ one _ _ callback =>
    have blocked := map_eq_none_iff.mp (stuckReceiver (.transmit 1) rfl)
    unfold Storage.step at blocked
    rw [show storage.inFlight = _ from one] at blocked
    exact nomatch blocked.symm.trans (if_pos ⟨callback, one_pos, below⟩)
  | finished drained _ _ host =>
    obtain ⟨-, signalled, -, card⟩ := pipe.card_of_drained drained.synced
    refine ⟨card, host, mailEmpty, ?_⟩
    rw [pipe.sync, signalled, drained.synced]
    unfold syncMessages
    rw [Nat.sub_self]
    rfl

end

theorem InPipe.complete (inPipe : InPipe data block count storage)
    (stuck : ∀ action, storage.step data action = none) :
    storage.card = expectedSectors data block count ∧ storage.host = [.csw 0 0] ∧
      storage.g_write_mbox = 0 ∧ storage.g_write_sync_mbox = [] := by
  obtain ⟨_, _, _, _, pipe⟩ := inPipe
  refine pipe.done_of_stuck (fun action _ => stuck action) fun ⟨isIdle, stage, room⟩ => ?_
  have blocked := (or_eq_none_iff.mp (stuck (.packet 1))).1
  exact nomatch blocked.symm.trans (if_pos ⟨isIdle, stage, one_pos, room⟩)

theorem InPipe.preserved (data : Nat → UInt8) (block count : Nat) (state : WriteStorage)
    (action : WriteAction) (next : WriteStorage) (inPipe : InPipe data block count state)
    (taken : state.step data action = some next) :
    InPipe data block count next ∧ next.work < state.work := inPipe.step taken

end

structure WriteIdle (storage : WriteStorage) : Prop where
  receiver : storage.receiver = .idle
  writer : storage.writer = .fetch
  mail : storage.g_write_mbox = 0
  sync : storage.g_write_sync_mbox = []
  callback : storage.callback = .idle
  inFlight : storage.inFlight = []
  host : storage.host = []
  card : storage.card = []

def WriteStorage.startWrite (storage : WriteStorage) (cbw : BulkCbw) : WriteStorage :=
  { storage.prepareWrite cbw with
    stage := .stageData
    Residue := cbw.count * mmcsdBlockSize
    Status := 0
    rxcnt := 0
    rxsize := 0
    taken := 0 }

theorem usbstorageHandleWriteCbw_write {cbw : BulkCbw} (storage : WriteStorage)
    (dirOut : cbw.Flags &&& 0x80 = 0) (positive : 0 < cbw.count)
    (length : cbw.DataTransferLength = cbw.count * mmcsdBlockSize) :
    usbstorageHandleWriteCbw storage cbw = storage.startWrite cbw := by
  have accepted : write10 cbw = .ok (cbw.count * mmcsdBlockSize) := by
    unfold write10
    rw [if_pos length, length]
  have some : cbw.count * mmcsdBlockSize ≠ 0 :=
    ne_of_gt (mul_pos positive (by decide))
  unfold usbstorageHandleWriteCbw
  rw [accepted]
  dsimp only
  rw [if_neg some, if_neg (not_not.mpr dirOut)]
  rfl

theorem WriteIdle.pipe {storage : WriteStorage} (idle : WriteIdle storage) {cbw : BulkCbw}
    (positive : 0 < cbw.count) (data : Nat → UInt8) :
    InPipe data cbw.block cbw.count (storage.startWrite cbw) ∧
      (storage.startWrite cbw).work ≤ 11 * (mmcsdBlockSize * cbw.count) + bulkCswSize + 1 := by
  have more : 0 < bufferCount cbw.count := by
    unfold bufferCount
    omega
  have cells : Window bufNumDataW cleanWriteBuf.cell 0 0 (Filled data cbw.count 0 0)
      (fun cell => cell.status = .bufEmpty) :=
    ⟨.refl, Nat.zero_le _, nofun, fun _ _ _ => rfl⟩
  have done : 0 = min (4 * 0) cbw.count := (Nat.zero_min _).symm
  have card : storage.card = expectedSectors data cbw.block (min (4 * 0) cbw.count) := by
    rw [← done, idle.card]
    rfl
  have residue : cbw.count * mmcsdBlockSize = mmcsdBlockSize * (cbw.count - 4 * 0) :=
    mul_comm _ _
  have taken : 0 = mmcsdBlockSize * min (4 * 0) cbw.count + 0 := by rw [← done, mul_zero]
  have mail := idle.mail
  refine ⟨⟨⟨0, 0, 0, 0, 0, 0⟩, false, 0, 0, ?_, ?_, ?_, mail, .refl, idle.sync, card⟩, ?_⟩
  · exact ⟨rfl, rfl, cbw.count_lt, done, rfl, rfl, rfl, residue, taken, Nat.zero_le _, cells⟩
  · dsimp only [startWrite, prepareWrite]
    rw [idle.receiver]
    exact .between { idle with stage := rfl } rfl more rfl rfl
  · dsimp only [startWrite, prepareWrite]
    rw [idle.writer]
    exact .fetch (.inl rfl) rfl rfl
  · unfold WriteStorage.work
    simp only [startWrite, prepareWrite, idle.receiver, idle.writer,
      idle.mail, idle.sync, Receiver.work, WriteThread.work, length_nil,
      mul_comm cbw.count]
    omega

/-- Every interleaving of a write command is safe, ends within a bound, and can only end
with all sectors on the card in order and one CSW with status 0. -/
theorem writePipeline_complete {storage : WriteStorage} (idle : WriteIdle storage) {cbw : BulkCbw}
    (dirOut : cbw.Flags = 0) (positive : 0 < cbw.count)
    (length : cbw.DataTransferLength = cbw.count * mmcsdBlockSize) (data : Nat → UInt8)
    {actions : List WriteAction} {final : WriteStorage}
    (run : runEnabled (WriteStorage.step data) (usbstorageHandleWriteCbw storage cbw) actions =
      some final) :
    WriteSafe data cbw.block cbw.count final ∧ ((∀ action, final.step data action = none) →
        final.card = expectedSectors data cbw.block cbw.count ∧ final.host = [.csw 0 0] ∧
          final.g_write_mbox = 0 ∧ final.g_write_sync_mbox = []) ∧
      actions.length ≤ 11 * (mmcsdBlockSize * cbw.count) + bulkCswSize + 1 := by
  have isOut : cbw.Flags &&& 0x80 = 0 := by
    rw [dirOut]
    decide
  rw [usbstorageHandleWriteCbw_write storage isOut positive length] at run
  obtain ⟨initial, _⟩ := idle.pipe positive data
  obtain ⟨inPipe, _⟩ :=
    runEnabled_spec (InPipe.preserved data cbw.block cbw.count) initial run
  exact ⟨inPipe.safe, inPipe.complete, by omega⟩

def freshWriteStorage : WriteStorage :=
  { freshStorage with
    w_buf := cleanWriteBuf
    g_write_xfer := { block := 0, count := 0, count_done := 0 }
    g_write_mbox := 0
    g_write_sync_mbox := []
    rxcnt := 0
    rxsize := 0
    taken := 0
    receiver := .idle
    writer := .fetch
    card := [] }

def writeNine : BulkCbw :=
  { Flags := 0
    DataTransferLength := 4608
    CDB := fun index => if index = 5 then 7 else if index = 8 then 9 else 0 }

def writeNineActions : List WriteAction :=
  [.packet 512, .dmaDone, .packet 1536, .dmaDone, .post, .packet 2048, .dmaDone, .post, .packet 64,
    .fetch, .check, .sdcWrite, .written, .postSync, .sync, .begin, .fetchS, .dmaDone, .recheck,
    .packet 448, .dmaDone, .sdcWrite, .written, .post, .postSync, .drain, .fetchS, .recheck,
    .sdcWrite, .written, .postSync, .drain, .close, .transmit 13]

def writeNineFinal : WriteStorage :=
  (runEnabled (WriteStorage.step fun offset => .ofNat offset)
    (usbstorageHandleWriteCbw freshWriteStorage writeNine) writeNineActions).getD freshWriteStorage

theorem writePipeline_complete_nine :
    WriteSafe (fun offset => .ofNat offset) writeNine.block writeNine.count writeNineFinal ∧
      writeNineFinal.card =
        expectedSectors (fun offset => .ofNat offset) writeNine.block writeNine.count := by
  have idle : WriteIdle freshWriteStorage := ⟨rfl, rfl, rfl, rfl, rfl, rfl, rfl, rfl⟩
  have run : runEnabled (WriteStorage.step fun offset => .ofNat offset)
      (usbstorageHandleWriteCbw freshWriteStorage writeNine) writeNineActions =
      some writeNineFinal := rfl
  have stuck (action : WriteAction) :
      writeNineFinal.step (fun offset => .ofNat offset) action = none := by
    cases action <;> rfl
  obtain ⟨safe, complete, -⟩ :=
    writePipeline_complete idle rfl (by decide) (by decide) (fun offset => .ofNat offset) run
  exact ⟨safe, (complete stuck).1⟩

end Hfirmware.Usb
