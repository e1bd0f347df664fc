/-
The bounds of the data phase for any command.
-/

import Hfirmware.Usb.BulkSteps

namespace Hfirmware.Usb

open List Option Storage WriteStorage GuardedRun

/-! ### Which commands are served as they say -/

/-- What a CBW must not ask of a handler: a transfer of nothing, part of a block,
or data in the direction that the command does not have. -/
def Handler.Serves (handler : Handler) (cbw : BulkCbw) (inserted : Bool) : Prop :=
  match handler with
  | .read10 =>
    if cbw.DirOut then cbw.DataTransferLength ≠ 0
    else inserted = true → cbw.count = 0 ∨ cbw.DataTransferLength ≠ 0 ∧
      (cbw.count * mmcsdBlockSize ≤ cbw.DataTransferLength ∨
        mmcsdBlockSize ∣ cbw.DataTransferLength)
  | .write10 =>
    if cbw.DataTransferLength = cbw.count * mmcsdBlockSize then cbw.count = 0 ∨ cbw.DirOut
    else cbw.DataTransferLength ≠ 0
  | .inquiryCmd =>
    cbw.DirOut → cbw.DataTransferLength = 0 ∨ bufSizDataR < cbw.DataTransferLength
  | .requestSense => cbw.DirOut → cbw.DataTransferLength = 0
  | .modeSense6 => cbw.DirOut → cbw.DataTransferLength = 0
  | .readCapacities => cbw.DirOut → cbw.DataTransferLength = 0 ∨ inserted = false
  | .readCapacity => cbw.DirOut → cbw.DataTransferLength = 0 ∨ inserted = false
  | _ => True

def SignedCbw.Served (cbw : SignedCbw) (inserted : Bool) : Prop :=
  cbw.Length ≤ 16 → ∀ entry, cbw.command = some entry → entry.handler.Serves cbw.toBulkCbw inserted

structure BulkIdle (storage : BulkStorage) : Prop where
  write : WriteIdle storage.toWriteStorage
  unpaused : storage.g_isPaused = false
  begun : 0 < storage.g_read_xfer.count_done ∨ storage.g_read_xfer.count = 0
  thread : storage.readThread = .fetch ∨ storage.readThread = .check
  cbwPosting : storage.cbwPosting = false
  mail : storage.g_read_mbox ≤ usMailboxSize
  errors : storage.error_datalen = 0
  blocks : storage.g_read_xfer.count < 2 ^ 16

structure Cleared (storage : WriteStorage) : Prop where
  parked : WriteParked storage
  inFlight : storage.inFlight = []
  host : storage.host = []
  callback : storage.callback = .idle
  unpaused : storage.g_isPaused = false
  thread : storage.readThread = .fetch ∨ storage.readThread = .check
  mail : storage.g_read_mbox ≤ usMailboxSize

section

variable {cbw : SignedCbw} {inserted : Bool} {storage : BulkStorage}

theorem BulkIdle.cleared (idle : BulkIdle storage) (cbw : SignedCbw) (inserted : Bool) :
    Cleared (cbw.prepare inserted storage.toWriteStorage) := by
  have parked : WriteParked storage.toWriteStorage :=
    { idle.write with }
  have cleared : Cleared storage.toWriteStorage := ⟨parked, idle.write.inFlight, idle.write.host,
    idle.write.callback, idle.unpaused, idle.thread, idle.mail⟩
  obtain ⟨⟨receiver, writer, writeMail⟩, inFlight, host, callback, unpaused, thread, mail⟩ :=
    cleared
  unfold SignedCbw.prepare
  split
  · exact ⟨parked, inFlight, host, callback, unpaused, thread, mail⟩
  cases cbw.command with
  | none => exact ⟨parked, inFlight, host, callback, unpaused, thread, mail⟩
  | some entry =>
    -- The handlers set up buffers and transfers only.
    simp only [map_some, getD_some]
    unfold ScsiCmd.prepare
    split
    · exact ⟨⟨receiver, writer, writeMail⟩, inFlight, host, callback, unpaused, thread, mail⟩
    · split <;>
        exact ⟨⟨receiver, writer, writeMail⟩, inFlight, host, callback, unpaused, thread, mail⟩
    · exact ⟨parked, inFlight, host, callback, unpaused, thread, mail⟩

section

variable {driver : WriteStorage} (cleared : Cleared driver)
include cleared

theorem Cleared.threadWork_le (blocks : driver.g_read_xfer.count < 2 ^ 16) :
    2 * (driver.g_read_xfer.count - driver.g_read_xfer.count_done) + driver.readThread.work +
      4 * driver.g_read_mbox ≤ 2 ^ 17 + 43 := by
  have few := cleared.mail
  unfold usMailboxSize at few
  have slow : driver.readThread.work ≤ 3 := by
    rcases cleared.thread with thread | thread <;> rw [thread] <;> decide
  omega

theorem Cleared.not_busy : ¬(driver.readThread = .reading ∨ driver.readThread = .filled) := by
  rcases cleared.thread with thread | thread <;> simp [thread]

theorem Cleared.resting (begun : 0 < driver.g_read_xfer.count_done ∨ driver.g_read_xfer.count = 0) :
    Resting driver.toStorage :=
  ⟨cleared.callback, ⟨cleared.unpaused, begun⟩, fun busy => absurd busy cleared.not_busy⟩

theorem Cleared.onlyCsw : OnlyCsw driver.toStorage := by
  constructor <;> simp [cleared.inFlight, cleared.host]

theorem Cleared.sum_host (size : Packet → Nat) : (driver.host.map size).sum = 0 := by
  rw [cleared.host]
  rfl

end

def SignedCbw.LeavesQuiet (cbw : SignedCbw) (inserted : Bool) (storage : BulkStorage) : Prop :=
  let xfer := (cbw.prepare inserted storage.toWriteStorage).g_read_xfer
  (0 < xfer.count_done ∨ xfer.count = 0) ∧ xfer.count < 2 ^ 16

theorem handle_of_error2 (storage : BulkStorage)
    (isLength : cbw.datalen inserted = .error .error2Len) :
    usbstorageHandleBulkCbw storage cbw inserted = { storage with
        cbw := cbw
        supplied := 0
        toWriteStorage := { cbw.prepare inserted storage.toWriteStorage with
          stage := .stageCsw
          Status := 1 } } := by
  unfold usbstorageHandleBulkCbw usbstorageAnalyseCbw
  rw [isLength]

theorem BulkIdle.waits (idle : BulkIdle storage)
    (isLength : cbw.datalen inserted = .error .error2Len)
    (leaves : cbw.LeavesQuiet inserted storage) (some : cbw.DataTransferLength ≠ 0) :
    let after := usbstorageHandleBulkCbw storage cbw inserted
    Rejected cbw after ∧ after.rejectWork ≤ 14 * cbw.DataTransferLength + 2 ^ 17 + 48 := by
  have cleared := idle.cleared cbw inserted
  obtain ⟨callback, quiet, underway⟩ := cleared.resting leaves.1
  obtain ⟨flying, host⟩ := cleared.onlyCsw
  have work := cleared.threadWork_le leaves.2
  rw [handle_of_error2 storage isLength]
  refine ⟨⟨rfl, { cleared.parked with },
    ⟨callback, ⟨quiet.unpaused, quiet.begun⟩, underway⟩, ⟨flying, host⟩, nofun,
    fun _ => idle.errors, .inr (.inr ⟨rfl, Nat.pos_of_ne_zero some⟩)⟩, ?_⟩
  have one := Bool.toNat_le (cbw.prepare inserted storage.toWriteStorage).cbwPosting
  simp only [BulkStorage.rejectWork, bytesLeft, threadWork, cleared.inFlight, map_nil, sum_nil]
  omega

theorem handle_of_csw (storage : BulkStorage)
    (isLength : cbw.datalen inserted = .error .error1Len ∨ cbw.datalen inserted = .ok 0) :
    ∃ residue status, usbstorageHandleBulkCbw storage cbw inserted = { storage with
          cbw := cbw
          supplied := 0
          toWriteStorage := { cbw.prepare inserted storage.toWriteStorage with
            toStorage :=
              { (cbw.prepare inserted storage.toWriteStorage).toStorage with
                stage := .stageCsw
                Residue := residue
                Status := status : Storage }.startTransmit .csw bulkCswSize } } := by
  unfold usbstorageHandleBulkCbw usbstorageAnalyseCbw cswAtOnce
  cases isLength with
  | inl isError =>
    rw [isError]
    exact ⟨_, _, rfl⟩
  | inr isZero =>
    rw [isZero]
    exact ⟨_, _, rfl⟩

theorem BulkIdle.answers (idle : BulkIdle storage)
    (isLength : cbw.datalen inserted = .error .error1Len ∨ cbw.datalen inserted = .ok 0)
    (leaves : cbw.LeavesQuiet inserted storage) :
    let after := usbstorageHandleBulkCbw storage cbw inserted
    Rejected cbw after ∧ after.rejectWork ≤ 14 * cbw.DataTransferLength + 2 ^ 17 + 61 := by
  have cleared := idle.cleared cbw inserted
  obtain ⟨callback, quiet, underway⟩ := cleared.resting leaves.1
  obtain ⟨flying, host⟩ := cleared.onlyCsw.startTransmit
  have work := cleared.threadWork_le leaves.2
  obtain ⟨_, _, handled⟩ := handle_of_csw storage isLength
  rw [handled]
  refine ⟨⟨rfl, { cleared.parked with },
    ⟨callback, ⟨quiet.unpaused, quiet.begun⟩, underway⟩, ⟨flying, host⟩, nofun,
    fun _ => idle.errors,
    .inl (append_ne_nil_of_right_ne_nil _ nofun)⟩, ?_⟩
  have one := Bool.toNat_le (cbw.prepare inserted storage.toWriteStorage).cbwPosting
  simp only [BulkStorage.rejectWork, bytesLeft, threadWork, startTransmit,
    cleared.inFlight, nil_append, map_cons, map_nil, sum_singleton, bulkCswSize]
  omega

variable {datalen : Nat}

theorem handle_of_data (storage : BulkStorage) (positive : 0 < datalen)
    (isLength : cbw.datalen inserted = .ok datalen) :
    usbstorageHandleBulkCbw storage cbw inserted =
      let analysed : WriteStorage :=
        { cbw.prepare inserted storage.toWriteStorage with
          stage := .stageData
          Status := 0
          Residue := datalen }
      { storage with
        cbw := cbw
        supplied := 0
        toWriteStorage :=
          if cbw.DirOut then { analysed with rxcnt := 0, rxsize := 0, taken := 0 }
          else if cbw.CDB 0 ≠ 0x28 then
            { analysed with
              toStorage := analysed.toStorage.startTransmit (.command datalen) datalen }
          else { analysed with cbwPosting := true } } := by
  unfold usbstorageHandleBulkCbw usbstorageAnalyseCbw
  rw [isLength]
  cases datalen with
  | zero => exact absurd positive (lt_irrefl 0)
  | succ => rfl

section

variable (idle : BulkIdle storage)
include idle

theorem BulkIdle.sendsCommand (positive : 0 < datalen)
    (isLength : cbw.datalen inserted = .ok datalen) (within : datalen ≤ cbw.DataTransferLength)
    (small : datalen ≤ bufSizCmddata) (dirIn : ¬cbw.DirOut) (isCommand : cbw.CDB 0 ≠ 0x28)
    (leaves : cbw.LeavesQuiet inserted storage) :
    let after := usbstorageHandleBulkCbw storage cbw inserted
    Sending cbw datalen datalen after ∧ after.toStorage.inWork datalen ≤
        7 * (datalen + bulkCswSize) + 2 ^ 17 + 48 := by
  have cleared := idle.cleared cbw inserted
  have work := cleared.threadWork_le leaves.2
  rw [handle_of_data storage positive isLength]
  dsimp only
  rw [if_neg dirIn, if_pos isCommand]
  refine ⟨⟨rfl, dirIn, within, positive, { cleared.parked with }, rfl, 0, ?_,
    fun busy => absurd busy cleared.not_busy⟩, ?_⟩
  · refine .sending ⟨rfl, rfl, positive, ?_, dvd_refl _, dvd_zero _, cleared.sum_host _,
      cleared.sum_host _⟩ (.command datalen) 0 nofun rfl ?_ positive
      (congrArg (· ++ _) cleared.inFlight) cleared.callback ⟨cleared.unpaused, leaves.1⟩
      (.inr (zero_add _))
    · exact within.trans_lt cbw.length32
    · intro _ isSize
      exact Source.command.inj isSize ▸ small
  · have one := Bool.toNat_le (cbw.prepare inserted storage.toWriteStorage).cbwPosting
    simp only [inWork, threadWork, startTransmit, cleared.callback, Callback.work]
    omega

theorem BulkIdle.sendsBlocks (positive : 0 < datalen)
    (isLength : cbw.datalen inserted = .ok datalen) (within : datalen ≤ cbw.DataTransferLength)
    (whole : mmcsdBlockSize ∣ datalen) (dirIn : ¬cbw.DirOut) (isRead : cbw.CDB 0 = 0x28)
    (xfer : (cbw.prepare inserted storage.toWriteStorage).g_read_xfer =
      { block := cbw.block, count := cbw.count, count_done := 0 }) :
    let after := usbstorageHandleBulkCbw storage cbw inserted
    Sending cbw datalen mmcsdBlockSize after ∧ after.toStorage.inWork datalen ≤
        7 * (datalen + bulkCswSize) + 2 ^ 17 + 53 := by
  have cleared := idle.cleared cbw inserted
  have unread := congrArg BulkDataXfer.count_done xfer
  have work := cleared.threadWork_le (xfer ▸ cbw.count_lt)
  rw [handle_of_data storage positive isLength]
  dsimp only
  rw [if_neg dirIn, if_neg (not_not.mpr isRead)]
  refine ⟨⟨rfl, dirIn, within, positive, { cleared.parked with }, rfl, 0, ?_,
    fun busy => absurd busy cleared.not_busy⟩, ?_⟩
  · exact .starting ⟨rfl, rfl, positive, within.trans_lt cbw.length32, whole,
      dvd_zero _, cleared.sum_host _, cleared.sum_host _⟩ rfl cleared.inFlight cleared.callback
      cleared.unpaused unread
  · simp only [inWork, threadWork, cleared.callback, Callback.work, Bool.toNat_true]
    omega

theorem BulkIdle.accepts (data : Nat → UInt8) (dirOut : cbw.DirOut) (positive : 0 < cbw.count)
    (length : cbw.DataTransferLength = cbw.count * mmcsdBlockSize)
    (isLength : cbw.datalen inserted = .ok cbw.DataTransferLength)
    (prepares : cbw.prepare inserted storage.toWriteStorage =
      storage.toWriteStorage.prepareWrite cbw.toBulkCbw) :
    let after := usbstorageHandleBulkCbw storage cbw inserted
    Accepting data cbw after ∧ after.acceptWork ≤ 11 * cbw.DataTransferLength + 2 ^ 17 + 62 := by
  have some : 0 < cbw.DataTransferLength := by
    rw [length]
    exact mul_pos positive (by decide)
  have started : (usbstorageHandleBulkCbw storage cbw inserted).toWriteStorage =
      storage.toWriteStorage.startWrite cbw.toBulkCbw := by
    rw [handle_of_data storage some isLength]
    dsimp only
    rw [if_pos dirOut, prepares, length]
    rfl
  have cleared := idle.cleared cbw inserted
  rw [prepares] at cleared
  obtain ⟨callback, quiet, underway⟩ := cleared.resting idle.begun
  obtain ⟨inPipe, startWork⟩ := idle.write.pipe positive data
  have work := cleared.threadWork_le idle.blocks
  refine ⟨⟨?_, ?_, ?_, some, ?_⟩, ?_⟩
  · rw [handle_of_data storage some isLength]
  · rwa [started]
  · rw [started]
    exact ⟨callback, ⟨quiet.unpaused, quiet.begun⟩, underway⟩
  · have nothing : (usbstorageHandleBulkCbw storage cbw inserted).supplied = 0 := by
      rw [handle_of_data storage some isLength]
    have notAnnounced : storage.receiver.announced = 0 :=
      congrArg Receiver.announced idle.write.receiver
    rw [nothing, started, length]
    dsimp only [startWrite, prepareWrite]
    omega
  · unfold BulkStorage.acceptWork
    rw [started, length, mul_comm cbw.count]
    have one := Bool.toNat_le storage.cbwPosting
    have thread : (storage.toWriteStorage.startWrite cbw.toBulkCbw).threadWork ≤
        2 ^ 17 + 43 + 5 * 1 := Nat.add_le_add work (Nat.mul_le_mul_left 5 one)
    unfold bulkCswSize at startWork
    omega

def Bounded (data : Nat → UInt8) (cbw : SignedCbw) (storage : BulkStorage) : Prop :=
  ∃ inv measure, Bounding data cbw inv measure ∧ inv storage ∧
    measure storage ≤ 14 * cbw.DataTransferLength + 2 ^ 17 + 200

theorem BulkIdle.rejects (data : Nat → UInt8)
    (isLength : (cbw.datalen inserted = .error .error1Len ∨ cbw.datalen inserted = .ok 0) ∨
      cbw.datalen inserted = .error .error2Len ∧ cbw.DataTransferLength ≠ 0)
    (leaves : cbw.LeavesQuiet inserted storage) :
    Bounded data cbw (usbstorageHandleBulkCbw storage cbw inserted) := by
  cases isLength with
  | inl atOnce =>
    obtain ⟨rejected, work⟩ := idle.answers atOnce leaves
    exact ⟨_, _, Rejected.bounding data cbw, rejected, by omega⟩
  | inr later =>
    obtain ⟨rejected, work⟩ := idle.waits later.1 leaves later.2
    exact ⟨_, _, Rejected.bounding data cbw, rejected, by omega⟩

theorem BulkIdle.leavesQuiet
    (same : (cbw.prepare inserted storage.toWriteStorage).g_read_xfer = storage.g_read_xfer) :
    cbw.LeavesQuiet inserted storage := by
  unfold SignedCbw.LeavesQuiet
  rw [same]
  exact ⟨idle.begun, idle.blocks⟩

theorem BulkIdle.fills (data : Nat → UInt8) {length : Nat}
    (isLength : cbw.datalen inserted = .ok (min cbw.DataTransferLength length))
    (small : length ≤ bufSizCmddata) (isCommand : cbw.CDB 0 ≠ 0x28)
    (same : (cbw.prepare inserted storage.toWriteStorage).g_read_xfer = storage.g_read_xfer)
    (directed : cbw.DirOut → cbw.DataTransferLength = 0) :
    Bounded data cbw (usbstorageHandleBulkCbw storage cbw inserted) := by
  have leaves := idle.leavesQuiet same
  by_cases nothing : min cbw.DataTransferLength length = 0
  · rw [nothing] at isLength
    exact idle.rejects data (.inl (.inr isLength)) leaves
  · have dirIn : ¬cbw.DirOut := fun dirOut => nothing (by rw [directed dirOut, Nat.zero_min])
    obtain ⟨sending, work⟩ := idle.sendsCommand (Nat.pos_of_ne_zero nothing) isLength
      (min_le_left _ _) ((min_le_right _ _).trans small) dirIn isCommand leaves
    refine ⟨_, _, Sending.bounding data cbw _ _, sending, ?_⟩
    unfold bulkCswSize at work
    omega

end

theorem cmdData_spec : ∀ entry ∈ cmdData,
    (entry.cmd = 0x28 ↔ entry.handler = .read10) ∧ entry.data_len.getD 0 ≤ bufSizCmddata := by
  decide

section

variable (idle : BulkIdle storage) (data : Nat → UInt8)
include idle data

theorem BulkIdle.bounded_write (isLength : cbw.datalen inserted = write10 cbw.toBulkCbw)
    (prepares : cbw.prepare inserted storage.toWriteStorage =
      storage.toWriteStorage.prepareWrite cbw.toBulkCbw)
    (serves : Handler.write10.Serves cbw.toBulkCbw inserted) :
    Bounded data cbw (usbstorageHandleBulkCbw storage cbw inserted) := by
  have leaves : cbw.LeavesQuiet inserted storage := idle.leavesQuiet (prepares ▸ rfl)
  unfold write10 at isLength
  dsimp only [Handler.Serves] at serves
  by_cases length : cbw.DataTransferLength = cbw.count * mmcsdBlockSize
  · rw [if_pos length] at isLength serves
    by_cases none : cbw.count = 0
    · rw [length, none, zero_mul] at isLength
      exact idle.rejects data (.inl (.inr isLength)) leaves
    · obtain ⟨accepting, _⟩ := idle.accepts data (serves.resolve_left none)
        (Nat.pos_of_ne_zero none) length isLength prepares
      exact ⟨_, _, Accepting.bounding data cbw, accepting, by omega⟩
  · rw [if_neg length] at isLength serves
    exact idle.rejects data (.inr ⟨isLength, serves⟩) leaves

theorem BulkIdle.bounded_read (isRead : cbw.CDB 0 = 0x28)
    (isLength : cbw.datalen inserted = (read10 cbw.toBulkCbw inserted).map Prod.snd)
    (prepares : cbw.prepare inserted storage.toWriteStorage =
      match read10 cbw.toBulkCbw inserted with
      | .ok (xfer, _) =>
        { storage.toWriteStorage with r_buf := cleanReadBuf, g_read_xfer := xfer }
      | .error _ => storage.toWriteStorage)
    (serves : Handler.read10.Serves cbw.toBulkCbw inserted) :
    Bounded data cbw (usbstorageHandleBulkCbw storage cbw inserted) := by
  dsimp only [Handler.Serves] at serves
  by_cases dirOut : cbw.DirOut
  · have refused : read10 cbw.toBulkCbw inserted = .error .error2Len := if_pos dirOut
    rw [refused] at isLength prepares
    rw [if_pos dirOut] at serves
    exact idle.rejects data (.inr ⟨isLength, serves⟩) (idle.leavesQuiet (prepares ▸ rfl))
  · rw [if_neg dirOut] at serves
    cases inserted with
    | false =>
      have refused : read10 cbw.toBulkCbw false = .error .error1Len := by
        unfold read10
        rw [if_neg (show ¬cbw.Flags &&& 0x80 = 0 from dirOut), if_pos rfl]
      rw [refused] at isLength prepares
      exact idle.rejects data (.inl (.inl isLength)) (idle.leavesQuiet (prepares ▸ rfl))
    | true =>
      have taken : read10 cbw.toBulkCbw true =
          .ok ({ block := cbw.block, count := cbw.count, count_done := 0 },
            min cbw.DataTransferLength (cbw.count * mmcsdBlockSize)) := by
        unfold read10
        rw [if_neg (show ¬cbw.Flags &&& 0x80 = 0 from dirOut), if_neg nofun]
      rw [taken] at isLength prepares
      have xfer : (cbw.prepare true storage.toWriteStorage).g_read_xfer =
          { block := cbw.block, count := cbw.count, count_done := 0 } := prepares ▸ rfl
      have length := isLength
      by_cases none : cbw.count = 0
      · have leaves : cbw.LeavesQuiet true storage := by
          unfold SignedCbw.LeavesQuiet
          rw [xfer]
          exact ⟨.inr none, cbw.count_lt⟩
        rw [none, zero_mul, Nat.min_zero] at length
        exact idle.rejects data (.inl (.inr length)) leaves
      · obtain ⟨some, divides⟩ := (serves rfl).resolve_left none
        have positive : 0 < min cbw.DataTransferLength (cbw.count * mmcsdBlockSize) :=
          Nat.lt_min.mpr ⟨Nat.pos_of_ne_zero some, mul_pos (Nat.pos_of_ne_zero none) (by decide)⟩
        have whole : mmcsdBlockSize ∣ min cbw.DataTransferLength (cbw.count * mmcsdBlockSize) := by
          cases le_total cbw.DataTransferLength (cbw.count * mmcsdBlockSize) with
          | inr more =>
            rw [min_eq_right more]
            exact Nat.dvd_mul_left _ _
          | inl less =>
            rw [min_eq_left less]
            cases divides with
            | inl more => exact le_antisymm less more ▸ Nat.dvd_mul_left _ _
            | inr even => exact even
        obtain ⟨sending, work⟩ := idle.sendsBlocks positive length (min_le_left _ _) whole
          dirOut isRead xfer
        refine ⟨_, _, Sending.bounding data cbw _ _, sending, ?_⟩
        unfold bulkCswSize at work
        omega

theorem BulkIdle.bounded_capacity {length : Nat} (isLength : cbw.datalen inserted =
      if inserted = true then .ok (min cbw.DataTransferLength length) else .error .error1Len)
    (small : length ≤ bufSizCmddata) (isCommand : cbw.CDB 0 ≠ 0x28)
    (same : (cbw.prepare inserted storage.toWriteStorage).g_read_xfer = storage.g_read_xfer)
    (serves : cbw.DirOut → cbw.DataTransferLength = 0 ∨ inserted = false) :
    Bounded data cbw (usbstorageHandleBulkCbw storage cbw inserted) := by
  cases inserted with
  | false => exact idle.rejects data (.inl (.inl isLength)) (idle.leavesQuiet same)
  | true =>
    exact idle.fills data isLength small isCommand same
      fun dirOut => (serves dirOut).resolve_right nofun

theorem BulkIdle.bounded_entry {entry : ScsiCmd} (inTable : cbw.command = some entry)
    (isLength : cbw.datalen inserted = entry.dataLength cbw.toBulkCbw inserted)
    (prepares : cbw.prepare inserted storage.toWriteStorage =
      entry.prepare cbw.toBulkCbw inserted storage.toWriteStorage)
    (serves : entry.handler.Serves cbw.toBulkCbw inserted) :
    Bounded data cbw (usbstorageHandleBulkCbw storage cbw inserted) := by
  obtain ⟨isRead, small⟩ := cmdData_spec entry (List.mem_of_find?_eq_some inTable)
  have atCdb : entry.cmd = cbw.CDB 0 := by
    simpa using find?_some inTable
  rw [atCdb] at isRead
  unfold ScsiCmd.dataLength at isLength
  unfold ScsiCmd.prepare at prepares
  have noData (isZero : cbw.datalen inserted = .ok 0)
      (same : cbw.prepare inserted storage.toWriteStorage = storage.toWriteStorage) :
      Bounded data cbw (usbstorageHandleBulkCbw storage cbw inserted) :=
    idle.rejects data (.inl (.inr isZero)) (idle.leavesQuiet (congrArg (·.g_read_xfer) same))
  cases handler : entry.handler with
  | write10 =>
    rw [handler] at isLength prepares serves
    exact idle.bounded_write data isLength prepares serves
  | read10 =>
    rw [handler] at isLength prepares serves
    exact idle.bounded_read data (isRead.mpr handler) isLength prepares serves
  | testUnitReady | allowRemoval | startStop | verify10 =>
    rw [handler] at isLength prepares
    exact noData isLength prepares
  | requestSense | modeSense6 =>
    have isCommand : cbw.CDB 0 ≠ 0x28 := fun read => nomatch handler.symm.trans (isRead.mp read)
    rw [handler] at isLength prepares serves
    exact idle.fills data isLength small isCommand (prepares ▸ rfl) serves
  | inquiryCmd =>
    have isCommand : cbw.CDB 0 ≠ 0x28 := fun read => nomatch handler.symm.trans (isRead.mp read)
    rw [handler] at isLength prepares serves
    dsimp only at isLength
    split at isLength
    · exact idle.rejects data (.inl (.inl isLength)) (idle.leavesQuiet (prepares ▸ rfl))
    · next long =>
      exact idle.fills data isLength small isCommand (prepares ▸ rfl)
        fun dirOut => (serves dirOut).resolve_right long
  | readCapacities | readCapacity =>
    have isCommand : cbw.CDB 0 ≠ 0x28 := fun read => nomatch handler.symm.trans (isRead.mp read)
    rw [handler] at isLength prepares serves
    exact idle.bounded_capacity data isLength small isCommand (prepares ▸ rfl) serves

theorem BulkIdle.bounded (served : cbw.Served inserted) :
    Bounded data cbw (usbstorageHandleBulkCbw storage cbw inserted) := by
  by_cases long : cbw.Length > 16
  · have isLength : cbw.datalen inserted = .error .error1Len := if_pos long
    have same : cbw.prepare inserted storage.toWriteStorage = storage.toWriteStorage := if_pos long
    exact idle.rejects data (.inl (.inl isLength))
      (idle.leavesQuiet (congrArg (·.g_read_xfer) same))
  · have isLength : cbw.datalen inserted =
        usbstorageAnalyseScsiCmd cbw.toBulkCbw inserted := if_neg long
    have prepares : cbw.prepare inserted storage.toWriteStorage = (cbw.command.map fun entry =>
          entry.prepare cbw.toBulkCbw inserted storage.toWriteStorage).getD
            storage.toWriteStorage := if_neg long
    unfold usbstorageAnalyseScsiCmd at isLength
    cases inTable : cbw.command with
    | some entry =>
      rw [inTable] at isLength prepares
      exact idle.bounded_entry data inTable isLength prepares
        (served (not_lt.mp long) entry inTable)
    | none =>
      rw [inTable] at isLength prepares
      have leaves : cbw.LeavesQuiet inserted storage := idle.leavesQuiet (prepares ▸ rfl)
      dsimp only at isLength
      split at isLength
      case isTrue wanted => exact idle.rejects data (.inr ⟨isLength, wanted.2⟩) leaves
      case isFalse => exact idle.rejects data (.inl (.inl isLength)) leaves

end

end

/-! ### Every command -/

def plainCbw (code Flags blocks : BitVec 8) (length : Fin (2 ^ 32)) : SignedCbw :=
  { Flags := Flags
    DataTransferLength := length
    CDB := fun index => if index = 0 then code else if index = 8 then blocks else 0
    Length := 10
    length32 := length.isLt }

def freshBulkStorage : BulkStorage :=
  { freshWriteStorage with
    cbw := plainCbw 0 0 0 0
    error_datalen := 0
    supplied := 0 }

theorem freshBulkStorage_idle : BulkIdle freshBulkStorage :=
  ⟨⟨rfl, rfl, rfl, rfl, rfl, rfl, rfl, rfl⟩, rfl, .inr rfl, .inl rfl, rfl, by decide, rfl,
    by decide⟩

def afterCommand (cbw : SignedCbw) (actions : List BulkAction) : BulkStorage :=
  (runEnabled (BulkStorage.step fun _ => 0) (usbstorageHandleBulkCbw freshBulkStorage cbw true)
    actions).getD freshBulkStorage

/-- For a command that is served as its CBW says, the bounds of the data phase hold in
every interleaving, no run goes on for ever, and none stops without its CSW. -/
theorem bulkOnly_bounds {storage : BulkStorage} (idle : BulkIdle storage) {cbw : SignedCbw}
    {inserted : Bool} (served : cbw.Served inserted) (data : Nat → UInt8)
    {actions : List BulkAction} {final : BulkStorage}
    (run : runEnabled (BulkStorage.step data) (usbstorageHandleBulkCbw storage cbw inserted)
      actions = some final) :
    BulkSafe data cbw final ∧
      ((∀ action, final.step data action = none) → final.AllMoved cbw → final.CswSent) ∧
      actions.length ≤ 14 * cbw.DataTransferLength + 2 ^ 17 + 200 := by
  obtain ⟨_, _, bounding, initial, few⟩ := idle.bounded data served
  obtain ⟨safe, done, bound⟩ := bounding.run initial run
  exact ⟨safe, done, bound.trans few⟩

def inquiryAll : SignedCbw := plainCbw 0x12 0x80 0 36

def inquiryActions : List BulkAction :=
  [.read .fetch, .read (.transmit 20), .read .check, .read (.transmit 16), .write (.transmit 13)]

theorem bulkOnly_bounds_inquiry :
    BulkSafe (fun _ => 0) inquiryAll (afterCommand inquiryAll inquiryActions) ∧
      (afterCommand inquiryAll inquiryActions).CswSent := by
  have served : inquiryAll.Served true := by
    intro _ entry inTable
    obtain rfl : ⟨0x12, .inquiryCmd, some 36⟩ = entry := some.inj inTable
    exact fun dirOut => absurd dirOut (by decide)
  have run : runEnabled (BulkStorage.step fun _ => 0)
      (usbstorageHandleBulkCbw freshBulkStorage inquiryAll true) inquiryActions =
      some (afterCommand inquiryAll inquiryActions) := rfl
  obtain ⟨safe, done, -⟩ := bulkOnly_bounds freshBulkStorage_idle served (fun _ => 0) run
  refine ⟨safe, done (fun action => ?_) (.inl rfl)⟩
  cases action with
  | read action => cases action <;> rfl
  | write action =>
    cases action with
    | packet =>
      unfold BulkStorage.step
      dsimp only
      split <;> rfl
    | _ => rfl
  | wrongPacket => rfl

def writeMarkedIn : SignedCbw := plainCbw 0x2a 0x80 1 512

def readPartOfBlock : SignedCbw := plainCbw 0x28 0x80 1 100

def readNothing : SignedCbw := plainCbw 0x28 0x80 1 0

def inquiryMarkedOut : SignedCbw := plainCbw 0x12 0 0 36

def writeNothing : SignedCbw := plainCbw 0x2a 0 1 0

def readOneActions : List BulkAction :=
  [.read .fetch, .read .check, .read .sdcRead, .read .fill, .read (.transmit 512)]

def readStrayActions : List BulkAction :=
  [.read .fetch, .read .check, .read .sdcRead, .read .fill, .read (.transmit 13),
    .read (.transmit 512)]

def inquiryOutActions : List BulkAction :=
  [.write (.packet 36), .write .dmaDone, .write .post, .write .fetch, .write .check, .read .fetch,
    .read .check]

/-- A WRITE_10 with the direction bit set sends 512 bytes out of a buffer of 64. -/
theorem bulkOnly_bounds_broken :
    ¬BulkSafe (fun _ => 0) writeMarkedIn (afterCommand writeMarkedIn []) ∧
      ¬BulkSafe (fun _ => 0) readPartOfBlock (afterCommand readPartOfBlock readOneActions) ∧
      ¬BulkSafe (fun _ => 0) readNothing (afterCommand readNothing readStrayActions) ∧
      ((∀ action, (afterCommand inquiryMarkedOut inquiryOutActions).step (fun _ => 0) action =
          none) ∧
        (afterCommand inquiryMarkedOut inquiryOutActions).AllMoved inquiryMarkedOut ∧
        (afterCommand inquiryMarkedOut inquiryOutActions).host = []) ∧
      (∀ action, (afterCommand writeNothing [.read .fetch, .read .check]).step (fun _ => 0) action =
          none) ∧
        (afterCommand writeNothing [.read .fetch, .read .check]).AllMoved writeNothing ∧
        (afterCommand writeNothing [.read .fetch, .read .check]).host = [] := by
  refine ⟨fun safe => ?_, fun safe => ?_, fun safe => ?_, ⟨fun action => ?_, .inr rfl, rfl⟩,
    fun action => ?_, .inl rfl, rfl⟩
  · exact absurd (safe.withinBuffer ⟨.command 512, 512, 0⟩ (.head _) 512 rfl)
      (by decide)
  · exact absurd safe.withinLength (by decide)
  · exact absurd safe.withinLength (by decide)
  · cases action with
    | read action => cases action <;> rfl
    | write action =>
      cases action with
      | packet =>
        unfold BulkStorage.step
        dsimp only
        split <;> rfl
      | _ => rfl
    | wrongPacket => rfl
  · cases action with
    | read action => cases action <;> rfl
    | write action =>
      cases action with
      | packet =>
        unfold BulkStorage.step
        dsimp only
        split <;> rfl
      | _ => rfl
    | wrongPacket count =>
      refine if_neg fun ⟨_, positive, _, maySend⟩ => ?_
      have none : 0 + count ≤ 0 := (maySend.resolve_left positive.ne').2
      omega

end Hfirmware.Usb
