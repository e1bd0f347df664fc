/-
The write side of the USB mass storage driver: the WRITE_10 command, the receive
callback that fills two buffers from the bus by DMA, and the thread that writes them to
the card.
-/

import Hfirmware.Usb.Storage

namespace Hfirmware.Usb

def bufNumDataW : Nat := 2

def bufSizDataW : Nat := 4 * mmcsdBlockSize

inductive WBufStatus where
  | bufEmpty | bufFull | bufFilling
deriving DecidableEq

/-- `w_data_buf`. A byte that the DMA is just writing is `none`. -/
structure WDataBuf where
  pbuf : Nat → Nat → Option UInt8
  (head tail rev_num : Nat)
  status : Nat → WBufStatus
  len : Nat → Nat

/-- Where the DMA_MODE_0 path of `usbstorageDataReceived` stands, with the bytes of its
packet. -/
inductive Receiver where
  | idle
  | waitSync (count : Nat)
  | starting (count : Nat)
  | asleep (count : Nat)
  | posting
  | draining (i : Nat)
  | closing
deriving DecidableEq

/-- Where `UsbStorageWriteThread` stands, with the lock that follows each wait. -/
inductive WriteThread where
  | fetch | check | writing | written
  | posting (msg : Bool)
  | fetchS | recheck
deriving DecidableEq

/-- The driver with its write side. `taken` is how many bytes have been stored, and the
card is the sequence of sectors written. -/
structure WriteStorage extends Storage where
  w_buf : WDataBuf
  g_write_xfer : BulkDataXfer
  g_write_mbox : Nat
  g_write_sync_mbox : List Bool
  (rxcnt rxsize taken : Nat)
  receiver : Receiver
  writer : WriteThread
  card : List (Nat × List (Option UInt8))

def WriteStorage.setStatus (storage : WriteStorage) (index : Nat) (status : WBufStatus) :
    WriteStorage :=
  { storage with
    w_buf := { storage.w_buf with
      status := Function.update storage.w_buf.status index status } }

def cleanWriteBuf : WDataBuf :=
  { pbuf := fun _ _ => some 0
    head := 0
    tail := 0
    rev_num := 0
    status := fun _ => .bufEmpty
    len := fun _ => 0 }

def WriteStorage.prepareWrite (storage : WriteStorage) (cbw : BulkCbw) : WriteStorage :=
  { storage with
    w_buf := cleanWriteBuf
    g_write_xfer := { block := cbw.block, count := cbw.count, count_done := 0 } }

def write10 (cbw : BulkCbw) : Except LenError Nat :=
  if cbw.DataTransferLength = cbw.count * mmcsdBlockSize then .ok cbw.DataTransferLength
  else .error .error2Len

/-- `usbstorage_handle_cbw` for WRITE_10. A command whose `Flags` announce data to
the host gets its data phase from `cmd_data_buf`. -/
def usbstorageHandleWriteCbw (storage : WriteStorage) (cbw : BulkCbw) : WriteStorage :=
  let prepared := storage.prepareWrite cbw
  match write10 cbw with
  | .error _ => { prepared with stage := .stageCsw, Status := 1 }
  | .ok datalen =>
    if datalen = 0 then
      { prepared with
        toStorage := { prepared.toStorage with
          stage := .stageCsw
          Residue := 0
          Status := 0 : Storage }.startTransmit .csw bulkCswSize }
    else if cbw.Flags &&& 0x80 ≠ 0 then
      { prepared with
        toStorage := { prepared.toStorage with
          stage := .stageData
          Residue := datalen
          Status := 0 : Storage }.startTransmit (.command datalen) datalen }
    else
      { prepared with
        stage := .stageData
        Residue := datalen
        Status := 0
        rxcnt := 0
        rxsize := 0
        taken := 0 }

/-- `usbStartReceiveI` in DMA_MODE_0: the packet goes behind the bytes already
in the buffer at the head, and the callback sleeps until it is there. -/
def WriteStorage.startReceive (storage : WriteStorage) (count : Nat) : WriteStorage :=
  { storage with
    w_buf := { storage.w_buf with
      pbuf := Function.update storage.w_buf.pbuf storage.w_buf.head fun offset =>
        if storage.rxcnt ≤ offset ∧ offset < storage.rxcnt + count then none
        else storage.w_buf.pbuf storage.w_buf.head offset }
    rxcnt := storage.rxcnt + count
    receiver := .asleep count }

def WriteStorage.beginReceive (storage : WriteStorage) (count : Nat) : WriteStorage :=
  let len := if bufSizDataW < storage.Residue then bufSizDataW else storage.Residue
  { storage with
    w_buf := { storage.w_buf with
      status := Function.update storage.w_buf.status storage.w_buf.head .bufFilling
      len := Function.update storage.w_buf.len storage.w_buf.head len }
    rxsize := len
    rxcnt := 0 : WriteStorage }.startReceive count

/-- The buffer at the head is full, and `residue` bytes are to come. -/
def WriteStorage.closeBuffer (storage : WriteStorage) (residue : Nat) : WriteStorage :=
  let full := storage.setStatus storage.w_buf.head .bufFull
  { full with
    Residue := residue
    w_buf := { full.w_buf with
      head := (storage.w_buf.head + 1) % bufNumDataW
      rev_num := u16 (storage.w_buf.rev_num + 1) }
    rxcnt := 0
    receiver := .posting }

def WriteStorage.bufferReceived (storage : WriteStorage) : WriteStorage :=
  storage.closeBuffer (u32Sub storage.Residue storage.rxcnt)

def WriteStorage.received (storage : WriteStorage) : WriteStorage :=
  if storage.rxcnt = storage.rxsize then storage.bufferReceived
  else { storage with receiver := .idle }

/-- `usbstorageDataReceived` in the data stage, for a packet of `count` bytes, up
to the point where it waits. -/
def usbstorageDataReceived (storage : WriteStorage) (count : Nat) : WriteStorage :=
  if storage.rxcnt = 0 then
    if storage.w_buf.rev_num ≥ bufNumDataW then { storage with receiver := .waitSync count }
    else storage.beginReceive count
  else if storage.rxcnt < storage.rxsize then storage.startReceive count
  else storage.received

/-- The DMA has stored the packet, which is the part of `data` that comes next. -/
def WriteStorage.stored (storage : WriteStorage) (data : Nat → UInt8) (count : Nat) :
    WriteStorage :=
  { storage with
    w_buf := { storage.w_buf with
      pbuf := Function.update storage.w_buf.pbuf storage.w_buf.head fun offset =>
        if storage.rxcnt - count ≤ offset ∧ offset < storage.rxcnt then
          some (data (storage.taken + (offset - (storage.rxcnt - count))))
        else storage.w_buf.pbuf storage.w_buf.head offset }
    taken := storage.taken + count }

def WriteStorage.dmaDone (storage : WriteStorage) (data : Nat → UInt8) (count : Nat) :
    WriteStorage :=
  (storage.stored data count).received

def WriteStorage.posted (storage : WriteStorage) : WriteStorage :=
  { storage with
    receiver := if storage.Residue = 0 then .draining 255 else .idle }

def WriteStorage.sendCsw (storage : WriteStorage) : WriteStorage :=
  { storage with
    toStorage := storage.toStorage.sendCsw
    receiver := .idle }

def WriteStorage.testFull (storage : WriteStorage) : WriteStorage :=
  { storage with
    writer := if storage.w_buf.status storage.w_buf.tail = .bufFull then .writing else .fetch }

def WriteStorage.checkWrite (storage : WriteStorage) : WriteStorage :=
  if storage.g_write_xfer.count_done < storage.g_write_xfer.count then storage.testFull
  else { storage with writer := .fetch }

def WriteStorage.sdcWrite (storage : WriteStorage) : WriteStorage :=
  { storage with
    card := storage.card ++
      (List.range (storage.w_buf.len storage.w_buf.tail / mmcsdBlockSize)).map fun sector =>
        (u32 (storage.g_write_xfer.block + storage.g_write_xfer.count_done + sector),
          (List.range mmcsdBlockSize).map fun offset =>
            storage.w_buf.pbuf storage.w_buf.tail (mmcsdBlockSize * sector + offset))
    writer := .written }

def WriteStorage.bufferWritten (storage : WriteStorage) : WriteStorage :=
  let freed := storage.setStatus storage.w_buf.tail .bufEmpty
  let count_done := storage.g_write_xfer.count_done +
    storage.w_buf.len storage.w_buf.tail / mmcsdBlockSize
  { freed with
    g_write_xfer := { storage.g_write_xfer with count_done }
    w_buf := { freed.w_buf with tail := (storage.w_buf.tail + 1) % bufNumDataW }
    writer := .posting (count_done != storage.g_write_xfer.count) }

/-! ### Interleavings -/

inductive WriteAction where
  | packet (count : Nat)
  | sync | begin | dmaDone | post | drain | close
  | transmit (more : Nat)
  | fetch | check | sdcWrite | written | postSync | fetchS | recheck

def WriteAction.bytes : WriteAction → Nat
  | .packet count => count
  | _ => 0

/-- Bytes that the host may still put into the current buffer. Its packets are
full ones, and a buffer holds a whole number of them, so none runs across. -/
def WriteStorage.packetRoom (storage : WriteStorage) : Nat :=
  if storage.rxcnt = 0 then min bufSizDataW storage.Residue else storage.rxsize - storage.rxcnt

/-- One step of the callback, when it can take it, for a host that sends `data`. -/
def WriteStorage.receiverStep (data : Nat → UInt8) (storage : WriteStorage) :
    WriteAction → Option WriteStorage
  | .packet count =>
    if storage.receiver = .idle ∧ storage.stage = .stageData ∧ 0 < count ∧
        count ≤ storage.packetRoom then
      some (usbstorageDataReceived storage count)
    else none
  | .sync =>
    match storage.receiver, storage.g_write_sync_mbox with
    | .waitSync count, _ :: rest =>
      some { storage with g_write_sync_mbox := rest, receiver := .starting count }
    | _, _ => none
  | .begin =>
    match storage.receiver with
    | .starting count => some (storage.beginReceive count)
    | _ => none
  | .dmaDone =>
    match storage.receiver with
    | .asleep count => some (storage.dmaDone data count)
    | _ => none
  | .post =>
    if storage.receiver = .posting ∧ storage.g_write_mbox < usMailboxSize then
      some { storage with g_write_mbox := storage.g_write_mbox + 1 : WriteStorage }.posted
    else none
  | .drain =>
    match storage.receiver, storage.g_write_sync_mbox with
    | .draining i, msg :: rest =>
      some { storage with
        g_write_sync_mbox := rest
        receiver := if msg = false ∨ i = 1 then .closing else .draining (i - 1) }
    | _, _ => none
  | .close => if storage.receiver = .closing then some storage.sendCsw else none
  | .transmit more =>
    (storage.toStorage.step (.transmit more)).map fun transmitted =>
      { storage with toStorage := transmitted }
  | _ => none

def WriteStorage.writerStep (storage : WriteStorage) : WriteAction → Option WriteStorage
  | .fetch =>
    if storage.writer = .fetch ∧ 0 < storage.g_write_mbox then
      some { storage with g_write_mbox := storage.g_write_mbox - 1, writer := .check }
    else none
  | .check => if storage.writer = .check then some storage.checkWrite else none
  | .sdcWrite => if storage.writer = .writing then some storage.sdcWrite else none
  | .written => if storage.writer = .written then some storage.bufferWritten else none
  | .postSync =>
    match storage.writer with
    | .posting msg =>
      if storage.g_write_sync_mbox.length < usMailboxSize then
        some { storage with
          g_write_sync_mbox := storage.g_write_sync_mbox ++ [msg]
          writer := if msg then .fetchS else .fetch }
      else none
    | _ => none
  | .fetchS =>
    if storage.writer = .fetchS ∧ 0 < storage.g_write_mbox then
      some { storage with g_write_mbox := storage.g_write_mbox - 1, writer := .recheck }
    else none
  | .recheck => if storage.writer = .recheck then some storage.testFull else none
  | _ => none

def WriteStorage.step (data : Nat → UInt8) (storage : WriteStorage) (action : WriteAction) :
    Option WriteStorage :=
  (storage.receiverStep data action).or (storage.writerStep action)

end Hfirmware.Usb
