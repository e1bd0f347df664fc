/-
The read side of the USB mass storage driver: the READ_10 command, the thread that reads
card blocks into a ring of three buffers, and the transmit-complete callback that sends
them.
-/

import Hfirmware.FixedWidth

namespace Hfirmware.Usb

def bufNumDataR : Nat := 3

def usMailboxSize : Nat := 10

def mmcsdBlockSize : Nat := 512

def bulkCswSize : Nat := 13

inductive BufStatus where
  | bufEmpty | bufFull | bufSending
deriving DecidableEq

/-- `r_data_buf`. The content of a buffer is the number of the card block it
holds, or none that matters. -/
structure RDataBuf where
  pbuf : Nat → Option Nat
  status : Nat → BufStatus
  (head tail : Nat)

structure BulkDataXfer where
  (block count count_done : Nat)

inductive Stage where
  | stageCbw | stageData | stageCsw
deriving DecidableEq

/-- What the host receives: a block, bytes of `cmd_data_buf`, or a CSW. -/
inductive Packet where
  | data (content : Option Nat)
  | command (size : Nat)
  | csw (Residue Status : Nat)
deriving DecidableEq

inductive Source where
  | slot (index : Nat)
  | command (size : Nat)
  | csw
deriving DecidableEq

structure Transmission where
  source : Source
  (txsize txcnt : Nat)

/-- Where `UsbStorageReadThread` stands: at `chMBFetch`, before the lock that
follows it, in `sdcRead`, and before the lock that follows that. -/
inductive ReadThread where
  | fetch | check | reading | filled
deriving DecidableEq

/-- Where `usbstorageDataTransmitted` stands: not running, before the message is
in the mailbox, and after `chMBPostS`. -/
inductive Callback where
  | idle | posting | posted
deriving DecidableEq

/-- `USBStorageDriver`, the globals of the read side and the state of the two parties.
`cbwPosting` is the `chMBPostS` at the end of `usbstorage_handle_cbw`. -/
structure Storage where
  r_buf : RDataBuf
  stage : Stage
  (Residue Status : Nat)
  g_read_xfer : BulkDataXfer
  g_isPaused : Bool
  g_read_mbox : Nat
  readThread : ReadThread
  callback : Callback
  cbwPosting : Bool
  inFlight : List Transmission
  host : List Packet

def Storage.startTransmit (storage : Storage) (source : Source) (txsize : Nat) : Storage :=
  { storage with
    inFlight := storage.inFlight ++ [{ source := source, txsize := txsize, txcnt := 0 }] }

def Storage.setStatus (storage : Storage) (slot : Nat) (status : BufStatus) : Storage :=
  { storage with
    r_buf := { storage.r_buf with
      status := Function.update storage.r_buf.status slot status } }

def Storage.setPbuf (storage : Storage) (slot : Nat) (content : Option Nat) : Storage :=
  { storage with
    r_buf := { storage.r_buf with
      pbuf := Function.update storage.r_buf.pbuf slot content } }

structure BulkCbw where
  Flags : BitVec 8
  DataTransferLength : Nat
  CDB : Nat → BitVec 8

def BulkCbw.block (cbw : BulkCbw) : Nat :=
  (cbw.CDB 2).toNat * 2 ^ 24 + (cbw.CDB 3).toNat * 2 ^ 16 + (cbw.CDB 4).toNat * 2 ^ 8 +
    (cbw.CDB 5).toNat

def BulkCbw.count (cbw : BulkCbw) : Nat := (cbw.CDB 7).toNat * 2 ^ 8 + (cbw.CDB 8).toNat

inductive LenError where
  | error1Len | error2Len

def read10 (cbw : BulkCbw) (inserted : Bool) : Except LenError (BulkDataXfer × Nat) :=
  if cbw.Flags &&& 0x80 = 0 then .error .error2Len
  else if inserted = false then .error .error1Len
  else
    .ok ({ block := cbw.block, count := cbw.count, count_done := 0 },
      min cbw.DataTransferLength (cbw.count * mmcsdBlockSize))

def cleanReadBuf : RDataBuf :=
  { pbuf := fun _ => none
    status := fun _ => .bufEmpty
    head := 0
    tail := 0 }

def usbstorageHandleCbw (storage : Storage) (cbw : BulkCbw) (inserted : Bool) : Storage :=
  match read10 cbw inserted with
  | .error .error2Len => { storage with stage := .stageCsw, Status := 1 }
  | .error .error1Len =>
    { storage with
      stage := .stageCsw
      Status := 1
      Residue := 0 : Storage }.startTransmit .csw bulkCswSize
  | .ok (xfer, datalen) =>
    let cleaned := { storage with r_buf := cleanReadBuf, g_read_xfer := xfer, Status := 0 }
    if datalen = 0 then
      { cleaned with
        stage := .stageCsw
        Residue := 0 : Storage }.startTransmit .csw bulkCswSize
    else
      { cleaned with
        stage := .stageData
        Residue := datalen
        cbwPosting := true }

/-- The slot that `sdcRead` is about to fill holds nothing until it is done. -/
def Storage.beginRead (storage : Storage) : Storage :=
  { storage.setPbuf storage.r_buf.head none with readThread := .reading }

def Storage.checkRead (storage : Storage) : Storage :=
  if storage.g_read_xfer.count_done < storage.g_read_xfer.count ∧
      storage.r_buf.status storage.r_buf.head = .bufEmpty then
    storage.beginRead
  else { storage with readThread := .fetch }

def Storage.sdcRead (storage : Storage) : Storage :=
  { storage.setPbuf storage.r_buf.head
      (some (u32 (storage.g_read_xfer.block + storage.g_read_xfer.count_done))) with
    readThread := .filled }

def Storage.slotFull (storage : Storage) : Storage :=
  let full := storage.setStatus storage.r_buf.head .bufFull
  { full with
    g_read_xfer := { storage.g_read_xfer with count_done := storage.g_read_xfer.count_done + 1 }
    r_buf := { full.r_buf with head := (storage.r_buf.head + 1) % bufNumDataR } }

def Storage.sendTail (storage : Storage) : Storage :=
  { (storage.setStatus storage.r_buf.tail .bufSending).startTransmit
      (.slot storage.r_buf.tail) mmcsdBlockSize with
    g_isPaused := false }

def Storage.sendIfDue (storage : Storage) : Storage :=
  if storage.g_read_xfer.count_done = 1 ∨ storage.g_isPaused = true then storage.sendTail
  else storage

def Storage.continueRead (storage : Storage) : Storage :=
  if storage.g_read_xfer.count_done = storage.g_read_xfer.count then
    { storage with readThread := .fetch }
  else if storage.r_buf.status storage.r_buf.head = .bufEmpty then storage.beginRead
  else { storage with readThread := .fetch }

def Storage.fillSlot (storage : Storage) : Storage := storage.slotFull.sendIfDue.continueRead

def Storage.packet (storage : Storage) : Source → Packet
  | .slot index => .data (storage.r_buf.pbuf index)
  | .command size => .command size
  | .csw => .csw storage.Residue storage.Status

def Storage.freeTail (storage : Storage) (txcnt : Nat) : Storage :=
  { storage.setStatus storage.r_buf.tail .bufEmpty with
    Residue := u32Sub storage.Residue txcnt }

def Storage.sendCsw (storage : Storage) : Storage :=
  { storage with
    stage := .stageCbw
    Status := 0 : Storage }.startTransmit .csw bulkCswSize

def Storage.moveTail (storage : Storage) : Storage :=
  { storage with
    r_buf := { storage.r_buf with tail := (storage.r_buf.tail + 1) % bufNumDataR }
    callback := .posting }

def Storage.blockSent (storage : Storage) (txcnt : Nat) : Storage :=
  let freed := storage.freeTail txcnt
  if freed.Residue = 0 then freed.sendCsw else freed.moveTail

def Storage.deliver (storage : Storage) (source : Source) (rest : List Transmission) : Storage :=
  { storage with
    inFlight := rest
    host := storage.host ++ [storage.packet source] }

def Storage.transmitted (storage : Storage) (txcnt : Nat) : Storage :=
  match storage.stage with
  | .stageData => storage.blockSent txcnt
  | .stageCsw => { storage with stage := .stageCbw }
  | .stageCbw => storage

/-- `usbstorageDataTransmitted` up to its `chMBPostS`, after `more` further bytes
of the transmission have gone out. -/
def usbstorageDataTransmitted (storage : Storage) (transmission : Transmission)
    (rest : List Transmission) (more : Nat) : Storage :=
  let txcnt := transmission.txcnt + more
  if transmission.txsize > txcnt then
    { storage with inFlight := { transmission with txcnt } :: rest }
  else (storage.deliver transmission.source rest).transmitted txcnt

def Storage.afterPost (storage : Storage) : Storage :=
  if storage.r_buf.status storage.r_buf.tail = .bufFull then
    { storage.sendTail with callback := .idle }
  else { storage with g_isPaused := true, callback := .idle }

inductive ReadAction where
  | fetch | check | sdcRead | fill | cbwPost
  | transmit (more : Nat)
  | post | resume

/-- One step of either party, when it can take it. A transmission ends while the
callback is not running; `chMBPostS` waits for room and `chMBFetch` for a message. -/
def Storage.step (storage : Storage) : ReadAction → Option Storage
  | .fetch =>
    if storage.readThread = .fetch ∧ 0 < storage.g_read_mbox then
      some { storage with g_read_mbox := storage.g_read_mbox - 1, readThread := .check }
    else none
  | .check => if storage.readThread = .check then some storage.checkRead else none
  | .sdcRead => if storage.readThread = .reading then some storage.sdcRead else none
  | .fill => if storage.readThread = .filled then some storage.fillSlot else none
  | .cbwPost =>
    if storage.cbwPosting = true ∧ storage.g_read_mbox < usMailboxSize then
      some { storage with g_read_mbox := storage.g_read_mbox + 1, cbwPosting := false }
    else none
  | .transmit more =>
    match storage.inFlight with
    | [] => none
    | transmission :: rest =>
      if storage.callback = .idle ∧ 0 < more ∧ transmission.txcnt + more ≤ transmission.txsize then
        some (usbstorageDataTransmitted storage transmission rest more)
      else none
  | .post =>
    if storage.callback = .posting ∧ storage.g_read_mbox < usMailboxSize then
      some { storage with g_read_mbox := storage.g_read_mbox + 1, callback := .posted }
    else none
  | .resume => if storage.callback = .posted then some storage.afterPost else none

end Hfirmware.Usb
