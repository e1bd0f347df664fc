/-
The mass storage driver for any command: the SCSI commands, the analysis of a CBW, and
the packets that a host sends although the command has been turned down.
-/

import Hfirmware.Usb.WriteStorage

namespace Hfirmware.Usb

def bufSizCmddata : Nat := 64

def bufSizDataR : Nat := mmcsdBlockSize

structure SignedCbw extends BulkCbw where
  Length : Nat
  length32 : DataTransferLength < 2 ^ 32

def BulkCbw.DirOut (cbw : BulkCbw) : Prop := cbw.Flags &&& 0x80 = 0

instance (cbw : BulkCbw) : Decidable cbw.DirOut := inferInstanceAs (Decidable (_ = _))

inductive Handler where
  | write10 | read10 | testUnitReady | requestSense | inquiryCmd | allowRemoval | modeSense6
  | startStop | readCapacities | readCapacity | verify10
deriving DecidableEq

/-- An entry of `cmd_data`; `LEN_NOT_FIXED` is `none`. -/
structure ScsiCmd where
  cmd : BitVec 8
  handler : Handler
  data_len : Option Nat

def cmdData : List ScsiCmd :=
  [{ cmd := 0x2a, handler := .write10, data_len := none },
    { cmd := 0x28, handler := .read10, data_len := none },
    { cmd := 0x00, handler := .testUnitReady, data_len := some 0 },
    { cmd := 0x03, handler := .requestSense, data_len := some 18 },
    { cmd := 0x12, handler := .inquiryCmd, data_len := some 36 },
    { cmd := 0x1e, handler := .allowRemoval, data_len := some 0 },
    { cmd := 0x1a, handler := .modeSense6, data_len := some 4 },
    { cmd := 0x1b, handler := .startStop, data_len := some 0 },
    { cmd := 0x23, handler := .readCapacities, data_len := some 12 },
    { cmd := 0x25, handler := .readCapacity, data_len := some 8 },
    { cmd := 0x2f, handler := .verify10, data_len := some 0 }]

def ScsiCmd.dataLength (command : ScsiCmd) (cbw : BulkCbw) (inserted : Bool) :
    Except LenError Nat :=
  let fixed := min cbw.DataTransferLength (command.data_len.getD 0)
  match command.handler with
  | .write10 => write10 cbw
  | .read10 => (read10 cbw inserted).map Prod.snd
  | .testUnitReady => .ok 0
  | .requestSense => .ok fixed
  | .inquiryCmd => if cbw.DataTransferLength > bufSizDataR then .error .error1Len else .ok fixed
  | .allowRemoval => .ok 0
  | .modeSense6 => .ok fixed
  | .startStop => .ok 0
  | .readCapacities => if inserted = true then .ok fixed else .error .error1Len
  | .readCapacity => if inserted = true then .ok fixed else .error .error1Len
  | .verify10 => .ok 0

def ScsiCmd.prepare (command : ScsiCmd) (cbw : BulkCbw) (inserted : Bool)
    (storage : WriteStorage) : WriteStorage :=
  match command.handler with
  | .write10 => storage.prepareWrite cbw
  | .read10 =>
    match read10 cbw inserted with
    | .ok (xfer, _) => { storage with r_buf := cleanReadBuf, g_read_xfer := xfer }
    | .error _ => storage
  | _ => storage

def BulkCbw.command (cbw : BulkCbw) : Option ScsiCmd :=
  cmdData.find? fun entry => entry.cmd = cbw.CDB 0

def usbstorageAnalyseScsiCmd (cbw : BulkCbw) (inserted : Bool) : Except LenError Nat :=
  match cbw.command with
  | some entry => entry.dataLength cbw inserted
  | none =>
    if cbw.Flags = 0 ∧ cbw.DataTransferLength ≠ 0 then .error .error2Len
    else .error .error1Len

def SignedCbw.datalen (cbw : SignedCbw) (inserted : Bool) : Except LenError Nat :=
  if cbw.Length > 16 then .error .error1Len else usbstorageAnalyseScsiCmd cbw.toBulkCbw inserted

def SignedCbw.prepare (cbw : SignedCbw) (inserted : Bool) (storage : WriteStorage) :
    WriteStorage :=
  if cbw.Length > 16 then storage
  else (cbw.command.map fun entry => entry.prepare cbw.toBulkCbw inserted storage).getD storage

def usbstorageAnalyseCbw (storage : WriteStorage) (cbw : SignedCbw) (inserted : Bool) :
    WriteStorage :=
  let prepared := cbw.prepare inserted storage
  match cbw.datalen inserted with
  | .error _ => { prepared with stage := .stageCsw, Status := 1 }
  | .ok 0 => { prepared with stage := .stageCsw, Status := 0, Residue := 0 }
  | .ok datalen => { prepared with stage := .stageData, Status := 0, Residue := datalen }

def WriteStorage.cswAtOnce (storage : WriteStorage) (cbw : BulkCbw) (inserted : Bool) :
    WriteStorage :=
  let failed := (cbw.CDB 0 = 0x00 ∨ cbw.CDB 0 = 0x25) ∧ inserted = false
  { storage with
    toStorage := { storage.toStorage with
      Residue := 0
      Status := if failed then 1 else storage.Status : Storage }.startTransmit .csw bulkCswSize }

/-- The driver with its current command, the count of unwanted bytes, and the
number of bytes that the host has sent for the command. -/
structure BulkStorage extends WriteStorage where
  cbw : SignedCbw
  (error_datalen supplied : Nat)

def usbstorageHandleBulkCbw (storage : BulkStorage) (cbw : SignedCbw) (inserted : Bool) :
    BulkStorage :=
  let analysed := usbstorageAnalyseCbw storage.toWriteStorage cbw inserted
  { storage with
    cbw := cbw
    supplied := 0
    toWriteStorage :=
      match cbw.datalen inserted with
      | .error .error2Len => analysed
      | .error .error1Len => analysed.cswAtOnce cbw.toBulkCbw inserted
      | .ok 0 => analysed.cswAtOnce cbw.toBulkCbw inserted
      | .ok datalen =>
        if cbw.DirOut then { analysed with rxcnt := 0, rxsize := 0, taken := 0 }
        else if cbw.CDB 0 ≠ 0x28 then
          { analysed with
            toStorage := analysed.toStorage.startTransmit (.command datalen) datalen }
        else { analysed with cbwPosting := true } }

/-- `usbstorageDataReceived` while a CSW is due: the packet is thrown away, and
the CSW goes out after as many bytes as the command announced. -/
def BulkStorage.wrongPacket (storage : BulkStorage) (count : Nat) : BulkStorage :=
  let error_datalen := u32 (storage.error_datalen + count)
  if error_datalen = storage.cbw.DataTransferLength then
    { storage with
      error_datalen := 0
      supplied := storage.supplied + count
      toStorage :=
        { { storage.toStorage with
            Residue := 0
            Status := 1 : Storage }.startTransmit .csw bulkCswSize with
          stage := .stageCbw } }
  else
    { storage with
      error_datalen := error_datalen
      supplied := storage.supplied + count }

inductive BulkAction where
  | read (action : ReadAction)
  | write (action : WriteAction)
  | wrongPacket (count : Nat)

def BulkStorage.MaySend (storage : BulkStorage) (count : Nat) : Prop :=
  count = 0 ∨ storage.cbw.DirOut ∧ storage.supplied + count ≤ storage.cbw.DataTransferLength

instance (storage : BulkStorage) (count : Nat) : Decidable (storage.MaySend count) :=
  inferInstanceAs (Decidable (_ ∨ _))

/-- One step of the read side, of the write side or of the error path, when it
can be taken. A packet on the bus has at most 64 bytes. -/
def BulkStorage.step (data : Nat → UInt8) (storage : BulkStorage) : BulkAction → Option BulkStorage
  | .read action =>
    (storage.toStorage.step action).map fun next => { storage with toStorage := next }
  | .write action =>
    if storage.MaySend action.bytes then
      (storage.toWriteStorage.step data action).map fun next =>
        { storage with
          toWriteStorage := next
          supplied := storage.supplied + action.bytes }
    else none
  | .wrongPacket count =>
    if storage.stage = .stageCsw ∧ 0 < count ∧ count ≤ 64 ∧ storage.MaySend count then
      some (storage.wrongPacket count)
    else none

end Hfirmware.Usb
