/-
Where the bonded devices are kept in audio mode: a configuration item behind the write-
back cache, and a raw flash sector as a backup.
-/

import Hfirmware.Config.SavedItem

namespace Hfirmware.Bluetooth

open ByteImage NorFlash Config

structure AppDevInst where
  bd : Fin 6 → UInt8
  link_key : Fin 16 → UInt8
  key_type : UInt8
deriving DecidableEq

def pairEntrySize : Nat := 23

def bondedDeviceMaxCount : Nat := 6

def bufferLen : Nat := 138

def backUpFlash : Nat := 0xfc000

def AppDevInst.bytes (inst : AppDevInst) : Nat → UInt8 := fun k =>
  if inBd : k < 6 then inst.bd ⟨k, inBd⟩
  else if inKey : k < 22 then inst.link_key ⟨k - 6, by omega⟩
  else inst.key_type

def AppDevInst.ofBytes (info : Nat → UInt8) : AppDevInst :=
  { bd := fun k => info k
    link_key := fun k => info (6 + k)
    key_type := info 22 }

def AppDevInst.valid (inst : AppDevInst) : Bool :=
  let asum := u16 (byteSum inst.bytes 0 6)
  asum ≠ 0 && asum ≠ 0xff * 6

def appCfgGetPairInfo (para : Para) (pairinfo : Nat) (store : Store) (index : Nat) :
    Option (Bool × AppDevInst × Store) :=
  (hsCfgGetPartDataByIndex para store pairinfo zeroBytes pairEntrySize
    (1 + index * pairEntrySize)).map fun (res, info, left) =>
      let p_inst := AppDevInst.ofBytes info
      (res = .ok && p_inst.valid, p_inst, left)

def appCfgUpdatePairInfo (para : Para) (pairinfo : Nat) (store : Store) (info : Nat → UInt8) :
    Option Store :=
  (hsCfgSetDataByIndex para store pairinfo info bufferLen 1).map fun (_, after) => after

/-- `App_CFG_ClearPairInfo`: the item is zeroed, the backup is not touched. -/
def appCfgClearPairInfo (para : Para) (pairinfo : Nat) (store : Store) : Option Store :=
  let (allocated, left) := store.malloc
  if allocated then
    (hsCfgSetDataByIndex para left pairinfo zeroBytes (bufferLen + 1) 0).map fun (_, after) => after
  else some left

def programBackUp (store : Store) (pu8Ptr : Nat → UInt8) : Store :=
  { store with
    flash := applyAll g_SFInfo store.flash
      (hsCfgHalWrite g_SFInfo backUpFlash pu8Ptr (bufferLen + 1)) }

def eraseBackUp (store : Store) : Store :=
  { store with
    flash := applyAll g_SFInfo store.flash (hsCfgHalErase g_SFInfo backUpFlash (4 * 1024)) }

def flagged (data : Nat → UInt8) : Nat → UInt8
  | 0 => 0x01
  | k + 1 => data k

/-- `hsc_StoreBackUpLinkKey` programs the sector without an erase. -/
def hscStoreBackUpLinkKey (store : Store) (data : Nat → UInt8) : Store :=
  let (allocated, left) := store.malloc
  if allocated then programBackUp left (flagged data) else left

def copyBackUp (para : Para) (pairinfo : Nat) (store : Store) (backup : Nat → UInt8) :
    Option Store :=
  (appCfgUpdatePairInfo para pairinfo store backup).map fun updated =>
    eraseBackUp (hsCfgFlush para .all updated).2

def hscHandleBackUpLinkKey (para : Para) (pairinfo : Nat) (store : Store) : Option Store :=
  let (allocated, first) := store.malloc
  if allocated then
    let pu8Ptr := hsCfgHalRead first.flash backUpFlash
    if pu8Ptr 0 ≠ 0x01 then some first
    else
      let (allocated, second) := first.malloc
      if allocated then
        (hsCfgGetPartDataByIndex para second pairinfo zeroBytes bufferLen 1).bind
          fun (res, pu8ClassicPtr, left) =>
            if res ≠ .ok then copyBackUp para pairinfo left fun k => pu8Ptr (1 + k)
            else if ∀ k < bufferLen, pu8Ptr (1 + k) = pu8ClassicPtr k then some (eraseBackUp left)
            else copyBackUp para pairinfo left fun k => pu8Ptr (1 + k)
      else some (eraseBackUp second)
  else some first

def fillDevices : List AppDevInst → Nat → (Nat → UInt8) → Nat → UInt8
  | [], _, devices => devices
  | inst :: rest, index, devices =>
    if index < bondedDeviceMaxCount then
      fillDevices rest (index + 1) (patch devices (index * pairEntrySize) pairEntrySize inst.bytes)
    else devices

def appStoreBondedDevice (para : Para) (pairinfo : Nat) (store : Store) (list : List AppDevInst) :
    Option Store :=
  let devices := fillDevices list 0 zeroBytes
  (appCfgUpdatePairInfo para pairinfo store devices).map fun updated =>
    hscStoreBackUpLinkKey updated devices

/-- The loop of `App_FsmInitPairInfo`: entries are added until the first one
that is not valid. -/
def loadPairInfo (para : Para) (pairinfo : Nat) :
    Nat → Nat → Store → Option (Store × List AppDevInst)
  | 0, _, store => some (store, [])
  | count + 1, index, store =>
    (appCfgGetPairInfo para pairinfo store index).bind fun (ret, info, left) =>
      if ret then
        (loadPairInfo para pairinfo count (index + 1) left).map fun (last, rest) =>
          (last, info :: rest)
      else some (left, [])

def appFsmInitPairInfo (para : Para) (pairinfo : Nat) (store : Store) :
    Option (Store × List AppDevInst) :=
  (hscHandleBackUpLinkKey para pairinfo store).bind fun handled =>
    loadPairInfo para pairinfo bondedDeviceMaxCount 0 handled

end Hfirmware.Bluetooth
