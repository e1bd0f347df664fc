/-
Result codes of the configuration store and the decoding of its index table.
-/

import Hfirmware.Config.Flash

namespace Hfirmware.Config

inductive CfgRes where
  | ok | errNoData | errDataReadOnly | errDataErase | errDataWrite | errDataRestore | errParamter
  | errRegister | error
deriving DecidableEq

def bawAread : Nat := 1

def soundInfo : Nat := 0xb

def cfgIndexLength : Nat := 3

def cfgIndexAttrMask : Nat := 2 ^ 4 - 1

def cfgIndexToAddrMv : Nat := 2

def cfgHeaderSize : Nat := 8

/-- The fields of `g_stPara` that the store reads, and the linker symbol
`__rw_lma_end`. -/
structure Para where
  rwLmaEnd : Nat
  bValid : Bool
  u32BodyOffset : Nat

def cfgGetBase (para : Para) : Nat := u32 (para.rwLmaEnd + 4096 - 1) / 4096 * 4096

def cfgIdxAddr (para : Para) (index : Nat) : Nat :=
  u32 (index * cfgIndexLength + cfgGetBase para)

/-- The part of `_cfg_getOffsetByIndex` after the entry has been read: the item
address and the attribute bits. -/
def decodeIndex (para : Para) (index : Nat) (u8Buf : Nat → UInt8) : Except CfgRes (Nat × Nat) :=
  let u32BodyAddr := hsCfgHalByteToWord u8Buf cfgIndexLength
  if u32BodyAddr &&& 1 = 1 then .error .errNoData
  else
    let address := u32 (((u32BodyAddr &&& (2 ^ 32 - 1 - cfgIndexAttrMask)) >>> cfgIndexToAddrMv) +
      cfgGetBase para)
    let located := if index > bawAread then u32 (address + para.u32BodyOffset) else address
    .ok (located, u32BodyAddr &&& cfgIndexAttrMask)

/-- `hs_cfg_getOffsetByIndex(HS_CFG_BAW_AREAD, ..)`: the entry of the backup
area is read from the flash itself, never through the cache. -/
def bawOffset (para : Para) (image : Nat → UInt8) : Except CfgRes Nat :=
  (decodeIndex para bawAread (hsCfgHalRead image (cfgIdxAddr para bawAread))).map
    fun found => u32 (found.1 + cfgHeaderSize)

def bawEntry (para : Para) : Nat := cfgGetBase para % 2 ^ 28 + 3

section

variable (para : Para)
include para

theorem cfgGetBase_aligned : cfgGetBase para % 4096 = 0 :=
  Nat.mul_mod_left _ _

theorem decodeIndex_congr (index : Nat) {left right : Nat → UInt8}
    (same : ∀ k < 3, left k = right k) :
    decodeIndex para index left = decodeIndex para index right := by
  have s0 := same 0 (by omega)
  have s1 := same 1 (by omega)
  have s2 := same 2 (by omega)
  simp only [decodeIndex, hsCfgHalByteToWord, cfgIndexLength, byteToWordLoop, s0, s1, s2]

theorem decodeIndex_blank (index : Nat) {u8Buf : Nat → UInt8}
    (erased : ∀ k < 3, u8Buf k = NorFlash.blank) :
    decodeIndex para index u8Buf = .error .errNoData := by
  have same := decodeIndex_congr para index erased
  rw [same]
  rfl

theorem cfgIdxAddr_baw : cfgIdxAddr para bawAread % 2 ^ 28 = bawEntry para := by
  have aligned := cfgGetBase_aligned para
  simp only [cfgIdxAddr, bawAread, cfgIndexLength, bawEntry, u32]
  omega

theorem bawOffset_congr {left right : Nat → UInt8}
    (same : ∀ k < 3, left (bawEntry para + k) = right (bawEntry para + k)) :
    bawOffset para left = bawOffset para right := by
  unfold bawOffset
  rw [decodeIndex_congr]
  intro k below
  rw [hsCfgHalRead, hsCfgHalRead, cfgIdxAddr_baw]
  exact same k below

theorem bawOffset_blank {image : Nat → UInt8}
    (erased : ∀ k < 3, image (bawEntry para + k) = NorFlash.blank) :
    bawOffset para image = .error .errNoData := by
  unfold bawOffset
  rw [decodeIndex_blank]
  · rfl
  · intro k below
    rw [hsCfgHalRead, cfgIdxAddr_baw]
    exact erased k below

theorem bawEntry_sector {k : Nat} (below : k < 3) :
    (bawEntry para + k) / 4096 = bawEntry para / 4096 := by
  have aligned := cfgGetBase_aligned para
  unfold bawEntry
  omega

end

end Hfirmware.Config
