/-
The two-phase write of a configuration block and its recovery.
-/

import Hfirmware.Config.Index

namespace Hfirmware.Config

open NorFlash ByteImage

def cfgBkwDataFlag : Nat := 0x4746435A

def cfgBkwBlockSize : Nat := 4096

structure HsCfgBkw where
  (u32BkwInfoFlg u32BkwDataAddr u32BkwDataLen u32BkwChkSum : Nat)

def bkwSize : Nat := 16

def HsCfgBkw.bytes (info : HsCfgBkw) : Nat → UInt8 := fun index =>
  if index < 4 then wordBytes info.u32BkwInfoFlg index
  else if index < 8 then wordBytes info.u32BkwDataAddr (index - 4)
  else if index < 12 then wordBytes info.u32BkwDataLen (index - 8)
  else wordBytes info.u32BkwChkSum (index - 12)

def HsCfgBkw.ofBytes (buffer : Nat → UInt8) : HsCfgBkw :=
  { u32BkwInfoFlg := word buffer 0
    u32BkwDataAddr := word buffer 4
    u32BkwDataLen := word buffer 8
    u32BkwChkSum := word buffer 12 }

def HsCfgBkw.checksum (info : HsCfgBkw) : Nat :=
  hsCfgHalCalChecksum { info with u32BkwChkSum := 0 }.bytes bkwSize

def HsCfgBkw.valid (info : HsCfgBkw) : Bool :=
  info.u32BkwChkSum = info.checksum && info.u32BkwInfoFlg = cfgBkwDataFlag

def bkwInfo (u32PhyAddr : Nat) : HsCfgBkw :=
  let stBkwInfo : HsCfgBkw :=
    { u32BkwInfoFlg := cfgBkwDataFlag
      u32BkwDataAddr := u32PhyAddr
      u32BkwDataLen := cfgBkwBlockSize
      u32BkwChkSum := 0 }
  { stBkwInfo with
    u32BkwChkSum := hsCfgHalCalChecksum stBkwInfo.bytes bkwSize }

def zeroBytes : Nat → UInt8 := fun _ => 0

def blockwrBackup (u32BWAddr u32PhyAddr : Nat) (u8VtCache : Nat → UInt8) : List Op :=
  hsCfgHalErase g_SFInfo u32BWAddr (cfgBkwBlockSize * 2) ++
    (hsCfgHalWrite g_SFInfo (u32 (u32BWAddr + cfgBkwBlockSize)) u8VtCache cfgBkwBlockSize ++
      hsCfgHalWrite g_SFInfo u32BWAddr (bkwInfo u32PhyAddr).bytes bkwSize)

def blockwrTarget (u32BWAddr u32PhyAddr : Nat) (u8VtCache : Nat → UInt8) : List Op :=
  hsCfgHalErase g_SFInfo u32PhyAddr cfgBkwBlockSize ++
    (hsCfgHalWrite g_SFInfo u32PhyAddr u8VtCache cfgBkwBlockSize ++
      hsCfgHalWrite g_SFInfo u32BWAddr zeroBytes bkwSize)

/-- `_cfg_cachemem_blockwr`: its result and the flash primitives it issues. The
only read, of the index entry, comes before all of them. -/
def cfgCachememBlockwr (para : Para) (image : Nat → UInt8) (u32PhyAddr : Nat)
    (u8VtCache : Nat → UInt8) : CfgRes × List Op :=
  match bawOffset para image with
  | .error _ => (.error, [])
  | .ok u32BWAddr =>
    (.ok, blockwrBackup u32BWAddr u32PhyAddr u8VtCache ++
      blockwrTarget u32BWAddr u32PhyAddr u8VtCache)

def restoreOps (u32BWAddr : Nat) (stBkwInfo : HsCfgBkw) (pu8BackPtr : Nat → UInt8) : List Op :=
  hsCfgHalErase g_SFInfo stBkwInfo.u32BkwDataAddr stBkwInfo.u32BkwDataLen ++
    (hsCfgHalWrite g_SFInfo stBkwInfo.u32BkwDataAddr pu8BackPtr stBkwInfo.u32BkwDataLen ++
      (hsCfgHalErase g_SFInfo u32BWAddr bkwSize ++
        hsCfgHalWrite g_SFInfo u32BWAddr zeroBytes stBkwInfo.u32BkwDataLen))

/-- `_cfg_cachemem_restore`: header and copy are read before the first primitive. -/
def cfgCachememRestore (para : Para) (image : Nat → UInt8) : CfgRes × List Op :=
  match bawOffset para image with
  | .error _ => (.error, [])
  | .ok u32BWAddr =>
    let stBkwInfo := HsCfgBkw.ofBytes (hsCfgHalRead image u32BWAddr)
    if stBkwInfo.valid then
      (.ok, restoreOps u32BWAddr stBkwInfo (hsCfgHalRead image (u32 (u32BWAddr + cfgBkwBlockSize))))
    else (.ok, [])

open HsCfgBkw

theorem ofBytes_congr {left right : Nat → UInt8} (same : ∀ index < 16, left index = right index) :
    ofBytes left = ofBytes right := by
  simp only [ofBytes, mk.injEq]
  refine ⟨?_, ?_, ?_, ?_⟩ <;>
    exact word_congr fun index below => same _ (by omega)

theorem ofBytes_bytes (info : HsCfgBkw) (flag : info.u32BkwInfoFlg < 2 ^ 32)
    (address : info.u32BkwDataAddr < 2 ^ 32) (length : info.u32BkwDataLen < 2 ^ 32)
    (sum : info.u32BkwChkSum < 2 ^ 32) :
    ofBytes info.bytes = info := by
  have field (start value : Nat) (bounded : value < 2 ^ 32)
      (stored : ∀ index < 4, info.bytes (start + index) = wordBytes value index) :
      word info.bytes start = value := word_eq_of_wordBytes bounded stored
  have f0 := field 0 _ flag fun index below => by
      rw [bytes, if_pos (by omega), zero_add]
  have f1 := field 4 _ address fun index below => by
      rw [bytes, if_neg (by omega), if_pos (by omega), Nat.add_sub_cancel_left]
  have f2 := field 8 _ length fun index below => by
      rw [bytes, if_neg (by omega), if_neg (by omega), if_pos (by omega), Nat.add_sub_cancel_left]
  have f3 := field 12 _ sum fun index below => by
      rw [bytes, if_neg (by omega), if_neg (by omega), if_neg (by omega), Nat.add_sub_cancel_left]
  simp only [ofBytes, f0, f1, f2, f3]

theorem checksum_le (info : HsCfgBkw) : info.checksum ≤ 255 * 16 := by
  have bounded := byteSum_le { info with u32BkwChkSum := 0 }.bytes 0 bkwSize
  have size : bkwSize = 16 := rfl
  rw [checksum, hsCfgHalCalChecksum, u32_of_lt (by omega)]
  omega

theorem bkwInfo_ofBytes {u32PhyAddr : Nat} (bounded : u32PhyAddr < 2 ^ 32) :
    ofBytes (bkwInfo u32PhyAddr).bytes = bkwInfo u32PhyAddr :=
  ofBytes_bytes _ (show cfgBkwDataFlag < 2 ^ 32 by decide) bounded
    (show cfgBkwBlockSize < 2 ^ 32 by decide) (u32_lt _)

theorem bkwInfo_valid (u32PhyAddr : Nat) : (bkwInfo u32PhyAddr).valid := by
  simp [valid, checksum, bkwInfo]

variable {buffer : Nat → UInt8}

theorem ofBytes_invalid_of_flag (differs : buffer 0 ≠ 0x5A) : (ofBytes buffer).valid = false := by
  have low : (buffer 0).toNat ≠ 0x5A := fun same => differs (UInt8.toNat_inj.mp same)
  have bounded := (buffer 0).toNat_lt
  have flag : word buffer 0 ≠ cfgBkwDataFlag := by
    intro same
    simp only [word, cfgBkwDataFlag, zero_add] at same
    omega
  simp [valid, ofBytes, flag]

theorem ofBytes_invalid_of_sum (erased : buffer 15 = blank) : (ofBytes buffer).valid = false := by
  have large : 255 * 2 ^ 24 ≤ word buffer 12 := by
    have top : (buffer 15).toNat = 255 := by rw [erased]; rfl
    simp only [word, Nat.reduceAdd, top]
    omega
  have small := checksum_le (ofBytes buffer)
  have different : word buffer 12 ≠ (ofBytes buffer).checksum := by omega
  have sum : (ofBytes buffer).u32BkwChkSum = word buffer 12 := rfl
  rw [valid, sum, decide_eq_false different, Bool.false_and]

end Hfirmware.Config
