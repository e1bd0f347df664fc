/-
What the flash driver does to a range.
-/

import Hfirmware.Config.Index

namespace Hfirmware.Config

open List Nat NorFlash

/-! ### Erasing -/

structure Device (info : Geometry) (size : Nat) : Prop where
  power : ∃ power, info.sectorSize = 2 ^ power
  whole : info.sectorSize ∣ size
  reached : size ≤ 2 ^ 24

structure EraseCoverage (info : Geometry) (offset len : Nat) : Prop where
  only : ∀ op ∈ sfLldErase info offset len, ∃ address, op = .eraseSector address
  covers : ∀ sector, (∃ address, .eraseSector address ∈ sfLldErase info offset len ∧
        address / info.sectorSize = sector) ↔
      ∃ a, offset ≤ a ∧ a < offset + len ∧ a / info.sectorSize = sector

section

variable {info : Geometry} {size offset len count sector : Nat}

theorem Device.positive (device : Device info size) : 0 < info.sectorSize := by
  obtain ⟨power, same⟩ := device.power
  rw [same]
  exact Nat.two_pow_pos power

theorem eraseAddresses_sector_iff (positive : 0 < info.sectorSize)
    (room : (offset / info.sectorSize + count) * info.sectorSize ≤ 2 ^ 24) :
    (∃ address ∈ eraseAddresses info count offset, address / info.sectorSize = sector) ↔
      offset / info.sectorSize ≤ sector ∧ sector < offset / info.sectorSize + count := by
  induction count generalizing offset with
  | zero =>
    refine iff_of_false ?_ (by omega)
    rintro ⟨address, member, _⟩
    cases member
  | succ count ih =>
    obtain ⟨here, next, nextSector, left⟩ := erase_next positive room
    have later := @ih _ (by rwa [nextSector])
    rw [eraseAddresses, exists_mem_cons_iff, here, next, later]
    omega

theorem meets_iff (positive : 0 < info.sectorSize) (some : 0 < len) :
    (∃ a, offset ≤ a ∧ a < offset + len ∧ a / info.sectorSize = sector) ↔
      offset / info.sectorSize ≤ sector ∧ sector ≤ (offset + len - 1) / info.sectorSize := by
  constructor
  · rintro ⟨a, low, high, rfl⟩
    exact ⟨Nat.div_le_div_right low, Nat.div_le_div_right (by omega)⟩
  · rintro ⟨low, high⟩
    -- The first address of the sector, or the offset if it lies in the sector.
    refine ⟨max offset (sector * info.sectorSize), le_max_left _ _, ?_, ?_⟩
    · have last := (Nat.le_div_iff_mul_le positive).mp high
      omega
    · rcases le_total offset (sector * info.sectorSize) with before | inside
      · rw [max_eq_right before, Nat.mul_div_cancel _ positive]
      · rw [max_eq_left inside]
        have reached := (Nat.le_div_iff_mul_le positive).mpr inside
        omega

theorem sfLldErase_sector_iff (some : 0 < len) :
    (∃ address, Op.eraseSector address ∈ sfLldErase info offset len ∧
        address / info.sectorSize = sector) ↔
      ∃ address ∈ eraseAddresses info (setorNum info offset len) offset,
        address / info.sectorSize = sector := by
  rw [sfLldErase, if_neg (by omega)]
  constructor
  · rintro ⟨address, member, same⟩
    obtain ⟨_, present, equal⟩ := List.mem_map.mp member
    cases equal
    exact ⟨address, present, same⟩
  · rintro ⟨address, member, same⟩
    exact ⟨address, List.mem_map_of_mem member, same⟩

theorem Device.room (device : Device info size) (some : 0 < len) (inside : offset + len ≤ size) :
    ((offset + len - 1) / info.sectorSize + 1) * info.sectorSize ≤ 2 ^ 24 := by
  obtain ⟨sectors, _⟩ := device.whole
  have last : (offset + len - 1) / info.sectorSize < sectors :=
    Nat.div_lt_of_lt_mul (by omega)
  have ends : ((offset + len - 1) / info.sectorSize + 1) * info.sectorSize ≤
      sectors * info.sectorSize := Nat.mul_le_mul_right _ last
  have reached := device.reached
  rw [mul_comm sectors] at ends
  omega

theorem sfLldErase_only (some : 0 < len) :
    ∀ op ∈ sfLldErase info offset len, ∃ address, op = .eraseSector address := by
  intro op member
  rw [sfLldErase, if_neg (by omega)] at member
  obtain ⟨address, _, rfl⟩ := List.mem_map.mp member
  exact ⟨address, rfl⟩

end

/-- The sectors that a range meets are erased exactly if the range is as long as a sector
or lies inside one. -/
theorem erase_coverage (info : Geometry) (size offset len : Nat) (device : Device info size)
    (some : 0 < len) (inside : offset + len ≤ size) :
    EraseCoverage info offset len ↔
      info.sectorSize ≤ len ∨ offset % info.sectorSize + len ≤ info.sectorSize := by
  have positive := device.positive
  have room := device.room some inside
  have reached := device.reached
  have first : offset / info.sectorSize ≤ (offset + len - 1) / info.sectorSize :=
    Nat.div_le_div_right (by omega)
  by_cases long : info.sectorSize ≤ len
  · obtain ⟨_, same⟩ := device.power
    have number := setorNum_long same long (show offset + len < 2 ^ 32 by omega)
    have total : offset / info.sectorSize + setorNum info offset len =
        (offset + len - 1) / info.sectorSize + 1 := by omega
    refine iff_of_true ⟨sfLldErase_only some, fun sector => ?_⟩ (.inl long)
    rw [sfLldErase_sector_iff some, eraseAddresses_sector_iff positive (total ▸ room),
      meets_iff positive some, total]
    omega
  · have number : setorNum info offset len = 1 := by
      rw [setorNum, if_pos (Nat.lt_of_not_le long)]
    have one : (offset / info.sectorSize + setorNum info offset len) * info.sectorSize ≤
        2 ^ 24 := by
      rw [number]
      exact le_trans (Nat.mul_le_mul_right _ (succ_le_succ first)) room
    have split := div_add_mod offset info.sectorSize
    constructor
    · intro coverage
      by_contra crosses
      -- The last byte lies in the next sector, which is not erased.
      have last : offset / info.sectorSize + 1 ≤ (offset + len - 1) / info.sectorSize := by
        rw [Nat.le_div_iff_mul_le positive, add_mul, one_mul, mul_comm]
        omega
      have erased := (coverage.covers ((offset + len - 1) / info.sectorSize)).mpr
        ⟨offset + len - 1, by omega, by omega, rfl⟩
      rw [sfLldErase_sector_iff some, eraseAddresses_sector_iff positive one, number] at erased
      omega
    · intro single
      have last : (offset + len - 1) / info.sectorSize = offset / info.sectorSize := by
        apply Nat.div_eq_of_lt_le
        · rw [mul_comm]
          omega
        · rw [add_mul, one_mul, mul_comm]
          omega
      refine ⟨sfLldErase_only some, fun sector => ?_⟩
      rw [sfLldErase_sector_iff some, eraseAddresses_sector_iff positive one,
        meets_iff positive some, number, last]
      omega

theorem board_device : Device g_SFInfo (128 * 4096) :=
  ⟨⟨12, rfl⟩, ⟨128, rfl⟩, by decide⟩

theorem erase_coverage_two_sectors : EraseCoverage g_SFInfo 0x1080 4096 :=
  (erase_coverage g_SFInfo (128 * 4096) 0x1080 4096 board_device (by decide) (by decide)).mpr
    (by decide)

/-- Sixteen bytes across a boundary: the second sector keeps its contents. -/
theorem erase_coverage_crossing : ¬EraseCoverage g_SFInfo 0x1ff8 16 := by
  intro coverage
  obtain ⟨address, member, same⟩ := (coverage.covers 2).mpr ⟨0x2000, by decide, by decide, rfl⟩
  obtain ⟨found, present, equal⟩ := (sfLldErase_sector_iff (by decide)).mp ⟨address, member, same⟩
  have only : found = 0x1ff8 := mem_singleton.mp present
  rw [only] at equal
  cases equal

/-- `hs_cfg_halWrite` with its result. The bounce buffer may be missing; `sfWrite` itself
returns 0 on a device whose flash was recognised. -/
def halWriteResult (allocated : Bool) (info : Geometry) (offset : Nat) (pbuf : Nat → UInt8)
    (len : Nat) : CfgRes × List Op :=
  if allocated then (.ok, hsCfgHalWrite info offset pbuf len) else (.error, [])

/-- What a write does to the flash. Addresses wrap at the end of the device; a range that
ends before it is changed byte for byte, and nothing else is. -/
structure ProgramSplitting (info : Geometry) (allocated : Bool) (offset : Nat)
    (pbuf : Nat → UInt8) (len : Nat) : Prop where
  result : (halWriteResult allocated info offset pbuf len).1 =
    if allocated then .ok else .error
  inPage : ∀ op ∈ (halWriteResult allocated info offset pbuf len).2,
    ∃ address bytes source, op = .programPage address bytes source ∧
      address % info.pageSize + bytes ≤ info.pageSize
  streamed : ∀ image, applyAll info image (halWriteResult allocated info offset pbuf len).2 =
    if allocated then stream (2 ^ 24) image (offset % 2 ^ 28) len pbuf else image
  inRange : allocated → offset % 2 ^ 24 + len ≤ 2 ^ 24 → ∀ image a,
    applyAll info image (halWriteResult allocated info offset pbuf len).2 a =
      if offset % 2 ^ 24 ≤ a ∧ a < offset % 2 ^ 24 + len then
        image a &&& pbuf (a - offset % 2 ^ 24)
      else image a

theorem program_splitting (info : Geometry) (divides : info.pageSize ∣ 2 ^ 24)
    (allocated : Bool) (offset : Nat) (pbuf : Nat → UInt8) (len : Nat) :
    ProgramSplitting info allocated offset pbuf len := by
  cases allocated with
  | false =>
    constructor
    · rfl
    · exact nofun
    · exact fun image => rfl
    · exact nofun
  | true =>
    have streams := hsCfgHalWrite_streams divides offset pbuf len
    have streamed := streams.applyAll_eq divides (Nat.two_pow_pos 24)
    have address : offset % 2 ^ 28 % 2 ^ 24 = offset % 2 ^ 24 :=
      mod_mod_of_dvd offset (by decide)
    constructor
    · rfl
    · exact streams.inPage divides
    · exact streamed
    · intro _ room image a
      have programmed : stream (2 ^ 24) image (offset % 2 ^ 28) len pbuf =
          program image (offset % 2 ^ 28 % 2 ^ 24) len pbuf :=
        stream_eq_program pbuf (address.symm ▸ room)
      rw [address] at programmed
      exact congrFun ((streamed image).trans programmed) a

theorem program_splitting_board : g_SFInfo.pageSize ∣ 2 ^ 24 ∧
    ProgramSplitting g_SFInfo true 0x50012345 (fun k => UInt8.ofNat k) 1000 :=
  ⟨by decide, program_splitting g_SFInfo (by decide) true 0x50012345 (fun k => UInt8.ofNat k) 1000⟩

end Hfirmware.Config
