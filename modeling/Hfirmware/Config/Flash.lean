/-
The flash access layer of the configuration store: the erase and program loops of the
serial flash driver and the hs_cfg_hal functions above them.
-/

import Hfirmware.FixedWidth
import Hfirmware.NorFlash

namespace Hfirmware.Config

open List NorFlash

variable {info : Geometry}

def g_SFInfo : Geometry :=
  { sectorSize := 4 * 1024
    pageSize := 256 }

def sfAddress (offset : Nat) : Nat := offset % 2 ^ 24

def setorNum (info : Geometry) (offset len : Nat) : Nat :=
  if len < info.sectorSize then 1
  else
    let head := offset &&& (info.sectorSize - 1)
    let hLen := if head ≠ 0 then info.sectorSize - head else 0
    let tLen := u32 (offset + len) &&& (info.sectorSize - 1)
    (if head ≠ 0 then 1 else 0) + (if tLen ≠ 0 then 1 else 0) +
      u32Sub (u32Sub len hLen) tLen / info.sectorSize

def eraseAddresses (info : Geometry) : Nat → Nat → List Nat
  | 0, _ => []
  | count + 1, offset =>
    sfAddress offset :: eraseAddresses info count (u32 (offset + info.sectorSize))

def sfLldErase (info : Geometry) (offset len : Nat) : List Op :=
  if len = 0 then [.eraseChip]
  else (eraseAddresses info (setorNum info offset len) offset).map Op.eraseSector

def hsCfgHalErase (info : Geometry) (offset len : Nat) : List Op :=
  sfLldErase info (offset % 2 ^ 28) len

def sfPageWrite (info : Geometry) (offset : Nat) (wrbuf : Nat → UInt8) (len : Nat) : List Op :=
  if len > info.pageSize then [] else [.programPage (sfAddress offset) len wrbuf]

def sfWritePages (info : Geometry) : Nat → Nat → (Nat → UInt8) → Nat → List Op
  | 0, _, _, _ => []
  | cnt + 1, offset, wrbuf, len =>
    let transLen := if len > info.pageSize then info.pageSize else len
    sfPageWrite info offset wrbuf transLen ++
      sfWritePages info cnt (u32 (offset + transLen)) (fun index => wrbuf (transLen + index))
        (len - transLen)

def sfPageCount (info : Geometry) (len : Nat) : Nat :=
  if len % info.pageSize ≠ 0 then len / info.pageSize + 1 else len / info.pageSize

def sfLldWrite (info : Geometry) (offset : Nat) (wrbuf : Nat → UInt8) (len : Nat) : List Op :=
  if offset % info.pageSize ≠ 0 then
    let room := info.pageSize - offset % info.pageSize
    let transLen := if len > room then room else len
    sfPageWrite info offset wrbuf transLen ++ (if len - transLen = 0 then []
        else sfWritePages info (sfPageCount info (len - transLen)) (u32 (offset + transLen))
          (fun index => wrbuf (transLen + index)) (len - transLen))
  else sfWritePages info (sfPageCount info len) offset wrbuf len

def flhRdwrLen : Nat := 256

def halWriteLoop (info : Geometry) (offset : Nat) (pbuf : Nat → UInt8) (len : Nat) : List Op :=
  if 0 < len then
    let u32Tmp := if len > flhRdwrLen then flhRdwrLen else len
    sfLldWrite info offset pbuf u32Tmp ++
      halWriteLoop info (u32 (offset + u32Tmp)) (fun index => pbuf (u32Tmp + index)) (len - u32Tmp)
  else []
termination_by len
decreasing_by
  have positive : 0 < flhRdwrLen := by decide
  by_cases long : len > flhRdwrLen
  · simp only [long, dite_true]; omega
  · simp only [long, dite_false]; omega

def hsCfgHalWrite (info : Geometry) (offset : Nat) (pbuf : Nat → UInt8) (len : Nat) : List Op :=
  halWriteLoop info (offset % 2 ^ 28) pbuf len

def hsCfgHalRead (image : Nat → UInt8) (offset : Nat) : Nat → UInt8 :=
  fun index => image (offset % 2 ^ 28 + index)

def hsCfgHalCalChecksum (buffer : Nat → UInt8) (len : Nat) : Nat :=
  u32 (ByteImage.byteSum buffer 0 len)

def byteToWordLoop (buffer : Nat → UInt8) : Nat → Nat
  | 0 => 0
  | index + 1 => byteToWordLoop buffer index ||| (buffer index).toNat <<< (index * 8)

def hsCfgHalByteToWord (buffer : Nat → UInt8) (len : Nat) : Nat :=
  if len > 4 then 0 else byteToWordLoop buffer len

section

variable {image after : Nat → UInt8}

theorem setorNum_long {offset len power : Nat} (size : info.sectorSize = 2 ^ power)
    (long : info.sectorSize ≤ len) (bounded : offset + len < 2 ^ 32) :
    setorNum info offset len =
      (offset + len - 1) / info.sectorSize + 1 - offset / info.sectorSize := by
  have positive : 0 < info.sectorSize := by rw [size]; exact Nat.two_pow_pos power
  have startSplit := Nat.div_add_mod offset info.sectorSize
  have stopSplit := Nat.div_add_mod (offset + len) info.sectorSize
  have startBelow := Nat.mod_lt offset positive
  have stopBelow := Nat.mod_lt (offset + len) positive
  have startMask : offset &&& (info.sectorSize - 1) = offset % info.sectorSize := by
    rw [size, Nat.and_two_pow_sub_one_eq_mod]
  have stopMask : u32 (offset + len) &&& (info.sectorSize - 1) =
      (offset + len) % info.sectorSize := by
    rw [u32_of_lt bounded, size, Nat.and_two_pow_sub_one_eq_mod]
  -- The range ends `between + 1` sectors after the one it starts in.
  have later : offset / info.sectorSize + 1 ≤ (offset + len) / info.sectorSize := by
    rw [Nat.le_div_iff_mul_le positive, add_mul, one_mul, mul_comm]
    omega
  obtain ⟨between, _⟩ := Nat.exists_eq_add_of_le later
  have stopAt' : (offset + len) / info.sectorSize =
      offset / info.sectorSize + (between + 1) := by omega
  rw [stopAt', mul_add, mul_add, mul_one] at stopSplit
  have last : (offset + len - 1) / info.sectorSize =
      if (offset + len) % info.sectorSize = 0 then offset / info.sectorSize + between
      else offset / info.sectorSize + (between + 1) := by
    split
    · apply Nat.div_eq_of_lt_le
      · rw [mul_comm, mul_add]; omega
      · rw [mul_comm, mul_add, mul_add]; omega
    · apply Nat.div_eq_of_lt_le
      · rw [mul_comm, mul_add, mul_add]; omega
      · rw [mul_comm, mul_add, mul_add, mul_add]; omega
  rw [setorNum, if_neg (not_lt.mpr long), startMask, stopMask, last]
  dsimp only
  -- A sector that the range starts within is not part of the middle.
  obtain ⟨starts, few, first⟩ : ∃ starts ≤ 1,
      (if offset % info.sectorSize ≠ 0 then 1 else 0) = starts ∧
        (if offset % info.sectorSize ≠ 0 then info.sectorSize - offset % info.sectorSize else 0) +
          offset % info.sectorSize = info.sectorSize * starts := by
    by_cases aligned : offset % info.sectorSize = 0
    · exact ⟨0, Nat.zero_le _, if_neg (not_not.mpr aligned), by simp [aligned]⟩
    · exact ⟨1, .refl, if_pos aligned, by rw [if_pos aligned]; omega⟩
  rw [first.1]
  obtain ⟨-, first⟩ := first
  generalize (if offset % info.sectorSize ≠ 0 then _ else 0) = hLen at first ⊢
  have whole : info.sectorSize * between + info.sectorSize =
      info.sectorSize * (between + 1 - starts) + info.sectorSize * starts := by
    rw [← mul_add, Nat.sub_add_cancel (by omega), Nat.mul_succ]
  have rest : u32Sub len hLen = len - hLen := u32Sub_of_le (by omega) (by omega)
  rw [rest, u32Sub_of_le (by omega) (by omega),
    show len - hLen - _ = info.sectorSize * (between + 1 - starts) by omega,
    Nat.mul_div_cancel_left _ positive]
  split <;> rename_i tail
  · omega
  · rw [if_pos (not_not.mp tail)]
    omega

def eraseRun (info : Geometry) (image : Nat → UInt8) (offset count : Nat) : Nat → UInt8 :=
  fun a =>
    if offset / info.sectorSize ≤ a / info.sectorSize ∧
        a / info.sectorSize < offset / info.sectorSize + count then blank
    else image a

theorem eraseRun_zero (offset : Nat) : eraseRun info image offset 0 = image := by
  funext a
  exact if_neg (by omega)

theorem eraseAddresses_take (count offset done : Nat) :
    (eraseAddresses info count offset).take done = eraseAddresses info (min done count) offset := by
  induction count generalizing offset done with
  | zero => simp [eraseAddresses]
  | succ _ ih =>
    cases done with
    | zero => simp [eraseAddresses]
    | succ =>
      rw [eraseAddresses, take_succ_cons, ih, Nat.succ_min_succ, eraseAddresses]

section

variable (positive : 0 < info.sectorSize)
include positive

theorem erase_next {count offset : Nat}
    (room : (offset / info.sectorSize + (count + 1)) * info.sectorSize ≤ 2 ^ 24) :
    sfAddress offset = offset ∧ u32 (offset + info.sectorSize) = offset + info.sectorSize ∧
      (offset + info.sectorSize) / info.sectorSize = offset / info.sectorSize + 1 ∧
      (offset / info.sectorSize + 1 + count) * info.sectorSize ≤ 2 ^ 24 := by
  have split := Nat.div_add_mod offset info.sectorSize
  have below := Nat.mod_lt offset positive
  have expanded : (offset / info.sectorSize + (count + 1)) * info.sectorSize =
      info.sectorSize * (offset / info.sectorSize) + info.sectorSize * count +
        info.sectorSize := by
    rw [mul_comm, mul_add, mul_add, mul_one, add_assoc]
  refine ⟨Nat.mod_eq_of_lt (by omega), u32_of_lt (by omega), Nat.add_div_right offset positive, ?_⟩
  rwa [add_assoc, add_comm 1 count]

theorem applyAll_eraseAddresses {count offset : Nat}
    (room : (offset / info.sectorSize + count) * info.sectorSize ≤ 2 ^ 24) :
    applyAll info image ((eraseAddresses info count offset).map Op.eraseSector) =
      eraseRun info image offset count := by
  induction count generalizing offset image with
  | zero => rw [eraseRun_zero]; rfl
  | succ count ih =>
    obtain ⟨here, next, nextSector, later⟩ := erase_next positive room
    rw [eraseAddresses, map_cons, applyAll_cons, next, ih]
    · funext a
      simp only [eraseRun, NorFlash.Op.apply, nextSector, here]
      by_cases first : a / info.sectorSize = offset / info.sectorSize
      · rw [if_neg (by omega), if_pos first, if_pos (by omega)]
      · split
        · rw [if_pos (by omega)]
        · rw [if_neg (by omega)]
    · rwa [nextSector]

theorem cut_sfLldErase {offset len : Nat} (some : 0 < len)
    (room : (offset / info.sectorSize + setorNum info offset len) * info.sectorSize ≤ 2 ^ 24)
    (cut : Cut info (sfLldErase info offset len) image after) :
    ∃ done ≤ setorNum info offset len, after = eraseRun info image offset done := by
  rw [sfLldErase, if_neg (by omega)] at cut
  obtain ⟨done, reached⟩ := cut
  rw [← map_take] at reached
  rw [eraseAddresses_take, applyAll_eraseAddresses positive] at reached
  · exact ⟨_, min_le_right _ _, reached⟩
  · refine le_trans (Nat.mul_le_mul_right _ ?_) room
    omega

theorem applyAll_sfLldErase {offset len : Nat} (some : 0 < len)
    (room : (offset / info.sectorSize + setorNum info offset len) * info.sectorSize ≤ 2 ^ 24) :
    applyAll info image (sfLldErase info offset len) =
      eraseRun info image offset (setorNum info offset len) := by
  rw [sfLldErase, if_neg (by omega), applyAll_eraseAddresses positive room]

end

end

/-! ### What a write programs -/

section

theorem u32_mod_device (x : Nat) : u32 x % 2 ^ 24 = x % 2 ^ 24 :=
  Nat.mod_mod_of_dvd x (by decide)

theorem u32_mod_page (divides : info.pageSize ∣ 2 ^ 24) (x : Nat) :
    u32 x % info.pageSize = x % info.pageSize :=
  Nat.mod_mod_of_dvd x (dvd_trans divides (by decide))

theorem sfPageWrite_streams (wrbuf : Nat → UInt8) {offset len : Nat} (some : 0 < len)
    (inPage : offset % info.pageSize + len ≤ info.pageSize) :
    Streams info (2 ^ 24) (sfPageWrite info offset wrbuf len) offset len wrbuf := by
  rw [sfPageWrite, if_neg (by omega)]
  exact .page some inPage (.nil _ _)

theorem sfWritePages_streams (divides : info.pageSize ∣ 2 ^ 24) {cnt offset len : Nat}
    (wrbuf : Nat → UInt8) (aligned : offset % info.pageSize = 0)
    (enough : len ≤ cnt * info.pageSize) (needed : (cnt - 1) * info.pageSize < len ∨ cnt = 0) :
    Streams info (2 ^ 24) (sfWritePages info cnt offset wrbuf len) offset len wrbuf := by
  induction cnt generalizing offset len wrbuf with
  | zero =>
    obtain rfl : len = 0 := by omega
    exact .nil _ _
  | succ cnt ih =>
    have short : cnt * info.pageSize < len := by
      rcases needed with below | impossible
      · simpa using below
      · omega
    rw [add_mul, one_mul] at enough
    rw [sfWritePages]
    by_cases long : len > info.pageSize
    · simp only [if_pos long]
      have sum : len = info.pageSize + (len - info.pageSize) := by omega
      have positive := Nat.pos_of_dvd_of_pos divides (Nat.two_pow_pos 24)
      have first : Streams info (2 ^ 24) (sfPageWrite info offset wrbuf info.pageSize) offset
          info.pageSize wrbuf := sfPageWrite_streams wrbuf positive (by omega)
      have rest := @ih _ (len - info.pageSize) (fun index => wrbuf (info.pageSize + index))
        (by rw [u32_mod_page divides, Nat.add_mod_right]; exact aligned) (by omega) ?_
      · have whole := first.append (rest.shift divides (u32_mod_device _).symm)
        rwa [← sum] at whole
      · cases cnt with
        | zero => omega
        | succ cnt =>
          left
          rw [add_mul, one_mul] at short
          simpa using (by omega : cnt * info.pageSize < len - info.pageSize)
    · -- The last page: nothing is left, so no further page is counted.
      simp only [if_neg long]
      have none : cnt = 0 := by
        rcases Nat.eq_zero_or_pos cnt with none | more
        · exact none
        · have := Nat.mul_le_mul_right info.pageSize more
          omega
      subst none
      have last : Streams info (2 ^ 24) (sfPageWrite info offset wrbuf len) offset len wrbuf :=
        sfPageWrite_streams wrbuf (by omega) (by omega)
      simpa [sfWritePages] using last

theorem sfPageCount_bounds (positive : 0 < info.pageSize) {len : Nat} (some : 0 < len) :
    len ≤ sfPageCount info len * info.pageSize ∧
      (sfPageCount info len - 1) * info.pageSize < len := by
  have split := Nat.div_add_mod len info.pageSize
  have below := Nat.mod_lt len positive
  rw [sfPageCount]
  by_cases exactPages : len % info.pageSize = 0
  · rw [if_neg (by simpa using exactPages), mul_comm]
    refine ⟨by omega, ?_⟩
    rw [Nat.sub_mul, one_mul, mul_comm]
    omega
  · rw [if_pos exactPages, Nat.add_sub_cancel, add_mul, one_mul, mul_comm]
    omega

section

variable (divides : info.pageSize ∣ 2 ^ 24)
include divides

theorem sfLldWrite_streams (wrbuf : Nat → UInt8) {offset len : Nat} (some : 0 < len) :
    Streams info (2 ^ 24) (sfLldWrite info offset wrbuf len) offset len wrbuf := by
  have positive := Nat.pos_of_dvd_of_pos divides (Nat.two_pow_pos 24)
  have below := Nat.mod_lt offset positive
  rw [sfLldWrite]
  by_cases aligned : offset % info.pageSize = 0
  · rw [if_neg (by simpa using aligned)]
    obtain ⟨enough, needed⟩ := sfPageCount_bounds positive some
    exact sfWritePages_streams divides wrbuf aligned enough (.inl needed)
  · rw [if_pos aligned]
    by_cases long : len > info.pageSize - offset % info.pageSize
    · have rest : ¬(len - (info.pageSize - offset % info.pageSize) = 0) := by omega
      simp only [if_pos long, if_neg rest]
      have sum : len = (info.pageSize - offset % info.pageSize) +
          (len - (info.pageSize - offset % info.pageSize)) := by omega
      have nextAligned :
          u32 (offset + (info.pageSize - offset % info.pageSize)) % info.pageSize = 0 := by
        have split := Nat.div_add_mod offset info.pageSize
        have whole : offset + (info.pageSize - offset % info.pageSize) =
            info.pageSize * (offset / info.pageSize) + info.pageSize := by omega
        rw [u32_mod_page divides, whole, Nat.add_mod_right, Nat.mul_mod_right]
      obtain ⟨enough, needed⟩ := sfPageCount_bounds positive (Nat.pos_of_ne_zero rest)
      have first : Streams info (2 ^ 24)
          (sfPageWrite info offset wrbuf (info.pageSize - offset % info.pageSize)) offset
          (info.pageSize - offset % info.pageSize) wrbuf :=
        sfPageWrite_streams wrbuf (by omega) (by omega)
      have pages := sfWritePages_streams divides (fun index =>
        wrbuf (info.pageSize - offset % info.pageSize + index)) nextAligned enough
        (.inl needed)
      have whole := first.append (pages.shift divides (u32_mod_device _).symm)
      rwa [← sum] at whole
    · simp only [if_neg long, Nat.sub_self, if_true, append_nil]
      exact sfPageWrite_streams wrbuf some (by omega)

theorem halWriteLoop_streams (pbuf : Nat → UInt8) {offset len : Nat} :
    Streams info (2 ^ 24) (halWriteLoop info offset pbuf len) offset len pbuf := by
  induction len using Nat.strongRecOn generalizing offset pbuf with
  | ind len ih =>
    rw [halWriteLoop]
    split
    · next some =>
      have chunk : flhRdwrLen = 256 := rfl
      by_cases long : len > flhRdwrLen
      · simp only [if_pos long]
        have sum : len = flhRdwrLen + (len - flhRdwrLen) := by omega
        have first : Streams info (2 ^ 24) (sfLldWrite info offset pbuf flhRdwrLen) offset
            flhRdwrLen pbuf := sfLldWrite_streams divides pbuf (by omega)
        have rest := @ih (len - flhRdwrLen) (by omega)
          (fun index => pbuf (flhRdwrLen + index)) (u32 (offset + flhRdwrLen))
        have whole := first.append (rest.shift divides (u32_mod_device _).symm)
        rwa [← sum] at whole
      · simp only [if_neg long, Nat.sub_self]
        have rest := @ih 0 some (fun index => pbuf (len + index)) (u32 (offset + len))
        exact (sfLldWrite_streams divides pbuf some).append
          (rest.shift divides (u32_mod_device _).symm)
    · obtain rfl : len = 0 := by omega
      exact .nil _ _

theorem hsCfgHalWrite_streams (offset : Nat) (pbuf : Nat → UInt8) (len : Nat) :
    Streams info (2 ^ 24) (hsCfgHalWrite info offset pbuf len) (offset % 2 ^ 28) len pbuf :=
  halWriteLoop_streams divides pbuf

theorem hsCfgHalWrite_programs (pbuf : Nat → UInt8) {offset len : Nat}
    (room : offset % 2 ^ 28 + len ≤ 2 ^ 24) :
    Programs info (hsCfgHalWrite info offset pbuf len) (offset % 2 ^ 28) len pbuf :=
  (hsCfgHalWrite_streams divides offset pbuf len).programs room

end

end

end Hfirmware.Config
