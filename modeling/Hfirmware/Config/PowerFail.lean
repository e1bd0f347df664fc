/-
Power failure during a block flush.
-/

import Hfirmware.Config.Journal

namespace Hfirmware.Config

open List Nat NorFlash HsCfgBkw

theorem g_SFInfo_sectorSize : g_SFInfo.sectorSize = 4096 := rfl

theorem g_SFInfo_power : g_SFInfo.sectorSize = 2 ^ 12 := rfl

def InBackupArea (u32BWAddr a : Nat) : Prop :=
  u32BWAddr % 2 ^ 28 / 4096 ≤ a / 4096 ∧ a / 4096 ≤ (u32BWAddr % 2 ^ 28 + 8191) / 4096

def InBlock (u32PhyAddr a : Nat) : Prop := a / 4096 = u32PhyAddr % 2 ^ 28 / 4096

instance (u32BWAddr a : Nat) : Decidable (InBackupArea u32BWAddr a) :=
  inferInstanceAs (Decidable (_ ∧ _))

instance (u32PhyAddr a : Nat) : Decidable (InBlock u32PhyAddr a) :=
  inferInstanceAs (Decidable (_ = _))

/-- Where the backup area, the index entry and the flushed block lie: inside the device
and apart, and the block is aligned. -/
structure Placement (para : Para) (u32BWAddr u32PhyAddr : Nat) : Prop where
  areaRoom : u32BWAddr % 2 ^ 28 + 8192 ≤ 2 ^ 24
  indexOutside : ¬InBackupArea u32BWAddr (bawEntry para)
  bounded : u32PhyAddr < 2 ^ 32
  aligned : u32PhyAddr % 4096 = 0
  blockRoom : u32PhyAddr % 2 ^ 28 + 4096 ≤ 2 ^ 24
  blockOutside : ¬InBackupArea u32BWAddr (u32PhyAddr % 2 ^ 28)

def HoldsBlock (u32PhyAddr : Nat) (content image : Nat → UInt8) : Prop :=
  ∀ index < 4096, image (u32PhyAddr % 2 ^ 28 + index) = content index

def Quiet (para : Para) (image : Nat → UInt8) : Prop := (cfgCachememRestore para image).2 = []

structure Ready (para : Para) (u32BWAddr u32PhyAddr : Nat) (content image : Nat → UInt8) :
    Prop where
  located : bawOffset para image = .ok u32BWAddr
  header : ∀ index < 16, image (u32BWAddr % 2 ^ 28 + index) = (bkwInfo u32PhyAddr).bytes index
  copy : ∀ index < 4096, image (u32BWAddr % 2 ^ 28 + 4096 + index) = content index

structure Settled (para : Para) (u32PhyAddr : Nat) (content image : Nat → UInt8) : Prop where
  holds : HoldsBlock u32PhyAddr content image
  quiet : Quiet para image

/-- Either the block does not contain the index entry of the backup area, or its
new content is that of an erased sector. -/
def Shielded (para : Para) (u32PhyAddr : Nat) (content : Nat → UInt8) : Prop :=
  ¬InBlock u32PhyAddr (bawEntry para) ∨ ∀ index < 4096, content index = blank

inductive Recovered (para : Para) : (Nat → UInt8) → (Nat → UInt8) → Prop where
  | complete (image : Nat → UInt8) :
      Recovered para image (applyAll g_SFInfo image (cfgCachememRestore para image).2)
  | again {image mid after : Nat → UInt8}
      (cut : Cut g_SFInfo (cfgCachememRestore para image).2 image mid)
      (rest : Recovered para mid after) : Recovered para image after

section

variable {image after : Nat → UInt8} {u32BWAddr u32PhyAddr : Nat}

theorem eraseRun_one (offset a : Nat) :
    eraseRun g_SFInfo image offset 1 a = if a / 4096 = offset / 4096 then blank else image a := by
  change (if offset / 4096 ≤ a / 4096 ∧ a / 4096 < offset / 4096 + 1 then blank else image a) = _
  split
  · rw [if_pos (by omega)]
  · rw [if_neg (by omega)]

theorem setorNum_block {offset : Nat} (aligned : offset % 4096 = 0)
    (room : offset + 4096 ≤ 2 ^ 24) :
    setorNum g_SFInfo offset cfgBkwBlockSize = 1 := by
  rw [setorNum_long g_SFInfo_power (by decide) (by rw [cfgBkwBlockSize]; omega),
    g_SFInfo_sectorSize, cfgBkwBlockSize]
  omega

theorem setorNum_header (offset : Nat) : setorNum g_SFInfo offset bkwSize = 1 := rfl

theorem setorNum_area {offset : Nat} (room : offset + 8192 ≤ 2 ^ 24) :
    setorNum g_SFInfo offset (cfgBkwBlockSize * 2) =
      (offset + 8191) / 4096 + 1 - offset / 4096 := by
  rw [setorNum_long g_SFInfo_power (by decide) (by rw [cfgBkwBlockSize]; omega),
    g_SFInfo_sectorSize, cfgBkwBlockSize]
  omega

section

variable {offset len : Nat} (some : 0 < len)
  (one : setorNum g_SFInfo (offset % 2 ^ 28) len = 1) (room : offset % 2 ^ 28 < 2 ^ 24)
include some one room

theorem applyAll_eraseOne : applyAll g_SFInfo image (hsCfgHalErase g_SFInfo offset len) =
    eraseRun g_SFInfo image (offset % 2 ^ 28) 1 := by
  rw [hsCfgHalErase, applyAll_sfLldErase (by decide) some, one]
  rw [one, g_SFInfo_sectorSize]
  omega

theorem cut_eraseOne (cut : Cut g_SFInfo (hsCfgHalErase g_SFInfo offset len) image after) :
    after = image ∨ after = eraseRun g_SFInfo image (offset % 2 ^ 28) 1 := by
  obtain ⟨_, most, reached⟩ := cut_sfLldErase (by decide) some
    (by rw [one, g_SFInfo_sectorSize]; omega) cut
  rw [one] at most
  rcases le_one_iff_eq_zero_or_eq_one.mp most with rfl | rfl
  · exact .inl (by rw [reached, eraseRun_zero])
  · exact .inr reached

end

theorem applyAll_eraseBlock (aligned : u32PhyAddr % 4096 = 0)
    (room : u32PhyAddr % 2 ^ 28 + 4096 ≤ 2 ^ 24) :
    applyAll g_SFInfo image (hsCfgHalErase g_SFInfo u32PhyAddr cfgBkwBlockSize) =
      eraseRun g_SFInfo image (u32PhyAddr % 2 ^ 28) 1 :=
  applyAll_eraseOne (by decide) (setorNum_block (by omega) room) (by omega)

section

variable (room : u32BWAddr % 2 ^ 28 + 8192 ≤ 2 ^ 24)
include room

theorem applyAll_eraseHeader :
    applyAll g_SFInfo image (hsCfgHalErase g_SFInfo u32BWAddr bkwSize) =
      eraseRun g_SFInfo image (u32BWAddr % 2 ^ 28) 1 :=
  applyAll_eraseOne (by decide) (setorNum_header _) (by omega)

theorem applyAll_eraseArea :
    applyAll g_SFInfo image (hsCfgHalErase g_SFInfo u32BWAddr (cfgBkwBlockSize * 2)) =
      eraseRun g_SFInfo image (u32BWAddr % 2 ^ 28)
        ((u32BWAddr % 2 ^ 28 + 8191) / 4096 + 1 - u32BWAddr % 2 ^ 28 / 4096) := by
  have count := setorNum_area room
  rw [hsCfgHalErase, applyAll_sfLldErase (by decide) (by decide), count]
  rw [count, g_SFInfo_sectorSize]
  omega

theorem cut_eraseArea
    (cut : Cut g_SFInfo (hsCfgHalErase g_SFInfo u32BWAddr (cfgBkwBlockSize * 2)) image after) :
    ∃ done ≤ (u32BWAddr % 2 ^ 28 + 8191) / 4096 + 1 - u32BWAddr % 2 ^ 28 / 4096,
      after = eraseRun g_SFInfo image (u32BWAddr % 2 ^ 28) done := by
  have count := setorNum_area room
  rw [← count]
  refine cut_sfLldErase (by decide) (by decide) ?_ cut
  rw [count, g_SFInfo_sectorSize]
  omega

end

theorem writeBlock_programs (data : Nat → UInt8) {offset : Nat}
    (room : offset % 2 ^ 28 + 4096 ≤ 2 ^ 24) :
    Programs g_SFInfo (hsCfgHalWrite g_SFInfo offset data cfgBkwBlockSize) (offset % 2 ^ 28) 4096
      data :=
  hsCfgHalWrite_programs (by decide) data room

theorem writeHeader_programs (data : Nat → UInt8) {offset : Nat}
    (room : offset % 2 ^ 28 + 16 ≤ 2 ^ 24) :
    Programs g_SFInfo (hsCfgHalWrite g_SFInfo offset data bkwSize) (offset % 2 ^ 28) 16 data :=
  hsCfgHalWrite_programs (by decide) data room

end

/-! ### Recovery -/

variable {a done : Nat}

section

variable {para : Para} {u32BWAddr u32PhyAddr : Nat} {content image after : Nat → UInt8}

theorem quiet_of_error {code : CfgRes} (lost : bawOffset para image = .error code) :
    Quiet para image := by
  simp only [Quiet, cfgCachememRestore, lost]

theorem quiet_of_invalid (located : bawOffset para image = .ok u32BWAddr)
    (invalid : (ofBytes (hsCfgHalRead image u32BWAddr)).valid = false) :
    Quiet para image := by
  simp [Quiet, cfgCachememRestore, located, invalid]

theorem applyAll_of_quiet (quiet : Quiet para image) :
    applyAll g_SFInfo image (cfgCachememRestore para image).2 = image := by
  rw [quiet, applyAll_nil]

theorem recovered_of_quiet (recovered : Recovered para image after) (quiet : Quiet para image) :
    after = image := by
  induction recovered with
  | complete => exact applyAll_of_quiet quiet
  | again cut _ ih =>
    rw [quiet] at cut
    obtain rfl := cut_nil cut
    exact ih quiet

theorem copyAddress (room : u32BWAddr % 2 ^ 28 + 8192 ≤ 2 ^ 24) :
    u32 (u32BWAddr + cfgBkwBlockSize) % 2 ^ 28 = u32BWAddr % 2 ^ 28 + 4096 := by
  simp only [u32, cfgBkwBlockSize]
  omega

theorem restore_of_ready (bounded : u32PhyAddr < 2 ^ 32) (room : u32BWAddr % 2 ^ 28 + 8192 ≤ 2 ^ 24)
    (ready : Ready para u32BWAddr u32PhyAddr content image) :
    ∃ copy, (∀ index < 4096, copy index = content index) ∧
      (cfgCachememRestore para image).2 = restoreOps u32BWAddr (bkwInfo u32PhyAddr) copy := by
  refine ⟨hsCfgHalRead image (u32 (u32BWAddr + cfgBkwBlockSize)), ?_, ?_⟩
  · intro index below
    rw [hsCfgHalRead, copyAddress room]
    exact ready.copy index below
  · have header : ofBytes (hsCfgHalRead image u32BWAddr) = bkwInfo u32PhyAddr := by
      rw [← bkwInfo_ofBytes bounded]
      exact ofBytes_congr ready.header
    simp only [cfgCachememRestore, ready.located, header, bkwInfo_valid, if_true]

theorem bawOffset_kept (located : bawOffset para image = .ok u32BWAddr)
    (same : ∀ a, a / 4096 = bawEntry para / 4096 → after a = image a) :
    bawOffset para after = .ok u32BWAddr := by
  rw [← located]
  exact bawOffset_congr para fun k below => same _ (bawEntry_sector para below)

section

variable (placement : Placement para u32BWAddr u32PhyAddr)
include placement

theorem index_after (located : bawOffset para image = .ok u32BWAddr)
    (outside : ∀ a, ¬InBlock u32PhyAddr a → ¬InBackupArea u32BWAddr a → after a = image a)
    (apart : ¬InBlock u32PhyAddr (bawEntry para)) : bawOffset para after = .ok u32BWAddr := by
  have areaOutside := placement.indexOutside
  simp only [InBlock, InBackupArea] at apart areaOutside outside
  exact bawOffset_kept located fun a sector => outside a (by omega) (by omega)

theorem lost_of_blank (inside : InBlock u32PhyAddr (bawEntry para))
    (erased : ∀ index < 4096, image (u32PhyAddr % 2 ^ 28 + index) = blank) :
    bawOffset para image = .error .errNoData := by
  apply bawOffset_blank
  intro k below
  have sector := bawEntry_sector para below
  have aligned := placement.aligned
  unfold InBlock at inside
  have offset := erased (bawEntry para + k - u32PhyAddr % 2 ^ 28) (by omega)
  rwa [add_sub_of_le (by omega)] at offset

theorem settled_of_cleared (shielded : Shielded para u32PhyAddr content)
    (located : ¬InBlock u32PhyAddr (bawEntry para) → bawOffset para image = .ok u32BWAddr)
    (holds : HoldsBlock u32PhyAddr content image) (cleared : image (u32BWAddr % 2 ^ 28) ≠ 0x5A) :
    Settled para u32PhyAddr content image := by
  refine ⟨holds, ?_⟩
  by_cases inside : InBlock u32PhyAddr (bawEntry para)
  · have erased := shielded.resolve_left (fun apart => apart inside)
    apply quiet_of_error (lost_of_blank placement inside ?_)
    intro index below
    rw [holds index below, erased index below]
  · exact quiet_of_invalid (located inside) (ofBytes_invalid_of_flag cleared)

theorem ready_or_settled (shielded : Shielded para u32PhyAddr content)
    (ready : Ready para u32BWAddr u32PhyAddr content image)
    (outside : ∀ a, ¬InBlock u32PhyAddr a → after a = image a)
    (erased : (∀ index < 4096, content index = blank) →
      ∀ index < 4096, after (u32PhyAddr % 2 ^ 28 + index) = blank) :
    Ready para u32BWAddr u32PhyAddr content after ∨ Settled para u32PhyAddr content after := by
  by_cases inside : InBlock u32PhyAddr (bawEntry para)
  · right
    have contentBlank := shielded.resolve_left (fun apart => apart inside)
    have afterBlank := erased contentBlank
    refine ⟨fun index below => ?_, quiet_of_error (lost_of_blank placement inside afterBlank)⟩
    rw [afterBlank index below, contentBlank index below]
  · left
    have apart := placement.blockOutside
    simp only [InBackupArea, InBlock] at apart outside
    refine ⟨index_after placement ready.located (fun a off _ => outside a off) inside, ?_, ?_⟩
    · intro index below
      rw [outside _ (by omega)]
      exact ready.header index below
    · intro index below
      rw [outside _ (by omega)]
      exact ready.copy index below

end

def rewritten (u32PhyAddr : Nat) (content image : Nat → UInt8) : Nat → UInt8 :=
  program (eraseRun g_SFInfo image (u32PhyAddr % 2 ^ 28) 1) (u32PhyAddr % 2 ^ 28) 4096 content

section

variable (aligned : u32PhyAddr % 4096 = 0)
include aligned

theorem erasedBlock {index : Nat} (below : index < 4096) :
    eraseRun g_SFInfo image (u32PhyAddr % 2 ^ 28) 1 (u32PhyAddr % 2 ^ 28 + index) = blank := by
  rw [eraseRun_one, if_pos (by omega)]

theorem rewritten_holds : HoldsBlock u32PhyAddr content (rewritten u32PhyAddr content image) :=
  fun _ below => program_blank (fun _ less => erasedBlock aligned less) below

theorem partly_outside (most : done ≤ 4096) (outside : ¬InBlock u32PhyAddr a) :
    program (eraseRun g_SFInfo image (u32PhyAddr % 2 ^ 28) 1) (u32PhyAddr % 2 ^ 28) done content a =
      image a := by
  unfold InBlock at outside
  rw [program_outside _ (by omega), eraseRun_one, if_neg outside]

end

section

variable (placement : Placement para u32BWAddr u32PhyAddr)
  (shielded : Shielded para u32PhyAddr content)
include placement shielded

theorem cut_rewrite (ready : Ready para u32BWAddr u32PhyAddr content image) {copy : Nat → UInt8}
    (same : ∀ index < 4096, copy index = content index) {rest : List Op}
    (cut : Cut g_SFInfo (hsCfgHalErase g_SFInfo u32PhyAddr cfgBkwBlockSize ++
      (hsCfgHalWrite g_SFInfo u32PhyAddr copy cfgBkwBlockSize ++ rest)) image after) :
    (Ready para u32BWAddr u32PhyAddr content after ∨ Settled para u32PhyAddr content after) ∨
      Cut g_SFInfo rest (rewritten u32PhyAddr content image) after := by
  have aligned := placement.aligned
  have programs := writeBlock_programs copy placement.blockRoom
  rcases cut_append cut with inErase | afterErase
  · left
    have room := placement.blockRoom
    rcases cut_eraseOne (by decide) (setorNum_block (by omega) room) (by omega) inErase with
      rfl | rfl
    · exact .inl ready
    · apply ready_or_settled placement shielded ready
      · intro a outside
        exact (eraseRun_one _ _).trans (if_neg outside)
      · intro _ index below
        exact erasedBlock aligned below
  · rw [applyAll_eraseBlock aligned placement.blockRoom] at afterErase
    rcases cut_append afterErase with inWrite | afterWrite
    · left
      obtain ⟨done, most, reached⟩ := programs.cut inWrite
      rw [program_congr _ (fun index below => same index (by omega))] at reached
      subst reached
      apply ready_or_settled placement shielded ready
      · intro a outside
        exact partly_outside aligned most outside
      · intro contentBlank index below
        by_cases written : index < done
        · rw [program_blank (fun _ less => erasedBlock aligned (by omega)) written]
          exact contentBlank index below
        · rw [program_outside _ (by omega)]
          exact erasedBlock aligned below
    · right
      rwa [programs.applyAll_eq, program_congr _ same] at afterWrite

theorem cleared_settled (located : bawOffset para image = .ok u32BWAddr)
    (outside : ∀ a, ¬InBackupArea u32BWAddr a → after a = rewritten u32PhyAddr content image a)
    (cleared : after (u32BWAddr % 2 ^ 28) ≠ 0x5A) : Settled para u32PhyAddr content after := by
  have aligned := placement.aligned
  apply settled_of_cleared placement shielded ?_ ?_ cleared
  · apply index_after placement located
    intro a offBlock offArea
    rw [outside a offArea]
    exact partly_outside aligned (.refl) offBlock
  · intro index below
    have apart := placement.blockOutside
    unfold InBackupArea at apart outside
    rw [outside _ (by omega)]
    exact rewritten_holds aligned index below

theorem eraseHeader_settled (located : bawOffset para image = .ok u32BWAddr) (most : done ≤ 4096) :
    Settled para u32PhyAddr content
      (program (eraseRun g_SFInfo (rewritten u32PhyAddr content image) (u32BWAddr % 2 ^ 28) 1)
        (u32BWAddr % 2 ^ 28) done zeroBytes) := by
  apply cleared_settled placement shielded located
  · intro _ offArea
    unfold InBackupArea at offArea
    rw [program_outside _ (by omega), eraseRun_one, if_neg (by omega)]
  · unfold program
    rw [eraseRun_one, if_pos rfl, Nat.sub_self]
    split <;> decide

section

variable (ready : Ready para u32BWAddr u32PhyAddr content image)
include ready

theorem rewritten_ready :
    Ready para u32BWAddr u32PhyAddr content (rewritten u32PhyAddr content image) ∨
      Settled para u32PhyAddr content (rewritten u32PhyAddr content image) := by
  apply ready_or_settled placement shielded ready
  · intro _ outside
    exact partly_outside placement.aligned (.refl) outside
  · intro contentBlank index below
    rw [rewritten_holds placement.aligned index below]
    exact contentBlank index below

theorem cut_restore (cut : Cut g_SFInfo (cfgCachememRestore para image).2 image after) :
    Ready para u32BWAddr u32PhyAddr content after ∨ Settled para u32PhyAddr content after := by
  have area := placement.areaRoom
  obtain ⟨_, same, ops⟩ := restore_of_ready placement.bounded area ready
  rw [ops] at cut
  have rewriteCut := cut_rewrite placement shielded ready same cut
  rcases rewriteCut with early | late
  · exact early
  · rcases cut_append late with inErase | afterErase
    · rcases cut_eraseOne (by decide) (setorNum_header _) (by omega) inErase with rfl | rfl
      · exact rewritten_ready placement shielded ready
      · right
        have settled := eraseHeader_settled placement shielded ready.located (Nat.zero_le 4096)
        rwa [program_zero] at settled
    · right
      rw [applyAll_eraseHeader area] at afterErase
      obtain ⟨_, most, reached⟩ := (writeBlock_programs zeroBytes (by omega)).cut afterErase
      rw [reached]
      exact eraseHeader_settled placement shielded ready.located most

theorem complete_restore : Settled para u32PhyAddr content
    (applyAll g_SFInfo image (cfgCachememRestore para image).2) := by
  have area := placement.areaRoom
  obtain ⟨copy, same, ops⟩ := restore_of_ready placement.bounded area ready
  have zeros := @writeBlock_programs zeroBytes u32BWAddr (by omega)
  have target := writeBlock_programs copy placement.blockRoom
  change (cfgCachememRestore para image).2 = hsCfgHalErase g_SFInfo u32PhyAddr cfgBkwBlockSize ++
      (hsCfgHalWrite g_SFInfo u32PhyAddr copy cfgBkwBlockSize ++
        (hsCfgHalErase g_SFInfo u32BWAddr bkwSize ++
          hsCfgHalWrite g_SFInfo u32BWAddr zeroBytes cfgBkwBlockSize)) at ops
  rw [ops, applyAll_append, applyAll_append, applyAll_append,
    applyAll_eraseBlock placement.aligned placement.blockRoom, target.applyAll_eq,
    program_congr _ same, applyAll_eraseHeader area, zeros.applyAll_eq]
  exact eraseHeader_settled placement shielded ready.located (.refl)

end

theorem recovered_settled (recovered : Recovered para image after)
    (start : Ready para u32BWAddr u32PhyAddr content image ∨
      Settled para u32PhyAddr content image) :
    Settled para u32PhyAddr content after := by
  induction recovered with
  | complete =>
    rcases start with ready | settled
    · exact complete_restore placement shielded ready
    · rwa [applyAll_of_quiet settled.quiet]
  | again cut _ ih =>
    apply ih
    rcases start with ready | settled
    · exact cut_restore placement shielded ready cut
    · rw [settled.quiet] at cut
      rw [cut_nil cut]
      exact .inr settled

end

end

/-! ### The first half of a flush -/

section

variable {para : Para} {u32BWAddr u32PhyAddr : Nat} {content image after : Nat → UInt8}

def erasedArea (u32BWAddr : Nat) (image : Nat → UInt8) : Nat → UInt8 :=
  eraseRun g_SFInfo image (u32BWAddr % 2 ^ 28)
    ((u32BWAddr % 2 ^ 28 + 8191) / 4096 + 1 - u32BWAddr % 2 ^ 28 / 4096)

theorem eraseRun_outside
    (most : done ≤ (u32BWAddr % 2 ^ 28 + 8191) / 4096 + 1 - u32BWAddr % 2 ^ 28 / 4096)
    (outside : ¬InBackupArea u32BWAddr a) :
    eraseRun g_SFInfo image (u32BWAddr % 2 ^ 28) done a = image a := by
  unfold InBackupArea at outside
  exact if_neg (by rw [g_SFInfo_sectorSize]; omega)

theorem erasedArea_blank {index : Nat} (below : index < 8192) :
    erasedArea u32BWAddr image (u32BWAddr % 2 ^ 28 + index) = blank :=
  if_pos (by rw [g_SFInfo_sectorSize]; omega)

theorem writeCopy_programs (data : Nat → UInt8) (room : u32BWAddr % 2 ^ 28 + 8192 ≤ 2 ^ 24) :
    Programs g_SFInfo
      (hsCfgHalWrite g_SFInfo (u32 (u32BWAddr + cfgBkwBlockSize)) data cfgBkwBlockSize)
      (u32BWAddr % 2 ^ 28 + 4096) 4096 data := by
  have programs := @writeBlock_programs data _ (by rw [copyAddress room]; omega)
  rwa [copyAddress room] at programs

def backedUp (u32BWAddr u32PhyAddr : Nat) (content image : Nat → UInt8) (done : Nat) :
    Nat → UInt8 :=
  program (program (erasedArea u32BWAddr image) (u32BWAddr % 2 ^ 28 + 4096) 4096 content)
    (u32BWAddr % 2 ^ 28) done (bkwInfo u32PhyAddr).bytes

theorem backedUp_outside (most : done ≤ 16) (outside : ¬InBackupArea u32BWAddr a) :
    backedUp u32BWAddr u32PhyAddr content image done a = image a := by
  have unchanged : erasedArea u32BWAddr image a = image a :=
    eraseRun_outside (.refl) outside
  unfold InBackupArea at outside
  rw [backedUp, program_outside _ (by omega), program_outside _ (by omega), unchanged]

section

variable (placement : Placement para u32BWAddr u32PhyAddr)
  (located : bawOffset para image = .ok u32BWAddr)
include placement located

theorem located_after (outside : ∀ a, ¬InBackupArea u32BWAddr a → after a = image a) :
    bawOffset para after = .ok u32BWAddr := by
  have apart := placement.indexOutside
  unfold InBackupArea at apart outside
  exact bawOffset_kept located fun a sector => outside a (by omega)

theorem backedUp_ready :
    Ready para u32BWAddr u32PhyAddr content (backedUp u32BWAddr u32PhyAddr content image 16) := by
  refine ⟨located_after placement located fun a => backedUp_outside (.refl), ?_, ?_⟩
  · intro index below
    apply program_blank _ below
    intro other less
    rw [program_outside _ (by omega)]
    exact erasedArea_blank (by omega)
  · intro index below
    rw [backedUp, program_outside _ (by omega)]
    apply program_blank _ below
    intro other less
    rw [add_assoc]
    exact erasedArea_blank (by omega)

theorem backedUp_quiet (early : done < 16) :
    Quiet para (backedUp u32BWAddr u32PhyAddr content image done) := by
  apply quiet_of_invalid (located_after placement located fun a => backedUp_outside (by omega))
  apply ofBytes_invalid_of_sum
  rw [hsCfgHalRead, backedUp, program_outside _ (by omega), program_outside _ (by omega)]
  exact erasedArea_blank (by omega)

theorem cut_backup (invalid : (ofBytes (hsCfgHalRead image u32BWAddr)).valid = false)
    (cut : Cut g_SFInfo (blockwrBackup u32BWAddr u32PhyAddr content) image after) :
    (∀ a, ¬InBackupArea u32BWAddr a → after a = image a) ∧
      (Quiet para after ∨ Ready para u32BWAddr u32PhyAddr content after) := by
  have room := placement.areaRoom
  have quietOf (outside : ∀ a, ¬InBackupArea u32BWAddr a → after a = image a)
      (cleared : after (u32BWAddr % 2 ^ 28) = blank) : Quiet para after := by
    apply quiet_of_invalid (located_after placement located outside)
    apply ofBytes_invalid_of_flag
    rw [hsCfgHalRead, add_zero, cleared]
    decide
  rcases cut_append cut with inErase | afterErase
  · obtain ⟨done, most, reached⟩ := cut_eraseArea room inErase
    cases done with
    | zero =>
      rw [eraseRun_zero] at reached
      subst reached
      exact ⟨fun _ _ => rfl, .inl (quiet_of_invalid located invalid)⟩
    | succ done =>
      have outside : ∀ a, ¬InBackupArea u32BWAddr a → after a = image a := by
        intro a off
        rw [reached]
        exact eraseRun_outside most off
      refine ⟨outside, .inl (quietOf outside ?_)⟩
      rw [reached]
      exact if_pos (by rw [g_SFInfo_sectorSize]; omega)
  · rw [applyAll_eraseArea room] at afterErase
    rcases cut_append afterErase with inCopy | afterCopy
    · obtain ⟨done, most, reached⟩ := (writeCopy_programs content room).cut inCopy
      have outside : ∀ a, ¬InBackupArea u32BWAddr a → after a = image a := by
        intro a off
        have unchanged : erasedArea u32BWAddr image a = image a :=
          eraseRun_outside (.refl) off
        unfold InBackupArea at off
        rwa [reached, program_outside _ (by omega)]
      refine ⟨outside, .inl (quietOf outside ?_)⟩
      rw [reached, program_outside _ (by omega)]
      exact @erasedArea_blank _ image 0 (by omega)
    · rw [(writeCopy_programs content room).applyAll_eq] at afterCopy
      obtain ⟨done, most, reached⟩ :=
        (writeHeader_programs (bkwInfo u32PhyAddr).bytes (by omega)).cut afterCopy
      have shape := reached
      rw [shape]
      refine ⟨fun a => backedUp_outside most, ?_⟩
      rcases lt_or_ge done 16 with early | whole
      · exact .inl (backedUp_quiet placement located early)
      · obtain rfl : done = 16 := by omega
        exact .inr (backedUp_ready placement located)

end

theorem applyAll_backup (room : u32BWAddr % 2 ^ 28 + 8192 ≤ 2 ^ 24) :
    applyAll g_SFInfo image (blockwrBackup u32BWAddr u32PhyAddr content) =
      backedUp u32BWAddr u32PhyAddr content image 16 := by
  rw [blockwrBackup, applyAll_append, applyAll_append,
    applyAll_eraseArea room, (writeCopy_programs content room).applyAll_eq,
    (writeHeader_programs (bkwInfo u32PhyAddr).bytes (by omega)).applyAll_eq]
  rfl

end

theorem applyAll_blockwr {para : Para} {u32BWAddr u32PhyAddr : Nat} {content image : Nat → UInt8}
    (located : bawOffset para image = .ok u32BWAddr)
    (areaRoom : u32BWAddr % 2 ^ 28 + 8192 ≤ 2 ^ 24) (aligned : u32PhyAddr % 4096 = 0)
    (blockRoom : u32PhyAddr % 2 ^ 28 + 4096 ≤ 2 ^ 24) (outside : ¬InBackupArea u32BWAddr a) :
    applyAll g_SFInfo image (cfgCachememBlockwr para image u32PhyAddr content).2 a =
      if InBlock u32PhyAddr a then content (a - u32PhyAddr % 2 ^ 28) else image a := by
  have unchanged : backedUp u32BWAddr u32PhyAddr content image 16 a = image a :=
    backedUp_outside (.refl) outside
  simp only [cfgCachememBlockwr, located]
  rw [applyAll_append, applyAll_backup areaRoom, blockwrTarget, applyAll_append,
    applyAll_append, applyAll_eraseBlock aligned blockRoom,
    (writeBlock_programs content blockRoom).applyAll_eq,
    (writeHeader_programs zeroBytes (by omega)).applyAll_eq]
  rw [program_outside _ (by unfold InBackupArea at outside; omega)]
  split
  · next inside =>
    unfold InBlock at inside
    have holds := @rewritten_holds _ content
      (backedUp u32BWAddr u32PhyAddr content image 16) aligned
      (a - u32PhyAddr % 2 ^ 28) (by omega)
    rwa [add_sub_of_le (by omega)] at holds
  · next inside =>
    rw [← unchanged]
    exact partly_outside aligned (.refl) inside

/-! ### A flush that is cut -/

/-- Whatever number of primitives was done and however often recovery was cut, the block
ends with its old or its new content, and with the new one if the header was complete. -/
def FlushAtomic (para : Para) (image : Nat → UInt8) (u32PhyAddr : Nat) (content : Nat → UInt8) :
    Prop :=
  ∀ done after, Recovered para
      (applyAll g_SFInfo image ((cfgCachememBlockwr para image u32PhyAddr content).2.take done))
      after →
    (HoldsBlock u32PhyAddr (hsCfgHalRead image u32PhyAddr) after ∨
      HoldsBlock u32PhyAddr content after) ∧
    (∀ u32BWAddr, bawOffset para image = .ok u32BWAddr →
      (blockwrBackup u32BWAddr u32PhyAddr content).length ≤ done →
      HoldsBlock u32PhyAddr content after) ∧
    applyAll g_SFInfo after (cfgCachememRestore para after).2 = after

section

variable {para : Para} {u32BWAddr u32PhyAddr : Nat} {content image after : Nat → UInt8}

section

variable (placement : Placement para u32BWAddr u32PhyAddr)
include placement

section

variable (shielded : Shielded para u32PhyAddr content)
include shielded

theorem cut_target (ready : Ready para u32BWAddr u32PhyAddr content image)
    (cut : Cut g_SFInfo (blockwrTarget u32BWAddr u32PhyAddr content) image after) :
    Ready para u32BWAddr u32PhyAddr content after ∨ Settled para u32PhyAddr content after := by
  have area := placement.areaRoom
  have rewriteCut := cut_rewrite placement shielded ready (fun _ _ => rfl) cut
  rcases rewriteCut with early | late
  · exact early
  · obtain ⟨done, _, reached⟩ := (writeHeader_programs zeroBytes (by omega)).cut late
    rw [reached]
    cases done with
    | zero =>
      rw [program_zero]
      exact rewritten_ready placement shielded ready
    | succ done =>
      right
      apply cleared_settled placement shielded ready.located
      · intro _ offArea
        unfold InBackupArea at offArea
        rw [program_outside _ (by omega)]
      · -- One zero byte over the flag is enough to make the header invalid.
        rw [program_inside _ (.refl) (by omega), zeroBytes, UInt8.and_zero]
        decide

variable {mid : Nat → UInt8}

theorem recovered_backup (located : bawOffset para image = .ok u32BWAddr)
    (invalid : (ofBytes (hsCfgHalRead image u32BWAddr)).valid = false)
    (cut : Cut g_SFInfo (blockwrBackup u32BWAddr u32PhyAddr content) image mid)
    (recovered : Recovered para mid after) :
    (HoldsBlock u32PhyAddr (hsCfgHalRead image u32PhyAddr) after ∨
      HoldsBlock u32PhyAddr content after) ∧ Quiet para after := by
  have apart := placement.blockOutside
  have aligned := placement.aligned
  obtain ⟨outside, quiet | ready⟩ := cut_backup placement located invalid cut
  · obtain rfl := recovered_of_quiet recovered quiet
    refine ⟨.inl fun index below => outside _ ?_, quiet⟩
    unfold InBackupArea at apart ⊢
    omega
  · have settled := recovered_settled placement shielded recovered (.inl ready)
    exact ⟨.inr settled.holds, settled.quiet⟩

theorem recovered_target (located : bawOffset para image = .ok u32BWAddr)
    (cut : Cut g_SFInfo (blockwrTarget u32BWAddr u32PhyAddr content)
      (applyAll g_SFInfo image (blockwrBackup u32BWAddr u32PhyAddr content)) mid)
    (recovered : Recovered para mid after) : Settled para u32PhyAddr content after := by
  rw [applyAll_backup placement.areaRoom] at cut
  have ready := @backedUp_ready para _ _ content image placement located
  exact recovered_settled placement shielded recovered (cut_target placement shielded ready cut)

end

theorem flushAtomic_of_shielded (located : bawOffset para image = .ok u32BWAddr)
    (invalid : (ofBytes (hsCfgHalRead image u32BWAddr)).valid = false)
    (shielded : Shielded para u32PhyAddr content) : FlushAtomic para image u32PhyAddr content := by
  intro done _ recovered
  have ops : (cfgCachememBlockwr para image u32PhyAddr content).2 =
      blockwrBackup u32BWAddr u32PhyAddr content ++ blockwrTarget u32BWAddr u32PhyAddr content := by
    simp only [cfgCachememBlockwr, located]
  rw [ops, take_append] at recovered
  by_cases early : done < (blockwrBackup u32BWAddr u32PhyAddr content).length
  · have none : done - (blockwrBackup u32BWAddr u32PhyAddr content).length = 0 := by omega
    rw [none, take_zero, append_nil] at recovered
    obtain ⟨holds, quiet⟩ :=
      recovered_backup placement shielded located invalid ⟨done, rfl⟩ recovered
    refine ⟨holds, fun other found late => ?_, applyAll_of_quiet quiet⟩
    obtain rfl : u32BWAddr = other := Except.ok.inj (located.symm.trans found)
    omega
  · rw [take_of_length_le (by omega), applyAll_append] at recovered
    have settled := recovered_target placement shielded located ⟨_, rfl⟩ recovered
    exact ⟨.inr settled.holds, fun _ _ _ => settled.holds, applyAll_of_quiet settled.quiet⟩

theorem shielded_of_flushAtomic (located : bawOffset para image = .ok u32BWAddr)
    (atomic : FlushAtomic para image u32PhyAddr content) : Shielded para u32PhyAddr content := by
  by_cases inside : InBlock u32PhyAddr (bawEntry para)
  · right
    intro index below
    let erased := eraseRun g_SFInfo (backedUp u32BWAddr u32PhyAddr content image 16)
      (u32PhyAddr % 2 ^ 28) 1
    have blankBlock : ∀ index < 4096, erased (u32PhyAddr % 2 ^ 28 + index) = blank :=
      fun _ less => erasedBlock placement.aligned less
    have quiet : Quiet para erased := quiet_of_error (lost_of_blank placement inside blankBlock)
    have reached : applyAll g_SFInfo image
        ((cfgCachememBlockwr para image u32PhyAddr content).2.take
          (blockwrBackup u32BWAddr u32PhyAddr content ++
            hsCfgHalErase g_SFInfo u32PhyAddr cfgBkwBlockSize).length) = erased := by
      simp only [cfgCachememBlockwr, located]
      rw [blockwrTarget, ← append_assoc, take_left, applyAll_append,
        applyAll_backup placement.areaRoom,
        applyAll_eraseBlock placement.aligned placement.blockRoom]
    have recovered : Recovered para erased erased := by
      have complete := @Recovered.complete para erased
      rwa [applyAll_of_quiet quiet] at complete
    have promise := atomic _ erased (reached.substr recovered)
    have new := promise.2.1 u32BWAddr located (by rw [length_append]; omega)
    rw [← new index below]
    exact blankBlock index below
  · exact .inl inside

end

theorem flushAtomic_of_error {code : CfgRes} (lost : bawOffset para image = .error code) :
    FlushAtomic para image u32PhyAddr content := by
  intro _ _ recovered
  have quiet : Quiet para image := quiet_of_error lost
  simp only [cfgCachememBlockwr, lost, take_nil, applyAll_nil] at recovered
  obtain rfl := recovered_of_quiet recovered quiet
  refine ⟨.inl fun _ _ => rfl, fun other found => ?_, applyAll_of_quiet quiet⟩
  rw [lost] at found
  cases found

end

/-- A flush is atomic under power cuts exactly when the block it rewrites does
not carry the index entry of the backup area, or its new content is blank. -/
theorem flushAtomic_iff_shielded {para : Para} {image : Nat → UInt8} {u32PhyAddr : Nat}
    {content : Nat → UInt8} (layout : ∀ u32BWAddr, bawOffset para image = .ok u32BWAddr →
      Placement para u32BWAddr u32PhyAddr ∧
        (HsCfgBkw.ofBytes (hsCfgHalRead image u32BWAddr)).valid = false) :
    FlushAtomic para image u32PhyAddr content ↔
      ∀ u32BWAddr, bawOffset para image = .ok u32BWAddr → Shielded para u32PhyAddr content := by
  constructor
  · intro atomic u32BWAddr located
    exact shielded_of_flushAtomic (layout u32BWAddr located).1 located atomic
  · intro shielded
    cases found : bawOffset para image with
    | error => exact flushAtomic_of_error found
    | ok u32BWAddr =>
      obtain ⟨placement, invalid⟩ := layout u32BWAddr found
      exact flushAtomic_of_shielded placement found invalid (shielded u32BWAddr found)

/-! A board with an index table at `0x20000` whose second entry places the
backup area at `0x22008`; everything else is blank. -/

def boardPara : Para :=
  { rwLmaEnd := 0x20000
    bValid := true
    u32BodyOffset := 0 }

def boardFlash : Nat → UInt8 := fun a =>
  if a = 0x20003 ∨ a = 0x20005 then 0 else if a = 0x20004 then 0x80 else blank

theorem boardFlash_bawOffset : bawOffset boardPara boardFlash = .ok 0x22008 := rfl

theorem boardFlash_layout {u32PhyAddr : Nat}
    (placement : Placement boardPara 0x22008 u32PhyAddr) (u32BWAddr : Nat)
    (located : bawOffset boardPara boardFlash = .ok u32BWAddr) :
    Placement boardPara u32BWAddr u32PhyAddr ∧
      (ofBytes (hsCfgHalRead boardFlash u32BWAddr)).valid = false := by
  obtain rfl : 0x22008 = u32BWAddr := Except.ok.inj (boardFlash_bawOffset.symm.trans located)
  exact ⟨placement, ofBytes_invalid_of_flag (by decide)⟩

theorem flushAtomic_data_block : FlushAtomic boardPara boardFlash 0x21000 zeroBytes := by
  have placement : Placement boardPara 0x22008 0x21000 :=
    { areaRoom := by decide
      indexOutside := by decide
      bounded := by decide
      aligned := by decide
      blockRoom := by decide
      blockOutside := by decide }
  exact (flushAtomic_iff_shielded (boardFlash_layout placement)).mpr fun _ _ => .inl (by decide)

/-- Flushing the block of the index table itself is not atomic. -/
theorem not_flushAtomic_index_block : ¬FlushAtomic boardPara boardFlash 0x20000 zeroBytes := by
  intro atomic
  have placement : Placement boardPara 0x22008 0x20000 :=
    { areaRoom := by decide
      indexOutside := by decide
      bounded := by decide
      aligned := by decide
      blockRoom := by decide
      blockOutside := by decide }
  rcases shielded_of_flushAtomic placement boardFlash_bawOffset atomic with apart | erased
  · exact apart rfl
  · exact absurd (erased 0 (by decide)) (by decide)

end Hfirmware.Config
