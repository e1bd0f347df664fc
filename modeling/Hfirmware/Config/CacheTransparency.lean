/-
The configuration store as a flat byte array.
-/

import Hfirmware.GuardedRun
import Hfirmware.Config.CacheCoherence
import Hfirmware.Config.PowerFail

namespace Hfirmware.Config

open List Nat ByteImage BlockWalk GuardedRun NorFlash

def cfgWindow (para : Para) : Nat := cfgGetBase para / 2 ^ 28 * 2 ^ 28

theorem cfgWindow_isWindow (para : Para) : IsWindow (cfgWindow para) := by
  have bounded : cfgGetBase para < 2 ^ 32 :=
    lt_of_le_of_lt (div_mul_le_self _ _) (u32_lt _)
  unfold cfgWindow IsWindow
  omega

def Kept (para : Para) (image : Nat → UInt8) (a : Nat) : Prop :=
  ∀ u32BWAddr, bawOffset para image = .ok u32BWAddr → ¬InBackupArea u32BWAddr (a % 2 ^ 28)

def AreaPlaced (para : Para) (image : Nat → UInt8) : Prop :=
  ∀ u32BWAddr, bawOffset para image = .ok u32BWAddr →
    u32BWAddr % 2 ^ 28 + 8192 ≤ 2 ^ 24 ∧ ¬InBackupArea u32BWAddr (bawEntry para)

inductive Request where
  | write (offset : Nat) (pbuf : Nat → UInt8) (len : Nat)
  | read (offset len : Nat)
  | flush (type : FlushType)

structure Shadowed where
  store : Store
  flat : Nat → UInt8

def Shadowed.step (para : Para) (system : Shadowed) : Request → Shadowed
  | .write offset pbuf len =>
    { store :=
        match hsCfgWriteS system.store offset pbuf len with
        | some (_, after) => after
        | none => system.store
      flat := patch system.flat offset len pbuf }
  | .read _ _ => system
  | .flush type => { system with store := (hsCfgFlush para type system.store).2 }

def Shadowed.start (image : Nat → UInt8) (heap : List Bool) : Shadowed :=
  { store := { flash := image, cache := [], heap := heap }
    flat := fun a => image (a % 2 ^ 28) }

def Allowed (para : Para) (image : Nat → UInt8) (system : Shadowed) : Request → Prop
  | .write offset _ len =>
    Fits (cfgWindow para) offset len ∧ InOrder 4096 (phys system.store.cache) offset len ∧
      ∀ k < 3, ¬(offset ≤ cfgWindow para + bawEntry para + k ∧
        cfgWindow para + bawEntry para + k < offset + len)
  | .read offset len =>
    Fits (cfgWindow para) offset len ∧ InOrder 4096 (phys system.store.cache) offset len ∧
      ∀ a, offset ≤ a → a < offset + len → Kept para image a
  | .flush _ => True

/-- What the store promises: writes succeed, reads deliver the array, and after
a complete flush the flash holds it. -/
def Transparent (para : Para) (image : Nat → UInt8) (system : Shadowed) : Request → Prop
  | .write offset pbuf len => ∃ after, hsCfgWriteS system.store offset pbuf len = some (.ok, after)
  | .read offset len => ∀ pbuf, hsCfgReadS system.store offset pbuf len =
      some (patch pbuf 0 len fun index => system.flat (offset + index))
  | .flush .oneBlock => True
  | .flush .all => (hsCfgFlush para .all system.store).1 = .ok →
      ∀ a, cfgWindow para ≤ a → a < cfgWindow para + 2 ^ 24 → Kept para image a →
        (hsCfgFlush para .all system.store).2.flash (a - cfgWindow para) = system.flat a

structure Tracks (para : Para) (image flat : Nat → UInt8) (store : Store) : Prop where
  coherent : Coherent (cfgWindow para) (Kept para image) flat store.flash store.cache
  heap : ∀ outcome ∈ store.heap, outcome = true
  entry : ∀ k < 3, store.flash (bawEntry para + k) = image (bawEntry para + k)
  entryFlat : ∀ k < 3, flat (cfgWindow para + bawEntry para + k) = image (bawEntry para + k)

section

variable {para : Para} {image flat : Nat → UInt8} {store : Store}

theorem Tracks.bawOffset_eq (tracks : Tracks para image flat store) :
    bawOffset para store.flash = bawOffset para image :=
  bawOffset_congr para tracks.entry

theorem inBlock_iff {window start a : Nat} (base : IsWindow window)
    (aligned : start % 4096 = 0) (low : window ≤ start) (high : start < window + 2 ^ 24)
    (above : window ≤ a) : InBlock start (a - window) ↔ Covers 4096 start a := by
  unfold IsWindow at base
  unfold InBlock Covers
  omega

theorem bawEntry_lt (para : Para) {k : Nat} (below : k < 3) : bawEntry para + k < 2 ^ 28 := by
  have aligned := cfgGetBase_aligned para
  unfold bawEntry
  omega

theorem bawEntry_kept (placed : AreaPlaced para image) {k : Nat} (below : k < 3) :
    Kept para image (cfgWindow para + bawEntry para + k) := by
  intro u32BWAddr located
  have outside := (placed u32BWAddr located).2
  have sector := bawEntry_sector para below
  have base := (cfgWindow_isWindow para).1
  have inWindow := bawEntry_lt para below
  have address : (cfgWindow para + bawEntry para + k) % 2 ^ 28 = bawEntry para + k := by omega
  rw [address]
  unfold InBackupArea at outside ⊢
  rwa [sector]

section

variable {flash : Nat → UInt8} {block : CacheBlock} {rest : List CacheBlock} {heap : List Bool}
  {u32BWAddr : Nat}

section

variable (tracks : Tracks para image flat { flash := flash, cache := block :: rest, heap := heap })
  (placed : AreaPlaced para image) (located : bawOffset para image = .ok u32BWAddr)
include tracks placed located

theorem Tracks.blockwr_flash {a : Nat} (above : cfgWindow para ≤ a)
    (below : a < cfgWindow para + 2 ^ 28) (keep : Kept para image a) :
    applyAll g_SFInfo flash
        (cfgCachememBlockwr para flash block.u32PhyAddr block.u8VtCache).2 (a - cfgWindow para) =
      if Covers 4096 block.u32PhyAddr a then flat a else flash (a - cfgWindow para) := by
  have base := cfgWindow_isWindow para
  have sited := tracks.coherent.sited
  have aligned := sited.aligned block.u32PhyAddr (.head _)
  obtain ⟨low, _⟩ := sited.inside block.u32PhyAddr (.head _)
  have found := tracks.bawOffset_eq.trans located
  have blockRoom : block.u32PhyAddr % 2 ^ 28 + 4096 ≤ 2 ^ 24 := by
    unfold IsWindow at base
    omega
  have blockStart : block.u32PhyAddr % 2 ^ 28 = block.u32PhyAddr - cfgWindow para := by
    unfold IsWindow at base
    omega
  have address : a % 2 ^ 28 = a - cfgWindow para := by
    omega
  have outside := keep u32BWAddr located
  rw [address] at outside
  rw [applyAll_blockwr found (placed u32BWAddr located).1 aligned blockRoom outside]
  have iff := inBlock_iff base aligned low (by omega) above
  by_cases covers : Covers 4096 block.u32PhyAddr a
  · rw [if_pos covers, if_pos (iff.mpr covers), blockStart,
      ← tracks.coherent.cached block (.head _) a covers keep]
    exact congrArg block.u8VtCache (by omega)
  · rw [if_neg covers, if_neg (mt iff.mp covers)]

theorem Tracks.blockwr : Tracks para image flat
      { flash := applyAll g_SFInfo flash
          (cfgCachememBlockwr para flash block.u32PhyAddr block.u8VtCache).2
        cache := rest
        heap := heap } := by
  refine ⟨⟨tracks.coherent.sited.tail, ?_, ?_⟩, tracks.heap, ?_, tracks.entryFlat⟩
  · intro other member
    exact tracks.coherent.cached other (.tail _ member)
  · intro a above below keep uncovered
    refine (tracks.blockwr_flash placed located above (by omega) keep).trans ?_
    split
    · rfl
    · rename_i missed
      apply tracks.coherent.stored a above below keep
      exact forall_mem_cons.mpr ⟨missed, uncovered⟩
  · intro k below
    have entryBelow := bawEntry_lt para below
    have entryAfter := tracks.blockwr_flash placed located
      (show cfgWindow para ≤ cfgWindow para + bawEntry para + k by omega) (by omega)
      (bawEntry_kept placed below)
    have address : cfgWindow para + bawEntry para + k - cfgWindow para = bawEntry para + k := by
      omega
    rw [address] at entryAfter
    refine entryAfter.trans ?_
    split
    · exact tracks.entryFlat k below
    · exact tracks.entry k below

end

end

theorem cfgCachememCleanunit_ok_or_error (para : Para) (store : Store) :
    let after := cfgCachememCleanunit para store
    (after.1 = .ok ∧ after.2.cache = store.cache.tail) ∨ (after.1 ≠ .ok ∧ after.2 = store ∧
      ∃ code, bawOffset para store.flash = .error code) := by
  obtain ⟨flash, cache, _⟩ := store
  cases cache with
  | nil => exact .inl ⟨rfl, rfl⟩
  | cons =>
    cases found : bawOffset para flash with
    | error =>
      right
      simp [cfgCachememCleanunit, cfgCachememBlockwr, found]
    | ok =>
      left
      simp [cfgCachememCleanunit, cfgCachememBlockwr, found]

theorem Tracks.cleanunit (tracks : Tracks para image flat store) (placed : AreaPlaced para image) :
    Tracks para image flat (cfgCachememCleanunit para store).2 := by
  obtain ⟨_, cache, _⟩ := store
  cases cache with
  | nil => exact tracks
  | cons =>
    have same := tracks.bawOffset_eq
    cases found : bawOffset para image with
    | error =>
      rw [found] at same
      simpa [cfgCachememCleanunit, cfgCachememBlockwr, same] using tracks
    | ok =>
      have moved := tracks.blockwr placed found
      rw [found] at same
      simpa [cfgCachememCleanunit, cfgCachememBlockwr, same] using moved

theorem Tracks.cleanRounds (tracks : Tracks para image flat store)
    (placed : AreaPlaced para image) (count : Nat) :
    Tracks para image flat (cleanRounds para count store).2 := by
  induction count generalizing store with
  | zero => exact tracks
  | succ _ ih =>
    have unit := tracks.cleanunit placed
    simp only [Config.cleanRounds]
    split
    · exact ih unit
    · exact unit

theorem cleanRounds_ok_or_error (para : Para) (store : Store) {count : Nat}
    (enough : store.cache.length ≤ count) :
    let after := cleanRounds para count store
    (after.1 = .ok ∧ after.2.cache = []) ∨ (after.1 ≠ .ok ∧
        ∃ code, bawOffset para after.2.flash = .error code) := by
  induction count generalizing store with
  | zero => exact .inl ⟨rfl, length_eq_zero_iff.mp (le_zero.mp enough)⟩
  | succ count ih =>
    simp only [cleanRounds]
    split
    · rename_i succeeded
      rcases cfgCachememCleanunit_ok_or_error para store with ⟨_, popped⟩ | ⟨failed, _, _⟩
      · apply ih
        rw [popped, length_tail]
        omega
      · exact absurd succeeded failed
    · rename_i failed
      rcases cfgCachememCleanunit_ok_or_error para store with ⟨succeeded, _⟩ | ⟨_, unchanged, lost⟩
      · exact absurd succeeded failed
      · right
        rw [unchanged]
        exact ⟨failed, lost⟩

theorem hsCfgFlush_all_empties (succeeded : (hsCfgFlush para .all store).1 = .ok) :
    (hsCfgFlush para .all store).2.cache = [] := by
  have outcome : ((cfgCachememCleanall para store).1 = .ok ∧
        (cfgCachememCleanall para store).2.cache = []) ∨
      ((cfgCachememCleanall para store).1 ≠ .ok ∧
        ∃ code, bawOffset para (cfgCachememCleanall para store).2.flash = .error code) :=
    cleanRounds_ok_or_error para store (.refl)
  rcases outcome with ⟨cleaned, empty⟩ | ⟨failed, _⟩
  · simp only [hsCfgFlush, if_pos cleaned]
    exact empty
  · simp only [hsCfgFlush, if_neg failed] at succeeded
    exact absurd succeeded failed

theorem Tracks.flush (tracks : Tracks para image flat store) (placed : AreaPlaced para image)
    (type : FlushType) : Tracks para image flat (hsCfgFlush para type store).2 := by
  have recover {flushed : CfgRes × Store} (kept : Tracks para image flat flushed.2)
      (outcome : flushed.1 = .ok ∨ ∃ code, bawOffset para flushed.2.flash = .error code) :
      Tracks para image flat (if flushed.1 = .ok then flushed
        else
          (flushed.1, { flushed.2 with
            flash := applyAll g_SFInfo flushed.2.flash
              (cfgCachememRestore para flushed.2.flash).2 })).2 := by
    by_cases succeeded : flushed.1 = .ok
    · rwa [if_pos succeeded]
    · obtain ⟨code, lost⟩ := outcome.resolve_left succeeded
      rwa [if_neg succeeded, applyAll_of_quiet (quiet_of_error lost)]
  cases type with
  | oneBlock =>
    refine @recover (cfgCachememCleanunit para store) (tracks.cleanunit placed) ?_
    rcases cfgCachememCleanunit_ok_or_error para store with ⟨succeeded, _⟩ | ⟨_, unchanged, lost⟩
    · exact .inl succeeded
    · right
      rwa [unchanged]
  | all =>
    refine @recover _ (tracks.cleanRounds placed store.cache.length) ?_
    rcases cleanRounds_ok_or_error para store (.refl) with ⟨succeeded, _⟩ | ⟨_, lost⟩
    · exact .inl succeeded
    · exact .inr lost

end

theorem start_tracks (para : Para) (image : Nat → UInt8) {heap : List Bool}
    (succeed : ∀ outcome ∈ heap, outcome) :
    Tracks para image (Shadowed.start image heap).flat (Shadowed.start image heap).store := by
  have base := (cfgWindow_isWindow para).1
  refine ⟨⟨⟨?_, ?_, List.Pairwise.nil⟩, ?_, ?_⟩, succeed, fun _ _ => rfl, ?_⟩
  · intro start member
    cases member
  · intro start member
    cases member
  · intro _ member
    cases member
  · intro a low high _ _
    exact congrArg image (by omega)
  · intro k below
    have aligned := cfgGetBase_aligned para
    refine congrArg image ?_
    unfold bawEntry
    omega

theorem Tracks.step {para : Para} {image : Nat → UInt8} (placed : AreaPlaced para image)
    (system : Shadowed) (request : Request) (tracks : Tracks para image system.flat system.store)
    (allowed : Allowed para image system request) :
    Tracks para image (system.step para request).flat (system.step para request).store := by
  cases request with
  | write _ pbuf =>
    obtain ⟨fits, order, offEntry⟩ := allowed
    obtain ⟨_, written, wrote⟩ := @hsCfgWriteS_spec _ _ _ pbuf (cfgWindow_isWindow para) _ _ _
      tracks.coherent fits order tracks.heap
    simp only [Shadowed.step, written]
    refine ⟨wrote.coherent, wrote.heap, ?_, ?_⟩
    · rw [wrote.flash]
      exact tracks.entry
    · intro k below
      rw [patch_outside _ _ (offEntry k below)]
      exact tracks.entryFlat k below
  | read => exact tracks
  | flush type => exact tracks.flush placed type

theorem Tracks.transparent {para : Para} {image : Nat → UInt8} (placed : AreaPlaced para image)
    (system : Shadowed) (request : Request) (tracks : Tracks para image system.flat system.store)
    (allowed : Allowed para image system request) : Transparent para image system request := by
  cases request with
  | write _ pbuf =>
    obtain ⟨fits, order, _⟩ := allowed
    obtain ⟨after, written, _⟩ := @hsCfgWriteS_spec _ _ _ pbuf (cfgWindow_isWindow para) _ _ _
      tracks.coherent fits order tracks.heap
    exact ⟨after, written⟩
  | read =>
    obtain ⟨fits, order, keep⟩ := allowed
    intro pbuf
    exact hsCfgReadS_spec (cfgWindow_isWindow para) tracks.coherent fits order keep
  | flush type =>
    cases type with
    | oneBlock => trivial
    | all =>
      intro succeeded a low high keep
      have empty := hsCfgFlush_all_empties succeeded
      apply (tracks.flush placed .all).coherent.stored a low high keep
      rw [empty]
      intro _ member
      cases member

/-- In every run from an empty cache whose requests are all allowed, the store
behaves as the flat array. -/
theorem transparent_of_allowed (para : Para) (image : Nat → UInt8) (heap : List Bool)
    (requests : List Request) (placed : AreaPlaced para image)
    (succeed : ∀ outcome ∈ heap, outcome = true)
    (allowed : Along (Shadowed.step para) (Allowed para image) (Shadowed.start image heap)
      requests) :
    Along (Shadowed.step para) (Transparent para image) (Shadowed.start image heap) requests :=
  along_of_invariant (fun system request => Tracks.step placed system request)
    (fun system request => Tracks.transparent placed system request)
    (start_tracks para image succeed) allowed

theorem transparent_of_allowed_board :
    Along (Shadowed.step boardPara) (Transparent boardPara boardFlash)
      (Shadowed.start boardFlash [])
      [.write 0x31fff zeroBytes 2, .read 0x31fff 2, .flush .all] := by
  have placed : AreaPlaced boardPara boardFlash := by
    intro u32BWAddr located
    obtain rfl : 0x22008 = u32BWAddr := Except.ok.inj (boardFlash_bawOffset.symm.trans located)
    exact ⟨by decide, by decide⟩
  apply transparent_of_allowed boardPara boardFlash [] _ placed (by decide)
  refine ⟨⟨⟨by decide, by decide⟩, by decide, by decide⟩,
    ⟨⟨by decide, by decide⟩, by decide, ?_⟩, trivial, trivial⟩
  intro _ _ _ u32BWAddr located
  obtain rfl : 0x22008 = u32BWAddr := Except.ok.inj (boardFlash_bawOffset.symm.trans located)
  unfold InBackupArea
  omega

/-- Two neighbours cached in descending order, then a read across the boundary:
the byte of the upper block comes from the flash. -/
theorem not_transparent_descending :
    ¬Along (Shadowed.step boardPara) (Transparent boardPara boardFlash)
      (Shadowed.start boardFlash [])
      [.write 0x32000 zeroBytes 1, .write 0x31000 zeroBytes 1, .read 0x31fff 2] := by
  intro transparent
  have delivered := transparent.2.2.1 zeroBytes
  have second := congrArg (fun buffer => buffer.map fun bytes => bytes 1) delivered
  revert second
  decide

end Hfirmware.Config
