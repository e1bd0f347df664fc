/-
Memory of two kinds behind one pair of functions.
-/

import Hfirmware.Kernel.BitmapMemory

namespace Hfirmware.Kernel

open List Nat ByteImage GuardedRun

structure MemBlock where
  (p size : Nat)

def MemBlock.Has (block : MemBlock) (address : Nat) : Prop :=
  block.p ≤ address ∧ address < block.p + block.size

def MemBlock.Apart (first second : MemBlock) : Prop :=
  first.p + first.size ≤ second.p ∨ second.p + second.size ≤ first.p

/-- The block leaves out the addresses `0x1xxxxxxx`. -/
def MemBlock.Outside (block : MemBlock) : Prop :=
  block.p < 0x10000000 ∧ block.p + block.size ≤ 0x10000000 ∨ 0x20000000 ≤ block.p ∧ block.p < 2 ^ 32

structure KernelHeap where
  State : Type
  blocks : State → List MemBlock
  chHeapAlloc : State → Nat → Nat × State
  chHeapFree : State → Nat → State

structure KernelHeap.Correct (heap : KernelHeap) : Prop where
  null : ∀ state size, (heap.chHeapAlloc state size).1 = 0 →
    heap.blocks (heap.chHeapAlloc state size).2 = heap.blocks state
  taken : ∀ state size, (heap.chHeapAlloc state size).1 ≠ 0 →
    heap.blocks (heap.chHeapAlloc state size).2 =
      ⟨(heap.chHeapAlloc state size).1, size⟩ :: heap.blocks state
  fresh : ∀ state size, (heap.chHeapAlloc state size).1 ≠ 0 → ∀ other ∈ heap.blocks state,
    other.p ≠ (heap.chHeapAlloc state size).1 ∧
      MemBlock.Apart ⟨(heap.chHeapAlloc state size).1, size⟩ other
  outside : ∀ state size, (heap.chHeapAlloc state size).1 ≠ 0 →
    MemBlock.Outside ⟨(heap.chHeapAlloc state size).1, size⟩
  freed : ∀ state, ∀ block ∈ heap.blocks state, heap.blocks (heap.chHeapFree state block.p) =
      (heap.blocks state).filter fun other => other.p ≠ block.p

structure MemType where
  (general dma zero : Bool)

/-- Both allocators; the memory is that of the system `bus`. -/
structure Memory (heap : KernelHeap) where
  bus : BmemSystem
  general : heap.State

def mtGetTypeDma (ad : Nat) : Bool := ad / 2 ^ 28 * 2 ^ 28 = bmemBase

section

variable {heap : KernelHeap}

def Memory.byteAt (state : Memory heap) : Nat → UInt8 := state.bus.bmem.memory

def Memory.memset (state : Memory heap) (p : Nat) (value : UInt8) (size : Nat) : Memory heap :=
  { state with
    bus := { state.bus with
      bmem := { state.bus.bmem with memory := patch state.byteAt p size fun _ => value } } }

/-- `lib_bmem_alloc`, whose parameter has 16 bits. -/
def libBmemAlloc (state : Memory heap) (u32Size : Nat) : Nat × Memory heap :=
  ((osBmemAlloc state.bus.bmem (u16 u32Size)).1,
    { state with bus := state.bus.step (.alloc (u16 u32Size)) })

def mallocBlock (state : Memory heap) (u32Size : Nat) (type : MemType) : Nat × Memory heap :=
  let (p, first) :=
    if type.general then
      let (p, after) := heap.chHeapAlloc state.general u32Size
      (p, { state with general := after })
    else (0, state)
  if type.dma then libBmemAlloc first u32Size else (p, first)

def hsMalloc (state : Memory heap) (u32Size : Nat) (type : MemType) : Nat × Memory heap :=
  if type.general ∧ type.dma then (0, state)
  else
    let (p, after) := mallocBlock state u32Size type
    (p, if type.zero ∧ p ≠ 0 then after.memset p 0 u32Size else after)

def hsFree (state : Memory heap) (p : Nat) : Memory heap :=
  if p = 0 then state
  else if mtGetTypeDma p then { state with bus := state.bus.step (.free p) }
  else { state with general := heap.chHeapFree state.general p }

def Live.block (block : Live) : MemBlock :=
  { p := block.p
    size := block.extent.count * bmemUnit - bmemHeader }

def Memory.blocks (state : Memory heap) : List MemBlock :=
  heap.blocks state.general ++ state.bus.live.map Live.block

/-- `hs_malloc` returns a block of the requested size apart from all others, which keep
their bytes, and `hs_free` gives it back to its allocator. -/
structure MallocContract (state : Memory heap) (u32Size : Nat) (type : MemType) : Prop where
  room : (hsMalloc state u32Size type).1 ≠ 0 →
    ∃ block ∈ (hsMalloc state u32Size type).2.blocks, block.p = (hsMalloc state u32Size type).1 ∧
      u32Size ≤ block.size ∧ ∀ other ∈ state.blocks, block.Apart other
  kept : ∀ other ∈ state.blocks, ∀ a, other.Has a →
    (hsMalloc state u32Size type).2.byteAt a = state.byteAt a
  freed : (hsMalloc state u32Size type).1 ≠ 0 →
    (hsFree (hsMalloc state u32Size type).2 (hsMalloc state u32Size type).1).blocks = state.blocks
  returned : (hsMalloc state u32Size type).1 ≠ 0 →
    if type.dma then
      (hsFree (hsMalloc state u32Size type).2 (hsMalloc state u32Size type).1).general =
        (hsMalloc state u32Size type).2.general
    else
      (hsFree (hsMalloc state u32Size type).2 (hsMalloc state u32Size type).1).bus =
        (hsMalloc state u32Size type).2.bus

def Truncated (state : Memory heap) (u32Size : Nat) (type : MemType) : Prop :=
  type.general = false ∧ type.dma = true ∧ 2 ^ 16 ≤ u32Size ∧
    ClearRun state.bus.bmem.map 256 ((8 + u16 u32Size + 127) / 128)

inductive MemAction where
  | malloc (u32Size : Nat) (type : MemType)
  | free (p : Nat)
  | write (address : Nat) (value : UInt8)

def Memory.step (state : Memory heap) : MemAction → Memory heap
  | .malloc u32Size type => (hsMalloc state u32Size type).2
  | .free p => hsFree state p
  | .write address value => state.memset address value 1

def MemAllowed (state : Memory heap) : MemAction → Prop
  | .malloc u32Size type => ¬Truncated state u32Size type
  | .free p => p = 0 ∨ ∃ block ∈ state.blocks, block.p = p
  | .write address _ => ∃ block ∈ state.blocks, block.Has address

def Memory.start (memory : Nat → UInt8) (general : heap.State) : Memory heap :=
  { bus := BmemSystem.start memory
    general := general }

structure MemSound (state : Memory heap) : Prop where
  sound : Sound state.bus
  outside : ∀ block ∈ heap.blocks state.general, block.Outside

end

/-! ### Where blocks lie -/

variable {p : Nat} {live : Live}

section

variable {heap : KernelHeap} {state : Memory heap} {block other : MemBlock}

theorem Placed.block_end (placed : Placed live) :
    live.block.p + live.block.size = bmemBase + (live.extent.start + live.extent.count) * 128 := by
  have pointer := placed.pointer
  have some := placed.some
  simp only [Live.block, bmemUnit, bmemHeader]
  omega

theorem Placed.getTypeDma (placed : Placed live) : mtGetTypeDma live.p := by
  have pointer := placed.pointer
  have inside := placed.inside
  unfold mtGetTypeDma
  rw [decide_eq_true_eq, pointer]
  unfold bmemBase
  omega

theorem MemBlock.Outside.getTypeDma (outside : block.Outside) : mtGetTypeDma block.p = false := by
  unfold MemBlock.Outside at outside
  unfold mtGetTypeDma bmemBase
  rw [decide_eq_false_iff_not]
  omega

theorem MemBlock.Outside.apart (outside : block.Outside) (placed : Placed live) :
    block.Apart live.block := by
  have ends := placed.block_end
  have pointer : live.block.p = _ := placed.pointer
  have inside := placed.inside
  unfold MemBlock.Outside at outside
  unfold MemBlock.Apart
  unfold bmemBase at ends pointer
  omega

theorem MemBlock.Apart.symm (apart : block.Apart other) : other.Apart block := Or.symm apart

theorem MemBlock.Apart.not_both (apart : block.Apart other) {a : Nat} (inBlock : block.Has a) :
    ¬other.Has a := by
  unfold MemBlock.Has at *
  unfold MemBlock.Apart at apart
  omega

theorem MemSound.not_header (sound : MemSound state) (member : block ∈ state.blocks) {a : Nat}
    (inside : block.Has a) (present : live ∈ state.bus.live) {index : Nat}
    (below : index < 8) : a ≠ bmemBase + live.extent.start * 128 + index := by
  have placed := sound.sound.placed live present
  have within := placed.inside
  rcases mem_append.mp member with general | dma
  · have outside := sound.outside block general
    unfold MemBlock.Outside at outside
    unfold MemBlock.Has at inside
    unfold bmemBase
    omega
  · obtain ⟨owner, owned, rfl⟩ := mem_map.mp dma
    have ends := (sound.sound.placed owner owned).block_end
    have start : owner.block.p = _ := (sound.sound.placed owner owned).pointer
    unfold MemBlock.Has at inside
    by_cases same : live = owner
    · rw [same]
      omega
    · have apart := sound.sound.apart_of_ne present owned same
      unfold Extents.Apart at apart
      omega

theorem MemSound.memset (sound : MemSound state) (member : block ∈ state.blocks) {size : Nat}
    (inside : ∀ a, p ≤ a → a < p + size → block.Has a) (value : UInt8) :
    MemSound (state.memset p value size) := by
  refine ⟨{ sound.sound with header := ?_ }, sound.outside⟩
  intro live present
  apply (sound.sound.header live present).congr
  intro _ below
  change patch state.byteAt p size (fun _ => value) _ = state.byteAt _
  apply patch_outside
  rintro ⟨low, high⟩
  exact sound.not_header member (inside _ low high) present below rfl

end

section

variable {heap : KernelHeap} {state : Memory heap} {u32Size : Nat} {type : MemType}

inductive Taken (state : Memory heap) (u32Size : Nat) (type : MemType) : Nat → Memory heap → Prop
  | null (after : Memory heap) (bus : after.bus = state.bus)
      (blocks : heap.blocks after.general = heap.blocks state.general) :
      Taken state u32Size type 0 after
  | general (p : Nat) (some : p ≠ 0) (after : Memory heap) (kind : type.dma = false)
      (bus : after.bus = state.bus)
      (blocks : heap.blocks after.general = ⟨p, u32Size⟩ :: heap.blocks state.general)
      (fresh : ∀ other ∈ heap.blocks state.general, other.p ≠ p ∧ MemBlock.Apart ⟨p, u32Size⟩ other)
      (outside : MemBlock.Outside ⟨p, u32Size⟩) : Taken state u32Size type p after
  | dma (live : Live) (some : live.p ≠ 0) (after : Memory heap) (kind : type.dma = true)
      (alone : type.general = false) (size : live.u16Size = u16 u32Size)
      (bus : after.bus = state.bus.step (.alloc (u16 u32Size)))
      (blocks : after.bus.live = live :: state.bus.live)
      (general : after.general = state.general)
      (memory : ∀ a, (∀ index < 8, a ≠ bmemBase + live.extent.start * 128 + index) →
        after.byteAt a = state.byteAt a)
      (room : ClearRun state.bus.bmem.map 256 ((8 + u16 u32Size + 127) / 128)) :
      Taken state u32Size type live.p after

theorem mallocBlock_taken (correct : heap.Correct) (one : ¬(type.general ∧ type.dma)) :
    Taken state u32Size type (mallocBlock state u32Size type).1
      (mallocBlock state u32Size type).2 := by
  cases dma : type.dma with
  | true =>
    have alone : type.general = false := by
      cases general : type.general with
      | true => exact absurd ⟨general, dma⟩ one
      | false => rfl
    have bounded : u16 u32Size < 2 ^ 16 := mod_lt _ (by decide)
    simp only [mallocBlock, dma, alone, if_true, Bool.false_eq_true, if_false, libBmemAlloc]
    rcases osBmemAlloc_spec state.bus.bmem bounded with ⟨start, inside, clear, taken⟩ | refused
    · rw [taken]
      have some : bmemBase + start * 128 + 8 ≠ 0 := by omega
      refine .dma ⟨bmemBase + start * 128 + 8, u16 u32Size⟩ some _ dma alone rfl rfl ?_ rfl ?_ ?_
      · simp only [BmemSystem.step, taken, if_neg some]
      · intro a notHeader
        have extent : (Live.extent ⟨bmemBase + start * 128 + 8, u16 u32Size⟩).start = start := by
          simp only [Live.extent, bmemHeader, bmemUnit]
          omega
        have apart : ¬(bmemBase + start * 128 ≤ a ∧ a < bmemBase + start * 128 + 8) := by
          rintro ⟨low, high⟩
          exact notHeader (a - (bmemBase + start * 128)) (by omega) (by omega)
        simp only [Memory.byteAt, BmemSystem.step, taken, takeBlock]
        rw [patch_outside _ _ (by omega), patch_outside _ _ (by omega)]
      · rw [← bmemUnits_eq bounded]
        exact ⟨start, inside, clear⟩
    · rw [refused.2]
      apply Taken.null
      · simp only [BmemSystem.step, refused.2, if_true]
      · rfl
  | false =>
    cases general : type.general with
    | false =>
      simp only [mallocBlock, dma, general, Bool.false_eq_true, if_false]
      exact .null state rfl rfl
    | true =>
      simp only [mallocBlock, dma, general, if_true, Bool.false_eq_true, if_false]
      by_cases null : (heap.chHeapAlloc state.general u32Size).1 = 0
      · rw [null]
        exact .null _ rfl (correct.null _ _ null)
      · exact .general _ null _ dma rfl (correct.taken _ _ null) (correct.fresh _ _ null)
          (correct.outside _ _ null)

structure Fresh (state : Memory heap) (u32Size : Nat) (p : Nat) (after : Memory heap)
    (block : MemBlock) : Prop where
  sound : MemSound after
  pointer : block.p = p
  member : block ∈ after.blocks
  large : u32Size ≤ block.size
  apart : ∀ other ∈ state.blocks, block.Apart other
  bytes : ∀ other ∈ state.blocks, ∀ a, other.Has a → after.byteAt a = state.byteAt a

variable {after : Memory heap}

theorem fresh_general (sound : MemSound state) (bus : after.bus = state.bus)
    (blocks : heap.blocks after.general = ⟨p, u32Size⟩ :: heap.blocks state.general)
    (fresh : ∀ other ∈ heap.blocks state.general, other.p ≠ p ∧ MemBlock.Apart ⟨p, u32Size⟩ other)
    (outside : MemBlock.Outside ⟨p, u32Size⟩) : Fresh state u32Size p after ⟨p, u32Size⟩ := by
  refine ⟨⟨bus ▸ sound.sound, ?_⟩, rfl, ?_, .refl, ?_, ?_⟩
  · intro block member
    rw [blocks] at member
    rcases mem_cons.mp member with rfl | old
    · exact outside
    · exact sound.outside block old
  · apply mem_append_left
    rw [blocks]
    exact .head _
  · intro other member
    rcases mem_append.mp member with general | dma
    · exact (fresh other general).2
    · obtain ⟨live, present, rfl⟩ := mem_map.mp dma
      exact outside.apart (sound.sound.placed live present)
  · intro other _ _ _
    unfold Memory.byteAt
    rw [bus]

theorem fresh_dma (sound : MemSound state) (size : live.u16Size = u16 u32Size)
    (bus : after.bus = state.bus.step (.alloc (u16 u32Size)))
    (blocks : after.bus.live = live :: state.bus.live) (general : after.general = state.general)
    (memory : ∀ a, (∀ index < 8, a ≠ bmemBase + live.extent.start * 128 + index) →
      after.byteAt a = state.byteAt a)
    (whole : u32Size < 2 ^ 16) : Fresh state u32Size live.p after live.block := by
  have afterSound : Sound after.bus := bus ▸ sound.sound.alloc (mod_lt _ (by decide))
  have present : live ∈ after.bus.live := blocks ▸ (.head _)
  have placed := afterSound.placed live present
  have apart : ∀ other ∈ state.blocks, live.block.Apart other := by
    intro other member
    rcases mem_append.mp member with heapBlock | dma
    · exact ((sound.outside other heapBlock).apart placed).symm
    · obtain ⟨old, oldPresent, rfl⟩ := mem_map.mp dma
      have oldPlaced := sound.sound.placed old oldPresent
      have units := afterSound.apart
      rw [blocks, pairwise_cons] at units
      have unitsApart := units.1 old oldPresent
      have ends := placed.block_end
      have oldEnds := oldPlaced.block_end
      have start : live.block.p = _ := placed.pointer
      have oldStart : old.block.p = _ := oldPlaced.pointer
      unfold Extents.Apart at unitsApart
      unfold MemBlock.Apart
      omega
  have memSound : MemSound after := ⟨afterSound, general ▸ sound.outside⟩
  refine ⟨memSound, rfl, ?_, ?_, apart, ?_⟩
  · exact mem_append_right _ (mem_map_of_mem present)
  · have usable := placed.usable
    rw [size, u16_of_lt whole] at usable
    simp only [Live.block, bmemUnit, bmemHeader]
    omega
  · intro other member a inOther
    -- The allocator writes the header, which no block of a user has.
    have still : other ∈ after.blocks := by
      unfold Memory.blocks
      rw [general, blocks, map_cons]
      rcases mem_append.mp member with heapBlock | dma
      · exact mem_append_left _ heapBlock
      · exact mem_append_right _ (.tail _ dma)
    exact memory a fun index below => memSound.not_header still inOther present below

theorem Fresh.memset {block : MemBlock} (fresh : Fresh state u32Size p after block) :
    Fresh state u32Size p (after.memset p 0 u32Size) block := by
  have inside : ∀ a, p ≤ a → a < p + u32Size → block.Has a := by
    intro a low high
    have pointer := fresh.pointer
    have large := fresh.large
    exact ⟨by omega, by omega⟩
  refine { fresh with sound := fresh.sound.memset fresh.member inside 0, bytes := ?_ }
  intro other member a inOther
  rw [← fresh.bytes other member a inOther]
  change patch after.byteAt p u32Size (fun _ => 0) a = after.byteAt a
  apply patch_outside
  rintro ⟨low, high⟩
  exact (fresh.apart other member).not_both (inside a low high) inOther

theorem hsMalloc_run (one : ¬(type.general ∧ type.dma))
    (ran : mallocBlock state u32Size type = (p, after)) :
    ∃ last, hsMalloc state u32Size type = (p, last) ∧ last.bus.live = after.bus.live ∧
      last.general = after.general ∧
      (∀ block, Fresh state u32Size p after block → Fresh state u32Size p last block) ∧
      (p = 0 → last = after) := by
  rw [hsMalloc, if_neg one, ran]
  by_cases zero : type.zero ∧ p ≠ 0
  · refine ⟨after.memset p 0 u32Size, ?_, rfl, rfl, fun _ fresh => fresh.memset,
      fun null => absurd null zero.2⟩
    exact congrArg (p, ·) (if_pos zero)
  · exact ⟨after, congrArg (p, ·) (if_neg zero), rfl, rfl, fun _ => id, fun _ => rfl⟩

variable {last : Memory heap}

theorem freed_general (correct : heap.Correct) (some : p ≠ 0)
    (live : last.bus.live = state.bus.live)
    (blocks : heap.blocks last.general = ⟨p, u32Size⟩ :: heap.blocks state.general)
    (fresh : ∀ other ∈ heap.blocks state.general, other.p ≠ p)
    (outside : MemBlock.Outside ⟨p, u32Size⟩) :
    (hsFree last p).blocks = state.blocks ∧ (hsFree last p).bus = last.bus := by
  have kind := outside.getTypeDma
  have left := correct.freed last.general ⟨p, u32Size⟩ (blocks ▸ (.head _))
  have others : (heap.blocks state.general).filter (fun other => other.p ≠ p) =
      heap.blocks state.general :=
    filter_eq_self.mpr fun other member => by simpa using fresh other member
  rw [blocks, filter_cons_of_neg (by simp), others] at left
  rw [hsFree, if_neg some, kind]
  refine ⟨?_, rfl⟩
  change heap.blocks (heap.chHeapFree last.general p) ++ last.bus.live.map Live.block = _
  rw [left, live]
  rfl

theorem freed_dma (some : live.p ≠ 0) (sound : MemSound last)
    (blocks : last.bus.live = live :: state.bus.live) (general : last.general = state.general) :
    (hsFree last live.p).blocks = state.blocks ∧ (hsFree last live.p).general = last.general := by
  have present : live ∈ last.bus.live := blocks ▸ (.head _)
  have kind := (sound.sound.placed live present).getTypeDma
  have others : last.bus.live.filter (fun block => block.p ≠ live.p) = state.bus.live := by
    rw [blocks, filter_cons_of_neg (by simp)]
    apply filter_eq_self.mpr
    intro other member
    have apart := sound.sound.apart
    rw [blocks, pairwise_cons] at apart
    have different : other.p ≠ live.p := by
      intro same
      have oldPresent : other ∈ last.bus.live := blocks ▸ .tail _ member
      have equal := sound.sound.eq_of_pointer oldPresent present same
      have units := apart.1 other member
      have count := (sound.sound.placed other oldPresent).some
      rw [equal] at units count
      unfold Extents.Apart at units
      omega
    simpa using different
  rw [hsFree, if_neg some, kind]
  refine ⟨?_, rfl⟩
  change heap.blocks last.general ++ (last.bus.live.filter _).map Live.block = _
  rw [others, general]
  rfl

theorem contract_of_null (run : hsMalloc state u32Size type = (0, after))
    (bytes : after.byteAt = state.byteAt) : MallocContract state u32Size type := by
  constructor <;> rw [run]
  · exact fun some => absurd rfl some
  · exact fun _ _ a _ => congrFun bytes a
  · exact fun some => absurd rfl some
  · exact fun some => absurd rfl some

theorem contract_of_fresh {block : MemBlock}
    (run : hsMalloc state u32Size type = (p, last)) (fresh : Fresh state u32Size p last block)
    (freed : (hsFree last p).blocks = state.blocks)
    (returned : if type.dma then (hsFree last p).general = last.general
      else (hsFree last p).bus = last.bus) : MallocContract state u32Size type := by
  constructor <;> rw [run]
  · exact fun _ => ⟨block, fresh.member, fresh.pointer, fresh.large, fresh.apart⟩
  · exact fresh.bytes
  · exact fun _ => freed
  · exact fun _ => returned

theorem hsMalloc_whole (correct : heap.Correct) (sound : MemSound state)
    (whole : ¬Truncated state u32Size type) :
    MallocContract state u32Size type ∧ MemSound (hsMalloc state u32Size type).2 := by
  by_cases both : type.general ∧ type.dma
  · have refused : hsMalloc state u32Size type = (0, state) := by rw [hsMalloc, if_pos both]
    exact ⟨contract_of_null refused rfl, refused ▸ sound⟩
  · have taken := @mallocBlock_taken heap state u32Size type correct both
    obtain ⟨⟨_, _⟩, ran⟩ : ∃ result, mallocBlock state u32Size type = result := ⟨_, rfl⟩
    obtain ⟨last, run, sameLive, sameGeneral, zeroed, null⟩ := hsMalloc_run both ran
    rw [ran] at taken
    cases taken with
    | null _ bus blocks =>
      obtain rfl := null rfl
      have bytes : last.byteAt = state.byteAt := by
        unfold Memory.byteAt
        rw [bus]
      rw [run]
      exact ⟨contract_of_null run bytes, bus ▸ sound.sound, blocks ▸ sound.outside⟩
    | general _ some _ kind bus blocks fresh outside =>
      have new := zeroed _ (fresh_general sound bus blocks fresh outside)
      rw [bus] at sameLive
      rw [← sameGeneral] at blocks
      have freed := freed_general correct some sameLive blocks
        (fun other member => (fresh other member).1) outside
      refine ⟨contract_of_fresh run new freed.1 ?_, run ▸ new.sound⟩
      rw [kind]
      exact freed.2
    | dma _ some _ kind alone size bus blocks general memory room =>
      have small : u32Size < 2 ^ 16 := by
        by_contra large
        exact whole ⟨alone, kind, not_lt.mp large, room⟩
      have new := zeroed _ (fresh_dma sound size bus blocks general memory small)
      have freed := freed_dma some new.sound (sameLive.trans blocks) (sameGeneral.trans general)
      refine ⟨contract_of_fresh run new freed.1 ?_, run ▸ new.sound⟩
      rw [kind]
      exact freed.2

theorem not_contract_of_truncated (correct : heap.Correct) (sound : MemSound state)
    (truncated : Truncated state u32Size type) : ¬MallocContract state u32Size type := by
  obtain ⟨alone, kind, _, room⟩ := truncated
  have both : ¬(type.general ∧ type.dma) := by simp [alone]
  have bounded : u16 u32Size < 2 ^ 16 := mod_lt _ (by decide)
  have found := (osBmemAlloc_null_iff state.bus.bmem bounded).not.mpr (not_not.mpr room)
  have taken := @mallocBlock_taken heap state u32Size type correct both
  have first : (mallocBlock state u32Size type).1 =
      (osBmemAlloc state.bus.bmem (u16 u32Size)).1 := by
    simp only [mallocBlock, kind, if_true, libBmemAlloc]
    split <;> rfl
  intro contract
  have rooms := contract.room
  obtain ⟨⟨_, after⟩, ran⟩ : ∃ result, mallocBlock state u32Size type = result := ⟨_, rfl⟩
  obtain ⟨_, run, sameLive, sameGeneral, _⟩ := hsMalloc_run both ran
  rw [run, Memory.blocks, sameLive, sameGeneral] at rooms
  rw [← first] at found
  rw [ran] at taken found
  cases taken with
  | null => exact found rfl
  | general _ _ _ general => exact absurd (general.symm.trans kind) nofun
  | dma live _ _ _ _ _ bus blocks general _ _ =>
    have afterSound : Sound after.bus := bus ▸ sound.sound.alloc bounded
    have present : live ∈ after.bus.live := blocks ▸ (.head _)
    have placed := afterSound.placed live present
    obtain ⟨block, member, same, size, _⟩ := rooms found
    clear rooms
    rcases mem_append.mp member with heapBlock | dma
    · have outside := (sound.outside block (general ▸ heapBlock)).getTypeDma
      rw [same, placed.getTypeDma] at outside
      cases outside
    · obtain ⟨_, otherPresent, rfl⟩ := mem_map.mp dma
      obtain rfl := afterSound.eq_of_pointer otherPresent present same
      have inside := placed.inside
      simp only [Live.block, bmemUnit, bmemHeader] at size
      omega

end

theorem MemSound.free {heap : KernelHeap} {state : Memory heap} (correct : heap.Correct)
    (sound : MemSound state) (allowed : p = 0 ∨ ∃ block ∈ state.blocks, block.p = p) :
    MemSound (hsFree state p) := by
  by_cases null : p = 0
  · rwa [hsFree, if_pos null]
  · obtain ⟨block, member, rfl⟩ := allowed.resolve_left null
    rw [hsFree, if_neg null]
    rcases mem_append.mp member with general | dma
    · rw [(sound.outside block general).getTypeDma]
      refine ⟨sound.sound, ?_⟩
      intro other left
      change other ∈ heap.blocks (heap.chHeapFree state.general block.p) at left
      rw [correct.freed state.general block general] at left
      exact sound.outside other (mem_of_mem_filter left)
    · obtain ⟨live, present, rfl⟩ := mem_map.mp dma
      have kind : mtGetTypeDma live.block.p :=
        (sound.sound.placed live present).getTypeDma
      rw [kind]
      exact ⟨sound.sound.free (.inr ⟨live, present, rfl⟩), sound.outside⟩

theorem MemSound.step {heap : KernelHeap} (correct : heap.Correct) (state : Memory heap)
    (action : MemAction) (sound : MemSound state) (allowed : MemAllowed state action) :
    MemSound (state.step action) := by
  cases action with
  | malloc => exact (hsMalloc_whole correct sound allowed).2
  | free => exact sound.free correct allowed
  | write address _ =>
    obtain ⟨_, member, inside⟩ := allowed
    apply sound.memset member
    intro a _ _
    obtain rfl : a = address := by omega
    exact inside

/-- In every run of requests that are not truncated a request meets the contract exactly
if it is not truncated. -/
theorem malloc_contract (heap : KernelHeap) (correct : heap.Correct) (general : heap.State)
    (empty : heap.blocks general = []) (memory : Nat → UInt8) (actions : List MemAction)
    (allowed : Along Memory.step MemAllowed (Memory.start memory general) actions)
    (u32Size : Nat) (type : MemType) :
    MallocContract (actions.foldl Memory.step (Memory.start memory general)) u32Size type ↔
      ¬Truncated (actions.foldl Memory.step (Memory.start memory general)) u32Size type := by
  have initial : MemSound (Memory.start memory general) := by
    refine ⟨start_sound memory, ?_⟩
    intro block member
    change block ∈ heap.blocks general at member
    rw [empty] at member
    cases member
  have preserved := MemSound.step correct
  have sound := invariant_of_along preserved initial allowed
  constructor
  · exact fun contract truncated => not_contract_of_truncated correct sound truncated contract
  · exact fun whole => (hsMalloc_whole correct sound whole).1

/-! A kernel heap that serves one block at a time. -/

def oneBlockHeap : KernelHeap :=
  { State := Option Nat
    blocks := fun state => (state.map (MemBlock.mk 0x20000000)).toList
    chHeapAlloc := fun state size =>
      match state with
      | none => (0x20000000, some size)
      | some used => (0, some used)
    chHeapFree := fun state p => if p = 0x20000000 then none else state }

theorem oneBlockHeap_correct : oneBlockHeap.Correct := by
  constructor
  · intro state size null
    cases state with
    | none => cases null
    | some => rfl
  · intro state size taken
    cases state with
    | none => rfl
    | some => exact absurd rfl taken
  · intro state size taken _ member
    cases state with
    | none => cases member
    | some => exact absurd rfl taken
  · intro state size taken
    cases state with
    | none => exact .inr ⟨.refl, by change 0x20000000 < 2 ^ 32; decide⟩
    | some => exact absurd rfl taken
  · intro state block member
    cases state with
    | none => cases member
    | some used =>
      obtain rfl : block = ⟨0x20000000, used⟩ := mem_singleton.mp member
      rfl

theorem malloc_contract_second_block :
    MallocContract ([.malloc 100 ⟨true, false, true⟩, .malloc 300 ⟨false, true, true⟩].foldl
      Memory.step (Memory.start (fun _ => 0) none : Memory oneBlockHeap)) 4000
      ⟨false, true, true⟩ := by
  refine (malloc_contract oneBlockHeap oneBlockHeap_correct none rfl (fun _ => 0) _ ?_ 4000 _).mpr
    fun truncated => absurd truncated.2.2.1 (by decide)
  exact ⟨fun truncated => absurd truncated.1 nofun,
    fun truncated => absurd truncated.2.2.1 (by decide), trivial⟩

/-- A request of 65636 bytes of zeroed DMA memory gets a block for 100 bytes. -/
theorem malloc_contract_truncated :
    ¬MallocContract (Memory.start (fun _ => 0) none : Memory oneBlockHeap) 65636
      ⟨false, true, true⟩ := by
  apply not_contract_of_truncated oneBlockHeap_correct
  · exact ⟨start_sound _, nofun⟩
  · refine ⟨rfl, rfl, by decide, 0, by decide, ?_⟩
    intro unit _
    simp [Memory.start, BmemSystem.start, Used]

end Hfirmware.Kernel
