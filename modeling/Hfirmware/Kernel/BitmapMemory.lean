/-
The DMA memory allocator: 256 units of 128 bytes, one bit per unit in a map of eight
32-bit words.
-/

import Hfirmware.ByteImage
import Hfirmware.Extents
import Hfirmware.FixedWidth
import Hfirmware.GuardedRun

namespace Hfirmware.Kernel

open List Extents ByteImage GuardedRun

def bmemBase : Nat := 0x10000000

def bmemSize : Nat := 32 * 1024

def bmemUnit : Nat := 128

def bmemMapunit : Nat := 32

def bmemBitsize : Nat := bmemSize / bmemUnit

def bmemHeader : Nat := 8

/-- `g_u32BMemMap` and the memory that the allocator and its users write. -/
structure Bmem where
  map : Nat → BitVec 32
  memory : Nat → UInt8

def bitIsClear (map : Nat → BitVec 32) (unit : Nat) : Bool :=
  map (unit / bmemMapunit) &&& (1#32 <<< (unit % bmemMapunit)) == 0#32

def setBit (map : Nat → BitVec 32) (unit : Nat) : Nat → BitVec 32 := fun u16Os =>
  if u16Os = unit / bmemMapunit then map u16Os ||| (1#32 <<< (unit % bmemMapunit)) else map u16Os

def clearBit (map : Nat → BitVec 32) (unit : Nat) : Nat → BitVec 32 := fun u16Os =>
  if u16Os = unit / bmemMapunit then map u16Os &&& ~~~(1#32 <<< (unit % bmemMapunit))
  else map u16Os

def setBits (map : Nat → BitVec 32) : Nat → Nat → Nat → BitVec 32
  | _, 0 => map
  | unit, count + 1 => setBits (setBit map unit) (unit + 1) count

def clearBits (map : Nat → BitVec 32) : Nat → Nat → Nat → BitVec 32
  | _, 0 => map
  | unit, count + 1 => clearBits (clearBit map unit) (unit + 1) count

/-- The first loop of `_bmem_alloc` with `left` units to go: `u16Start` and
`u16Idle` when it ends. Meeting a used unit does not reset `u16Idle`. -/
def scan (map : Nat → BitVec 32) (u16Cnt : Nat) : Nat → Nat → Nat → Nat → Nat × Nat
  | 0, _, u16Start, u16Idle => (u16Start, u16Idle)
  | left + 1, unit, u16Start, u16Idle =>
    if bitIsClear map unit then
      let start := if u16Start = 0xffff then u16 unit else u16Start
      let idle := u16 ((if u16Start = 0xffff then 0 else u16Idle) + 1)
      if u16Cnt ≤ idle then (start, idle) else scan map u16Cnt left (unit + 1) start idle
    else if u16Cnt ≤ u16Idle then (0xffff, u16Idle)
    else scan map u16Cnt left (unit + 1) 0xffff u16Idle

def bmemUnits (u16Size : Nat) : Nat := u16 ((bmemHeader + u16Size + bmemUnit - 1) / bmemUnit)

def osBmemAlloc (bmem : Bmem) (u16Size : Nat) : Nat × Bmem :=
  if bmemSize ≤ u16Size then (0, bmem)
  else
    let u16Cnt := bmemUnits u16Size
    let (u16Start, u16Idle) := scan bmem.map u16Cnt bmemBitsize 0 0xffff 0
    if u16Start = 0xffff ∨ u16Idle < u16Cnt then (0, bmem)
    else
      let pstInfo := bmemBase + u16Start * bmemUnit
      (pstInfo + bmemHeader,
        { map := setBits bmem.map u16Start u16Cnt
          memory := patch (patch bmem.memory pstInfo 4 (wordBytes pstInfo)) (pstInfo + 4) 4
            (wordBytes u16Cnt) })

def osBmemFree (bmem : Bmem) (p : Nat) : Bmem :=
  if p = 0 then bmem
  else
    let pstInfo := u32Sub p bmemHeader
    if word bmem.memory pstInfo ≠ pstInfo then bmem
    else
      { bmem with
        map := clearBits bmem.map (u16 (u32Sub (word bmem.memory pstInfo) bmemBase / bmemUnit))
          (word bmem.memory (pstInfo + 4)) }

def infoScan (map : Nat → BitVec 32) : Nat → Nat → Nat → Nat × Nat
  | 0, _, _ => (0, 0)
  | left + 1, unit, u16F =>
    if bitIsClear map unit then
      let (u32Cnt, u32Idle) := infoScan map left (unit + 1) 0
      (if u16F ≠ 0 then u32Cnt + 1 else u32Cnt, u32Idle + 1)
    else infoScan map left (unit + 1) 1

def osBmemGetInfo (bmem : Bmem) : Nat × Nat :=
  let (u32Cnt, u32Idle) := infoScan bmem.map bmemBitsize 0 0
  (u32Cnt, u32 (u32Idle * bmemUnit))

def Used (map : Nat → BitVec 32) (unit : Nat) : Prop :=
  (map (unit / 32)).getLsbD (unit % 32) = true

instance (map : Nat → BitVec 32) (unit : Nat) : Decidable (Used map unit) :=
  inferInstanceAs (Decidable (_ = true))

open Extent

theorem getLsbD_unitBit {bit index : Nat} (bitBelow : bit < 32) :
    (1#32 <<< bit).getLsbD index = decide (index = bit) := by
  by_cases same : index = bit
  · simp [same, bitBelow]
  · by_cases low : index < bit
    · simp [low, same]
    · have apart : index - bit ≠ 0 := by omega
      simp [apart, same]

section

variable (map : Nat → BitVec 32)

theorem bitIsClear_iff (unit : Nat) : bitIsClear map unit ↔ ¬Used map unit := by
  have below : unit % 32 < 32 := Nat.mod_lt _ (by decide)
  unfold bitIsClear Used bmemMapunit
  rw [beq_iff_eq]
  constructor
  · intro clear set
    have bit := congrArg (fun bits => bits.getLsbD (unit % 32)) clear
    simp only [BitVec.getLsbD_and, getLsbD_unitBit below, set, BitVec.getLsbD_zero] at bit
    simp at bit
  · intro clear
    apply BitVec.eq_of_getLsbD_eq
    intro index _
    rw [BitVec.getLsbD_and, getLsbD_unitBit below, BitVec.getLsbD_zero]
    by_cases same : index = unit % 32
    · rw [same, Bool.eq_false_iff.mpr clear, Bool.false_and]
    · rw [decide_eq_false same, Bool.and_false]

theorem used_setBit (unit other : Nat) :
    Used (setBit map unit) other ↔ other = unit ∨ Used map other := by
  have below : unit % 32 < 32 := Nat.mod_lt _ (by decide)
  unfold Used setBit bmemMapunit
  by_cases word : other / 32 = unit / 32
  · rw [if_pos word, BitVec.getLsbD_or, getLsbD_unitBit below, Bool.or_eq_true, decide_eq_true_eq]
    have same : other % 32 = unit % 32 ↔ other = unit := by omega
    rw [same]
    exact or_comm
  · have different : other ≠ unit := by omega
    rw [if_neg word]
    exact (or_iff_right different).symm

theorem used_clearBit (unit other : Nat) :
    Used (clearBit map unit) other ↔ other ≠ unit ∧ Used map other := by
  have below : unit % 32 < 32 := Nat.mod_lt _ (by decide)
  have otherBelow : other % 32 < 32 := Nat.mod_lt _ (by decide)
  unfold Used clearBit bmemMapunit
  by_cases word : other / 32 = unit / 32
  · rw [if_pos word, BitVec.getLsbD_and, BitVec.getLsbD_not, getLsbD_unitBit below]
    simp only [Bool.and_eq_true, otherBelow, decide_true, Bool.true_and, Bool.not_eq_true',
      decide_eq_false_iff_not]
    have same : other % 32 = unit % 32 ↔ other = unit := by omega
    rw [same]
    exact and_comm
  · have different : other ≠ unit := by omega
    rw [if_neg word]
    exact (and_iff_right different).symm

end

theorem has_succ (start count unit : Nat) : (mk start (count + 1)).Has unit ↔
    (mk (start + 1) count).Has unit ∨ unit = start := by
  unfold Extent.Has
  dsimp only
  omega

theorem not_has_zero (start unit : Nat) : ¬(mk start 0).Has unit := by
  unfold Extent.Has
  dsimp only
  omega

theorem used_setBits (map : Nat → BitVec 32) (start count unit : Nat) :
    Used (setBits map start count) unit ↔ (mk start count).Has unit ∨ Used map unit := by
  induction count generalizing map start with
  | zero => exact (or_iff_right (not_has_zero start unit)).symm
  | succ _ ih => rw [setBits, ih, used_setBit, has_succ, or_assoc]

theorem used_clearBits (map : Nat → BitVec 32) (start count unit : Nat) :
    Used (clearBits map start count) unit ↔ ¬(mk start count).Has unit ∧ Used map unit := by
  induction count generalizing map start with
  | zero => exact (and_iff_right (not_has_zero start unit)).symm
  | succ _ ih => rw [clearBits, ih, used_clearBit, has_succ, not_or, and_assoc]

/-! ### The scans -/

/-- A run of `count` clear units inside the first `limit` ones. -/
def ClearRun (map : Nat → BitVec 32) (limit count : Nat) : Prop :=
  ∃ start, start + count ≤ limit ∧ ∀ unit, (Extent.mk start count).Has unit → ¬Used map unit

/-- A run of clear units that ends before `unit` and cannot be extended
downwards. -/
structure Running (map : Nat → BitVec 32) (unit start idle : Nat) : Prop where
  ends : start + idle = unit
  some : 0 < idle
  clear : ∀ other, (Extent.mk start idle).Has other → ¬Used map other
  maximal : start = 0 ∨ Used map (start - 1)

/-- What the scan knows before it looks at `unit`. The sentinel stands for no
current run; `u16Idle` is then left over from an earlier one. -/
structure Scanned (map : Nat → BitVec 32) (u16Cnt unit u16Start u16Idle : Nat) : Prop where
  short : u16Idle < u16Cnt
  none : ¬ClearRun map unit u16Cnt
  idle : u16Start = 0xffff → unit = 0 ∨ Used map (unit - 1)
  running : u16Start ≠ 0xffff → Running map unit u16Start u16Idle

section

variable {map : Nat → BitVec 32} {u16Cnt unit u16Start u16Idle : Nat}

section

variable (scanned : Scanned map u16Cnt unit u16Start u16Idle)
include scanned

theorem Scanned.used (used : Used map unit) : Scanned map u16Cnt (unit + 1) 0xffff u16Idle := by
  refine ⟨scanned.short, ?_, fun _ => .inr used, fun running => absurd rfl running⟩
  rintro ⟨start, _, clear⟩
  have short := scanned.short
  by_cases earlier : start + u16Cnt ≤ unit
  · exact scanned.none ⟨start, earlier, clear⟩
  · exact clear unit ⟨by dsimp only; omega, by dsimp only; omega⟩ used

theorem Scanned.extend (clear : ¬Used map unit) (inMap : unit < 256) :
    Running map (unit + 1) (if u16Start = 0xffff then u16 unit else u16Start)
      (u16 ((if u16Start = 0xffff then 0 else u16Idle) + 1)) := by
  by_cases sentinel : u16Start = 0xffff
  · have same : u16 unit = unit := Nat.mod_eq_of_lt (by omega)
    rw [if_pos sentinel, if_pos sentinel, same]
    refine ⟨rfl, one_pos, ?_, scanned.idle sentinel⟩
    rintro other ⟨low, high⟩
    dsimp only [u16] at low high
    obtain rfl : other = unit := by omega
    exact clear
  · obtain ⟨_, _, before, maximal⟩ := scanned.running sentinel
    have same : u16 (u16Idle + 1) = u16Idle + 1 := Nat.mod_eq_of_lt (by omega)
    rw [if_neg sentinel, if_neg sentinel, same]
    refine ⟨by omega, Nat.succ_pos _, ?_, maximal⟩
    rintro other ⟨low, high⟩
    dsimp only at low high
    by_cases last : other = unit
    · rwa [last]
    · exact before other ⟨low, by dsimp only; omega⟩

end

theorem Running.scanned {start idle : Nat} (running : Running map (unit + 1) start idle)
    (short : idle < u16Cnt) (none : ¬ClearRun map unit u16Cnt) (inMap : unit < 256) :
    Scanned map u16Cnt (unit + 1) start idle := by
  have ends := running.ends
  refine ⟨short, ?_, fun sentinel => absurd sentinel (by omega), fun _ => running⟩
  rintro ⟨other, _, clear⟩
  by_cases earlier : other + u16Cnt ≤ unit
  · exact none ⟨other, earlier, clear⟩
  · rcases running.maximal with first | used
    · omega
    · exact clear (start - 1) ⟨by dsimp only; omega, by dsimp only; omega⟩ used

theorem scan_spec {left : Nat} (inMap : unit + left = 256)
    (scanned : Scanned map u16Cnt unit u16Start u16Idle) :
    let after := scan map u16Cnt left unit u16Start u16Idle
    (∃ start, scan map u16Cnt left unit u16Start u16Idle = (start, u16Cnt) ∧ start + u16Cnt ≤ 256 ∧
      ∀ other, (mk start u16Cnt).Has other → ¬Used map other) ∨
    (¬ClearRun map 256 u16Cnt ∧ (after.1 = 0xffff ∨ after.2 < u16Cnt)) := by
  induction left generalizing unit u16Start u16Idle with
  | zero =>
    obtain rfl : unit = 256 := by omega
    exact .inr ⟨scanned.none, .inr scanned.short⟩
  | succ left ih =>
    rw [scan]
    split
    · next clear =>
      rw [bitIsClear_iff] at clear
      have running := scanned.extend clear (by omega)
      have grown : u16 ((if u16Start = 0xffff then 0 else u16Idle) + 1) ≤ u16Cnt := by
        have short := scanned.short
        unfold u16
        split <;> omega
      revert running grown
      generalize (if u16Start = 0xffff then u16 unit else u16Start) = start
      generalize u16 ((if u16Start = 0xffff then 0 else u16Idle) + 1) = idle
      intro running grown
      by_cases enough : u16Cnt ≤ idle
      · obtain rfl : idle = u16Cnt := by omega
        rw [if_pos enough]
        exact .inl ⟨start, rfl, by have := running.ends; omega, running.clear⟩
      · rw [if_neg enough]
        exact ih (by omega) (running.scanned (by omega) scanned.none (by omega))
    · next clear =>
      rw [if_neg scanned.short.not_ge]
      rw [bitIsClear_iff, not_not] at clear
      exact ih (by omega) (scanned.used clear)

end

theorem infoScan_idle (map : Nat → BitVec 32) (left unit u16F : Nat) :
    (infoScan map left unit u16F).2 = Nat.count (fun other => ¬Used map (unit + other)) left := by
  induction left generalizing unit u16F with
  | zero => rfl
  | succ left ih =>
    have shifted (other : Nat) : unit + 1 + other = unit + (other + 1) := by omega
    rw [infoScan, Nat.count_succ']
    split
    · next clear =>
      rw [bitIsClear_iff] at clear
      dsimp only
      rw [ih, if_pos (show ¬Used map (unit + 0) from clear)]
      simp only [shifted]
    · next clear =>
      rw [ih]
      rw [bitIsClear_iff] at clear
      rw [if_neg (show ¬¬Used map (unit + 0) from clear)]
      simp only [shifted]
      omega

variable {u16Size : Nat}

theorem bmemUnits_eq (bounded : u16Size < 2 ^ 16) :
    bmemUnits u16Size = (8 + u16Size + 127) / 128 := by
  unfold bmemUnits bmemHeader bmemUnit u16
  omega

def takeBlock (bmem : Bmem) (start u16Cnt : Nat) : Bmem :=
  { map := setBits bmem.map start u16Cnt
    memory := patch (patch bmem.memory (bmemBase + start * 128) 4
      (wordBytes (bmemBase + start * 128))) (bmemBase + start * 128 + 4) 4 (wordBytes u16Cnt) }

theorem osBmemAlloc_spec (bmem : Bmem) (bounded : u16Size < 2 ^ 16) :
    (∃ start, start + bmemUnits u16Size ≤ 256 ∧
      (∀ unit, (mk start (bmemUnits u16Size)).Has unit → ¬Used bmem.map unit) ∧
      osBmemAlloc bmem u16Size =
        (bmemBase + start * 128 + 8, takeBlock bmem start (bmemUnits u16Size))) ∨
    (¬ClearRun bmem.map 256 (bmemUnits u16Size) ∧ osBmemAlloc bmem u16Size = (0, bmem)) := by
  have units := bmemUnits_eq bounded
  by_cases large : bmemSize ≤ u16Size
  · right
    rw [osBmemAlloc, if_pos large]
    unfold bmemSize at large
    refine ⟨?_, rfl⟩
    rintro ⟨start, inside, _⟩
    omega
  · have initial : Scanned bmem.map (bmemUnits u16Size) 0 0xffff 0 :=
      ⟨by omega, by rintro ⟨start, inside, _⟩; omega, fun _ => .inl rfl,
        fun running => absurd rfl running⟩
    have outcome := @scan_spec bmem.map _ 0 0xffff 0 256 rfl initial
    rw [osBmemAlloc, if_neg large]
    have size : bmemBitsize = 256 := rfl
    rw [size]
    dsimp only
    rcases outcome with ⟨start, found, inside, clear⟩ | ⟨none, failed⟩
    · left
      refine ⟨start, inside, clear, ?_⟩
      rw [found]
      rw [if_neg (by omega)]
      rfl
    · right
      exact ⟨none, if_pos failed⟩

def HasHeader (memory : Nat → UInt8) (extent : Extent) : Prop :=
  word memory (bmemBase + extent.start * 128) = bmemBase + extent.start * 128 ∧
    word memory (bmemBase + extent.start * 128 + 4) = extent.count

theorem header_address {unit : Nat} (inside : unit ≤ 256) :
    u32Sub (bmemBase + unit * 128 + 8) bmemHeader = bmemBase + unit * 128 := by
  rw [u32Sub_of_le (by unfold bmemBase; omega) (by unfold bmemHeader; omega)]
  unfold bmemHeader
  omega

theorem unit_of_address {unit : Nat} (inside : unit ≤ 256) :
    u16 (u32Sub (bmemBase + unit * 128) bmemBase / bmemUnit) = unit := by
  rw [u32Sub_of_le (by unfold bmemBase; omega) (by omega), Nat.add_sub_cancel_left]
  unfold bmemUnit u16
  omega

theorem osBmemFree_spec {bmem : Bmem} {extent : Extent} (header : HasHeader bmem.memory extent)
    (inside : extent.start + extent.count ≤ 256) :
    osBmemFree bmem (bmemBase + extent.start * 128 + 8) =
      { bmem with map := clearBits bmem.map extent.start extent.count } := by
  obtain ⟨address, count⟩ := header
  have start : extent.start ≤ 256 := by omega
  have nonNull : bmemBase + extent.start * 128 + 8 ≠ 0 := by omega
  simp only [osBmemFree, if_neg nonNull, header_address start, address, count,
    unit_of_address start, ne_eq, not_true_eq_false, if_false]

theorem HasHeader.congr {memory after : Nat → UInt8} {extent : Extent}
    (header : HasHeader memory extent)
    (same : ∀ index < 8, after (bmemBase + extent.start * 128 + index) =
      memory (bmemBase + extent.start * 128 + index)) : HasHeader after extent := by
  obtain ⟨address, count⟩ := header
  constructor
  · refine Eq.trans (word_congr fun index below => ?_) address
    exact same index (by omega)
  · refine Eq.trans (word_congr fun index below => ?_) count
    rw [add_assoc]
    exact same (4 + index) (by omega)

structure Live where
  (p u16Size : Nat)
deriving DecidableEq

def Live.extent (block : Live) : Extent :=
  { start := (block.p - bmemHeader - bmemBase) / bmemUnit
    count := bmemUnits block.u16Size }

structure BmemSystem where
  bmem : Bmem
  live : List Live

def BmemSystem.start (memory : Nat → UInt8) : BmemSystem :=
  { bmem := { map := fun _ => 0#32, memory := memory }
    live := [] }

inductive BmemAction where
  | alloc (u16Size : Nat)
  | free (p : Nat)
  | write (address : Nat) (value : UInt8)

def BmemSystem.step (system : BmemSystem) : BmemAction → BmemSystem
  | .alloc u16Size =>
    let (p, after) := osBmemAlloc system.bmem u16Size
    { bmem := after
      live := if p = 0 then system.live else { p := p, u16Size := u16Size } :: system.live }
  | .free p =>
    { bmem := osBmemFree system.bmem p
      live := system.live.filter fun block => block.p ≠ p }
  | .write address value =>
    { system with
      bmem := { system.bmem with memory := patch system.bmem.memory address 1 fun _ => value } }

def BmemAllowed (system : BmemSystem) : BmemAction → Prop
  | .alloc u16Size => u16Size < 2 ^ 16
  | .free p => p = 0 ∨ ∃ block ∈ system.live, block.p = p
  | .write address _ => ∃ block ∈ system.live, block.p ≤ address ∧
      address < bmemBase + (block.extent.start + block.extent.count) * bmemUnit

structure Placed (block : Live) : Prop where
  pointer : block.p = bmemBase + block.extent.start * 128 + 8
  inside : block.extent.start + block.extent.count ≤ 256
  size : block.u16Size < 2 ^ 16

theorem Placed.usable {block : Live} (placed : Placed block) :
    8 + block.u16Size ≤ block.extent.count * 128 := by
  have units : block.extent.count = (8 + block.u16Size + 127) / 128 := bmemUnits_eq placed.size
  omega

theorem Placed.some {block : Live} (placed : Placed block) : 0 < block.extent.count := by
  have usable := placed.usable
  omega

structure Sound (system : BmemSystem) : Prop where
  placed : ∀ block ∈ system.live, Placed block
  apart : system.live.Pairwise fun first second => Extents.Apart first.extent second.extent
  bits : ∀ unit < 256, (Used system.bmem.map unit ↔ ∃ block ∈ system.live, block.extent.Has unit)
  header : ∀ block ∈ system.live, HasHeader system.bmem.memory block.extent

section

variable {system : BmemSystem}

theorem start_sound (memory : Nat → UInt8) : Sound (BmemSystem.start memory) := by
  refine ⟨?_, List.Pairwise.nil, ?_, ?_⟩
  · intro block member
    cases member
  · intro unit _
    simp [BmemSystem.start, Used]
  · intro block member
    cases member

theorem apart_of_no_common {first second : Extent} (firstSome : 0 < first.count)
    (secondSome : 0 < second.count) (none : ∀ unit, first.Has unit → ¬second.Has unit) :
    Extents.Apart first second := by
  have atFirst := none first.start
  have atSecond := none second.start
  unfold Extent.Has at atFirst atSecond
  unfold Extents.Apart
  omega

section

variable (sound : Sound system)
include sound

theorem Sound.alloc (bounded : u16Size < 2 ^ 16) : Sound (system.step (.alloc u16Size)) := by
  rcases osBmemAlloc_spec system.bmem bounded with ⟨start, inside, clear, taken⟩ | ⟨_, refused⟩
  · have nonNull : bmemBase + start * 128 + 8 ≠ 0 := by omega
    simp only [BmemSystem.step, taken, if_neg nonNull]
    have extent : Live.extent ⟨bmemBase + start * 128 + 8, u16Size⟩ =
        ⟨start, bmemUnits u16Size⟩ := by
      simp only [Live.extent, bmemHeader, bmemUnit, mk.injEq, and_true]
      omega
    have newPlaced : Placed ⟨bmemBase + start * 128 + 8, u16Size⟩ := by
      refine ⟨?_, ?_, bounded⟩
      · rw [extent]
      · rwa [extent]
    -- The new units were clear, so no live block has any of them.
    have newApart : ∀ block ∈ system.live,
        Extents.Apart ⟨start, bmemUnits u16Size⟩ block.extent := by
      intro block member
      apply apart_of_no_common _ (sound.placed block member).some
      · intro unit inNew inOld
        have below : unit < 256 := inNew.2.trans_le inside
        exact clear unit inNew ((sound.bits unit below).mpr ⟨block, member, inOld⟩)
      · rw [← extent]
        exact newPlaced.some
    refine ⟨?_, ?_, ?_, ?_⟩
    · exact forall_mem_cons.mpr ⟨newPlaced, sound.placed⟩
    · apply pairwise_cons.mpr
      rw [extent]
      exact ⟨newApart, sound.apart⟩
    · intro unit below
      change Used (setBits system.bmem.map start (bmemUnits u16Size)) unit ↔ _
      rw [used_setBits, sound.bits unit below, exists_mem_cons_iff, extent]
    · intro block member
      rcases mem_cons.mp member with rfl | old
      · rw [extent]
        constructor
        · apply word_eq_of_wordBytes (by unfold bmemBase; dsimp only; omega)
          intro index below
          dsimp only [takeBlock]
          rw [patch_outside _ _ (by omega),
            patch_inside _ _ (by omega) (by omega), Nat.add_sub_cancel_left]
        · apply word_eq_of_wordBytes (by dsimp only; omega)
          intro index below
          dsimp only [takeBlock]
          rw [patch_inside _ _ (by omega) (by omega), Nat.add_sub_cancel_left]
      · apply (sound.header block old).congr
        intro _ below
        have apart := newApart block old
        have some := (sound.placed block old).some
        have newSome := newPlaced.some
        rw [extent] at newSome
        unfold Extents.Apart at apart
        dsimp only [takeBlock] at apart newSome ⊢
        rw [patch_outside _ _ (by omega), patch_outside _ _ (by omega)]
  · simp only [BmemSystem.step, refused, if_true]
    exact sound

theorem Sound.apart_of_ne {first second : Live} (firstLive : first ∈ system.live)
    (secondLive : second ∈ system.live) (different : first ≠ second) :
    Extents.Apart first.extent second.extent := by
  have symmetric : Std.Symm fun first second : Live =>
      Extents.Apart first.extent second.extent := ⟨fun _ _ => Extents.Apart.symm⟩
  exact sound.apart.forall firstLive secondLive different

theorem Sound.eq_of_pointer {first second : Live} (firstLive : first ∈ system.live)
    (secondLive : second ∈ system.live) (same : first.p = second.p) : first = second := by
  by_contra different
  have apart := sound.apart_of_ne firstLive secondLive different
  have firstSome := (sound.placed first firstLive).some
  have secondSome := (sound.placed second secondLive).some
  have starts : first.extent.start = second.extent.start := by
    simp only [Live.extent, same]
  unfold Extents.Apart at apart
  omega

theorem Sound.free {p : Nat} (allowed : p = 0 ∨ ∃ block ∈ system.live, block.p = p) :
    Sound (system.step (.free p)) := by
  rcases allowed with rfl | ⟨freed, member, rfl⟩
  · have all : system.live.filter (fun block => block.p ≠ 0) = system.live := by
      apply filter_eq_self.mpr
      intro block member
      have pointer := (sound.placed block member).pointer
      simp only [ne_eq, decide_not, Bool.not_eq_true', decide_eq_false_iff_not]
      omega
    simp only [BmemSystem.step, osBmemFree, if_true, all]
    exact sound
  · have placed := sound.placed freed member
    have cleared := osBmemFree_spec (sound.header freed member) placed.inside
    rw [← placed.pointer] at cleared
    simp only [BmemSystem.step, cleared]
    have kept {block : Live} : block ∈ system.live.filter (fun block => block.p ≠ freed.p) ↔
        block ∈ system.live ∧ block.p ≠ freed.p := by
      simp [mem_filter]
    refine ⟨?_, sound.apart.filter _, ?_, ?_⟩
    · intro block present
      exact sound.placed block (kept.mp present).1
    · intro unit below
      rw [used_clearBits, sound.bits unit below]
      constructor
      · rintro ⟨outside, block, present, inBlock⟩
        refine ⟨block, kept.mpr ⟨present, fun same => ?_⟩, inBlock⟩
        rw [sound.eq_of_pointer present member same] at inBlock
        exact outside inBlock
      · rintro ⟨block, present, inBlock⟩
        obtain ⟨present, different⟩ := kept.mp present
        refine ⟨fun inFreed => ?_, block, present, inBlock⟩
        have apart := sound.apart_of_ne present member fun same => different (congrArg Live.p same)
        exact apart.not_both inBlock inFreed
    · intro block present
      exact sound.header block (kept.mp present).1

theorem Sound.write {address : Nat} {value : UInt8}
    (allowed : ∃ block ∈ system.live, block.p ≤ address ∧
      address < bmemBase + (block.extent.start + block.extent.count) * bmemUnit) :
    Sound (system.step (.write address value)) := by
  obtain ⟨owner, owned, _, high⟩ := allowed
  refine { sound with header := ?_ }
  intro block member
  apply (sound.header block member).congr
  intro index below
  have pointer := (sound.placed owner owned).pointer
  change patch system.bmem.memory address 1 (fun _ => value) _ = _
  apply patch_outside
  unfold bmemUnit at high
  by_cases same : block = owner
  · rw [same]
    omega
  · have apart := sound.apart_of_ne member owned same
    unfold Extents.Apart at apart
    omega

end

theorem Sound.step (system : BmemSystem) (action : BmemAction) (sound : Sound system)
    (allowed : BmemAllowed system action) : Sound (system.step action) := by
  cases action with
  | alloc => exact sound.alloc allowed
  | free => exact sound.free allowed
  | write => exact sound.write allowed

end

structure BmemSafe (system : BmemSystem) : Prop where
  bits : ∀ unit < 256, (Used system.bmem.map unit ↔ ∃ block ∈ system.live, block.extent.Has unit)
  apart : system.live.Pairwise fun first second => Extents.Apart first.extent second.extent
  pointer : ∀ block ∈ system.live, block.p = bmemBase + block.extent.start * bmemUnit + bmemHeader
  inside : ∀ block ∈ system.live, (block.extent.start + block.extent.count) * bmemUnit ≤ bmemSize
  usable : ∀ block ∈ system.live, block.p + block.u16Size ≤
    bmemBase + (block.extent.start + block.extent.count) * bmemUnit
  null : ∀ u16Size < 2 ^ 16, ((osBmemAlloc system.bmem u16Size).1 = 0 ↔
    ¬ClearRun system.bmem.map 256 ((8 + u16Size + 127) / 128))
  info : (osBmemGetInfo system.bmem).2 =
    bmemSize - bmemUnit * Extents.total (system.live.map Live.extent)

theorem osBmemAlloc_null_iff (bmem : Bmem) (bounded : u16Size < 2 ^ 16) :
    (osBmemAlloc bmem u16Size).1 = 0 ↔ ¬ClearRun bmem.map 256 ((8 + u16Size + 127) / 128) := by
  rw [← bmemUnits_eq bounded]
  rcases osBmemAlloc_spec bmem bounded with ⟨start, inside, clear, taken⟩ | ⟨none, refused⟩
  · rw [taken]
    constructor
    · intro null
      exact absurd null (by dsimp only; omega)
    · intro none
      exact absurd ⟨start, inside, clear⟩ none
  · rw [refused]
    exact iff_of_true rfl none

theorem Sound.info {system : BmemSystem} (sound : Sound system) : (osBmemGetInfo system.bmem).2 =
    bmemSize - bmemUnit * total (system.live.map Live.extent) := by
  have occupied : Nat.count (Occupied (system.live.map Live.extent)) 256 =
      total (system.live.map Live.extent) := by
    apply count_occupied
    · exact pairwise_map.mpr sound.apart
    · intro _ member
      obtain ⟨block, present, rfl⟩ := List.mem_map.mp member
      exact (sound.placed block present).inside
  have clear : Nat.count (fun unit => ¬Used system.bmem.map unit) 256 =
      Nat.count (fun unit => ¬Occupied (system.live.map Live.extent) unit) 256 := by
    apply count_congr
    intro unit below
    rw [sound.bits unit below]
    simp [Occupied]
  have split := count_add_not (Occupied (system.live.map Live.extent)) 256
  have scanned := infoScan_idle system.bmem.map 256 0 0
  simp only [zero_add] at scanned
  have size : bmemBitsize = 256 := rfl
  simp only [osBmemGetInfo, size, scanned, clear]
  unfold bmemSize bmemUnit u32
  omega

theorem Sound.safe {system : BmemSystem} (sound : Sound system) : BmemSafe system := by
  refine ⟨sound.bits, sound.apart, fun block member => (sound.placed block member).pointer, ?_, ?_,
    fun u16Size bounded => osBmemAlloc_null_iff system.bmem bounded, sound.info⟩
  · intro block member
    have inside := (sound.placed block member).inside
    unfold bmemUnit bmemSize
    omega
  · intro block member
    have pointer := (sound.placed block member).pointer
    have usable := (sound.placed block member).usable
    unfold bmemUnit
    omega

/-- Every run of allocations, releases and user writes that keeps the rules
reaches only safe states. -/
theorem bmemSafe_of_allowed (memory : Nat → UInt8) (actions : List BmemAction)
    (allowed : Along BmemSystem.step BmemAllowed (BmemSystem.start memory) actions) :
    BmemSafe (actions.foldl BmemSystem.step (BmemSystem.start memory)) :=
  (invariant_of_along Sound.step (start_sound memory) allowed).safe

theorem bmemSafe_of_allowed_board :
    BmemSafe ([.alloc 100, .alloc 300, .free 0x10000008, .alloc 20].foldl BmemSystem.step
      (BmemSystem.start fun _ => 0)) := by
  apply bmemSafe_of_allowed
  refine ⟨by change 100 < 2 ^ 16; decide, by change 300 < 2 ^ 16; decide, ?_,
    by change 20 < 2 ^ 16; decide, trivial⟩
  exact .inr ⟨⟨0x10000008, 100⟩, by decide, rfl⟩

end Hfirmware.Kernel
