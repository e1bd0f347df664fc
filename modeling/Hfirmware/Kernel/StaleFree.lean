/-
Freeing a pointer twice. The header of a freed block is not cleared, and `_bmem_free`
trusts every header that names its own address.
-/

import Hfirmware.Kernel.BitmapMemory

namespace Hfirmware.Kernel

open List Nat Option ByteImage Extents GuardedRun

/-- The rounds with the 16-bit counter `i`; `none` stands for a loop that does not end
within `fuel` rounds. -/
def freeRounds (limit : Nat) : Nat → Nat → (Nat → BitVec 32) → Option (Nat → BitVec 32)
  | 0, _, _ => none
  | fuel + 1, i, map =>
    if i < limit then freeRounds limit fuel (u16 (i + 1)) (clearBit map i) else some map

def NamesItself (bmem : Bmem) (p : Nat) : Prop :=
  word bmem.memory (u32Sub p bmemHeader) = u32Sub p bmemHeader

instance (bmem : Bmem) (p : Nat) : Decidable (NamesItself bmem p) :=
  inferInstanceAs (Decidable (_ = _))

def freeStart (p : Nat) : Nat := u16 (u32Sub (u32Sub p bmemHeader) bmemBase / bmemUnit)

def freeLimit (bmem : Bmem) (p : Nat) : Nat :=
  u32 (freeStart p + word bmem.memory (u32Sub p bmemHeader + 4))

def osBmemFreeRun (bmem : Bmem) (p : Nat) : Option Bmem :=
  if p = 0 then some bmem
  else if ¬NamesItself bmem p then some bmem
  else
    (freeRounds (freeLimit bmem p) (2 ^ 16 + 1) (freeStart p) bmem.map).map fun map =>
      { bmem with map }

def headerUnits (bmem : Bmem) (p : Nat) : Extent :=
  { start := freeStart p
    count := freeLimit bmem p - freeStart p }

theorem freeRounds_ends {limit : Nat} (bounded : limit < 2 ^ 16) {fuel i : Nat}
    (enough : limit - i < fuel) (map : Nat → BitVec 32) :
    freeRounds limit fuel i map = some (clearBits map i (limit - i)) := by
  induction fuel generalizing i map with
  | zero => omega
  | succ fuel ih =>
    rw [freeRounds]
    by_cases more : i < limit
    · have next : u16 (i + 1) = i + 1 := u16_of_lt (by omega)
      have left : limit - i = limit - (i + 1) + 1 := by omega
      rw [if_pos more, next, ih (by omega), left]
      rfl
    · have done : limit - i = 0 := by omega
      rw [if_neg more, done]
      rfl

theorem freeRounds_hangs {limit : Nat} (large : 2 ^ 16 ≤ limit) (fuel : Nat) {i : Nat}
    (counter : i < 2 ^ 16) (map : Nat → BitVec 32) : freeRounds limit fuel i map = none := by
  induction fuel generalizing i map with
  | zero => rfl
  | succ fuel ih =>
    rw [freeRounds, if_pos (by omega)]
    exact ih (mod_lt _ (by decide)) _

variable {bmem : Bmem}

theorem osBmemFreeRun_ends {p : Nat} (nonNull : p ≠ 0) (names : NamesItself bmem p)
    (bounded : freeLimit bmem p < 2 ^ 16) :
    osBmemFreeRun bmem p = some { bmem with
      map := clearBits bmem.map (headerUnits bmem p).start (headerUnits bmem p).count } := by
  rw [osBmemFreeRun, if_neg nonNull, if_neg (not_not.mpr names),
    freeRounds_ends bounded (lt_succ_of_lt (lt_of_le_of_lt (sub_le _ _) bounded))]
  rfl

def MapKept (bmem : Bmem) (p : Nat) : Prop :=
  ∃ after, osBmemFreeRun bmem p = some after ∧
    ∀ unit < 256, (Used after.map unit ↔ Used bmem.map unit)

theorem mapKept_iff {p : Nat} (nonNull : p ≠ 0) :
    MapKept bmem p ↔ ¬NamesItself bmem p ∨ freeLimit bmem p < 2 ^ 16 ∧
      ∀ unit < 256, (headerUnits bmem p).Has unit → ¬Used bmem.map unit := by
  by_cases names : NamesItself bmem p
  · by_cases bounded : freeLimit bmem p < 2 ^ 16
    · have run := osBmemFreeRun_ends nonNull names bounded
      constructor
      · rintro ⟨after, ended, kept⟩
        cases run.symm.trans ended
        refine .inr ⟨bounded, fun unit below named used => ?_⟩
        have cleared := (kept unit below).mpr used
        rw [used_clearBits] at cleared
        exact cleared.1 named
      · intro condition
        obtain ⟨_, clear⟩ := condition.resolve_left (not_not.mpr names)
        refine ⟨_, run, fun unit below => ?_⟩
        rw [used_clearBits]
        exact ⟨And.right, fun used => ⟨fun named => clear unit below named used, used⟩⟩
    · have hangs : osBmemFreeRun bmem p = none := by
        rw [osBmemFreeRun, if_neg nonNull, if_neg (not_not.mpr names),
          freeRounds_hangs (not_lt.mp bounded) _ (show freeStart p < _ from mod_lt _ (by decide))]
        rfl
      constructor
      · rintro ⟨after, ended, _⟩
        cases hangs.symm.trans ended
      · intro condition
        exact absurd (condition.resolve_left (not_not.mpr names)).1 bounded
  · have run : osBmemFreeRun bmem p = some bmem := by
      rw [osBmemFreeRun, if_neg nonNull, if_pos names]
    exact iff_of_true ⟨bmem, run, fun _ _ => Iff.rfl⟩ (.inl names)

theorem osBmemFreeRun_of_header {extent : Extent}
    (header : HasHeader bmem.memory extent) (inside : extent.start + extent.count ≤ 256) :
    osBmemFreeRun bmem (bmemBase + extent.start * 128 + 8) =
      some (osBmemFree bmem (bmemBase + extent.start * 128 + 8)) := by
  have pstInfo := @header_address extent.start (by omega)
  have start : freeStart (bmemBase + extent.start * 128 + 8) = extent.start := by
    rw [freeStart, pstInfo, unit_of_address (by omega)]
  have limit : freeLimit bmem (bmemBase + extent.start * 128 + 8) =
      extent.start + extent.count := by
    rw [freeLimit, start, pstInfo, header.2]
    exact u32_of_lt (by omega)
  have names : NamesItself bmem (bmemBase + extent.start * 128 + 8) := by
    unfold NamesItself
    rw [pstInfo]
    exact header.1
  rw [osBmemFreeRun_ends (by omega) names (by omega), osBmemFree_spec header inside, headerUnits,
    start, limit, Nat.add_sub_cancel_left]

structure BmemHistory where
  now : BmemSystem
  returned : List Nat

def BmemHistory.start (memory : Nat → UInt8) : BmemHistory :=
  { now := BmemSystem.start memory
    returned := [] }

def BmemHistory.step (history : BmemHistory) : BmemAction → BmemHistory
  | .alloc u16Size =>
    let p := (osBmemAlloc history.now.bmem u16Size).1
    { now := history.now.step (.alloc u16Size)
      returned := if p = 0 then history.returned else p :: history.returned }
  | .free p =>
    { history with
      now :=
        { bmem := (osBmemFreeRun history.now.bmem p).getD history.now.bmem
          live := history.now.live.filter fun block => block.p ≠ p } }
  | .write address value => { history with now := history.now.step (.write address value) }

/-- The old header of `p` has been overwritten, or the range that it names ends below
the counter's limit and no live block has a unit of it. -/
def Unclaimed (system : BmemSystem) (p : Nat) : Prop :=
  ¬NamesItself system.bmem p ∨ freeLimit system.bmem p < 2 ^ 16 ∧
    ∀ unit < 256, (headerUnits system.bmem p).Has unit →
      ∀ block ∈ system.live, ¬block.extent.Has unit

instance (system : BmemSystem) (p : Nat) : Decidable (Unclaimed system p) := by
  unfold Unclaimed
  infer_instance

def StaleAllowed (history : BmemHistory) : BmemAction → Prop
  | .free p => BmemAllowed history.now (.free p) ∨ p ∈ history.returned ∧ Unclaimed history.now p
  | action => BmemAllowed history.now action

structure Consistent (history : BmemHistory) : Prop where
  sound : Sound history.now
  nonNull : ∀ p ∈ history.returned, p ≠ 0

section

variable {history : BmemHistory} {p : Nat}

theorem unclaimed_iff (sound : Sound history.now) (nonNull : p ≠ 0) :
    MapKept history.now.bmem p ↔ Unclaimed history.now p := by
  have units : (∀ unit < 256, (headerUnits history.now.bmem p).Has unit →
        ¬Used history.now.bmem.map unit) ↔
      ∀ unit < 256, (headerUnits history.now.bmem p).Has unit →
        ∀ block ∈ history.now.live, ¬block.extent.Has unit := by
    constructor
    · intro clear unit below named block member inBlock
      exact clear unit below named ((sound.bits unit below).mpr ⟨block, member, inBlock⟩)
    · intro apart unit below named used
      obtain ⟨block, member, inBlock⟩ := (sound.bits unit below).mp used
      exact apart unit below named block member inBlock
  rw [mapKept_iff nonNull, units]
  rfl

theorem Sound.of_map {system after : BmemSystem} (sound : Sound system)
    (memory : after.bmem.memory = system.bmem.memory) (live : after.live = system.live)
    (kept : ∀ unit < 256, (Used after.bmem.map unit ↔ Used system.bmem.map unit)) :
    Sound after := by
  constructor
  · rw [live]
    exact sound.placed
  · rw [live]
    exact sound.apart
  · intro unit below
    rw [kept unit below, live]
    exact sound.bits unit below
  · rw [live, memory]
    exact sound.header

theorem step_free_live (sound : Sound history.now) (allowed : BmemAllowed history.now (.free p)) :
    (history.step (.free p)).now = history.now.step (.free p) := by
  rcases allowed with rfl | ⟨block, member, rfl⟩
  · rfl
  · have placed := sound.placed block member
    have run := osBmemFreeRun_of_header (sound.header block member) placed.inside
    rw [← placed.pointer] at run
    simp only [BmemHistory.step, run, getD_some]
    rfl

theorem Sound.free_stale (sound : Sound history.now) (nonNull : p ≠ 0)
    (stale : ∀ block ∈ history.now.live, block.p ≠ p) (unclaimed : Unclaimed history.now p) :
    Sound (history.step (.free p)).now := by
  obtain ⟨_, run, kept⟩ := (unclaimed_iff sound nonNull).mpr unclaimed
  apply sound.of_map
  · change ((osBmemFreeRun history.now.bmem p).getD history.now.bmem).memory = _
    rw [run]
    unfold osBmemFreeRun at run
    split at run
    · cases run
      rfl
    · split at run
      · cases run
        rfl
      · obtain ⟨_, _, rfl⟩ := map_eq_some_iff.mp run
        rfl
  · apply filter_eq_self.mpr
    intro block member
    simpa using stale block member
  · change ∀ unit < 256, (Used ((osBmemFreeRun history.now.bmem p).getD _).map unit ↔ _)
    rwa [run]

theorem Consistent.step (history : BmemHistory) (action : BmemAction)
    (consistent : Consistent history) (allowed : StaleAllowed history action) :
    Consistent (history.step action) := by
  obtain ⟨sound, nonNull⟩ := consistent
  cases action with
  | alloc u16Size =>
    refine ⟨sound.step _ (.alloc u16Size) allowed, ?_⟩
    intro p member
    dsimp only [BmemHistory.step] at member
    split at member
    · exact nonNull p member
    · rename_i some
      rcases mem_cons.mp member with rfl | old
      · exact some
      · exact nonNull p old
  | write address value =>
    exact ⟨sound.step _ (.write address value) allowed, nonNull⟩
  | free p =>
    refine ⟨?_, nonNull⟩
    by_cases live : BmemAllowed history.now (.free p)
    · rw [step_free_live sound live]
      exact sound.free live
    · obtain ⟨returned, unclaimed⟩ := allowed.resolve_left live
      apply sound.free_stale (nonNull p returned) _ unclaimed
      exact fun block member same => live (.inr ⟨block, member, same⟩)

end

/-- Where pointers are freed again only if that is harmless the allocator stays safe,
and a stale free leaves the map exactly if its header is gone or names no unit of a live
block. -/
theorem stale_free (memory : Nat → UInt8) (actions : List BmemAction)
    (allowed : Along BmemHistory.step StaleAllowed (BmemHistory.start memory) actions) :
    BmemSafe (actions.foldl BmemHistory.step (BmemHistory.start memory)).now ∧
      ∀ p ∈ (actions.foldl BmemHistory.step (BmemHistory.start memory)).returned,
        (∀ block ∈ (actions.foldl BmemHistory.step (BmemHistory.start memory)).now.live,
          block.p ≠ p) →
        (MapKept (actions.foldl BmemHistory.step (BmemHistory.start memory)).now.bmem p ↔
          Unclaimed (actions.foldl BmemHistory.step (BmemHistory.start memory)).now p) := by
  have initial : Consistent (BmemHistory.start memory) := ⟨start_sound memory, nofun⟩
  have consistent := invariant_of_along Consistent.step initial allowed
  exact ⟨consistent.sound.safe,
    fun p returned _ => unclaimed_iff consistent.sound (consistent.nonNull p returned)⟩

theorem stale_free_at_once : BmemSafe ([.alloc 100, .alloc 100, .free 0x10000008,
    .free 0x10000008].foldl BmemHistory.step (BmemHistory.start fun _ => 0)).now := by
  refine (stale_free (fun _ => 0) _ ?_).1
  refine ⟨by change 100 < 2 ^ 16; decide, by change 100 < 2 ^ 16; decide, ?_, ?_, trivial⟩
  · exact .inl (.inr ⟨⟨0x10000008, 100⟩, by decide +kernel, rfl⟩)
  · exact .inr ⟨by decide +kernel, by decide +kernel⟩

/-- Two neighbours are freed and their units given to one larger block; freeing the
second neighbour again takes a unit away from that block. -/
theorem stale_free_takes_unit :
    let actions : List BmemAction :=
      [.alloc 100, .alloc 100, .free 0x10000008, .free 0x10000088, .alloc 200]
    let history := actions.foldl BmemHistory.step (BmemHistory.start fun _ => 0)
    Along BmemHistory.step StaleAllowed (BmemHistory.start fun _ => 0) actions ∧
      0x10000088 ∈ history.returned ∧ history.now.live = [⟨0x10000008, 200⟩] ∧
      ¬MapKept history.now.bmem 0x10000088 := by
  refine ⟨?_, by decide +kernel, by decide +kernel, ?_⟩
  · refine ⟨by change 100 < 2 ^ 16; decide, by change 100 < 2 ^ 16; decide, ?_, ?_,
      by change 200 < 2 ^ 16; decide, trivial⟩
    · exact .inl (.inr ⟨⟨0x10000008, 100⟩, by decide +kernel, rfl⟩)
    · exact .inl (.inr ⟨⟨0x10000088, 100⟩, by decide +kernel, rfl⟩)
  · rw [mapKept_iff (by decide)]
    decide +kernel

end Hfirmware.Kernel
