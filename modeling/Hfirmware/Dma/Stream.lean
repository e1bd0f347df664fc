/-
The streams of the DMA controller. A bit of a mask and a state together say whether a
stream is free; the clock of the controller goes with the mask.
-/

import Hfirmware.Ownership

namespace Hfirmware.Dma

open List Option Function
open Ownership

def hsDmaStreams : Nat := 3

inductive StreamState where
  | idle | stop | ready | work
deriving DecidableEq

inductive Side where
  | play | record
deriving DecidableEq

inductive User where
  | stream (idx : Nat)
  | side (side : Side)
deriving DecidableEq

/-- `dma_streams_mask`, `_hs_dma_streams`, the clock, and the DMA memory. -/
structure Controller where
  mask : BitVec 16
  state : Nat → StreamState
  llip : Nat → Option Nat
  clock : Bool
  bmem : Ledger User

variable {owned : List Nat} {idx : Nat} {dma : Controller}

def Controller.init : Controller := ⟨0, fun _ => .idle, fun _ => none, false, .empty⟩

def bit (idx : Nat) : BitVec 16 := BitVec.twoPow 16 idx

namespace Controller

def setState (dma : Controller) (idx : Nat) (state : StreamState) : Controller :=
  { dma with state := update dma.state idx state }

def isIdle (dma : Controller) (idx : Nat) : Bool := !dma.mask.getLsbD idx || dma.state idx = .idle

def idleChannel (dma : Controller) : Option Nat := (List.range hsDmaStreams).find? dma.isIdle

def enableClock (dma : Controller) : Controller :=
  if dma.mask = 0 then { dma with clock := true } else dma

def disableClock (dma : Controller) : Controller :=
  if dma.mask = 0 then { dma with clock := false } else dma

/-- `dmaStreamAllocate`. The state that `dmaStreamDisable` leaves is replaced at once. -/
def streamAllocate (dma : Controller) : Option Nat × Controller :=
  let dma := dma.enableClock
  match dma.idleChannel with
  | none => (none, dma)
  | some idx => (some idx, { dma with mask := dma.mask ||| bit idx }.setState idx .stop)

def releaseChannel (dma : Controller) (idx : Nat) : Controller :=
  if dma.mask.getLsbD idx then { dma with mask := dma.mask &&& ~~~bit idx }.setState idx .idle
  else dma

def streamDisable (dma : Controller) (idx : Nat) : Controller := dma.setState idx .ready

def freeList (dma : Controller) (idx : Nat) : Controller :=
  match dma.llip idx with
  | none => dma
  | some block =>
    { dma with
      bmem := dma.bmem.free (.stream idx) block
      llip := update dma.llip idx none }

def streamRelease (dma : Controller) (idx : Nat) : Controller :=
  (((dma.releaseChannel idx).streamDisable idx).disableClock).freeList idx

def takeList (dma : Controller) (idx : Nat) (allocated : Bool) : Controller :=
  if allocated then
    { dma with
      bmem := dma.bmem.issue (.stream idx)
      llip := update dma.llip idx (some dma.bmem.issued) }
  else { dma with llip := update dma.llip idx none }

end Controller

structure Mode where
  (lliEn memToMem : Bool)
deriving DecidableEq

/-- `dmaStreamSetMode`, which returns early for a copy in memory. -/
def Controller.streamSetMode (dma : Controller) (idx : Nat) (mode : Mode) (allocated : Bool) :
    Controller :=
  let dma := if mode.lliEn then dma.takeList idx allocated else dma
  if mode.memToMem then dma else dma.setState idx .ready

theorem getLsbD_bit {idx : Nat} (below : idx < 16) (other : Nat) :
    (bit idx).getLsbD other = decide (other = idx) := by
  unfold bit
  rw [BitVec.getLsbD_twoPow, decide_eq_true below, Bool.true_and, decide_eq_decide]
  exact eq_comm

theorem getLsbD_clearBit (mask : BitVec 16) {idx : Nat} (below : idx < 16) (other : Nat) :
    (mask &&& ~~~bit idx).getLsbD other ↔ other ≠ idx ∧ mask.getLsbD other := by
  rw [BitVec.getLsbD_and, BitVec.getLsbD_not, getLsbD_bit below]
  by_cases inside : other < 16
  · rw [decide_eq_true inside, Bool.true_and, Bool.and_eq_true, Bool.not_eq_true',
      decide_eq_false_iff_not, and_comm]
  · rw [BitVec.getLsbD_of_ge mask other (not_lt.mp inside), Bool.false_and]
    exact ⟨nofun, fun both => nomatch both.2⟩

theorem mask_eq_zero_iff (mask : BitVec 16) : mask = 0 ↔ ∀ idx, mask.getLsbD idx = false := by
  constructor
  · rintro rfl idx
    exact BitVec.getLsbD_zero
  · intro clear
    apply BitVec.eq_of_getLsbD_eq
    intro idx _
    rw [clear idx]
    exact BitVec.getLsbD_zero.symm

structure Marked (mask : BitVec 16) (owned : List Nat) : Prop where
  bits : ∀ idx, mask.getLsbD idx = true ↔ idx ∈ owned
  below : ∀ idx ∈ owned, idx < hsDmaStreams

variable {other : List Nat}

namespace Marked

variable {mask : BitVec 16}

section

variable (marked : Marked mask owned)
include marked

theorem eq_zero : mask = 0 ↔ owned = [] := by
  rw [mask_eq_zero_iff, eq_nil_iff_forall_not_mem]
  refine forall_congr' fun idx => ?_
  rw [← marked.bits, Bool.not_eq_true]

theorem perm (same : other.Perm owned) : Marked mask other := by
  refine ⟨fun idx => ?_, fun idx member => marked.below idx (same.mem_iff.mp member)⟩
  rw [marked.bits, same.mem_iff]

theorem set (below : idx < hsDmaStreams) : Marked (mask ||| bit idx) (idx :: owned) := by
  have few : idx < 16 := lt_trans below (by decide)
  refine ⟨fun other => ?_, fun other member => ?_⟩
  · rw [BitVec.getLsbD_or, getLsbD_bit few, Bool.or_eq_true, decide_eq_true_eq, or_comm,
      marked.bits, mem_cons]
  · rcases mem_cons.mp member with rfl | before
    · exact below
    · exact marked.below other before

theorem clear (distinct : owned.Nodup) (member : idx ∈ owned) :
    Marked (mask &&& ~~~bit idx) (owned.erase idx) := by
  have few : idx < 16 := lt_trans (marked.below idx member) (by decide)
  refine ⟨fun other => ?_, fun other left => marked.below other (mem_of_mem_erase left)⟩
  rw [getLsbD_clearBit mask few, marked.bits, distinct.mem_erase_iff]

end

end Marked

structure Holds (dma : Controller) (owned : List Nat) : Prop where
  marked : Marked dma.mask owned
  busy : ∀ idx ∈ owned, dma.state idx ≠ .idle
  clock : owned ≠ [] → dma.clock = true

namespace Holds

theorem init : Holds .init [] :=
  ⟨⟨fun idx => ⟨fun set => absurd set (by simp [Controller.init]), nofun⟩, nofun⟩, nofun,
    fun some => absurd rfl some⟩

section

variable (holds : Holds dma owned)
include holds

theorem isIdle_iff (idx : Nat) : dma.isIdle idx ↔ idx ∉ owned := by
  unfold Controller.isIdle
  rw [Bool.or_eq_true, Bool.not_eq_true', decide_eq_true_eq, ← Bool.not_eq_true, holds.marked.bits]
  constructor
  · rintro (clear | idle) member
    · exact clear member
    · exact holds.busy idx member idle
  · exact Or.inl

theorem perm (same : other.Perm owned) : Holds dma other := by
  refine ⟨holds.marked.perm same, fun idx member => holds.busy idx (same.mem_iff.mp member),
    fun some => holds.clock ?_⟩
  rintro rfl
  exact some same.eq_nil

theorem enableClock : Holds dma.enableClock owned ∧ dma.enableClock.clock := by
  unfold Controller.enableClock
  split
  · exact ⟨⟨holds.marked, holds.busy, fun _ => rfl⟩, rfl⟩
  · next zero =>
    exact ⟨holds, holds.clock (mt holds.marked.eq_zero.mpr zero)⟩

variable {state : StreamState}

theorem take (clock : dma.clock) (below : idx < hsDmaStreams) (busy : state ≠ .idle) :
    Holds ({ dma with mask := dma.mask ||| bit idx }.setState idx state) (idx :: owned) := by
  refine ⟨holds.marked.set below, fun other member => ?_, fun _ => clock⟩
  change update dma.state idx state other ≠ .idle
  by_cases same : other = idx
  · rwa [same, update_self]
  · rw [update_of_ne same]
    exact holds.busy other ((mem_cons.mp member).resolve_left same)

theorem allocate :
    match dma.streamAllocate with
    | (none, after) => Holds after owned ∧ ∀ idx < hsDmaStreams, idx ∈ owned
    | (some idx, after) => idx ∉ owned ∧ idx < hsDmaStreams ∧ Holds after (idx :: owned) := by
  obtain ⟨running, clock⟩ := holds.enableClock
  unfold Controller.streamAllocate
  cases found : dma.enableClock.idleChannel with
  | none =>
    dsimp only
    rw [found]
    refine ⟨running, fun idx below => ?_⟩
    have taken := find?_eq_none.mp found idx (mem_range.mpr below)
    rw [running.isIdle_iff] at taken
    exact not_not.mp taken
  | some idx =>
    dsimp only
    rw [found]
    have free := (running.isIdle_iff idx).mp (find?_some found)
    have below := mem_range.mp (List.mem_of_find?_eq_some found)
    exact ⟨free, below, running.take clock below nofun⟩

theorem setState (idx : Nat) (busy : state ≠ .idle) : Holds (dma.setState idx state) owned := by
  refine { holds with busy := fun other member => ?_ }
  change update dma.state idx state other ≠ .idle
  by_cases same : other = idx
  · rwa [same, update_self]
  · rw [update_of_ne same]
    exact holds.busy other member

theorem releaseChannel (distinct : owned.Nodup) (member : idx ∈ owned) :
    Holds (dma.releaseChannel idx) (owned.erase idx) := by
  unfold Controller.releaseChannel
  rw [if_pos ((holds.marked.bits idx).mpr member)]
  refine ⟨holds.marked.clear distinct member, fun other left => ?_, fun some => holds.clock ?_⟩
  · change update dma.state idx .idle other ≠ .idle
    rw [distinct.mem_erase_iff] at left
    rw [update_of_ne left.1]
    exact holds.busy other left.2
  · rintro rfl
    exact some rfl

theorem disableClock : Holds dma.disableClock owned := by
  unfold Controller.disableClock
  split
  · next zero =>
    exact ⟨holds.marked, holds.busy, fun some => absurd (holds.marked.eq_zero.mp zero) some⟩
  · exact holds

theorem release (distinct : owned.Nodup) (member : idx ∈ owned) :
    Holds (dma.streamRelease idx) (owned.erase idx) := by
  have released := ((holds.releaseChannel distinct member).setState idx
    (show StreamState.ready ≠ .idle from nofun)).disableClock
  unfold Controller.streamRelease Controller.freeList
  split
  · exact released
  · exact { released with }

theorem setMode (mode : Mode) (allocated : Bool) :
    Holds (dma.streamSetMode idx mode allocated) owned := by
  have listed : Holds (if mode.lliEn then dma.takeList idx allocated else dma) owned := by
    unfold Controller.takeList
    split
    · split <;> exact { holds with }
    · exact holds
  unfold Controller.streamSetMode
  dsimp only
  split
  · exact listed
  · exact listed.setState idx nofun

end

end Holds

/-! ### The lists of the streams -/

section

variable {held : User → List Nat}

theorem streamAllocate_lists (dma : Controller) :
    dma.streamAllocate.2.llip = dma.llip ∧ dma.streamAllocate.2.bmem = dma.bmem := by
  unfold Controller.streamAllocate Controller.enableClock
  dsimp only
  split <;> split <;> exact ⟨rfl, rfl⟩

theorem streamAllocate_fst (dma : Controller) : dma.streamAllocate.1 = dma.idleChannel := by
  have same : dma.enableClock.idleChannel = dma.idleChannel := by
    unfold Controller.enableClock
    split <;> rfl
  unfold Controller.streamAllocate
  dsimp only
  rw [same]
  split <;> rename_i found <;> rw [found]

theorem streamRelease_lists (dma : Controller) (idx : Nat) :
    (dma.streamRelease idx).llip = (dma.freeList idx).llip ∧
      (dma.streamRelease idx).bmem = (dma.freeList idx).bmem := by
  have same : ∀ (after : Controller), after.llip = dma.llip → after.bmem = dma.bmem →
      (after.freeList idx).llip = (dma.freeList idx).llip ∧
        (after.freeList idx).bmem = (dma.freeList idx).bmem := by
    intro after lists memory
    unfold Controller.freeList
    rw [lists, memory]
    split
    · exact ⟨lists, memory⟩
    · exact ⟨rfl, rfl⟩
  apply same
  · unfold Controller.disableClock Controller.releaseChannel
    split <;> split <;> rfl
  · unfold Controller.disableClock Controller.releaseChannel
    split <;> split <;> rfl

theorem freeList_balanced (balanced : Balanced dma.bmem held)
    (list : held (.stream idx) = (dma.llip idx).toList) :
    Balanced (dma.freeList idx).bmem (update held (.stream idx) []) ∧
      (dma.freeList idx).bmem.strays = dma.bmem.strays ∧
      (dma.freeList idx).llip = update dma.llip idx none := by
  unfold Controller.freeList
  cases there : dma.llip idx with
  | none =>
    rw [there] at list
    refine ⟨?_, rfl, ?_⟩
    · have empty : update held (.stream idx) [] = held :=
        update_eq_self_iff.mpr list.symm
      rwa [empty]
    · exact (update_eq_self_iff.mpr there.symm).symm
  | some block =>
    rw [there] at list
    have owned : dma.bmem.owner block = some (.stream idx) :=
      (balanced.owner block _).mpr (list ▸ mem_singleton_self block)
    refine ⟨balanced.free list, ?_, rfl⟩
    change (dma.bmem.use _ _).strays = _
    rw [Ledger.use_of_owner owned]

theorem takeList_balanced (balanced : Balanced dma.bmem held) (empty : held (.stream idx) = [])
    (allocated : Bool) :
    Balanced (dma.takeList idx allocated).bmem (update held (.stream idx)
      ((dma.takeList idx allocated).llip idx).toList) := by
  unfold Controller.takeList
  cases allocated with
  | false =>
    simp only [Bool.false_eq_true, if_false, update_self, toList_none]
    rwa [update_eq_self_iff.mpr empty.symm]
  | true =>
    have issued := balanced.issue (.stream idx)
    rw [empty] at issued
    simp only [if_true, update_self, toList_some]
    exact issued

theorem takeList_llip (dma : Controller) (idx : Nat) (allocated : Bool) :
    (dma.takeList idx allocated).llip =
      update dma.llip idx ((dma.takeList idx allocated).llip idx) := by
  unfold Controller.takeList
  cases allocated with
  | false => simp only [Bool.false_eq_true, if_false, update_self]
  | true => simp only [if_true, update_self]

theorem takeList_strays (allocated : Bool) :
    (dma.takeList idx allocated).bmem.strays = dma.bmem.strays := by
  unfold Controller.takeList
  split <;> rfl

end

end Hfirmware.Dma
