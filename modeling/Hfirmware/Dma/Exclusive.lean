/-
Streams that a thread and an interrupt take and give back.
-/

import Hfirmware.Dma.Stream
import Hfirmware.GuardedRun

namespace Hfirmware.Dma.Exclusive

open List Option Controller Function GuardedRun
open Ownership

variable {idx : Nat}

inductive Pc where
  | idle | allocCheck | allocClock
  /-- `_dma_getIdleChannel`: the tests of bit and state, then the mask is read and
  written back. -/
  | allocScan (idx : Nat)
  | allocState (idx : Nat)
  | allocRead (idx : Nat)
  | allocWrite (idx : Nat) (mask : BitVec 16)
  | allocDisable (idx : Nat)
  | allocStop (idx : Nat)
  | modeList (idx : Nat) (mode : Mode)
  | modeReady (idx : Nat)
  | relCheck (idx : Nat)
  | relRead (idx : Nat)
  | relWrite (idx : Nat) (mask : BitVec 16)
  | relIdle (idx : Nat)
  /-- `dmaStreamRelease`: the stream is disabled, then clock and list. -/
  | relDisable (idx : Nat)
  | relMask (idx : Nat)
  | relClock (idx : Nat)
  | relList (idx : Nat)
  | relFree (idx : Nat) (block : Nat)
  | relClear (idx : Nat)
deriving DecidableEq

structure System where
  dma : Controller
  pc : Pc
  (thread isr : List Nat)

def System.init : System := ⟨.init, .idle, [], []⟩

inductive Call where
  | allocate
  | setMode (idx : Nat) (mode : Mode)
  | release (idx : Nat)

namespace System

def goto (system : System) (pc : Pc) : System := { system with pc }

def setDma (system : System) (dma : Controller) (pc : Pc) : System :=
  { system with dma, pc }

def call (system : System) : Call → System
  | .allocate => if system.pc = .idle then system.goto .allocCheck else system
  | .setMode idx mode =>
    if system.pc = .idle ∧ idx ∈ system.thread then system.goto (.modeList idx mode) else system
  | .release idx =>
    if system.pc = .idle ∧ idx ∈ system.thread then
      { system with thread := system.thread.erase idx, pc := .relCheck idx }
    else system

/-- The next statement. `allocated` is the answer of the memory for a list. -/
def next (system : System) (allocated : Bool) : System :=
  let dma := system.dma
  match system.pc with
  | .idle => system
  | .allocCheck => system.goto (if dma.mask = 0 then .allocClock else .allocScan 0)
  | .allocClock => system.setDma { dma with clock := true } (.allocScan 0)
  | .allocScan idx =>
    if idx < hsDmaStreams then
      system.goto (if dma.mask.getLsbD idx then .allocState idx else .allocRead idx)
    else system.goto .idle
  | .allocState idx =>
    system.goto (if dma.state idx = .idle then .allocRead idx else .allocScan (idx + 1))
  | .allocRead idx => system.goto (.allocWrite idx dma.mask)
  | .allocWrite idx mask => system.setDma { dma with mask := mask ||| bit idx } (.allocDisable idx)
  | .allocDisable idx => system.setDma (dma.setState idx .ready) (.allocStop idx)
  | .allocStop idx =>
    { system.setDma (dma.setState idx .stop) .idle with thread := idx :: system.thread }
  | .modeList idx mode =>
    system.setDma (if mode.lliEn then dma.takeList idx allocated else dma)
      (if mode.memToMem then .idle else .modeReady idx)
  | .modeReady idx => system.setDma (dma.setState idx .ready) .idle
  | .relCheck idx => system.goto (if dma.mask.getLsbD idx then .relRead idx else .relDisable idx)
  | .relRead idx => system.goto (.relWrite idx dma.mask)
  | .relWrite idx mask => system.setDma { dma with mask := mask &&& ~~~bit idx } (.relIdle idx)
  | .relIdle idx => system.setDma (dma.setState idx .idle) (.relDisable idx)
  | .relDisable idx => system.setDma (dma.setState idx .ready) (.relMask idx)
  | .relMask idx => system.goto (if dma.mask = 0 then .relClock idx else .relList idx)
  | .relClock idx => system.setDma { dma with clock := false } (.relList idx)
  | .relList idx =>
    match dma.llip idx with
    | none => system.goto .idle
    | some block => system.goto (.relFree idx block)
  | .relFree idx block =>
    system.setDma { dma with bmem := dma.bmem.free (.stream idx) block } (.relClear idx)
  | .relClear idx => system.setDma { dma with llip := update dma.llip idx none } .idle

def isrAllocate (system : System) : System :=
  match system.dma.streamAllocate with
  | (none, dma) => { system with dma }
  | (some idx, dma) => { system with dma, isr := idx :: system.isr }

def isrRelease (system : System) (idx : Nat) : System :=
  if idx ∈ system.isr then
    { system with dma := system.dma.streamRelease idx, isr := system.isr.erase idx }
  else system

end System

inductive Action where
  | call (call : Call)
  | next (allocated : Bool)
  | isrAllocate
  | isrRelease (idx : Nat)

def System.step (system : System) : Action → System
  | .call call => system.call call
  | .next allocated => system.next allocated
  | .isrAllocate => system.isrAllocate
  | .isrRelease idx => system.isrRelease idx

def System.run (system : System) (actions : List Action) : System :=
  actions.foldl System.step system

def System.owned (system : System) : List Nat := system.thread ++ system.isr

def lists (dma : Controller) : User → List Nat
  | .stream idx => (dma.llip idx).toList
  | .side _ => []

structure Safe (system : System) : Prop where
  exclusive : system.owned.Nodup
  mask : system.pc = .idle → Marked system.dma.mask system.owned
  clock : system.owned ≠ [] → system.dma.clock = true
  clean : Clean system.dma.bmem (lists system.dma)
  kept : system.pc = .idle → ∀ idx, system.dma.llip idx ≠ none → idx ∈ system.owned

def Pc.flight : Pc → List Nat
  | .allocDisable idx | .allocStop idx | .relCheck idx | .relRead idx | .relWrite idx _ => [idx]
  | _ => []

def Pc.closed : Pc → Prop
  | .allocRead _ | .allocWrite _ _ | .relWrite _ _ | .relClock _ => True
  | _ => False

def Allowed (system : System) : Action → Prop
  | .call (.setMode idx mode) => mode.lliEn = true → system.dma.llip idx = none
  | .isrAllocate => ¬system.pc.closed ∧
      ∀ idx ∈ system.owned ++ system.pc.flight, system.dma.state idx ≠ .idle
  | .isrRelease idx =>
    match system.pc with
    | .allocWrite _ _ | .relWrite _ _ => False
    | .allocScan _ | .allocState _ | .allocRead _ => system.owned.erase idx ≠ []
    | .relFree other _ | .relClear other => other ≠ idx
    | _ => True
  | _ => True

instance decidableClosed (pc : Pc) : Decidable pc.closed := by
  cases pc <;> first | exact isTrue trivial | exact isFalse id

instance decidableAllowed (system : System) (action : Action) : Decidable (Allowed system action) :=
  match action with
  | .call (.setMode idx mode) =>
    inferInstanceAs (Decidable (mode.lliEn = true → system.dma.llip idx = none))
  | .call .allocate | .call (.release _) | .next _ => isTrue trivial
  | .isrAllocate =>
    inferInstanceAs (Decidable (¬system.pc.closed ∧
      ∀ idx ∈ system.owned ++ system.pc.flight, system.dma.state idx ≠ .idle))
  | .isrRelease idx => by
      unfold Allowed
      cases system.pc <;> infer_instance

def Pc.scanning : Pc → Prop
  | .allocScan _ | .allocState _ | .allocRead _ | .allocWrite _ _ => True
  | _ => False

def Pc.releasing : Pc → Option Nat
  | .relCheck idx | .relRead idx | .relWrite idx _ | .relIdle idx | .relDisable idx
  | .relMask idx | .relClock idx | .relList idx | .relFree idx _ | .relClear idx => some idx
  | _ => none

def heldAt (system : System) : User → List Nat
  | .stream idx => if system.pc = .relClear idx then [] else (system.dma.llip idx).toList
  | .side _ => []

def At (system : System) : Prop :=
  match system.pc with
  | .allocState idx => idx < hsDmaStreams
  | .allocRead idx => idx ∉ system.owned ∧ idx < hsDmaStreams
  | .allocWrite idx mask => (idx ∉ system.owned ∧ idx < hsDmaStreams) ∧ mask = system.dma.mask
  | .modeList idx mode =>
    idx ∈ system.thread ∧ (mode.lliEn = true → system.dma.llip idx = none)
  | .relWrite _ mask => mask = system.dma.mask
  | .relClock _ => system.dma.mask = 0
  | .relFree idx block => system.dma.llip idx = some block
  | _ => True

structure Inv (system : System) : Prop where
  distinct : (system.owned ++ system.pc.flight).Nodup
  marked : Marked system.dma.mask (system.owned ++ system.pc.flight)
  busy : ∀ idx ∈ system.owned, system.dma.state idx = .idle → system.pc = .relDisable idx
  clock : system.owned ++ system.pc.flight ≠ [] ∨ system.pc.scanning → system.dma.clock = true
  balanced : Balanced system.dma.bmem (heldAt system)
  strays : system.dma.bmem.strays = []
  listed : ∀ idx, system.dma.llip idx ≠ none → idx ∈ system.thread ∨ system.pc.releasing = some idx
  here : At system

theorem Inv.init : Inv .init where
  distinct := .nil
  marked := Holds.init.marked
  busy := nofun
  clock := fun cases => cases.elim (fun some => absurd rfl some) False.elim
  balanced := balanced_empty.perm fun user => by cases user <;> exact .refl _
  strays := rfl
  listed := fun _ some => absurd rfl some
  here := trivial

theorem Inv.safe {system : System} (inv : Inv system) : Safe system := by
  refine ⟨?_, fun idle => ?_, fun some => inv.clock (.inl ?_), ⟨inv.strays, fun block below => ?_⟩,
    fun idle idx some => ?_⟩
  · exact (nodup_append.mp inv.distinct).1
  · have marked := inv.marked
    rw [idle] at marked
    exact marked.perm (append_nil _ ▸ .refl _)
  · exact fun nothing => some (append_eq_nil_iff.mp nothing).1
  · rcases inv.balanced.once below with freed | ⟨unfreed, user, member⟩
    · exact .inl freed
    · refine .inr ⟨unfreed, user, ?_⟩
      cases user with
      | side => exact member
      | stream idx =>
        change block ∈ (if system.pc = .relClear idx then [] else _) at member
        split at member
        · cases member
        · exact member
  · rcases inv.listed idx some with member | releasing
    · exact mem_append_left _ member
    · rw [idle] at releasing
      cases releasing

theorem heldAt_update (idx : Nat) (system after : System)
    (llip : ∀ other, other ≠ idx → after.dma.llip other = system.dma.llip other)
    (pc : ∀ other, other ≠ idx → (after.pc = .relClear other ↔ system.pc = .relClear other)) :
    heldAt after = update (heldAt system) (.stream idx) (heldAt after (.stream idx)) := by
  funext user
  by_cases same : user = .stream idx
  · rw [same, update_self]
  · rw [update_of_ne same]
    cases user with
    | side => rfl
    | stream other =>
      have apart : other ≠ idx := fun equal => same (congrArg User.stream equal)
      unfold heldAt
      dsimp only
      rw [if_congr (pc other apart) rfl rfl, llip other apart]

variable {after : System}

theorem heldAt_eq {system : System} (llip : after.dma.llip = system.dma.llip)
    (pc : ∀ idx, after.pc = .relClear idx ↔ system.pc = .relClear idx) :
    heldAt after = heldAt system := by
  funext user
  cases user with
  | side => rfl
  | stream idx =>
    unfold heldAt
    dsimp only
    rw [if_congr (pc idx) rfl rfl, llip]

theorem Inv.move {system : System} (inv : Inv system)
    (thread : after.thread = system.thread) (isr : after.isr = system.isr)
    (flight : after.pc.flight = system.pc.flight)
    (memory : after.dma.mask = system.dma.mask ∧ after.dma.llip = system.dma.llip ∧
      after.dma.bmem = system.dma.bmem)
    (before : ∀ idx, system.pc ≠ .relClear idx) (now : ∀ idx, after.pc ≠ .relClear idx)
    (busy : ∀ idx ∈ system.owned, after.dma.state idx = .idle → after.pc = .relDisable idx)
    (clock : system.owned ++ system.pc.flight ≠ [] ∨ after.pc.scanning → after.dma.clock)
    (releasing : ∀ idx, system.dma.llip idx ≠ none → system.pc.releasing = some idx →
      after.pc.releasing = some idx)
    (here : At after) : Inv after := by
  have owned : after.owned = system.owned := by
    unfold System.owned
    rw [thread, isr]
  obtain ⟨mask, llip, bmem⟩ := memory
  refine ⟨?_, ?_, ?_, ?_, ?_, bmem ▸ inv.strays, fun idx some => ?_, here⟩
  · rw [owned, flight]
    exact inv.distinct
  · rw [owned, flight, mask]
    exact inv.marked
  · rwa [owned]
  · rwa [owned, flight]
  · rw [heldAt_eq llip fun idx => iff_of_false (now idx) (before idx), bmem]
    exact inv.balanced
  · rw [llip] at some
    rw [thread]
    exact (inv.listed idx some).imp id (releasing idx some)

section

variable {dma : Controller} {thread isr : List Nat} {allocated : Bool}

theorem Inv.goto {pc after : Pc} (inv : Inv ⟨dma, pc, thread, isr⟩)
    (flight : after.flight = pc.flight) (before : ∀ idx, pc ≠ .relClear idx ∧ pc ≠ .relDisable idx)
    (now : ∀ idx, after ≠ .relClear idx) (clock : after.scanning → dma.clock)
    (releasing : ∀ idx, dma.llip idx ≠ none → pc.releasing = some idx → after.releasing = some idx)
    (here : At ⟨dma, after, thread, isr⟩) : Inv ⟨dma, after, thread, isr⟩ :=
  inv.move rfl rfl flight ⟨rfl, rfl, rfl⟩ (fun idx => (before idx).1) now
    (fun idx member idle => absurd (inv.busy idx member idle) (before idx).2)
    (fun cases => cases.elim (fun some => inv.clock (.inl some)) clock) releasing here

theorem Inv.allocCheck (inv : Inv ⟨dma, .allocCheck, thread, isr⟩) :
    Inv (System.next ⟨dma, .allocCheck, thread, isr⟩ allocated) := by
  change Inv ⟨dma, if dma.mask = 0 then .allocClock else .allocScan 0, thread, isr⟩
  split
  · exact inv.goto rfl (fun _ => ⟨nofun, nofun⟩) nofun nofun nofun trivial
  · next zero =>
    have clock := inv.clock (.inl (mt inv.marked.eq_zero.mpr zero))
    exact inv.goto rfl (fun _ => ⟨nofun, nofun⟩) nofun (fun _ => clock) nofun trivial

theorem Inv.allocScan (inv : Inv ⟨dma, .allocScan idx, thread, isr⟩) :
    Inv (System.next ⟨dma, .allocScan idx, thread, isr⟩ allocated) := by
  have clock := inv.clock (.inr trivial)
  by_cases below : idx < hsDmaStreams
  · by_cases set : dma.mask.getLsbD idx
    · have next : System.next ⟨dma, .allocScan idx, thread, isr⟩ allocated =
          ⟨dma, .allocState idx, thread, isr⟩ := by simp [System.next, below, set, System.goto]
      rw [next]
      exact inv.goto rfl (fun _ => ⟨nofun, nofun⟩) nofun (fun _ => clock) nofun below
    · have next : System.next ⟨dma, .allocScan idx, thread, isr⟩ allocated =
          ⟨dma, .allocRead idx, thread, isr⟩ := by simp [System.next, below, set, System.goto]
      rw [next]
      have free : idx ∉ thread ++ isr := fun member =>
        set ((inv.marked.bits idx).mpr (mem_append_left _ member))
      exact inv.goto rfl (fun _ => ⟨nofun, nofun⟩) nofun (fun _ => clock) nofun ⟨free, below⟩
  · have next : System.next ⟨dma, .allocScan idx, thread, isr⟩ allocated =
        ⟨dma, .idle, thread, isr⟩ := by simp [System.next, below, System.goto]
    rw [next]
    exact inv.goto rfl (fun _ => ⟨nofun, nofun⟩) nofun (fun _ => clock) nofun trivial

theorem Inv.allocState (inv : Inv ⟨dma, .allocState idx, thread, isr⟩) :
    Inv (System.next ⟨dma, .allocState idx, thread, isr⟩ allocated) := by
  have clock := inv.clock (.inr trivial)
  change Inv ⟨dma, if dma.state idx = .idle then .allocRead idx else .allocScan (idx + 1), thread,
    isr⟩
  split
  · next idle =>
    have free : idx ∉ thread ++ isr := fun member => nomatch inv.busy idx member idle
    exact inv.goto rfl (fun _ => ⟨nofun, nofun⟩) nofun (fun _ => clock) nofun ⟨free, inv.here⟩
  · exact inv.goto rfl (fun _ => ⟨nofun, nofun⟩) nofun (fun _ => clock) nofun trivial

variable {mask : BitVec 16}

theorem Inv.allocWrite (inv : Inv ⟨dma, .allocWrite idx mask, thread, isr⟩) :
    Inv (System.next ⟨dma, .allocWrite idx mask, thread, isr⟩ allocated) := by
  obtain ⟨⟨free, below⟩, same⟩ := inv.here
  have clock := inv.clock (.inr trivial)
  have distinct := inv.distinct
  have marked := inv.marked
  change (thread ++ isr ++ []).Nodup at distinct
  change Marked dma.mask (thread ++ isr ++ []) at marked
  rw [append_nil] at distinct marked
  have joined : (thread ++ isr ++ [idx]).Perm (idx :: (thread ++ isr)) :=
    perm_append_singleton _ _
  refine ⟨?_, ?_, ?_, fun _ => clock, inv.balanced, inv.strays, inv.listed, trivial⟩
  · exact joined.nodup_iff.mpr (nodup_cons.mpr ⟨free, distinct⟩)
  · change Marked (mask ||| bit idx) (thread ++ isr ++ [idx])
    rw [same]
    exact (marked.set below).perm joined
  · exact fun other member idle => nomatch inv.busy other member idle

theorem idle_of_setState (state : StreamState) (busy : state ≠ .idle) {other : Nat}
    (idle : (dma.setState idx state).state other = .idle) :
    other ≠ idx ∧ dma.state other = .idle := by
  change update dma.state idx state other = .idle at idle
  by_cases same : other = idx
  · rw [same, update_self] at idle
    exact absurd idle busy
  · rw [update_of_ne same] at idle
    exact ⟨same, idle⟩

theorem Inv.allocStop (inv : Inv ⟨dma, .allocStop idx, thread, isr⟩) :
    Inv (System.next ⟨dma, .allocStop idx, thread, isr⟩ allocated) := by
  have joined : (idx :: thread ++ isr ++ []).Perm (thread ++ isr ++ [idx]) := by
    rw [append_nil]
    exact (perm_append_singleton _ _).symm
  refine ⟨joined.nodup_iff.mpr inv.distinct, inv.marked.perm joined, fun other member idle => ?_,
    fun _ => inv.clock (.inl ?_), inv.balanced, inv.strays, fun other some => ?_, trivial⟩
  · obtain ⟨different, idle⟩ := idle_of_setState .stop nofun idle
    have before := (mem_cons.mp member).resolve_left different
    cases inv.busy other before idle
  · exact append_ne_nil_of_right_ne_nil _ nofun
  · exact .inl (mem_cons_of_mem _ ((inv.listed other some).resolve_right nofun))

theorem takeList_rest (dma : Controller) (idx : Nat) (allocated : Bool) :
    let after := dma.takeList idx allocated
    after.mask = dma.mask ∧ after.state = dma.state ∧ after.clock = dma.clock := by
  cases allocated <;> exact ⟨rfl, rfl, rfl⟩

theorem Inv.takeList {mode : Mode} (inv : Inv ⟨dma, .modeList idx mode, thread, isr⟩)
    (empty : dma.llip idx = none) :
    Inv ⟨dma.takeList idx allocated, .modeReady idx, thread, isr⟩ := by
  obtain ⟨mask, state, clock⟩ := takeList_rest dma idx allocated
  have llip := takeList_llip dma idx allocated
  have held := heldAt_update idx ⟨dma, .modeList idx mode, thread, isr⟩
    ⟨dma.takeList idx allocated, .modeReady idx, thread, isr⟩
    (fun other apart => (congrFun llip other).trans (update_of_ne apart _ _))
    (fun _ _ => iff_of_false nofun nofun)
  refine ⟨inv.distinct, mask ▸ inv.marked, fun other member idle => ?_, fun cases => ?_, ?_, ?_,
    fun other some => ?_, trivial⟩
  · rw [state] at idle
    cases inv.busy other member idle
  · rw [clock]
    exact inv.clock (cases.imp id False.elim)
  · rw [held]
    exact takeList_balanced inv.balanced (congrArg toList empty) allocated
  · exact (takeList_strays allocated).trans inv.strays
  · by_cases same : other = idx
    · rw [same]
      exact .inl inv.here.1
    · rw [llip, update_of_ne same] at some
      exact .inl ((inv.listed other some).resolve_right nofun)

theorem Inv.modeList {mode : Mode} (inv : Inv ⟨dma, .modeList idx mode, thread, isr⟩) :
    Inv (System.next ⟨dma, .modeList idx mode, thread, isr⟩ allocated) := by
  have ready : Inv ⟨if mode.lliEn then dma.takeList idx allocated else dma, .modeReady idx,
      thread, isr⟩ := by
    split
    · next listed =>
      exact inv.takeList (inv.here.2 listed)
    · exact inv.goto rfl (fun _ => ⟨nofun, nofun⟩) nofun nofun nofun trivial
  change Inv ⟨if mode.lliEn then dma.takeList idx allocated else dma,
    if mode.memToMem then .idle else .modeReady idx, thread, isr⟩
  cases mode.memToMem with
  | false => exact ready
  | true =>
    -- the mode for a copy in memory returns before the state is set
    exact ready.goto rfl (fun _ => ⟨nofun, nofun⟩) nofun nofun nofun trivial

/-! ### The statements of a release -/

theorem Inv.relCheck (inv : Inv ⟨dma, .relCheck idx, thread, isr⟩) :
    Inv (System.next ⟨dma, .relCheck idx, thread, isr⟩ allocated) := by
  have set := (inv.marked.bits idx).mpr (mem_append_right _ (mem_singleton_self idx))
  change Inv ⟨dma, if dma.mask.getLsbD idx then .relRead idx else .relDisable idx, thread, isr⟩
  rw [if_pos set]
  exact inv.goto rfl (fun _ => ⟨nofun, nofun⟩) nofun nofun (fun _ _ => id) trivial

theorem Inv.relWrite (inv : Inv ⟨dma, .relWrite idx mask, thread, isr⟩) :
    Inv (System.next ⟨dma, .relWrite idx mask, thread, isr⟩ allocated) := by
  have distinct := inv.distinct
  have marked : Marked dma.mask (thread ++ isr ++ [idx]) := inv.marked
  have gone : idx ∉ thread ++ isr := fun member =>
    (nodup_append.mp distinct).2.2 idx member idx (mem_singleton_self idx) rfl
  have erased : (thread ++ isr ++ [idx]).erase idx = thread ++ isr ++ [] := by
    rw [erase_append_right _ gone, erase_cons_head]
  have cleared := marked.clear distinct (mem_append_right _ (mem_singleton_self idx))
  rw [erased] at cleared
  refine ⟨?_, ?_, ?_, fun cases => inv.clock ?_, inv.balanced, inv.strays, inv.listed, trivial⟩
  · change (thread ++ isr ++ []).Nodup
    rw [append_nil]
    exact (nodup_append.mp distinct).1
  · have same : mask = dma.mask := inv.here
    rwa [same]
  · exact fun other member idle => nomatch inv.busy other member idle
  · exact .inl (append_ne_nil_of_right_ne_nil _ nofun)

theorem Inv.relIdle (inv : Inv ⟨dma, .relIdle idx, thread, isr⟩) :
    Inv (System.next ⟨dma, .relIdle idx, thread, isr⟩ allocated) := by
  refine inv.move rfl rfl rfl ⟨rfl, rfl, rfl⟩ nofun nofun ?_
    (fun cases => inv.clock (cases.imp id False.elim)) (fun _ _ => id) trivial
  intro other member idle
  change update dma.state idx .idle other = .idle at idle
  -- the interrupt may have taken the stream since its bit was cleared
  by_cases same : other = idx
  · rw [same]
    rfl
  · rw [update_of_ne same] at idle
    cases inv.busy other member idle

theorem Inv.relDisable (inv : Inv ⟨dma, .relDisable idx, thread, isr⟩) :
    Inv (System.next ⟨dma, .relDisable idx, thread, isr⟩ allocated) := by
  refine inv.move rfl rfl rfl ⟨rfl, rfl, rfl⟩ nofun nofun ?_
    (fun cases => inv.clock (cases.imp id False.elim)) (fun _ _ => id) trivial
  intro other member idle
  obtain ⟨different, before⟩ := idle_of_setState .ready nofun idle
  cases inv.busy other member before
  exact absurd rfl different

theorem Inv.relMask (inv : Inv ⟨dma, .relMask idx, thread, isr⟩) :
    Inv (System.next ⟨dma, .relMask idx, thread, isr⟩ allocated) := by
  change Inv ⟨dma, if dma.mask = 0 then .relClock idx else .relList idx, thread, isr⟩
  split
  · next zero =>
    exact inv.goto rfl (fun _ => ⟨nofun, nofun⟩) nofun nofun (fun _ _ => id) zero
  · exact inv.goto rfl (fun _ => ⟨nofun, nofun⟩) nofun nofun (fun _ _ => id) trivial

theorem Inv.relList (inv : Inv ⟨dma, .relList idx, thread, isr⟩) :
    Inv (System.next ⟨dma, .relList idx, thread, isr⟩ allocated) := by
  cases there : dma.llip idx with
  | none =>
    have next : System.next ⟨dma, .relList idx, thread, isr⟩ allocated =
        ⟨dma, .idle, thread, isr⟩ := by simp only [System.next, there, System.goto]
    rw [next]
    refine inv.goto rfl (fun _ => ⟨nofun, nofun⟩) nofun nofun ?_ trivial
    intro _ some releasing
    cases releasing
    exact absurd there some
  | some block =>
    have next : System.next ⟨dma, .relList idx, thread, isr⟩ allocated =
        ⟨dma, .relFree idx block, thread, isr⟩ := by simp only [System.next, there, System.goto]
    rw [next]
    exact inv.goto rfl (fun _ => ⟨nofun, nofun⟩) nofun nofun (fun _ _ => id) there

theorem Inv.relFree {block : Nat} (inv : Inv ⟨dma, .relFree idx block, thread, isr⟩) :
    Inv (System.next ⟨dma, .relFree idx block, thread, isr⟩ allocated) := by
  have there := inv.here
  have list : heldAt ⟨dma, .relFree idx block, thread, isr⟩ (.stream idx) = [block] :=
    congrArg toList there
  have owner := (inv.balanced.owner block _).mpr (list ▸ mem_singleton_self block)
  refine ⟨inv.distinct, inv.marked, ?_, fun cases => inv.clock (cases.imp id False.elim), ?_, ?_,
    inv.listed, trivial⟩
  · exact fun other member idle => nomatch inv.busy other member idle
  · have held := heldAt_update idx ⟨dma, .relFree idx block, thread, isr⟩
      ⟨{ dma with bmem := dma.bmem.free (.stream idx) block }, .relClear idx, thread, isr⟩
      (fun _ _ => rfl) fun other apart =>
        iff_of_false (fun same => apart (Pc.relClear.inj same).symm) nofun
    change Balanced (dma.bmem.free (.stream idx) block)
      (heldAt ⟨{ dma with bmem := dma.bmem.free (.stream idx) block }, .relClear idx, thread, isr⟩)
    have empty : heldAt ⟨{ dma with bmem := dma.bmem.free (.stream idx) block }, .relClear idx,
      thread, isr⟩ (.stream idx) = [] := if_pos rfl
    rw [held, empty]
    exact inv.balanced.free list
  · change (dma.bmem.use _ _).strays = _
    rw [Ledger.use_of_owner owner]
    exact inv.strays

theorem Inv.relClear (inv : Inv ⟨dma, .relClear idx, thread, isr⟩) :
    Inv (System.next ⟨dma, .relClear idx, thread, isr⟩ allocated) := by
  refine ⟨inv.distinct, inv.marked, ?_, fun cases => inv.clock (cases.imp id False.elim), ?_,
    inv.strays, fun other some => ?_, trivial⟩
  · exact fun other member idle => nomatch inv.busy other member idle
  · refine inv.balanced.perm fun user => ?_
    cases user with
    | side => exact .refl _
    | stream other =>
      change (update dma.llip idx none other).toList.Perm
        (if Pc.relClear idx = .relClear other then [] else (dma.llip other).toList)
      by_cases same : other = idx
      · rw [same, update_self, if_pos rfl]
        exact .refl _
      · rw [update_of_ne same, if_neg fun equal => same (Pc.relClear.inj equal).symm]
  · change update dma.llip idx none other ≠ none at some
    by_cases same : other = idx
    · rw [same, update_self] at some
      exact absurd rfl some
    · rw [update_of_ne same] at some
      refine (inv.listed other some).imp id fun releasing => ?_
      exact absurd (Option.some.inj releasing).symm same

theorem Inv.release (inv : Inv ⟨dma, .idle, thread, isr⟩) (member : idx ∈ thread) :
    Inv ⟨dma, .relCheck idx, thread.erase idx, isr⟩ := by
  have joined : (thread.erase idx ++ isr ++ [idx]).Perm (thread ++ isr ++ []) := by
    rw [append_nil]
    refine (perm_append_singleton idx _).trans ?_
    exact (perm_cons_erase member).symm.append_right isr
  refine ⟨joined.nodup_iff.mpr inv.distinct, inv.marked.perm joined, fun other inside idle => ?_,
    fun _ => inv.clock (.inl ?_), inv.balanced, inv.strays, fun other some => ?_, trivial⟩
  · have before := joined.mem_iff.mp (mem_append_left _ inside)
    rw [append_nil] at before
    cases inv.busy other before idle
  · exact ne_nil_of_mem (mem_append_left _ (mem_append_left _ member))
  · have before : other ∈ thread := (inv.listed other some).resolve_right nofun
    by_cases same : other = idx
    · rw [same]
      exact .inr rfl
    · exact .inl ((mem_erase_of_ne same).mpr before)

theorem Inv.call (inv : Inv ⟨dma, .idle, thread, isr⟩) (call : Call)
    (allowed : Allowed ⟨dma, .idle, thread, isr⟩ (.call call)) :
    Inv (System.call ⟨dma, .idle, thread, isr⟩ call) := by
  cases call with
  | allocate => exact inv.goto rfl (fun _ => ⟨nofun, nofun⟩) nofun nofun nofun trivial
  | setMode idx _ =>
    unfold System.call
    dsimp only
    split
    · rename_i both
      exact inv.goto rfl (fun _ => ⟨nofun, nofun⟩) nofun nofun nofun ⟨both.2, allowed⟩
    · exact inv
  | release idx =>
    unfold System.call
    dsimp only
    split
    · rename_i both
      exact inv.release both.2
    · exact inv

end

theorem Inv.next {system : System} (inv : Inv system) (allocated : Bool) :
    Inv (system.next allocated) := by
  obtain ⟨_, pc, _, _⟩ := system
  cases pc with
  | idle => exact inv
  | allocCheck => exact inv.allocCheck
  | allocClock =>
    exact inv.move rfl rfl rfl ⟨rfl, rfl, rfl⟩ nofun nofun
      (fun idx member idle => nomatch inv.busy idx member idle) (fun _ => rfl) nofun trivial
  | allocScan => exact inv.allocScan
  | allocState => exact inv.allocState
  | allocRead =>
    exact inv.goto rfl (fun _ => ⟨nofun, nofun⟩) nofun (fun _ => inv.clock (.inr trivial)) nofun
      ⟨inv.here, rfl⟩
  | allocWrite => exact inv.allocWrite
  | allocDisable | modeReady =>
    exact inv.move rfl rfl rfl ⟨rfl, rfl, rfl⟩ nofun nofun
      (fun idx member idle => nomatch inv.busy idx member (idle_of_setState .ready nofun idle).2)
      (fun cases => inv.clock (cases.imp id False.elim)) nofun trivial
  | allocStop => exact inv.allocStop
  | modeList => exact inv.modeList
  | relCheck => exact inv.relCheck
  | relRead => exact inv.goto rfl (fun _ => ⟨nofun, nofun⟩) nofun nofun (fun _ _ => id) rfl
  | relWrite => exact inv.relWrite
  | relIdle => exact inv.relIdle
  | relDisable => exact inv.relDisable
  | relMask => exact inv.relMask
  | relClock =>
    have nothing := inv.marked.eq_zero.mp inv.here
    exact inv.move rfl rfl rfl ⟨rfl, rfl, rfl⟩ nofun nofun
      (fun idx member idle => nomatch inv.busy idx member idle)
      (fun cases => cases.elim (fun some => absurd nothing some) False.elim) (fun _ _ => id) trivial
  | relList => exact inv.relList
  | relFree => exact inv.relFree
  | relClear => exact inv.relClear

/-! ### The calls of the interrupt -/

section

variable {system : System}

theorem At.of_open (here : At system) (outside : ¬system.pc.closed)
    (pc : after.pc = system.pc) (thread : after.thread = system.thread)
    (llip : after.dma.llip = system.dma.llip) : At after := by
  unfold At at here ⊢
  rw [pc, thread, llip]
  cases at_ : system.pc <;> rw [at_] at here outside <;>
    first | exact here | exact absurd trivial outside

theorem Inv.interrupted {dma : Controller} {isr : List Nat} (inv : Inv system)
    (outside : ¬system.pc.closed) (lists : dma.llip = system.dma.llip ∧ dma.bmem = system.dma.bmem)
    (distinct : (system.thread ++ isr ++ system.pc.flight).Nodup)
    (holds : Holds dma (system.thread ++ isr ++ system.pc.flight)) (clock : dma.clock) :
    Inv ⟨dma, system.pc, system.thread, isr⟩ := by
  obtain ⟨llip, bmem⟩ := lists
  have held : heldAt ⟨dma, system.pc, system.thread, isr⟩ = heldAt system :=
    heldAt_eq llip fun _ => Iff.rfl
  refine ⟨distinct, holds.marked, fun other member idle => ?_, fun _ => clock, ?_, ?_, ?_,
    inv.here.of_open outside rfl rfl llip⟩
  · exact absurd idle (holds.busy other (mem_append_left _ member))
  · rw [held]
    exact bmem ▸ inv.balanced
  · exact (congrArg Ledger.strays bmem).trans inv.strays
  · exact fun other some => inv.listed other (llip ▸ some)

theorem Inv.isrAllocate (inv : Inv system) (allowed : Allowed system .isrAllocate) :
    Inv system.isrAllocate := by
  have holds : Holds system.dma (system.owned ++ system.pc.flight) :=
    ⟨inv.marked, allowed.2, fun some => inv.clock (.inl some)⟩
  have allocated := holds.allocate
  have lists := streamAllocate_lists system.dma
  unfold System.isrAllocate
  generalize system.dma.streamAllocate = result at allocated lists
  obtain ⟨found, _⟩ := result
  cases found with
  | none =>
    obtain ⟨after, every⟩ := allocated
    -- all streams are in use, so that the clock runs
    have clock := after.clock (ne_nil_of_mem (every 0 (by decide)))
    exact inv.interrupted allowed.1 lists inv.distinct after clock
  | some idx =>
    obtain ⟨free, _, after⟩ := allocated
    have joined : (system.thread ++ idx :: system.isr ++ system.pc.flight).Perm
        (idx :: (system.owned ++ system.pc.flight)) :=
      perm_middle.append_right _
    exact inv.interrupted allowed.1 lists
      (joined.nodup_iff.mpr (nodup_cons.mpr ⟨free, inv.distinct⟩)) (after.perm joined)
      (after.clock nofun)

theorem disableClock_rest (dma : Controller) :
    dma.disableClock.mask = dma.mask ∧ dma.disableClock.state = dma.state ∧
      (dma.mask ≠ 0 → dma.disableClock.clock = dma.clock) := by
  unfold disableClock
  split
  · next zero =>
    exact ⟨rfl, rfl, fun set => absurd zero set⟩
  · exact ⟨rfl, rfl, fun _ => rfl⟩

theorem freeList_rest (dma : Controller) (idx : Nat) :
    (dma.freeList idx).mask = dma.mask ∧ (dma.freeList idx).state = dma.state ∧
      (dma.freeList idx).clock = dma.clock := by
  unfold freeList
  split <;> exact ⟨rfl, rfl, rfl⟩

theorem streamRelease_rest {dma : Controller} (set : dma.mask.getLsbD idx) :
    (dma.streamRelease idx).mask = dma.mask &&& ~~~bit idx ∧
      (∀ other, (dma.streamRelease idx).state other = .idle → dma.state other = .idle) ∧
      (dma.mask &&& ~~~bit idx ≠ 0 → (dma.streamRelease idx).clock = dma.clock) := by
  have released : dma.releaseChannel idx =
      { dma with mask := dma.mask &&& ~~~bit idx }.setState idx .idle := if_pos set
  obtain ⟨mask, state, clock⟩ := freeList_rest
    ((dma.releaseChannel idx).streamDisable idx).disableClock idx
  obtain ⟨mask', state', clock'⟩ := disableClock_rest ((dma.releaseChannel idx).streamDisable idx)
  unfold streamRelease
  rw [mask, state, clock, mask', state']
  rw [released] at clock' ⊢
  refine ⟨rfl, fun other idle => ?_, clock'⟩
  obtain ⟨apart, before⟩ := idle_of_setState .ready nofun idle
  change update dma.state idx .idle other = .idle at before
  rwa [update_of_ne apart] at before

theorem Allowed.not_relClear (allowed : Allowed system (.isrRelease idx)) :
    system.pc ≠ .relClear idx := by
  intro here
  unfold Allowed at allowed
  simp only [here] at allowed
  exact allowed rfl

theorem Allowed.clock_kept (allowed : Allowed system (.isrRelease idx))
    (scanning : system.pc.scanning) : system.owned.erase idx ≠ [] := by
  unfold Allowed at allowed
  cases here : system.pc <;> simp only [here] at allowed scanning <;>
    first | exact allowed | exact absurd scanning id

theorem At.isrRelease {dma : Controller} (inv : Inv system) (mine : idx ∈ system.isr)
    (apart : idx ∉ system.thread) (allowed : Allowed system (.isrRelease idx))
    (llip : dma.llip = update system.dma.llip idx none) :
    At ⟨dma, system.pc, system.thread, system.isr.erase idx⟩ := by
  have here := inv.here
  unfold At at here ⊢
  unfold Allowed at allowed
  cases pc : system.pc with
  | allocRead =>
    simp only [pc] at here ⊢
    refine ⟨fun member => here.1 ?_, here.2⟩
    exact (mem_append.mp member).elim (mem_append_left _) fun inside =>
      mem_append_right _ (mem_of_mem_erase inside)
  | allocWrite | relWrite =>
    simp only [pc] at allowed
  | modeList other =>
    simp only [pc] at here ⊢
    refine ⟨here.1, fun list => ?_⟩
    have different : other ≠ idx := fun same => apart (same ▸ here.1)
    rw [llip, update_of_ne different]
    exact here.2 list
  | relClock =>
    simp only [pc] at here
    have nothing := inv.marked.eq_zero.mp here
    have member : idx ∈ system.owned ++ system.pc.flight :=
      mem_append_left _ (mem_append_right _ mine)
    rw [nothing] at member
    cases member
  | relFree =>
    simp only [pc] at here allowed ⊢
    rwa [llip, update_of_ne allowed]
  | allocState =>
    simp only [pc] at here ⊢
    exact here
  | _ => trivial

theorem Inv.isrRelease (inv : Inv system) (allowed : Allowed system (.isrRelease idx)) :
    Inv (system.isrRelease idx) := by
  unfold System.isrRelease
  split
  · next mine =>
    have owned : idx ∈ system.owned := mem_append_right _ mine
    have used : idx ∈ system.owned ++ system.pc.flight := mem_append_left _ owned
    have apart : idx ∉ system.thread := fun member =>
      (nodup_append.mp (nodup_append.mp inv.distinct).1).2.2 idx member idx mine rfl
    have rest : system.owned.erase idx = system.thread ++ system.isr.erase idx :=
      erase_append_right _ apart
    have left : (system.owned ++ system.pc.flight).erase idx =
        system.thread ++ system.isr.erase idx ++ system.pc.flight := by
      rw [erase_append_left _ owned, rest]
    obtain ⟨mask, state, clock⟩ := streamRelease_rest ((inv.marked.bits idx).mpr used)
    obtain ⟨lists, memory⟩ := streamRelease_lists system.dma idx
    have list : heldAt system (.stream idx) = (system.dma.llip idx).toList :=
      if_neg allowed.not_relClear
    obtain ⟨balanced, strays, freed⟩ := freeList_balanced inv.balanced list
    have llip := lists.trans freed
    have cleared := inv.marked.clear inv.distinct used
    rw [left] at cleared
    refine ⟨left ▸ inv.distinct.erase idx, ?_, fun other member idle => ?_, fun cases => ?_, ?_,
      (congrArg Ledger.strays memory).trans (strays.trans inv.strays), fun other some => ?_,
      At.isrRelease inv mine apart allowed llip⟩
    · exact mask ▸ cleared
    · refine inv.busy other ?_ (state other idle)
      have inside : other ∈ system.thread ++ system.isr.erase idx := member
      rw [← rest] at inside
      exact mem_of_mem_erase inside
    · -- the clock is stopped only if no stream is left
      have some : system.thread ++ system.isr.erase idx ++ system.pc.flight ≠ [] := by
        rcases cases with some | scanning
        · exact some
        · exact append_ne_nil_of_left_ne_nil (rest ▸ allowed.clock_kept scanning) _
      rw [clock (mt cleared.eq_zero.mp some)]
      exact inv.clock (.inl (ne_nil_of_mem used))
    · have held := heldAt_update idx system
        ⟨system.dma.streamRelease idx, system.pc, system.thread, system.isr.erase idx⟩
        (fun other apart => (congrFun llip other).trans (update_of_ne apart _ _))
        (fun _ _ => Iff.rfl)
      have empty : heldAt ⟨system.dma.streamRelease idx, system.pc, system.thread,
          system.isr.erase idx⟩ (.stream idx) = [] := by
        refine (if_neg allowed.not_relClear).trans ?_
        rw [llip, update_self]
        rfl
      rw [held, empty]
      exact memory ▸ balanced
    · rw [llip] at some
      by_cases same : other = idx
      · rw [same, update_self] at some
        exact absurd rfl some
      · rw [update_of_ne same] at some
        exact inv.listed other some
  · exact inv

end

theorem System.call_of_busy {system : System} (busy : system.pc ≠ .idle) (call : Call) :
    system.call call = system := by
  cases call with
  | allocate => exact if_neg busy
  | setMode | release => exact if_neg fun both => busy both.1

theorem Inv.step {system : System} {action : Action} (inv : Inv system)
    (allowed : Allowed system action) : Inv (system.step action) := by
  cases action with
  | call call =>
    by_cases idle : system.pc = .idle
    · obtain ⟨dma, pc, thread, isr⟩ := system
      cases idle
      exact inv.call call allowed
    · change Inv (system.call call)
      rwa [System.call_of_busy idle]
  | next allocated => exact inv.next allocated
  | isrAllocate => exact inv.isrAllocate allowed
  | isrRelease => exact inv.isrRelease allowed

/-- In every run whose interrupts and modes are allowed, every state is safe. -/
theorem stream_exclusivity {actions : List Action}
    (along : Along System.step Allowed .init actions) :
    ∀ before after, actions = before ++ after → Safe (System.init.run before) := by
  intro before after split
  rw [split] at along
  have preserved : ∀ system action, Inv system → Allowed system action → Inv (system.step action) :=
    fun _ _ inv allowed => inv.step allowed
  exact (invariant_of_along preserved Inv.init (along_append.mp along).1).safe

theorem stream_exclusivity_interrupted :
    Safe (System.init.run ([.call .allocate, .next true, .isrAllocate] ++
      List.replicate 9 (.next true) ++ [.isrRelease 0, .call (.setMode 1 ⟨true, false⟩),
        .next true, .isrAllocate, .next true, .call (.release 1)] ++
      List.replicate 8 (.next true) ++ [.isrRelease 0] ++ List.replicate 2 (.next true))) :=
  stream_exclusivity (by decide +kernel) _ [] (append_nil _).symm

def allocateAlone : List Action := .call .allocate :: List.replicate 7 (.next true)

def setListAlone : List Action :=
  .call (.setMode 0 ⟨true, false⟩) :: List.replicate 2 (.next true)

def takenTwice : List Action :=
  .call .allocate :: List.replicate 5 (.next true) ++ .isrAllocate :: List.replicate 2 (.next true)

def maskLost : List Action :=
  allocateAlone ++ [.call (.release 0), .next true, .next true, .isrAllocate] ++
    List.replicate 6 (.next true)

/-- The interrupt takes the stream as soon as its bit is clear, and gives it back before the
thread has cleared the pointer of the list. -/
def freedTwice : List Action :=
  allocateAlone ++ setListAlone ++ [.call (.release 0)] ++ List.replicate 3 (.next true) ++
    [.isrAllocate] ++ List.replicate 5 (.next true) ++ [.isrRelease 0]

def listLost : List Action :=
  allocateAlone ++ setListAlone ++ setListAlone ++ [.call (.release 0)] ++
    List.replicate 10 (.next true)

theorem stream_exclusivity_broken : (System.init.run takenTwice).owned = [0, 0] ∧
    ((System.init.run maskLost).pc = .idle ∧ (System.init.run maskLost).owned = [1] ∧
      (System.init.run maskLost).dma.mask = 0 ∧ (System.init.run maskLost).dma.clock = false) ∧
    (System.init.run freedTwice).dma.bmem.frees 0 = 2 ∧
    ((System.init.run listLost).owned = [] ∧ (System.init.run listLost).dma.llip 0 = none ∧
      0 < (System.init.run listLost).dma.bmem.issued ∧
      (System.init.run listLost).dma.bmem.frees 0 = 0) := by
  decide +kernel

end Hfirmware.Dma.Exclusive
