/-
Buffer and DMA stream of the two directions of the I2S.
-/

import Hfirmware.Dma.Stream
import Hfirmware.Kernel.BitmapMemory

namespace Hfirmware.Dma.I2s

open List Option Function GuardedRun Kernel
open Ownership

inductive I2sState where
  | stop | ready | working
deriving DecidableEq

/-- One direction of `I2SDriver`, and the streams it has taken and not given back. -/
structure Direction where
  state : I2sState
  buf : Option Nat
  (frameLen frameNum : Nat)
  dma : Option Nat
  streams : List Nat

structure Driver where
  dma : Controller
  room : Nat → Nat
  dirs : Side → Direction
  others : List Nat

def Direction.init : Direction := ⟨.stop, none, 0, 0, none, []⟩

def Driver.init : Driver := ⟨.init, fun _ => 0, fun _ => .init, []⟩

structure Start where
  (frameLen frameNum : Nat)
  (allocated listAllocated : Bool)

def Start.size (start : Start) : Nat := start.frameLen * start.frameNum

/-- The argument of `osBmemAlloc`, which takes 16 bits. -/
def Start.u16Size (start : Start) : Nat := u16 (u32 start.size)

def roomOf (u16Size : Nat) : Nat := bmemUnits u16Size * bmemUnit - bmemHeader

def Start.Allocates (start : Start) : Prop := start.allocated = true ∧ start.u16Size < bmemSize

instance (start : Start) : Decidable start.Allocates := inferInstanceAs (Decidable (_ ∧ _))

namespace Driver

def setDir (driver : Driver) (side : Side) (direction : Direction) : Driver :=
  { driver with dirs := update driver.dirs side direction }

def setBmem (driver : Driver) (bmem : Ledger User) : Driver :=
  { driver with dma := { driver.dma with bmem } }

def clearBuffer (driver : Driver) (side : Side) : Driver :=
  match (driver.dirs side).buf with
  | some block => driver.setBmem (driver.dma.bmem.use (.side side) block)
  | none => driver

def newBuffer (driver : Driver) (side : Side) (start : Start) : Driver :=
  { driver.setBmem (driver.dma.bmem.issue (.side side)) with
    room := update driver.room driver.dma.bmem.issued (roomOf start.u16Size) }.setDir side
    { driver.dirs side with buf := some driver.dma.bmem.issued }

def getBuffer (driver : Driver) (side : Side) (start : Start) : Option Driver :=
  match (driver.dirs side).buf with
  | some _ => some driver
  | none =>
    if start.Allocates then some ((driver.newBuffer side start).clearBuffer side) else none

def allocDma (driver : Driver) (side : Side) (listAllocated : Bool) : Bool × Driver :=
  let driver := driver.clearBuffer side
  let direction := driver.dirs side
  match driver.dma.streamAllocate with
  | (none, dma) => (false, { driver with dma }.setDir side { direction with dma := none })
  | (some idx, dma) =>
    (true, { driver with dma := dma.streamSetMode idx ⟨true, false⟩ listAllocated }.setDir side
      { direction with dma := some idx, streams := idx :: direction.streams })

def configure (driver : Driver) (side : Side) (start : Start) : Driver :=
  driver.setDir side { driver.dirs side with
    frameLen := start.frameLen
    frameNum := start.frameNum }

def setState (driver : Driver) (side : Side) (state : I2sState) : Driver :=
  driver.setDir side { driver.dirs side with state }

def freeBuffer (driver : Driver) (side : Side) : Driver :=
  match (driver.dirs side).buf with
  | some block => driver.setBmem (driver.dma.bmem.free (.side side) block)
  | none => driver

def finishPlay (driver : Driver) (start : Start) : Driver :=
  match (driver.configure .play start).allocDma .play start.listAllocated with
  | (false, driver) => driver.freeBuffer .play
  | (true, driver) => driver.setState .play .working

def finishRecord (driver : Driver) (start : Start) : Driver :=
  match (driver.configure .record start).allocDma .record start.listAllocated with
  | (false, driver) => driver
  | (true, driver) => driver.setState .record .working

def startSide (driver : Driver) (side : Side) (start : Start) (finish : Driver → Start → Driver) :
    Driver :=
  if (driver.dirs side).state = .stop then driver
  else
    match driver.getBuffer side start with
    | none => driver
    | some driver => finish driver start

def playStart (driver : Driver) (start : Start) : Driver :=
  driver.startSide .play start finishPlay

def recordStart (driver : Driver) (start : Start) : Driver :=
  driver.startSide .record start finishRecord

def stopSide (driver : Driver) (side : Side) : Driver :=
  let direction := driver.dirs side
  let driver := driver.freeBuffer side
  match direction.dma with
  | none => driver.setDir side { direction with state := .ready, buf := none }
  | some idx =>
    { driver with dma := (driver.dma.streamDisable idx).streamRelease idx }.setDir side
      { direction with
        state := .ready
        buf := none
        dma := none
        streams := direction.streams.erase idx }

def playStop (driver : Driver) : Driver := driver.stopSide .play

def recordStop (driver : Driver) : Driver := driver.stopSide .record

def lldStart (driver : Driver) : Driver :=
  if (driver.dirs .play).state = .stop ∧ (driver.dirs .record).state = .stop then
    (driver.setState .record .ready).setState .play .ready
  else driver

end Driver

inductive Action where
  | lldStart
  | playStart (start : Start)
  | recordStart (start : Start)
  | playStop | recordStop | otherAllocate
  | otherRelease (idx : Nat)

def Driver.step (driver : Driver) : Action → Driver
  | .lldStart => driver.lldStart
  | .playStart start => driver.playStart start
  | .recordStart start => driver.recordStart start
  | .playStop => driver.playStop
  | .recordStop => driver.recordStop
  | .otherAllocate =>
    match driver.dma.streamAllocate with
    | (none, dma) => { driver with dma }
    | (some idx, dma) => { driver with dma, others := idx :: driver.others }
  | .otherRelease idx =>
    if idx ∈ driver.others then
      { driver with dma := driver.dma.streamRelease idx, others := driver.others.erase idx }
    else driver

def Driver.run (driver : Driver) (actions : List Action) : Driver :=
  actions.foldl Driver.step driver

structure Owned (driver : Driver) (side : Side) : Prop where
  alive : ∀ block, (driver.dirs side).buf = some block →
    driver.dma.bmem.owner block = some (.side side)
  streams : (driver.dirs side).streams = (driver.dirs side).dma.toList
  works : (driver.dirs side).state = .working →
    ∃ block idx, (driver.dirs side).buf = some block ∧ (driver.dirs side).dma = some idx ∧
      (driver.dirs side).frameLen * (driver.dirs side).frameNum ≤ driver.room block

def Driver.taken (driver : Driver) : List Nat :=
  (driver.dirs .play).streams ++ ((driver.dirs .record).streams ++ driver.others)

structure Sound (driver : Driver) : Prop where
  owned : ∀ side, Owned driver side
  exclusive : driver.taken.Nodup
  strays : driver.dma.bmem.strays = []

/-- A start with this room for its buffer: if there is a stream, the buffer is large
enough, and without one only a recording gives up cleanly. -/
def StreamFits (driver : Driver) (side : Side) (start : Start) (room : Nat) : Prop :=
  if driver.dma.idleChannel.isSome then start.size ≤ room else side = .record

def StartFits (driver : Driver) (side : Side) (start : Start) : Prop :=
  match (driver.dirs side).state, (driver.dirs side).buf with
  | .stop, _ => True
  | .working, _ => False
  | .ready, some block => StreamFits driver side start (driver.room block)
  | .ready, none => start.Allocates → StreamFits driver side start (roomOf start.u16Size)

def Fits (driver : Driver) : Action → Prop
  | .playStart start => StartFits driver .play start
  | .recordStart start => StartFits driver .record start
  | _ => True

/-! ### What is held -/

def held (driver : Driver) : User → List Nat
  | .stream idx => (driver.dma.llip idx).toList
  | .side side => (driver.dirs side).buf.toList

structure SideGood (driver : Driver) (side : Side) : Prop where
  streams : (driver.dirs side).streams = (driver.dirs side).dma.toList
  works : (driver.dirs side).state = .working →
    ∃ block idx, (driver.dirs side).buf = some block ∧ (driver.dirs side).dma = some idx ∧
      (driver.dirs side).frameLen * (driver.dirs side).frameNum ≤ driver.room block
  rests : (driver.dirs side).state ≠ .working → (driver.dirs side).dma = none
  keeps : side = .play → (driver.dirs side).state ≠ .working → (driver.dirs side).buf = none

structure Core (driver : Driver) : Prop where
  balanced : Balanced driver.dma.bmem (held driver)
  strays : driver.dma.bmem.strays = []
  holds : Holds driver.dma driver.taken
  distinct : driver.taken.Nodup
  lists : ∀ idx, idx ∉ driver.taken → driver.dma.llip idx = none

structure Good (driver : Driver) : Prop extends Core driver where
  sides : ∀ side, SideGood driver side

section

variable {driver after : Driver} {side : Side} {direction : Direction} {block idx : Nat}

theorem mem_held (buf : (driver.dirs side).buf = some block) :
    block ∈ held driver (.side side) := by
  change block ∈ (driver.dirs side).buf.toList
  rw [buf]
  exact mem_singleton_self block

theorem Good.owner (good : Good driver) (buf : (driver.dirs side).buf = some block) :
    driver.dma.bmem.owner block = some (.side side) :=
  (good.balanced.owner block (.side side)).mpr (mem_held buf)

theorem Good.sound (good : Good driver) : Sound driver :=
  ⟨fun side => ⟨fun _ buf => good.owner buf, (good.sides side).streams, (good.sides side).works⟩,
    good.distinct, good.strays⟩

theorem Good.init : Good .init where
  balanced := balanced_empty.perm fun user => by cases user <;> exact .refl _
  strays := rfl
  holds := Holds.init
  distinct := .nil
  lists := fun _ _ => rfl
  sides := fun _ => ⟨rfl, nofun, fun _ => rfl, fun _ _ => rfl⟩

def Side.other : Side → Side
  | .play => .record
  | .record => .play

def rest (driver : Driver) (side : Side) : List Nat :=
  (driver.dirs (Side.other side)).streams ++ driver.others

theorem taken_perm (driver : Driver) (side : Side) :
    driver.taken.Perm ((driver.dirs side).streams ++ rest driver side) := by
  cases side with
  | play => exact .refl _
  | record =>
    unfold Driver.taken rest Side.other
    rw [← append_assoc, ← append_assoc]
    exact perm_append_comm.append_right _

@[simp] theorem dirs_setDir : (driver.setDir side direction).dirs side = direction :=
  update_self _ _ _

@[simp] theorem setState_setDir (driver : Driver) (side : Side) (direction : Direction)
    (state : I2sState) :
    (driver.setDir side direction).setState side state =
      driver.setDir side { direction with state } := by
  unfold Driver.setState
  rw [dirs_setDir]
  unfold Driver.setDir
  rw [update_idem]

theorem held_stream (bufs : ∀ side, (after.dirs side).buf = (driver.dirs side).buf)
    {list : Option Nat} (lists : after.dma.llip = update driver.dma.llip idx list) :
    held after = update (held driver) (.stream idx) list.toList := by
  funext user
  cases user with
  | side other =>
    change (after.dirs other).buf.toList = (driver.dirs other).buf.toList
    rw [bufs]
  | stream other =>
    change (after.dma.llip other).toList = _
    rw [lists]
    by_cases same : other = idx
    · rw [same, update_self, update_self]
    · have apart : User.stream other ≠ .stream idx := fun user => same (User.stream.inj user)
      rw [update_of_ne same, update_of_ne apart]
      rfl

structure Moved (driver after : Driver) (side : Side) (direction : Direction) : Prop where
  dirs : after.dirs = update driver.dirs side direction
  others : after.others = driver.others

namespace Moved

variable (moved : Moved driver after side direction)
include moved

theorem here : after.dirs side = direction := by
  rw [moved.dirs, update_self]

theorem there {other : Side} (different : other ≠ side) : after.dirs other = driver.dirs other := by
  rw [moved.dirs, update_of_ne different]

theorem held (lists : after.dma.llip = driver.dma.llip) :
    held after = update (held driver) (.side side) direction.buf.toList := by
  funext user
  cases user with
  | stream idx =>
    change (after.dma.llip idx).toList = (driver.dma.llip idx).toList
    rw [lists]
  | side other =>
    change (after.dirs other).buf.toList = _
    by_cases same : other = side
    · rw [same, moved.here, update_self]
    · rw [moved.there same, update_of_ne (fun equal => same (by cases equal; rfl))]
      rfl

theorem taken (streams : direction.streams = (driver.dirs side).streams) :
    after.taken = driver.taken := by
  have same : ∀ other, (after.dirs other).streams = (driver.dirs other).streams := by
    intro other
    by_cases equal : other = side
    · rw [equal, moved.here, streams]
    · rw [moved.there equal]
  unfold Driver.taken
  rw [same, same, moved.others]

theorem taken_cons (before : (driver.dirs side).streams = [])
    (streams : direction.streams = [idx]) :
    after.taken.Perm (idx :: driver.taken) := by
  have new := taken_perm after side
  have old := taken_perm driver side
  have same : rest after side = rest driver side := by
    unfold rest
    rw [moved.there (by cases side <;> exact nofun), moved.others]
  rw [moved.here, streams, same] at new
  rw [before] at old
  exact new.trans (old.symm.cons idx)

theorem sides (sides : ∀ other, other ≠ side → SideGood driver other)
    (room : ∀ other block, other ≠ side → (driver.dirs other).buf = some block →
      after.room block = driver.room block) :
    ∀ other, other ≠ side → SideGood after other := by
  intro other different
  obtain ⟨streams, works, rests, keeps⟩ := sides other different
  have same := moved.there different
  refine ⟨same ▸ streams, ?_, same ▸ rests, same ▸ keeps⟩
  rw [same]
  intro working
  obtain ⟨block, idx, buf, dma, fits⟩ := works working
  exact ⟨block, idx, buf, dma, room other block different buf ▸ fits⟩

theorem sideGood (streams : direction.streams = direction.dma.toList)
    (works : direction.state = .working → ∃ block idx, direction.buf = some block ∧
      direction.dma = some idx ∧ direction.frameLen * direction.frameNum ≤ after.room block)
    (rests : direction.state ≠ .working → direction.dma = none)
    (keeps : side = .play → direction.state ≠ .working → direction.buf = none) :
    SideGood after side := by
  have here := moved.here
  constructor <;> rw [here]
  · exact streams
  · exact works
  · exact rests
  · exact keeps

end Moved

theorem Core.good (core : Core driver) (sides : ∀ other, other ≠ side → SideGood driver other)
    (here : SideGood driver side) : Good driver := by
  refine ⟨core, fun other => ?_⟩
  by_cases same : other = side
  · exact same ▸ here
  · exact sides other same

theorem Core.moved (core : Core driver) (moved : Moved driver after side direction)
    (buf : direction.buf = (driver.dirs side).buf)
    (streams : direction.streams = (driver.dirs side).streams)
    (lists : after.dma.llip = driver.dma.llip) (bmem : after.dma.bmem = driver.dma.bmem)
    (holds : Holds after.dma driver.taken) : Core after := by
  have taken := moved.taken streams
  have same : I2s.held after = I2s.held driver := by
    rw [moved.held lists, buf]
    exact update_eq_self_iff.mpr rfl
  refine ⟨?_, ?_, taken ▸ holds, taken ▸ core.distinct, ?_⟩
  · rw [same, bmem]
    exact core.balanced
  · rw [bmem]
    exact core.strays
  · rw [taken, lists]
    exact core.lists

/-! ### A start -/

structure Ready (driver : Driver) (side : Side) (block : Nat) : Prop extends Core driver where
  sides : ∀ other, other ≠ side → SideGood driver other
  state : (driver.dirs side).state = .ready
  buf : (driver.dirs side).buf = some block
  dma : (driver.dirs side).dma = none
  streams : (driver.dirs side).streams = []

theorem Core.ready (core : Core after) (moved : Moved driver after side direction)
    (sides : ∀ other, other ≠ side → SideGood after other) (state : direction.state = .ready)
    (buf : direction.buf = some block) (dma : direction.dma = none)
    (streams : direction.streams = []) : Ready after side block := by
  have here := moved.here
  refine ⟨core, sides, ?_, ?_, ?_, ?_⟩ <;> rw [here]
  · exact state
  · exact buf
  · exact dma
  · exact streams

theorem Good.resting (good : Good driver) (ready : (driver.dirs side).state = .ready) :
    (driver.dirs side).dma = none ∧ (driver.dirs side).streams = [] := by
  have dma := (good.sides side).rests (by rw [ready]; exact nofun)
  exact ⟨dma, by rw [(good.sides side).streams, dma]; rfl⟩

theorem Ready.owner (ready : Ready driver side block) :
    driver.dma.bmem.owner block = some (.side side) :=
  (ready.balanced.owner block (.side side)).mpr (mem_held ready.buf)

theorem clearBuffer_eq (buf : (driver.dirs side).buf = some block)
    (owner : driver.dma.bmem.owner block = some (.side side)) :
    driver.clearBuffer side = driver := by
  unfold Driver.clearBuffer
  rw [buf]
  dsimp only
  rw [Ledger.use_of_owner owner]
  rfl

theorem Good.kept (good : Good driver) (ready : (driver.dirs side).state = .ready)
    (buf : (driver.dirs side).buf = some block) : Ready driver side block := by
  obtain ⟨dma, streams⟩ := good.resting ready
  exact ⟨good.toCore, fun other _ => good.sides other, ready, buf, dma, streams⟩

theorem Good.newBuffer (good : Good driver) (ready : (driver.dirs side).state = .ready)
    (buf : (driver.dirs side).buf = none) (start : Start) :
    Ready (driver.newBuffer side start) side driver.dma.bmem.issued := by
  obtain ⟨dma, streams⟩ := good.resting ready
  have moved : Moved driver (driver.newBuffer side start) side
      { driver.dirs side with buf := some driver.dma.bmem.issued } := ⟨rfl, rfl⟩
  have taken := moved.taken rfl
  have issued := good.balanced.issue (.side side)
  have empty : held driver (.side side) = [] := by
    change (driver.dirs side).buf.toList = []
    rw [buf]
    rfl
  rw [empty] at issued
  have core : Core (driver.newBuffer side start) := by
    refine ⟨?_, good.strays, ?_, taken ▸ good.distinct,
      fun idx free => good.lists idx (taken ▸ free)⟩
    · rwa [moved.held rfl]
    · rw [taken]
      exact { good.holds with }
  refine core.ready moved (moved.sides (fun other _ => good.sides other) ?_) ready rfl dma streams
  intro other _ _ there
  exact update_of_ne (Nat.ne_of_lt (good.balanced.below (mem_held there))) _ _

section

variable (ready : Ready driver side block)
include ready

theorem Ready.configure (start : Start) : Ready (driver.configure side start) side block := by
  have moved : Moved driver (driver.configure side start) side { driver.dirs side with
      frameLen := start.frameLen, frameNum := start.frameNum } := ⟨rfl, rfl⟩
  exact (ready.toCore.moved moved rfl rfl rfl rfl ready.holds).ready moved
    (moved.sides ready.sides fun _ _ _ _ => rfl) ready.state ready.buf ready.dma ready.streams

theorem Ready.noStream (none : driver.dma.idleChannel = none) (listAllocated : Bool) :
    ∃ after, driver.allocDma side listAllocated = (false, after) ∧ Ready after side block := by
  have result := streamAllocate_fst driver.dma
  have holds := ready.holds.allocate
  obtain ⟨lists, memory⟩ := streamAllocate_lists driver.dma
  unfold Driver.allocDma
  dsimp only
  rw [clearBuffer_eq ready.buf ready.owner]
  rw [none] at result
  generalize driver.dma.streamAllocate = found at result holds lists memory ⊢
  obtain ⟨_, dma⟩ := found
  cases result
  refine ⟨_, rfl, ?_⟩
  have moved : Moved driver (Driver.setDir { driver with dma } side
      { driver.dirs side with dma := Option.none }) side
      { driver.dirs side with dma := Option.none } := ⟨rfl, rfl⟩
  exact (ready.toCore.moved moved rfl rfl lists memory holds.1).ready moved
    (moved.sides ready.sides fun _ _ _ _ => rfl) ready.state ready.buf rfl ready.streams

theorem Ready.stream (found : driver.dma.idleChannel = some idx) (listAllocated : Bool) :
    ∃ after, driver.allocDma side listAllocated = (true, after) ∧
      after.dirs side = { driver.dirs side with dma := some idx, streams := [idx] } ∧
      after.room = driver.room ∧
      ((driver.dirs side).frameLen * (driver.dirs side).frameNum ≤ driver.room block →
        Good (after.setState side .working)) := by
  have result := streamAllocate_fst driver.dma
  have holds := ready.holds.allocate
  obtain ⟨lists, memory⟩ := streamAllocate_lists driver.dma
  unfold Driver.allocDma
  dsimp only
  rw [clearBuffer_eq ready.buf ready.owner]
  rw [found] at result
  generalize driver.dma.streamAllocate = pair at result holds lists memory ⊢
  obtain ⟨_, dma⟩ := pair
  cases result
  obtain ⟨free, _, holds⟩ := holds
  refine ⟨_, rfl, ?_, rfl, fun fits => ?_⟩
  · rw [dirs_setDir, ready.streams]
  rw [setState_setDir, ready.streams]
  generalize next : Driver.setDir _ _ _ = after
  have controller : after.dma = dma.streamSetMode idx ⟨true, false⟩ listAllocated := by
    rw [← next]; rfl
  have room : after.room = driver.room := by rw [← next]; rfl
  have moved : Moved driver after side
      { driver.dirs side with dma := some idx, streams := [idx], state := .working } := by
    rw [← next]
    exact ⟨rfl, rfl⟩
  have taken := moved.taken_cons ready.streams rfl
  have noList : held driver (.stream idx) = [] := by
    change (driver.dma.llip idx).toList = []
    rw [ready.lists idx free]
    rfl
  have same : held after = update (held driver) (.stream idx)
      ((dma.takeList idx listAllocated).llip idx).toList := by
    refine held_stream (fun other => ?_) ?_
    · by_cases equal : other = side
      · rw [equal, moved.here]
      · rw [moved.there equal]
    · rw [controller, ← lists]
      exact takeList_llip dma idx listAllocated
  have core : Core after := by
    refine ⟨?_, ?_, ?_, ?_, fun other unused => ?_⟩
    · rw [same, controller]
      exact takeList_balanced (memory ▸ ready.balanced) noList listAllocated
    · rw [controller]
      exact (takeList_strays listAllocated).trans (memory ▸ ready.strays)
    · rw [controller]
      exact (holds.setMode _ listAllocated).perm taken
    · exact taken.nodup_iff.mpr (nodup_cons.mpr ⟨free, ready.distinct⟩)
    · rw [taken.mem_iff, mem_cons, not_or] at unused
      rw [controller]
      change (dma.takeList idx listAllocated).llip other = none
      rw [takeList_llip, update_of_ne unused.1, lists]
      exact ready.lists other unused.2
  refine core.good (moved.sides ready.sides fun _ _ _ _ => room ▸ rfl) (moved.sideGood rfl ?_ ?_ ?_)
  · exact fun _ => ⟨block, idx, ready.buf, rfl, room ▸ fits⟩
  · exact fun rests => absurd rfl rests
  · exact fun _ rests => absurd rfl rests

end

theorem Ready.good (ready : Ready driver .record block) : Good driver := by
  refine ready.toCore.good ready.sides ⟨?_, fun works => ?_, fun _ => ready.dma, nofun⟩
  · rw [ready.streams, ready.dma]
    rfl
  · rw [ready.state] at works
    cases works

theorem Ready.freed (ready : Ready driver side block) : ¬Sound (driver.freeBuffer side) := by
  intro sound
  have same : driver.freeBuffer side =
      driver.setBmem (driver.dma.bmem.free (.side side) block) := by
    unfold Driver.freeBuffer
    rw [ready.buf]
  rw [same] at sound
  have alive := (sound.owned side).alive block ready.buf
  change (driver.dma.bmem.free (.side side) block).owner block = _ at alive
  rw [Ledger.free_owner, if_pos rfl] at alive
  cases alive

theorem unsound_of_small (works : (driver.dirs side).state = .working)
    (buf : (driver.dirs side).buf = some block)
    (small : driver.room block < (driver.dirs side).frameLen * (driver.dirs side).frameNum) :
    ¬Sound driver := by
  intro sound
  obtain ⟨_, _, there, _, fits⟩ := (sound.owned side).works works
  cases buf.symm.trans there
  exact absurd fits small.not_ge

theorem Ready.found (ready : Ready driver side block) (start : Start)
    (found : driver.dma.idleChannel = some idx) :
    ∃ after, (driver.configure side start).allocDma side start.listAllocated = (true, after) ∧
      (start.size ≤ driver.room block → Good (after.setState side .working)) ∧
      (¬start.size ≤ driver.room block → ¬Sound (after.setState side .working)) := by
  have here : (driver.configure side start).dirs side =
      { driver.dirs side with frameLen := start.frameLen, frameNum := start.frameNum } :=
    dirs_setDir
  obtain ⟨after, result, dirs, room, good⟩ :=
    (ready.configure start).stream found start.listAllocated
  rw [here] at good dirs
  refine ⟨after, result, good, fun small => ?_⟩
  have last : (after.setState side .working).dirs side =
      { after.dirs side with state := .working } := dirs_setDir
  refine @unsound_of_small _ side block ?_ ?_ ?_ <;> rw [last]
  · rw [dirs]
    exact ready.buf
  · rw [dirs]
    change after.room block < _
    rw [room]
    exact not_le.mp small

def finished (side : Side) (fails : Driver → Driver) (driver : Driver) (start : Start) : Driver :=
  match (driver.configure side start).allocDma side start.listAllocated with
  | (false, driver) => fails driver
  | (true, driver) => driver.setState side .working

theorem Ready.finished (ready : Ready driver side block) (start : Start) {fails : Driver → Driver}
    (failed : ∀ after, Ready after side block → (side = .record → Good (fails after)) ∧
      (side ≠ .record → ¬Sound (fails after))) :
    (StreamFits driver side start (driver.room block) → Good (finished side fails driver start)) ∧
      (¬StreamFits driver side start (driver.room block) →
        ¬Sound (finished side fails driver start)) := by
  unfold StreamFits I2s.finished
  cases found : driver.dma.idleChannel with
  | none =>
    obtain ⟨after, result, ready⟩ := (ready.configure start).noStream found start.listAllocated
    rw [result]
    exact failed after ready
  | some =>
    obtain ⟨after, result, both⟩ := ready.found start found
    rwa [result]

theorem allocDma_lost (streams : (driver.dirs side).streams = [idx]) (start : Start) :
    let after := ((driver.configure side start).allocDma side start.listAllocated).2.dirs side
    after.streams ≠
      after.dma.toList := by
  have cleared : ((driver.configure side start).clearBuffer side).dirs =
      (driver.configure side start).dirs := by
    unfold Driver.clearBuffer
    split <;> rfl
  have before : ((driver.configure side start).dirs side).streams = [idx] := by
    rwa [Driver.configure, dirs_setDir]
  unfold Driver.allocDma
  dsimp only
  rw [cleared]
  split <;> dsimp only <;> rw [dirs_setDir, before] <;> nofun

theorem finished_lost (streams : (driver.dirs side).streams = [idx]) (start : Start)
    {fails : Driver → Driver} (same : ∀ after, (fails after).dirs = after.dirs) :
    ¬Sound (finished side fails driver start) := by
  have lost := allocDma_lost streams start
  unfold finished
  generalize (driver.configure side start).allocDma side start.listAllocated = result at lost ⊢
  obtain ⟨ok, after⟩ := result
  intro sound
  have kept := (sound.owned side).streams
  cases ok with
  | false =>
    dsimp only at kept
    rw [same] at kept
    exact lost kept
  | true =>
    dsimp only [Driver.setState] at kept
    rw [dirs_setDir] at kept
    exact lost kept

theorem Good.startSide (good : Good driver) (side : Side) (start : Start)
    {fails : Driver → Driver} (same : ∀ after, (fails after).dirs = after.dirs)
    (failed : ∀ after block, Ready after side block → (side = .record → Good (fails after)) ∧
      (side ≠ .record → ¬Sound (fails after))) :
    let last := driver.startSide side start (finished side fails)
    (StartFits driver side start → Good last) ∧ (¬StartFits driver side start → ¬Sound last) := by
  have finishes driver block (ready : Ready driver side block) :=
    ready.finished start fun after => failed after block
  unfold Driver.startSide StartFits Driver.getBuffer
  cases state : (driver.dirs side).state with
  | stop => exact ⟨fun _ => good, fun never => absurd trivial never⟩
  | working =>
    obtain ⟨block, idx, buf, dma, _⟩ := (good.sides side).works state
    rw [buf]
    refine ⟨False.elim, fun _ => @finished_lost driver side idx ?_ start _ same⟩
    rw [(good.sides side).streams, dma]
    rfl
  | ready =>
    cases buf : (driver.dirs side).buf with
    | some block => exact finishes driver block (good.kept state buf)
    | none =>
      by_cases allocates : start.Allocates
      · have new := good.newBuffer state buf start
        have room : (driver.newBuffer side start).room driver.dma.bmem.issued =
            roomOf start.u16Size := update_self _ _ _
        have both := finishes _ _ new
        rw [room] at both
        simp only [reduceCtorEq, if_false, if_pos allocates, clearBuffer_eq new.buf new.owner]
        exact ⟨fun fits => both.1 (fits allocates),
          fun never => both.2 fun fits => never fun _ => fits⟩
      · simp only [reduceCtorEq, if_false, if_neg allocates]
        exact ⟨fun _ => good, fun never => absurd (fun now => absurd now allocates) never⟩

/-! ### A stop -/

theorem Good.freeBuffer (good : Good driver) (side : Side) :
    ∃ bmem, driver.freeBuffer side = driver.setBmem bmem ∧
      Balanced bmem (update (held driver) (.side side) []) ∧ bmem.strays = [] := by
  unfold Driver.freeBuffer
  cases buf : (driver.dirs side).buf with
  | none =>
    refine ⟨driver.dma.bmem, rfl, ?_, good.strays⟩
    have empty : [] = held driver (.side side) := by
      change _ = (driver.dirs side).buf.toList
      rw [buf]
      rfl
    rw [update_eq_self_iff.mpr empty]
    exact good.balanced
  | some block =>
    have single : held driver (.side side) = [block] := by
      change (driver.dirs side).buf.toList = _
      rw [buf]
      rfl
    refine ⟨_, rfl, good.balanced.free single, ?_⟩
    rw [Ledger.free_strays, Ledger.use_of_owner (good.owner buf)]
    exact good.strays

theorem Core.released (core : Core driver) (taken : driver.taken.Perm (idx :: after.taken))
    {dma : Controller} (controller : after.dma = dma.streamRelease idx)
    (holds : Holds dma driver.taken) (lists : dma.llip = driver.dma.llip)
    {users : User → List Nat} (balanced : Balanced dma.bmem users) (strays : dma.bmem.strays = [])
    (list : users (.stream idx) = (dma.llip idx).toList)
    (same : after.dma.llip = update driver.dma.llip idx none →
      held after = update users (.stream idx) []) : Core after := by
  have member : idx ∈ driver.taken := taken.mem_iff.mpr (.head _)
  have left : after.taken.Perm (driver.taken.erase idx) := by
    have erased := taken.erase idx
    rw [erase_cons_head] at erased
    exact erased.symm
  obtain ⟨llip, memory⟩ := streamRelease_lists dma idx
  obtain ⟨released, clean, cleared⟩ := freeList_balanced balanced list
  rw [cleared, lists, ← controller] at llip
  refine ⟨?_, ?_, ?_, left.nodup_iff.mpr (core.distinct.erase idx), fun other unused => ?_⟩
  · rwa [same llip, controller, memory]
  · rwa [controller, memory, clean]
  · rw [controller]
    exact (holds.release core.distinct member).perm left
  · rw [llip]
    by_cases equal : other = idx
    · rw [equal, update_self]
    · rw [update_of_ne equal]
      refine core.lists other fun used => unused ?_
      exact (mem_cons.mp (taken.mem_iff.mp used)).resolve_left equal

theorem Good.stopSide (good : Good driver) (side : Side) : Good (driver.stopSide side) := by
  obtain ⟨bmem, freed, balanced, strays⟩ := good.freeBuffer side
  have streams := (good.sides side).streams
  have holds : Holds (driver.setBmem bmem).dma driver.taken :=
    { good.holds with }
  unfold Driver.stopSide
  dsimp only
  rw [freed]
  cases dma : (driver.dirs side).dma with
  | none =>
    rw [dma, toList_none] at streams
    dsimp only
    generalize next : Driver.setDir _ _ _ = after
    have moved : Moved driver after side
        { driver.dirs side with state := .ready, buf := none, dma := none } := by
      rw [← next]
      exact ⟨rfl, rfl⟩
    have controller : after.dma = (driver.setBmem bmem).dma := by rw [← next]; rfl
    have taken := moved.taken rfl
    have core : Core after := by
      refine ⟨?_, controller ▸ strays, ?_, taken ▸ good.distinct, ?_⟩
      · rw [moved.held (by rw [controller]; rfl), controller]
        exact balanced
      · rwa [taken, controller]
      · rw [taken, controller]
        exact good.lists
    exact core.good (moved.sides (fun other _ => good.sides other) fun _ _ _ _ => next ▸ rfl)
      (moved.sideGood streams nofun (fun _ => rfl) fun _ _ => rfl)
  | some idx =>
    rw [dma, toList_some] at streams
    dsimp only
    generalize next : Driver.setDir _ _ _ = after
    have moved : Moved driver after side
        { driver.dirs side with state := .ready, buf := none, dma := none, streams := [] } := by
      rw [← next, streams]
      simp only [erase_cons_head]
      exact ⟨rfl, rfl⟩
    have controller : after.dma =
        ((driver.setBmem bmem).dma.streamDisable idx).streamRelease idx := by rw [← next]; rfl
    have back : Moved after driver side (driver.dirs side) :=
      ⟨by rw [moved.dirs, update_idem, update_eq_self], moved.others.symm⟩
    have ready : StreamState.ready ≠ .idle := nofun
    have core : Core after := by
      refine good.toCore.released (back.taken_cons (by rw [moved.here]) streams) controller
        (holds.setState idx ready) rfl balanced strays rfl fun lists => ?_
      have stopped : Moved driver (driver.setDir side (after.dirs side)) side _ := ⟨rfl, rfl⟩
      have without := stopped.held rfl
      rw [moved.here] at without
      rw [← show (none : Option Nat).toList = [] from rfl, ← without]
      refine held_stream (fun other => ?_) lists
      rw [moved.dirs]
      rfl
    exact core.good (moved.sides (fun other _ => good.sides other) fun _ _ _ _ => next ▸ rfl)
      (moved.sideGood rfl nofun (fun _ => rfl) fun _ _ => rfl)

theorem Good.wake (good : Good driver) (stopped : (driver.dirs side).state = .stop) :
    Good (driver.setState side .ready) := by
  have moved : Moved driver (driver.setState side .ready) side
      { driver.dirs side with state := .ready } := ⟨rfl, rfl⟩
  have rests : (driver.dirs side).state ≠ .working := by
    rw [stopped]
    nofun
  exact (good.toCore.moved moved rfl rfl rfl rfl good.holds).good
    (moved.sides (fun other _ => good.sides other) fun _ _ _ _ => rfl)
    (moved.sideGood (good.sides side).streams nofun (fun _ => (good.sides side).rests rests)
      fun play _ => (good.sides side).keeps play rests)

theorem Good.lldStart (good : Good driver) : Good driver.lldStart := by
  unfold Driver.lldStart
  split
  · rename_i both
    exact (good.wake both.2).wake both.1
  · exact good

theorem SideGood.congr (good : SideGood driver side) (same : after.dirs = driver.dirs)
    (room : after.room = driver.room) : SideGood after side := by
  obtain ⟨streams, works, rests, keeps⟩ := good
  constructor <;> rw [same]
  · exact streams
  · exact room ▸ works
  · exact rests
  · exact keeps

theorem Good.otherAllocate (good : Good driver) : Good (driver.step .otherAllocate) := by
  obtain ⟨lists, memory⟩ := streamAllocate_lists driver.dma
  have holds := good.holds.allocate
  unfold Driver.step
  generalize driver.dma.streamAllocate = result at lists memory holds ⊢
  obtain ⟨stream, dma⟩ := result
  have same (after : Driver) (dirs : after.dirs = driver.dirs) (controller : after.dma = dma) :
      held after = held driver := by
    funext user
    cases user with
    | stream idx =>
      change (after.dma.llip idx).toList = (driver.dma.llip idx).toList
      rw [controller, lists]
    | side side =>
      change (after.dirs side).buf.toList = (driver.dirs side).buf.toList
      rw [dirs]
  cases stream with
  | none =>
    exact ⟨⟨same { driver with dma } rfl rfl ▸ memory ▸ good.balanced,
      memory ▸ good.strays, holds.1, good.distinct, lists ▸ good.lists⟩,
      fun side => (good.sides side).congr rfl rfl⟩
  | some idx =>
    obtain ⟨free, _, holds⟩ := holds
    have taken : Driver.taken { driver with dma, others := idx :: driver.others } |>.Perm
        (idx :: driver.taken) := by
      unfold Driver.taken
      rw [← append_assoc, ← append_assoc]
      exact perm_middle
    refine ⟨⟨same { driver with dma, others := idx :: driver.others } rfl rfl ▸
        memory ▸ good.balanced, memory ▸ good.strays, holds.perm taken,
      taken.nodup_iff.mpr (nodup_cons.mpr ⟨free, good.distinct⟩), fun other unused => ?_⟩,
      fun side => (good.sides side).congr rfl rfl⟩
    rw [taken.mem_iff, mem_cons, not_or] at unused
    rw [lists]
    exact good.lists other unused.2

theorem Good.otherRelease (good : Good driver) (idx : Nat) :
    Good (driver.step (.otherRelease idx)) := by
  unfold Driver.step
  dsimp only
  split
  · rename_i member
    generalize next : Driver.mk _ _ _ _ = after
    have dirs : after.dirs = driver.dirs := by rw [← next]
    have controller : after.dma = driver.dma.streamRelease idx := by rw [← next]
    have taken : driver.taken.Perm (idx :: after.taken) := by
      rw [← next]
      unfold Driver.taken
      rw [← append_assoc, ← append_assoc]
      exact ((perm_cons_erase member).append_left _).trans perm_middle
    have core := good.toCore.released taken controller good.holds rfl good.balanced good.strays rfl
      fun lists => held_stream (fun side => by rw [dirs]) lists
    exact ⟨core, fun side => (good.sides side).congr dirs (by rw [← next])⟩
  · exact good

end

theorem Good.step {driver : Driver} (good : Good driver) (action : Action) :
    (Fits driver action → Good (driver.step action)) ∧
      (¬Fits driver action → ¬Sound (driver.step action)) := by
  cases action with
  | lldStart => exact ⟨fun _ => good.lldStart, fun never => absurd trivial never⟩
  | playStart start =>
    exact good.startSide .play start (fun after => by unfold Driver.freeBuffer; split <;> rfl)
      fun _ _ ready => ⟨nofun, fun _ => ready.freed⟩
  | recordStart start =>
    exact good.startSide .record start (fun _ => rfl)
      fun _ _ ready => ⟨fun _ => ready.good, fun never => absurd rfl never⟩
  | playStop => exact ⟨fun _ => good.stopSide .play, fun never => absurd trivial never⟩
  | recordStop => exact ⟨fun _ => good.stopSide .record, fun never => absurd trivial never⟩
  | otherAllocate => exact ⟨fun _ => good.otherAllocate, fun never => absurd trivial never⟩
  | otherRelease idx => exact ⟨fun _ => good.otherRelease idx, fun never => absurd trivial never⟩

theorem fits_of_sound {actions : List Action} {driver : Driver} (good : Good driver)
    (sound : ∀ before after, actions = before ++ after → Sound (driver.run before)) :
    Along Driver.step Fits driver actions := by
  induction actions generalizing driver with
  | nil => trivial
  | cons action rest ih =>
    have fits : Fits driver action := by
      by_contra never
      exact (good.step action).2 never (sound [action] rest rfl)
    exact ⟨fits, ih ((good.step action).1 fits) fun before after same =>
      sound (action :: before) after (congrArg (action :: ·) same)⟩

/-- Buffers and streams are sound after every call exactly if each start fits. -/
theorem i2s_ownership (actions : List Action) :
    (∀ before after, actions = before ++ after → Sound (Driver.run .init before)) ↔
      Along Driver.step Fits .init actions := by
  refine ⟨fits_of_sound Good.init, fun along before after same => ?_⟩
  have preserved : ∀ driver action, Good driver → Fits driver action → Good (driver.step action) :=
    fun _ action good fits => (good.step action).1 fits
  rw [same] at along
  exact (invariant_of_along preserved Good.init (along_append.mp along).1).sound

def smallStart : Start := ⟨128, 4, true, true⟩

def largeStart : Start := { smallStart with frameNum := 8 }

/-- A product of `2 ^ 16`, of which `osBmemAlloc` sees nothing. -/
def cutStart : Start := { smallStart with frameLen := 8192, frameNum := 8 }

def crowded : List Action := [.lldStart, .otherAllocate, .otherAllocate, .otherAllocate]

/-- A playback that finds no stream keeps a freed buffer; a recording works with a small
buffer that it kept; a second start loses a stream; and a large product is cut to
nothing. -/
theorem i2s_ownership_lost : ¬Sound (Driver.run .init (crowded ++ [.playStart smallStart])) ∧
    (Driver.run .init (crowded ++ [.playStart smallStart, .playStop])).dma.bmem.strays ≠ [] ∧
    ¬Sound (Driver.run .init (crowded ++
      [.recordStart smallStart, .otherRelease 0, .recordStart largeStart])) ∧
    ¬Sound (Driver.run .init [.lldStart, .playStart smallStart, .playStart smallStart]) ∧
    ¬Sound (Driver.run .init [.lldStart, .recordStart cutStart]) := by
  refine ⟨fun sound => ?_, by decide, fun sound => ?_, fun sound => ?_, fun sound => ?_⟩
  · exact absurd ((sound.owned .play).alive 0 rfl) (by decide)
  · exact @unsound_of_small _ .record 0 rfl rfl (by decide) sound
  · exact absurd (sound.owned .play).streams (by decide)
  · exact @unsound_of_small _ .record 0 rfl rfl (by decide) sound

end Hfirmware.Dma.I2s
