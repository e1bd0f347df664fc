/-
The playback ring over whole runs.
-/

import Hfirmware.Audio.Playback

namespace Hfirmware.Audio

open List Nat GuardedRun Kernel RingWindow

variable {stmp : AudioStream} {width : Nat} {region : Region}

def PlayAction.reported (playback : Playback) : PlayAction → Option Nat
  | .interrupt addr => some addr
  | .thread addr =>
    match playback.call with
    | .getting _ | .finishing => some addr
    | .repairing => if playback.stmp.state = .runing then some addr else none
    | _ => none
  | _ => none

/-- The address lies in the buffer, and the way to it does not pass `app_ptr`. -/
def MayReport (stmp : AudioStream) (addr : Nat) : Prop :=
  stmp.state.upToPrepare = false → stmp.dma_start ≤ addr ∧ addr < stmp.dma_end ∧
      ahead stmp.boundary stmp.hw_ptr (newHwPtr stmp addr) ≤
        ahead stmp.boundary stmp.hw_ptr stmp.app_ptr

instance (stmp : AudioStream) (addr : Nat) : Decidable (MayReport stmp addr) :=
  inferInstanceAs (Decidable (_ → _))

def InOrder (playback : Playback) : PlayAction → Prop
  | .get _ => playback.call = .idle ∧ playback.mutex = false
  | .send size => playback.call = .idle ∧ size ≤ playback.last.len
  | .setAutoRepair _ | .thread _ | .interrupt _ => True

instance (playback : Playback) (action : PlayAction) : Decidable (InOrder playback action) := by
  cases action <;> unfold InOrder <;> infer_instance

def MayPlay (playback : Playback) (action : PlayAction) : Prop :=
  InOrder playback action ∧ ∀ addr ∈ action.reported playback, MayReport playback.stmp addr

instance (playback : Playback) (action : PlayAction) : Decidable (MayPlay playback action) :=
  inferInstanceAs (Decidable (_ ∧ _))

def Queued (stmp : AudioStream) (frame : Nat) : Prop :=
  frame < stmp.boundary ∧
    ahead stmp.boundary stmp.hw_ptr frame < ahead stmp.boundary stmp.hw_ptr stmp.app_ptr

def frameOf (stmp : AudioStream) (addr : Nat) : Nat :=
  (addr - stmp.dma_start) / (stmp.frame_bits / 8)

def Playback.Holds (playback : Playback) : Prop :=
  playback.mutex = true ∧ playback.call = .idle

structure RingSafe (playback : Playback) : Prop where
  app : playback.stmp.app_ptr < playback.stmp.boundary
  hw : playback.stmp.hw_ptr < playback.stmp.boundary
  counted : playback.played + audioPlayAvail playback.stmp = playback.written
  queued : audioPlayAvail playback.stmp ≤ playback.stmp.boundary - 1
  inside : playback.Holds → playback.stmp.dma_start ≤ playback.last.ppData ∧
    playback.last.ppData + playback.last.len ≤ playback.stmp.dma_end
  free : playback.Holds → ∀ addr, playback.last.ppData ≤ addr →
    addr < playback.last.ppData + playback.last.len →
      ¬Queued playback.stmp (frameOf playback.stmp addr)
  runs : playback.hung = false

def silenced (stmp : AudioStream) (addr : Nat) : List (Nat × Nat) :=
  if newHwPtr stmp addr > stmp.boundary ∨ newHwPtr stmp addr = stmp.hw_ptr then []
  else silenceSpans stmp (newHwPtr stmp addr)

def SilencesPlayed (playback : Playback) (action : PlayAction) : Prop :=
  ∀ addr ∈ action.reported playback, ∀ span ∈ silenced playback.stmp addr,
    ∀ byte, span.1 ≤ byte → byte < span.1 + span.2 →
      playback.stmp.dma_start ≤ byte ∧ byte < playback.stmp.dma_end ∧
        ¬Queued (audioUpdateHwPtr playback addr).stmp (frameOf playback.stmp byte)

/-- The frames are whole bytes, and the buffer is a whole number of them, not
none, of a size that the allocator can be asked for. -/
structure I2sConfig.WholeFrames (cfg : I2sConfig) : Prop where
  bytes : cfg.frameBits % 8 = 0
  some : 0 < cfg.size
  fits : cfg.size < 2 ^ 16
  frames : cfg.size % (cfg.frameBits / 8) = 0

structure Layout where
  (dma_start dma_end frame_bits min_aglin boundary : Nat)

def AudioStream.layout (stmp : AudioStream) : Layout :=
  { stmp with }

/-- A buffer of `boundary` frames of `width` bytes each. -/
structure Layout.Framed (layout : Layout) (width : Nat) : Prop where
  bits : layout.frame_bits = 8 * width
  wide : 0 < width
  aglin : layout.min_aglin = width
  some : 0 < layout.boundary
  bounded : layout.boundary * width < 2 ^ 16
  finish : layout.dma_end = layout.dma_start + layout.boundary * width
  addressed : layout.dma_end < 2 ^ 32

section

section

variable (framed : stmp.layout.Framed width)
include framed

theorem Layout.Framed.place :
    stmp.dma_end = stmp.dma_start + stmp.boundary * width ∧ stmp.dma_end < 2 ^ 32 :=
  ⟨framed.finish, framed.addressed⟩

theorem Layout.Framed.boundary_lt : stmp.boundary < 2 ^ 16 :=
  lt_of_le_of_lt (Nat.le_mul_of_pos_right _ framed.wide) framed.bounded

theorem Layout.Framed.bytes_le {frame : Nat} (below : frame ≤ stmp.boundary) :
    frame * width < 2 ^ 16 :=
  lt_of_le_of_lt (Nat.mul_le_mul_right _ below) framed.bounded

theorem Layout.Framed.frame2byte {frame : Nat} (below : frame ≤ stmp.boundary) :
    audioFrame2byte stmp frame = frame * width := by
  have bits : stmp.frame_bits = 8 * width := framed.bits
  have bounded := framed.bytes_le below
  have regroup : frame * (8 * width) = 8 * (frame * width) := mul_left_comm _ _ _
  rw [audioFrame2byte, bits, regroup, u32_of_lt (by omega), Nat.mul_div_cancel_left _ (by decide)]

theorem Layout.Framed.byte2frame {byte : Nat} (below : byte < 2 ^ 16) :
    audioByte2frame stmp byte = byte / width := by
  have bits : stmp.frame_bits = 8 * width := framed.bits
  rw [audioByte2frame, bits, u32_of_lt (by omega), mul_comm byte,
    Nat.mul_div_mul_left _ _ (by decide)]

theorem Layout.Framed.frameOf_eq (addr : Nat) :
    frameOf stmp addr = (addr - stmp.dma_start) / width := by
  have bits : stmp.frame_bits = 8 * width := framed.bits
  rw [frameOf, bits, Nat.mul_div_cancel_left _ (by decide)]

theorem Layout.Framed.span {first last addr : Nat} (order : first ≤ last)
    (inRing : last ≤ stmp.boundary) (above : stmp.dma_start + first * width ≤ addr)
    (below : addr < stmp.dma_start + first * width + (last - first) * width) :
    (stmp.dma_start ≤ addr ∧ addr < stmp.dma_end) ∧
      first ≤ frameOf stmp addr ∧ frameOf stmp addr < last := by
  have finish := framed.place.1
  have inside : last * width ≤ stmp.boundary * width := Nat.mul_le_mul_right _ inRing
  have joined : first * width + (last - first) * width = last * width := by
    rw [← add_mul, Nat.add_sub_cancel' order]
  rw [framed.frameOf_eq]
  refine ⟨⟨by omega, by omega⟩, ?_, ?_⟩
  · apply (Nat.le_div_iff_mul_le framed.wide).mpr
    omega
  · apply (Nat.div_lt_iff_lt_mul framed.wide).mpr
    omega

theorem Layout.Framed.newHwPtr_lt {addr : Nat} (report : MayReport stmp addr) :
    newHwPtr stmp addr < stmp.boundary := by
  have some : 0 < stmp.boundary := framed.some
  unfold newHwPtr
  cases early : stmp.state.upToPrepare with
  | true =>
    rwa [if_pos rfl, framed.byte2frame (by decide), Nat.zero_div]
  | false =>
    obtain ⟨above, _, _⟩ := report early
    obtain ⟨finish, addressed⟩ := framed.place
    have bounded : stmp.boundary * width < 2 ^ 16 := framed.bounded
    have less := mod_le (addr - stmp.dma_start) stmp.min_aglin
    rw [if_neg nofun]
    dsimp only
    rw [u32Sub_of_le (by omega) above, u32Sub_of_le (by omega) less, framed.byte2frame (by omega)]
    apply (Nat.div_lt_iff_lt_mul framed.wide).mpr
    omega

end

end

structure OnRing (stmp : AudioStream) : Prop where
  app : stmp.app_ptr < stmp.boundary
  hw : stmp.hw_ptr < stmp.boundary
  playing : stmp.state = .prepare ∧ stmp.hw_ptr = 0 ∨ stmp.state = .runing

def Fresh (stmp : AudioStream) (region : Region) (width : Nat) : Prop :=
  ∃ count, region.ppData = stmp.dma_start + stmp.app_ptr * width ∧ region.len = count * width ∧
    stmp.app_ptr + count ≤ stmp.boundary ∧
      ahead stmp.boundary stmp.hw_ptr stmp.app_ptr + count < stmp.boundary

/-- `app_ptr` has left the start of the region, and inserted points do not take
it back: they only follow after the first points of the ring. -/
def Stale (stmp : AudioStream) (region : Region) (width : Nat) : Prop :=
  ∃ frame, region.ppData = stmp.dma_start + frame * width ∧ frame < stmp.boundary ∧
    frame ≠ stmp.app_ptr ∧ (stmp.app_ptr < repairPointNum ∨ frame < stmp.app_ptr)

def LastRegion (stmp : AudioStream) (region : Region) (width : Nat) : Prop :=
  region.len = 0 ∨ Fresh stmp region width ∨ Stale stmp region width

structure RingInv (width : Nat) (playback : Playback) : Prop where
  framed : playback.stmp.layout.Framed width
  ring : OnRing playback.stmp
  counted : playback.played +
    ahead playback.stmp.boundary playback.stmp.hw_ptr playback.stmp.app_ptr = playback.written
  last : LastRegion playback.stmp playback.last width
  held : playback.Holds → Fresh playback.stmp playback.last width
  asleep : ∀ frame, playback.call = .waiting frame →
    playback.stmp.app_ptr + frame ≤ playback.stmp.boundary
  repair : playback.call = .repairing → playback.mutex = false
  runs : playback.hung = false

section

theorem OnRing.avail (ring : OnRing stmp) (framed : stmp.layout.Framed width) :
    audioPlayAvail stmp = ahead stmp.boundary stmp.hw_ptr stmp.app_ptr := by
  have bounded := framed.boundary_lt
  have app := ring.app
  have hw := ring.hw
  unfold audioPlayAvail ahead
  by_cases order : stmp.hw_ptr ≤ stmp.app_ptr
  · rw [if_pos order, if_pos order, u32Sub_of_le (by omega) order]
  · rw [if_neg order, if_neg order, u32_of_lt (by omega), u32Sub_of_le (by omega) (by omega)]

theorem OnRing.avail_lt (ring : OnRing stmp) :
    ahead stmp.boundary stmp.hw_ptr stmp.app_ptr < stmp.boundary :=
  ahead_lt ring.hw ring.app

theorem OnRing.inavail (ring : OnRing stmp) (framed : stmp.layout.Framed width) :
    audioPlayInavail stmp = stmp.boundary - ahead stmp.boundary stmp.hw_ptr stmp.app_ptr - 1 := by
  have bounded := framed.boundary_lt
  have less := ring.avail_lt
  have inner := u32Sub_of_le (show stmp.boundary < 2 ^ 32 by omega) less.le
  rw [audioPlayInavail, ring.avail framed, inner, u32Sub_of_le (by omega) (by omega)]

theorem Fresh.not_queued (fresh : Fresh stmp region width) (framed : stmp.layout.Framed width)
    (ring : OnRing stmp) {addr : Nat} (above : region.ppData ≤ addr)
    (below : addr < region.ppData + region.len) : ¬Queued stmp (frameOf stmp addr) := by
  obtain ⟨count, start, length, fits, room⟩ := fresh
  have counted : stmp.app_ptr + count - stmp.app_ptr = count := Nat.add_sub_cancel_left _ _
  rw [start] at above
  rw [start, length] at below
  obtain ⟨_, fromApp, toEnd⟩ := framed.span (Nat.le_add_right _ _) fits above
    (by rw [counted]; exact below)
  rintro ⟨_, queued⟩
  have app := ring.app
  have hw := ring.hw
  unfold ahead at queued room
  grind

end

section

variable {addr : Nat}

section

variable (ring : OnRing stmp) (framed : stmp.layout.Framed width) (report : MayReport stmp addr)
include ring framed report

theorem OnRing.reaches : ahead stmp.boundary stmp.hw_ptr (newHwPtr stmp addr) ≤
    ahead stmp.boundary stmp.hw_ptr stmp.app_ptr ∧
    (stmp.state = .prepare → newHwPtr stmp addr = 0) := by
  rcases ring.playing with ⟨prepared, atStart⟩ | running
  · have early : stmp.state.upToPrepare := by rw [prepared]; rfl
    have still : newHwPtr stmp addr = 0 := by
      rw [newHwPtr, if_pos early, framed.byte2frame (by decide), Nat.zero_div]
    rw [still, atStart, ahead_self]
    exact ⟨Nat.zero_le _, fun _ => rfl⟩
  · have late : stmp.state.upToPrepare = false := by rw [running]; rfl
    refine ⟨(report late).2.2, fun prepared => ?_⟩
    rw [running] at prepared
    cases prepared

theorem OnRing.passed : ahead stmp.boundary stmp.hw_ptr stmp.app_ptr =
    ahead stmp.boundary stmp.hw_ptr (newHwPtr stmp addr) +
      ahead stmp.boundary (newHwPtr stmp addr) stmp.app_ptr :=
  ahead_split ring.hw (framed.newHwPtr_lt report) ring.app (ring.reaches framed report).1

theorem OnRing.update : OnRing { stmp with hw_ptr := newHwPtr stmp addr } where
  app := ring.app
  hw := framed.newHwPtr_lt report
  playing := by
    rcases ring.playing with ⟨prepared, _⟩ | running
    · exact .inl ⟨prepared, (ring.reaches framed report).2 prepared⟩
    · exact .inr running

end

theorem Fresh.update (fresh : Fresh stmp region width) (ring : OnRing stmp)
    (framed : stmp.layout.Framed width) (report : MayReport stmp addr) :
    Fresh { stmp with hw_ptr := newHwPtr stmp addr } region width := by
  obtain ⟨count, start, length, fits, _⟩ := fresh
  have passed := ring.passed framed report
  exact ⟨count, start, length, fits, by dsimp only; omega⟩

theorem LastRegion.update (last : LastRegion stmp region width) (ring : OnRing stmp)
    (framed : stmp.layout.Framed width) (report : MayReport stmp addr) :
    LastRegion { stmp with hw_ptr := newHwPtr stmp addr } region width := by
  rcases last with empty | fresh | stale
  · exact .inl empty
  · exact .inr (.inl (fresh.update ring framed report))
  · exact .inr (.inr stale)

theorem audioUpdateHwPtr_stmp {playback : Playback}
    (framed : playback.stmp.layout.Framed width) (report : MayReport playback.stmp addr) :
    ∃ memory, audioUpdateHwPtr playback addr =
      { playback with
        stmp := { playback.stmp with hw_ptr := newHwPtr playback.stmp addr }
        memory := memory
        played := playback.played +
          ahead playback.stmp.boundary playback.stmp.hw_ptr (newHwPtr playback.stmp addr) } := by
  have below := framed.newHwPtr_lt report
  exact ⟨_, if_neg (by omega)⟩

theorem RingInv.update {playback : Playback} (inv : RingInv width playback)
    (report : MayReport playback.stmp addr) : RingInv width (audioUpdateHwPtr playback addr) := by
  obtain ⟨_, updated⟩ := audioUpdateHwPtr_stmp inv.framed report
  have counted := inv.counted
  rw [inv.ring.passed inv.framed report, ← add_assoc] at counted
  rw [updated]
  exact
    { framed := inv.framed
      ring := inv.ring.update inv.framed report
      counted := counted
      last := inv.last.update inv.ring inv.framed report
      held := fun holds => (inv.held holds).update inv.ring inv.framed report
      asleep := inv.asleep
      repair := inv.repair
      runs := inv.runs }

theorem OnRing.not_queued (ring : OnRing stmp) (framed : stmp.layout.Framed width)
    (report : MayReport stmp addr) {frame : Nat} (passed : ahead stmp.boundary stmp.hw_ptr frame <
      ahead stmp.boundary stmp.hw_ptr (newHwPtr stmp addr)) :
    ¬Queued { stmp with hw_ptr := newHwPtr stmp addr } frame := by
  rintro ⟨onRing, queued⟩
  have app := ring.app
  have before := (ring.reaches framed report).1
  have new := framed.newHwPtr_lt report
  unfold ahead at *
  grind

theorem silenceSpans_played (ring : OnRing stmp) (framed : stmp.layout.Framed width)
    (report : MayReport stmp addr) (moved : newHwPtr stmp addr ≠ stmp.hw_ptr)
    {span : Nat × Nat} (member : span ∈ silenceSpans stmp (newHwPtr stmp addr))
    {byte : Nat} (above : span.1 ≤ byte) (below : byte < span.1 + span.2) :
    (stmp.dma_start ≤ byte ∧ byte < stmp.dma_end) ∧
      ahead stmp.boundary stmp.hw_ptr (frameOf stmp byte) <
        ahead stmp.boundary stmp.hw_ptr (newHwPtr stmp addr) := by
  have hw := ring.hw
  have new := framed.newHwPtr_lt report
  have small := framed.boundary_lt
  obtain ⟨finish, addressed⟩ := framed.place
  have hwInside := Nat.mul_le_mul_right width hw.le
  have first : u32 (stmp.dma_start + audioFrame2byte stmp stmp.hw_ptr) =
      stmp.dma_start + stmp.hw_ptr * width := by
    rw [framed.frame2byte hw.le, u32_of_lt (by omega)]
  rw [silenceSpans, first] at member
  by_cases forward : newHwPtr stmp addr > stmp.hw_ptr
  · rw [if_pos forward, u32Sub_of_le (by omega) forward.le,
      framed.frame2byte (by omega), mem_singleton] at member
    subst member
    obtain ⟨inside, fromHw, toNew⟩ :=
      framed.span forward.le new.le above below
    refine ⟨inside, ?_⟩
    unfold ahead
    rw [if_pos fromHw, if_pos forward.le]
    omega
  · have far : ahead stmp.boundary stmp.hw_ptr (newHwPtr stmp addr) =
        stmp.boundary + newHwPtr stmp addr - stmp.hw_ptr := if_neg (by omega)
    rw [if_neg forward, u32Sub_of_le (by omega) hw.le, framed.frame2byte (by omega),
      framed.frame2byte new.le] at member
    rcases mem_cons.mp member with tail | start
    · subst tail
      obtain ⟨inside, fromHw, _⟩ :=
        framed.span hw.le (.refl) above below
      refine ⟨inside, ?_⟩
      rw [far, ahead, if_pos fromHw]
      omega
    · rw [mem_singleton] at start
      subst start
      have fromStart : stmp.dma_start + 0 * width ≤ byte := by
        rwa [zero_mul]
      obtain ⟨inside, _, toNew⟩ := framed.span (Nat.zero_le _) new.le fromStart
        (by rw [zero_mul]; exact below)
      refine ⟨inside, ?_⟩
      rw [far, ahead, if_neg (by omega)]
      omega

theorem RingInv.silences {playback : Playback} (inv : RingInv width playback) {action : PlayAction}
    (reports : ∀ addr ∈ action.reported playback, MayReport playback.stmp addr) :
    SilencesPlayed playback action := by
  intro addr read _ member _ above below
  have report := reports addr read
  unfold silenced at member
  split at member
  case isTrue => cases member
  case isFalse moved =>
      obtain ⟨inside, passed⟩ := silenceSpans_played inv.ring inv.framed report
        (fun same => moved (.inr same)) member above below
      obtain ⟨_, updated⟩ := audioUpdateHwPtr_stmp inv.framed report
      rw [updated]
      exact ⟨inside.1, inside.2, inv.ring.not_queued inv.framed report passed⟩

end

/-! ### Getting and sending -/

section

variable {playback : Playback}

section

variable (inv : RingInv width playback)
include inv

theorem RingInv.moved {mutex : Bool} {call : Call} (awake : ∀ frame, call ≠ .waiting frame)
    (apart : call = .idle → mutex = false) (repair : call = .repairing → mutex = false) :
    RingInv width { playback with mutex, call } :=
  { inv with
    held := fun holds => by
      have locked : mutex := holds.1
      rw [apart holds.2] at locked
      cases locked
    asleep := fun frame waits => absurd waits (awake frame)
    repair }

theorem RingInv.grant {frame : Nat} (fits : playback.stmp.app_ptr + frame ≤ playback.stmp.boundary)
    (room : frame ≤ audioPlayInavail playback.stmp) :
    RingInv width (Audio.grant playback frame) := by
  have app := inv.ring.app
  have less := inv.ring.avail_lt
  obtain ⟨finish, addressed⟩ := inv.framed.place
  have inside := Nat.mul_le_mul_right width app.le
  rw [inv.ring.inavail inv.framed] at room
  have fresh : Fresh playback.stmp (Audio.grant playback frame).last width := by
    refine ⟨frame, ?_, inv.framed.frame2byte (by omega), fits, by omega⟩
    have start := inv.framed.frame2byte app.le
    exact (congrArg (fun byte => u32 (playback.stmp.dma_start + byte)) start).trans
      (u32_of_lt (by omega))
  exact
    { framed := inv.framed
      ring := inv.ring
      counted := inv.counted
      last := .inr (.inl fresh)
      held := fun _ => fresh
      asleep := fun _ waits => by cases waits
      repair := fun repairs => by cases repairs
      runs := inv.runs }

theorem RingInv.requested (size : Nat) :
    playback.stmp.app_ptr + requestedFrames playback.stmp size ≤ playback.stmp.boundary := by
  have app := inv.ring.app
  have small := inv.framed.boundary_lt
  have free := inv.ring.inavail inv.framed
  unfold requestedFrames
  dsimp only
  obtain ⟨frame, cut⟩ : ∃ frame, frame =
      if audioByte2frame playback.stmp size > playback.stmp.boundary then
        audioPlayInavail playback.stmp else audioByte2frame playback.stmp size := ⟨_, rfl⟩
  have bounded : frame ≤ playback.stmp.boundary := by
    rw [cut]
    split <;> omega
  rw [← cut, u32_of_lt (by omega), u32Sub_of_le (by omega) app.le]
  split <;> omega

theorem RingInv.granting (size : Nat) : RingInv width (audioPlyGrant playback size) := by
  have fits := inv.requested size
  unfold audioPlyGrant
  dsimp only
  split
  case isTrue =>
    exact
      { inv with
        held := fun holds => by cases holds.2
        asleep := fun frame waits => by cases waits; exact fits
        repair := fun repairs => by cases repairs }
  case isFalse room => exact inv.grant fits (by omega)

end

theorem Fresh.advance {stmp : AudioStream} {region : Region}
    (fresh : Fresh stmp region width) (framed : stmp.layout.Framed width)
    (ring : OnRing stmp) {size : Nat} (within : size ≤ region.len) :
    let after := Audio.advance stmp size
    OnRing after ∧ LastRegion after region width ∧ ahead stmp.boundary stmp.hw_ptr after.app_ptr =
        ahead stmp.boundary stmp.hw_ptr stmp.app_ptr + audioByte2frame stmp size := by
  obtain ⟨count, start, length, fits, room⟩ := fresh
  have small := framed.boundary_lt
  have bytes := framed.bytes_le (show count ≤ stmp.boundary by omega)
  have sent : size / width ≤ count := by
    apply Nat.div_le_of_le_mul
    rwa [mul_comm, ← length]
  have app := ring.app
  have taking : audioByte2frame stmp size = size / width := framed.byte2frame (by omega)
  have moved : Audio.advance stmp size =
      { stmp with
        state := if stmp.app_ptr + size / width ≥ stmp.start_threshold ∧ stmp.state = .prepare
          then .runing else stmp.state
        app_ptr := if stmp.app_ptr + size / width ≥ stmp.boundary then
          (stmp.app_ptr + size / width) % stmp.boundary else stmp.app_ptr + size / width } := by
    rw [Audio.advance, taking, u32_of_lt (by omega)]
  obtain ⟨taken, counts⟩ : ∃ taken, taken = size / width := ⟨_, rfl⟩
  rw [← counts] at moved sent taking
  have further := ahead_add ring.hw (show stmp.app_ptr + taken ≤ stmp.boundary by omega)
    (show ahead stmp.boundary stmp.hw_ptr stmp.app_ptr + taken < stmp.boundary by omega)
  have onRing : (if stmp.app_ptr + taken ≥ stmp.boundary then
      (stmp.app_ptr + taken) % stmp.boundary else stmp.app_ptr + taken) < stmp.boundary := by
    split
    · exact mod_lt _ framed.some
    · omega
  obtain ⟨app_ptr, pointer⟩ : ∃ app_ptr, app_ptr = if stmp.app_ptr + taken ≥ stmp.boundary then
      (stmp.app_ptr + taken) % stmp.boundary else stmp.app_ptr + taken := ⟨_, rfl⟩
  rw [← pointer] at moved further onRing
  rw [moved, taking]
  refine ⟨⟨onRing, ring.hw, ?_⟩, .inr ?_, further⟩
  · rcases ring.playing with ⟨prepared, atStart⟩ | running
    · by_cases triggered : stmp.app_ptr + taken ≥ stmp.start_threshold ∧ stmp.state = .prepare
      · exact .inr (if_pos triggered)
      · exact .inl ⟨(if_neg triggered).trans prepared, atStart⟩
    · refine .inr ?_
      rw [running]
      exact if_neg fun both => by cases both.2
  · by_cases nothing : taken = 0
    · have stays : app_ptr = stmp.app_ptr := by
        rw [pointer, nothing, add_zero, if_neg (by omega)]
      rw [stays]
      exact .inl ⟨count, start, length, fits, room⟩
    · -- A send that fills the ring up to its end starts over at frame 0.
      have wraps : app_ptr = 0 ∧ stmp.app_ptr + taken = stmp.boundary ∨
          app_ptr = stmp.app_ptr + taken := by
        by_cases full : stmp.app_ptr + taken ≥ stmp.boundary
        · have whole : stmp.app_ptr + taken = stmp.boundary := by omega
          rw [if_pos full, whole, mod_self] at pointer
          exact .inl ⟨pointer, whole⟩
        · exact .inr (by rw [pointer, if_neg full])
      refine .inr ⟨stmp.app_ptr, start, app, ?_, ?_⟩
      · dsimp only
        omega
      · dsimp only
        unfold repairPointNum
        omega

section

variable (inv : RingInv width playback)
include inv

theorem RingInv.send {size : Nat} (within : size ≤ playback.last.len) :
    RingInv width (audioPlySendDataDone playback size) := by
  unfold audioPlySendDataDone
  dsimp only
  split
  case isTrue =>
    exact
      { inv with
        held := fun holds => by cases holds.1
        repair := fun _ => rfl }
  case isFalse rejected =>
    obtain ⟨finish, addressed⟩ := inv.framed.place
    have position : ∀ frame, frame < playback.stmp.boundary →
        playback.last.ppData = playback.stmp.dma_start + frame * width →
        audioByte2frame playback.stmp (u32Sub playback.last.ppData playback.stmp.dma_start) =
          frame := by
      intro frame below start
      have bytes := inv.framed.bytes_le below.le
      have inside := Nat.mul_le_mul_right width below.le
      rw [start, u32Sub_of_le (by omega) (Nat.le_add_right _ _), Nat.add_sub_cancel_left,
        inv.framed.byte2frame bytes, Nat.mul_div_cancel _ inv.framed.wide]
    rcases inv.last with empty | fresh | stale
    · exact absurd (.inr (eq_zero_of_le_zero (empty ▸ within))) rejected
    · have atApp := position _ inv.ring.app fresh.choose_spec.1
      rw [if_pos atApp]
      obtain ⟨ring, last, further⟩ := fresh.advance inv.framed inv.ring within
      exact
        { framed := inv.framed
          ring := ring
          counted := by rw [← inv.counted, add_assoc, ← further]; rfl
          last := last
          held := fun holds => by cases holds.2
          asleep := fun _ waits => by cases waits
          repair := fun repairs => by cases repairs
          runs := inv.runs }
    · obtain ⟨frame, start, below, differs, _⟩ := stale
      rw [if_neg (by rw [position frame below start]; exact differs)]
      exact inv.moved nofun nofun nofun

theorem RingInv.increased (low : audioPlayAvail playback.stmp < playback.stmp.boundary / 3)
    (past : playback.stmp.app_ptr ≥ repairPointNum)
    (early : playback.stmp.app_ptr < u32Sub playback.stmp.boundary 1) :
    RingInv width { audioRpSwIncreasePoint playback with mutex := false, call := .inserting } := by
  have small := inv.framed.boundary_lt
  have some : 0 < playback.stmp.boundary := inv.framed.some
  rw [inv.ring.avail inv.framed] at low
  rw [u32Sub_of_le (by omega) some] at early
  have pointer : (audioRpSwIncreasePoint playback).stmp =
      { playback.stmp with app_ptr := playback.stmp.app_ptr + 1 } := by
    unfold audioRpSwIncreasePoint
    dsimp only
    rw [u32_of_lt (by omega), if_neg (by omega)]
  have further : ahead playback.stmp.boundary playback.stmp.hw_ptr (playback.stmp.app_ptr + 1) =
      ahead playback.stmp.boundary playback.stmp.hw_ptr playback.stmp.app_ptr + 1 := by
    have added := ahead_add inv.ring.hw
      (show playback.stmp.app_ptr + 1 ≤ playback.stmp.boundary by omega)
      (show ahead playback.stmp.boundary playback.stmp.hw_ptr playback.stmp.app_ptr + 1 <
        playback.stmp.boundary by omega)
    rwa [if_neg (by omega)] at added
  have stale : LastRegion { playback.stmp with app_ptr := playback.stmp.app_ptr + 1 }
      playback.last width := by
    rcases inv.last with empty | ⟨_, start, _⟩ | ⟨frame, start, below, differs, passed⟩
    · exact .inl empty
    · exact .inr (.inr ⟨_, start, inv.ring.app, by dsimp only; omega,
        .inr (lt_succ_self _)⟩)
    · refine .inr (.inr ⟨frame, start, below, ?_, .inr ?_⟩) <;> dsimp only <;> omega
  have onRing : OnRing { playback.stmp with app_ptr := playback.stmp.app_ptr + 1 } :=
    { inv.ring with app := by dsimp only; omega }
  exact
    { framed := by dsimp only; rw [pointer]; exact inv.framed
      ring := by dsimp only; rw [pointer]; exact onRing
      counted := by
        rw [pointer]
        rw [further, ← add_assoc]
        exact congrArg (· + 1) inv.counted
      last := by dsimp only; rw [pointer]; exact stale
      held := fun holds => by cases holds.1
      asleep := fun _ waits => by cases waits
      repair := fun _ => rfl
      runs := inv.runs }

theorem RingInv.get (size : Nat) : RingInv width (audioPlyGetDataBuffer playback size) := by
  have playing : ¬(playback.stmp.state.belowPrepare ∨ playback.stmp.state = .pause) := by
    rcases inv.ring.playing with ⟨prepared, _⟩ | running
    · rw [prepared]; decide
    · rw [running]; decide
  rw [audioPlyGetDataBuffer, if_neg playing]
  exact inv.moved nofun nofun nofun

theorem RingInv.thread {addr : Nat}
    (reports : ∀ read ∈ (PlayAction.thread addr).reported playback, MayReport playback.stmp read) :
    RingInv width (playback.thread addr) := by
  unfold Playback.thread
  unfold PlayAction.reported at reports
  cases stands : playback.call with
  | idle => exact inv
  | getting | finishing =>
    rw [stands] at reports
    exact (inv.update (reports addr rfl)).moved nofun nofun nofun
  | granting size => exact inv.granting size
  | waiting frame =>
    have fits := inv.asleep frame stands
    exact inv.grant (by omega) (min_le_right _ _)
  | inserting =>
    have awake : ∀ frame, (if playback.stmp.auto_repair then Call.repairing else .idle) ≠
        .waiting frame := by
      intro frame
      split <;> exact nofun
    unfold audioPlyInsert
    dsimp only
    split
    case isFalse => exact inv.moved awake (fun _ => rfl) fun _ => rfl
    case isTrue behind =>
      exact (inv.increased behind.1 behind.2.1 behind.2.2).moved awake (fun _ => rfl) fun _ => rfl
  | repairing =>
    have unlocked := inv.repair stands
    rw [stands] at reports
    dsimp only at reports ⊢
    split
    case isTrue running =>
      rw [if_pos running] at reports
      have updated := inv.update (reports addr rfl)
      refine updated.moved nofun (fun _ => ?_) nofun
      obtain ⟨_, same⟩ := audioUpdateHwPtr_stmp inv.framed (reports addr rfl)
      rwa [same]
    case isFalse => exact inv.moved nofun (fun _ => unlocked) nofun

end

theorem RingInv.step (playback : Playback) (action : PlayAction) (inv : RingInv width playback)
    (may : MayPlay playback action) : RingInv width (playback.step action) := by
  obtain ⟨order, reports⟩ := may
  cases action with
  | get size => exact inv.get size
  | send => exact inv.send order.2
  | setAutoRepair =>
    unfold Playback.step
    dsimp only
    split
    case isTrue => exact inv
    case isFalse => exact { inv with ring := { inv.ring with } }
  | thread => exact inv.thread reports
  | interrupt addr => exact inv.update (reports addr rfl)

theorem RingInv.safe (inv : RingInv width playback) : RingSafe playback where
  app := inv.ring.app
  hw := inv.ring.hw
  counted := by rw [inv.ring.avail inv.framed]; exact inv.counted
  queued := by
    have less := inv.ring.avail_lt
    rw [inv.ring.avail inv.framed]
    omega
  inside := fun holds => by
    obtain ⟨_, _, _, fits, _⟩ := inv.held holds
    have finish := inv.framed.place.1
    have inside := Nat.mul_le_mul_right width fits
    rw [add_mul] at inside
    omega
  free := fun holds _ above below => (inv.held holds).not_queued inv.framed inv.ring above below
  runs := inv.runs

end

section

variable {cfg : I2sConfig} {ptxbuf : Nat}

theorem I2sConfig.twelve_le_frameBits (cfg : I2sConfig) : 12 ≤ cfg.frameBits := by
  have sample : 12 ≤ i2sGetBitw cfg.sample_width := by
    cases cfg.sample_width <;> decide
  unfold I2sConfig.frameBits
  split <;> omega

theorem I2sConfig.WholeFrames.framed (whole : cfg.WholeFrames)
    (placed : ptxbuf + cfg.size < 2 ^ 32) :
    (i2sSetupHwparams cfg ptxbuf).layout.Framed (cfg.frameBits / 8) := by
  have bits : cfg.frameBits = 8 * (cfg.frameBits / 8) := by
    have bytes := whole.bytes
    omega
  have wide : 0 < cfg.frameBits / 8 := Nat.div_pos
    (le_trans (by decide) cfg.twelve_le_frameBits) (by decide)
  have fits := whole.fits
  have boundary : u32 (cfg.size * 8) / cfg.frameBits = cfg.size / (cfg.frameBits / 8) := by
    rw [u32_of_lt (by omega), mul_comm]
    nth_rewrite 1 [bits]
    exact Nat.mul_div_mul_left _ _ (by decide)
  have frames : u32 (cfg.size * 8) / cfg.frameBits * (cfg.frameBits / 8) = cfg.size := by
    rw [boundary, Nat.div_mul_cancel (dvd_of_mod_eq_zero whole.frames)]
  have finish := u32_of_lt placed
  exact
    { bits := bits
      wide := wide
      aglin := rfl
      some := by
        have some := whole.some
        apply Nat.pos_of_ne_zero
        intro empty
        have none : u32 (cfg.size * 8) / cfg.frameBits = 0 := empty
        rw [none, zero_mul] at frames
        omega
      bounded := frames.symm ▸ fits
      finish := finish.trans (congrArg (ptxbuf + ·) frames.symm)
      addressed := u32_lt _ }

theorem osBmemAlloc_placed {bmem : Bmem} {size : Nat} (fits : size < 2 ^ 16)
    (allocated : (osBmemAlloc bmem (u16 size)).1 ≠ 0) :
    (osBmemAlloc bmem (u16 size)).1 + size < 2 ^ 32 := by
  rw [u16_of_lt fits] at allocated ⊢
  rcases osBmemAlloc_spec bmem fits with ⟨start, inside, _, found⟩ | ⟨_, failed⟩
  · rw [found]
    have base : bmemBase = 0x10000000 := rfl
    omega
  · rw [failed] at allocated
    exact absurd rfl allocated

theorem audioPlayStart_inv {cfgp : Option I2sConfig} {start_threshold : Nat} {bmem : Bmem}
    {dma : Bool} {playback : Playback} (whole : (cfgp.getD g_stDefaultCfg).WholeFrames)
    (started : audioPlayStart cfgp start_threshold bmem dma = some playback) :
    RingInv ((cfgp.getD g_stDefaultCfg).frameBits / 8) playback := by
  obtain ⟨⟨_, _⟩, lower, rfl⟩ := Option.map_eq_some_iff.mp started
  unfold i2sLldPlayStart at lower
  dsimp only at lower
  split at lower
  case isTrue => cases lower
  case isFalse allocated =>
    split at lower
    case isTrue => cases lower
    case isFalse =>
      cases lower
      have framed := whole.framed (osBmemAlloc_placed whole.fits allocated)
      exact
        { framed := framed
          ring := ⟨framed.some, framed.some, .inl ⟨rfl, rfl⟩⟩
          counted := (zero_add _).trans (ahead_self _ _)
          last := .inl rfl
          held := fun holds => by cases holds.1
          asleep := fun _ waits => by cases waits
          repair := fun _ => rfl
          runs := rfl }

end

/-- After a start with a buffer of whole frames, in every order of calls and reports:
the pointers are on the ring, a region that the caller holds is free, and silence is
only written over what has been played. -/
theorem playback_ring (cfgp : Option I2sConfig) (start_threshold : Nat) (bmem : Bmem) (dma : Bool)
    (playback : Playback) (started : audioPlayStart cfgp start_threshold bmem dma = some playback)
    (whole : (cfgp.getD g_stDefaultCfg).WholeFrames) (actions : List PlayAction)
    (guarded : Along Playback.step MayPlay playback actions) :
    RingSafe (actions.foldl Playback.step playback) ∧
      Along Playback.step SilencesPlayed playback actions := by
  have initial := audioPlayStart_inv whole started
  constructor
  · exact (invariant_of_along RingInv.step initial guarded).safe
  · exact along_of_invariant RingInv.step
      (fun _ _ inv may => inv.silences may.2) initial guarded

def freshBmem : Bmem := ⟨fun _ => 0, fun _ => 0⟩

/-- A caller that sends 100 frames, which is little enough for a point to be
inserted, and the interrupt after them. -/
def shortSend : List PlayAction :=
  [.get 400, .thread 0, .thread 0, .send 400, .thread 268435464, .thread 0, .interrupt 268435664]

theorem playback_ring_default : ∃ playback, audioPlayStart none 0 freshBmem true = some playback ∧
    RingSafe (shortSend.foldl Playback.step playback) ∧
    (shortSend.foldl Playback.step playback).stmp.app_ptr = 101 ∧
    Along Playback.step SilencesPlayed playback shortSend := by
  refine ⟨_, rfl, ?_⟩
  have holds := playback_ring none 0 freshBmem true _ rfl
    ⟨by decide, by decide, by decide, by decide⟩
    shortSend (by decide +kernel)
  exact ⟨holds.1, by decide +kernel, holds.2⟩

def oddConfig : I2sConfig :=
  { sample_width := .bits24
    stereo := false
    frame_len := 100
    frame_num := 1 }

/-- The ring is filled, played up to frame 30 and filled beyond its end; then the
DMA engine reports the last byte of the buffer. -/
def lastByte : List PlayAction :=
  [.get 96, .thread 0, .thread 0, .send 96, .thread 268435464, .thread 0, .interrupt 268435554,
    .get 3, .thread 268435554, .thread 0, .send 3, .thread 268435554, .thread 0,
    .get 30, .thread 268435554, .thread 0, .send 30, .thread 268435554, .thread 0,
    .interrupt 268435563]

theorem playback_ring_odd : ∃ playback,
    audioPlayStart (some oddConfig) 0 freshBmem true = some playback ∧
      Along Playback.step MayPlay playback lastByte ∧
      (lastByte.foldl Playback.step playback).stmp.hw_ptr =
        (lastByte.foldl Playback.step playback).stmp.boundary ∧
      ¬RingSafe (lastByte.foldl Playback.step playback) := by
  refine ⟨_, rfl, by decide +kernel, by decide +kernel, fun safe => absurd safe.hw ?_⟩
  decide +kernel

end Hfirmware.Audio
