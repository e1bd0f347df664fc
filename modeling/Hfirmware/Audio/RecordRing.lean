/-
The recording ring, as long as the DMA engine does not catch up with the client.
-/

import Hfirmware.Audio.PlaybackRing
import Hfirmware.Audio.Record

namespace Hfirmware.Audio

open List Nat RingWindow

section

variable (recorder : Recorder) (count : Nat)

@[simp] theorem arrive_stmp : (recorder.arrive count).stmp = recorder.stmp := by
  induction count generalizing recorder with
  | zero => rfl
  | succ _ ih => exact ih recorder.arriveByte

@[simp] theorem arrive_taken : (recorder.arrive count).taken = recorder.taken := by
  induction count generalizing recorder with
  | zero => rfl
  | succ _ ih => exact ih recorder.arriveByte

@[simp] theorem arrive_aec : (recorder.arrive count).aec = recorder.aec := by
  induction count generalizing recorder with
  | zero => rfl
  | succ _ ih => exact ih recorder.arriveByte

@[simp] theorem arrive_written : (recorder.arrive count).written = recorder.written + count := by
  induction count generalizing recorder with
  | zero => rfl
  | succ count ih =>
    refine (ih recorder.arriveByte).trans ?_
    change recorder.written + 1 + count = recorder.written + (count + 1)
    omega

end

def Recorder.slot (recorder : Recorder) (k : Nat) : Nat :=
  recorder.stmp.dma_start + k % recorder.stmp.buffer_size

theorem slot_of_stmp {recorder after : Recorder} (stmp : after.stmp = recorder.stmp) (k : Nat) :
    after.slot k = recorder.slot k := by
  unfold Recorder.slot
  rw [stmp]

@[simp] theorem slot_arrive (recorder : Recorder) (count k : Nat) :
    (recorder.arrive count).slot k = recorder.slot k :=
  slot_of_stmp (arrive_stmp recorder count) k

theorem arrive_memory_old {recorder : Recorder} {count k : Nat} (old : k < recorder.written)
    (near : recorder.written + count ≤ k + recorder.stmp.buffer_size) :
    (recorder.arrive count).memory (recorder.slot k) = recorder.memory (recorder.slot k) := by
  induction count generalizing recorder with
  | zero => rfl
  | succ count ih =>
    have later : recorder.arriveByte.written = recorder.written + 1 := rfl
    have step : (recorder.arriveByte.arrive count).memory (recorder.slot k) =
        recorder.arriveByte.memory (recorder.slot k) :=
      ih (by omega) (by change recorder.arriveByte.written + count ≤ k + recorder.stmp.buffer_size
                        omega)
    refine step.trans (Function.update_of_ne ?_ _ _)
    intro same
    exact slot_ne old (by omega) (Nat.add_left_cancel same).symm

theorem arrive_memory_new {recorder : Recorder} {count k : Nat} (new : recorder.written ≤ k)
    (arrived : k < recorder.written + count) (fits : count ≤ recorder.stmp.buffer_size) :
    (recorder.arrive count).memory (recorder.slot k) = ⟨k, []⟩ := by
  induction count generalizing recorder with
  | zero => omega
  | succ count ih =>
    have later : recorder.arriveByte.written = recorder.written + 1 := rfl
    by_cases first : k = recorder.written
    · have kept : (recorder.arriveByte.arrive count).memory (recorder.arriveByte.slot k) =
          recorder.arriveByte.memory (recorder.arriveByte.slot k) :=
        arrive_memory_old (by omega)
          (by change recorder.arriveByte.written + count ≤ k + recorder.stmp.buffer_size
              omega)
      refine kept.trans ?_
      subst first
      exact Function.update_self _ _ _
    · exact ih (by omega) (by omega) (by change count ≤ recorder.stmp.buffer_size; omega)

theorem aecSample_byte (memory : Nat → Cell) (aec : Aec) (ptr address : Nat) :
    (aecSample memory aec ptr address).byte = (memory address).byte := by
  unfold aecSample
  by_cases high : address = ptr + 1
  · rw [high, Function.update_self]
    rfl
  · rw [Function.update_of_ne high]
    by_cases low : address = ptr
    · rw [low, Function.update_self]
      rfl
    · rw [Function.update_of_ne low]

theorem aecLoop_byte (ptr count : Nat) (memory : Nat → Cell) (aec : Aec) (address : Nat) :
    ((aecLoop ptr count memory aec).1 address).byte = (memory address).byte := by
  induction count generalizing ptr memory aec with
  | zero => rfl
  | succ _ ih => exact (ih _ _ _).trans (aecSample_byte memory aec ptr address)

section

variable (recorder : Recorder) (pbuf len : Nat)

theorem algAecDoData_frame :
    let after := recorder.algAecDoData pbuf len
    after.stmp = recorder.stmp ∧ after.written = recorder.written ∧ after.taken = recorder.taken ∧
      ∀ address, (after.memory address).byte = (recorder.memory address).byte := by
  unfold Recorder.algAecDoData
  split
  · simp
  · split <;> simp [aecLoop_byte]

@[simp] theorem algAecDoData_stmp : (recorder.algAecDoData pbuf len).stmp = recorder.stmp :=
  (algAecDoData_frame recorder pbuf len).1

@[simp] theorem algAecDoData_written :
    (recorder.algAecDoData pbuf len).written = recorder.written :=
  (algAecDoData_frame recorder pbuf len).2.1

@[simp] theorem algAecDoData_taken : (recorder.algAecDoData pbuf len).taken = recorder.taken :=
  (algAecDoData_frame recorder pbuf len).2.2.1

end

structure RecInv (width : Nat) (recorder : Recorder) : Prop where
  framed : recorder.stmp.layout.Framed width
  size : recorder.stmp.buffer_size = recorder.stmp.boundary * width
  runing : recorder.stmp.state = .runing
  app : recorder.stmp.app_ptr = recorder.taken % recorder.stmp.boundary
  order : recorder.taken * width ≤ recorder.written
  near : recorder.written < recorder.taken * width + recorder.stmp.buffer_size
  held : ∀ k, recorder.taken * width ≤ k → k < recorder.written →
    (recorder.memory (recorder.slot k)).byte = k

def Recorder.withHw (recorder : Recorder) (hw_ptr : Nat) : Recorder :=
  { recorder with stmp := { recorder.stmp with hw_ptr } }

def Recorder.unread (recorder : Recorder) (width : Nat) : Nat :=
  recorder.written / width - recorder.taken

theorem withHw_arrive (recorder : Recorder) (hw_ptr count : Nat) :
    (recorder.withHw hw_ptr).arrive count = (recorder.arrive count).withHw hw_ptr := by
  induction count generalizing recorder with
  | zero => rfl
  | succ _ ih => exact ih recorder.arriveByte

theorem arrive_arrive (recorder : Recorder) (first second : Nat) :
    (recorder.arrive first).arrive second = recorder.arrive (first + second) := by
  induction first generalizing recorder with
  | zero => rw [zero_add]; rfl
  | succ _ ih =>
    rw [succ_add]
    exact ih recorder.arriveByte

section

variable {width : Nat} {recorder : Recorder}

section

variable (inv : RecInv width recorder)
include inv

theorem RecInv.withHw (hw_ptr : Nat) : RecInv width (recorder.withHw hw_ptr) :=
  { inv with }

theorem RecInv.of_stmp {after : Recorder} (stmp : after.stmp = recorder.stmp)
    (taken : after.taken = recorder.taken) (order : recorder.taken * width ≤ after.written)
    (near : after.written < recorder.taken * width + recorder.stmp.buffer_size)
    (held : ∀ k, recorder.taken * width ≤ k → k < after.written →
      (after.memory (recorder.slot k)).byte = k) : RecInv width after := by
  constructor <;> simp only [stmp, taken, slot_of_stmp stmp]
  exacts [inv.framed, inv.size, inv.runing, inv.app, order, near, held]

theorem RecInv.arrive {count : Nat}
    (near : recorder.written + count < recorder.taken * width + recorder.stmp.buffer_size) :
    RecInv width (recorder.arrive count) := by
  have order := inv.order
  apply inv.of_stmp (arrive_stmp _ _) (arrive_taken _ _) <;> rw [arrive_written]
  · omega
  · exact near
  · intro k above below
    by_cases old : k < recorder.written
    · rw [arrive_memory_old old (by omega)]
      exact inv.held k above old
    · rw [arrive_memory_new (by omega) below (by omega)]

theorem RecInv.frames : recorder.taken ≤ recorder.written / width ∧
    recorder.written / width < recorder.taken + recorder.stmp.boundary := by
  have wide := inv.framed.wide
  constructor
  · exact (Nat.le_div_iff_mul_le wide).mpr inv.order
  · apply (Nat.div_lt_iff_lt_mul wide).mpr
    rw [add_mul, ← inv.size]
    exact inv.near

theorem RecInv.app_lt : recorder.stmp.app_ptr < recorder.stmp.boundary := by
  rw [inv.app]
  exact mod_lt _ inv.framed.some

theorem RecInv.ends : recorder.stmp.dma_end < 2 ^ 32 ∧
    recorder.stmp.dma_end = recorder.stmp.dma_start + recorder.stmp.boundary * width :=
  ⟨inv.framed.addressed, inv.framed.finish⟩

theorem RecInv.hw :
    recorder.updateHwPtr.stmp.hw_ptr = recorder.written / width % recorder.stmp.boundary := by
  have some := inv.framed.some
  have wide := inv.framed.wide
  have aglin : recorder.stmp.min_aglin = width := inv.framed.aglin
  obtain ⟨addressed, finish⟩ := inv.ends
  have bounded : recorder.stmp.boundary * width < 2 ^ 16 := inv.framed.bounded
  have position : recorder.written % recorder.stmp.buffer_size <
      recorder.stmp.boundary * width := by
    rw [inv.size]
    exact mod_lt _ (mul_pos some wide)
  have aligned := mod_le (recorder.written % recorder.stmp.buffer_size) width
  have early : recorder.stmp.state.upToPrepare = false := by
    rw [inv.runing]
    rfl
  have offset : u32Sub (recorder.stmp.dma_start + recorder.written % recorder.stmp.buffer_size)
      recorder.stmp.dma_start = recorder.written % recorder.stmp.buffer_size := by
    rw [u32Sub_of_le (by omega) (by omega), Nat.add_sub_cancel_left]
  have whole : recorder.written % recorder.stmp.buffer_size -
      recorder.written % recorder.stmp.buffer_size % width =
        width * (recorder.written % recorder.stmp.buffer_size / width) := by
    have split := div_add_mod (recorder.written % recorder.stmp.buffer_size) width
    omega
  change newHwPtr recorder.stmp
    (recorder.stmp.dma_start + recorder.written % recorder.stmp.buffer_size) = _
  unfold newHwPtr
  rw [if_neg (ne_true_of_eq_false early)]
  dsimp only
  rw [offset, aglin, u32Sub_of_le (by omega) aligned, inv.framed.byte2frame (by omega), whole,
    Nat.mul_div_cancel_left _ wide, inv.size, mod_mul_left_div_self]

theorem RecInv.avail : audioRecordAvail recorder.updateHwPtr.stmp = recorder.unread width := by
  obtain ⟨order, near⟩ := inv.frames
  have bounded := inv.framed.boundary_lt
  have appBelow := inv.app_lt
  have hwBelow : recorder.written / width % recorder.stmp.boundary < recorder.stmp.boundary :=
    mod_lt _ inv.framed.some
  have distance := ahead_mod order near
  rw [← inv.app] at distance
  have app : recorder.updateHwPtr.stmp.app_ptr = recorder.stmp.app_ptr := rfl
  have boundary : recorder.updateHwPtr.stmp.boundary = recorder.stmp.boundary := rfl
  unfold audioRecordAvail
  rw [inv.hw, app, boundary]
  unfold ahead at distance
  unfold Recorder.unread
  rw [← distance]
  split
  · rw [u32Sub_of_le (by omega) (by omega)]
  · rw [u32_of_lt (by omega), u32Sub_of_le (by omega) (by omega)]

theorem RecInv.unread_lt : recorder.unread width < recorder.stmp.boundary := by
  obtain ⟨order, near⟩ := inv.frames
  unfold Recorder.unread
  omega

/-- The frames that a get hands out, for `first` frames at the first look and
`second` after a wait. -/
def granted (boundary app_ptr wanted first second : Nat) : Nat :=
  let frame := min (if wanted > boundary then first else wanted) (boundary - app_ptr)
  if frame > first then min frame second else frame

theorem RecInv.recFrames {size : Nat} (small : size < 2 ^ 16) :
    Audio.recFrames recorder.updateHwPtr.stmp size =
      min (if size / width > recorder.stmp.boundary then recorder.unread width else size / width)
        (recorder.stmp.boundary - recorder.stmp.app_ptr) := by
  have bounded := inv.framed.boundary_lt
  have appBelow := inv.app_lt
  have unread := inv.unread_lt
  have wanted : audioByte2frame recorder.updateHwPtr.stmp size = size / width :=
    inv.framed.byte2frame small
  have app : recorder.updateHwPtr.stmp.app_ptr = recorder.stmp.app_ptr := rfl
  have boundary : recorder.updateHwPtr.stmp.boundary = recorder.stmp.boundary := rfl
  unfold Audio.recFrames
  dsimp only
  rw [wanted, inv.avail, app, boundary]
  have frameBelow : (if size / width > recorder.stmp.boundary then recorder.unread width
      else size / width) ≤ recorder.stmp.boundary := by
    split <;> omega
  generalize (if size / width > recorder.stmp.boundary then recorder.unread width
    else size / width) = frame at frameBelow ⊢
  rw [u32_of_lt (by omega), u32Sub_of_le (by omega) (by omega)]
  split <;> omega

theorem RecInv.look {size : Nat} (small : size < 2 ^ 16) (timing : Timing)
    (near : recorder.written + timing.before + timing.waited <
      recorder.taken * width + recorder.stmp.buffer_size) :
    let after := recorder.look size timing
    ∃ count hw_ptr, timing.before ≤ count ∧ count ≤ timing.before + timing.waited ∧
      after.1 = (recorder.arrive count).withHw hw_ptr ∧ after.2 =
        granted recorder.stmp.boundary recorder.stmp.app_ptr (size / width)
          ((recorder.arrive timing.before).unread width)
          ((recorder.arrive (timing.before + timing.waited)).unread width) ∧
      after.2 ≤ (recorder.arrive count).unread width := by
  have first := @RecInv.arrive width recorder inv timing.before (by omega)
  have second := @RecInv.arrive width recorder inv (timing.before + timing.waited) (by omega)
  have frames := first.recFrames small
  obtain ⟨inner, joined⟩ : ∃ hw_ptr,
      (recorder.arrive timing.before).updateHwPtr.arrive timing.waited =
        (recorder.arrive (timing.before + timing.waited)).withHw hw_ptr :=
    ⟨_, (withHw_arrive _ _ _).trans (congrArg (Recorder.withHw · _) (arrive_arrive recorder _ _))⟩
  obtain ⟨outer, waited⟩ : ∃ hw_ptr,
      ((recorder.arrive timing.before).updateHwPtr.arrive timing.waited).updateHwPtr =
        (recorder.arrive (timing.before + timing.waited)).withHw hw_ptr := by
    rw [joined]
    exact ⟨_, rfl⟩
  have waitedAvail : audioRecordAvail
      ((recorder.arrive timing.before).updateHwPtr.arrive timing.waited).updateHwPtr.stmp =
        (recorder.arrive (timing.before + timing.waited)).unread width := by
    rw [joined]
    exact (second.withHw inner).avail
  rw [arrive_stmp] at frames
  unfold Recorder.look granted
  dsimp only
  rw [frames, first.avail, waitedAvail]
  generalize min (if size / width > recorder.stmp.boundary then
    (recorder.arrive timing.before).unread width else size / width)
    (recorder.stmp.boundary - recorder.stmp.app_ptr) = frame
  split
  · exact ⟨timing.before + timing.waited, outer, by omega, .refl, waited, rfl,
      min_le_right _ _⟩
  · rename_i enough
    exact ⟨timing.before, _, .refl, by omega, rfl, rfl, not_lt.mp enough⟩

end

theorem granted_le (boundary app_ptr wanted first second : Nat) :
    granted boundary app_ptr wanted first second ≤ boundary - app_ptr := by
  unfold granted
  generalize (if wanted > boundary then first else wanted) = frame
  dsimp only
  split
  · exact le_trans (min_le_left _ _) (min_le_right _ _)
  · exact min_le_right _ _

section

variable (inv : RecInv width recorder)
include inv

theorem RecInv.slot_eq {k : Nat}
    (inRing : recorder.stmp.app_ptr * width + k < recorder.stmp.boundary * width) :
    recorder.slot (recorder.taken * width + k) =
      recorder.stmp.dma_start + recorder.stmp.app_ptr * width + k := by
  have split := div_add_mod recorder.taken recorder.stmp.boundary
  have whole : recorder.taken * width + k =
      recorder.stmp.boundary * width * (recorder.taken / recorder.stmp.boundary) +
        (recorder.stmp.app_ptr * width + k) := by
    rw [← add_assoc, inv.app]
    congr 1
    nth_rewrite 1 [← split]
    rw [add_mul, mul_right_comm]
  unfold Recorder.slot
  rw [inv.size, whole, mul_add_mod, mod_eq_of_lt inRing, add_assoc]

theorem RecInv.get {size : Nat} (small : size < 2 ^ 16) (timing : Timing)
    (near : recorder.written + timing.before + timing.waited + timing.late <
      recorder.taken * width + recorder.stmp.buffer_size) :
    ∃ count hw_ptr frame, timing.before ≤ count ∧ count ≤ timing.before + timing.waited ∧
      frame = granted recorder.stmp.boundary recorder.stmp.app_ptr (size / width)
        ((recorder.arrive timing.before).unread width)
        ((recorder.arrive (timing.before + timing.waited)).unread width) ∧
      frame ≤ (recorder.arrive count).unread width ∧ audioRecGetDataBuffer recorder size timing =
        ((((recorder.arrive count).withHw hw_ptr).algAecDoData
            (recorder.stmp.dma_start + recorder.stmp.app_ptr * width) (frame * width)).arrive
              timing.late,
          ⟨recorder.stmp.dma_start + recorder.stmp.app_ptr * width, frame * width⟩) := by
  obtain ⟨count, hw_ptr, atLeast, atMost, looked, frame, unread⟩ :=
    inv.look small timing (by omega)
  have appBelow := inv.app_lt
  obtain ⟨addressed, finish⟩ := inv.ends
  have appBytes : recorder.stmp.app_ptr * width ≤ recorder.stmp.boundary * width :=
    Nat.mul_le_mul_right _ appBelow.le
  have fits := granted_le recorder.stmp.boundary recorder.stmp.app_ptr (size / width)
    ((recorder.arrive timing.before).unread width)
    ((recorder.arrive (timing.before + timing.waited)).unread width)
  have stmp : (recorder.look size timing).1.stmp = { recorder.stmp with hw_ptr } := by
    rw [looked]
    unfold Recorder.withHw
    rw [arrive_stmp]
  have framed : ({ recorder.stmp with hw_ptr } : AudioStream).layout.Framed width :=
    inv.framed
  have app2byte := framed.frame2byte appBelow.le
  have frame2byte := @Layout.Framed.frame2byte _ _ framed (recorder.look size timing).2 (by
    rw [frame]
    exact fits.trans (sub_le _ _))
  refine ⟨count, hw_ptr, (recorder.look size timing).2, atLeast, atMost, frame, unread, ?_⟩
  unfold audioRecGetDataBuffer
  rw [if_neg (not_not.mpr inv.runing)]
  dsimp only
  rw [stmp, app2byte, frame2byte, looked]
  dsimp only
  rw [u32_of_lt (by omega)]

theorem RecInv.algAecDoData (pbuf len : Nat) : RecInv width (recorder.algAecDoData pbuf len) := by
  obtain ⟨stmp, written, taken, bytes⟩ := algAecDoData_frame recorder pbuf len
  apply inv.of_stmp stmp taken <;> rw [written]
  · exact inv.order
  · exact inv.near
  · intro k above below
    rw [bytes]
    exact inv.held k above below

theorem RecInv.unread_bytes {frame count : Nat}
    (unread : frame ≤ (recorder.arrive count).unread width) :
    (recorder.taken + frame) * width ≤ recorder.written + count := by
  unfold Recorder.unread at unread
  rw [arrive_written, arrive_taken] at unread
  have order := (Nat.le_div_iff_mul_le inv.framed.wide).mpr
    (le_trans inv.order (Nat.le_add_right recorder.written count))
  exact (Nat.le_div_iff_mul_le inv.framed.wide).mp (by omega)

theorem RecInv.get_spec {size : Nat} (small : size < 2 ^ 16) (timing : Timing)
    (near : recorder.written + timing.before + timing.waited + timing.late <
      recorder.taken * width + recorder.stmp.buffer_size) :
    let after := audioRecGetDataBuffer recorder size timing
    ∃ count hw_ptr frame, timing.before ≤ count ∧ count ≤ timing.before + timing.waited ∧
      frame = granted recorder.stmp.boundary recorder.stmp.app_ptr (size / width)
        ((recorder.arrive timing.before).unread width)
        ((recorder.arrive (timing.before + timing.waited)).unread width) ∧
      (recorder.taken + frame) * width ≤ recorder.written + count ∧ after.2 =
        ⟨recorder.stmp.dma_start + recorder.stmp.app_ptr * width, frame * width⟩ ∧
      RecInv width after.1 ∧ after.1.taken = recorder.taken ∧ after.1.written =
        recorder.written + count + timing.late ∧
      after.1.stmp = { recorder.stmp with hw_ptr } := by
  obtain ⟨count, hw_ptr, frame, atLeast, atMost, equal, unread, result⟩ := inv.get small timing near
  have arrived := @RecInv.arrive width recorder inv count (by omega)
  have processed := (arrived.withHw hw_ptr).algAecDoData
    (recorder.stmp.dma_start + recorder.stmp.app_ptr * width) (frame * width)
  refine ⟨count, hw_ptr, frame, atLeast, atMost, equal, inv.unread_bytes unread, ?_⟩
  rw [result]
  refine ⟨rfl, ?_, by simp [Recorder.withHw], by simp [Recorder.withHw], by simp [Recorder.withHw]⟩
  apply processed.arrive
  simp only [Recorder.withHw, algAecDoData_written, algAecDoData_taken, algAecDoData_stmp,
    arrive_written, arrive_taken, arrive_stmp]
  omega

theorem RecInv.read {frame : Nat} (inRing : frame ≤ recorder.stmp.boundary - recorder.stmp.app_ptr)
    (unread : (recorder.taken + frame) * width ≤ recorder.written) :
    (recorder.read ⟨recorder.stmp.dma_start + recorder.stmp.app_ptr * width,
      frame * width⟩).map Cell.byte =
        (List.range (frame * width)).map (recorder.taken * width + ·) := by
  have appBelow := inv.app_lt
  unfold Recorder.read
  rw [map_map]
  apply map_congr_left
  intro k member
  have below : k < frame * width := mem_range.mp member
  have whole : (recorder.stmp.app_ptr + frame) * width ≤ recorder.stmp.boundary * width :=
    Nat.mul_le_mul_right _ (by omega)
  rw [add_mul] at whole unread
  have slot := @RecInv.slot_eq width recorder inv k (by omega)
  have held := inv.held (recorder.taken * width + k) (Nat.le_add_right _ _) (by omega)
  rwa [slot] at held

theorem RecInv.done {frame : Nat} (inRing : frame ≤ recorder.stmp.boundary - recorder.stmp.app_ptr)
    (unread : (recorder.taken + frame) * width ≤ recorder.written) :
    let given := audioRecGetDataDone recorder
      (recorder.stmp.dma_start + recorder.stmp.app_ptr * width) (frame * width)
    RecInv width given ∧ given.taken = recorder.taken + frame ∧
      given.memory = recorder.memory ∧ given.written = recorder.written ∧ given.aec = recorder.aec ∧
      given.stmp = { recorder.stmp with app_ptr := given.stmp.app_ptr } := by
  have appBelow := inv.app_lt
  have bounded := inv.framed.boundary_lt
  have wide := inv.framed.wide
  obtain ⟨addressed, finish⟩ := inv.ends
  have appBytes : recorder.stmp.app_ptr * width ≤ recorder.stmp.boundary * width :=
    Nat.mul_le_mul_right _ appBelow.le
  have frameBytes := inv.framed.bytes_le (le_trans inRing (sub_le _ _))
  have appFrame : audioByte2frame recorder.stmp (u32Sub (recorder.stmp.dma_start +
      recorder.stmp.app_ptr * width) recorder.stmp.dma_start) = recorder.stmp.app_ptr := by
    rw [u32Sub_of_le (by omega) (by omega), Nat.add_sub_cancel_left,
      inv.framed.byte2frame (inv.framed.bytes_le appBelow.le),
      Nat.mul_div_cancel _ wide]
  have frames : audioByte2frame recorder.stmp (frame * width) = frame := by
    rw [inv.framed.byte2frame frameBytes, Nat.mul_div_cancel _ wide]
  unfold audioRecGetDataDone
  by_cases none : frame = 0
  · subst none
    rw [zero_mul, if_pos (.inr rfl)]
    exact ⟨inv, rfl, rfl, rfl, rfl, rfl⟩
  have some : frame * width ≠ 0 := Nat.mul_ne_zero none wide.ne'
  rw [if_neg (not_or.mpr ⟨not_not.mpr inv.runing, some⟩), appFrame, if_pos rfl, frames,
    u32_of_lt (by omega)]
  refine ⟨⟨inv.framed, inv.size, inv.runing, ?_, unread, ?_, ?_⟩, rfl, rfl, rfl, rfl, rfl⟩
  · dsimp only
    have moved : (recorder.taken + frame) % recorder.stmp.boundary =
        (recorder.stmp.app_ptr + frame) % recorder.stmp.boundary := by
      rw [inv.app, mod_add_mod]
    rw [moved]
    split
    · rfl
    · rename_i inside
      exact (mod_eq_of_lt (not_le.mp inside)).symm
  · have near := inv.near
    dsimp only
    rw [add_mul]
    omega
  · intro k above below
    refine inv.held k (le_trans ?_ above) below
    exact Nat.mul_le_mul_right _ (Nat.le_add_right _ _)

theorem RecInv.done_stale {app_ptr size : Nat} (below : app_ptr < recorder.stmp.boundary)
    (stale : app_ptr ≠ recorder.stmp.app_ptr) :
    audioRecGetDataDone recorder (recorder.stmp.dma_start + app_ptr * width) size = recorder := by
  have wide := inv.framed.wide
  obtain ⟨addressed, finish⟩ := inv.ends
  have bytes : app_ptr * width ≤ recorder.stmp.boundary * width :=
    Nat.mul_le_mul_right _ below.le
  have frame : audioByte2frame recorder.stmp (u32Sub (recorder.stmp.dma_start +
      app_ptr * width) recorder.stmp.dma_start) = app_ptr := by
    rw [u32Sub_of_le (by omega) (by omega), Nat.add_sub_cancel_left,
      inv.framed.byte2frame (inv.framed.bytes_le below.le), Nat.mul_div_cancel _ wide]
  unfold audioRecGetDataDone
  dsimp only
  rw [frame, if_neg stale, ite_self]

end

end

theorem audioRecordStart_inv {cfg : I2sConfig} (whole : cfg.WholeFrames) {prxbuf : Nat}
    (placed : prxbuf + cfg.size < 2 ^ 32) (aec : Option Aec) :
    RecInv (cfg.frameBits / 8) (audioRecordStart cfg prxbuf aec) := by
  have framed := whole.framed placed
  have size : cfg.size = (i2sSetupHwparams cfg prxbuf).boundary * (cfg.frameBits / 8) := by
    have finish : u32 (prxbuf + cfg.size) =
      prxbuf + (i2sSetupHwparams cfg prxbuf).boundary * (cfg.frameBits / 8) := framed.finish
    rw [u32_of_lt placed] at finish
    omega
  exact
    { framed := framed
      size := size
      runing := rfl
      app := (zero_mod _).symm
      order := by
        change 0 * _ ≤ 0
        omega
      near := by
        change 0 < 0 * _ + cfg.size
        have some := whole.some
        omega
      held := fun _ _ below => absurd below (Nat.not_lt_zero _) }

end Hfirmware.Audio
