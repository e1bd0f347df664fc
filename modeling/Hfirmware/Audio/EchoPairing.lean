/-
Which reference byte each recorded byte meets in the echo canceller.
-/

import Hfirmware.Audio.RecordRing

namespace Hfirmware.Audio

open List ByteImage GuardedRun

/-- The recorder, the part of the last region that the client has not given back,
and the bytes it has given back, as they were. -/
structure EchoRun where
  recorder : Recorder
  region : Region
  delivered : List Cell

inductive EchoAction where
  | arrive (count : Nat)
  | save (len : Nat)
  | get (size : Nat) (timing : Timing)
  | done (n : Nat)

def EchoRun.step (run : EchoRun) : EchoAction → EchoRun
  | .arrive count => { run with recorder := run.recorder.arrive count }
  | .save len =>
    { run with
      recorder :=
        { run.recorder with aec := run.recorder.aec.map fun aec => algAecSaveTxData aec len } }
  | .get size timing =>
    let (recorder, region) := audioRecGetDataBuffer run.recorder size timing
    { run with recorder, region }
  | .done n =>
    { recorder := audioRecGetDataDone run.recorder run.region.ppData n
      region := ⟨run.region.ppData + n, run.region.len - n⟩
      delivered := run.delivered ++ run.recorder.read ⟨run.region.ppData, n⟩ }

/-- Byte `k` of the stream as it should come out: passed on, or with its own reference.
-/
def paired (rest k : Nat) : Cell := ⟨k, if k < rest then [] else [some (k - rest)]⟩

def EchoRun.Paired (rest : Nat) (run : EchoRun) : Prop :=
  run.delivered = (List.range run.delivered.length).map (paired rest)

def EchoRun.fetched (width : Nat) (run : EchoRun) : Nat :=
  run.recorder.taken * width + run.region.len

/-- A get comes when the last region has been given back and the reference of what is
recorded is saved, and neither the ring nor the saved data overflows. -/
def InStep (width rest : Nat) (run : EchoRun) : EchoAction → Prop
  | .arrive count =>
    run.recorder.written + count < run.recorder.taken * width + run.recorder.stmp.buffer_size
  | .save len =>
    ∀ aec ∈ run.recorder.aec, aec.saved + len ≤ run.fetched width - rest + algAecBufLen
  | .get size timing =>
    run.region.len = 0 ∧ size < 2 ^ 16 ∧
      run.recorder.written + timing.before + timing.waited + timing.late <
        run.recorder.taken * width + run.recorder.stmp.buffer_size ∧
      ∀ aec ∈ run.recorder.aec,
        run.recorder.written + timing.before + timing.waited ≤ rest + aec.saved
  | .done n => n ≤ run.region.len ∧ n % width = 0

/-- The canceller after `fetched` bytes, of which it has left out the first `rest`. -/
structure EchoInv (rest fetched : Nat) (aec : Aec) : Prop where
  restLen : aec.u32RestLen = rest - fetched
  rptr : aec.u32TxRptr = (fetched - rest) % algAecBufLen
  wptr : aec.u32TxWptr = aec.saved % algAecBufLen
  enough : fetched - rest ≤ aec.saved
  fits : aec.saved ≤ fetched - rest + algAecBufLen
  held : ∀ k, fetched - rest ≤ k → k < aec.saved → aec.u8TxBuf (k % algAecBufLen) = some k

variable {len : Nat}

section

variable {rest fetched : Nat} {aec : Aec}

theorem EchoInv.save (inv : EchoInv rest fetched aec)
    (fits : aec.saved + len ≤ fetched - rest + algAecBufLen) :
    EchoInv rest fetched (algAecSaveTxData aec len) := by
  have wptr := inv.wptr
  have enough := inv.enough
  unfold algAecBufLen at fits wptr
  refine ⟨inv.restLen, inv.rptr, ?_, enough.trans (Nat.le_add_right _ _), fits, ?_⟩
  · change (aec.u32TxWptr + len) % algAecBufLen = (aec.saved + len) % algAecBufLen
    unfold algAecBufLen
    omega
  · intro k above below
    change k < aec.saved + len at below
    unfold algAecSaveTxData algAecBufLen
    dsimp only
    by_cases old : k < aec.saved
    · -- What is written has wrapped around to `k` at most, not over it.
      rw [patch_outside _ _ (by split <;> omega), patch_outside _ _ (by split <;> omega)]
      exact inv.held k above old
    · by_cases wrapped : aec.u32TxWptr + (k - aec.saved) < 12288
      · rw [patch_outside _ _ (by split <;> omega), patch_inside _ _ (by omega)
          (by split <;> omega)]
        congr 1
        omega
      · rw [patch_inside _ _ (Nat.zero_le _) (by split <;> omega)]
        congr 1
        split <;> omega

theorem EchoInv.fetch (inv : EchoInv rest fetched aec) (enough : fetched + len - rest ≤ aec.saved) :
    EchoInv rest (fetched + len) { aec with
        u32RestLen := aec.u32RestLen - len
        u32TxRptr := (aec.u32TxRptr + (len - aec.u32RestLen)) % algAecBufLen } := by
  have restLen := inv.restLen
  have rptr := inv.rptr
  have fits := inv.fits
  unfold algAecBufLen at rptr fits
  refine ⟨?_, ?_, inv.wptr, enough, ?_, fun k above below => inv.held k (by omega) below⟩
  · dsimp only
    omega
  · unfold algAecBufLen
    dsimp only
    omega
  · unfold algAecBufLen
    dsimp only
    omega

end

theorem aecSample_apply (memory : Nat → Cell) (aec : Aec) (ptr address : Nat) :
    aecSample memory aec ptr address =
      if ptr ≤ address ∧ address < ptr + 2 then
        (memory address).process (aec.u8TxBuf (aec.u32TxRptr + (address - ptr)))
      else memory address := by
  unfold aecSample
  by_cases high : address = ptr + 1
  · subst high
    rw [Function.update_self, if_pos (by omega), Nat.add_sub_cancel_left]
  · rw [Function.update_of_ne high]
    by_cases low : address = ptr
    · subst low
      rw [Function.update_self, if_pos (by omega), Nat.sub_self, add_zero]
    · rw [Function.update_of_ne low, if_neg (by omega)]

theorem aecLoop_eq (ptr count : Nat) (memory : Nat → Cell) (aec : Aec)
    (aligned : aec.u32TxRptr % 2 = 0) (inside : aec.u32TxRptr < algAecBufLen) :
    aecLoop ptr count memory aec = (patch memory ptr (2 * count) fun k =>
          (memory (ptr + k)).process (aec.u8TxBuf ((aec.u32TxRptr + k) % algAecBufLen)),
        { aec with u32TxRptr := (aec.u32TxRptr + 2 * count) % algAecBufLen }) := by
  induction count generalizing ptr memory aec with
  | zero =>
    rw [mul_zero, patch_zero, add_zero, Nat.mod_eq_of_lt inside]
    rfl
  | succ count ih =>
    unfold aecLoop
    unfold algAecBufLen at inside
    rw [ih _ _ _ (by unfold algAecBufLen; dsimp only; omega)
      (by unfold algAecBufLen; dsimp only; omega)]
    refine Prod.ext (funext fun address => ?_) ?_
    · dsimp only
      unfold patch
      by_cases later : ptr + 2 ≤ address ∧ address < ptr + 2 + 2 * count
      · have next : ptr + 2 + (address - (ptr + 2)) = address := by omega
        have here : ptr + (address - ptr) = address := by omega
        rw [if_pos later, if_pos (by omega)]
        dsimp only
        rw [next, here, aecSample_apply, if_neg (by omega)]
        congr 2
        unfold algAecBufLen
        omega
      · rw [if_neg later, aecSample_apply]
        by_cases first : ptr ≤ address ∧ address < ptr + 2
        · have here : ptr + (address - ptr) = address := by omega
          rw [if_pos first, if_pos (by omega)]
          dsimp only
          rw [here]
          congr 2
          unfold algAecBufLen
          omega
        · rw [if_neg first, if_neg (by omega)]
    · dsimp only
      congr 1
      unfold algAecBufLen
      omega

variable {recorder : Recorder}

theorem algAecDoData_eq {aec : Aec} (on : recorder.aec = some aec)
    (pbuf : Nat) (samples : len % 2 = 0) (alignedRest : aec.u32RestLen % 2 = 0)
    (aligned : aec.u32TxRptr % 2 = 0) (inside : aec.u32TxRptr < algAecBufLen) :
    recorder.algAecDoData pbuf len = { recorder with
        memory := patch recorder.memory (pbuf + aec.u32RestLen) (len - aec.u32RestLen) fun k =>
          (recorder.memory (pbuf + aec.u32RestLen + k)).process
            (aec.u8TxBuf ((aec.u32TxRptr + k) % algAecBufLen))
        aec := some { aec with
            u32RestLen := aec.u32RestLen - len
            u32TxRptr := (aec.u32TxRptr + (len - aec.u32RestLen)) % algAecBufLen } } := by
  unfold Recorder.algAecDoData
  rw [on]
  dsimp only
  by_cases none : aec.u32RestLen > 0 ∧ ¬aec.u32RestLen < len
  · have nothing : len - aec.u32RestLen = 0 := by omega
    rw [if_pos none, nothing, patch_zero, add_zero, Nat.mod_eq_of_lt inside]
  · have whole : 2 * ((len - aec.u32RestLen) / 2) = len - aec.u32RestLen := by omega
    have used : aec.u32RestLen - len = 0 := by omega
    rw [if_neg none, aecLoop_eq _ _ _ { aec with u32RestLen := 0 } aligned inside, whole, used]

structure PairInv (width rest : Nat) (run : EchoRun) : Prop where
  ring : RecInv width run.recorder
  region : ∃ frame, run.region.len = frame * width ∧
    frame ≤ run.recorder.stmp.boundary - run.recorder.stmp.app_ptr ∧
    (0 < frame → run.region.ppData =
      run.recorder.stmp.dma_start + run.recorder.stmp.app_ptr * width)
  recorded : run.fetched width ≤ run.recorder.written
  echo : ∃ aec, run.recorder.aec = some aec ∧ EchoInv rest (run.fetched width) aec
  passed : ∀ k, run.recorder.taken * width ≤ k → k < run.fetched width →
    run.recorder.memory (run.recorder.slot k) = paired rest k
  fresh : ∀ k, run.fetched width ≤ k → k < run.recorder.written →
    run.recorder.memory (run.recorder.slot k) = ⟨k, []⟩
  delivered : run.delivered = (List.range (run.recorder.taken * width)).map (paired rest)

section

variable {width rest : Nat} {run : EchoRun}

section

variable (inv : PairInv width rest run)
include inv

theorem PairInv.in_pairs : run.Paired rest := by
  unfold EchoRun.Paired
  rw [inv.delivered, length_map, length_range]

theorem PairInv.arrive {count : Nat} (near : InStep width rest run (.arrive count)) :
    PairInv width rest (run.step (.arrive count)) := by
  change run.recorder.written + count < _ at near
  have recorded := inv.recorded
  have fetched : (run.step (.arrive count)).fetched width = run.fetched width := by
    simp [EchoRun.step, EchoRun.fetched]
  have atLeast : run.recorder.taken * width ≤ run.fetched width := Nat.le_add_right _ _
  refine ⟨inv.ring.arrive near, by simpa [EchoRun.step] using inv.region, ?_, ?_, ?_, ?_,
    by simpa [EchoRun.step] using inv.delivered⟩ <;> rw [fetched] <;>
    simp only [EchoRun.step, arrive_written, arrive_taken, arrive_aec, slot_arrive]
  · omega
  · exact inv.echo
  · intro k above below
    exact (arrive_memory_old (by omega) (by omega)).trans (inv.passed k above below)
  · intro k above below
    by_cases old : k < run.recorder.written
    · exact (arrive_memory_old old (by omega)).trans (inv.fresh k above old)
    · exact arrive_memory_new (by omega) below (by omega)

theorem PairInv.withHw (hw_ptr : Nat) :
    PairInv width rest { run with recorder := run.recorder.withHw hw_ptr } :=
  { inv with ring := inv.ring.withHw hw_ptr }

theorem PairInv.save (fits : InStep width rest run (.save len)) :
    PairInv width rest (run.step (.save len)) := by
  obtain ⟨aec, on, echo⟩ := inv.echo
  have saved : (run.step (.save len)).recorder.aec = some (algAecSaveTxData aec len) := by
    change run.recorder.aec.map _ = _
    rw [on]
    rfl
  refine { inv with ring := ?_, echo := ⟨_, saved, echo.save (fits aec on)⟩ }
  exact { inv.ring with }

theorem PairInv.done {n : Nat} (may : InStep width rest run (.done n)) :
    PairInv width rest (run.step (.done n)) := by
  obtain ⟨below, whole⟩ := may
  obtain ⟨frame, len, inRing, place⟩ := inv.region
  have wide := inv.ring.framed.wide
  have recorded := inv.recorded
  unfold EchoRun.fetched at recorded
  obtain ⟨m, rfl⟩ : ∃ m, n = m * width :=
    ⟨n / width, (Nat.div_mul_cancel (Nat.dvd_of_mod_eq_zero whole)).symm⟩
  have atMost : m ≤ frame := by
    rw [len] at below
    exact Nat.le_of_mul_le_mul_right below wide
  by_cases none : m = 0
  · -- Nothing is given back.
    subst none
    have given : audioRecGetDataDone run.recorder run.region.ppData 0 = run.recorder :=
      if_pos (.inr rfl)
    have same : run.step (.done (0 * width)) = run := by
      unfold EchoRun.step Recorder.read
      rw [zero_mul]
      dsimp only
      rw [given, range_zero, map_nil, append_nil]
      rfl
    rwa [same]
  have pointer := place (by omega)
  have unread : (run.recorder.taken + m) * width ≤ run.recorder.written := by
    rw [add_mul]
    omega
  obtain ⟨ring, taken, memory, written, aec, stmp⟩ :=
    inv.ring.done (atMost.trans inRing) unread
  rw [← pointer] at ring taken memory written aec stmp
  have step : run.step (.done (m * width)) =
      ⟨audioRecGetDataDone run.recorder run.region.ppData (m * width),
        ⟨run.region.ppData + m * width, run.region.len - m * width⟩,
        run.delivered ++ run.recorder.read ⟨run.region.ppData, m * width⟩⟩ := rfl
  rw [step]
  generalize audioRecGetDataDone run.recorder run.region.ppData (m * width) = given at *
  have fetched : given.taken * width + (run.region.len - m * width) = run.fetched width := by
    rw [taken, add_mul]
    unfold EchoRun.fetched
    omega
  have slot : ∀ k, given.slot k = run.recorder.slot k := by
    intro k
    unfold Recorder.slot
    rw [stmp]
  have boundary : given.stmp.boundary = run.recorder.stmp.boundary := by rw [stmp]
  have start : given.stmp.dma_start = run.recorder.stmp.dma_start := by rw [stmp]
  have moved : m < frame → given.stmp.app_ptr = run.recorder.stmp.app_ptr + m := by
    intro more
    rw [ring.app, boundary, taken, ← Nat.mod_add_mod, ← inv.ring.app]
    exact Nat.mod_eq_of_lt (by omega)
  have later : run.recorder.taken * width ≤ given.taken * width :=
    Nat.mul_le_mul_right _ (by omega)
  constructor <;> unfold EchoRun.fetched at * <;> dsimp only <;> try rw [fetched]
  · exact ring
  · refine ⟨frame - m, by rw [len, Nat.sub_mul], ?_, fun more => ?_⟩
    · by_cases more : m < frame
      · rw [boundary, moved more]
        omega
      · omega
    · rw [start, moved (by omega), pointer, add_mul, add_assoc]
  · omega
  · obtain ⟨canceller, on, echo⟩ := inv.echo
    exact ⟨canceller, aec.trans on, echo⟩
  · intro k above below
    rw [slot, memory]
    exact inv.passed k (later.trans above) below
  · intro k above below
    rw [slot, memory]
    exact inv.fresh k above (written ▸ below)
  · rw [taken, add_mul, range_add, map_append, inv.delivered, map_map]
    congr 1
    apply map_congr_left
    intro k member
    have inRegion : k < m * width := mem_range.mp member
    have inBuffer : frame * width ≤
        (run.recorder.stmp.boundary - run.recorder.stmp.app_ptr) * width :=
      Nat.mul_le_mul_right _ inRing
    rw [Nat.sub_mul] at inBuffer
    have address := @RecInv.slot_eq width _ inv.ring k (by omega)
    have here := inv.passed (run.recorder.taken * width + k) (Nat.le_add_right _ _) (by
      unfold EchoRun.fetched
      omega)
    rwa [address, ← pointer] at here

end

theorem processed_spec {aec : Aec} (ring : RecInv width recorder)
    (samples : width % 2 = 0) (alignedRest : rest % 2 = 0) (on : recorder.aec = some aec)
    (echo : EchoInv rest (recorder.taken * width) aec)
    (fresh : ∀ k, recorder.taken * width ≤ k → k < recorder.written →
      recorder.memory (recorder.slot k) = ⟨k, []⟩)
    {frame : Nat} (inRing : frame ≤ recorder.stmp.boundary - recorder.stmp.app_ptr)
    (enough : recorder.taken * width + frame * width - rest ≤ aec.saved) :
    let next := recorder.algAecDoData
      (recorder.stmp.dma_start + recorder.stmp.app_ptr * width) (frame * width)
    (∃ later, next.aec = some later ∧ EchoInv rest (recorder.taken * width + frame * width) later) ∧
      ∀ k, recorder.taken * width ≤ k → k < recorder.written →
        next.memory (recorder.slot k) =
          if k < recorder.taken * width + frame * width then paired rest k else ⟨k, []⟩ := by
  have even : ∀ frames, frames * width % 2 = 0 := fun frames =>
    Nat.mod_eq_zero_of_dvd (Dvd.dvd.mul_left (Nat.dvd_of_mod_eq_zero samples) frames)
  have evenTaken := even recorder.taken
  have evenLen := even frame
  have restLen := echo.restLen
  have rptr := echo.rptr
  have near := ring.near
  have inBuffer : frame * width ≤
      (recorder.stmp.boundary - recorder.stmp.app_ptr) * width := Nat.mul_le_mul_right _ inRing
  rw [Nat.sub_mul] at inBuffer
  have aligned : aec.u32TxRptr % 2 = 0 := by
    unfold algAecBufLen at rptr
    omega
  have inside := rptr ▸ Nat.mod_lt _ (by decide)
  intro next
  have result : next = _ := algAecDoData_eq on
    (recorder.stmp.dma_start + recorder.stmp.app_ptr * width) evenLen (by omega) aligned inside
  refine ⟨⟨_, by rw [result], echo.fetch enough⟩, fun k above below => ?_⟩
  rw [result]
  dsimp only
  by_cases handed : k < recorder.taken * width + frame * width
  · obtain ⟨i, rfl⟩ := Nat.exists_eq_add_of_le above
    have slot := @RecInv.slot_eq width recorder ring i (by omega)
    have here := fresh _ above below
    rw [if_pos handed, slot]
    rw [slot] at here
    unfold paired
    by_cases early : recorder.taken * width + i < rest
    · rw [patch_outside _ _ (by omega), here, if_pos early]
    · have offset : recorder.stmp.dma_start + recorder.stmp.app_ptr * width + aec.u32RestLen +
          (recorder.stmp.dma_start + recorder.stmp.app_ptr * width + i -
            (recorder.stmp.dma_start + recorder.stmp.app_ptr * width + aec.u32RestLen)) =
          recorder.stmp.dma_start + recorder.stmp.app_ptr * width + i := by omega
      have reference := echo.held (recorder.taken * width + i - rest) (by omega) (by omega)
      have position : (aec.u32TxRptr +
          (recorder.stmp.dma_start + recorder.stmp.app_ptr * width + i -
            (recorder.stmp.dma_start + recorder.stmp.app_ptr * width + aec.u32RestLen))) %
              algAecBufLen = (recorder.taken * width + i - rest) % algAecBufLen := by
        unfold algAecBufLen at rptr ⊢
        omega
      rw [patch_inside _ _ (by omega) (by omega), offset, here, position, reference, if_neg early]
      rfl
  · rw [if_neg handed, patch_outside, fresh k above below]
    -- The slots of the region are not those of later bytes.
    rintro ⟨atLeast, _⟩
    obtain ⟨i, address⟩ :=
      Nat.exists_eq_add_of_le (le_trans (Nat.le_add_right _ aec.u32RestLen) atLeast)
    have slot := @RecInv.slot_eq width recorder ring i (by omega)
    rw [← slot] at address
    exact RingWindow.slot_ne (by omega) (by omega) (Nat.add_left_cancel address)

section

variable (inv : PairInv width rest run) (samples : width % 2 = 0) (alignedRest : rest % 2 = 0)
include inv samples alignedRest

theorem PairInv.process (empty : run.region.len = 0) {frame : Nat}
    (inRing : frame ≤ run.recorder.stmp.boundary - run.recorder.stmp.app_ptr)
    (unread : (run.recorder.taken + frame) * width ≤ run.recorder.written)
    (saved : ∀ aec ∈ run.recorder.aec, run.recorder.written ≤ rest + aec.saved) :
    PairInv width rest { run with
      recorder := run.recorder.algAecDoData
        (run.recorder.stmp.dma_start + run.recorder.stmp.app_ptr * width) (frame * width)
      region := ⟨run.recorder.stmp.dma_start + run.recorder.stmp.app_ptr * width,
        frame * width⟩ } := by
  obtain ⟨aec, on, echo⟩ := inv.echo
  have fetched : run.fetched width = run.recorder.taken * width := by
    unfold EchoRun.fetched
    rw [empty, add_zero]
  have fresh := inv.fresh
  rw [fetched] at echo fresh
  have enough := saved aec on
  rw [add_mul] at unread
  obtain ⟨⟨later, onLater, echoLater⟩, cells⟩ :=
    processed_spec inv.ring samples alignedRest on echo fresh inRing (by omega)
  refine ⟨inv.ring.algAecDoData _ _, ⟨frame, rfl, by simpa using inRing, fun _ => by simp⟩, ?_,
    ⟨later, onLater, by simpa [EchoRun.fetched] using echoLater⟩, ?_, ?_,
    by simpa using inv.delivered⟩ <;>
    simp only [EchoRun.fetched, algAecDoData_taken, algAecDoData_written,
      slot_of_stmp (algAecDoData_stmp _ _ _)]
  · exact unread
  · intro k above below
    rw [cells k above (by omega), if_pos below]
  · intro k above below
    rw [cells k (by omega) below, if_neg (by omega)]

theorem PairInv.get {size : Nat} {timing : Timing}
    (may : InStep width rest run (.get size timing)) :
    PairInv width rest (run.step (.get size timing)) := by
  obtain ⟨empty, small, near, saved⟩ := may
  obtain ⟨count, hw_ptr, frame, _, _, equal, unread, result⟩ :=
    inv.ring.get small timing near
  have inRing := equal ▸ granted_le _ _ _ _ _
  have fetched := inv.ring.unread_bytes unread
  -- What has arrived up to the look, the look, the canceller, and what arrives after it.
  have looked := (@PairInv.arrive _ _ _ inv count
    (by change run.recorder.written + count < _; omega)).withHw hw_ptr
  have processed := @PairInv.process _ _ _ looked samples alignedRest empty frame
    (by simpa [EchoRun.step, Recorder.withHw] using inRing)
    (by simpa [EchoRun.step, Recorder.withHw] using fetched) (by
      simp only [EchoRun.step, Recorder.withHw, arrive_aec, arrive_written]
      intro aec on
      have enough := saved aec on
      omega)
  have late := @PairInv.arrive _ _ _ processed timing.late (by
    simp only [InStep, EchoRun.step, Recorder.withHw, algAecDoData_written, algAecDoData_taken,
      algAecDoData_stmp, arrive_written, arrive_taken, arrive_stmp]
    omega)
  have step : run.step (.get size timing) = _ :=
    congrArg (fun got : Recorder × Region => { run with recorder := got.1, region := got.2 }) result
  rw [step]
  simpa [EchoRun.step, Recorder.withHw] using late

theorem PairInv.step {action : EchoAction} (may : InStep width rest run action) :
    PairInv width rest (run.step action) := by
  cases action with
  | arrive => exact inv.arrive may
  | save => exact inv.save may
  | get => exact inv.get samples alignedRest may
  | done => exact inv.done may

end

end

/-- The echo canceller is started when `early` bytes have been recorded and `ply`
bytes are on their way through the player. -/
def echoStart (cfg : I2sConfig) (prxbuf early ply : Nat) : EchoRun :=
  { recorder := ((audioRecordStart cfg prxbuf none).arrive early).algAecStart ply
    region := ⟨0, 0⟩
    delivered := [] }

def echoRest (cfg : I2sConfig) (early ply : Nat) : Nat :=
  ply + early / (cfg.frameBits / 8) * (cfg.frameBits / 8) + 5 * 2

theorem echoStart_inv {cfg : I2sConfig} (whole : cfg.WholeFrames) {prxbuf : Nat}
    (placed : prxbuf + cfg.size < 2 ^ 32) {early : Nat} (near : early < cfg.size) (ply : Nat) :
    PairInv (cfg.frameBits / 8) (echoRest cfg early ply) (echoStart cfg prxbuf early ply) := by
  have started := audioRecordStart_inv whole placed none
  have arrived := @RecInv.arrive _ _ started early (by
    change 0 + early < 0 * _ + cfg.size
    omega)
  obtain ⟨recorder, isRecorder⟩ : ∃ recorder,
    recorder = (audioRecordStart cfg prxbuf none).arrive early := ⟨_, rfl⟩
  have written : recorder.written = early := by
    rw [isRecorder, arrive_written]
    exact zero_add early
  have taken : recorder.taken = 0 := by
    rw [isRecorder, arrive_taken]
    rfl
  have slot : ∀ k, recorder.slot k = (audioRecordStart cfg prxbuf none).slot k := by
    intro k
    unfold Recorder.slot
    rw [isRecorder, arrive_stmp]
  rw [← isRecorder] at arrived
  have looked : RecInv (cfg.frameBits / 8) recorder.updateHwPtr := arrived.withHw _
  have skipped : audioFrame2byte recorder.updateHwPtr.stmp
      (audioRecordAvail recorder.updateHwPtr.stmp) =
        early / (cfg.frameBits / 8) * (cfg.frameBits / 8) := by
    have frames := arrived.unread_lt
    rw [arrived.avail, looked.framed.frame2byte frames.le, Recorder.unread, written,
      taken, Nat.sub_zero]
  unfold echoStart
  rw [← isRecorder]
  have fetched : EchoRun.fetched (cfg.frameBits / 8)
      ⟨recorder.algAecStart ply, ⟨0, 0⟩, []⟩ = 0 := by
    change recorder.taken * _ + 0 = 0
    rw [taken, zero_mul]
  constructor
  · exact { looked with }
  · exact ⟨0, (zero_mul _).symm, Nat.zero_le _, fun never => absurd never (lt_irrefl 0)⟩
  · rw [fetched]
    exact Nat.zero_le _
  · rw [fetched]
    refine ⟨_, rfl, ?_, ?_, rfl, ?_, Nat.zero_le _,
      fun k _ never => absurd never (Nat.not_lt_zero k)⟩
    · dsimp only
      rw [skipped]
      rfl
    · rw [Nat.zero_sub]
      rfl
    · exact le_of_eq (Nat.zero_sub _)
  · rw [fetched]
    exact fun k _ never => absurd never (Nat.not_lt_zero k)
  · intro k _ below
    change k < recorder.written at below
    change recorder.memory (recorder.slot k) = _
    rw [slot, isRecorder]
    apply arrive_memory_new (Nat.zero_le k)
    · change k < 0 + early
      omega
    · exact near.le
  · change [] = (List.range (recorder.taken * _)).map _
    rw [taken, zero_mul]
    rfl

/-- In every run that keeps in step what the client is given is paired from the start
on. -/
theorem echo_pairing {cfg : I2sConfig} (whole : cfg.WholeFrames)
    (samples : cfg.frameBits / 8 % 2 = 0) {prxbuf : Nat} (placed : prxbuf + cfg.size < 2 ^ 32)
    {early : Nat} (near : early < cfg.size) {ply : Nat} (plySamples : ply % 2 = 0)
    (actions : List EchoAction)
    (guarded : Along EchoRun.step (InStep (cfg.frameBits / 8) (echoRest cfg early ply))
      (echoStart cfg prxbuf early ply) actions) :
    (actions.foldl EchoRun.step (echoStart cfg prxbuf early ply)).Paired
      (echoRest cfg early ply) := by
  have aligned : echoRest cfg early ply % 2 = 0 := by
    have even : early / (cfg.frameBits / 8) * (cfg.frameBits / 8) % 2 = 0 :=
      Nat.mod_eq_zero_of_dvd (Dvd.dvd.mul_left (Nat.dvd_of_mod_eq_zero samples) _)
    unfold echoRest
    omega
  have initial := echoStart_inv whole placed near ply
  have preserved : ∀ run action, PairInv (cfg.frameBits / 8) (echoRest cfg early ply) run →
      InStep (cfg.frameBits / 8) (echoRest cfg early ply) run action →
        PairInv (cfg.frameBits / 8) (echoRest cfg early ply) (run.step action) :=
    fun _ _ inv may => inv.step samples aligned may
  exact (invariant_of_along preserved initial guarded).in_pairs

instance (width rest : Nat) (run : EchoRun) (action : EchoAction) :
    Decidable (InStep width rest run action) := by
  cases action <;> unfold InStep <;> infer_instance

theorem echo_pairing_twice :
    let actions : List EchoAction :=
      [.save 60, .arrive 40, .get 16 ⟨4, 0, 2⟩, .done 8, .done 8, .get 16 ⟨0, 0, 0⟩, .done 16]
    (actions.foldl EchoRun.step (echoStart g_stDefaultCfg 0x20000 6 2)).Paired 16 :=
  @echo_pairing _ ⟨rfl, by decide, by decide, rfl⟩ rfl 0x20000 (by decide) 6
    (by decide) 2 rfl _ (by decide)

/-- Twelve of twenty bytes are given back before the next get, which passes the
other eight through the canceller again. -/
theorem echo_pairing_again :
    let actions : List EchoAction :=
      [.save 100, .arrive 20, .get 20 ⟨0, 0, 0⟩, .done 12, .get 20 ⟨0, 0, 0⟩, .done 8]
    let run := actions.foldl EchoRun.step (echoStart g_stDefaultCfg 0x20000 0 0)
    run.delivered[12]? = some ⟨12, [some 2, some 10]⟩ ∧
      ¬run.Paired (echoRest g_stDefaultCfg 0 0) := by
  constructor
  · decide +kernel
  · unfold EchoRun.Paired
    decide +kernel

end Hfirmware.Audio
