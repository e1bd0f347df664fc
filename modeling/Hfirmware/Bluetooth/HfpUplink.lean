/-
The microphone side of a call: one SCO packet from the recording ring, with a second get
if the first one returned less.
-/

import Hfirmware.Audio.RecordRing

namespace Hfirmware.Bluetooth.Hfp

open List Nat Audio GuardedRun RecInv

def appFsmRecordI2sCfg : I2sConfig :=
  { sample_width := .bits16
    stereo := false
    frame_len := 1200
    frame_num := 3 }

/-- What happens around one packet: the arrivals during the two gets, and whether
`HCI_Generic_Get_Rx_Buf` returns a buffer. -/
structure Turn where
  (first second : Timing)
  rxBuf : Bool

structure Uplink where
  recorder : Recorder
  sent : List Cell

def secondGet (recorder : Recorder) (rec_buf1 : Region) (size : Nat) (timing : Timing) :
    Recorder × Region :=
  if rec_buf1.len > 0 ∧ rec_buf1.len < size then
    audioRecGetDataBuffer recorder (size - rec_buf1.len) timing
  else (recorder, ⟨0, 0⟩)

/-- `hsc_HfpRecordDataHandle`, once around its loop while the recording runs, for
`HFP_SCO_DATA_SIZE = size`. -/
def Uplink.recordDataHandle (size : Nat) (uplink : Uplink) (turn : Turn) : Uplink :=
  let (recorder, rec_buf1) := audioRecGetDataBuffer uplink.recorder size turn.first
  let (recorder, rec_buf2) := secondGet recorder rec_buf1 size turn.second
  if rec_buf1.len > 0 then
    let pdu_buf := recorder.read rec_buf1 ++ recorder.read rec_buf2
    let first := audioRecGetDataDone recorder rec_buf1.ppData rec_buf1.len
    let both :=
      if rec_buf2.len > 0 then audioRecGetDataDone first rec_buf2.ppData rec_buf2.len else first
    { recorder := both
      sent := if turn.rxBuf then uplink.sent ++ pdu_buf else uplink.sent }
  else { uplink with recorder }

/-- What was sent is the recorded stream as far as it has been given back: each
byte once, in order, and none left out. -/
def Uplink.InOrder (width : Nat) (uplink : Uplink) : Prop :=
  uplink.sent.map Cell.byte =
    (List.range uplink.recorder.written).take (uplink.recorder.taken * width)

instance (width : Nat) (uplink : Uplink) : Decidable (uplink.InOrder width) :=
  inferInstanceAs (Decidable (_ = _))

def NoOverrun (width : Nat) (uplink : Uplink) (turn : Turn) : Prop :=
  uplink.recorder.written + (turn.first.before + turn.first.waited + turn.first.late) +
      (turn.second.before + turn.second.waited + turn.second.late) <
    uplink.recorder.taken * width + uplink.recorder.stmp.buffer_size

/-- Nothing is recorded, or the whole packet is, in one piece, and there is a buffer for
it. -/
def WholePacket (width size : Nat) (uplink : Uplink) (turn : Turn) : Prop :=
  let boundary := uplink.recorder.stmp.boundary
  let wanted := size / width
  let first := (uplink.recorder.written + turn.first.before) / width - uplink.recorder.taken
  let second := (uplink.recorder.written + turn.first.before + turn.first.waited) / width -
    uplink.recorder.taken
  (wanted = 0 ∨ first = 0 ∧ (boundary < wanted ∨ second = 0)) ∨
    wanted ≤ second ∧ uplink.recorder.stmp.app_ptr + wanted ≤ boundary ∧ turn.rxBuf = true

variable {wanted boundary app_ptr first second : Nat}

theorem granted_eq_zero_iff (inside : app_ptr < boundary) (more : first ≤ second) :
    granted boundary app_ptr wanted first second = 0 ↔
      wanted = 0 ∨ first = 0 ∧ (boundary < wanted ∨ second = 0) := by
  unfold granted
  split
  · dsimp only
    split <;> omega
  · dsimp only
    split <;> omega

theorem granted_eq_iff (inside : app_ptr < boundary) (more : first ≤ second) :
    granted boundary app_ptr wanted first second = wanted ↔
      wanted ≤ second ∧ app_ptr + wanted ≤ boundary := by
  unfold granted
  split
  · dsimp only
    split <;> omega
  · dsimp only
    split <;> omega

theorem granted_le_wanted (below : first < boundary) :
    granted boundary app_ptr wanted first second ≤ wanted := by
  unfold granted
  split
  · dsimp only
    split <;> omega
  · dsimp only
    split <;> omega

section

variable {width size : Nat} {recorder : Recorder}

theorem unread_arrive (recorder : Recorder) (width count : Nat) :
    (recorder.arrive count).unread width = (recorder.written + count) / width - recorder.taken := by
  unfold Recorder.unread
  rw [arrive_written, arrive_taken]

theorem unread_arrive_mono (recorder : Recorder) (width : Nat) {less more : Nat}
    (order : less ≤ more) :
    (recorder.arrive less).unread width ≤ (recorder.arrive more).unread width := by
  rw [unread_arrive, unread_arrive]
  have frames : (recorder.written + less) / width ≤ (recorder.written + more) / width :=
    Nat.div_le_div_right (by omega)
  omega

variable {frame : Nat}

theorem second_spec (inv : RecInv width recorder) (small : size < 2 ^ 16) (timing : Timing)
    (near : recorder.written + timing.before + timing.waited + timing.late <
      recorder.taken * width + recorder.stmp.buffer_size)
    (some : 0 < frame) (least : frame ≤ size / width)
    (unread : (recorder.taken + frame) * width ≤ recorder.written) :
    ∃ next region again hw_ptr,
      secondGet recorder ⟨recorder.stmp.dma_start + recorder.stmp.app_ptr * width, frame * width⟩
        size timing = (next, region) ∧
      RecInv width next ∧ next.taken = recorder.taken ∧ recorder.written ≤ next.written ∧
      next.stmp = { recorder.stmp with hw_ptr } ∧
      region.len = again * width ∧ (again = 0 ↔ frame = size / width) ∧ (0 < region.len →
        region.ppData = recorder.stmp.dma_start + recorder.stmp.app_ptr * width) := by
  have wide := inv.framed.wide
  have positive : 0 < frame * width := mul_pos some wide
  have bytes := div_mul_le_self size width
  have frameBytes : frame * width ≤ size / width * width := Nat.mul_le_mul_right _ least
  unfold secondGet
  by_cases short : frame * width < size
  · rw [if_pos ⟨positive, short⟩]
    obtain ⟨_, hw_ptr, again, _, _, equal, _, region, invNext, taken, written, stmp⟩ :=
      @get_spec width recorder inv (size - frame * width) (by omega) timing near
    refine ⟨(audioRecGetDataBuffer recorder (size - frame * width) timing).1,
      (audioRecGetDataBuffer recorder (size - frame * width) timing).2, again, hw_ptr, rfl, invNext,
      taken, ?_, stmp, ?_, ?_, ?_⟩
    · rw [written]
      omega
    · rw [region]
    · have missing : (size - frame * width) / width = size / width - frame := by
        rw [mul_comm, sub_mul_div]
      have left : 0 < (recorder.arrive timing.before).unread width := by
        rw [unread_arrive]
        have frames : recorder.taken + frame ≤ (recorder.written + timing.before) / width :=
          (Nat.le_div_iff_mul_le wide).mpr (by omega)
        omega
      rw [equal, missing, granted_eq_zero_iff inv.app_lt
        (unread_arrive_mono recorder width (Nat.le_add_right _ _))]
      omega
    · intro _
      rw [region]
  · rw [if_neg (fun both => short both.2)]
    refine ⟨recorder, ⟨0, 0⟩, 0, recorder.stmp.hw_ptr, rfl, inv, rfl, .refl, rfl, ?_, ?_, ?_⟩
    · exact (zero_mul width).symm
    · refine ⟨fun _ => ?_, fun _ => rfl⟩
      exact eq_of_mul_eq_mul_right wide (by omega)
    · exact nofun

theorem done_both (inv : RecInv width recorder) (some : 0 < frame)
    (inRing : frame ≤ recorder.stmp.boundary - recorder.stmp.app_ptr)
    (unread : (recorder.taken + frame) * width ≤ recorder.written) {region : Region}
    (same : 0 < region.len →
      region.ppData = recorder.stmp.dma_start + recorder.stmp.app_ptr * width) :
    let first := audioRecGetDataDone recorder
      (recorder.stmp.dma_start + recorder.stmp.app_ptr * width) (frame * width)
    RecInv width first ∧ first.taken = recorder.taken + frame ∧
      (if region.len > 0 then audioRecGetDataDone first region.ppData region.len else first) =
        first := by
  intro first
  obtain ⟨invFirst, taken, _, _, _, stmp⟩ := inv.done inRing unread
  refine ⟨invFirst, taken, ?_⟩
  by_cases more : region.len > 0
  · rw [if_pos more, same more]
    have moved : recorder.stmp.app_ptr ≠ first.stmp.app_ptr := by
      have boundary : first.stmp.boundary = recorder.stmp.boundary := by
        rw [stmp]
      have less : frame < recorder.stmp.boundary := by
        have frames := inv.frames
        have order := (Nat.le_div_iff_mul_le inv.framed.wide).mpr unread
        omega
      rw [inv.app, invFirst.app, taken, boundary]
      exact (RingWindow.slot_ne (by omega) (by omega)).symm
    have start : first.stmp.dma_start = recorder.stmp.dma_start := by
      rw [stmp]
    have boundary : first.stmp.boundary = recorder.stmp.boundary := by
      rw [stmp]
    have stale := @done_stale width first invFirst _ region.len
      (by rw [boundary]; exact inv.app_lt) moved
    rwa [start] at stale
  · rw [if_neg more]

def Uplink.granted (uplink : Uplink) (width size : Nat) (turn : Turn) : Nat :=
  Audio.granted uplink.recorder.stmp.boundary uplink.recorder.stmp.app_ptr (size / width)
    ((uplink.recorder.arrive turn.first.before).unread width)
    ((uplink.recorder.arrive (turn.first.before + turn.first.waited)).unread width)

variable {uplink : Uplink}

section

variable (inv : RecInv width uplink.recorder)
include inv

theorem turn_spec (small : size < 2 ^ 16) {turn : Turn} (near : NoOverrun width uplink turn)
    (grants : frame = uplink.granted width size turn) :
    let after := uplink.recordDataHandle size turn
    RecInv width after.recorder ∧ after.recorder.taken = uplink.recorder.taken + frame ∧
      ∃ again : List Nat, (again = [] ↔ frame = 0 ∨ frame = size / width) ∧
        after.sent.map Cell.byte = uplink.sent.map Cell.byte ++
            if turn.rxBuf then
              (List.range (frame * width)).map (uplink.recorder.taken * width + ·) ++ again
            else [] := by
  have wide := inv.framed.wide
  unfold NoOverrun at near
  unfold Uplink.granted at grants
  obtain ⟨_, _, got, _, _, equal, _, region, invFirst, taken, written, stmp⟩ :=
    @get_spec width _ inv size small turn.first (by omega)
  rw [← grants] at equal
  subst equal
  have least : got ≤ size / width := by
    rw [grants]
    apply granted_le_wanted
    have first := @arrive width _ inv turn.first.before (by omega)
    have below := first.unread_lt
    rwa [arrive_stmp] at below
  have inRing := grants ▸ granted_le _ _ _ _ _
  unfold Uplink.recordDataHandle
  generalize audioRecGetDataBuffer uplink.recorder size turn.first = result
    at region invFirst taken written stmp ⊢
  obtain ⟨recorder, _⟩ := result
  dsimp only at region invFirst taken written stmp ⊢
  subst region
  by_cases none : got = 0
  · subst none
    rw [zero_mul]
    rw [if_neg (lt_irrefl 0)]
    refine ⟨invFirst, taken, [], ⟨fun _ => .inl rfl, fun _ => rfl⟩, ?_⟩
    rw [range_zero, map_nil, append_nil, ite_self, append_nil]
  · have some : 0 < got := Nat.pos_of_ne_zero none
    have start : recorder.stmp.dma_start = uplink.recorder.stmp.dma_start := by rw [stmp]
    have app : recorder.stmp.app_ptr = uplink.recorder.stmp.app_ptr := by rw [stmp]
    have boundary : recorder.stmp.boundary = uplink.recorder.stmp.boundary := by rw [stmp]
    have ring : recorder.stmp.buffer_size = uplink.recorder.stmp.buffer_size := by rw [stmp]
    have held : (recorder.taken + got) * width ≤ recorder.written := by
      rw [taken, written]
      omega
    rw [← start, ← app]
    obtain ⟨next, rec_buf2, again, _, second, invNext, takenNext, writtenNext, stmpNext, len,
      complete, same⟩ := second_spec invFirst small turn.second
        (by rw [written, taken, ring]; omega) some least held
    rw [second]
    have start2 : next.stmp.dma_start = recorder.stmp.dma_start := by rw [stmpNext]
    have app2 : next.stmp.app_ptr = recorder.stmp.app_ptr := by rw [stmpNext]
    have boundary2 : next.stmp.boundary = recorder.stmp.boundary := by rw [stmpNext]
    have held2 : (next.taken + got) * width ≤ next.written := by
      rw [takenNext]
      exact held.trans writtenNext
    have inRing2 : got ≤ next.stmp.boundary - next.stmp.app_ptr := by
      rwa [boundary2, app2, boundary, app]
    rw [if_pos (mul_pos some wide), ← start2, ← app2]
    rw [← start2, ← app2] at same
    obtain ⟨invDone, takenDone, once⟩ := done_both invNext some inRing2 held2 same
    rw [once]
    refine ⟨invDone, by rw [takenDone, takenNext, taken],
      (next.read rec_buf2).map Cell.byte, ?_, ?_⟩
    · rw [← length_eq_zero_iff, length_map]
      unfold Recorder.read
      rw [length_map, length_range, len, Nat.mul_eq_zero, complete]
      omega
    · have content := invNext.read inRing2 held2
      rw [takenNext, taken] at content
      split
      · rw [map_append, map_append, content]
      · rw [append_nil]

theorem inOrder_iff : uplink.InOrder width ↔
    uplink.sent.map Cell.byte = List.range (uplink.recorder.taken * width) := by
  unfold Uplink.InOrder
  rw [take_range, min_eq_left inv.order]

theorem wholePacket_iff (turn : Turn) :
    WholePacket width size uplink turn ↔ uplink.granted width size turn = 0 ∨
        uplink.granted width size turn = size / width ∧ turn.rxBuf := by
  have more := unread_arrive_mono uplink.recorder width
    (Nat.le_add_right turn.first.before turn.first.waited)
  unfold Uplink.granted
  rw [granted_eq_zero_iff inv.app_lt more, granted_eq_iff inv.app_lt more, unread_arrive,
    unread_arrive, ← add_assoc, and_assoc]
  exact Iff.rfl

theorem turn_inOrder_iff (small : size < 2 ^ 16) {turn : Turn} (near : NoOverrun width uplink turn)
    (sofar : uplink.InOrder width) : RecInv width (uplink.recordDataHandle size turn).recorder ∧
      ((uplink.recordDataHandle size turn).InOrder width ↔ WholePacket width size uplink turn) := by
  obtain ⟨frame, grants⟩ : ∃ frame, frame = uplink.granted width size turn := ⟨_, rfl⟩
  obtain ⟨invNext, taken, _, complete, sent⟩ := turn_spec inv small near grants
  refine ⟨invNext, ?_⟩
  rw [wholePacket_iff inv turn, ← grants]
  rw [inOrder_iff invNext, sent, (inOrder_iff inv).mp sofar, taken, add_mul, range_add,
    append_cancel_left_eq]
  cases turn.rxBuf with
  | true =>
    rw [if_pos rfl, append_right_eq_self, complete]
    simp
  | false =>
    have wide := inv.framed.wide
    simp
    omega

end

end

/-- For any echo canceller and arrivals that do not overrun the ring, what has been sent
is in order after each packet exactly if each packet is whole. -/
theorem uplink_stream {cfg : I2sConfig} (whole : cfg.WholeFrames) {prxbuf : Nat}
    (placed : prxbuf + cfg.size < 2 ^ 32) (aec : Option Audio.Aec) {size : Nat}
    (small : size < 2 ^ 16) (turns : List Turn)
    (near : Along (Uplink.recordDataHandle size) (NoOverrun (cfg.frameBits / 8))
      ⟨audioRecordStart cfg prxbuf aec, []⟩ turns) :
    Along (Uplink.recordDataHandle size)
        (fun uplink turn => (uplink.recordDataHandle size turn).InOrder (cfg.frameBits / 8))
        ⟨audioRecordStart cfg prxbuf aec, []⟩ turns ↔
      Along (Uplink.recordDataHandle size) (WholePacket (cfg.frameBits / 8) size)
        ⟨audioRecordStart cfg prxbuf aec, []⟩ turns :=
  @along_iff _ _ _ _ _ _ _ _
    (fun uplink => RecInv (cfg.frameBits / 8) uplink.recorder ∧ uplink.InOrder (cfg.frameBits / 8))
    (fun _ _ inv here => (turn_inOrder_iff inv.1 small here inv.2).2)
    (fun _ _ inv here whole =>
      have step := turn_inOrder_iff inv.1 small here inv.2
      ⟨step.1, step.2.mpr whole⟩)
    ⟨audioRecordStart_inv whole placed aec, by simp [Uplink.InOrder, audioRecordStart]⟩ near

theorem uplink_stream_whole : Along (Uplink.recordDataHandle 120)
    (fun uplink turn => (uplink.recordDataHandle 120 turn).InOrder 2)
    ⟨audioRecordStart appFsmRecordI2sCfg 0x20000 none, []⟩
    [⟨⟨0, 0, 20⟩, ⟨0, 0, 0⟩, true⟩, ⟨⟨30, 100, 0⟩, ⟨0, 0, 0⟩, true⟩] :=
  (@uplink_stream _ ⟨rfl, by decide, by decide, rfl⟩ 0x20000 (by decide) none 120
    (by decide) [⟨⟨0, 0, 20⟩, ⟨0, 0, 0⟩, true⟩, ⟨⟨30, 100, 0⟩, ⟨0, 0, 0⟩, true⟩]
    ⟨by unfold NoOverrun; decide, by unfold NoOverrun; decide, trivial⟩).mpr
    ⟨by unfold WholePacket; decide, by unfold WholePacket; decide, trivial⟩

/-- Four samples are there when the wait for a packet of 120 bytes ends, and each of
them is sent twice. -/
theorem uplink_stream_repeated :
    let uplink : Uplink := ⟨audioRecordStart appFsmRecordI2sCfg 0x20000 none, []⟩
    let turn : Turn := ⟨⟨0, 8, 0⟩, ⟨0, 0, 0⟩, true⟩
    let next := uplink.recordDataHandle 120 turn
    Along (Uplink.recordDataHandle 120) (NoOverrun 2) uplink [turn] ∧
      next.sent.map Cell.byte = [0, 1, 2, 3, 4, 5, 6, 7, 0, 1, 2, 3, 4, 5, 6, 7] ∧
      ¬next.sent.map Cell.byte <+: List.range next.recorder.written := by
  refine ⟨⟨by unfold NoOverrun; decide, trivial⟩, ?_, ?_⟩ <;> decide +kernel

end Hfirmware.Bluetooth.Hfp
