/-
The microphone as a USB audio stream. A packet is filled while the one before it is with
the controller; some rates send one frame more in every so many packets.
-/

import Hfirmware.ByteImage
import Hfirmware.CarryCounter
import Hfirmware.GuardedRun

namespace Hfirmware.Usb.Audio

structure SampleRate where
  (usb drv frac : Nat)

def srTable : List SampleRate :=
  [⟨8000, 0x0001, 0⟩, ⟨12000, 0x0002, 0⟩, ⟨16000, 0x0004, 0⟩, ⟨24000, 0x0008, 0⟩,
    ⟨32000, 0x0010, 0⟩, ⟨48000, 0x0020, 0⟩, ⟨96000, 0x0040, 0⟩, ⟨11025, 0x0100, 40⟩,
    ⟨22050, 0x0200, 20⟩, ⟨44100, 0x0400, 10⟩]

def getSrusbBySrDrv (sr : Nat) : Nat :=
  ((srTable.find? fun entry => entry.drv = sr).map SampleRate.usb).getD (2 ^ 32 - 1)

def getSrfracBySrDrv (sr : Nat) : Nat :=
  ((srTable.find? fun entry => entry.drv = sr).map SampleRate.frac).getD (2 ^ 16 - 1)

structure Format where
  (chNum bits sr srFrac : Nat)

namespace Record

open List Nat CarryCounter ByteImage GuardedRun

def frameSize (fmt : Format) : Nat := fmt.bits / 8 * fmt.chNum

def pktSiz (fmt : Format) : Nat := frameSize fmt * (getSrusbBySrDrv fmt.sr / 1000) % 2 ^ 16

def pktSizMore (fmt : Format) : Nat := (pktSiz fmt + frameSize fmt) % 2 ^ 16

structure Driver where
  fmt : Format
  recBuf : Nat → UInt8
  recBufIdx : Nat
  recFracCnt : BitVec 16
  isRec : Bool

/-- A packet that the controller has got, with the length that its buffer was filled for
and the bytes that it had. -/
structure Packet where
  (address length : Nat)
  requested : Option Nat
  bytes : Nat → UInt8

/-- The driver, the memory when it was last filled, the length that the buffer at `recBufIdx` is
filled for, and all packets. -/
structure Stream where
  driver : Driver
  copied : Nat → UInt8
  filled : Option Nat
  packets : List Packet

def recBufNum : Nat := 2

/-- `osBmemAlloc(REC_BUF_NUM * 2)` is one unit of 128 bytes with a header of 8. -/
def recBufRoom : Nat := 120

/-- The units behind that of `rec_buf` belong to others, who write to them. -/
def beside (memory behind : Nat → UInt8) : Nat → UInt8 :=
  fun address => if address < recBufRoom then memory address else behind address

def sendDataCnt : Nat := 100

/-- `UA_CMD_START_REC`; `started` is the answer of `audioRecordStart`, `behind` the memory of
others until the first completion. -/
def startRec (driver : Driver) (started : Bool) (behind : Nat → UInt8) : Stream :=
  let size := pktSiz driver.fmt
  let recBuf := patch driver.recBuf driver.recBufIdx size fun _ => 0
  let srFrac := getSrfracBySrDrv driver.fmt.sr
  { driver :=
      { fmt := { driver.fmt with srFrac }
        recBuf := beside recBuf behind
        recBufIdx := (driver.recBufIdx + 1) % recBufNum
        recFracCnt := if srFrac ≠ 0 then driver.recFracCnt + 1 else driver.recFracCnt
        isRec := started || driver.isRec }
    copied := recBuf
    filled := none
    packets := [⟨driver.recBufIdx, size, some size,
      fun index => recBuf (driver.recBufIdx + index)⟩] }

/-- The answers of `audioRecGetDataBuffer` in one `getdata_from_audio_to_usb`, whether another
client has the recorder, and the memory of others until the next completion. -/
structure Completion where
  byOthers : Bool
  answers : List (List UInt8)
  behind : Nat → UInt8

/-- The loop of `getdata_from_audio_to_usb`. The recorder gives at most what is missing. -/
def getData (isRec : Bool) (address size : Nat) :
    Nat → List (List UInt8) → Nat → (Nat → UInt8) → Nat → UInt8
  | cnt + 1, answer :: answers, copypos, memory =>
    if isRec ∧ copypos < size then
      let data := answer.take (size - copypos)
      getData isRec address size cnt answers (copypos + data.length)
        (patch memory (address + copypos) (min data.length size) fun index => data.getD index 0)
    else memory
  | _, _, _, memory => memory

def atFraction (fmt : Format) (cnt : BitVec 16) : Bool := fmt.srFrac ≠ 0 && cnt.toNat = fmt.srFrac

def Stream.transmitted (stream : Stream) (completion : Completion) : Stream :=
  let driver := stream.driver
  let fmt := driver.fmt
  let more := atFraction fmt driver.recFracCnt
  let cnt := if more then 1 else driver.recFracCnt + 1
  let request := if atFraction fmt cnt then pktSizMore fmt else pktSiz fmt
  let packet : Packet :=
    { address := driver.recBufIdx
      length := if more then pktSizMore fmt else pktSiz fmt
      requested := stream.filled
      bytes := fun index => driver.recBuf (driver.recBufIdx + index) }
  let idx := (driver.recBufIdx + 1) % recBufNum
  let copied :=
    if completion.byOthers then driver.recBuf
    else getData driver.isRec idx request sendDataCnt completion.answers 0 driver.recBuf
  { driver :=
      { driver with
        recBufIdx := idx
        recFracCnt := cnt
        recBuf := beside copied completion.behind }
    copied
    filled := if completion.byOthers then none else some request
    packets := stream.packets ++ [packet] }

def Stream.run (stream : Stream) (completions : List Completion) : Stream :=
  completions.foldl Stream.transmitted stream

/-- The packet in flight is as it was, so is the one that is filled, every packet has the length
it was filled for, and forty packets in a row carry the frames of forty milliseconds. -/
structure Sound (stream : Stream) : Prop where
  lengths : ∀ packet ∈ stream.packets, ∀ size, packet.requested = some size → packet.length = size
  intact : ∀ packet, stream.packets.getLast? = some packet → ∀ index < packet.length,
    stream.copied (packet.address + index) = packet.bytes index ∧
      stream.driver.recBuf (packet.address + index) = packet.bytes index
  ready : ∀ size, stream.filled = some size → ∀ index < size,
    stream.driver.recBuf (stream.driver.recBufIdx + index) =
      stream.copied (stream.driver.recBufIdx + index)
  rate : ∀ first window rest, stream.packets.map Packet.length = first ++ window ++ rest →
    window.length = 40 →
    window.sum = frameSize stream.driver.fmt * (getSrusbBySrDrv stream.driver.fmt.sr * 40 / 1000)

def delivered (isRec : Bool) (size : Nat) : Nat → List (List UInt8) → Nat → List UInt8
  | cnt + 1, answer :: answers, copypos =>
    if isRec ∧ copypos < size then
      let data := answer.take (size - copypos)
      data ++ delivered isRec size cnt answers (copypos + data.length)
    else []
  | _, _, _ => []

def nextLength (fmt : Format) (cnt : BitVec 16) : Nat :=
  if atFraction fmt cnt then pktSizMore fmt else pktSiz fmt

def nextCnt (fmt : Format) (cnt : BitVec 16) : BitVec 16 :=
  if atFraction fmt cnt then 1 else cnt + 1

def Stream.data (stream : Stream) (completion : Completion) : List UInt8 :=
  let driver := stream.driver
  if completion.byOthers then []
  else delivered driver.isRec (nextLength driver.fmt (nextCnt driver.fmt driver.recFracCnt))
    sendDataCnt completion.answers 0

def Stream.copying (stream : Stream) (completion : Completion) : Nat → UInt8 :=
  patch stream.driver.recBuf ((stream.driver.recBufIdx + 1) % recBufNum)
    (stream.data completion).length fun index => (stream.data completion).getD index 0

/-- What others have in `length` bytes from `first` on is what `memory` has there. -/
abbrev Leaves (behind memory : Nat → UInt8) (first length : Nat) : Prop :=
  ∀ index < length, recBufRoom ≤ first + index → behind (first + index) = memory (first + index)

/-- The data agree with the packet in flight where they reach into it, and others change neither
this packet nor the one that is filled. -/
def Keeps (stream : Stream) (completion : Completion) : Prop :=
  let driver := stream.driver
  let idx := (driver.recBufIdx + 1) % recBufNum
  let sending := nextLength driver.fmt driver.recFracCnt
  (∀ index < (stream.data completion).length, driver.recBufIdx ≤ idx + index →
    idx + index < driver.recBufIdx + sending →
    (stream.data completion).getD index 0 = driver.recBuf (idx + index)) ∧
  Leaves completion.behind driver.recBuf driver.recBufIdx sending ∧
  (completion.byOthers = false → Leaves completion.behind (stream.copying completion) idx
    (nextLength driver.fmt (nextCnt driver.fmt driver.recFracCnt)))

instance decidableKeeps (stream : Stream) (completion : Completion) :
    Decidable (Keeps stream completion) := by
  unfold Keeps
  infer_instance

def Fits (fmt : Format) : Prop :=
  frameSize fmt * (getSrusbBySrDrv fmt.sr / 1000 +
    if getSrfracBySrDrv fmt.sr = 0 then 0 else 1) < 2 ^ 16

def InPhase (driver : Driver) : Prop :=
  getSrfracBySrDrv driver.fmt.sr = 0 ∨
    1 ≤ driver.recFracCnt.toNat ∧ driver.recFracCnt.toNat < getSrfracBySrDrv driver.fmt.sr

section

variable {stream : Stream} {completion : Completion}

structure Matched (stream : Stream) : Prop where
  sent : ∀ packet ∈ stream.packets, ∀ size, packet.requested = some size → packet.length = size
  next : ∀ size, stream.filled = some size →
    size = nextLength stream.driver.fmt stream.driver.recFracCnt

theorem Matched.start (driver : Driver) (started : Bool) (behind : Nat → UInt8) :
    Matched (startRec driver started behind) := by
  refine ⟨fun packet member size requested => ?_, nofun⟩
  cases mem_singleton.mp member
  exact Option.some.inj requested

theorem Matched.transmitted (matched : Matched stream) (completion : Completion) :
    Matched (stream.transmitted completion) := by
  refine ⟨forall_mem_append.mpr ⟨matched.sent, forall_mem_singleton.mpr ?_⟩, ?_⟩
  · exact fun size requested => (matched.next size requested).symm
  · intro size filled
    change (if completion.byOthers then none else some _) = some size at filled
    cases others : completion.byOthers with
    | true =>
      rw [others, if_pos rfl] at filled
      cases filled
    | false =>
      rw [others, if_neg nofun] at filled
      exact (Option.some.inj filled).symm

theorem Matched.run (matched : Matched stream) (completions : List Completion) :
    Matched (stream.run completions) := by
  induction completions generalizing stream with
  | nil => exact matched
  | cons completion _ ih => exact ih (matched.transmitted completion)

end

/-! ### The packet in flight -/

theorem getData_eq (isRec : Bool) (address size cnt : Nat) (answers : List (List UInt8))
    (copypos : Nat) (memory : Nat → UInt8) :
    let after := delivered isRec size cnt answers copypos
    getData isRec address size cnt answers copypos memory =
      patch memory (address + copypos) after.length fun index => after.getD index 0 := by
  induction cnt generalizing answers copypos memory with
  | zero => exact (patch_zero _ _ _).symm
  | succ _ ih =>
    cases answers with
    | nil => exact (patch_zero _ _ _).symm
    | cons answer =>
      unfold getData delivered
      by_cases more : isRec ∧ copypos < size
      · rw [if_pos more, if_pos more]
        have whole : min (answer.take (size - copypos)).length size =
            (answer.take (size - copypos)).length :=
          min_eq_left (le_trans (length_take_le _ _) (sub_le _ _))
        rw [ih, whole, ← add_assoc, patch_list]
      · rw [if_neg more, if_neg more]
        exact (patch_zero _ _ _).symm

structure Intact (stream : Stream) : Prop where
  sent : ∀ packet, stream.packets.getLast? = some packet → ∀ index < packet.length,
    stream.copied (packet.address + index) = packet.bytes index ∧
      stream.driver.recBuf (packet.address + index) = packet.bytes index
  ready : ∀ size, stream.filled = some size → ∀ index < size,
    stream.driver.recBuf (stream.driver.recBufIdx + index) =
      stream.copied (stream.driver.recBufIdx + index)

theorem beside_eq_iff {memory behind : Nat → UInt8} {first length : Nat} :
    (∀ index < length, beside memory behind (first + index) = memory (first + index)) ↔
      Leaves behind memory first length := by
  refine forall₂_congr fun index _ => ?_
  unfold beside
  split <;> simp <;> omega

theorem intact_start_iff (driver : Driver) (started : Bool) (behind : Nat → UInt8) :
    Intact (startRec driver started behind) ↔
      Leaves behind (fun _ => 0) driver.recBufIdx (pktSiz driver.fmt) := by
  have zero {index : Nat} (below : index < pktSiz driver.fmt) :
      (startRec driver started behind).copied (driver.recBufIdx + index) = 0 := by
    unfold startRec
    dsimp only
    rw [patch_inside _ _ (Nat.le_add_right _ _) (Nat.add_lt_add_left below _)]
  have leaves : Leaves behind (fun _ => 0) driver.recBufIdx (pktSiz driver.fmt) ↔
      Leaves behind (startRec driver started behind).copied driver.recBufIdx (pktSiz driver.fmt) :=
    forall₂_congr fun index below => by rw [zero below]
  rw [leaves, ← beside_eq_iff]
  constructor
  · exact fun intact index below => (intact.sent _ rfl index below).2
  · refine fun same => ⟨fun _ last index below => ?_, nofun⟩
    cases last
    exact ⟨rfl, same index below⟩

theorem copied_transmitted (stream : Stream) (completion : Completion) :
    (stream.transmitted completion).copied = stream.copying completion := by
  unfold Stream.copying Stream.data
  cases others : completion.byOthers with
  | true =>
    simp only [Stream.transmitted, others, if_true]
    exact (patch_zero _ _ _).symm
  | false =>
    simp only [Stream.transmitted, others, Bool.false_eq_true, if_false]
    rw [getData_eq]
    rfl

theorem copying_eq_iff (stream : Stream) (completion : Completion) (sending : Nat) :
    (∀ index < sending, stream.copying completion (stream.driver.recBufIdx + index) =
        stream.driver.recBuf (stream.driver.recBufIdx + index)) ↔
      ∀ index < (stream.data completion).length,
        stream.driver.recBufIdx ≤ (stream.driver.recBufIdx + 1) % recBufNum + index →
        (stream.driver.recBufIdx + 1) % recBufNum + index < stream.driver.recBufIdx + sending →
        (stream.data completion).getD index 0 =
          stream.driver.recBuf ((stream.driver.recBufIdx + 1) % recBufNum + index) := by
  unfold Stream.copying
  constructor
  · intro intact index below above _
    obtain ⟨offset, place⟩ := Nat.exists_eq_add_of_le above
    have unchanged := intact offset (by omega)
    rwa [← place, patch_inside _ _ (Nat.le_add_right _ _)
      (Nat.add_lt_add_left below _), Nat.add_sub_cancel_left] at unchanged
  · intro keeps index below
    by_cases covered : (stream.driver.recBufIdx + 1) % recBufNum ≤ stream.driver.recBufIdx + index ∧
        stream.driver.recBufIdx + index < (stream.driver.recBufIdx + 1) % recBufNum +
          (stream.data completion).length
    · obtain ⟨offset, place⟩ := Nat.exists_eq_add_of_le covered.1
      rw [patch_inside _ _ covered.1 covered.2, place, Nat.add_sub_cancel_left]
      exact keeps offset (by omega) (by omega) (by omega)
    · exact patch_outside _ _ covered

theorem intact_transmitted_iff (stream : Stream) (completion : Completion) :
    Intact (stream.transmitted completion) ↔ Keeps stream completion := by
  have last : (stream.transmitted completion).packets.getLast? = some
      ⟨stream.driver.recBufIdx, nextLength stream.driver.fmt stream.driver.recFracCnt,
        stream.filled, fun index => stream.driver.recBuf (stream.driver.recBufIdx + index)⟩ :=
    getLast?_concat
  have memory : (stream.transmitted completion).driver.recBuf =
      beside (stream.copying completion) completion.behind := by
    rw [← copied_transmitted]
    rfl
  have filled : (stream.transmitted completion).filled = if completion.byOthers then none else
      some (nextLength stream.driver.fmt
        (nextCnt stream.driver.fmt stream.driver.recFracCnt)) := rfl
  have leaves (same : ∀ index < nextLength stream.driver.fmt stream.driver.recFracCnt,
      stream.copying completion (stream.driver.recBufIdx + index) =
        stream.driver.recBuf (stream.driver.recBufIdx + index)) :
      Leaves completion.behind (stream.copying completion) stream.driver.recBufIdx
          (nextLength stream.driver.fmt stream.driver.recFracCnt) ↔
        Leaves completion.behind stream.driver.recBuf stream.driver.recBufIdx
          (nextLength stream.driver.fmt stream.driver.recFracCnt) :=
    forall₂_congr fun index below => by rw [same index below]
  unfold Keeps
  dsimp only
  rw [← copying_eq_iff]
  constructor
  · rintro ⟨sent, ready⟩
    rw [last, copied_transmitted, memory] at sent
    rw [filled, copied_transmitted, memory] at ready
    have same := fun index below => (sent _ rfl index below).1
    refine ⟨same, (leaves same).mp (beside_eq_iff.mp fun index below => ?_), fun own => ?_⟩
    · exact (sent _ rfl index below).2.trans (same index below).symm
    · rw [own, if_neg nofun] at ready
      exact beside_eq_iff.mp (ready _ rfl)
  · rintro ⟨same, sending, filling⟩
    refine ⟨fun packet isLast index below => ?_, fun size isSize index below => ?_⟩
    · rw [last] at isLast
      cases isLast
      rw [copied_transmitted, memory]
      exact ⟨same index below,
        (beside_eq_iff.mpr ((leaves same).mpr sending) index below).trans (same index below)⟩
    · rw [copied_transmitted, memory]
      rw [filled] at isSize
      cases others : completion.byOthers with
      | true =>
        rw [others, if_pos rfl] at isSize
        cases isSize
      | false =>
        rw [others, if_neg nofun] at isSize
        cases isSize
        exact beside_eq_iff.mpr (filling others) index below

def flags (fmt : Format) : BitVec 16 → Nat → List Bool
  | _, 0 => []
  | cnt, ticks + 1 => atFraction fmt cnt :: flags fmt (nextCnt fmt cnt) ticks

def pick (fmt : Format) (more : Bool) : Nat := if more then pktSizMore fmt else pktSiz fmt

theorem run_lengths (stream : Stream) (completions : List Completion) :
    (stream.run completions).driver.fmt = stream.driver.fmt ∧
      (stream.run completions).packets.map Packet.length = stream.packets.map Packet.length ++
          (flags stream.driver.fmt stream.driver.recFracCnt completions.length).map
            (pick stream.driver.fmt) := by
  induction completions generalizing stream with
  | nil => exact ⟨rfl, (append_nil _).symm⟩
  | cons completion _ ih =>
    obtain ⟨fmt, lengths⟩ := ih (stream.transmitted completion)
    refine ⟨fmt, lengths.trans ?_⟩
    have packets : (stream.transmitted completion).packets.map Packet.length =
        stream.packets.map Packet.length ++
          [pick stream.driver.fmt (atFraction stream.driver.fmt stream.driver.recFracCnt)] :=
      map_append
    rw [packets, append_assoc]
    rfl

@[simp] theorem length_flags (fmt : Format) (cnt : BitVec 16) (ticks : Nat) :
    (flags fmt cnt ticks).length = ticks := by
  induction ticks generalizing cnt with
  | zero => rfl
  | succ _ ih => exact congrArg Nat.succ (ih _)

theorem flags_add (fmt : Format) (cnt : BitVec 16) (first second : Nat) :
    ∃ later, flags fmt cnt (first + second) = flags fmt cnt first ++ later := by
  induction first generalizing cnt with
  | zero => exact ⟨flags fmt cnt (0 + second), rfl⟩
  | succ _ ih =>
    obtain ⟨later, rest⟩ := ih (nextCnt fmt cnt)
    rw [succ_add]
    exact ⟨later, congrArg (List.cons _) rest⟩

theorem flags_of_whole {fmt : Format} (whole : fmt.srFrac = 0) (cnt : BitVec 16) (ticks : Nat) :
    flags fmt cnt ticks = replicate ticks false := by
  induction ticks generalizing cnt with
  | zero => rfl
  | succ _ ih =>
    have never : atFraction fmt cnt = false := by simp [atFraction, whole]
    rw [flags, ih, never, replicate_succ]

theorem flags_eq_carries {fmt : Format} (fraction : fmt.srFrac ≠ 0) (cnt : BitVec 16)
    (ticks : Nat) :
    flags fmt cnt ticks = carries fmt.srFrac (2 ^ 16) cnt.toNat ticks := by
  induction ticks generalizing cnt with
  | zero => rfl
  | succ ticks ih =>
    have now : atFraction fmt cnt = decide (cnt.toNat = fmt.srFrac) := by
      simp [atFraction, fraction]
    have later : (nextCnt fmt cnt).toNat = CarryCounter.next fmt.srFrac (2 ^ 16) cnt.toNat := by
      unfold nextCnt CarryCounter.next
      rw [now]
      by_cases last : cnt.toNat = fmt.srFrac
      · rw [if_pos (decide_eq_true last), if_pos last]
        rfl
      · rw [if_neg (by rw [decide_eq_true_eq]; exact last), if_neg last, BitVec.toNat_add]
        rfl
    rw [flags, carries, ih, now, later]

theorem sum_pick (fmt : Format) (list : List Bool) : (list.map (pick fmt)).sum =
    list.count false * pktSiz fmt + list.count true * pktSizMore fmt := by
  induction list with
  | nil => simp
  | cons flag _ ih =>
    rw [map_cons, sum_cons, ih]
    cases flag with
    | false =>
      rw [count_cons_self, count_cons_of_ne Bool.false_ne_true]
      change pktSiz fmt + _ = _
      ring
    | true =>
      rw [count_cons_self, count_cons_of_ne Bool.false_ne_true.symm]
      change pktSizMore fmt + _ = _
      ring

theorem supported_facts {sr : Nat} (supported : sr ∈ srTable.map SampleRate.drv) :
    1 ≤ getSrusbBySrDrv sr / 1000 ∧
      getSrusbBySrDrv sr * 40 / 1000 = 40 * (getSrusbBySrDrv sr / 1000) +
        (if getSrfracBySrDrv sr = 0 then 0 else 40 / getSrfracBySrDrv sr) ∧
      (getSrfracBySrDrv sr ≠ 0 → 39 + 1 = 40 / getSrfracBySrDrv sr * getSrfracBySrDrv sr ∧
        getSrfracBySrDrv sr < 2 ^ 16) := by
  revert sr
  decide

def Exact (fmt : Format) (lengths : List Nat) : Prop :=
  ∀ first window rest, lengths = first ++ window ++ rest → window.length = 40 →
    window.sum = frameSize fmt * (getSrusbBySrDrv fmt.sr * 40 / 1000)

section

variable {fmt : Format} {cnt : BitVec 16} {ticks : Nat}

theorem Fits.pktSiz_eq (fits : Fits fmt) :
    pktSiz fmt = frameSize fmt * (getSrusbBySrDrv fmt.sr / 1000) := by
  refine mod_eq_of_lt (lt_of_le_of_lt ?_ fits)
  exact Nat.mul_le_mul_left _ (Nat.le_add_right _ _)

theorem Fits.pktSizMore_eq (fits : Fits fmt) (fraction : getSrfracBySrDrv fmt.sr ≠ 0) :
    pktSizMore fmt = pktSiz fmt + frameSize fmt := by
  refine mod_eq_of_lt ?_
  have whole := fits
  unfold Fits at whole
  rw [if_neg fraction, mul_add, mul_one] at whole
  rwa [fits.pktSiz_eq]

theorem carries_infix {period limit count ticks : Nat} {first window rest : List Bool}
    (split : carries period limit count ticks = first ++ window ++ rest) :
    window = carries period limit
      (CarryCounter.after period limit count first.length) window.length := by
  have total : ticks = first.length + (window.length + rest.length) := by
    have lengths := congrArg List.length split
    rw [length_carries, length_append, length_append] at lengths
    omega
  rw [total, carries_add, carries_add, append_assoc] at split
  have later := (append_inj split length_carries).2
  exact ((append_inj later length_carries).1).symm

theorem count_window (supported : fmt.sr ∈ srTable.map SampleRate.drv)
    (frac : fmt.srFrac = getSrfracBySrDrv fmt.sr)
    (phase : fmt.srFrac = 0 ∨ 2 ≤ cnt.toNat ∧ cnt.toNat ≤ fmt.srFrac)
    {first window rest : List Bool} (split : false :: flags fmt cnt ticks = first ++ window ++ rest)
    (forty : window.length = 40) :
    window.count true =
      if getSrfracBySrDrv fmt.sr = 0 then 0 else 40 / getSrfracBySrDrv fmt.sr := by
  obtain ⟨_, _, facts⟩ := supported_facts supported
  rw [← frac] at facts ⊢
  by_cases whole : fmt.srFrac = 0
  · rw [if_pos whole]
    rw [flags_of_whole whole, ← replicate_succ] at split
    refine count_eq_zero.mpr fun member => ?_
    have inside : true ∈ replicate (ticks + 1) false := by
      rw [split]
      exact mem_append_left _ (mem_append_right _ member)
    cases eq_of_mem_replicate inside
  · obtain ⟨forties, room⟩ := facts whole
    obtain ⟨low, high⟩ := phase.resolve_left whole
    rw [if_neg whole]
    rw [flags_eq_carries whole] at split
    cases first with
    | nil =>
      -- the first packet is never a longer one
      cases window with
      | nil => cases forty
      | cons _ others =>
        obtain ⟨rfl, later⟩ := List.cons.inj split
        have stretch := carries_infix (show _ = ([] : List Bool) ++ others ++ rest from later)
        have count : others.length = 39 := Nat.succ.inj forty
        rw [count_cons_of_ne Bool.false_ne_true, stretch, count]
        exact count_carries_pred room low high forties
    | cons _ before =>
      have later := (List.cons.inj split).2
      have stretch := carries_infix later
      obtain ⟨low, high⟩ := after_within room (le_of_lt low) high before.length
      rw [stretch, forty]
      exact (congrArg (List.count true) (congrArg _ forties)).trans
        (carries_periods room low high _).1

theorem pick_le_of_not_fits (positive : 1 ≤ getSrusbBySrDrv fmt.sr / 1000)
    (not : ¬Fits fmt) (fraction : getSrfracBySrDrv fmt.sr ≠ 0) (more : Bool) :
    pick fmt more ≤ frameSize fmt * (getSrusbBySrDrv fmt.sr / 1000) := by
  unfold Fits at not
  rw [if_neg fraction, mul_add, mul_one] at not
  have small : frameSize fmt ≤ frameSize fmt * (getSrusbBySrDrv fmt.sr / 1000) :=
    Nat.le_mul_of_pos_right _ positive
  have short : pktSiz fmt ≤ frameSize fmt * (getSrusbBySrDrv fmt.sr / 1000) := mod_le _ _
  cases more with
  | false => exact short
  | true =>
    change (pktSiz fmt + frameSize fmt) % 2 ^ 16 ≤ _
    by_cases fits : frameSize fmt * (getSrusbBySrDrv fmt.sr / 1000) < 2 ^ 16
    · have same : pktSiz fmt = frameSize fmt * (getSrusbBySrDrv fmt.sr / 1000) :=
        mod_eq_of_lt fits
      rw [same, mod_eq_sub_mod (not_lt.mp not)]
      refine le_trans (mod_le _ _) ?_
      omega
    · have cut := mod_lt (pktSiz fmt + frameSize fmt) (Nat.two_pow_pos 16)
      omega

theorem exact_of_fits (supported : fmt.sr ∈ srTable.map SampleRate.drv)
    (frac : fmt.srFrac = getSrfracBySrDrv fmt.sr) (fits : Fits fmt)
    (phase : fmt.srFrac = 0 ∨ 2 ≤ cnt.toNat ∧ cnt.toNat ≤ fmt.srFrac) :
    Exact fmt ((false :: flags fmt cnt ticks).map (pick fmt)) := by
  intro _ _ _ split forty
  obtain ⟨_, sum, _⟩ := supported_facts supported
  obtain ⟨_, _, both, front', rfl⟩ := map_eq_append_iff.mp split
  obtain ⟨_, window', halves, rfl, rfl⟩ := map_eq_append_iff.mp front'
  rw [length_map] at forty
  rw [halves] at both
  have count := count_window supported frac phase both forty
  have others := (count_false_add_count_true window').trans forty
  rw [sum, sum_pick, ← count]
  by_cases whole : getSrfracBySrDrv fmt.sr = 0
  · rw [if_pos whole] at count
    rw [count] at others ⊢
    rw [add_zero] at others
    rw [others, fits.pktSiz_eq]
    ring
  · rw [fits.pktSizMore_eq whole, fits.pktSiz_eq, ← others]
    ring

theorem Exact.first (exact : Exact fmt ((false :: flags fmt cnt ticks).map (pick fmt)))
    (many : 39 ≤ ticks) :
    ((false :: flags fmt cnt 39).map (pick fmt)).sum =
      frameSize fmt * (getSrusbBySrDrv fmt.sr * 40 / 1000) := by
  obtain ⟨later, all⟩ := flags_add fmt cnt 39 (ticks - 39)
  rw [add_sub_of_le many] at all
  refine exact [] _ (later.map (pick fmt)) ?_ ?_
  · rw [all, ← cons_append, map_append, nil_append]
  · rw [length_map, length_cons, length_flags]

section

variable (exact : Exact fmt ((false :: flags fmt cnt ticks).map (pick fmt)))
  (supported : fmt.sr ∈ srTable.map SampleRate.drv) (many : 39 ≤ ticks)
  (frac : fmt.srFrac = getSrfracBySrDrv fmt.sr) (positive : 0 < frameSize fmt)
include exact supported many frac positive

theorem Exact.fits : Fits fmt := by
  obtain ⟨fast, sum, forties⟩ := supported_facts supported
  have first := exact.first many
  rw [sum, sum_pick] at first
  have count := count_false_add_count_true (false :: flags fmt cnt 39)
  rw [length_cons, length_flags] at count
  by_contra not
  by_cases whole : getSrfracBySrDrv fmt.sr = 0
  · -- all packets have the cut length
    have none : (false :: flags fmt cnt 39).count true = 0 := by
      rw [flags_of_whole (frac.trans whole)]
      rfl
    rw [none, add_zero] at count
    rw [none, count, if_pos whole, zero_mul, add_zero, add_zero] at first
    unfold Fits at not
    rw [if_pos whole, add_zero] at not
    have cut : pktSiz fmt < 2 ^ 16 := mod_lt _ (Nat.two_pow_pos 16)
    have equal : 40 * pktSiz fmt = 40 * (frameSize fmt * (getSrusbBySrDrv fmt.sr / 1000)) := by
      rw [first]
      ring
    omega
  · -- no packet is longer than one without the additional frame
    have base : pktSiz fmt ≤ _ := pick_le_of_not_fits fast not whole false
    have more : pktSizMore fmt ≤ _ := pick_le_of_not_fits fast not whole true
    have bound := Nat.add_le_add
      (Nat.mul_le_mul_left ((false :: flags fmt cnt 39).count false) base)
      (Nat.mul_le_mul_left ((false :: flags fmt cnt 39).count true) more)
    rw [first, ← add_mul, count, if_neg whole] at bound
    have some := Nat.pos_of_mul_pos_right (lt_of_lt_of_eq (succ_pos 39) (forties whole).1)
    have extra := mul_pos positive some
    have expanded : frameSize fmt * (40 * (getSrusbBySrDrv fmt.sr / 1000) +
        40 / getSrfracBySrDrv fmt.sr) =
        40 * (frameSize fmt * (getSrusbBySrDrv fmt.sr / 1000)) +
          frameSize fmt * (40 / getSrfracBySrDrv fmt.sr) := by ring
    omega

theorem Exact.phase : fmt.srFrac = 0 ∨ 2 ≤ cnt.toNat ∧ cnt.toNat ≤ fmt.srFrac := by
  by_cases whole : fmt.srFrac = 0
  · exact .inl whole
  right
  obtain ⟨_, sum, forties⟩ := supported_facts supported
  have fits := exact.fits supported many frac positive
  have first := exact.first many
  rw [← frac] at sum forties
  obtain ⟨forty, room⟩ := forties whole
  have count := count_false_add_count_true (false :: flags fmt cnt 39)
  rw [length_cons, length_flags] at count
  rw [sum, sum_pick, fits.pktSizMore_eq (frac ▸ whole), fits.pktSiz_eq, if_neg whole] at first
  have bytes : frameSize fmt * (40 * (getSrusbBySrDrv fmt.sr / 1000) +
      (false :: flags fmt cnt 39).count true) =
      frameSize fmt * (40 * (getSrusbBySrDrv fmt.sr / 1000) + 40 / fmt.srFrac) := by
    rw [← first, show 40 = 39 + 1 from rfl, ← count]
    ring
  have every := Nat.add_left_cancel (Nat.eq_of_mul_eq_mul_left positive bytes)
  rw [count_cons_of_ne Bool.false_ne_true, flags_eq_carries whole] at every
  by_contra early
  have few := count_carries_lt room (Nat.pos_of_ne_zero whole) early cnt.isLt forty
  omega

end

theorem exact_iff (supported : fmt.sr ∈ srTable.map SampleRate.drv)
    (frac : fmt.srFrac = getSrfracBySrDrv fmt.sr) :
    Exact fmt ((false :: flags fmt cnt ticks).map (pick fmt)) ↔ ticks + 1 < 40 ∨ frameSize fmt = 0 ∨
        Fits fmt ∧ (fmt.srFrac = 0 ∨ 2 ≤ cnt.toNat ∧ cnt.toNat ≤ fmt.srFrac) := by
  constructor
  · intro exact
    by_cases few : ticks + 1 < 40
    · exact .inl few
    by_cases nothing : frameSize fmt = 0
    · exact .inr (.inl nothing)
    have many : 39 ≤ ticks := by omega
    have positive := Nat.pos_of_ne_zero nothing
    exact .inr (.inr ⟨exact.fits supported many frac positive,
      exact.phase supported many frac positive⟩)
  · rintro (few | nothing | ⟨fits, phase⟩)
    · intro first window rest split _
      have lengths := congrArg List.length split
      rw [length_map, length_cons, length_flags, length_append, length_append] at lengths
      omega
    · intro first window rest split _
      rw [nothing, zero_mul]
      refine sum_eq_zero fun size member => ?_
      have inside : size ∈ (false :: flags fmt cnt ticks).map (pick fmt) := by
        rw [split]
        exact mem_append_left _ (mem_append_right _ member)
      obtain ⟨flag, _, rfl⟩ := List.mem_map.mp inside
      have base : pktSiz fmt = 0 := by rw [pktSiz, nothing, zero_mul, zero_mod]
      have more : pktSizMore fmt = 0 := by
        rw [pktSizMore, base, nothing]
        rfl
      cases flag with
      | false => exact base
      | true => exact more
    · exact exact_of_fits supported frac fits phase

end

theorem sound_iff (stream : Stream) (matched : Matched stream) :
    Sound stream ↔ Intact stream ∧ Exact stream.driver.fmt (stream.packets.map Packet.length) :=
  ⟨fun sound => ⟨⟨sound.intact, sound.ready⟩, sound.rate⟩,
    fun both => ⟨matched.sent, both.1.sent, both.1.ready, both.2⟩⟩

variable {completions : List Completion}

theorem along_of_intact {stream : Stream}
    (every : ∀ before after, completions = before ++ after → Intact (stream.run before)) :
    Along Stream.transmitted Keeps stream completions := by
  induction completions generalizing stream with
  | nil => trivial
  | cons completion rest ih =>
    refine ⟨(intact_transmitted_iff stream completion).mp (every [completion] rest rfl), ih ?_⟩
    intro before after split
    exact every (completion :: before) after (congrArg (List.cons completion) split)

theorem intact_of_along {stream : Stream} (intact : Intact stream)
    (along : Along Stream.transmitted Keeps stream completions) :
    Intact (stream.run completions) := by
  have preserved : ∀ stream completion, Intact stream → Keeps stream completion →
      Intact (stream.transmitted completion) :=
    fun stream completion _ keeps => (intact_transmitted_iff stream completion).mpr keeps
  exact invariant_of_along preserved intact along

theorem inPhase_iff (driver : Driver) (started : Bool) (behind : Nat → UInt8)
    (supported : driver.fmt.sr ∈ srTable.map SampleRate.drv) :
    InPhase driver ↔ (startRec driver started behind).driver.fmt.srFrac = 0 ∨
      2 ≤ (startRec driver started behind).driver.recFracCnt.toNat ∧
        (startRec driver started behind).driver.recFracCnt.toNat ≤
          (startRec driver started behind).driver.fmt.srFrac := by
  unfold InPhase startRec
  dsimp only
  by_cases whole : getSrfracBySrDrv driver.fmt.sr = 0
  · exact iff_of_true (.inl whole) (.inl whole)
  · have room := ((supported_facts supported).2.2 whole).2
    rw [if_pos whole, BitVec.toNat_add]
    change _ ↔ _ ∨ 2 ≤ (driver.recFracCnt.toNat + 1) % 2 ^ 16 ∧
      (driver.recFracCnt.toNat + 1) % 2 ^ 16 ≤ _
    omega

theorem microphone_stream (driver : Driver) (started : Bool) (behind : Nat → UInt8)
    (supported : driver.fmt.sr ∈ srTable.map SampleRate.drv) (completions : List Completion) :
    (∀ before after, completions = before ++ after →
        Sound ((startRec driver started behind).run before)) ↔
      Leaves behind (fun _ => 0) driver.recBufIdx (pktSiz driver.fmt) ∧
        Along Stream.transmitted Keeps (startRec driver started behind) completions ∧
        (completions.length + 1 < 40 ∨ frameSize driver.fmt = 0 ∨
          Fits driver.fmt ∧ InPhase driver) := by
  have matched := Matched.start driver started behind
  have exact : ∀ before : List Completion,
      Exact ((startRec driver started behind).run before).driver.fmt
          (((startRec driver started behind).run before).packets.map Packet.length) ↔
        before.length + 1 < 40 ∨ frameSize driver.fmt = 0 ∨ Fits driver.fmt ∧ InPhase driver := by
    intro before
    obtain ⟨fmt, lengths⟩ := run_lengths (startRec driver started behind) before
    rw [fmt, lengths, inPhase_iff driver started behind supported]
    exact exact_iff supported rfl
  rw [← intact_start_iff driver started behind]
  constructor
  · intro every
    have intact : ∀ before after, completions = before ++ after →
        Intact ((startRec driver started behind).run before) := fun before after split =>
      ((sound_iff _ (matched.run before)).mp (every before after split)).1
    have sound := every completions [] (append_nil _).symm
    exact ⟨intact [] completions rfl, along_of_intact intact, (exact completions).mp sound.rate⟩
  · rintro ⟨start, along, rate⟩ before after split
    rw [split] at along rate
    rw [sound_iff _ (matched.run before)]
    refine ⟨intact_of_along start (along_append.mp along).1,
      (exact before).mpr (rate.imp_left fun few => ?_)⟩
    rw [length_append] at few
    omega

def quiet (sr : Nat) (cnt : BitVec 16) : Driver := ⟨⟨2, 16, sr, 0⟩, fun _ => 0, 0, cnt, false⟩

theorem microphone_stream_silence :
    Sound ((startRec (quiet 0x0100 1) true fun _ => 0).run
      (List.replicate 41 ⟨false, [[0, 0], [0]], fun _ => 0⟩)) :=
  (microphone_stream (quiet 0x0100 1) true _ (by decide) _).mpr
    ⟨fun _ _ _ => rfl, by decide +kernel,
      .inr (.inr ⟨by unfold Fits; decide, by unfold InPhase; decide⟩)⟩ _ [] (append_nil _).symm

/-- After `usb_audio_reset` the first forty packets have no additional frame; two bytes of data
reach into the packet that is in flight; and of 192 bytes at 48 kHz the last 72 are in memory that
another client writes to. -/
theorem microphone_stream_broken :
    ¬Sound ((startRec (quiet 0x0100 0) true fun _ => 0).run
        (List.replicate 39 ⟨false, [], fun _ => 0⟩)) ∧
      ¬Sound ((startRec (quiet 0x0004 1) true fun _ => 0).run
        [⟨false, [[0, 1]], fun _ => 0⟩]) ∧
      ¬Sound ((startRec (quiet 0x0020 1) true fun _ => 0).run [⟨false, [], fun _ => 1⟩]) := by
  refine ⟨fun sound => ?_, fun sound => ?_, fun sound => ?_⟩
  · have rate := sound.rate [] _ [] (append_nil _).symm (by decide +kernel)
    exact absurd rate (by decide +kernel)
  · have intact := (sound.intact _ rfl 0 (by decide)).2
    exact absurd intact (by decide +kernel)
  · have intact := (sound.intact _ rfl 120 (by decide)).2
    exact absurd intact (by decide +kernel)

end Record

end Hfirmware.Usb.Audio
