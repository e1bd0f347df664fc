/-
The playback half of the audio driver: a ring that the caller fills region by region and
the DMA engine plays and silences.
-/

import Hfirmware.Kernel.BitmapMemory
import Hfirmware.RingWindow

namespace Hfirmware.Audio

open ByteImage Kernel RingWindow

inductive AudioState where
  | idle | stop | ready | prepare | runing | pause
deriving DecidableEq

def AudioState.belowPrepare : AudioState → Bool
  | .idle | .stop | .ready => true
  | .prepare | .runing | .pause => false

def AudioState.upToPrepare (state : AudioState) : Bool :=
  state.belowPrepare || state == .prepare

inductive BitWidth where
  | ignore | bits12 | bits16 | bits20 | bits24 | bits32 | bits64 | bits128 | bits192
deriving DecidableEq

def i2sGetBitw : BitWidth → Nat
  | .bits12 => 12
  | .bits16 => 16
  | .bits20 => 20
  | .bits24 => 24
  | .bits32 => 32
  | .ignore | .bits64 | .bits128 | .bits192 => 16

structure I2sConfig where
  sample_width : BitWidth
  stereo : Bool
  (frame_len frame_num : Nat)

def g_stDefaultCfg : I2sConfig :=
  { sample_width := .bits16
    stereo := true
    frame_len := 1200
    frame_num := 5 }

def I2sConfig.frameBits (cfg : I2sConfig) : Nat :=
  if cfg.stereo then i2sGetBitw cfg.sample_width * 2 else i2sGetBitw cfg.sample_width

def I2sConfig.size (cfg : I2sConfig) : Nat := u32 (cfg.frame_len * cfg.frame_num)

/-- `hs_audio_stream_t`: pointers into the ring are counted in frames, the
addresses and `buffer_size` in bytes. -/
structure AudioStream where
  (dma_start dma_end buffer_size frame_bits min_aglin hw_ptr : Nat)
  (start_threshold boundary app_ptr : Nat)
  silence_filled : UInt8
  state : AudioState
  auto_repair : Bool

def audioFrame2byte (stmp : AudioStream) (frame : Nat) : Nat := u32 (frame * stmp.frame_bits) / 8

def audioByte2frame (stmp : AudioStream) (byte : Nat) : Nat := u32 (byte * 8) / stmp.frame_bits

def i2sSetupHwparams (cfg : I2sConfig) (ptxbuf : Nat) : AudioStream :=
  { dma_start := ptxbuf
    dma_end := u32 (ptxbuf + cfg.size)
    buffer_size := cfg.size
    frame_bits := cfg.frameBits
    min_aglin := cfg.frameBits / 8
    hw_ptr := 0
    start_threshold := 0
    boundary := u32 (cfg.size * 8) / cfg.frameBits
    app_ptr := 0
    silence_filled := 0
    state := .ready
    auto_repair := false }

structure Region where
  (ppData len : Nat)

inductive Call where
  | idle
  | getting (size : Nat)
  | granting (size : Nat)
  | waiting (frame : Nat)
  | finishing | inserting | repairing
deriving DecidableEq

/-- The stream, its memory, the mutex and the last region fetched. `hung` is the
`while(1)` of `audio_update_hw_ptr`; `written` and `played` count frames, which the
driver does not. -/
structure Playback where
  stmp : AudioStream
  memory : Nat → UInt8
  mutex : Bool
  call : Call
  last : Region
  hung : Bool
  (written played : Nat)

/-- `i2s_lld_play_start` with `ptxbuf` still NULL; `dma` says whether a DMA
stream could be allocated. The size is passed on as a `uint16_t`. -/
def i2sLldPlayStart (cfg : I2sConfig) (bmem : Bmem) (dma : Bool) :
    Option (AudioStream × (Nat → UInt8)) :=
  let allocated := osBmemAlloc bmem (u16 cfg.size)
  if allocated.1 = 0 then none
  else if !dma then none
  else
    some (i2sSetupHwparams cfg allocated.1,
      patch allocated.2.memory allocated.1 cfg.size fun _ => 0)

/-- `audioPlayStart` of a ready driver, for the ring: `none` for a start that
fails. -/
def audioPlayStart (cfgp : Option I2sConfig) (start_threshold : Nat) (bmem : Bmem) (dma : Bool) :
    Option Playback :=
  (i2sLldPlayStart (cfgp.getD g_stDefaultCfg) bmem dma).map fun (stmp, memory) =>
    { stmp :=
        { stmp with
          start_threshold :=
            if start_threshold ≥ stmp.boundary then stmp.boundary / 2 else start_threshold
          state := .prepare
          auto_repair := false }
      memory := memory
      mutex := false
      call := .idle
      last := ⟨0, 0⟩
      hung := false
      written := 0
      played := 0 }

def audioPlayAvail (stmp : AudioStream) : Nat :=
  if stmp.app_ptr ≥ stmp.hw_ptr then u32Sub stmp.app_ptr stmp.hw_ptr
  else u32Sub (u32 (stmp.boundary + stmp.app_ptr)) stmp.hw_ptr

def audioPlayInavail (stmp : AudioStream) : Nat :=
  u32Sub (u32Sub stmp.boundary (audioPlayAvail stmp)) 1

def newHwPtr (stmp : AudioStream) (addr : Nat) : Nat :=
  if stmp.state.upToPrepare then audioByte2frame stmp 0
  else
    let pos := u32Sub addr stmp.dma_start
    audioByte2frame stmp (u32Sub pos (pos % stmp.min_aglin))

/-- The ranges that `_audio_keep_silence` clears: start address and length. -/
def silenceSpans (stmp : AudioStream) (new_hw_ptr : Nat) : List (Nat × Nat) :=
  let ptr := u32 (stmp.dma_start + audioFrame2byte stmp stmp.hw_ptr)
  if new_hw_ptr > stmp.hw_ptr then
    [(ptr, audioFrame2byte stmp (u32Sub new_hw_ptr stmp.hw_ptr))]
  else
    [(ptr, audioFrame2byte stmp (u32Sub stmp.boundary stmp.hw_ptr)),
      (stmp.dma_start, audioFrame2byte stmp new_hw_ptr)]

def audioKeepSilence (stmp : AudioStream) (memory : Nat → UInt8) (new_hw_ptr : Nat) : Nat → UInt8 :=
  (silenceSpans stmp new_hw_ptr).foldl
    (fun memory (ptr, len) => patch memory ptr len fun _ => stmp.silence_filled) memory

def audioUpdateHwPtr (playback : Playback) (addr : Nat) : Playback :=
  let stmp := playback.stmp
  let new_hw_ptr := newHwPtr stmp addr
  if new_hw_ptr > stmp.boundary then { playback with hung := true }
  else
    { playback with
      stmp := { stmp with hw_ptr := new_hw_ptr }
      played := playback.played + ahead stmp.boundary stmp.hw_ptr new_hw_ptr
      memory :=
        if new_hw_ptr ≠ stmp.hw_ptr then audioKeepSilence stmp playback.memory new_hw_ptr
        else playback.memory }

def repairPointNum : Nat := 60

def readSample (memory : Nat → UInt8) (ptr index : Nat) : Int :=
  let value := (memory (ptr + 2 * index)).toNat + 256 * (memory (ptr + 2 * index + 1)).toNat
  if value < 2 ^ 15 then (value : Int) else (value : Int) - 2 ^ 16

def writeSample (memory : Nat → UInt8) (ptr index : Nat) (value : Int) : Nat → UInt8 :=
  let bits := (value % 2 ^ 16).toNat
  patch memory (ptr + 2 * index) 2 fun byte => UInt8.ofNat (if byte = 0 then bits else bits / 256)

/-- `__audio_rp_GetIncreaseData` for the point `i`, where `j / 2 + 1 = i + 1`. -/
def increaseData (value : Int) (i : Nat) (lstValue : Int) : Int :=
  (value * ((repairPointNum : Int) - (i + 1)) + lstValue * (i + 1)).tdiv repairPointNum

structure LastSamples where
  memory : Nat → UInt8
  (last_left last_right : Int)

def increaseMono (ptr : Nat) (seen : LastSamples) (i : Nat) : LastSamples :=
  let temp := readSample seen.memory ptr i
  { seen with
    memory := writeSample seen.memory ptr i (increaseData temp i seen.last_left)
    last_left := temp }

def increaseStereo (ptr : Nat) (seen : LastSamples) (i : Nat) : LastSamples :=
  let left := readSample seen.memory ptr (2 * i)
  let memory := writeSample seen.memory ptr (2 * i) (increaseData left i seen.last_left)
  let right := readSample memory ptr (2 * i + 1)
  { memory := writeSample memory ptr (2 * i + 1) (increaseData right i seen.last_right)
    last_left := left
    last_right := right }

def increasePoints (stmp : AudioStream) (memory : Nat → UInt8) : Nat → UInt8 :=
  let ptr := u32 (stmp.dma_start + audioFrame2byte stmp (u32Sub stmp.app_ptr repairPointNum))
  let first : LastSamples := ⟨memory, readSample memory ptr 0, readSample memory ptr 1⟩
  let points := List.range' 1 (repairPointNum - 1)
  if stmp.frame_bits = 16 then
    let seen := points.foldl (increaseMono ptr) first
    writeSample seen.memory ptr repairPointNum seen.last_left
  else
    let seen := points.foldl (increaseStereo ptr) first
    writeSample (writeSample seen.memory ptr (repairPointNum * 2) seen.last_left) ptr
      (repairPointNum * 2 + 1) seen.last_right

def audioRpSwIncreasePoint (playback : Playback) : Playback :=
  let stmp := playback.stmp
  let app_ptr := u32 (stmp.app_ptr + 1)
  { playback with
    memory := increasePoints stmp playback.memory
    written := playback.written + 1
    stmp :=
      { stmp with
        app_ptr := if app_ptr ≥ stmp.boundary then u32Sub app_ptr stmp.boundary else app_ptr } }

/-! ### The calls, point by point -/

/-- `audioPlyGetDataBuffer` up to `audio_update_hw_ptr`. The early returns leave
the mutex to the send that follows. -/
def audioPlyGetDataBuffer (playback : Playback) (size : Nat) : Playback :=
  if playback.stmp.state.belowPrepare ∨ playback.stmp.state = .pause then
    { playback with mutex := true, last := ⟨playback.last.ppData, 0⟩ }
  else { playback with mutex := true, call := .getting size }

def grant (playback : Playback) (frame : Nat) : Playback :=
  let stmp := playback.stmp
  { playback with
    call := .idle
    last := ⟨u32 (stmp.dma_start + audioFrame2byte stmp stmp.app_ptr), audioFrame2byte stmp frame⟩ }

def requestedFrames (stmp : AudioStream) (size : Nat) : Nat :=
  let wanted := audioByte2frame stmp size
  let frame := if wanted > stmp.boundary then audioPlayInavail stmp else wanted
  if u32 (stmp.app_ptr + frame) > stmp.boundary then u32Sub stmp.boundary stmp.app_ptr else frame

def audioPlyGrant (playback : Playback) (size : Nat) : Playback :=
  let frame := requestedFrames playback.stmp size
  if frame > audioPlayInavail playback.stmp then { playback with call := .waiting frame }
  else grant playback frame

def advance (stmp : AudioStream) (size : Nat) : AudioStream :=
  let app_ptr := u32 (stmp.app_ptr + audioByte2frame stmp size)
  { stmp with
    state := if app_ptr ≥ stmp.start_threshold ∧ stmp.state = .prepare then .runing else stmp.state
    app_ptr := if app_ptr ≥ stmp.boundary then app_ptr % stmp.boundary else app_ptr }

/-- `audioPlySendDataDone` up to `audio_update_hw_ptr`, for the region fetched
last. -/
def audioPlySendDataDone (playback : Playback) (size : Nat) : Playback :=
  let stmp := playback.stmp
  if stmp.state.belowPrepare ∨ size = 0 then { playback with mutex := false }
  else if audioByte2frame stmp (u32Sub playback.last.ppData stmp.dma_start) = stmp.app_ptr then
    { playback with
      stmp := advance stmp size
      call := .finishing
      written := playback.written + audioByte2frame stmp size }
  else { playback with call := .finishing }

def audioPlyInsert (playback : Playback) : Playback :=
  let stmp := playback.stmp
  let repaired :=
    if audioPlayAvail stmp < stmp.boundary / 3 ∧ stmp.app_ptr ≥ repairPointNum ∧
        stmp.app_ptr < u32Sub stmp.boundary 1 then
      audioRpSwIncreasePoint playback
    else playback
  { repaired with
    mutex := false
    call := if stmp.auto_repair then .repairing else .idle }

/-- The next point of the thread that is in a call; `addr` is what the DMA
engine reports if the point reads it. -/
def Playback.thread (playback : Playback) (addr : Nat) : Playback :=
  match playback.call with
  | .idle => playback
  | .getting size => { audioUpdateHwPtr playback addr with call := .granting size }
  | .granting size => audioPlyGrant playback size
  | .waiting frame => grant playback (min frame (audioPlayInavail playback.stmp))
  | .finishing => { audioUpdateHwPtr playback addr with call := .inserting }
  | .inserting => audioPlyInsert playback
  | .repairing =>
    -- `audioGetBufferLevel`; the clock that is adjusted then is not the ring's.
    if playback.stmp.state = .runing then { audioUpdateHwPtr playback addr with call := .idle }
    else { playback with call := .idle }

inductive PlayAction where
  | get (size : Nat)
  | send (size : Nat)
  | setAutoRepair (auto_r : Bool)
  | thread (addr : Nat)
  | interrupt (addr : Nat)

def Playback.step (playback : Playback) : PlayAction → Playback
  | .get size => audioPlyGetDataBuffer playback size
  | .send size => audioPlySendDataDone playback size
  | .setAutoRepair auto_r =>
    if playback.stmp.state.belowPrepare then playback
    else { playback with stmp := { playback.stmp with auto_repair := auto_r } }
  | .thread addr => playback.thread addr
  | .interrupt addr => audioUpdateHwPtr playback addr

end Hfirmware.Audio
