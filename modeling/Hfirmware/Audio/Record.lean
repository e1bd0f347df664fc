/-
The recording half of the audio driver, with the echo canceller, which works in place on
what the client fetches.
-/

import Hfirmware.Audio.Playback

namespace Hfirmware.Audio

open ByteImage

/-- What an address of the ring holds: which byte of the recorded stream, and the
reference bytes it was processed with, `none` for one that was never saved. -/
structure Cell where
  byte : Nat
  refs : List (Option Nat)
deriving DecidableEq

def algAecBufLen : Nat := 1024 * 12

/-- `hs_alg_aec_t`. A slot of `u8TxBuf` holds the number of a saved byte; `saved`
counts them, which the code does not. -/
structure Aec where
  u32RestLen : Nat
  u8TxBuf : Nat → Option Nat
  (u32TxWptr u32TxRptr saved : Nat)

/-- The stream and its memory. `written` counts the bytes that the DMA engine has
delivered since the start, `taken` the frames given back. `aec` is the running
echo canceller. -/
structure Recorder where
  stmp : AudioStream
  memory : Nat → Cell
  (written taken : Nat)
  aec : Option Aec

def Recorder.arriveByte (recorder : Recorder) : Recorder :=
  { recorder with
    memory := Function.update recorder.memory
      (recorder.stmp.dma_start + recorder.written % recorder.stmp.buffer_size)
      ⟨recorder.written, []⟩
    written := recorder.written + 1 }

def Recorder.arrive (recorder : Recorder) : Nat → Recorder
  | 0 => recorder
  | count + 1 => recorder.arriveByte.arrive count

/-- `audio_update_hw_ptr`. The address that the DMA engine reports is on the ring,
so that the hang on one that is not does not occur. -/
def Recorder.updateHwPtr (recorder : Recorder) : Recorder :=
  let addr := recorder.stmp.dma_start + recorder.written % recorder.stmp.buffer_size
  { recorder with stmp := { recorder.stmp with hw_ptr := newHwPtr recorder.stmp addr } }

def audioRecordAvail (stmp : AudioStream) : Nat :=
  if stmp.hw_ptr ≥ stmp.app_ptr then u32Sub stmp.hw_ptr stmp.app_ptr
  else u32Sub (u32 (stmp.boundary + stmp.hw_ptr)) stmp.app_ptr

/-- `hs_audio_algAecStart`: where what is recorded from now on is an echo of what will
be saved. -/
def Recorder.algAecStart (recorder : Recorder) (ply : Nat) : Recorder :=
  let updated := recorder.updateHwPtr
  { updated with
    aec := some
      { u32RestLen := ply + audioFrame2byte updated.stmp (audioRecordAvail updated.stmp) + 5 * 2
        u8TxBuf := fun _ => none
        u32TxWptr := 0
        u32TxRptr := 0
        saved := 0 } }

def algAecSaveTxData (aec : Aec) (len : Nat) : Aec :=
  let tmpLen := if aec.u32TxWptr + len > algAecBufLen then algAecBufLen - aec.u32TxWptr else len
  let first := patch aec.u8TxBuf aec.u32TxWptr tmpLen fun k => some (aec.saved + k)
  { aec with
    u8TxBuf := patch first 0 (len - tmpLen) fun k => some (aec.saved + tmpLen + k)
    u32TxWptr := (aec.u32TxWptr + len) % algAecBufLen
    saved := aec.saved + len }

def Cell.process (cell : Cell) (reference : Option Nat) : Cell :=
  { cell with refs := cell.refs ++ [reference] }

/-- `s16RxPtr[i] = pfnAecCal(s16TxPtr[0], s16RxPtr[i])` for the sample at `ptr`. -/
def aecSample (memory : Nat → Cell) (aec : Aec) (ptr : Nat) : Nat → Cell :=
  let low := Function.update memory ptr ((memory ptr).process (aec.u8TxBuf aec.u32TxRptr))
  Function.update low (ptr + 1) ((memory (ptr + 1)).process (aec.u8TxBuf (aec.u32TxRptr + 1)))

def aecLoop (ptr : Nat) : Nat → (Nat → Cell) → Aec → (Nat → Cell) × Aec
  | 0, memory, aec => (memory, aec)
  | count + 1, memory, aec =>
    aecLoop (ptr + 2) count (aecSample memory aec ptr)
      { aec with u32TxRptr := (aec.u32TxRptr + 2) % algAecBufLen }

def Recorder.algAecDoData (recorder : Recorder) (pbuf len : Nat) : Recorder :=
  match recorder.aec with
  | none => recorder
  | some aec =>
    if aec.u32RestLen > 0 ∧ ¬aec.u32RestLen < len then
      { recorder with aec := some { aec with u32RestLen := aec.u32RestLen - len } }
    else
      let (memory, processed) := aecLoop (pbuf + aec.u32RestLen) ((len - aec.u32RestLen) / 2)
        recorder.memory { aec with u32RestLen := 0 }
      { recorder with memory, aec := some processed }

/-- How many bytes arrive while a get is under way: until the DMA engine is looked
at, until the last interrupt of a wait, and until the get returns. -/
structure Timing where
  (before waited late : Nat)
deriving DecidableEq

def recFrames (stmp : AudioStream) (size : Nat) : Nat :=
  let wanted := audioByte2frame stmp size
  let frame := if wanted > stmp.boundary then audioRecordAvail stmp else wanted
  if u32 (stmp.app_ptr + frame) > stmp.boundary then u32Sub stmp.boundary stmp.app_ptr else frame

def Recorder.look (recorder : Recorder) (size : Nat) (timing : Timing) : Recorder × Nat :=
  let updated := (recorder.arrive timing.before).updateHwPtr
  let frame := recFrames updated.stmp size
  if frame > audioRecordAvail updated.stmp then
    let waited := (updated.arrive timing.waited).updateHwPtr
    (waited, min frame (audioRecordAvail waited.stmp))
  else (updated, frame)

/-- `audioRecGetDataBuffer`; the noise suppression behind the echo canceller is
not started. -/
def audioRecGetDataBuffer (recorder : Recorder) (size : Nat) (timing : Timing) :
    Recorder × Region :=
  if recorder.stmp.state ≠ .runing then (recorder, ⟨0, 0⟩)
  else
    let (looked, frame) := recorder.look size timing
    let region : Region :=
      ⟨u32 (looked.stmp.dma_start + audioFrame2byte looked.stmp looked.stmp.app_ptr),
        audioFrame2byte looked.stmp frame⟩
    ((looked.algAecDoData region.ppData region.len).arrive timing.late, region)

def audioRecGetDataDone (recorder : Recorder) (pData size : Nat) : Recorder :=
  let stmp := recorder.stmp
  if stmp.state ≠ .runing ∨ size = 0 then recorder
  else if audioByte2frame stmp (u32Sub pData stmp.dma_start) = stmp.app_ptr then
    let app_ptr := u32 (stmp.app_ptr + audioByte2frame stmp size)
    { recorder with
      stmp :=
        { stmp with
          app_ptr := if app_ptr ≥ stmp.boundary then app_ptr % stmp.boundary else app_ptr }
      taken := recorder.taken + audioByte2frame stmp size }
  else recorder

def Recorder.read (recorder : Recorder) (region : Region) : List Cell :=
  (List.range region.len).map fun k => recorder.memory (region.ppData + k)

/-- `audioRecordStart` into the buffer at `prxbuf`, with nothing recorded yet;
`aec` is what `hs_audio_algAecStart` sets up, if it is called. -/
def audioRecordStart (cfg : I2sConfig) (prxbuf : Nat) (aec : Option Aec) : Recorder :=
  { stmp := { i2sSetupHwparams cfg prxbuf with state := .runing }
    memory := fun _ => ⟨0, []⟩
    written := 0
    taken := 0
    aec := aec }

end Hfirmware.Audio
