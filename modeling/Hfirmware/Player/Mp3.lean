/-
The input side of the MP3 decoder: the undecoded bytes are a window of a buffer of 6
KiB, which a refill copies to the front.
-/

import Hfirmware.ByteImage
import Hfirmware.FixedWidth

namespace Hfirmware.Player.Mp3

open ByteImage

def mp3ReadBufferSize : Nat := 6 * 1024

def mainbufSize : Nat := 1940

/-- The file of the track, open for reading. The coming reads fail where `errors`
says so, and succeed beyond its end. -/
structure Fil where
  content : List UInt8
  fptr : Nat
  errors : List Bool

def Fil.fRead (file : Fil) (len : Nat) : Nat × Fil :=
  if file.errors.head? = some true then (0, { file with errors := file.errors.tail })
  else
    let count := min len (file.content.length - file.fptr)
    (count, { file with fptr := file.fptr + count, errors := file.errors.tail })

/-- `f_lseek`, which does not go beyond the end of a file open for reading. -/
def Fil.fLseek (file : Fil) (ofs : Nat) : Fil :=
  { file with fptr := min ofs file.content.length }

/-- The input side of `hs_adecmp3_t`, and the resume offset of its `stAdec`. A
`read_ptr` of `none` is NULL. `windows` and `refills` are the notes. -/
structure Decoder where
  read_buffer : Nat
  read_ptr : Option Nat
  (bytes_left u32Frames : Nat)
  memory : Nat → UInt8
  file : Fil
  windows : List (Option Nat × Nat)
  refills : List (Nat × Nat)

def Decoder.setWindow (decoder : Decoder) (read_ptr : Option Nat) (bytes_left : Nat) : Decoder :=
  { decoder with
    read_ptr := read_ptr
    bytes_left := bytes_left
    windows := decoder.windows ++ [(read_ptr, bytes_left)] }

def Decoder.advance (decoder : Decoder) (offset : Nat) : Decoder :=
  decoder.setWindow (decoder.read_ptr.map fun ptr => u32 (ptr + offset))
    (u32Sub decoder.bytes_left offset)

def Decoder.drop (decoder : Decoder) : Decoder := decoder.setWindow decoder.read_ptr 0

/-- `f_lseek` to `ofs`, and nothing of the window is kept. -/
def Decoder.seekTo (decoder : Decoder) (ofs : Nat) : Decoder :=
  Decoder.drop { decoder with file := decoder.file.fLseek ofs }

def Decoder.fetchData (decoder : Decoder) (u8Buf u32Len : Nat) : Nat × Decoder :=
  if u32Len = 0 then (0, decoder)
  else
    let (count, file) := decoder.file.fRead u32Len
    (count, { decoder with
        memory := patch decoder.memory u8Buf count fun k =>
          decoder.file.content.getD (decoder.file.fptr + k) 0
        file := file
        refills := decoder.refills ++ [(u8Buf, u32Len)] })

def Decoder.toFront (decoder : Decoder) : Decoder :=
  if decoder.bytes_left > 0 then
    let read_ptr := decoder.read_ptr.getD 0
    { decoder with
      memory := patch decoder.memory decoder.read_buffer decoder.bytes_left fun k =>
        decoder.memory (read_ptr + k)
      refills := decoder.refills ++
        [(read_ptr, decoder.bytes_left), (decoder.read_buffer, decoder.bytes_left)] }
  else decoder

def adecMp3FillBuffer (decoder : Decoder) : Bool × Decoder :=
  let bytes_to_read := u32Sub mp3ReadBufferSize decoder.bytes_left / 512 * 512
  let (bytes_read, fetched) := decoder.toFront.fetchData
    (u32 (decoder.read_buffer + decoder.bytes_left)) bytes_to_read
  if bytes_read ≠ 0 then
    (true, fetched.setWindow (some decoder.read_buffer) (u32 (decoder.bytes_left + bytes_read)))
  else (false, fetched)

def fillIf (condition : Bool) (decoder : Decoder) : Bool × Decoder :=
  if condition then adecMp3FillBuffer decoder else (true, decoder)

def orFail {Result : Type} (refill : Bool × Decoder) (failed : Result)
    (next : Decoder → Result × Decoder) : Result × Decoder :=
  match refill with
  | (false, decoder) => (failed, decoder)
  | (true, decoder) => next decoder

/-- The refill that `_adec_mp3Sync` and `_adec_mp3SkipId3v2` begin with. -/
def Decoder.lacks (decoder : Decoder) : Bool :=
  decoder.read_ptr.isNone || decide (decoder.bytes_left < 2 * mainbufSize)

def Decoder.short (decoder : Decoder) : Bool := decide (decoder.bytes_left < 1024)

def startsId3 (byte : Nat → UInt8) : Bool := byte 0 == 0x49 && byte 1 == 0x44 && byte 2 == 0x33

def id3Offset (byte : Nat → UInt8) : Nat :=
  (byte 9).toNat % 128 + (byte 8).toNat % 128 * 2 ^ 7 + (byte 7).toNat % 128 * 2 ^ 14 +
    (byte 6).toNat % 128 * 2 ^ 21 + 10

/-- The loop over a tag longer than the buffer: the rest of `offset` and `usedlen`,
`none` if a refill fails. It is left after `fuel` rounds at the latest. -/
def tagLoop : Nat → Nat → Nat → Decoder → Option (Nat × Nat) × Decoder
  | 0, offset, usedlen, decoder => (some (offset, usedlen), decoder)
  | fuel + 1, offset, usedlen, decoder =>
    if offset > mp3ReadBufferSize then
      orFail (adecMp3FillBuffer decoder.drop) none fun filled =>
        tagLoop fuel (offset - mp3ReadBufferSize) (u32 (usedlen + filled.bytes_left)) filled
    else (some (offset, usedlen), decoder)

def skipFrames (seek : Bool) (usedlen : Nat) (decoder : Decoder) : Bool × Decoder :=
  if decoder.bytes_left > decoder.u32Frames then
    let skipped := decoder.advance decoder.u32Frames
    fillIf skipped.short skipped
  else if seek then
    let sought :=
      decoder.seekTo (u32 (usedlen + u32Sub decoder.u32Frames decoder.bytes_left))
    fillIf sought.short sought
  else (false, decoder)

def skipTag (seek : Bool) (offset usedlen : Nat) (decoder : Decoder) : Bool × Decoder :=
  let behind := decoder.advance offset
  orFail (fillIf behind.short behind) false fun filled =>
    skipFrames seek (u32 (usedlen + u32Sub filled.bytes_left behind.bytes_left)) filled

def skipId3 (seek : Bool) (offset usedlen : Nat) (decoder : Decoder) : Bool × Decoder :=
  match tagLoop (offset / mp3ReadBufferSize) offset usedlen decoder with
  | (none, failed) => (false, failed)
  | (some (offset, usedlen), last) => skipTag seek offset usedlen last

/-- `_adec_mp3SkipId3v2`; `seek` tells whether `f_lseek` succeeds. -/
def adecMp3SkipId3v2 (seek : Bool) (decoder : Decoder) : Bool × Decoder :=
  orFail (fillIf decoder.lacks decoder) false fun filled =>
    let usedlen := if decoder.lacks then filled.bytes_left else 0
    let byte := fun i => filled.memory (filled.read_ptr.getD 0 + i)
    if startsId3 byte then skipId3 seek (id3Offset byte) usedlen filled
    else if seek then adecMp3FillBuffer (filled.seekTo filled.u32Frames)
    else (false, filled)

/-! ### Frames -/

def asInt (value : Nat) : Int := if value < 2 ^ 31 then value else (value : Int) - 2 ^ 32

/-- What one call of `MP3FindSyncWord` returns for each number of bytes; `none` is -1. -/
structure FindSyncWord where
  offset : Int → Option Nat
  inside : ∀ nBytes found, offset nBytes = some found → (found : Int) < nBytes

inductive Mp3Err where
  | none | indataUnderflow | maindataUnderflow | other
deriving DecidableEq

structure Decoded where
  err : Mp3Err
  /-- By how much `inbuf` is moved and `bytesLeft` is decreased. -/
  (moved used : Nat)

/-- What one call of `MP3Decode` does for each number of bytes. It may use more than it has, so far
as `bytesLeft` is an `int`. -/
structure Mp3Decode where
  result : Int → Decoded
  forward : ∀ bytesLeft, (result bytesLeft).moved ≤ (result bytesLeft).used
  range : ∀ bytesLeft, (result bytesLeft).used ≤ bytesLeft.toNat + 2 ^ 31

inductive Synced where
  | err | lost | found

def adecMp3Sync (find : FindSyncWord) (decoder : Decoder) : Synced × Decoder :=
  orFail (fillIf decoder.lacks decoder) .err fun filled =>
    match find.offset (asInt filled.bytes_left) with
    | none => (.lost, filled.drop)
    | some read_offset =>
      let synced := filled.advance read_offset
      orFail (fillIf synced.short synced) .err fun ready => (.found, ready)

def Decoder.decoded (decoder : Decoder) (result : Decoded) : Decoder :=
  decoder.setWindow (decoder.read_ptr.map fun ptr => u32 (ptr + result.moved))
    (u32Sub decoder.bytes_left result.used)

def adecMp3Decode (decode : Mp3Decode) (decoder : Decoder) : Decoder :=
  let result := decode.result (asInt decoder.bytes_left)
  let decoded := decoder.decoded result
  match result.err with
  | .none | .maindataUnderflow => decoded
  | .indataUnderflow => (adecMp3FillBuffer decoded.drop).2
  | .other => if decoded.bytes_left > 0 then decoded.advance 1 else decoded

def adecMp3Run (find : FindSyncWord) (decode : Mp3Decode) (decoder : Decoder) : Decoder :=
  match adecMp3Sync find decoder with
  | (.found, synced) => adecMp3Decode decode synced
  | (_, stopped) => stopped

def adecFfRew (u32Frames : Nat) (seek : Bool) (decoder : Decoder) : Decoder :=
  if u32Frames > decoder.file.content.length ∨ seek = false then decoder
  else { decoder with u32Frames, file := decoder.file.fLseek u32Frames }

/-- `hs_adec_creat` for an MP3 file, over a zeroed buffer at `read_buffer`. -/
def adecCreat (read_buffer : Nat) (content : List UInt8) (errors : List Bool)
    (u32Frames : Nat) : Decoder :=
  { read_buffer := read_buffer
    read_ptr := none
    bytes_left := 0
    u32Frames := if u32Frames ≥ 0x80000000 then 0 else u32Frames
    memory := fun _ => 0
    file := ⟨content, 0, errors⟩
    windows := []
    refills := [] }

inductive Mp3Action where
  | run (find : FindSyncWord) (decode : Mp3Decode)
  | ffRew (u32Frames : Nat) (seek : Bool)

def Decoder.step (decoder : Decoder) : Mp3Action → Decoder
  | .run find decode => adecMp3Run find decode decoder
  | .ffRew u32Frames seek => adecFfRew u32Frames seek decoder

def Inside (read_buffer : Nat) : Option Nat × Nat → Prop
  | (none, bytes_left) => bytes_left = 0
  | (some read_ptr, bytes_left) =>
    read_buffer ≤ read_ptr ∧ read_ptr + bytes_left ≤ read_buffer + mp3ReadBufferSize

instance (read_buffer : Nat) (window : Option Nat × Nat) : Decidable (Inside read_buffer window) :=
  match window with
  | (none, _) => inferInstanceAs (Decidable (_ = _))
  | (some _, _) => inferInstanceAs (Decidable (_ ∧ _))

structure Decoder.InBuffer (decoder : Decoder) : Prop where
  windows : ∀ window ∈ decoder.windows, Inside decoder.read_buffer window
  refills : ∀ range ∈ decoder.refills, Inside decoder.read_buffer (some range.1, range.2)

end Hfirmware.Player.Mp3
