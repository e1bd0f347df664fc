/-
The window of the MP3 decoder stays in its buffer as long as it is never moved by more
than it holds.
-/

import Hfirmware.GuardedRun
import Hfirmware.Player.Mp3

namespace Hfirmware.Player.Mp3

open List Nat Fil ByteImage GuardedRun

variable {decoder : Decoder}

structure Grows (decoder later : Decoder) : Prop where
  read_buffer : later.read_buffer = decoder.read_buffer
  windows : decoder.windows ⊆ later.windows

section

variable {middle later : Decoder}

theorem Grows.refl (decoder : Decoder) : Grows decoder decoder := ⟨rfl, List.Subset.refl _⟩

theorem Grows.trans (first : Grows decoder middle) (second : Grows middle later) :
    Grows decoder later :=
  ⟨second.read_buffer.trans first.read_buffer, List.Subset.trans first.windows second.windows⟩

section

variable (decoder : Decoder)

theorem grows_setWindow (read_ptr : Option Nat) (bytes_left : Nat) :
    Grows decoder (decoder.setWindow read_ptr bytes_left) :=
  ⟨rfl, subset_append_left _ _⟩

theorem grows_toFront : Grows decoder decoder.toFront := by
  unfold Decoder.toFront
  split
  · exact ⟨rfl, List.Subset.refl _⟩
  · exact Grows.refl decoder

theorem grows_fetchData (u8Buf u32Len : Nat) :
    Grows decoder (decoder.fetchData u8Buf u32Len).2 := by
  unfold Decoder.fetchData
  split
  · exact Grows.refl decoder
  · exact ⟨rfl, List.Subset.refl _⟩

theorem grows_fillBuffer : Grows decoder (adecMp3FillBuffer decoder).2 := by
  have fetched := (grows_toFront decoder).trans (grows_fetchData decoder.toFront
    (u32 (decoder.read_buffer + decoder.bytes_left))
    (u32Sub mp3ReadBufferSize decoder.bytes_left / 512 * 512))
  unfold adecMp3FillBuffer
  dsimp only
  split
  · exact fetched.trans (grows_setWindow _ _ _)
  · exact fetched

end

theorem Grows.outside (grows : Grows decoder later) {window : Option Nat × Nat}
    (noted : window ∈ decoder.windows) (outside : ¬Inside decoder.read_buffer window) :
    ¬later.InBuffer := by
  intro inBuffer
  have inside := inBuffer.windows window (grows.windows noted)
  rw [grows.read_buffer] at inside
  exact outside inside

end

structure Good (decoder : Decoder) : Prop where
  placed : decoder.read_buffer + mp3ReadBufferSize < 2 ^ 32
  window : Inside decoder.read_buffer (decoder.read_ptr, decoder.bytes_left)
  noted : decoder.InBuffer

section

section

variable (good : Good decoder)
include good

theorem Good.left_le : decoder.bytes_left ≤ mp3ReadBufferSize := by
  have window := good.window
  cases place : decoder.read_ptr with
  | none =>
    rw [place] at window
    change decoder.bytes_left = 0 at window
    omega
  | some read_ptr =>
    rw [place] at window
    obtain ⟨above, below⟩ := window
    omega

theorem Good.setWindow {read_ptr : Option Nat} {bytes_left : Nat}
    (inside : Inside decoder.read_buffer (read_ptr, bytes_left)) :
    Good (decoder.setWindow read_ptr bytes_left) := by
  refine ⟨good.placed, inside, fun window member => ?_, good.noted.refills⟩
  rcases mem_append.mp member with before | new
  · exact good.noted.windows window before
  · obtain rfl := mem_singleton.mp new
    exact inside

theorem Good.drop : Good decoder.drop := by
  apply good.setWindow
  have window := good.window
  cases place : decoder.read_ptr with
  | none => exact rfl
  | some read_ptr =>
    rw [place] at window
    obtain ⟨above, _⟩ := window
    exact ⟨above, by omega⟩

theorem Good.shift {moved used : Nat} (forward : moved ≤ used) (held : used ≤ decoder.bytes_left) :
    Good (decoder.setWindow (decoder.read_ptr.map fun ptr => u32 (ptr + moved))
      (u32Sub decoder.bytes_left used)) := by
  apply good.setWindow
  have window := good.window
  have placed := good.placed
  have bounded := good.left_le
  rw [u32Sub_of_le (by omega) held]
  cases place : decoder.read_ptr with
  | none =>
    rw [place] at window
    change decoder.bytes_left = 0 at window
    change decoder.bytes_left - used = 0
    omega
  | some read_ptr =>
    rw [place] at window
    obtain ⟨above, below⟩ := window
    change Inside _ (some (u32 (read_ptr + moved)), _)
    rw [u32_of_lt (by omega)]
    exact ⟨by omega, by omega⟩

theorem Good.advance {offset : Nat} (held : offset ≤ decoder.bytes_left) :
    Good (decoder.advance offset) := good.shift (le_refl offset) held

theorem Good.withFile (file : Fil) : Good { decoder with file } :=
  { good with noted := ⟨good.noted.windows, good.noted.refills⟩ }

theorem Good.toFront : Good decoder.toFront := by
  unfold Decoder.toFront
  split
  · rename_i some
    refine ⟨good.placed, good.window, good.noted.windows, fun range member => ?_⟩
    have window := good.window
    have bounded := good.left_le
    rcases mem_append.mp member with before | new
    · exact good.noted.refills range before
    · cases place : decoder.read_ptr with
      | none =>
        rw [place] at window
        change decoder.bytes_left = 0 at window
        omega
      | some =>
        rw [place] at window new
        rcases mem_cons.mp new with rfl | front
        · exact window
        · obtain rfl := mem_singleton.mp front
          exact ⟨.refl, Nat.add_le_add_left bounded _⟩
  · exact good

end

theorem toFront_fields (decoder : Decoder) : decoder.toFront.read_buffer = decoder.read_buffer ∧
    decoder.toFront.read_ptr = decoder.read_ptr ∧
    decoder.toFront.bytes_left = decoder.bytes_left ∧ decoder.toFront.file = decoder.file := by
  unfold Decoder.toFront
  split <;> exact ⟨rfl, rfl, rfl, rfl⟩

theorem fRead_le (file : Fil) (len : Nat) : (file.fRead len).1 ≤ len := by
  unfold fRead
  split
  · exact Nat.zero_le len
  · exact min_le_left _ _

theorem Good.fetchData (good : Good decoder) {u8Buf u32Len : Nat}
    (inside : Inside decoder.read_buffer (some u8Buf, u32Len)) :
    Good (decoder.fetchData u8Buf u32Len).2 := by
  unfold Decoder.fetchData
  split
  · exact good
  · refine ⟨good.placed, good.window, good.noted.windows, fun range member => ?_⟩
    rcases mem_append.mp member with before | new
    · exact good.noted.refills range before
    · obtain rfl := mem_singleton.mp new
      exact inside

theorem fetchData_le (decoder : Decoder) (u8Buf u32Len : Nat) :
    (decoder.fetchData u8Buf u32Len).1 ≤ u32Len := by
  unfold Decoder.fetchData
  split
  · exact Nat.zero_le _
  · exact fRead_le _ _

theorem Good.fillBuffer (good : Good decoder) : Good (adecMp3FillBuffer decoder).2 := by
  have bounded := good.left_le
  have placed := good.placed
  obtain ⟨base, _, _, _⟩ := toFront_fields decoder
  have size : mp3ReadBufferSize = 6144 := rfl
  have room : u32Sub mp3ReadBufferSize decoder.bytes_left = 6144 - decoder.bytes_left := by
    rw [u32Sub_of_le (by omega) bounded, size]
  have target : Inside decoder.toFront.read_buffer
      (some (u32 (decoder.read_buffer + decoder.bytes_left)),
        u32Sub mp3ReadBufferSize decoder.bytes_left / 512 * 512) := by
    rw [base, room, u32_of_lt (by omega)]
    exact ⟨Nat.le_add_right _ _, by omega⟩
  have fetched := good.toFront.fetchData target
  have count := fetchData_le decoder.toFront (u32 (decoder.read_buffer + decoder.bytes_left))
    (u32Sub mp3ReadBufferSize decoder.bytes_left / 512 * 512)
  have same := (grows_fetchData decoder.toFront (u32 (decoder.read_buffer + decoder.bytes_left))
    (u32Sub mp3ReadBufferSize decoder.bytes_left / 512 * 512)).read_buffer
  unfold adecMp3FillBuffer
  dsimp only
  split
  · apply fetched.setWindow
    rw [same, base, u32_of_lt (by omega)]
    exact ⟨.refl, by omega⟩
  · exact fetched

structure Keeps (decoder later : Decoder) : Prop extends Grows decoder later where
  good : Good decoder → Good later

theorem Keeps.refl (decoder : Decoder) : Keeps decoder decoder := ⟨Grows.refl decoder, id⟩

theorem Keeps.trans {middle later : Decoder} (first : Keeps decoder middle)
    (second : Keeps middle later) : Keeps decoder later :=
  ⟨first.toGrows.trans second.toGrows, second.good ∘ first.good⟩

theorem keeps_fillBuffer (decoder : Decoder) : Keeps decoder (adecMp3FillBuffer decoder).2 :=
  ⟨grows_fillBuffer decoder, Good.fillBuffer⟩

theorem keeps_fillIf (condition : Bool) (decoder : Decoder) :
    Keeps decoder (fillIf condition decoder).2 := by
  cases condition with
  | false => exact Keeps.refl decoder
  | true => exact keeps_fillBuffer decoder

theorem keeps_advance {offset : Nat} (held : Good decoder → offset ≤ decoder.bytes_left) :
    Keeps decoder (decoder.advance offset) :=
  ⟨grows_setWindow decoder _ _, fun good => good.advance (held good)⟩

theorem keeps_drop (decoder : Decoder) : Keeps decoder decoder.drop :=
  ⟨grows_setWindow decoder _ _, Good.drop⟩

theorem keeps_seekTo (decoder : Decoder) (ofs : Nat) : Keeps decoder (decoder.seekTo ofs) :=
  ⟨⟨rfl, subset_append_left _ _⟩, fun good => (good.withFile _).drop⟩

theorem keeps_orFail {Result : Type} {refill : Bool × Decoder} {failed : Result}
    {next : Decoder → Result × Decoder} (first : Keeps decoder refill.2)
    (second : ∀ filled, Keeps filled (next filled).2) :
    Keeps decoder (orFail refill failed next).2 := by
  obtain ⟨ok, filled⟩ := refill
  cases ok with
  | false => exact first
  | true => exact first.trans (second filled)

theorem keeps_skipFrames (seek : Bool) (usedlen : Nat) (decoder : Decoder) :
    Keeps decoder (skipFrames seek usedlen decoder).2 := by
  unfold skipFrames
  dsimp only
  split
  · next more =>
    exact (keeps_advance fun _ => le_of_lt more).trans (keeps_fillIf _ _)
  · cases seek with
    | false =>
      rw [if_neg nofun]
      exact Keeps.refl decoder
    | true =>
      rw [if_pos rfl]
      exact (keeps_seekTo decoder _).trans (keeps_fillIf _ _)

theorem keeps_skipTag (seek : Bool) (offset usedlen : Nat) (decoder : Decoder) :
    Keeps (decoder.advance offset) (skipTag seek offset usedlen decoder).2 :=
  keeps_orFail (keeps_fillIf _ _) fun filled => keeps_skipFrames seek _ filled

theorem keeps_sync (find : FindSyncWord) (decoder : Decoder) :
    Keeps decoder (adecMp3Sync find decoder).2 := by
  refine keeps_orFail (keeps_fillIf _ _) fun filled => ?_
  cases word : find.offset (asInt filled.bytes_left) with
  | none => exact keeps_drop filled
  | some read_offset =>
    refine (keeps_advance fun ready => ?_).trans
      (keeps_orFail (keeps_fillIf _ _) fun later => Keeps.refl later)
    have inside := find.inside _ _ word
    have small : filled.bytes_left < 2 ^ 31 := lt_of_le_of_lt ready.left_le (by decide)
    rw [asInt, if_pos small] at inside
    omega

/-- What follows `MP3Decode` moves the window only by what it holds. -/
theorem keeps_decoded (decode : Mp3Decode) (decoder : Decoder) :
    Keeps (decoder.decoded (decode.result (asInt decoder.bytes_left)))
      (adecMp3Decode decode decoder) := by
  unfold adecMp3Decode
  dsimp only
  generalize decoder.decoded _ = shifted
  cases (decode.result (asInt decoder.bytes_left)).err with
  | none | maindataUnderflow => exact Keeps.refl shifted
  | indataUnderflow => exact (keeps_drop _).trans (keeps_fillBuffer _)
  | other =>
    by_cases more : shifted.bytes_left > 0
    · rw [if_pos more]
      exact keeps_advance fun _ => more
    · rw [if_neg more]
      exact Keeps.refl shifted

/-- More than the window holds: `bytes_left` becomes negative, which is a window of 4 GB. -/
theorem decoded_outside (good : Good decoder) (decode : Mp3Decode)
    (more : decoder.bytes_left < (decode.result (asInt decoder.bytes_left)).used) :
    ¬Inside decoder.read_buffer
      ((decoder.decoded (decode.result (asInt decoder.bytes_left))).read_ptr,
        (decoder.decoded (decode.result (asInt decoder.bytes_left))).bytes_left) := by
  have held := good.left_le
  have small : decoder.bytes_left < 2 ^ 31 := lt_of_le_of_lt held (by decide)
  have range := decode.range (asInt decoder.bytes_left)
  rw [asInt, if_pos small, Int.toNat_natCast] at range
  have size : mp3ReadBufferSize = 6144 := rfl
  have huge : mp3ReadBufferSize <
      u32Sub decoder.bytes_left (decode.result (asInt decoder.bytes_left)).used := by
    rw [asInt, if_pos small] at more ⊢
    unfold u32Sub
    omega
  change ¬Inside _ (decoder.read_ptr.map _, u32Sub decoder.bytes_left _)
  generalize u32Sub decoder.bytes_left _ = left at huge
  cases decoder.read_ptr with
  | none =>
    change ¬left = 0
    omega
  | some =>
    rintro ⟨above, below⟩
    dsimp only at above below
    omega

def StaysInside (decoder : Decoder) : Mp3Action → Prop
  | .run find decode =>
    match adecMp3Sync find decoder with
    | (.found, synced) => (decode.result (asInt synced.bytes_left)).used ≤ synced.bytes_left
    | _ => True
  | .ffRew _ _ => True

/-- One step keeps the window inside exactly if `MP3Decode` leaves `bytesLeft` at 0 or more. -/
theorem step_spec (decoder : Decoder) (action : Mp3Action) :
    Grows decoder (decoder.step action) ∧
      (Good decoder → StaysInside decoder action → Good (decoder.step action)) ∧
      (Good decoder → ¬StaysInside decoder action →
        ∃ window ∈ (decoder.step action).windows,
          ¬Inside (decoder.step action).read_buffer window) := by
  cases action with
  | run find decode =>
    have synced := keeps_sync find decoder
    unfold Decoder.step StaysInside adecMp3Run
    dsimp only
    generalize adecMp3Sync find decoder = result at synced
    obtain ⟨status, ready⟩ := result
    cases status with
    | err | lost =>
      exact ⟨synced.toGrows, fun good _ => synced.good good, fun _ leaves => absurd trivial leaves⟩
    | found =>
      have decoded := keeps_decoded decode ready
      refine ⟨(synced.toGrows.trans (grows_setWindow ready _ _)).trans decoded.toGrows,
        fun good stays => decoded.good ((synced.good good).shift (decode.forward _) stays),
        fun good leaves => ⟨_, decoded.toGrows.windows (mem_append_right _ (.head _)), ?_⟩⟩
      rw [decoded.toGrows.read_buffer]
      exact decoded_outside (synced.good good) decode (Nat.lt_of_not_le leaves)
  | ffRew u32Frames seek =>
    refine ⟨?_, fun good _ => ?_, fun _ leaves => absurd trivial leaves⟩ <;>
      unfold Decoder.step adecFfRew <;> dsimp only <;> split
    · exact Grows.refl decoder
    · exact ⟨rfl, List.Subset.refl _⟩
    · exact good
    · exact ⟨good.placed, good.window, good.noted.windows, good.noted.refills⟩

theorem grows_run (decoder : Decoder) (actions : List Mp3Action) :
    Grows decoder (actions.foldl Decoder.step decoder) := by
  induction actions generalizing decoder with
  | nil => exact Grows.refl decoder
  | cons action _ ih => exact (step_spec decoder action).1.trans (ih _)

theorem run_inBuffer_iff (good : Good decoder) (actions : List Mp3Action) :
    (actions.foldl Decoder.step decoder).InBuffer ↔
      Along Decoder.step StaysInside decoder actions := by
  induction actions generalizing decoder with
  | nil => exact iff_of_true good.noted trivial
  | cons action rest ih =>
    obtain ⟨-, keeps, leaves⟩ := step_spec decoder action
    by_cases stays : StaysInside decoder action
    · exact (ih (keeps good stays)).trans ⟨fun later => ⟨stays, later⟩, fun both => both.2⟩
    · obtain ⟨_, noted, outside⟩ := leaves good stays
      exact iff_of_false ((grows_run _ rest).outside noted outside) fun both => stays both.1

theorem fillBuffer_empty (placed : decoder.read_buffer + mp3ReadBufferSize < 2 ^ 32)
    (empty : decoder.bytes_left = 0) :
    let after := decoder.file.fRead mp3ReadBufferSize
    ∃ later, adecMp3FillBuffer decoder = (decide (after.1 ≠ 0), later) ∧
      later.read_buffer = decoder.read_buffer ∧ later.file = after.2 ∧
      later.memory = patch decoder.memory decoder.read_buffer after.1 (fun k =>
          decoder.file.content.getD (decoder.file.fptr + k) 0) ∧
      (after.1 ≠ 0 → later.read_ptr = some decoder.read_buffer ∧ later.bytes_left = after.1) := by
  have front : decoder.toFront = decoder := if_neg (by omega)
  have room : u32Sub mp3ReadBufferSize 0 / 512 * 512 = mp3ReadBufferSize := by decide
  have target : u32 (decoder.read_buffer + 0) = decoder.read_buffer :=
    u32_of_lt (lt_of_le_of_lt (Nat.le_add_right _ _) placed)
  have count := fRead_le decoder.file mp3ReadBufferSize
  have fetch : ¬mp3ReadBufferSize = 0 := by decide
  unfold adecMp3FillBuffer
  rw [front, empty, room, target]
  unfold Decoder.fetchData
  dsimp only
  rw [if_neg fetch]
  dsimp only
  by_cases some : (decoder.file.fRead mp3ReadBufferSize).1 ≠ 0
  · have fits : u32 (0 + (decoder.file.fRead mp3ReadBufferSize).1) =
        (decoder.file.fRead mp3ReadBufferSize).1 := by
      rw [zero_add]
      exact u32_of_lt (lt_of_le_of_lt count (by decide))
    rw [if_pos some, decide_eq_true some, fits]
    exact ⟨_, rfl, rfl, rfl, rfl, fun _ => ⟨rfl, rfl⟩⟩
  · rw [if_neg some, decide_eq_false some]
    exact ⟨_, rfl, rfl, rfl, rfl, fun more => absurd more some⟩

def Reads (count : Nat) (file : Fil) : Prop :=
  (∀ j < count, file.errors[j]? ≠ some true) ∧
    mp3ReadBufferSize * count < file.content.length - file.fptr + mp3ReadBufferSize

theorem fRead_zero_iff (file : Fil) : (file.fRead mp3ReadBufferSize).1 = 0 ↔
    file.errors[0]? = some true ∨ file.content.length ≤ file.fptr := by
  have size : mp3ReadBufferSize = 6144 := rfl
  rw [← head?_eq_getElem?]
  unfold fRead
  split
  · next fails =>
    exact ⟨fun _ => .inl fails, fun _ => rfl⟩
  · next fails =>
    dsimp only
    constructor
    · intro none
      exact .inr (by omega)
    · rintro (impossible | _)
      · exact absurd impossible fails
      · omega

theorem fRead_some {file : Fil} (some : (file.fRead mp3ReadBufferSize).1 ≠ 0) :
    (file.fRead mp3ReadBufferSize).1 = min mp3ReadBufferSize (file.content.length - file.fptr) ∧
      (file.fRead mp3ReadBufferSize).2 =
        ⟨file.content, file.fptr + min mp3ReadBufferSize (file.content.length - file.fptr),
          file.errors.tail⟩ := by
  unfold fRead at some ⊢
  by_cases fails : file.errors.head? = Option.some true
  · rw [if_pos fails] at some
    exact absurd rfl some
  · rw [if_neg fails]
    exact ⟨rfl, rfl⟩

theorem reads_succ_iff (count : Nat) (file : Fil) : Reads (count + 1) file ↔
    (file.fRead mp3ReadBufferSize).1 ≠ 0 ∧ Reads count (file.fRead mp3ReadBufferSize).2 := by
  have size : mp3ReadBufferSize = 6144 := rfl
  by_cases some : (file.fRead mp3ReadBufferSize).1 ≠ 0
  · have zero := mt (fRead_zero_iff file).mpr some
    obtain ⟨works, _⟩ := not_or.mp zero
    rw [(fRead_some some).2]
    unfold Reads
    dsimp only
    rw [forall_lt_succ_left]
    simp only [List.getElem?_tail]
    constructor
    · rintro ⟨⟨_, errors⟩, room⟩
      exact ⟨some, errors, by unfold mp3ReadBufferSize at room ⊢; omega⟩
    · rintro ⟨_, errors, room⟩
      exact ⟨⟨works, errors⟩, by unfold mp3ReadBufferSize at room ⊢; omega⟩
  · have none := not_not.mp some
    constructor
    · rintro ⟨errors, room⟩
      rcases (fRead_zero_iff file).mp none with fails | atEnd
      · exact absurd fails (errors 0 (by omega))
      · unfold mp3ReadBufferSize at room
        omega
    · exact fun both => absurd both.1 some

theorem reads_zero (file : Fil) : Reads 0 file :=
  ⟨fun _ below => absurd below (Nat.not_lt_zero _), lt_of_lt_of_le (by decide)
    (Nat.le_add_left mp3ReadBufferSize _)⟩

theorem blocks_after {size rest count : Nat} (more : 0 < count) :
    rest - min size rest + size - size * count = rest + size - size * (count + 1) := by
  have one : size ≤ size * count := Nat.le_mul_of_pos_right size more
  rw [mul_succ]
  omega

theorem tagLoop_spec {fuel offset usedlen count : Nat} (good : Good decoder)
    (blocks : mp3ReadBufferSize * count < offset)
    (last : offset ≤ mp3ReadBufferSize * count + mp3ReadBufferSize) (enough : count ≤ fuel) :
    Good (tagLoop fuel offset usedlen decoder).2 ∧
      (¬Reads count decoder.file → (tagLoop fuel offset usedlen decoder).1 = none) ∧
      (Reads count decoder.file → ∃ used, (tagLoop fuel offset usedlen decoder).1 =
          some (offset - mp3ReadBufferSize * count, used) ∧
        (count = 0 ∧ (tagLoop fuel offset usedlen decoder).2 = decoder ∨
          0 < count ∧ (tagLoop fuel offset usedlen decoder).2.read_ptr =
              some (tagLoop fuel offset usedlen decoder).2.read_buffer ∧
            (tagLoop fuel offset usedlen decoder).2.bytes_left =
              min mp3ReadBufferSize (decoder.file.content.length - decoder.file.fptr +
                mp3ReadBufferSize - mp3ReadBufferSize * count))) := by
  have size : mp3ReadBufferSize = 6144 := rfl
  induction fuel generalizing decoder offset usedlen count with
  | zero =>
    obtain rfl : count = 0 := le_zero.mp enough
    exact ⟨good, fun never => absurd (reads_zero _) never, fun _ => ⟨usedlen, rfl, .inl ⟨rfl, rfl⟩⟩⟩
  | succ fuel ih =>
    unfold tagLoop
    cases count with
    | zero =>
      rw [if_neg (by omega)]
      exact ⟨good, fun never => absurd (reads_zero _) never,
        fun _ => ⟨usedlen, rfl, .inl ⟨rfl, rfl⟩⟩⟩
    | succ count =>
      rw [if_pos (by rw [size] at blocks ⊢; omega), reads_succ_iff]
      obtain ⟨later, fills, base, file, _, filled⟩ :=
        @fillBuffer_empty decoder.drop good.placed rfl
      have goodLater : Good later := by
        have refilled := good.drop.fillBuffer
        rwa [fills] at refilled
      change adecMp3FillBuffer decoder.drop =
        (decide ((decoder.file.fRead mp3ReadBufferSize).1 ≠ 0), later) at fills
      change later.file = (decoder.file.fRead mp3ReadBufferSize).2 at file
      change (decoder.file.fRead mp3ReadBufferSize).1 ≠ 0 → _ at filled
      rw [fills, ← file]
      by_cases some : (decoder.file.fRead mp3ReadBufferSize).1 ≠ 0
      · rw [decide_eq_true some]
        obtain ⟨goodLast, none, rest⟩ := @ih later (offset - mp3ReadBufferSize)
          _ count goodLater
          (by rw [size] at blocks ⊢; omega) (by rw [size] at last ⊢; omega) (by omega)
        refine ⟨goodLast, fun stuck => none fun reads => stuck ⟨some, reads⟩, fun reads => ?_⟩
        obtain ⟨used, result, window⟩ := rest reads.2
        refine ⟨used, ?_, .inr ?_⟩
        · rwa [mul_succ, add_comm, ← Nat.sub_sub]
        · obtain ⟨got, after⟩ := fRead_some some
          rcases window with ⟨rfl, same⟩ | ⟨more, place, left⟩
          · have place := (filled some).1.trans (congrArg Option.some base.symm)
            have left := (filled some).2.trans got
            rw [← same] at place left
            refine ⟨succ_pos _, place, left.trans ?_⟩
            rw [zero_add, mul_one, Nat.add_sub_cancel]
          · refine ⟨succ_pos _, place, left.trans ?_⟩
            rw [file, after]
            dsimp only
            rw [← Nat.sub_sub, blocks_after more]
      · rw [decide_eq_false some]
        exact ⟨goodLater, fun _ => rfl, fun reads => absurd reads.1 some⟩

theorem advance_outside (good : Good decoder) (place : decoder.read_ptr = some decoder.read_buffer)
    {offset : Nat} (less : decoder.bytes_left < offset) (small : offset ≤ mp3ReadBufferSize) :
    ¬Inside decoder.read_buffer
      ((decoder.advance offset).read_ptr, (decoder.advance offset).bytes_left) := by
  have placed := good.placed
  have size : mp3ReadBufferSize = 6144 := rfl
  change ¬Inside decoder.read_buffer
    (decoder.read_ptr.map fun ptr => u32 (ptr + offset), u32Sub decoder.bytes_left offset)
  rw [place]
  rintro ⟨_, below⟩
  unfold u32Sub at below
  omega

theorem skipId3_spec (good : Good decoder) {total offset usedlen count : Nat} (seek : Bool)
    (place : decoder.read_ptr = some decoder.read_buffer)
    (left : decoder.bytes_left = min mp3ReadBufferSize total)
    (rest : decoder.file.content.length - decoder.file.fptr = total - mp3ReadBufferSize)
    (blocks : mp3ReadBufferSize * count < offset)
    (last : offset ≤ mp3ReadBufferSize * count + mp3ReadBufferSize) :
    (¬(Reads count decoder.file ∧ total < offset) → Good (skipId3 seek offset usedlen decoder).2) ∧
    (Reads count decoder.file ∧ total < offset →
      ∀ later, Grows (skipId3 seek offset usedlen decoder).2 later → ¬later.InBuffer) := by
  have size : mp3ReadBufferSize = 6144 := rfl
  have enough : count ≤ offset / mp3ReadBufferSize :=
    (Nat.le_div_iff_mul_le (by decide)).mpr (by rw [mul_comm]; omega)
  obtain ⟨goodLast, none, reached⟩ :=
    @tagLoop_spec decoder _ offset usedlen count good blocks last enough
  unfold skipId3
  by_cases reads : Reads count decoder.file
  · obtain ⟨used, result, window⟩ := reached reads
    generalize tagLoop (offset / mp3ReadBufferSize) offset usedlen decoder = outcome
      at goodLast result window
    obtain ⟨status, reader⟩ := outcome
    obtain rfl : status = some (offset - mp3ReadBufferSize * count, used) := result
    dsimp only at goodLast window ⊢
    have ends : reader.read_ptr = some reader.read_buffer ∧
        reader.bytes_left = min mp3ReadBufferSize (total - mp3ReadBufferSize * count) := by
      rcases window with ⟨rfl, rfl⟩ | ⟨more, there, bytes⟩
      · exact ⟨place, left⟩
      · refine ⟨there, bytes.trans ?_⟩
        have room := reads.2
        have one := Nat.le_mul_of_pos_right mp3ReadBufferSize more
        rw [rest] at room ⊢
        congr 1
        omega
    obtain ⟨there, bytes⟩ := ends
    constructor
    · intro fits
      refine (keeps_skipTag seek _ used reader).good (goodLast.advance ?_)
      have inFile : offset ≤ total := Nat.le_of_not_lt fun short => fits ⟨reads, short⟩
      omega
    · rintro ⟨_, short⟩ later grows
      apply ((keeps_skipTag seek _ used reader).toGrows.trans grows).outside
        (mem_append_right _ (.head _))
      exact advance_outside goodLast there (by omega) (by omega)
  · have failed := none reads
    generalize tagLoop (offset / mp3ReadBufferSize) offset usedlen decoder = outcome
      at goodLast failed
    obtain ⟨status, reader⟩ := outcome
    obtain rfl : status = Option.none := failed
    exact ⟨fun _ => goodLast, fun both => absurd both.1 reads⟩

end

/-! ### A track -/

/-- A file that begins with a tag has all of it, or ends before the last buffer of
it begins, or one of the reads of the tag fails. -/
def TagFits (content : List UInt8) (errors : List Bool) : Prop :=
  let byte := fun i => content.getD i 0
  let blocks := (id3Offset byte - 1) / mp3ReadBufferSize
  startsId3 byte = true →
    id3Offset byte ≤ content.length ∨ content.length ≤ mp3ReadBufferSize * blocks ∨
      ∃ j ≤ blocks, errors[j]? = some true

theorem not_tagFits_iff (content : List UInt8) (errors : List Bool) : ¬TagFits content errors ↔
    startsId3 (fun i => content.getD i 0) ∧
      Reads ((id3Offset (fun i => content.getD i 0) - 1) / mp3ReadBufferSize + 1)
        ⟨content, 0, errors⟩ ∧
      content.length < id3Offset (fun i => content.getD i 0) := by
  generalize tag : id3Offset (fun i => content.getD i 0) = offset
  unfold TagFits Reads
  dsimp only
  rw [tag, Nat.sub_zero, mul_succ, Nat.add_lt_add_iff_right]
  generalize (offset - 1) / mp3ReadBufferSize = blocks
  constructor
  · intro misfit
    obtain ⟨starts, no⟩ := Classical.not_imp.mp misfit
    obtain ⟨short, others⟩ := not_or.mp no
    obtain ⟨long, works⟩ := not_or.mp others
    exact ⟨starts, ⟨fun j below fails => works ⟨j, le_of_lt_succ below, fails⟩,
      Nat.lt_of_not_le long⟩, Nat.lt_of_not_le short⟩
  · rintro ⟨starts, ⟨works, long⟩, short⟩ fits
    rcases fits starts with inFile | before | ⟨j, atMost, fails⟩
    · omega
    · omega
    · exact works j (lt_succ_of_le atMost) fails

theorem header_eq {byte : Nat → UInt8} {content : List UInt8}
    (same : ∀ i < 10, byte i = content.getD i 0) :
    startsId3 byte = startsId3 (fun i => content.getD i 0) ∧
      id3Offset byte = id3Offset (fun i => content.getD i 0) := by
  unfold startsId3 id3Offset
  rw [same 0 (by decide), same 1 (by decide), same 2 (by decide), same 6 (by decide),
    same 7 (by decide), same 8 (by decide), same 9 (by decide)]
  exact ⟨rfl, rfl⟩

theorem skip_spec {read_buffer : Nat} (placed : read_buffer + mp3ReadBufferSize < 2 ^ 32)
    (content : List UInt8) (errors : List Bool) (u32Frames : Nat) (seek : Bool) :
    let skipped := (adecMp3SkipId3v2 seek (adecCreat read_buffer content errors u32Frames)).2
    (TagFits content errors → Good skipped) ∧
      (¬TagFits content errors → ∀ later, Grows skipped later → ¬later.InBuffer) := by
  have created : Good (adecCreat read_buffer content errors u32Frames) :=
    ⟨placed, rfl, nofun, nofun⟩
  obtain ⟨filled, fills, base, file, memory, ready⟩ :=
    @fillBuffer_empty (adecCreat read_buffer content errors u32Frames) placed rfl
  have good : Good filled := by
    have refilled := created.fillBuffer
    rwa [fills] at refilled
  change filled.read_buffer = read_buffer at base
  change adecMp3FillBuffer _ = (decide ((fRead ⟨content, 0, errors⟩ _).1 ≠ 0), filled) at fills
  change filled.file = (fRead ⟨content, 0, errors⟩ mp3ReadBufferSize).2 at file
  change filled.memory = patch (fun _ => 0) read_buffer (fRead ⟨content, 0, errors⟩ _).1
    (fun k => content.getD (0 + k) 0) at memory
  change (fRead ⟨content, 0, errors⟩ _).1 ≠ 0 → filled.read_ptr = some read_buffer ∧
    filled.bytes_left = (fRead ⟨content, 0, errors⟩ _).1 at ready
  intro skipped
  rw [not_tagFits_iff, reads_succ_iff]
  have result : skipped = (orFail (adecMp3FillBuffer _) false _).2 := rfl
  rw [fills] at result
  by_cases some : (fRead ⟨content, 0, errors⟩ mp3ReadBufferSize).1 ≠ 0
  · obtain ⟨place, left⟩ := ready some
    obtain ⟨count, after⟩ := fRead_some some
    rw [decide_eq_true some] at result
    have same : ∀ i < 10, filled.memory (filled.read_ptr.getD 0 + i) = content.getD i 0 := by
      intro i small
      rw [place, memory, Option.getD_some]
      by_cases inFile : i < content.length
      · have early : i < (fRead ⟨content, 0, errors⟩ mp3ReadBufferSize).1 := by
          rw [count]
          exact Nat.lt_min.mpr ⟨lt_trans small (by decide), inFile⟩
        rw [patch_inside _ _ (Nat.le_add_right _ _) (by omega), Nat.add_sub_cancel_left, zero_add]
      · have late : (fRead ⟨content, 0, errors⟩ mp3ReadBufferSize).1 ≤ i := by
          rw [count]
          exact le_trans (min_le_right _ _) (Nat.le_of_not_lt inFile)
        rw [patch_outside _ _ (by omega), getD_eq_getElem?_getD,
          List.getElem?_eq_none (Nat.le_of_not_lt inFile)]
        rfl
    obtain ⟨starts, tag⟩ := header_eq same
    have branch : skipped = (if startsId3 (fun i => filled.memory (filled.read_ptr.getD 0 + i)) then
        skipId3 seek (id3Offset fun i => filled.memory (filled.read_ptr.getD 0 + i))
          filled.bytes_left filled
      else if seek then adecMp3FillBuffer (filled.seekTo filled.u32Frames)
      else (false, filled)).2 := result
    rw [starts, tag] at branch
    split at branch
    · next tagged =>
      generalize header : id3Offset (fun i => content.getD i 0) = offset at branch ⊢
      have positive : 0 < offset := by
        rw [← header]
        exact succ_pos _
      have bounds := div_add_mod (offset - 1) mp3ReadBufferSize
      have remainder := mod_lt (offset - 1) (show mp3ReadBufferSize > 0 by decide)
      obtain ⟨fits, misfits⟩ := @skipId3_spec filled good _ offset _
        ((offset - 1) / mp3ReadBufferSize) seek (by rw [place, base]) (left.trans count)
        (by rw [file, after]; dsimp only; omega) (by omega) (by omega)
      rw [branch, ← file]
      refine ⟨fun whole => fits fun both => ?_, fun both => misfits ⟨both.2.1.2, both.2.2⟩⟩
      refine absurd whole ((not_tagFits_iff content errors).mpr ⟨tagged, ?_, ?_⟩)
      · rw [header, reads_succ_iff, ← file]
        exact ⟨some, both.1⟩
      · rw [header]
        exact both.2
    · next tagged =>
      refine ⟨fun _ => ?_, fun both => absurd both.1 tagged⟩
      rw [branch]
      cases seek with
      | false => exact good
      | true => exact ((keeps_seekTo _ _).good good).fillBuffer
  · rw [decide_eq_false some] at result
    have stopped : skipped = filled := result
    rw [stopped]
    exact ⟨fun _ => good, fun both => absurd both.2.1.1 some⟩

/-- A track from its start on, whatever the file holds, the decoder answers and the user rewinds:
the window stays in the buffer exactly if the tag fits and no frame uses more than there is. -/
theorem mp3_window {read_buffer : Nat} (placed : read_buffer + mp3ReadBufferSize < 2 ^ 32)
    (content : List UInt8) (errors : List Bool) (u32Frames : Nat) (seek : Bool)
    (actions : List Mp3Action) :
    let skipped := (adecMp3SkipId3v2 seek (adecCreat read_buffer content errors u32Frames)).2
    (actions.foldl Decoder.step skipped).InBuffer ↔
      TagFits content errors ∧ Along Decoder.step StaysInside skipped actions := by
  intro skipped
  obtain ⟨fits, misfits⟩ := skip_spec placed content errors u32Frames seek
  by_cases whole : TagFits content errors
  · rw [run_inBuffer_iff (fits whole)]
    exact ⟨fun stays => ⟨whole, stays⟩, fun both => both.2⟩
  · exact iff_of_false (misfits whole _ (grows_run _ actions)) fun both => whole both.1

theorem mp3_window_tagged :
    let content : List UInt8 := [0x49, 0x44, 0x33, 3, 0, 0, 0, 0, 0, 0, 0xff, 0xfb, 0x90]
    (adecMp3SkipId3v2 true (adecCreat 0x20000 content [] 0)).2.InBuffer := by
  refine (mp3_window (by decide) _ [] 0 true []).mpr ⟨fun _ => .inl ?_, trivial⟩
  decide

/-- The sync word is the first byte, and a frame is 29 bytes longer than what is left. -/
def longFrame : Mp3Action :=
  .run ⟨fun nBytes => if 0 < nBytes then some 0 else none, by
      intro nBytes found first
      split at first
      · cases first
        assumption
      · cases first⟩
    ⟨fun bytesLeft => ⟨.maindataUnderflow, 0, bytesLeft.toNat + 29⟩, fun _ => Nat.zero_le _,
      fun _ => Nat.add_le_add_left (by decide) _⟩

/-- The header announces a tag of 100 bytes in a file of 13; and a frame that goes beyond the end of
a file. -/
theorem mp3_window_truncated :
    let content : List UInt8 := [0x49, 0x44, 0x33, 3, 0, 0, 0, 0, 0, 100, 0xff, 0xfb, 0x90]
    let skipped := (adecMp3SkipId3v2 true (adecCreat 0x20000 content [] 0)).2
    let track := (adecMp3SkipId3v2 true (adecCreat 0x20000 (List.replicate 4000 0) [] 0)).2
    (skipped.read_ptr = some (0x20000 + 110) ∧ skipped.bytes_left = 2 ^ 32 - 97 ∧
      ¬skipped.InBuffer) ∧
      (track.step longFrame).bytes_left = 2 ^ 32 - 29 ∧ ¬(track.step longFrame).InBuffer := by
  intro content skipped track
  have window : skipped.windows = [(some 0x20000, 13), (some (0x20000 + 110), 2 ^ 32 - 97),
      (some (0x20000 + 110), 2 ^ 32 - 97)] := by decide +kernel
  have last : (track.step longFrame).windows.getLast? = some (some 0x20000, 2 ^ 32 - 29) := by
    decide +kernel
  refine ⟨⟨by decide +kernel, by decide +kernel, fun inBuffer => ?_⟩, by decide +kernel,
    fun inBuffer => ?_⟩
  · have inside := inBuffer.windows (some (0x20000 + 110), 2 ^ 32 - 97) (by simp [window])
    exact absurd inside (by decide)
  · have inside := inBuffer.windows _ (mem_of_getLast? last)
    exact absurd inside (by decide +kernel)

end Hfirmware.Player.Mp3
