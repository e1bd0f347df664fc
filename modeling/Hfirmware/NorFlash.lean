/-
NOR flash as a byte image with three primitives: chip erase, sector erase and page
program.
-/

import Hfirmware.ByteImage

namespace Hfirmware.NorFlash

open List

structure Geometry where
  (sectorSize pageSize : Nat)

inductive Op where
  | eraseChip
  | eraseSector (address : Nat)
  | programPage (address count : Nat) (data : Nat → UInt8)

def blank : UInt8 := 0xff

/-- Position of `address` in the data of a page program issued at `start`,
counted cyclically inside the page. -/
def pageIndex (geometry : Geometry) (start address : Nat) : Nat :=
  (address % geometry.pageSize + geometry.pageSize - start % geometry.pageSize) % geometry.pageSize

def Op.apply (geometry : Geometry) (image : Nat → UInt8) : Op → Nat → UInt8
  | .eraseChip => fun _ => blank
  | .eraseSector address => fun a =>
    if a / geometry.sectorSize = address / geometry.sectorSize then blank else image a
  | .programPage start count data => fun a =>
    if a / geometry.pageSize = start / geometry.pageSize ∧ pageIndex geometry start a < count then
      image a &&& data (pageIndex geometry start a)
    else image a

def applyAll (geometry : Geometry) (image : Nat → UInt8) (ops : List Op) : Nat → UInt8 :=
  ops.foldl (Op.apply geometry) image

/-- The image found after power was cut somewhere in a list of primitives. -/
def Cut (geometry : Geometry) (ops : List Op) (image after : Nat → UInt8) : Prop :=
  ∃ done, after = applyAll geometry image (ops.take done)

variable {geometry : Geometry} {image after : Nat → UInt8}

@[simp] theorem applyAll_nil : applyAll geometry image [] = image := rfl

@[simp] theorem applyAll_cons (op : Op) (ops : List Op) :
    applyAll geometry image (op :: ops) = applyAll geometry (op.apply geometry image) ops := rfl

@[simp] theorem applyAll_append (first second : List Op) :
    applyAll geometry image (first ++ second) =
      applyAll geometry (applyAll geometry image first) second :=
  foldl_append

theorem cut_nil (cut : Cut geometry [] image after) : after = image := by
  obtain ⟨_, reached⟩ := cut
  rw [reached, take_nil, applyAll_nil]

theorem cut_append {first second : List Op} (cut : Cut geometry (first ++ second) image after) :
    Cut geometry first image after ∨ Cut geometry second (applyAll geometry image first) after := by
  obtain ⟨done, reached⟩ := cut
  rw [take_append] at reached
  by_cases early : done ≤ first.length
  · left
    have none : done - first.length = 0 := by omega
    rw [none, take_zero, append_nil] at reached
    exact ⟨done, reached⟩
  · right
    rw [take_of_length_le (by omega), applyAll_append] at reached
    exact ⟨done - first.length, reached⟩

def program (image : Nat → UInt8) (start count : Nat) (data : Nat → UInt8) : Nat → UInt8 :=
  fun a => if start ≤ a ∧ a < start + count then image a &&& data (a - start) else image a

theorem program_inside (data : Nat → UInt8) {start count a : Nat}
    (above : start ≤ a) (below : a < start + count) :
    program image start count data a = image a &&& data (a - start) :=
  if_pos ⟨above, below⟩

theorem program_outside (data : Nat → UInt8) {start count a : Nat}
    (outside : ¬(start ≤ a ∧ a < start + count)) :
    program image start count data a = image a :=
  if_neg outside

@[simp] theorem program_zero (start : Nat) (data : Nat → UInt8) :
    program image start 0 data = image := by
  funext a
  exact program_outside data (by omega)

theorem program_congr {left right : Nat → UInt8} (start : Nat) {count : Nat}
    (same : ∀ index < count, left index = right index) :
    program image start count left = program image start count right := by
  funext a
  unfold program
  by_cases inside : start ≤ a ∧ a < start + count
  · rw [if_pos inside, if_pos inside, same (a - start) (by omega)]
  · rw [if_neg inside, if_neg inside]

theorem blank_and (value : UInt8) : blank &&& value = value := by
  apply UInt8.toNat_inj.mp
  rw [UInt8.toNat_and, Nat.and_comm]
  exact (Nat.and_two_pow_sub_one_eq_mod value.toNat 8).trans (Nat.mod_eq_of_lt value.toNat_lt)

theorem program_blank {data : Nat → UInt8} {start count : Nat}
    (erased : ∀ index < count, image (start + index) = blank) {index : Nat}
    (below : index < count) :
    program image start count data (start + index) = data index := by
  rw [program_inside data (by omega) (by omega), erased index below, blank_and,
    Nat.add_sub_cancel_left]

theorem program_append (data : Nat → UInt8) (start first second : Nat) :
    program (program image start first data) (start + first) second
        (fun index => data (first + index)) =
      program image start (first + second) data := by
  funext a
  unfold program
  split
  · rw [if_neg (by omega), if_pos (by omega)]
    exact congrArg (fun index => image a &&& data index) (by omega)
  · split
    · rw [if_pos (by omega)]
    · rw [if_neg (by omega)]

private theorem pageIndex_forward {start a : Nat} (positive : 0 < geometry.pageSize)
    (samePage : a / geometry.pageSize = start / geometry.pageSize) (forward : start ≤ a) :
    pageIndex geometry start a = a - start := by
  have startSplit := Nat.div_add_mod start geometry.pageSize
  have split := Nat.div_add_mod a geometry.pageSize
  have below := Nat.mod_lt a positive
  rw [samePage] at split
  have shifted : a % geometry.pageSize + geometry.pageSize - start % geometry.pageSize =
      (a - start) + geometry.pageSize := by omega
  rw [pageIndex, shifted, Nat.add_mod_right, Nat.mod_eq_of_lt (by omega)]

private theorem pageIndex_backward {start a : Nat} (positive : 0 < geometry.pageSize)
    (samePage : a / geometry.pageSize = start / geometry.pageSize) (backward : a < start) :
    pageIndex geometry start a + start = geometry.pageSize + a := by
  have startSplit := Nat.div_add_mod start geometry.pageSize
  have split := Nat.div_add_mod a geometry.pageSize
  have below := Nat.mod_lt start positive
  rw [samePage] at split
  rw [pageIndex, Nat.mod_eq_of_lt (by omega)]
  omega

theorem apply_programPage (data : Nat → UInt8) {start count : Nat}
    (inPage : start % geometry.pageSize + count ≤ geometry.pageSize) (some : 0 < count) :
    (Op.programPage start count data).apply geometry image = program image start count data := by
  funext a
  have positive : 0 < geometry.pageSize := by omega
  have startSplit := Nat.div_add_mod start geometry.pageSize
  simp only [Op.apply, program]
  by_cases inside : start ≤ a ∧ a < start + count
  · have samePage : a / geometry.pageSize = start / geometry.pageSize := by
      apply Nat.div_eq_of_lt_le
      · rw [mul_comm]; omega
      · rw [add_mul, one_mul, mul_comm]; omega
    rw [pageIndex_forward positive samePage inside.1, if_pos ⟨samePage, by omega⟩,
      if_pos inside]
  · rw [if_neg inside, if_neg]
    rintro ⟨samePage, short⟩
    rcases lt_or_ge a start with backward | forward
    · have wrapped := pageIndex_backward positive samePage backward
      have split := Nat.div_add_mod a geometry.pageSize
      rw [samePage] at split
      omega
    · rw [pageIndex_forward positive samePage forward] at short
      omega

/-- `Programs geometry ops start count data`: the primitives program `count`
bytes of `data` from `start` on, in ascending order and page by page. -/
inductive Programs (geometry : Geometry) : List Op → Nat → Nat → (Nat → UInt8) → Prop where
  | nil (start : Nat) (data : Nat → UInt8) : Programs geometry [] start 0 data
  | page {ops : List Op} {start first count : Nat} {data : Nat → UInt8}
      (some : 0 < first) (inPage : start % geometry.pageSize + first ≤ geometry.pageSize)
      (rest : Programs geometry ops (start + first) count (fun index => data (first + index))) :
      Programs geometry (.programPage start first data :: ops) start (first + count) data

theorem Programs.applyAll_eq {ops : List Op} {start count : Nat} {data : Nat → UInt8}
    (programs : Programs geometry ops start count data) (image : Nat → UInt8) :
    applyAll geometry image ops = program image start count data := by
  induction programs generalizing image with
  | nil => rw [applyAll_nil, program_zero]
  | page some inPage _ ih =>
    rw [applyAll_cons, ih, apply_programPage _ inPage some, program_append]

theorem Programs.cut {ops : List Op} {start count : Nat} {data : Nat → UInt8}
    (programs : Programs geometry ops start count data) (cut : Cut geometry ops image after) :
    ∃ done ≤ count, after = program image start done data := by
  induction programs generalizing image after with
  | nil => exact ⟨0, le_refl 0, by rw [cut_nil cut, program_zero]⟩
  | @page ops start first count data some inPage _ ih =>
    obtain ⟨done, reached⟩ := cut
    cases done with
    | zero => exact ⟨0, Nat.zero_le _, by rw [reached, program_zero]; rfl⟩
    | succ done =>
      obtain ⟨more, _, final⟩ := ih ⟨done, rfl⟩
      refine ⟨first + more, by omega, ?_⟩
      rw [reached, take_succ_cons, applyAll_cons, final,
        apply_programPage _ inPage some, program_append]

/-! ### Streams on a device whose addresses wrap -/

/-- Program `count` bytes one after the other from `start` on, at addresses below `size`. -/
def stream (size : Nat) (image : Nat → UInt8) (start : Nat) : Nat → (Nat → UInt8) → Nat → UInt8
  | 0, _ => image
  | count + 1, data => fun a =>
    if a = (start + count) % size then stream size image start count data a &&& data count
    else stream size image start count data a

theorem stream_append (size : Nat) (data : Nat → UInt8) (start first second : Nat) :
    stream size (stream size image start first data) (start + first) second
        (fun index => data (first + index)) =
      stream size image start (first + second) data := by
  induction second with
  | zero => rfl
  | succ second ih =>
    funext a
    change (if a = (start + first + second) % size then _ &&& data (first + second) else _) =
      if a = (start + (first + second)) % size then _ &&& data (first + second) else _
    rw [ih, add_assoc]
    rfl

theorem stream_eq_program {size start count : Nat} (data : Nat → UInt8)
    (room : start % size + count ≤ size) :
    stream size image start count data = program image (start % size) count data := by
  induction count with
  | zero => exact (program_zero _ _).symm
  | succ count ih =>
    have place : (start + count) % size = start % size + count := by
      rw [← Nat.mod_add_mod, Nat.mod_eq_of_lt (by omega)]
    funext a
    rw [stream, ih (by omega), place]
    dsimp only [program]
    by_cases last : a = start % size + count
    · have index : a - start % size = count := by omega
      rw [if_pos last, if_neg (by omega), if_pos (by omega), index]
    · rw [if_neg last]
      split
      · rw [if_pos (by omega)]
      · rw [if_neg (by omega)]

/-- `Streams geometry size ops start count data`: the primitives program `count` bytes of
`data` from `start` on, each inside a page and at an address below `size`. -/
inductive Streams (geometry : Geometry) (size : Nat) :
    List Op → Nat → Nat → (Nat → UInt8) → Prop where
  | nil (start : Nat) (data : Nat → UInt8) : Streams geometry size [] start 0 data
  | page {ops : List Op} {start first count : Nat} {data : Nat → UInt8}
      (some : 0 < first) (inPage : start % geometry.pageSize + first ≤ geometry.pageSize)
      (rest : Streams geometry size ops (start + first) count (fun index => data (first + index))) :
      Streams geometry size (.programPage (start % size) first data :: ops) start (first + count)
        data

section

variable {size start count : Nat} {data : Nat → UInt8} {ops : List Op}

theorem Streams.append {front back : List Op} {first : Nat}
    (streams : Streams geometry size front start first data)
    (more : Streams geometry size back (start + first) count (fun index => data (first + index))) :
    Streams geometry size (front ++ back) start (first + count) data := by
  induction streams with
  | nil => simpa using more
  | @page _ start page _ data some inPage _ ih =>
    rw [cons_append, add_assoc]
    refine .page some inPage (ih ?_)
    simpa only [add_assoc] using more

section

variable (divides : geometry.pageSize ∣ size)
include divides

theorem Streams.shift (streams : Streams geometry size ops start count data) {other : Nat}
    (same : other % size = start % size) : Streams geometry size ops other count data := by
  induction streams generalizing other with
  | nil => exact .nil _ _
  | @page ops start _ count data some inPage _ ih =>
    have page : other % geometry.pageSize = start % geometry.pageSize := by
      rw [← Nat.mod_mod_of_dvd other divides, same, Nat.mod_mod_of_dvd start divides]
    rw [← same]
    refine .page some (page ▸ inPage) (ih ?_)
    rw [← Nat.mod_add_mod, same, Nat.mod_add_mod]

theorem page_room (positive : 0 < size) {first : Nat}
    (inPage : start % geometry.pageSize + first ≤ geometry.pageSize) :
    start % size + first ≤ size := by
  obtain ⟨pages, rfl⟩ := divides
  have below := Nat.mod_lt start positive
  have page := Nat.mod_mod_of_dvd start (dvd_mul_right geometry.pageSize pages)
  have split := Nat.div_add_mod (start % (geometry.pageSize * pages)) geometry.pageSize
  have number := Nat.div_lt_of_lt_mul below
  have ends : geometry.pageSize * (start % (geometry.pageSize * pages) / geometry.pageSize + 1) ≤
      geometry.pageSize * pages := Nat.mul_le_mul_left _ number
  rw [mul_add, mul_one] at ends
  omega

theorem Streams.applyAll_eq (positive : 0 < size)
    (streams : Streams geometry size ops start count data) (image : Nat → UInt8) :
    applyAll geometry image ops = stream size image start count data := by
  induction streams generalizing image with
  | nil => rfl
  | @page ops start _ count data some inPage _ ih =>
    have page := Nat.mod_mod_of_dvd start divides
    rw [applyAll_cons, ih, apply_programPage _ (page.symm ▸ inPage) some,
      ← stream_eq_program _ (page_room divides positive inPage), stream_append]

theorem Streams.inPage (streams : Streams geometry size ops start count data) :
    ∀ op ∈ ops, ∃ address bytes source, op = .programPage address bytes source ∧
      address % geometry.pageSize + bytes ≤ geometry.pageSize := by
  induction streams with
  | nil => exact nofun
  | @page ops start _ count data _ inPage _ ih =>
    intro op member
    rcases mem_cons.mp member with rfl | later
    · exact ⟨_, _, _, rfl, (Nat.mod_mod_of_dvd start divides).symm ▸ inPage⟩
    · exact ih op later

end

theorem Streams.programs (streams : Streams geometry size ops start count data)
    (room : start + count ≤ size) : Programs geometry ops start count data := by
  induction streams with
  | nil => exact .nil _ _
  | @page ops start _ count data some inPage _ ih =>
    rw [Nat.mod_eq_of_lt (by omega)]
    exact .page some inPage (ih (by omega))

end

end Hfirmware.NorFlash
