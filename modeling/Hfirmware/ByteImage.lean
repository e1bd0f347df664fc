/-
Byte images: a memory is a function from addresses to bytes.
-/

import Mathlib

namespace Hfirmware.ByteImage

variable {Cell : Type}

def patch (image : Nat → Cell) (start count : Nat) (source : Nat → Cell) : Nat → Cell :=
  fun address =>
    if start ≤ address ∧ address < start + count then source (address - start)
    else image address

variable {count start address : Nat}

theorem patch_inside (image source : Nat → Cell)
    (above : start ≤ address) (below : address < start + count) :
    patch image start count source address = source (address - start) :=
  if_pos ⟨above, below⟩

theorem patch_outside (image source : Nat → Cell)
    (outside : ¬(start ≤ address ∧ address < start + count)) :
    patch image start count source address = image address :=
  if_neg outside

@[simp] theorem patch_zero (image source : Nat → Cell) (start : Nat) :
    patch image start 0 source = image := by
  funext address
  apply patch_outside
  omega

theorem patch_congr (image : Nat → Cell) {left right : Nat → Cell}
    (same : ∀ index < count, left index = right index) :
    patch image start count left = patch image start count right := by
  funext address
  unfold patch
  split
  · exact same _ (by omega)
  · rfl

theorem patch_append (image source : Nat → Cell) (start first second : Nat) :
    patch (patch image start first source) (start + first) second
        (fun index => source (first + index)) =
      patch image start (first + second) source := by
  funext address
  unfold patch
  split
  · rw [if_pos (by omega)]
    exact congrArg source (by omega)
  · split
    · rw [if_pos (by omega)]
    · rw [if_neg (by omega)]

theorem patch_list (memory : Nat → UInt8) (address : Nat) (first second : List UInt8) :
    patch (patch memory address first.length fun index => first.getD index 0)
        (address + first.length) second.length (fun index => second.getD index 0) =
      patch memory address (first ++ second).length
        fun index => (first ++ second).getD index 0 := by
  have left : patch memory address first.length (fun index => first.getD index 0) =
      patch memory address first.length fun index => (first ++ second).getD index 0 :=
    patch_congr memory fun index below => (List.getD_append _ _ _ _ below).symm
  have right : (fun index => second.getD index 0) =
      fun index => (first ++ second).getD (first.length + index) 0 := by
    funext index
    rw [List.getD_append_right _ _ _ _ (Nat.le_add_right _ _), Nat.add_sub_cancel_left]
  rw [left, right, patch_append memory (fun index => (first ++ second).getD index 0),
    List.length_append]

def word (image : Nat → UInt8) (address : Nat) : Nat :=
  (image address).toNat + (image (address + 1)).toNat * 2 ^ 8 +
    (image (address + 2)).toNat * 2 ^ 16 + (image (address + 3)).toNat * 2 ^ 24

def wordBytes (value : Nat) (index : Nat) : UInt8 :=
  UInt8.ofNat (value / 2 ^ (8 * index))

theorem word_congr {left right : Nat → UInt8} {a b : Nat}
    (same : ∀ index < 4, left (a + index) = right (b + index)) :
    word left a = word right b := by
  have s0 := same 0 (by omega)
  have s1 := same 1 (by omega)
  have s2 := same 2 (by omega)
  have s3 := same 3 (by omega)
  simp only [add_zero] at s0
  simp only [word, s0, s1, s2, s3]

theorem word_eq_of_wordBytes {image : Nat → UInt8} {value : Nat} (bounded : value < 2 ^ 32)
    (stored : ∀ index < 4, image (address + index) = wordBytes value index) :
    word image address = value := by
  have s0 := stored 0 (by omega)
  have s1 := stored 1 (by omega)
  have s2 := stored 2 (by omega)
  have s3 := stored 3 (by omega)
  simp only [add_zero] at s0
  simp only [word, s0, s1, s2, s3, wordBytes, UInt8.toNat_ofNat']
  omega

theorem wordBytes_word (image : Nat → UInt8) (address : Nat) {index : Nat} (below : index < 4) :
    wordBytes (word image address) index = image (address + index) := by
  have b0 := (image address).toNat_lt
  have b1 := (image (address + 1)).toNat_lt
  have b2 := (image (address + 2)).toNat_lt
  have b3 := (image (address + 3)).toNat_lt
  apply UInt8.toNat_inj.mp
  simp only [wordBytes, word, UInt8.toNat_ofNat']
  match index, below with
  | 0, _ =>
    simp only [add_zero]
    omega
  | 1, _ => omega
  | 2, _ => omega
  | 3, _ => omega

def byteSum (image : Nat → UInt8) (start : Nat) : Nat → Nat
  | 0 => 0
  | count + 1 => byteSum image start count + (image (start + count)).toNat

theorem byteSum_add (image : Nat → UInt8) (start first second : Nat) :
    byteSum image start (first + second) =
      byteSum image start first + byteSum image (start + first) second := by
  induction second with
  | zero => rfl
  | succ second ih =>
    have cell : start + (first + second) = start + first + second := by omega
    change byteSum image start (first + second) + (image (start + (first + second))).toNat = _
    rw [ih, cell]
    exact add_assoc _ _ _

theorem byteSum_congr {left right : Nat → UInt8} {a b : Nat} (count : Nat)
    (same : ∀ index < count, left (a + index) = right (b + index)) :
    byteSum left a count = byteSum right b count := by
  induction count with
  | zero => rfl
  | succ count ih =>
    simp only [byteSum, same count (by omega), ih (fun index below => same index (by omega))]

theorem byteSum_le (image : Nat → UInt8) (start count : Nat) :
    byteSum image start count ≤ 255 * count := by
  induction count with
  | zero => simp [byteSum]
  | succ count _ =>
    have bounded := (image (start + count)).toNat_lt
    simp only [byteSum]
    omega

end Hfirmware.ByteImage
