/-
Zero-terminated strings in a byte image. A string is stored without its terminator.
-/

import Hfirmware.ByteImage

namespace Hfirmware.CString

open ByteImage

def store (memory : Nat → UInt8) (address : Nat) (bytes : List UInt8) : Nat → UInt8 :=
  patch memory address bytes.length fun index => bytes.getD index 0

/-- The string at an address, in a memory that ends `extent` bytes behind it. -/
def read (memory : Nat → UInt8) : Nat → Nat → List UInt8
  | _, 0 => []
  | address, extent + 1 =>
    if memory address = 0 then []
    else memory address :: read memory (address + 1) extent

/-- The text in a field of `size` bytes that has room for its terminator. -/
structure Text (size : Nat) where
  bytes : List UInt8
  fits : bytes.length < size
  nonzero : 0 ∉ bytes
deriving DecidableEq

section

variable {memory : Nat → UInt8} {address : Nat} {first second bytes : List UInt8}

theorem store_append : store (store memory address first) (address + first.length) second =
    store memory address (first ++ second) := patch_list memory address first second

theorem store_append_start :
    store (store memory 0 first) first.length second = store memory 0 (first ++ second) := by
  rw [← store_append, zero_add]

theorem store_outside {other : Nat} (outside : other < address ∨ address + bytes.length ≤ other) :
    store memory address bytes other = memory other := patch_outside _ _ (by omega)

theorem store_inside {index : Nat} (below : index < bytes.length) :
    store memory address bytes (address + index) = bytes.get ⟨index, below⟩ := by
  unfold store
  rw [patch_inside _ _ (by omega) (by omega), Nat.add_sub_cancel_left,
    List.getD_eq_getElem _ _ below]
  rfl

theorem store_cover (shorter : first.length ≤ second.length) :
    store (store memory address first) address second = store memory address second := by
  funext other
  unfold store patch
  by_cases inSecond : address ≤ other ∧ other < address + second.length
  · rw [if_pos inSecond, if_pos inSecond]
  · rw [if_neg inSecond, if_neg inSecond, if_neg (by omega)]

theorem read_of_stored {extent : Nat} (nonzero : 0 ∉ bytes)
    (stored : ∀ index (below : index < bytes.length),
      memory (address + index) = bytes.get ⟨index, below⟩)
    (terminated : memory (address + bytes.length) = 0) (room : bytes.length < extent) :
    read memory address extent = bytes := by
  induction bytes generalizing address extent with
  | nil =>
    cases extent with
    | zero => rfl
    | succ => exact if_pos terminated
  | cons byte rest ih =>
    cases extent with
    | zero => exact absurd room (Nat.not_lt_zero _)
    | succ extent =>
      have here : memory address = byte := stored 0 (Nat.zero_lt_succ _)
      have later : read memory (address + 1) extent = rest := by
        apply ih (fun member => nonzero (.tail _ member))
        · intro index below
          rw [add_assoc, add_comm 1]
          exact stored (index + 1) (Nat.succ_lt_succ below)
        · rwa [add_assoc, add_comm 1]
        · exact Nat.lt_of_succ_lt_succ room
      rw [read, here, later, if_neg]
      intro zero
      exact nonzero (zero ▸ (.head _))

theorem read_store {extent : Nat} (nonzero : 0 ∉ bytes)
    (terminated : memory (address + bytes.length) = 0) (room : bytes.length < extent) :
    read (store memory address bytes) address extent = bytes := by
  apply read_of_stored nonzero
  · exact fun index below => store_inside below
  · rwa [store_outside (.inr (.refl))]
  · exact room

end

end Hfirmware.CString
