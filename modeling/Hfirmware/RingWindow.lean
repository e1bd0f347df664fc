/-
A ring of slots that holds a window of a growing sequence: element number `k` lives in
slot `k % size`.
-/

import Mathlib

namespace Hfirmware.RingWindow

open Nat Function

variable {Cell : Type} {size low high : Nat} {cell : Nat → Cell}
  {inside later : Nat → Cell → Prop} {outside : Cell → Prop} {value : Cell}

/-- Element `k` of the window is as `inside k` says, and the slots that the next
elements will take are free. -/
structure Window (size : Nat) (cell : Nat → Cell) (low high : Nat)
    (inside : Nat → Cell → Prop) (outside : Cell → Prop) : Prop where
  order : low ≤ high
  fits : high ≤ low + size
  held : ∀ k, low ≤ k → k < high → inside k (cell (k % size))
  free : ∀ k, high ≤ k → k < low + size → outside (cell (k % size))

theorem slot_ne {j k : Nat} (before : j < k) (near : k < j + size) : k % size ≠ j % size := by
  intro same
  have divides : size ∣ k - j := (modEq_iff_dvd' before.le).mp same.symm
  have atLeast := le_of_dvd (by omega) divides
  omega

section

variable (window : Window size cell low high inside outside)
include window

theorem Window.push (room : high < low + size) (holds : inside high value) :
    Window size (update cell (high % size) value) low (high + 1) inside outside := by
  have order := window.order
  refine ⟨by omega, room, fun k above below => ?_, fun k above below => ?_⟩
  · rcases Nat.lt_succ_iff_lt_or_eq.mp below with earlier | rfl
    · rw [update_of_ne (slot_ne earlier (by omega)).symm]
      exact window.held k above earlier
    · rwa [update_self]
  · rw [update_of_ne (slot_ne above (by omega))]
    exact window.free k (by omega) below

theorem Window.extend (room : high < low + size) (holds : inside high (cell (high % size))) :
    Window size cell low (high + 1) inside outside := by
  have order := window.order
  refine ⟨by omega, room, fun k above below => ?_, fun k above below => ?_⟩
  · rcases Nat.lt_succ_iff_lt_or_eq.mp below with earlier | rfl
    · exact window.held k above earlier
    · exact holds
  · exact window.free k (by omega) below

theorem Window.write_next (room : high < low + size) (free : outside value) :
    Window size (update cell (high % size) value) low high inside outside := by
  have order := window.order
  refine ⟨order, window.fits, fun k above below => ?_, fun k above below => ?_⟩
  · rw [update_of_ne (slot_ne below (by omega)).symm]
    exact window.held k above below
  · rcases eq_or_lt_of_le above with rfl | after
    · rwa [update_self]
    · rw [update_of_ne (slot_ne after (by omega))]
      exact window.free k above below

theorem Window.write_first (nonempty : low < high) (holds : later low value)
    (others : ∀ k content, low < k → inside k content → later k content) :
    Window size (update cell (low % size) value) low high later outside := by
  have fits := window.fits
  refine ⟨window.order, fits, fun k above below => ?_, fun k above below => ?_⟩
  · rcases eq_or_lt_of_le above with rfl | after
    · rwa [update_self]
    · rw [update_of_ne (slot_ne after (by omega))]
      exact others k _ after (window.held k above below)
  · rw [update_of_ne (slot_ne (by omega) below)]
    exact window.free k above below

end

theorem Window.write_last (window : Window size cell low (high + 1) inside outside)
    (nonempty : low ≤ high) (holds : later high value)
    (others : ∀ k content, k < high → inside k content → later k content) :
    Window size (update cell (high % size) value) low (high + 1) later outside := by
  have fits := window.fits
  refine ⟨window.order, fits, fun k above below => ?_, fun k above below => ?_⟩
  · rcases Nat.lt_succ_iff_lt_or_eq.mp below with earlier | rfl
    · rw [update_of_ne (slot_ne earlier (by omega)).symm]
      exact others k _ earlier (window.held k above below)
    · rwa [update_self]
  · rw [update_of_ne (slot_ne above (by omega))]
    exact window.free k above below

section

variable (window : Window size cell low high inside outside)
include window

theorem Window.pop (nonempty : low < high) (free : outside value)
    (others : ∀ k content, low < k → inside k content → later k content) :
    Window size (update cell (low % size) value) (low + 1) high later outside := by
  have fits := window.fits
  refine ⟨nonempty, by omega, fun k above below => ?_, fun k above below => ?_⟩
  · rw [update_of_ne (slot_ne above (by omega))]
    exact others k _ above (window.held k (by omega) below)
  · rcases Nat.lt_succ_iff_lt_or_eq.mp (show k < low + size + 1 by omega) with near | rfl
    · rw [update_of_ne (slot_ne (by omega) near)]
      exact window.free k above near
    · rwa [add_mod_right, update_self]

theorem Window.drop (nonempty : low < high) (free : outside (cell (low % size))) :
    Window size cell (low + 1) high inside outside := by
  have fits := window.fits
  refine ⟨nonempty, by omega, fun k above below => window.held k (by omega) below,
    fun k above below => ?_⟩
  rcases Nat.lt_succ_iff_lt_or_eq.mp (show k < low + size + 1 by omega) with near | rfl
  · exact window.free k above near
  · rwa [add_mod_right]

end

section

variable {start middle position count : Nat}

def ahead (size start position : Nat) : Nat :=
  if start ≤ position then position - start else size + position - start

@[simp] theorem ahead_self (size start : Nat) : ahead size start start = 0 := by
  rw [ahead, if_pos (.refl), Nat.sub_self]

theorem ahead_lt (startBelow : start < size) (below : position < size) :
    ahead size start position < size := by
  unfold ahead
  split <;> omega

theorem ahead_split (startBelow : start < size) (middleBelow : middle < size)
    (below : position < size) (before : ahead size start middle ≤ ahead size start position) :
    ahead size start position = ahead size start middle + ahead size middle position := by
  unfold ahead at before ⊢
  grind

theorem ahead_add (startBelow : start < size)
    (inRing : position + count ≤ size) (room : ahead size start position + count < size) :
    ahead size start (if position + count ≥ size then (position + count) % size
      else position + count) = ahead size start position + count := by
  by_cases wraps : position + count ≥ size
  · have whole := le_antisymm inRing wraps
    rw [if_pos wraps, whole, mod_self]
    unfold ahead at room ⊢
    grind
  · rw [if_neg wraps]
    unfold ahead at room ⊢
    grind

theorem ahead_mod {low high : Nat} (order : low ≤ high) (near : high < low + size) :
    ahead size (low % size) (high % size) = high - low := by
  obtain ⟨gap, rfl⟩ := Nat.exists_eq_add_of_le order
  have some : 0 < size := by omega
  have below := mod_lt low some
  rw [add_mod, mod_eq_of_lt (show gap < size by omega)]
  unfold ahead
  by_cases wraps : low % size + gap < size
  · rw [mod_eq_of_lt wraps, if_pos (by omega)]
    omega
  · have once : (low % size + gap) % size = low % size + gap - size := by
      rw [mod_eq_sub_mod (by omega), mod_eq_of_lt (by omega)]
    rw [once, if_neg (by omega)]
    omega

end

end Hfirmware.RingWindow
