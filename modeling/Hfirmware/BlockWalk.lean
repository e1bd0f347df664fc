/-
Serving a range of addresses from an unordered list of aligned blocks in one walk: each
block in turn serves what it covers at the current offset, which then advances.
-/

import Mathlib

namespace Hfirmware.BlockWalk

open List Nat

variable {size : Nat}

def Covers (size start a : Nat) : Prop := start ≤ a ∧ a < start + size

instance (size start a : Nat) : Decidable (Covers size start a) :=
  inferInstanceAs (Decidable (_ ∧ _))

def hitLen (size start offset len : Nat) : Nat :=
  if Covers size start offset then min len (start + size - offset) else 0

def walked (size : Nat) : List Nat → Nat → Nat → Nat
  | [], _, _ => 0
  | start :: rest, offset, len =>
    hitLen size start offset len +
      walked size rest (offset + hitLen size start offset len) (len - hitLen size start offset len)

/-- No block of the list precedes its lower neighbour if the range runs across
the boundary between the two. -/
def InOrder (size : Nat) (starts : List Nat) (offset len : Nat) : Prop :=
  starts.Pairwise fun earlier later =>
    ¬(later + size = earlier ∧ offset < earlier ∧ earlier < offset + len)

instance (size : Nat) (starts : List Nat) (offset len : Nat) :
    Decidable (InOrder size starts offset len) :=
  inferInstanceAs (Decidable (List.Pairwise _ _))

variable {start : Nat}

theorem Covers.start_eq {a : Nat} (aligned : start % size = 0)
    (covers : Covers size start a) : start = a / size * size := by
  obtain ⟨above, below⟩ := covers
  have whole : start = start / size * size := by
    have split := div_add_mod start size
    rw [mul_comm] at split
    omega
  have quotient : a / size = start / size := by
    apply Nat.div_eq_of_lt_le
    · omega
    · rw [succ_mul]
      omega
  rwa [quotient]

theorem Covers.unique {first second a : Nat} (firstAligned : first % size = 0)
    (secondAligned : second % size = 0) (inFirst : Covers size first a)
    (inSecond : Covers size second a) : first = second :=
  (inFirst.start_eq firstAligned).trans (inSecond.start_eq secondAligned).symm

theorem Covers.next {lower upper a : Nat} (lowerAligned : lower % size = 0)
    (upperAligned : upper % size = 0) (inLower : Covers size lower a)
    (inUpper : Covers size upper (a + 1)) (different : upper ≠ lower) :
    lower + size = upper ∧ upper = a + 1 := by
  have atEnd : a + 1 = lower + size := by
    by_contra inside
    apply different
    apply inUpper.unique upperAligned lowerAligned
    unfold Covers at *
    omega
  have inNext : Covers size (lower + size) (a + 1) := by
    unfold Covers at *
    omega
  have same := inUpper.unique upperAligned (by rw [add_mod_right]; exact lowerAligned) inNext
  omega

theorem hitLen_of_covers {offset len : Nat} (covers : Covers size start offset) :
    hitLen size start offset len = min len (start + size - offset) := if_pos covers

theorem hitLen_of_not_covers {offset len : Nat} (missed : ¬Covers size start offset) :
    hitLen size start offset len = 0 := if_neg missed

theorem hitLen_le (start offset len : Nat) : hitLen size start offset len ≤ len := by
  unfold hitLen
  split
  · exact min_le_left _ _
  · exact Nat.zero_le _

theorem hitLen_covers {offset len a : Nat} (above : offset ≤ a)
    (below : a < offset + hitLen size start offset len) : Covers size start a := by
  unfold hitLen at below
  split at below
  · rename_i here
    unfold Covers at *
    omega
  · omega

theorem hitLen_leaves {offset len : Nat} (more : hitLen size start offset len < len) :
    ¬Covers size start (offset + hitLen size start offset len) := by
  unfold hitLen at *
  split at more
  · rename_i here
    rw [if_pos here]
    unfold Covers at *
    omega
  · rename_i missed
    rwa [if_neg missed]

theorem walked_le (starts : List Nat) (offset len : Nat) : walked size starts offset len ≤ len := by
  induction starts generalizing offset len with
  | nil => exact Nat.zero_le _
  | cons start _ ih =>
    have served := @hitLen_le size start offset len
    have later := ih (offset + hitLen size start offset len) (len - hitLen size start offset len)
    rw [walked]
    omega

variable {starts : List Nat}

theorem walked_covered {offset len a : Nat} (above : offset ≤ a)
    (below : a < offset + walked size starts offset len) :
    ∃ start ∈ starts, Covers size start a := by
  induction starts generalizing offset len with
  | nil => exact absurd below (by rw [walked]; omega)
  | cons start _ ih =>
    rw [walked] at below
    by_cases here : a < offset + hitLen size start offset len
    · exact ⟨start, .head _, hitLen_covers above here⟩
    · rw [← add_assoc] at below
      obtain ⟨other, member, covers⟩ := ih (Nat.le_of_not_lt here) below
      exact ⟨other, .tail _ member, covers⟩

theorem InOrder.mono {offset len offset' len' : Nat}
    (order : InOrder size starts offset len) (above : offset ≤ offset')
    (below : offset' + len' ≤ offset + len) : InOrder size starts offset' len' :=
  order.imp fun apart ⟨adjacent, low, high⟩ => apart ⟨adjacent, by omega, by omega⟩

theorem walked_stops {offset len : Nat}
    (aligned : ∀ start ∈ starts, start % size = 0) (order : InOrder size starts offset len)
    (more : walked size starts offset len < len) :
    ∀ start ∈ starts, ¬Covers size start (offset + walked size starts offset len) := by
  induction starts generalizing offset len with
  | nil => intro start member; cases member
  | cons head rest ih =>
    obtain ⟨headOrder, restOrder⟩ := pairwise_cons.mp order
    have restAligned := fun start member => aligned start (.tail _ member)
    have served := @hitLen_le size head offset len
    rw [walked] at more ⊢
    rw [← add_assoc]
    have left : ¬Covers size head (offset + hitLen size head offset len) :=
      hitLen_leaves (by omega)
    revert served more left
    generalize hitLen size head offset len = hit
    intro served more left
    have restInOrder : InOrder size rest (offset + hit) (len - hit) :=
      InOrder.mono restOrder (by omega) (by omega)
    have restStops := ih restAligned restInOrder (by omega)
    intro start member
    rcases mem_cons.mp member with rfl | later
    · intro covers
      rcases Nat.eq_zero_or_pos (walked size rest (offset + hit) (len - hit)) with none | some
      · rw [none] at covers
        exact left covers
      · -- The walk came back to the head from a block behind it in the list.
        obtain ⟨last, position⟩ := Nat.exists_eq_add_of_lt some
        rw [zero_add] at position
        obtain ⟨lower, lowerMember, inLower⟩ :=
          @walked_covered size rest (offset + hit) (len - hit) (offset + hit + last)
            (by omega) (by omega)
        have different : start ≠ lower := fun same =>
          restStops lower lowerMember (same ▸ covers)
        rw [position, ← add_assoc] at covers
        obtain ⟨adjacent, _⟩ := inLower.next (restAligned lower lowerMember)
          (aligned start (.head _)) covers different
        exact headOrder lower lowerMember ⟨adjacent, by omega, by omega⟩
    · exact restStops start later

theorem InOrder.append {offset len : Nat}
    (order : InOrder size starts offset len) (passed : start + size ≤ offset) :
    InOrder size (starts ++ [start]) offset len := by
  apply pairwise_append.mpr
  refine ⟨order, pairwise_singleton _ _, ?_⟩
  intro _ _ _ member
  obtain rfl := mem_singleton.mp member
  omega

end Hfirmware.BlockWalk
