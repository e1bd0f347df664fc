/-
Extents: ranges of consecutive units.
-/

import Mathlib

namespace Hfirmware.Extents

open List Nat

structure Extent where
  (start count : Nat)

def Extent.Has (extent : Extent) (unit : Nat) : Prop :=
  extent.start ≤ unit ∧ unit < extent.start + extent.count

instance (extent : Extent) (unit : Nat) : Decidable (extent.Has unit) :=
  inferInstanceAs (Decidable (_ ∧ _))

def Apart (first second : Extent) : Prop :=
  first.start + first.count ≤ second.start ∨ second.start + second.count ≤ first.start

theorem Apart.symm {first second : Extent} (apart : Apart first second) : Apart second first :=
  Or.symm apart

theorem Apart.not_both {first second : Extent} (apart : Apart first second) {unit : Nat}
    (inFirst : first.Has unit) : ¬second.Has unit := by
  unfold Extent.Has at *
  unfold Apart at apart
  omega

def Occupied (extents : List Extent) (unit : Nat) : Prop := ∃ extent ∈ extents, extent.Has unit

instance (extents : List Extent) (unit : Nat) : Decidable (Occupied extents unit) :=
  inferInstanceAs (Decidable (∃ extent ∈ extents, extent.Has unit))

def total : List Extent → Nat
  | [] => 0
  | extent :: rest => extent.count + total rest

variable {limit : Nat}

theorem count_congr {p q : Nat → Prop} [DecidablePred p] [DecidablePred q]
    (same : ∀ unit < limit, (p unit ↔ q unit)) : Nat.count p limit = Nat.count q limit :=
  le_antisymm (count_mono_left fun unit below => (same unit below).mp)
    (count_mono_left fun unit below => (same unit below).mpr)

theorem count_or {p q : Nat → Prop} [DecidablePred p] [DecidablePred q]
    [DecidablePred fun unit => p unit ∨ q unit]
    (apart : ∀ unit < limit, p unit → ¬q unit) :
    Nat.count (fun unit => p unit ∨ q unit) limit = Nat.count p limit + Nat.count q limit := by
  simp only [count_eq_card_filter_range]
  rw [← Finset.card_union_of_disjoint]
  · congr 1
    ext unit
    simp only [Finset.mem_union, Finset.mem_filter, and_or_left]
  · exact Finset.disjoint_filter.mpr fun unit member => apart unit (Finset.mem_range.mp member)

theorem count_add_not (p : Nat → Prop) [DecidablePred p] (limit : Nat) :
    Nat.count p limit + Nat.count (fun unit => ¬p unit) limit = limit := by
  rw [count_eq_card_filter_range, count_eq_card_filter_range,
    Finset.card_filter_add_card_filter_not, Finset.card_range]

theorem count_has (extent : Extent) (limit : Nat) :
    Nat.count extent.Has limit = min extent.count (limit - extent.start) := by
  induction limit with
  | zero => simp
  | succ limit ih =>
    rw [count_succ, ih]
    split
    · next inside =>
      unfold Extent.Has at inside
      omega
    · next inside =>
      unfold Extent.Has at inside
      omega

theorem count_occupied {extents : List Extent} (apart : extents.Pairwise Apart)
    (inside : ∀ extent ∈ extents, extent.start + extent.count ≤ limit) :
    Nat.count (Occupied extents) limit = total extents := by
  induction extents with
  | nil =>
    apply count_iff_forall_not.mpr
    rintro unit _ ⟨extent, member, _⟩
    cases member
  | cons extent rest ih =>
    obtain ⟨headApart, restApart⟩ := pairwise_cons.mp apart
    have bound := inside extent (.head _)
    have split : Nat.count (Occupied (extent :: rest)) limit =
        Nat.count (fun unit => extent.Has unit ∨ Occupied rest unit) limit :=
      count_congr fun _ _ => exists_mem_cons_iff _ _ _
    rw [split, count_or, count_has, ih restApart fun other member =>
      inside other (.tail _ member), total]
    · omega
    · rintro unit _ inHead ⟨other, member, inOther⟩
      exact (headApart other member).not_both inHead inOther

end Hfirmware.Extents
