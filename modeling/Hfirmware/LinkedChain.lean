/-
Singly linked lists in a store of next pointers.
-/

import Mathlib

namespace Hfirmware.LinkedChain

open List Function

variable {Address : Type}

/-- From `head` the pointers lead through `nodes` to `tail`. -/
def Segment (next : Address → Option Address) :
    Option Address → List Address → Option Address → Prop
  | head, [], tail => head = tail
  | head, node :: rest, tail => head = some node ∧ Segment next (next node) rest tail

variable {next later : Address → Option Address} {head tail : Option Address}
  {nodes front back : List Address}

theorem Segment.congr (segment : Segment next head nodes tail)
    (same : ∀ node ∈ nodes, later node = next node) : Segment later head nodes tail := by
  induction nodes generalizing head with
  | nil => exact segment
  | cons node _ ih =>
    refine ⟨segment.1, ?_⟩
    rw [same node (.head _)]
    exact ih segment.2 fun other member => same other (mem_cons_of_mem node member)

theorem segment_append : Segment next head (front ++ back) tail ↔
    ∃ middle, Segment next head front middle ∧ Segment next middle back tail := by
  induction front generalizing head with
  | nil => exact ⟨fun segment => ⟨head, rfl, segment⟩, fun ⟨_, same, segment⟩ => same ▸ segment⟩
  | cons _ _ ih =>
    constructor
    · rintro ⟨here, segment⟩
      obtain ⟨middle, first, second⟩ := ih.mp segment
      exact ⟨middle, ⟨here, first⟩, second⟩
    · rintro ⟨middle, ⟨here, first⟩, second⟩
      exact ⟨here, ih.mpr ⟨middle, first, second⟩⟩

theorem Segment.head_eq (segment : Segment next head nodes none) : head = nodes.head? := by
  cases nodes with
  | nil => exact segment
  | cons => exact segment.1

theorem Segment.next_eq {node : Address}
    (segment : Segment next head (front ++ node :: back) none) : next node = back.head? := by
  obtain ⟨_, -, second⟩ := segment_append.mp segment
  exact second.2.head_eq

def walk (next : Address → Option Address) : Nat → Option Address → List Address
  | 0, _ => []
  | _, none => []
  | bound + 1, some node => node :: walk next bound (next node)

theorem Segment.walk_eq {bound : Nat} (segment : Segment next head nodes none)
    (enough : nodes.length ≤ bound) : walk next bound head = nodes := by
  induction nodes generalizing bound head with
  | nil =>
    obtain rfl : head = none := segment
    cases bound <;> rfl
  | cons _ _ ih =>
    obtain ⟨rfl, segment⟩ := segment
    cases bound with
    | zero => cases enough
    | succ => rw [walk, ih segment (Nat.le_of_succ_le_succ enough)]

section

variable [DecidableEq Address]

theorem Segment.link_last {last node : Address} (segment : Segment next head (front ++ [last]) none)
    (nodup : (front ++ [last]).Nodup) (fresh : node ∉ front ++ [last]) :
    Segment (update (update next node none) last (some node)) head
      (front ++ [last] ++ [node]) none := by
  obtain ⟨middle, first, here, -⟩ := segment_append.mp segment
  have inFront : last ∉ front := by
    intro member
    exact disjoint_of_nodup_append nodup member (.head _)
  have apart : node ≠ last := fun same =>
    fresh (same ▸ mem_append_right front (.head _))
  rw [append_assoc]
  refine segment_append.mpr ⟨middle, first.congr fun other member => ?_, here, ?_, ?_⟩
  · have notLast : other ≠ last := fun same => inFront (same ▸ member)
    have notNode : other ≠ node := fun same => fresh (mem_append_left _ (same ▸ member))
    rw [update_of_ne notLast, update_of_ne notNode]
  · rw [update_self]
  · change update (update next node none) last (some node) node = none
    rw [update_of_ne apart, update_self]

theorem Segment.unlink {last node : Address}
    (segment : Segment next head (front ++ [last] ++ node :: back) none)
    (nodup : (front ++ [last] ++ node :: back).Nodup) :
    Segment (update next last (next node)) head (front ++ [last] ++ back) none := by
  obtain ⟨_, first, -, second⟩ := segment_append.mp segment
  obtain ⟨middle, before, here, -⟩ := segment_append.mp first
  have parts := nodup_append.mp nodup
  have inFront : ∀ other ∈ front, other ≠ last := by
    intro other member
    exact (nodup_append.mp parts.1).2.2 other member last (.head _)
  have inBack : ∀ other ∈ back, other ≠ last := by
    intro other member same
    exact parts.2.2 last (mem_append_right front (.head _)) other
      (mem_cons_of_mem node member) same.symm
  rw [append_assoc]
  refine segment_append.mpr ⟨middle, before.congr fun other member => ?_, here, ?_⟩
  · exact update_of_ne (inFront other member) _ _
  · rw [update_self]
    exact second.congr fun other member => update_of_ne (inBack other member) _ _

end

end Hfirmware.LinkedChain
