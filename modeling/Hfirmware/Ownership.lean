/-
Blocks of memory that pass between parties.
-/

import Mathlib

namespace Hfirmware.Ownership

open List Function

variable {Party : Type}

structure Ledger (Party : Type) where
  issued : Nat
  owner : Nat → Option Party
  frees : Nat → Nat
  strays : List (Party × Nat)

namespace Ledger

def empty : Ledger Party :=
  { issued := 0
    owner := fun _ => none
    frees := fun _ => 0
    strays := [] }

def issue (ledger : Ledger Party) (party : Party) : Ledger Party :=
  { ledger with
    issued := ledger.issued + 1
    owner := update ledger.owner ledger.issued (some party) }

def hand (ledger : Ledger Party) (block : Nat) (receiver : Party) : Ledger Party :=
  { ledger with owner := update ledger.owner block (some receiver) }

section

variable {ledger : Ledger Party} {party : Party} {block other : Nat}

@[simp, grind =] theorem issue_issued : (ledger.issue party).issued = ledger.issued + 1 := rfl

@[simp, grind =] theorem issue_frees : (ledger.issue party).frees other = ledger.frees other := rfl

@[grind =] theorem issue_owner : (ledger.issue party).owner other =
    if other = ledger.issued then some party else ledger.owner other :=
  update_apply ..

@[grind =] theorem hand_owner : (ledger.hand block party).owner other =
    if other = block then some party else ledger.owner other :=
  update_apply ..

@[simp, grind =] theorem hand_issued : (ledger.hand block party).issued = ledger.issued := rfl

@[simp, grind =] theorem hand_frees :
    (ledger.hand block party).frees other = ledger.frees other := rfl

end

section

variable [DecidableEq Party]

def use (ledger : Ledger Party) (party : Party) (block : Nat) : Ledger Party :=
  if ledger.owner block = some party then ledger
  else { ledger with strays := (party, block) :: ledger.strays }

def free (ledger : Ledger Party) (party : Party) (block : Nat) : Ledger Party :=
  { ledger.use party block with
    owner := update ledger.owner block none
    frees := update ledger.frees block (ledger.frees block + 1) }

variable {ledger : Ledger Party} {party : Party} {block other : Nat}

theorem use_of_owner (owned : ledger.owner block = some party) : ledger.use party block = ledger :=
  if_pos owned

theorem use_of_not_owner (stray : ledger.owner block ≠ some party) :
    ledger.use party block = { ledger with strays := (party, block) :: ledger.strays } :=
  if_neg stray

@[simp, grind =] theorem use_issued : (ledger.use party block).issued = ledger.issued := by
  unfold use
  split <;> rfl

@[simp, grind =] theorem use_owner : (ledger.use party block).owner = ledger.owner := by
  unfold use
  split <;> rfl

@[simp, grind =] theorem use_frees : (ledger.use party block).frees = ledger.frees := by
  unfold use
  split <;> rfl

theorem strays_subset_use : ledger.strays ⊆ (ledger.use party block).strays := by
  unfold use
  split
  · exact List.Subset.refl _
  · exact subset_cons_self _ _

@[simp, grind =] theorem free_issued : (ledger.free party block).issued = ledger.issued :=
  use_issued

theorem free_strays : (ledger.free party block).strays = (ledger.use party block).strays := rfl

theorem strays_free_of_not_owner (stray : ledger.owner block ≠ some party) :
    (ledger.free party block).strays ≠ [] := by
  rw [free_strays, use_of_not_owner stray]
  exact nofun

theorem strays_free (before : ledger.strays ≠ []) : (ledger.free party block).strays ≠ [] := by
  intro none
  rw [free_strays] at none
  have subset : ledger.strays ⊆ (ledger.use party block).strays := strays_subset_use
  rw [none] at subset
  exact before (subset_nil.mp subset)

@[grind =] theorem free_owner :
    (ledger.free party block).owner other = if other = block then none else ledger.owner other :=
  update_apply ..

@[grind =] theorem free_frees : (ledger.free party block).frees other =
    if other = block then ledger.frees block + 1 else ledger.frees other :=
  update_apply ..

end

end Ledger

/-- A block that is not freed and that nobody can free any more. -/
structure Leaked (ledger : Ledger Party) (held : Party → List Nat) (block : Nat) : Prop where
  issued : block < ledger.issued
  unfreed : ledger.frees block = 0
  lost : ∀ party, block ∉ held party

/-- Each party owns exactly the blocks it holds; the others were freed once. -/
structure Balanced (ledger : Ledger Party) (held : Party → List Nat) : Prop where
  owner : ∀ block party, ledger.owner block = some party ↔ block ∈ held party
  freed : ∀ block, block < ledger.issued → ledger.owner block = none → ledger.frees block = 1
  unfreed : ∀ block party, ledger.owner block = some party → ledger.frees block = 0
  fresh : ∀ block, ledger.issued ≤ block → ledger.owner block = none ∧ ledger.frees block = 0
  nodup : ∀ party, (held party).Nodup

/-- No party ever touched a block it did not own, and each block was freed
exactly once or is still held and not freed. -/
structure Clean (ledger : Ledger Party) (held : Party → List Nat) : Prop where
  strays : ledger.strays = []
  once : ∀ block, block < ledger.issued →
    ledger.frees block = 1 ∨ ledger.frees block = 0 ∧ ∃ party, block ∈ held party

variable {ledger : Ledger Party} {held : Party → List Nat} {party : Party} {block : Nat}

theorem Clean.not_leaked (clean : Clean ledger held) (block : Nat) : ¬Leaked ledger held block := by
  intro leaked
  cases clean.once block leaked.issued with
  | inl freed => exact absurd (freed.symm.trans leaked.unfreed) Nat.one_ne_zero
  | inr kept =>
    obtain ⟨_, party, member⟩ := kept
    exact leaked.lost party member

/-! ### A balanced ledger -/

theorem balanced_empty : Balanced (Ledger.empty : Ledger Party) fun _ => [] where
  owner := fun _ _ => ⟨nofun, nofun⟩
  freed := fun _ below => absurd below (Nat.not_lt_zero _)
  unfreed := fun _ _ owned => nomatch owned
  fresh := fun _ _ => ⟨rfl, rfl⟩
  nodup := fun _ => .nil

section

variable (balanced : Balanced ledger held)
include balanced

theorem Balanced.once (below : block < ledger.issued) :
    ledger.frees block = 1 ∨ ledger.frees block = 0 ∧ ∃ party, block ∈ held party := by
  cases owner : ledger.owner block with
  | none => exact .inl (balanced.freed block below owner)
  | some party =>
    right
    exact ⟨balanced.unfreed block party owner, party, (balanced.owner block party).mp owner⟩

theorem Balanced.below (member : block ∈ held party) : block < ledger.issued := by
  by_contra above
  have fresh := (balanced.fresh block (Nat.le_of_not_lt above)).1
  rw [(balanced.owner block party).mpr member] at fresh
  cases fresh

theorem Balanced.elsewhere {other : Party} (member : block ∈ held party)
    (there : block ∈ held other) : other = party := by
  have owned := (balanced.owner block party).mpr member
  rw [(balanced.owner block other).mpr there] at owned
  exact Option.some_inj.mp owned

theorem Balanced.perm {other : Party → List Nat} (same : ∀ party, (other party).Perm (held party)) :
    Balanced ledger other := by
  refine { balanced with owner := fun block party => ?_, nodup := fun party => ?_ }
  · rw [(same party).mem_iff]
    exact balanced.owner block party
  · exact (same party).nodup_iff.mpr (balanced.nodup party)

end

variable [DecidableEq Party]

section

variable (balanced : Balanced ledger held)
include balanced

theorem Balanced.use (party : Party) (block : Nat) : Balanced (ledger.use party block) held := by
  unfold Ledger.use
  split
  · exact balanced
  · exact { balanced with }

theorem Balanced.issue (party : Party) :
    Balanced (ledger.issue party) (update held party (ledger.issued :: held party)) := by
  have unheld : ∀ other, ledger.issued ∉ held other := fun other member =>
    lt_irrefl _ (balanced.below member)
  constructor
  · intro block other
    rw [Ledger.issue_owner, update_apply]
    by_cases old : block = ledger.issued
    · grind
    · grind [balanced.owner]
  · intro block _ _
    have old : block ≠ ledger.issued := by grind
    exact balanced.freed block (by grind) (by grind)
  · grind [balanced.unfreed, balanced.fresh]
  · grind [balanced.fresh]
  · intro other
    rw [update_apply]
    split
    · exact nodup_cons.mpr ⟨unheld party, balanced.nodup party⟩
    · exact balanced.nodup other

variable {rest : List Nat}

theorem Balanced.free (holds : held party = block :: rest) :
    Balanced (ledger.free party block) (update held party rest) := by
  have member : block ∈ held party := holds ▸ (.head _)
  have owned := (balanced.owner block party).mpr member
  have unfreed := balanced.unfreed block party owned
  have nodup := balanced.nodup party
  rw [holds, nodup_cons] at nodup
  constructor
  · intro other holder
    rw [Ledger.free_owner, update_apply]
    by_cases same : other = block
    · -- Neither the party itself nor another one holds the block any more.
      grind [balanced.elsewhere member]
    · grind [balanced.owner]
  · grind [balanced.freed]
  · grind [balanced.unfreed]
  · grind [balanced.fresh, balanced.below member]
  · intro holder
    rw [update_apply]
    split
    · exact nodup.2
    · exact balanced.nodup holder

theorem Balanced.hand {giver : Party} (receiver : Party)
    (different : receiver ≠ giver) (holds : held giver = block :: rest) :
    Balanced (ledger.hand block receiver)
      (update (update held giver rest) receiver (held receiver ++ [block])) := by
  have member : block ∈ held giver := holds ▸ (.head _)
  have owned := (balanced.owner block giver).mpr member
  have nodup := balanced.nodup giver
  rw [holds, nodup_cons] at nodup
  constructor
  · intro other holder
    rw [Ledger.hand_owner, update_apply, update_apply]
    by_cases same : other = block
    · grind [balanced.elsewhere member]
    · grind [balanced.owner]
  · grind [balanced.freed]
  · grind [balanced.unfreed]
  · grind [balanced.fresh, balanced.below member]
  · intro holder
    rw [update_apply, update_apply]
    split
    · have unheld : block ∉ held receiver := fun there =>
        different (balanced.elsewhere member there)
      exact nodup_append.mpr ⟨balanced.nodup receiver, nodup_singleton block, by grind⟩
    · split
      · exact nodup.2
      · exact balanced.nodup holder

theorem Balanced.release (member : block ∈ held party) :
    Balanced (ledger.free party block) (update held party ((held party).erase block)) := by
  have front : Balanced ledger (update held party (block :: (held party).erase block)) := by
    apply balanced.perm
    intro holder
    by_cases here : holder = party
    · subst here
      rw [update_self]
      exact (perm_cons_erase member).symm
    · rw [update_of_ne here]
  have freed := front.free (update_self _ _ _)
  rwa [update_idem] at freed

end

end Hfirmware.Ownership
