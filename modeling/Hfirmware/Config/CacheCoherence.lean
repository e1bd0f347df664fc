/-
Coherence of the write-back cache with a flat byte array, except at addresses that a
flush uses for its backup.
-/

import Hfirmware.Config.Cache

namespace Hfirmware.Config

open List Nat BlockWalk ByteImage

/-- Cache and flash together hold the array `flat` wherever `kept` asks for it. -/
structure Coherent (window : Nat) (kept : Nat → Prop) (flat flash : Nat → UInt8)
    (cache : List CacheBlock) : Prop where
  sited : Sited window (phys cache)
  cached : ∀ block ∈ cache, ∀ a, Covers 4096 block.u32PhyAddr a → kept a →
    block.u8VtCache (a - block.u32PhyAddr) = flat a
  stored : ∀ a, window ≤ a → a < window + 2 ^ 24 → kept a →
    (∀ start ∈ phys cache, ¬Covers 4096 start a) → flash (a - window) = flat a

structure Fits (window offset len : Nat) : Prop where
  low : window ≤ offset
  high : offset + len ≤ window + 2 ^ 24

variable {len offset : Nat}

theorem Fits.bounded {window : Nat} (base : IsWindow window) (fits : Fits window offset len) :
    offset + len < 2 ^ 32 := by
  have high := fits.high
  unfold IsWindow at base
  omega

theorem hsCfgHalRead_window {window : Nat} (base : IsWindow window) (flash : Nat → UInt8)
    (low : window ≤ offset) (high : offset < window + 2 ^ 28) (index : Nat) :
    hsCfgHalRead flash offset index = flash (offset + index - window) := by
  unfold IsWindow at base
  exact congrArg flash (by omega)

variable {starts : List Nat}

section

variable {window : Nat} {kept : Nat → Prop} {flat flash pbuf : Nat → UInt8}
  {cache : List CacheBlock} {cursor : Cursor}

theorem Coherent.walk (coherent : Coherent window kept flat flash cache) :
    let after := walked 4096 (phys cache) cursor.offset cursor.len
    Coherent window kept (patch flat cursor.offset after fun index => pbuf (cursor.pos + index))
      flash
      (cache.map (overlay pbuf cursor after)) := by
  refine ⟨?_, ?_, ?_⟩
  · rw [phys_overlay]
    exact coherent.sited
  · intro _ member a covers keep
    obtain ⟨before, beforeMember, rfl⟩ := mem_map.mp member
    have old := coherent.cached before beforeMember a covers keep
    simp only [overlay, Covers] at covers ⊢
    rw [add_sub_of_le covers.1]
    unfold patch
    by_cases inside : cursor.offset ≤ a ∧
        a < cursor.offset + walked 4096 (phys cache) cursor.offset cursor.len
    · rw [if_pos ⟨by omega, inside⟩, if_pos inside]
    · rwa [if_neg (fun both => inside both.2), if_neg inside]
  · intro a low high keep uncovered
    rw [phys_overlay] at uncovered
    rw [coherent.stored a low high keep uncovered, patch_outside]
    rintro ⟨above, below⟩
    obtain ⟨start, member, covers⟩ := walked_covered above below
    exact uncovered start member covers

theorem Sited.append_new {a : Nat} (sited : Sited window starts) (base : IsWindow window)
    (low : window ≤ a) (high : a < window + 2 ^ 24)
    (uncovered : ∀ start ∈ starts, ¬Covers 4096 start a) :
    Sited window (starts ++ [cacheBkAlign a]) := by
  have covers := cacheBkAlign_covers a
  refine ⟨?_, ?_, ?_⟩
  · intro start member
    rcases mem_append.mp member with old | new
    · exact sited.aligned start old
    · obtain rfl := mem_singleton.mp new
      exact cacheBkAlign_aligned a
  · intro start member
    rcases mem_append.mp member with old | new
    · exact sited.inside start old
    · obtain rfl := mem_singleton.mp new
      have aligned := cacheBkAlign_aligned a
      unfold IsWindow at base
      unfold Covers at covers
      omega
  · rw [nodup_append]
    refine ⟨sited.distinct, pairwise_singleton _ _, ?_⟩
    intro start member _ new same
    obtain rfl := mem_singleton.mp new
    exact uncovered start member (same ▸ covers)

theorem Coherent.append (coherent : Coherent window kept flat flash cache)
    (base : IsWindow window) (fits : Fits window cursor.offset cursor.len) (some : 0 < cursor.len)
    (uncovered : ∀ start ∈ phys cache, ¬Covers 4096 start cursor.offset) :
    Coherent window kept
      (patch flat cursor.offset (hitLen 4096 (cacheBkAlign cursor.offset) cursor.offset cursor.len)
        fun index => pbuf (cursor.pos + index))
      flash (cache ++ [newBlock flash pbuf cursor]) := by
  have bounded := fits.bounded base
  obtain ⟨low, high⟩ := fits
  have sited := coherent.sited.append_new base low (by omega) uncovered
  have newPhys : phys (cache ++ [newBlock flash pbuf cursor]) =
      phys cache ++ [cacheBkAlign cursor.offset] := map_append
  have covers := cacheBkAlign_covers cursor.offset
  have inside := sited.inside (cacheBkAlign cursor.offset) (by simp)
  have below := sited.below base (mem_append_right _ (.head _))
  have aligned := cacheBkAlign_aligned cursor.offset
  have inNew {a : Nat} := @hitLen_covers 4096 (cacheBkAlign cursor.offset) cursor.offset
    cursor.len a
  -- A block that is already cached shares no address with the new one.
  have apart {start a : Nat} (member : start ∈ phys cache) (inStart : Covers 4096 start a) :
      ¬Covers 4096 (cacheBkAlign cursor.offset) a := by
    intro inOther
    have same := inStart.unique (coherent.sited.aligned start member) aligned inOther
    exact uncovered start member (same ▸ covers)
  refine ⟨newPhys ▸ sited, ?_, ?_⟩
  · intro block member a inBlock keep
    rcases mem_append.mp member with old | new
    · rw [coherent.cached block old a inBlock keep, patch_outside]
      rintro ⟨above, before⟩
      exact apart (mem_map_of_mem old) inBlock (inNew above before)
    · obtain rfl := mem_singleton.mp new
      change Covers 4096 (cacheBkAlign cursor.offset) a at inBlock
      have missed : ∀ start ∈ phys cache, ¬Covers 4096 start a :=
        fun start present inStart => apart present inStart inBlock
      have old := coherent.stored a (by unfold Covers at inBlock; omega)
        (by unfold Covers at inBlock; omega) keep missed
      simp only [newBlock, Covers] at inBlock covers ⊢
      rw [u32Sub_of_le (by omega) covers.1, cacheLenInBlock_eq below bounded]
      unfold patch
      by_cases written : cursor.offset ≤ a ∧ a < cursor.offset +
          hitLen 4096 (cacheBkAlign cursor.offset) cursor.offset cursor.len
      · rw [if_pos (by omega), if_pos written]
        exact congrArg pbuf (by omega)
      · rw [if_neg (by omega), if_neg written, hsCfgHalRead_window base _ inside.1 (by omega),
          ← old]
        exact congrArg flash (by omega)
  · intro a low high keep missed
    rw [newPhys] at missed
    have old := coherent.stored a low high keep
      fun start member => missed start (mem_append_left _ member)
    rw [old, patch_outside]
    rintro ⟨above, before⟩
    exact missed _ (mem_append_right _ (.head _)) (inNew above before)

end

/-! ### The list after a write -/

def blocksOf (offset len : Nat) : List Nat :=
  if len = 0 then []
  else (List.range' (offset / 4096) ((offset + len - 1) / 4096 - offset / 4096 + 1)).map (· * 4096)

def touched (starts : List Nat) (offset len : Nat) : List Nat :=
  starts ++ (blocksOf offset len).filter fun start => start ∉ starts

theorem mem_blocksOf {start : Nat} (member : start ∈ blocksOf offset len) :
    start % 4096 = 0 ∧ ∃ a, offset ≤ a ∧ a < offset + len ∧ Covers 4096 start a := by
  unfold blocksOf at member
  split at member
  · cases member
  · obtain ⟨number, inRange, rfl⟩ := mem_map.mp member
    rw [mem_range'_1] at inRange
    refine ⟨mul_mod_left _ _, max offset (number * 4096), ?_⟩
    unfold Covers
    omega

theorem blocksOf_cons (some : 0 < len) : blocksOf offset len = cacheBkAlign offset ::
    blocksOf (offset + hitLen 4096 (cacheBkAlign offset) offset len)
      (len - hitLen 4096 (cacheBkAlign offset) offset len) := by
  rw [hitLen_of_covers (cacheBkAlign_covers offset)]
  unfold blocksOf cacheBkAlign cfgBkwBlockSize
  rw [if_neg (by omega), range'_succ, map_cons]
  congr 1
  split
  · have none : (offset + len - 1) / 4096 - offset / 4096 = 0 := by omega
    rw [none]
    rfl
  · congr 2 <;> omega

theorem blocksOf_append {first second : Nat} (boundary : (offset + first) % 4096 = 0) :
    blocksOf offset (first + second) =
      blocksOf offset first ++ blocksOf (offset + first) second := by
  unfold blocksOf
  by_cases firstEmpty : first = 0
  · subst firstEmpty
    simp only [add_zero, zero_add, if_true, nil_append]
  · by_cases secondEmpty : second = 0
    · subst secondEmpty
      simp only [add_zero, if_true, append_nil]
    · rw [if_neg (by omega), if_neg firstEmpty, if_neg secondEmpty, ← map_append]
      congr 1
      have middle : (offset + first) / 4096 =
          offset / 4096 + ((offset + first - 1) / 4096 - offset / 4096 + 1) := by omega
      rw [middle, range'_append_1]
      congr 1
      omega

theorem touched_of_covered {starts : List Nat} {offset len : Nat}
    (aligned : ∀ start ∈ starts, start % 4096 = 0)
    (covered : ∀ a, offset ≤ a → a < offset + len → ∃ start ∈ starts, Covers 4096 start a) :
    touched starts offset len = starts := by
  have none : (blocksOf offset len).filter (fun start => start ∉ starts) = [] := by
    apply filter_eq_nil_iff.mpr
    intro start member
    obtain ⟨startAligned, a, low, high, inStart⟩ := mem_blocksOf member
    obtain ⟨other, present, inOther⟩ := covered a low high
    have same := inStart.unique startAligned (aligned other present) inOther
    simp [same, present]
  rw [touched, none, append_nil]

theorem touched_round (aligned : ∀ start ∈ starts, start % 4096 = 0)
    (order : InOrder 4096 starts offset len) (more : walked 4096 starts offset len < len) :
    touched starts offset len =
      let stop := offset + walked 4096 starts offset len
      let left := len - walked 4096 starts offset len
      let hit := hitLen 4096 (cacheBkAlign stop) stop left
      touched (starts ++ [cacheBkAlign stop]) (stop + hit) (left - hit) := by
  have stops := walked_stops aligned order more
  have consumed {a : Nat} := @walked_covered 4096 starts offset len a
  revert more stops consumed
  generalize walked 4096 starts offset len = served
  intro more stops consumed
  -- The walk stops at a block boundary, unless it did not move.
  have split : blocksOf offset len = blocksOf offset served ++ blocksOf (offset + served)
      (len - served) := by
    rcases Nat.eq_zero_or_pos served with rfl | moved
    · rfl
    · obtain ⟨start, member, covers⟩ := consumed (show offset ≤ offset + served - 1 by omega)
        (by omega)
      have left := stops start member
      have startAligned := aligned start member
      unfold Covers at covers left
      have whole : len = served + (len - served) := by omega
      rw [whole, blocksOf_append (by omega), ← whole]
  have servedBlocks : (blocksOf offset served).filter (fun start => start ∉ starts) = [] := by
    have same := @touched_of_covered starts offset served aligned
      fun a low high => consumed low high
    exact append_cancel_left (same.trans (append_nil starts).symm)
  have new := fun member => stops _ member (cacheBkAlign_covers _)
  have rest (hit : Nat) (passed : cacheBkAlign (offset + served) + 4096 ≤ offset + served + hit ∨
        len - served - hit = 0) :
      (blocksOf (offset + served + hit) (len - served - hit)).filter (fun start => start ∉ starts) =
        (blocksOf (offset + served + hit) (len - served - hit)).filter
          (fun start => start ∉ starts ++ [cacheBkAlign (offset + served)]) := by
    apply filter_congr
    intro start member
    have different : start ≠ cacheBkAlign (offset + served) := by
      rcases passed with above | empty
      · obtain ⟨_, a, low, _, covers⟩ := mem_blocksOf member
        unfold Covers at covers
        omega
      · rw [empty] at member
        cases member
    simp [different]
  rw [touched, touched, split, filter_append, servedBlocks, nil_append,
    blocksOf_cons (by omega), filter_cons_of_pos (by simpa using new), rest]
  · simp
  · rw [hitLen_of_covers (cacheBkAlign_covers _)]
    omega

structure Wrote (window : Nat) (kept : Nat → Prop) (flat : Nat → UInt8) (starts : List Nat)
    (before after : Store) : Prop where
  flash : after.flash = before.flash
  heap : ∀ outcome ∈ after.heap, outcome = true
  coherent : Coherent window kept flat after.flash after.cache
  starts : phys after.cache = starts

theorem Store.malloc_of_heap {store : Store} (heap : ∀ outcome ∈ store.heap, outcome) :
    store.malloc = (true, { store with heap := store.heap.tail }) := by
  cases outcomes : store.heap with
  | nil => simp only [malloc, outcomes, headD_nil]
  | cons first =>
    have succeeds := heap first (outcomes ▸ (.head _))
    simp only [malloc, outcomes, headD_cons, succeeds]

variable {cursor : Cursor}

section

variable {window : Nat} {kept : Nat → Prop} {flat pbuf : Nat → UInt8}

def roundLen (starts : List Nat) (offset len : Nat) : Nat :=
  walked 4096 starts offset len +
    hitLen 4096 (cacheBkAlign (offset + walked 4096 starts offset len))
      (offset + walked 4096 starts offset len) (len - walked 4096 starts offset len)

theorem roundLen_bounds (more : walked 4096 starts offset len < len) :
    0 < roundLen starts offset len ∧ roundLen starts offset len ≤ len := by
  have covers := cacheBkAlign_covers (offset + walked 4096 starts offset len)
  unfold roundLen
  rw [hitLen_of_covers covers]
  unfold Covers at covers
  omega

theorem Fits.walk {offset len : Nat} (fits : Fits window offset len) {count : Nat}
    (most : count ≤ len) : Fits window (offset + count) (len - count) := by
  obtain ⟨low, high⟩ := fits
  exact ⟨by omega, by omega⟩

theorem InOrder_round (order : InOrder 4096 starts offset len)
    (more : walked 4096 starts offset len < len) (left : roundLen starts offset len < len) :
    InOrder 4096 (starts ++ [cacheBkAlign (offset + walked 4096 starts offset len)])
      (offset + roundLen starts offset len) (len - roundLen starts offset len) := by
  have covers := cacheBkAlign_covers (offset + walked 4096 starts offset len)
  apply BlockWalk.InOrder.append
  · exact order.mono (Nat.le_add_right _ _) (by omega)
  · unfold roundLen at left ⊢
    rw [hitLen_of_covers covers] at left ⊢
    omega

theorem Coherent.round {flash : Nat → UInt8} {cache : List CacheBlock} {cursor : Cursor}
    (coherent : Coherent window kept flat flash cache) (base : IsWindow window)
    (fits : Fits window cursor.offset cursor.len)
    (order : InOrder 4096 (phys cache) cursor.offset cursor.len)
    (more : walked 4096 (phys cache) cursor.offset cursor.len < cursor.len) :
    let after := walked 4096 (phys cache) cursor.offset cursor.len
    Coherent window kept (patch flat cursor.offset (roundLen (phys cache) cursor.offset cursor.len)
        fun index => pbuf (cursor.pos + index))
      flash
      (cache.map (overlay pbuf cursor after) ++ [newBlock flash pbuf (cursor.moved after)]) := by
  have stops := walked_stops coherent.sited.aligned order more
  have walk := @Coherent.walk window kept flat flash pbuf cache cursor coherent
  have appended := @Coherent.append window kept _ flash pbuf _
    (cursor.moved (walked 4096 (phys cache) cursor.offset cursor.len)) walk base
    (fits.walk (by omega)) (Nat.sub_pos_of_lt more) (by rw [phys_overlay]; exact stops)
  simp only [Cursor.moved, add_assoc] at appended ⊢
  rwa [roundLen, ← patch_append]

theorem cacheLenInBlock_round {count : Nat} (base : IsWindow window)
    (fits : Fits window cursor.offset cursor.len) (more : count < cursor.len) :
    cacheLenInBlock (cursor.moved count).offset (cursor.moved count).len =
      hitLen 4096 (cacheBkAlign (cursor.offset + count)) (cursor.offset + count)
        (cursor.len - count) := by
  have covers := cacheBkAlign_covers (cursor.offset + count)
  obtain ⟨low, high⟩ := fits
  unfold IsWindow at base
  unfold Covers at covers
  apply cacheLenInBlock_eq
  · simp only [Cursor.moved]
    omega
  · simp only [Cursor.moved]
    omega

theorem advance_round (base : IsWindow window) (fits : Fits window cursor.offset cursor.len)
    (more : walked 4096 starts cursor.offset cursor.len < cursor.len) :
    (cursor.moved (walked 4096 starts cursor.offset cursor.len)).advance
        (cacheLenInBlock (cursor.moved (walked 4096 starts cursor.offset cursor.len)).offset
          (cursor.moved (walked 4096 starts cursor.offset cursor.len)).len) =
      cursor.moved (roundLen starts cursor.offset cursor.len) := by
  have bounded := fits.bounded base
  rw [cacheLenInBlock_round base fits more, Cursor.advance_eq, Cursor.moved_moved]
  · rfl
  · exact hitLen_le _ _ _
  · simp only [Cursor.moved]
    omega

def missing (starts : List Nat) (offset len : Nat) : List Nat :=
  (blocksOf offset len).filter fun start => start ∉ starts

def firstFailure : List Nat → List Bool → Option Nat
  | [], _ => none
  | block :: rest, heap => if heap.headD true then firstFailure rest heap.tail else some block

def reached (starts : List Nat) (heap : List Bool) (offset len : Nat) : Nat :=
  match firstFailure (missing starts offset len) heap with
  | none => len
  | some block => block - offset

/-- What a write leaves that runs out of memory after `reached` bytes. -/
structure WroteSome (window : Nat) (kept : Nat → Prop) (flat pbuf : Nat → UInt8) (offset len : Nat)
    (before after : Store) : Prop where
  flash : after.flash = before.flash
  coherent : Coherent window kept
    (patch flat offset (reached (phys before.cache) before.heap offset len) pbuf) after.flash
    after.cache
  starts : phys after.cache <+: touched (phys before.cache) offset len
  complete : firstFailure (missing (phys before.cache) offset len) before.heap = none →
    phys after.cache = touched (phys before.cache) offset len ∧
      after.heap = before.heap.drop (missing (phys before.cache) offset len).length

section

variable {starts : List Nat} {heap : List Bool} {offset len : Nat}

section

variable (aligned : ∀ start ∈ starts, start % 4096 = 0)
include aligned

theorem missing_of_covered
    (covered : ∀ a, offset ≤ a → a < offset + len → ∃ start ∈ starts, Covers 4096 start a) :
    missing starts offset len = [] :=
  append_cancel_left ((touched_of_covered aligned covered).trans (append_nil _).symm)

theorem walked_boundary (order : InOrder 4096 starts offset len)
    (more : walked 4096 starts offset len < len) (moved : 0 < walked 4096 starts offset len) :
    (offset + walked 4096 starts offset len) % 4096 = 0 := by
  have stops := walked_stops aligned order more
  obtain ⟨start, member, covers⟩ := @walked_covered 4096 starts offset len
    (offset + walked 4096 starts offset len - 1) (by omega) (by omega)
  have left := stops start member
  have startAligned := aligned start member
  unfold Covers at covers left
  omega

theorem missing_round (order : InOrder 4096 starts offset len)
    (more : walked 4096 starts offset len < len) :
    missing starts offset len = cacheBkAlign (offset + walked 4096 starts offset len) ::
      missing (starts ++ [cacheBkAlign (offset + walked 4096 starts offset len)])
        (offset + roundLen starts offset len) (len - roundLen starts offset len) := by
  have grown := touched_round aligned order more
  dsimp only at grown
  rw [add_assoc, Nat.sub_sub, ← roundLen] at grown
  unfold touched at grown
  rw [append_assoc] at grown
  exact append_cancel_left grown

theorem reached_of_covered (finished : walked 4096 starts offset len = len) :
    reached starts heap offset len = len := by
  unfold reached
  rw [missing_of_covered aligned fun a low high =>
    walked_covered low (by rw [finished]; exact high)]
  rfl

theorem reached_of_failure (order : InOrder 4096 starts offset len)
    (more : walked 4096 starts offset len < len) (fails : heap.headD true = false) :
    reached starts heap offset len = walked 4096 starts offset len := by
  unfold reached
  rw [missing_round aligned order more, firstFailure, fails, if_neg nofun]
  dsimp only
  rcases Nat.eq_zero_or_pos (walked 4096 starts offset len) with zero | moved
  · have covers := cacheBkAlign_covers offset
    unfold Covers at covers
    rw [zero, add_zero]
    omega
  · have boundary := walked_boundary aligned order more moved
    unfold cacheBkAlign cfgBkwBlockSize
    omega

end

variable {blocks : List Nat}

theorem firstFailure_of_heap (succeeds : ∀ outcome ∈ heap, outcome) :
    firstFailure blocks heap = none := by
  induction blocks generalizing heap with
  | nil => rfl
  | cons _ _ ih =>
    cases heap with
    | nil => exact ih nofun
    | cons first _ =>
      rw [firstFailure, headD_cons, succeeds first (.head _), if_pos rfl]
      exact ih fun outcome member => succeeds outcome (.tail _ member)

theorem firstFailure_mem {block : Nat}
    (fails : firstFailure blocks heap = some block) : block ∈ blocks := by
  induction blocks generalizing heap with
  | nil => cases fails
  | cons _ _ ih =>
    rw [firstFailure] at fails
    split at fails
    · exact mem_cons_of_mem _ (ih fails)
    · cases fails
      exact .head _

theorem firstFailure_lt {block : Nat}
    (fails : firstFailure (missing starts offset len) heap = some block) :
    block - offset < len := by
  have member := (mem_filter.mp (firstFailure_mem fails)).1
  obtain ⟨_, _, _, _, covers⟩ := mem_blocksOf member
  unfold Covers at covers
  omega

theorem reached_le : reached starts heap offset len ≤ len := by
  unfold reached
  cases fails : firstFailure (missing starts offset len) heap with
  | none => exact le_refl len
  | some => exact le_of_lt (firstFailure_lt fails)

theorem reached_ne_iff : reached starts heap offset len ≠ len ↔
    ¬firstFailure (missing starts offset len) heap = none := by
  unfold reached
  cases fails : firstFailure (missing starts offset len) heap with
  | none => simp
  | some => simpa using Nat.ne_of_lt (firstFailure_lt fails)

theorem roundLen_boundary (more : walked 4096 starts offset len < len)
    (left : roundLen starts offset len < len) :
    (offset + roundLen starts offset len) % 4096 = 0 := by
  have covers := cacheBkAlign_covers (offset + walked 4096 starts offset len)
  have aligned := cacheBkAlign_aligned (offset + walked 4096 starts offset len)
  unfold roundLen at left ⊢
  rw [hitLen_of_covers covers] at left ⊢
  unfold Covers at covers
  omega

theorem reached_round (aligned : ∀ start ∈ starts, start % 4096 = 0)
    (order : InOrder 4096 starts offset len) (more : walked 4096 starts offset len < len)
    (succeeds : heap.headD true) :
    reached starts heap offset len = roundLen starts offset len +
      reached (starts ++ [cacheBkAlign (offset + walked 4096 starts offset len)]) heap.tail
        (offset + roundLen starts offset len) (len - roundLen starts offset len) := by
  have most := (roundLen_bounds more).2
  unfold reached
  rw [missing_round aligned order more, firstFailure, if_pos succeeds]
  cases fails : firstFailure (missing
      (starts ++ [cacheBkAlign (offset + walked 4096 starts offset len)])
      (offset + roundLen starts offset len) (len - roundLen starts offset len)) heap.tail with
  | none => exact (add_sub_of_le most).symm
  | some block =>
    -- The block that fails lies behind the round, which ended on a boundary.
    have member := (mem_filter.mp (firstFailure_mem fails)).1
    obtain ⟨_, a, _, _, covers⟩ := mem_blocksOf member
    have boundary := roundLen_boundary more (by omega)
    unfold Covers at covers
    dsimp only
    omega

end

theorem phys_round (flash : Nat → UInt8) (cache : List CacheBlock) (cursor : Cursor) (count : Nat) :
    phys (cache.map (overlay pbuf cursor count) ++ [newBlock flash pbuf (cursor.moved count)]) =
      phys cache ++ [cacheBkAlign (cursor.offset + count)] := by
  rw [phys, map_append, ← phys, phys_overlay]
  rfl

theorem WroteSome.finished {store : Store}
    (coherent : Coherent window kept flat store.flash store.cache)
    (finished : walked 4096 (phys store.cache) cursor.offset cursor.len = cursor.len) :
    WroteSome window kept flat (fun index => pbuf (cursor.pos + index)) cursor.offset cursor.len
      store { store with cache := store.cache.map (overlay pbuf cursor cursor.len) } := by
  have walk := @Coherent.walk window kept flat _ pbuf _ cursor coherent
  have covered : ∀ a, cursor.offset ≤ a → a < cursor.offset + cursor.len →
      ∃ start ∈ phys store.cache, Covers 4096 start a :=
    fun a low high => walked_covered low (by rw [finished]; exact high)
  have same := touched_of_covered coherent.sited.aligned covered
  rw [finished] at walk
  constructor
  · rfl
  · rwa [reached_of_covered coherent.sited.aligned finished]
  · rw [phys_overlay]
    exact prefix_append _ _
  · intro _
    rw [phys_overlay, same, missing_of_covered coherent.sited.aligned covered]
    exact ⟨rfl, rfl⟩

theorem WroteSome.failed {store : Store}
    (coherent : Coherent window kept flat store.flash store.cache)
    (order : InOrder 4096 (phys store.cache) cursor.offset cursor.len)
    (more : walked 4096 (phys store.cache) cursor.offset cursor.len < cursor.len)
    (fails : store.heap.headD true = false) :
    WroteSome window kept flat (fun index => pbuf (cursor.pos + index)) cursor.offset cursor.len
      store
      { store with
        heap := store.heap.tail
        cache := store.cache.map (overlay pbuf cursor
          (walked 4096 (phys store.cache) cursor.offset cursor.len)) } := by
  constructor
  · rfl
  · rw [reached_of_failure coherent.sited.aligned order more fails]
    exact @Coherent.walk window kept flat _ pbuf _ cursor coherent
  · rw [phys_overlay]
    exact prefix_append _ _
  · rw [missing_round coherent.sited.aligned order more, firstFailure, fails,
      if_neg nofun]
    exact nofun

theorem WroteSome.nothing {store : Store}
    (coherent : Coherent window kept flat store.flash store.cache) (offset : Nat) :
    WroteSome window kept flat pbuf offset 0 store store := by
  have zero : reached (phys store.cache) store.heap offset 0 = 0 := rfl
  constructor
  · rfl
  · rwa [zero, patch_zero]
  · exact prefix_append _ _
  · exact fun _ => ⟨(append_nil _).symm, rfl⟩

theorem WroteSome.round {store middle after : Store} {cursor : Cursor}
    (aligned : ∀ start ∈ phys store.cache, start % 4096 = 0)
    (order : InOrder 4096 (phys store.cache) cursor.offset cursor.len)
    (more : walked 4096 (phys store.cache) cursor.offset cursor.len < cursor.len)
    (succeeds : store.heap.headD true) (flash : middle.flash = store.flash)
    (heap : middle.heap = store.heap.tail)
    (starts : phys middle.cache = phys store.cache ++ [cacheBkAlign (cursor.offset +
      walked 4096 (phys store.cache) cursor.offset cursor.len)])
    (rest : WroteSome window kept
      (patch flat cursor.offset (roundLen (phys store.cache) cursor.offset cursor.len)
        fun index => pbuf (cursor.pos + index))
      (fun index =>
        pbuf (cursor.pos + roundLen (phys store.cache) cursor.offset cursor.len + index))
      (cursor.offset + roundLen (phys store.cache) cursor.offset cursor.len)
      (cursor.len - roundLen (phys store.cache) cursor.offset cursor.len) middle after) :
    WroteSome window kept flat (fun index => pbuf (cursor.pos + index)) cursor.offset cursor.len
      store after := by
  have grown := touched_round aligned order more
  dsimp only at grown
  rw [add_assoc, Nat.sub_sub, ← roundLen] at grown
  obtain ⟨restFlash, restCoherent, restStarts, restComplete⟩ := rest
  rw [starts, heap] at restCoherent restComplete
  rw [starts] at restStarts
  constructor
  · exact restFlash.trans flash
  · rw [reached_round aligned order more succeeds]
    simp only [add_assoc] at restCoherent
    rwa [patch_append flat (fun index => pbuf (cursor.pos + index))] at restCoherent
  · rwa [grown]
  · rw [missing_round aligned order more, firstFailure, if_pos succeeds]
    intro none
    obtain ⟨all, left⟩ := restComplete none
    refine ⟨all.trans grown.symm, left.trans ?_⟩
    rw [length_cons, ← drop_tail]

theorem writeRounds_stops (base : IsWindow window) {fuel : Nat} {store : Store}
    {cursor : Cursor} (coherent : Coherent window kept flat store.flash store.cache)
    (fits : Fits window cursor.offset cursor.len)
    (order : InOrder 4096 (phys store.cache) cursor.offset cursor.len)
    (enough : cursor.len < fuel) :
    ∃ after last, writeRounds pbuf fuel store cursor = some (after, last) ∧
      last.len = cursor.len - reached (phys store.cache) store.heap cursor.offset cursor.len ∧
      WroteSome window kept flat (fun index => pbuf (cursor.pos + index)) cursor.offset cursor.len
        store after := by
  induction fuel generalizing store cursor flat with
  | zero => omega
  | succ fuel ih =>
    have aligned := coherent.sited.aligned
    have served := @walked_le 4096 (phys store.cache) cursor.offset cursor.len
    rw [writeRounds, writePass_eq base coherent.sited (fits.bounded base)]
    dsimp only
    by_cases finished : walked 4096 (phys store.cache) cursor.offset cursor.len = cursor.len
    · refine ⟨_, _, if_pos ?_, ?_, ?_⟩
      · rw [finished]
        exact cursor.moved_all
      · rw [reached_of_covered aligned finished, finished]
        rfl
      · rw [finished]
        exact WroteSome.finished coherent finished
    · have more : walked 4096 (phys store.cache) cursor.offset cursor.len < cursor.len := by omega
      rw [if_neg (by simp only [Cursor.moved]; omega), advance_round base fits more, Store.malloc]
      cases outcome : store.heap.headD true with
      | false =>
        refine ⟨_, _, rfl, ?_, WroteSome.failed coherent order more outcome⟩
        rw [reached_of_failure aligned order more outcome]
        rfl
      | true =>
        have round := @Coherent.round window kept flat pbuf _ _ cursor coherent base fits order more
        have starts := @phys_round pbuf store.flash store.cache cursor
          (walked 4096 (phys store.cache) cursor.offset cursor.len)
        obtain ⟨_, most⟩ := roundLen_bounds more
        have append := fun after => @WroteSome.round window kept flat pbuf store
          { flash := store.flash
            cache := _
            heap := store.heap.tail } after cursor aligned order more outcome rfl rfl starts
        rw [if_pos rfl, reached_round aligned order more outcome]
        by_cases complete : roundLen (phys store.cache) cursor.offset cursor.len = cursor.len
        · refine ⟨_, _, if_pos ?_, ?_, append _ ?_⟩
          · rw [complete]
            exact cursor.moved_all
          · simp only [Cursor.moved]
            omega
          · rw [complete, Nat.sub_self]
            rw [complete] at round
            apply WroteSome.nothing
            exact round
        · rw [if_neg (by simp only [Cursor.moved]; omega)]
          have nextOrder := InOrder_round order more (by omega)
          rw [← starts] at nextOrder
          obtain ⟨after, last, run, finish, wrote⟩ := @ih _
            { flash := store.flash
              cache := _
              heap := store.heap.tail }
            (cursor.moved (roundLen (phys store.cache) cursor.offset cursor.len))
            round (fits.walk most) nextOrder (by simp only [Cursor.moved]; omega)
          refine ⟨after, last, run, ?_, append after wrote⟩
          rw [finish, starts]
          exact Nat.sub_sub _ _ _

theorem hsCfgWriteS_stops (base : IsWindow window) {store : Store} {offset len : Nat}
    (coherent : Coherent window kept flat store.flash store.cache) (fits : Fits window offset len)
    (order : InOrder 4096 (phys store.cache) offset len) :
    ∃ after, hsCfgWriteS store offset pbuf len =
        some (if firstFailure (missing (phys store.cache) offset len) store.heap = none then .ok
          else .error, after) ∧
      WroteSome window kept flat pbuf offset len store after := by
  have bounded := fits.bounded base
  obtain ⟨after, last, run, finish, wrote⟩ := @writeRounds_stops window kept flat pbuf base _
    store { offset := offset, pos := 0, len := len } coherent fits order (lt_succ_self _)
  simp only [zero_add] at finish wrote
  refine ⟨after, ?_, wrote⟩
  have done : u32Sub len last.len = reached (phys store.cache) store.heap offset len := by
    have most := @reached_le (phys store.cache) store.heap offset len
    rw [finish, u32Sub_of_le (by omega) (sub_le _ _), Nat.sub_sub_self most]
  simp only [hsCfgWriteS, cfgCachememWrite, run, Option.map_some, done]
  rw [if_congr reached_ne_iff rfl rfl, ite_not]

theorem hsCfgWriteS_spec (base : IsWindow window) {store : Store} {offset len : Nat}
    (coherent : Coherent window kept flat store.flash store.cache)
    (fits : Fits window offset len) (order : InOrder 4096 (phys store.cache) offset len)
    (heap : ∀ outcome ∈ store.heap, outcome) :
    ∃ after, hsCfgWriteS store offset pbuf len = some (.ok, after) ∧
      Wrote window kept (patch flat offset len pbuf) (touched (phys store.cache) offset len)
        store after := by
  obtain ⟨after, run, wrote⟩ :=
    @hsCfgWriteS_stops window kept flat pbuf base store offset len coherent fits order
  have served := @firstFailure_of_heap _ (missing (phys store.cache) offset len) heap
  have all : reached (phys store.cache) store.heap offset len = len := by rw [reached, served]
  obtain ⟨starts, left⟩ := wrote.complete served
  have whole := wrote.coherent
  rw [all] at whole
  rw [if_pos served] at run
  refine ⟨after, run, wrote.flash, fun outcome member => ?_, whole, starts⟩
  rw [left] at member
  exact heap outcome (mem_of_mem_drop member)

theorem uncovered_to_end {stop a : Nat} (aligned : ∀ start ∈ starts, start % 4096 = 0)
    (uncovered : ∀ start ∈ starts, ¬Covers 4096 start stop) (above : stop ≤ a)
    (below : a < stop + hitLen 4096 (cacheBkAlign stop) stop len) :
    ∀ start ∈ starts, ¬Covers 4096 start a := by
  intro start member covers
  have inBlock := hitLen_covers above below
  have same := covers.unique (aligned start member) (cacheBkAlign_aligned stop) inBlock
  exact uncovered start member (same ▸ cacheBkAlign_covers stop)

section

variable (base : IsWindow window)
include base

theorem readMiss {flash : Nat → UInt8} {cache : List CacheBlock}
    {cursor : Cursor} (coherent : Coherent window kept flat flash cache)
    (fits : Fits window cursor.offset cursor.len)
    (order : InOrder 4096 (phys cache) cursor.offset cursor.len)
    (keep : ∀ a, cursor.offset ≤ a → a < cursor.offset + cursor.len → kept a)
    (more : walked 4096 (phys cache) cursor.offset cursor.len < cursor.len) :
    patch (patch pbuf cursor.pos (walked 4096 (phys cache) cursor.offset cursor.len)
          fun index => flat (cursor.offset + index))
        (cursor.moved (walked 4096 (phys cache) cursor.offset cursor.len)).pos
        (cacheLenInBlock (cursor.moved (walked 4096 (phys cache) cursor.offset cursor.len)).offset
          (cursor.moved (walked 4096 (phys cache) cursor.offset cursor.len)).len)
        (hsCfgHalRead flash
          (cursor.moved (walked 4096 (phys cache) cursor.offset cursor.len)).offset) =
      patch pbuf cursor.pos (roundLen (phys cache) cursor.offset cursor.len)
        fun index => flat (cursor.offset + index) := by
  have uncovered := walked_stops coherent.sited.aligned order more
  have most := (roundLen_bounds more).2
  rw [cacheLenInBlock_round base fits more]
  unfold roundLen at most ⊢
  revert more uncovered most
  generalize walked 4096 (phys cache) cursor.offset cursor.len = count
  intro more uncovered most
  rw [← patch_append pbuf (fun index => flat (cursor.offset + index))]
  apply patch_congr
  intro index below
  obtain ⟨low, high⟩ := fits
  have start : (cursor.moved count).offset = cursor.offset + count := rfl
  rw [start, hsCfgHalRead_window base flash (by omega) (by omega), ← add_assoc]
  apply coherent.stored _ (by omega) (by omega) (keep _ (by omega) (by omega))
  exact uncovered_to_end coherent.sited.aligned uncovered (Nat.le_add_right _ _)
    (Nat.add_lt_add_left below _)

theorem readRounds_spec {fuel : Nat} {flash : Nat → UInt8}
    {cache : List CacheBlock} (coherent : Coherent window kept flat flash cache)
    (fits : Fits window cursor.offset cursor.len)
    (order : InOrder 4096 (phys cache) cursor.offset cursor.len)
    (keep : ∀ a, cursor.offset ≤ a → a < cursor.offset + cursor.len → kept a)
    (enough : cursor.len < fuel) : readRounds flash cache fuel cursor pbuf =
      some (patch pbuf cursor.pos cursor.len fun index => flat (cursor.offset + index)) := by
  induction fuel generalizing cursor pbuf with
  | zero => omega
  | succ fuel ih =>
    have served := @walked_le 4096 (phys cache) cursor.offset cursor.len
    rw [readRounds, readPass_eq base coherent.sited (fits.bounded base)
      fun block member a covers low high => coherent.cached block member a covers (keep a low high)]
    dsimp only
    by_cases finished : walked 4096 (phys cache) cursor.offset cursor.len = cursor.len
    · rw [finished, if_pos cursor.moved_all]
    · have more : walked 4096 (phys cache) cursor.offset cursor.len < cursor.len := by omega
      obtain ⟨_, most⟩ := roundLen_bounds more
      rw [if_neg (by simp only [Cursor.moved]; omega), advance_round base fits more]
      have missed := @readMiss window kept flat pbuf base flash cache cursor coherent fits order
        keep more
      rw [missed]
      by_cases complete : roundLen (phys cache) cursor.offset cursor.len = cursor.len
      · rw [complete, if_pos cursor.moved_all]
      · rw [if_neg (by simp only [Cursor.moved]; omega), ih (fits.walk most)]
        · simp only [Cursor.moved, add_assoc]
          rw [patch_append pbuf (fun index => flat (cursor.offset + index)), add_sub_of_le most]
        · exact order.mono (Nat.le_add_right _ _) (by simp only [Cursor.moved]; omega)
        · intro a low high
          simp only [Cursor.moved] at low high
          exact keep a (by omega) (by omega)
        · simp only [Cursor.moved]
          omega

theorem hsCfgReadS_spec {store : Store}
    (coherent : Coherent window kept flat store.flash store.cache) (fits : Fits window offset len)
    (order : InOrder 4096 (phys store.cache) offset len)
    (keep : ∀ a, offset ≤ a → a < offset + len → kept a) : hsCfgReadS store offset pbuf len =
      some (patch pbuf 0 len fun index => flat (offset + index)) := by
  unfold hsCfgReadS
  cases empty : store.cache with
  | nil =>
    dsimp only
    congr 1
    apply patch_congr
    intro index _
    obtain ⟨low, _⟩ := fits
    rw [hsCfgHalRead_window base _ low (by omega)]
    apply coherent.stored _ (by omega) (by omega) (keep _ (by omega) (by omega))
    rw [empty]
    intro _ member
    cases member
  | cons =>
    dsimp only
    rw [← empty]
    exact readRounds_spec base coherent fits order keep (lt_succ_self _)

end

end

end Hfirmware.Config
