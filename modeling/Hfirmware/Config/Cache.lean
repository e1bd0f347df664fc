/-
The write-back cache of the configuration store: a list of 4 KB blocks in the order in
which they were first written, which reads and writes walk once per round.
-/

import Hfirmware.BlockWalk
import Hfirmware.Config.Journal

namespace Hfirmware.Config

open BlockWalk ByteImage NorFlash

structure CacheBlock where
  u32PhyAddr : Nat
  u8VtCache : Nat → UInt8

/-- The flash image, the list `g_pstCacheMem`, and the outcomes of the coming
block allocations; after these every allocation succeeds. -/
structure Store where
  flash : Nat → UInt8
  cache : List CacheBlock
  heap : List Bool

def Store.malloc (store : Store) : Bool × Store :=
  (store.heap.headD true, { store with heap := store.heap.tail })

/-- The running arguments of a read or a write; `pos` is how far `pbuf` moved. -/
structure Cursor where
  (offset pos len : Nat)

variable {pbuf : Nat → UInt8} {cursor : Cursor} {block : CacheBlock}

def Cursor.advance (cursor : Cursor) (u32hlen : Nat) : Cursor :=
  { offset := u32 (cursor.offset + u32hlen)
    pos := cursor.pos + u32hlen
    len := u32Sub cursor.len u32hlen }

/-- `_cfg_cachemem_searchhit`: bytes of the request that the block serves. An
offset right behind the block passes the address test with length zero. -/
def cfgCachememSearchhit (u32PhyAddr vaddr vlen : Nat) : Nat :=
  let limit := u32 (u32PhyAddr + cfgBkwBlockSize)
  if u32PhyAddr ≤ vaddr ∧ vaddr ≤ limit then
    if u32 (vaddr + vlen) ≤ limit then vlen else u32Sub limit vaddr
  else 0

def cacheBkAlign (addr : Nat) : Nat := addr / cfgBkwBlockSize * cfgBkwBlockSize

def cacheLenInBlock (addr len : Nat) : Nat :=
  let limit := u32 (cacheBkAlign addr + cfgBkwBlockSize)
  if limit < u32 (addr + len) then u32Sub limit addr else len

def writePass (pbuf : Nat → UInt8) : List CacheBlock → Cursor → List CacheBlock × Cursor
  | [], cursor => ([], cursor)
  | block :: rest, cursor =>
    if cursor.len = 0 then (block :: rest, cursor)
    else
      let u32hlen := cfgCachememSearchhit block.u32PhyAddr cursor.offset cursor.len
      if u32hlen = 0 then
        let (walked, last) := writePass pbuf rest cursor
        (block :: walked, last)
      else
        let copied := { block with
          u8VtCache := patch block.u8VtCache (u32Sub cursor.offset block.u32PhyAddr) u32hlen
            fun index => pbuf (cursor.pos + index) }
        let (walked, last) := writePass pbuf rest (cursor.advance u32hlen)
        (copied :: walked, last)

def newBlock (flash pbuf : Nat → UInt8) (cursor : Cursor) : CacheBlock :=
  { u32PhyAddr := cacheBkAlign cursor.offset
    u8VtCache := patch (hsCfgHalRead flash (cacheBkAlign cursor.offset))
      (u32Sub cursor.offset (cacheBkAlign cursor.offset))
      (cacheLenInBlock cursor.offset cursor.len) fun index => pbuf (cursor.pos + index) }

/-- The rounds of `_cfg_cachemem_write`: a walk, then a new block for what is
left. `none` stands for a call that does not end within `fuel` rounds. -/
def writeRounds (pbuf : Nat → UInt8) : Nat → Store → Cursor → Option (Store × Cursor)
  | 0, _, _ => none
  | fuel + 1, store, start =>
    let (cache, cursor) := writePass pbuf store.cache start
    if cursor.len = 0 then some ({ store with cache }, cursor)
    else
      let (allocated, left) := store.malloc
      if allocated then
        let extended := { left with cache := cache ++ [newBlock store.flash pbuf cursor] }
        let next := cursor.advance (cacheLenInBlock cursor.offset cursor.len)
        if next.len = 0 then some (extended, next) else writeRounds pbuf fuel extended next
      else some ({ left with cache }, cursor)

def cfgCachememWrite (store : Store) (offset : Nat) (pbuf : Nat → UInt8) (len : Nat) :
    Option (Nat × Store) :=
  (writeRounds pbuf (len + 1) store { offset := offset, pos := 0, len := len }).map
    fun (after, cursor) => (u32Sub len cursor.len, after)

/-- `hs_cfg_writeS`, and `hs_cfg_write`, which is the same under the lock. -/
def hsCfgWriteS (store : Store) (offset : Nat) (pbuf : Nat → UInt8) (len : Nat) :
    Option (CfgRes × Store) :=
  (cfgCachememWrite store offset pbuf len).map
    fun (u32Len, after) => (if u32Len ≠ len then .error else .ok, after)

def readPass : List CacheBlock → Cursor → (Nat → UInt8) → (Nat → UInt8) × Cursor
  | [], cursor, pbuf => (pbuf, cursor)
  | block :: rest, cursor, pbuf =>
    if cursor.len = 0 then (pbuf, cursor)
    else
      let u32hlen := cfgCachememSearchhit block.u32PhyAddr cursor.offset cursor.len
      if u32hlen = 0 then readPass rest cursor pbuf
      else
        readPass rest (cursor.advance u32hlen) (patch pbuf cursor.pos u32hlen fun index =>
            block.u8VtCache (u32Sub cursor.offset block.u32PhyAddr + index))

def readRounds (flash : Nat → UInt8) (cache : List CacheBlock) :
    Nat → Cursor → (Nat → UInt8) → Option (Nat → UInt8)
  | 0, _, _ => none
  | fuel + 1, start, pbuf =>
    let (filled, cursor) := readPass cache start pbuf
    if cursor.len = 0 then some filled
    else
      let u32hlen := cacheLenInBlock cursor.offset cursor.len
      let more := patch filled cursor.pos u32hlen (hsCfgHalRead flash cursor.offset)
      let next := cursor.advance u32hlen
      if next.len = 0 then some more else readRounds flash cache fuel next more

/-- `hs_cfg_readS`, and `hs_cfg_read` under the lock: the buffer afterwards. -/
def hsCfgReadS (store : Store) (offset : Nat) (pbuf : Nat → UInt8) (len : Nat) :
    Option (Nat → UInt8) :=
  match store.cache with
  | [] => some (patch pbuf 0 len (hsCfgHalRead store.flash offset))
  | _ :: _ =>
    readRounds store.flash store.cache (len + 1) { offset := offset, pos := 0, len := len } pbuf

def cfgCachememCleanunit (para : Para) (store : Store) : CfgRes × Store :=
  match store.cache with
  | [] => (.ok, store)
  | block :: rest =>
    let (enRes, ops) := cfgCachememBlockwr para store.flash block.u32PhyAddr block.u8VtCache
    let flash := applyAll g_SFInfo store.flash ops
    if enRes = .ok then (.ok, { store with flash, cache := rest })
    else (enRes, { store with flash })

def cleanRounds (para : Para) : Nat → Store → CfgRes × Store
  | 0, store => (.ok, store)
  | count + 1, store =>
    let (enRes, after) := cfgCachememCleanunit para store
    if enRes = .ok then cleanRounds para count after else (enRes, after)

def cfgCachememCleanall (para : Para) (store : Store) : CfgRes × Store :=
  cleanRounds para store.cache.length store

inductive FlushType where
  | oneBlock | all

def hsCfgFlush (para : Para) (type : FlushType) (store : Store) : CfgRes × Store :=
  let (enRes, after) :=
    match type with
    | .all => cfgCachememCleanall para store
    | .oneBlock => cfgCachememCleanunit para store
  if enRes = .ok then (enRes, after)
  else
    (enRes, { after with
      flash := applyAll g_SFInfo after.flash (cfgCachememRestore para after.flash).2 })

/-! ### The cursor of a walk -/

open Cursor

theorem cfgCachememSearchhit_eq {u32PhyAddr vaddr vlen : Nat} (below : u32PhyAddr + 4096 < 2 ^ 32)
    (fits : vaddr + vlen < 2 ^ 32) :
    cfgCachememSearchhit u32PhyAddr vaddr vlen = hitLen 4096 u32PhyAddr vaddr vlen := by
  have limit : u32 (u32PhyAddr + cfgBkwBlockSize) = u32PhyAddr + 4096 := u32_of_lt below
  simp only [cfgCachememSearchhit, limit, u32_of_lt fits]
  by_cases covers : Covers 4096 u32PhyAddr vaddr
  · rw [hitLen_of_covers covers]
    unfold Covers at covers
    rw [if_pos (by omega), u32Sub_of_le (by omega) (by omega)]
    split <;> omega
  · rw [hitLen_of_not_covers covers]
    unfold Covers at covers
    split
    · -- The address test also passes right behind the block.
      rename_i inside
      rw [u32Sub_of_le (by omega) inside.2]
      split <;> omega
    · rfl

theorem cacheBkAlign_aligned (addr : Nat) : cacheBkAlign addr % 4096 = 0 :=
  Nat.mul_mod_left _ _

theorem cacheBkAlign_covers (addr : Nat) : Covers 4096 (cacheBkAlign addr) addr := by
  simp only [Covers, cacheBkAlign, cfgBkwBlockSize]
  omega

theorem cacheLenInBlock_eq {addr len : Nat} (below : cacheBkAlign addr + 4096 < 2 ^ 32)
    (fits : addr + len < 2 ^ 32) :
    cacheLenInBlock addr len = hitLen 4096 (cacheBkAlign addr) addr len := by
  have limit : u32 (cacheBkAlign addr + cfgBkwBlockSize) = cacheBkAlign addr + 4096 :=
    u32_of_lt below
  have covers := cacheBkAlign_covers addr
  simp only [cacheLenInBlock, limit, u32_of_lt fits, hitLen_of_covers covers]
  rw [u32Sub_of_le (by omega) (by unfold Covers at covers; omega)]
  split <;> omega

def Cursor.moved (cursor : Cursor) (count : Nat) : Cursor :=
  { offset := cursor.offset + count
    pos := cursor.pos + count
    len := cursor.len - count }

variable {count : Nat}

theorem Cursor.advance_eq {cursor : Cursor} (most : count ≤ cursor.len)
    (fits : cursor.offset + cursor.len < 2 ^ 32) : cursor.advance count = cursor.moved count := by
  rw [advance, moved, u32_of_lt (by omega), u32Sub_of_le (by omega) most]

theorem Cursor.moved_zero (cursor : Cursor) : cursor.moved 0 = cursor := rfl

theorem Cursor.moved_all (cursor : Cursor) : (cursor.moved cursor.len).len = 0 :=
  Nat.sub_self _

theorem Cursor.moved_moved (cursor : Cursor) (first second : Nat) :
    (cursor.moved first).moved second = cursor.moved (first + second) := by
  simp only [moved, add_assoc, Nat.sub_sub]

def phys (cache : List CacheBlock) : List Nat := cache.map CacheBlock.u32PhyAddr

@[simp] theorem phys_nil : phys [] = [] := rfl

@[simp] theorem phys_cons (block : CacheBlock) (rest : List CacheBlock) :
    phys (block :: rest) = block.u32PhyAddr :: phys rest := rfl

def IsWindow (window : Nat) : Prop := window % 2 ^ 28 = 0 ∧ window < 2 ^ 32

structure Sited (window : Nat) (starts : List Nat) : Prop where
  aligned : ∀ start ∈ starts, start % 4096 = 0
  inside : ∀ start ∈ starts, window ≤ start ∧ start + 4096 ≤ window + 2 ^ 24
  distinct : starts.Nodup

variable {window start : Nat} {rest : List Nat}

theorem Sited.tail (sited : Sited window (start :: rest)) : Sited window rest :=
  { aligned := fun other member => sited.aligned other (.tail _ member)
    inside := fun other member => sited.inside other (.tail _ member)
    distinct := (List.nodup_cons.mp sited.distinct).2 }

theorem Sited.apart {other a : Nat} (sited : Sited window (start :: rest)) (member : other ∈ rest)
    (inHead : Covers 4096 start a) : ¬Covers 4096 other a := by
  intro inOther
  have same := inHead.unique (sited.aligned start (.head _))
    (sited.aligned other (.tail _ member)) inOther
  exact (List.nodup_cons.mp sited.distinct).1 (same ▸ member)

theorem Sited.below {starts : List Nat} (base : IsWindow window)
    (sited : Sited window starts) (member : start ∈ starts) : start + 4096 < 2 ^ 32 := by
  have bounds := sited.inside start member
  unfold IsWindow at base
  omega

def overlay (pbuf : Nat → UInt8) (cursor : Cursor) (count : Nat) (block : CacheBlock) :
    CacheBlock :=
  { block with
    u8VtCache := fun index =>
      if index < 4096 ∧ cursor.offset ≤ block.u32PhyAddr + index ∧
          block.u32PhyAddr + index < cursor.offset + count then
        pbuf (cursor.pos + (block.u32PhyAddr + index - cursor.offset))
      else block.u8VtCache index }

variable {cache : List CacheBlock}

section

theorem phys_overlay (count : Nat) (cache : List CacheBlock) :
    phys (cache.map (overlay pbuf cursor count)) = phys cache := by
  simp only [phys, List.map_map]
  rfl

theorem overlay_congr {other : Cursor} {first second : Nat} (same : ∀ index < 4096,
      (cursor.offset ≤ block.u32PhyAddr + index ∧ block.u32PhyAddr + index < cursor.offset + first ↔
        other.offset ≤ block.u32PhyAddr + index ∧ block.u32PhyAddr + index < other.offset + second))
    (source : ∀ a, cursor.offset ≤ a → other.offset ≤ a →
      pbuf (cursor.pos + (a - cursor.offset)) = pbuf (other.pos + (a - other.offset))) :
    overlay pbuf cursor first block = overlay pbuf other second block := by
  unfold overlay
  congr 1
  funext index
  by_cases below : index < 4096
  · have iff := same index below
    by_cases inside : cursor.offset ≤ block.u32PhyAddr + index ∧
        block.u32PhyAddr + index < cursor.offset + first
    · rw [if_pos ⟨below, inside⟩, if_pos ⟨below, iff.mp inside⟩]
      exact source _ inside.1 (iff.mp inside).1
    · rw [if_neg (fun both => inside both.2), if_neg (fun both => inside (iff.mpr both.2))]
  · rw [if_neg (fun both => below both.1), if_neg (fun both => below both.1)]

theorem overlay_of_apart
    (apart : ∀ a, cursor.offset ≤ a → a < cursor.offset + count → ¬Covers 4096 block.u32PhyAddr a) :
    overlay pbuf cursor count block = block := by
  unfold overlay
  congr 1
  funext index
  apply if_neg
  rintro ⟨_, low, high⟩
  exact apart _ low high ⟨by omega, by omega⟩

theorem overlay_hit (covers : Covers 4096 block.u32PhyAddr cursor.offset)
    (bounded : cursor.offset < 2 ^ 32) (inBlock : cursor.offset + count ≤ block.u32PhyAddr + 4096) :
    { block with
      u8VtCache := patch block.u8VtCache (u32Sub cursor.offset block.u32PhyAddr) count
        fun index => pbuf (cursor.pos + index) } = overlay pbuf cursor count block := by
  unfold Covers at covers
  rw [u32Sub_of_le bounded covers.1]
  unfold overlay patch
  congr 1
  funext index
  split
  · rw [if_pos (by omega)]
    exact congrArg pbuf (by omega)
  · rw [if_neg (by omega)]

theorem writePass_of_empty (cache : List CacheBlock) (empty : cursor.len = 0) :
    writePass pbuf cache cursor = (cache, cursor) := by
  cases cache with
  | nil => rfl
  | cons => rw [writePass, if_pos empty]

theorem writePass_cons (rest : List CacheBlock) (below : block.u32PhyAddr + 4096 < 2 ^ 32)
    (fits : cursor.offset + cursor.len < 2 ^ 32) :
    let after := writePass pbuf rest
      (cursor.moved (hitLen 4096 block.u32PhyAddr cursor.offset cursor.len))
    writePass pbuf (block :: rest) cursor =
      (overlay pbuf cursor (hitLen 4096 block.u32PhyAddr cursor.offset cursor.len) block :: after.1,
        after.2) := by
  have served := @hitLen_le 4096 block.u32PhyAddr cursor.offset cursor.len
  have unchanged : overlay pbuf cursor 0 block = block :=
    overlay_of_apart fun a low high => absurd low (by omega)
  by_cases empty : cursor.len = 0
  · rw [empty, Nat.le_zero] at served
    rw [writePass_of_empty _ empty, empty, served, moved_zero, unchanged,
      writePass_of_empty _ empty]
  · rw [writePass, if_neg empty, cfgCachememSearchhit_eq below fits]
    dsimp only
    by_cases covers : Covers 4096 block.u32PhyAddr cursor.offset
    · have hit := @hitLen_of_covers 4096 _ _ cursor.len covers
      have range := covers
      unfold Covers at range
      rw [advance_eq served fits, overlay_hit covers (by omega) (by omega),
        if_neg (by omega)]
    · have missed := @hitLen_of_not_covers 4096 _ cursor.offset cursor.len
        covers
      rw [missed, if_pos rfl, unchanged, moved_zero]

theorem writePass_eq (base : IsWindow window)
    (sited : Sited window (phys cache)) (fits : cursor.offset + cursor.len < 2 ^ 32) :
    writePass pbuf cache cursor =
      (cache.map (overlay pbuf cursor (walked 4096 (phys cache) cursor.offset cursor.len)),
        cursor.moved (walked 4096 (phys cache) cursor.offset cursor.len)) := by
  induction cache generalizing cursor with
  | nil => rfl
  | cons block rest ih =>
    have served := @hitLen_le 4096 block.u32PhyAddr cursor.offset cursor.len
    have inHead {a : Nat} := @hitLen_covers 4096 block.u32PhyAddr cursor.offset cursor.len a
    rw [writePass_cons rest (sited.below base (.head _)) fits, phys_cons, walked]
    revert served inHead
    generalize hitLen 4096 block.u32PhyAddr cursor.offset cursor.len = hit
    intro served inHead
    rw [ih sited.tail (by simp only [Cursor.moved]; omega), moved_moved, List.map_cons]
    have offHead {a : Nat} (low : cursor.offset + hit ≤ a) (high : a < cursor.offset + hit +
          walked 4096 (phys rest) (cursor.offset + hit) (cursor.len - hit)) :
        ¬Covers 4096 block.u32PhyAddr a := by
      obtain ⟨other, member, covers⟩ := walked_covered low high
      exact fun inside => sited.apart member inside covers
    simp only [Cursor.moved]
    generalize walked 4096 (phys rest) (cursor.offset + hit) (cursor.len - hit) = later at *
    have head : overlay pbuf cursor hit block = overlay pbuf cursor (hit + later) block := by
      apply overlay_congr
      · intro index below
        have apart := @offHead (block.u32PhyAddr + index)
        unfold Covers at apart
        omega
      · intro a _ _
        rfl
    have tail : rest.map (overlay pbuf (cursor.moved hit) later) =
        rest.map (overlay pbuf cursor (hit + later)) := by
      apply List.map_congr_left
      intro other member
      apply overlay_congr
      · intro index below
        have apart := fun inside : Covers 4096 block.u32PhyAddr (other.u32PhyAddr + index) =>
          sited.apart (List.mem_map_of_mem member) inside ⟨by omega, by omega⟩
        have covers := @inHead (other.u32PhyAddr + index)
        simp only [Cursor.moved]
        constructor
        · omega
        · rintro ⟨low, high⟩
          refine ⟨?_, by omega⟩
          by_contra early
          exact apart (covers low (by omega))
      · intro a low _
        simp only [Cursor.moved] at low ⊢
        exact congrArg pbuf (by omega)
    rw [head]
    simp only [Cursor.moved] at tail
    rw [tail]

end

/-! ### What a walk reads -/

section

variable {flat : Nat → UInt8}

theorem readPass_of_empty (cache : List CacheBlock) (empty : cursor.len = 0) :
    readPass cache cursor pbuf = (pbuf, cursor) := by
  cases cache with
  | nil => rfl
  | cons => rw [readPass, if_pos empty]

theorem readPass_cons (rest : List CacheBlock) (below : block.u32PhyAddr + 4096 < 2 ^ 32)
    (fits : cursor.offset + cursor.len < 2 ^ 32) :
    readPass (block :: rest) cursor pbuf =
      readPass rest (cursor.moved (hitLen 4096 block.u32PhyAddr cursor.offset cursor.len))
        (patch pbuf cursor.pos (hitLen 4096 block.u32PhyAddr cursor.offset cursor.len)
          fun index => block.u8VtCache (cursor.offset - block.u32PhyAddr + index)) := by
  have served := @hitLen_le 4096 block.u32PhyAddr cursor.offset cursor.len
  by_cases empty : cursor.len = 0
  · rw [empty, Nat.le_zero] at served
    rw [readPass_of_empty _ empty, empty, served, moved_zero, patch_zero, readPass_of_empty _ empty]
  · rw [readPass, if_neg empty, cfgCachememSearchhit_eq below fits]
    dsimp only
    by_cases covers : Covers 4096 block.u32PhyAddr cursor.offset
    · have hit := @hitLen_of_covers 4096 _ _ cursor.len covers
      unfold Covers at covers
      rw [advance_eq served fits, u32Sub_of_le (by omega) covers.1, if_neg (by omega)]
    · have missed := @hitLen_of_not_covers 4096 _ cursor.offset cursor.len
        covers
      rw [missed, if_pos rfl, moved_zero, patch_zero]

theorem readPass_eq (base : IsWindow window)
    (sited : Sited window (phys cache)) (fits : cursor.offset + cursor.len < 2 ^ 32)
    (agrees : ∀ block ∈ cache, ∀ a, Covers 4096 block.u32PhyAddr a → cursor.offset ≤ a →
      a < cursor.offset + cursor.len → block.u8VtCache (a - block.u32PhyAddr) = flat a) :
    let after := walked 4096 (phys cache) cursor.offset cursor.len
    readPass cache cursor pbuf = (patch pbuf cursor.pos after
          fun index => flat (cursor.offset + index),
        cursor.moved after) := by
  induction cache generalizing cursor pbuf with
  | nil => simp [readPass, walked, moved_zero]
  | cons block rest ih =>
    have served := @hitLen_le 4096 block.u32PhyAddr cursor.offset cursor.len
    have inHead {a : Nat} := @hitLen_covers 4096 block.u32PhyAddr cursor.offset cursor.len a
    rw [readPass_cons rest (sited.below base (.head _)) fits, phys_cons, walked]
    revert served inHead
    generalize hitLen 4096 block.u32PhyAddr cursor.offset cursor.len = hit
    intro served inHead
    have copied : (patch pbuf cursor.pos hit fun index =>
          block.u8VtCache (cursor.offset - block.u32PhyAddr + index)) =
        patch pbuf cursor.pos hit fun index => flat (cursor.offset + index) := by
      apply patch_congr
      intro index _
      have covers := inHead (Nat.le_add_right cursor.offset index) (by omega)
      have start := inHead (le_refl cursor.offset) (by omega)
      rw [← agrees block (.head _) _ covers (by omega) (by omega)]
      unfold Covers at start
      exact congrArg _ (by omega)
    rw [copied, ih sited.tail (by simp only [Cursor.moved]; omega) ?_]
    · simp only [Cursor.moved, ← patch_append pbuf _ cursor.pos hit, add_assoc,
        Nat.sub_sub]
    · intro other member a covers low high
      simp only [Cursor.moved] at low high
      exact agrees other (.tail _ member) a covers (by omega) (by omega)

end

end Hfirmware.Config
