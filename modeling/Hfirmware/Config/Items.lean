/-
Configuration items. The index table gives each item a header, a 32-bit sum and a
length, and a body behind it.
-/

import Hfirmware.Config.CacheTransparency

namespace Hfirmware.Config

open List Nat Option ByteImage Store BlockWalk

def cfgFetchOnce : Nat := 1024

def cfgDataWrMask : Nat := 2

structure HsCfgHeader where
  (u32Tag u32Len : Nat)

def HsCfgHeader.bytes (stHeader : HsCfgHeader) : Nat → UInt8 := fun index =>
  if index < 4 then wordBytes stHeader.u32Tag index else wordBytes stHeader.u32Len (index - 4)

def HsCfgHeader.ofBytes (buffer : Nat → UInt8) : HsCfgHeader :=
  { u32Tag := word buffer 0
    u32Len := word buffer 4 }

def cfgGetOffsetByIndex (para : Para) (store : Store) (index : Nat) :
    Option (Except CfgRes (Nat × Nat)) :=
  if para.bValid = false ∧ index ≠ bawAread then some (.error .errNoData)
  else if index ≠ bawAread then
    (hsCfgReadS store (cfgIdxAddr para index) zeroBytes cfgIndexLength).map (decodeIndex para index)
  else some (decodeIndex para index (hsCfgHalRead store.flash (cfgIdxAddr para index)))

def readHeader (store : Store) (u32BodyAddr : Nat) : Option HsCfgHeader :=
  (hsCfgReadS store u32BodyAddr zeroBytes cfgHeaderSize).map HsCfgHeader.ofBytes

def sumRounds (store : Store) : Nat → Nat → Nat → Nat → Option Nat
  | 0, _, _, _ => none
  | fuel + 1, u32TotalLen, u32BodyAddr, u32Sum =>
    if u32TotalLen = 0 then some u32Sum
    else
      let u32TmpLen := if u32TotalLen > cfgFetchOnce then cfgFetchOnce else u32TotalLen
      (hsCfgReadS store u32BodyAddr zeroBytes u32TmpLen).bind fun pu8Buf =>
        sumRounds store fuel (u32TotalLen - u32TmpLen) (u32 (u32BodyAddr + u32TmpLen))
          (u32 (u32Sum + byteSum pu8Buf 0 u32TmpLen))

def cfgChkData (store : Store) (stHeader : HsCfgHeader) (u32BodyAddr : Nat) :
    Option (CfgRes × Store) :=
  let (allocated, left) := store.malloc
  if allocated then
    (sumRounds left (stHeader.u32Len + 1) stHeader.u32Len u32BodyAddr 0).map fun u32Sum =>
      (if stHeader.u32Tag ≠ u32Sum then .error else .ok, left)
  else some (.error, left)

def cfgSetChkData (store : Store) (stHeader : HsCfgHeader) (u32BodyAddr : Nat) :
    Option (Except CfgRes HsCfgHeader × Store) :=
  let (allocated, left) := store.malloc
  if allocated then
    (sumRounds left (stHeader.u32Len + 1) stHeader.u32Len u32BodyAddr 0).map fun u32Sum =>
      (.ok { stHeader with u32Tag := u32Sum }, left)
  else some (.error .error, left)

def hsCfgGetPartDataByIndex (para : Para) (store : Store) (index : Nat) (buf : Nat → UInt8)
    (length offset : Nat) : Option (CfgRes × (Nat → UInt8) × Store) :=
  (cfgGetOffsetByIndex para store index).bind fun found =>
    match found with
    | .error enRes => some (enRes, buf, store)
    | .ok (u32BodyAddr, _) =>
      if index = soundInfo then
        (hsCfgReadS store (u32 (u32BodyAddr + cfgHeaderSize + offset)) buf length).map
          fun filled => (.ok, filled, store)
      else
        (readHeader store u32BodyAddr).bind fun stHeader =>
          (cfgChkData store stHeader (u32 (u32BodyAddr + cfgHeaderSize))).bind fun (enRes, left) =>
            if enRes ≠ .ok then some (enRes, buf, left)
            else
              (hsCfgReadS left (u32 (u32BodyAddr + cfgHeaderSize + offset)) buf length).map
                fun filled => (.ok, filled, left)

/-- `hs_cfg_setDataByIndex`. The bound test adds in 32 bits. -/
def hsCfgSetDataByIndex (para : Para) (store : Store) (index : Nat) (buf : Nat → UInt8)
    (length offset : Nat) : Option (CfgRes × Store) :=
  (cfgGetOffsetByIndex para store index).bind fun found =>
    match found with
    | .error enRes => some (enRes, store)
    | .ok (u32BodyAddr, u8Attr) =>
      if u8Attr &&& cfgDataWrMask = 0 then some (.errDataReadOnly, store)
      else
        (readHeader store u32BodyAddr).bind fun stHeader =>
          if stHeader.u32Len < u32 (offset + length) then some (.errParamter, store)
          else
            (hsCfgWriteS store (u32 (offset + u32 (u32BodyAddr + cfgHeaderSize))) buf length).bind
              fun (enRes, written) =>
                if enRes ≠ .ok then some (enRes, written)
                else
                  (cfgSetChkData written stHeader (u32 (u32BodyAddr + cfgHeaderSize))).bind
                    fun (outcome, checked) =>
                      match outcome with
                      | .error enRes => some (enRes, checked)
                      | .ok stHeader =>
                        hsCfgWriteS checked u32BodyAddr stHeader.bytes cfgHeaderSize

def Store.byteAt (store : Store) (a : Nat) : UInt8 :=
  match store.cache.find? fun block => Covers 4096 block.u32PhyAddr a with
  | some block => block.u8VtCache (a - block.u32PhyAddr)
  | none => store.flash (a % 2 ^ 28)

variable {a addr len : Nat} {starts : List Nat}

theorem dataAddr_eq (bounded : addr + 8 < 2 ^ 32) : u32 (addr + cfgHeaderSize) = addr + 8 :=
  u32_of_lt bounded

section

variable {window : Nat} {flat : Nat → UInt8} {store : Store}

def Holds (window : Nat) (flat : Nat → UInt8) (store : Store) : Prop :=
  Coherent window (fun _ => True) flat store.flash store.cache

theorem Holds.byteAt_eq (base : IsWindow window) (holds : Holds window flat store)
    (low : window ≤ a) (high : a < window + 2 ^ 24) : store.byteAt a = flat a := by
  unfold byteAt
  cases found : store.cache.find? fun block => Covers 4096 block.u32PhyAddr a with
  | some block =>
    have covers := find?_some found
    exact holds.cached block (List.mem_of_find?_eq_some found) a (by simpa using covers) trivial
  | none =>
    have address : a % 2 ^ 28 = a - window := by
      unfold IsWindow at base
      omega
    rw [address]
    apply holds.stored a low high trivial
    intro _ member covers
    obtain ⟨block, present, rfl⟩ := List.mem_map.mp member
    have missed := find?_eq_none.mp found block present
    simp [covers] at missed

theorem holds_byteAt (base : IsWindow window) (sited : Sited window (phys store.cache)) :
    Holds window store.byteAt store := by
  refine ⟨sited, ?_, ?_⟩
  · intro block member a covers _
    unfold byteAt
    cases found : store.cache.find? fun block => Covers 4096 block.u32PhyAddr a with
    | some =>
      have inOther := find?_some found
      have otherMember := List.mem_of_find?_eq_some found
      have same := covers.unique (sited.aligned _ (List.mem_map_of_mem member))
        (sited.aligned _ (List.mem_map_of_mem otherMember)) (by simpa using inOther)
      rw [inj_on_of_nodup_map sited.distinct member otherMember same]
    | none =>
      have missed := find?_eq_none.mp found block member
      simp [covers] at missed
  · intro a _ _ _ uncovered
    unfold byteAt
    have none : store.cache.find? (fun block => Covers 4096 block.u32PhyAddr a) = none := by
      apply find?_eq_none.mpr
      intro block member
      simpa using uncovered _ (List.mem_map_of_mem member)
    rw [none]
    unfold IsWindow at base
    exact congrArg store.flash (by omega)

section

variable (holds : Holds window flat store)
include holds

theorem Holds.malloc : Holds window flat { store with heap := store.heap.tail } := holds

theorem Holds.read (base : IsWindow window) {offset len : Nat}
    (fits : Fits window offset len) (order : InOrder 4096 (phys store.cache) offset len)
    (pbuf : Nat → UInt8) :
    hsCfgReadS store offset pbuf len = some (patch pbuf 0 len fun index => flat (offset + index)) :=
  hsCfgReadS_spec base holds fits order fun _ _ _ => trivial

theorem Holds.readHeader (base : IsWindow window)
    (fits : Fits window addr 8) (order : InOrder 4096 (phys store.cache) addr 8) :
    readHeader store addr =
      some { u32Tag := word flat addr
             u32Len := word flat (addr + 4) } := by
  have buffer := holds.read base fits order zeroBytes
  have field (start : Nat) (inside : start + 4 ≤ 8) :
      word (patch zeroBytes 0 8 fun index => flat (addr + index)) start =
        word flat (addr + start) := by
    apply word_congr
    intro index _
    rw [patch_inside _ _ (Nat.zero_le _) (by omega), Nat.sub_zero, add_assoc]
  rw [Config.readHeader, cfgHeaderSize, buffer, map_some, HsCfgHeader.ofBytes,
    field 0 (by omega), field 4 (by omega), add_zero]

end

def PiecesInOrder (starts : List Nat) (addr len : Nat) : Prop :=
  ∀ piece, 1024 * piece < len →
    InOrder 4096 starts (addr + 1024 * piece) (min 1024 (len - 1024 * piece))

theorem PiecesInOrder.tail (pieces : PiecesInOrder starts addr len) :
    PiecesInOrder starts (addr + 1024) (len - 1024) := by
  intro piece _
  have next := pieces (piece + 1) (by omega)
  have start : addr + 1024 * (piece + 1) = addr + 1024 + 1024 * piece := by omega
  have size : len - 1024 * (piece + 1) = len - 1024 - 1024 * piece := by omega
  rwa [start, size] at next

theorem Holds.sumRounds (holds : Holds window flat store) (base : IsWindow window)
    {fuel total sum : Nat} (fits : Fits window addr total)
    (pieces : PiecesInOrder (phys store.cache) addr total) (bounded : sum < 2 ^ 32)
    (enough : total < fuel) :
    sumRounds store fuel total addr sum = some (u32 (sum + byteSum flat addr total)) := by
  induction fuel generalizing total addr sum with
  | zero => omega
  | succ fuel ih =>
    have addrBounded := fits.bounded base
    obtain ⟨low, _⟩ := fits
    rw [Config.sumRounds]
    split
    · next none =>
      rw [none, byteSum, add_zero, u32_of_lt bounded]
    · have size : (if total > cfgFetchOnce then cfgFetchOnce else total) = min 1024 total := by
        unfold cfgFetchOnce
        split <;> omega
      have first := pieces 0 (by omega)
      rw [mul_zero, add_zero, Nat.sub_zero] at first
      have piece := holds.read base ⟨low, by omega⟩ first zeroBytes
      have summed : byteSum (patch zeroBytes 0 (min 1024 total) fun index => flat (addr + index)) 0
          (min 1024 total) = byteSum flat addr (min 1024 total) := by
        apply byteSum_congr
        intro index below
        rw [zero_add, patch_inside _ _ (Nat.zero_le _) (by omega), Nat.sub_zero]
      have whole := byteSum_add flat addr (min 1024 total) (total - min 1024 total)
      rw [add_sub_of_le (min_le_right _ _)] at whole
      dsimp only
      rw [size, piece, bind_some, summed, u32_of_lt (show addr + min 1024 total < 2 ^ 32 by
        omega), ih ⟨by omega, by omega⟩ ?_ (u32_lt _) (by omega), whole, ← add_assoc]
      · congr 1
        unfold u32
        omega
      · rcases le_total total 1024 with short | long
        · rw [min_eq_right short, Nat.sub_self]
          intro piece below
          omega
        · rw [min_eq_left long]
          exact pieces.tail

theorem Holds.chkData (holds : Holds window flat store) (base : IsWindow window)
    (succeed : ∀ outcome ∈ store.heap, outcome) (fits : Fits window addr len)
    (pieces : PiecesInOrder (phys store.cache) addr len) (tag : Nat) :
    cfgChkData store { u32Tag := tag, u32Len := len } addr =
      some (if tag = u32 (byteSum flat addr len) then .ok else .error,
        { store with heap := store.heap.tail }) := by
  have summed := holds.malloc.sumRounds base fits pieces (show 0 < 2 ^ 32 by decide)
    (lt_succ_self len)
  rw [zero_add] at summed
  simp only [cfgChkData, malloc_of_heap succeed, if_true, summed, map_some, ne_eq, ite_not]

end

/-! ### Items of a table -/

structure ItemAt (para : Para) (store : Store) (index addr attr len : Nat) : Prop where
  located : cfgGetOffsetByIndex para store index = some (.ok (addr, attr))
  length : word store.byteAt (addr + 4) = len

/-- A table of `count` entries whose items lie in the window, apart from each
other and from the table. -/
structure ValidTable (para : Para) (store : Store) (count : Nat) : Prop where
  tableFits : ∀ index < count, Fits (cfgWindow para) (cfgIdxAddr para index) 3
  itemFits : ∀ index < count, ∀ addr attr len, ItemAt para store index addr attr len →
    Fits (cfgWindow para) addr (8 + len)
  apart : ∀ first < count, ∀ second < count, first ≠ second →
    ∀ addr attr len addr' attr' len', ItemAt para store first addr attr len →
      ItemAt para store second addr' attr' len' → addr + 8 + len ≤ addr' ∨ addr' + 8 + len' ≤ addr
  tableApart : ∀ index < count, ∀ entry < count, ∀ addr attr len,
    ItemAt para store index addr attr len →
      cfgIdxAddr para entry + 3 ≤ addr ∨ addr + 8 + len ≤ cfgIdxAddr para entry

structure ItemContract (para : Para) (store : Store) (count index : Nat) (buf : Nat → UInt8)
    (length offset addr attr len : Nat) : Prop where
  rejects : len < offset + length →
    ∀ after, hsCfgSetDataByIndex para store index buf length offset ≠ some (.ok, after)
  accepts : attr &&& cfgDataWrMask ≠ 0 → offset + length ≤ len →
    ∃ after, hsCfgSetDataByIndex para store index buf length offset = some (.ok, after)
  readsBack : ∀ after, hsCfgSetDataByIndex para store index buf length offset = some (.ok, after) →
    ∀ pbuf, ∃ last, hsCfgGetPartDataByIndex para after index pbuf length offset =
      some (.ok, patch pbuf 0 length buf, last)
  keepsBody : ∀ after, hsCfgSetDataByIndex para store index buf length offset = some (.ok, after) →
    ∀ a, addr + 8 ≤ a → a < addr + 8 + len →
      ¬(addr + 8 + offset ≤ a ∧ a < addr + 8 + offset + length) → after.byteAt a = store.byteAt a
  keepsSum : ∀ after, hsCfgSetDataByIndex para store index buf length offset = some (.ok, after) →
    word after.byteAt addr = u32 (byteSum after.byteAt (addr + 8) len) ∧
      word after.byteAt (addr + 4) = len
  keepsOthers : ∀ after,
    hsCfgSetDataByIndex para store index buf length offset = some (.ok, after) →
    ∀ other < count, other ≠ index → ∀ addr' attr' len', ItemAt para store other addr' attr' len' →
      ∀ a, addr' ≤ a → a < addr' + 8 + len' → after.byteAt a = store.byteAt a

def finalStarts (store : Store) (addr target length : Nat) : List Nat :=
  touched (touched (phys store.cache) target length) addr 8

/-- Every access of setting the part at `target` and getting it again stays in
the window and is in order. -/
structure Orderly (para : Para) (starts : List Nat) (index addr len target length : Nat) :
    Prop where
  fits : Fits (cfgWindow para) target length
  entry : InOrder 4096 starts (cfgIdxAddr para index) 3
  header : InOrder 4096 starts addr 8
  data : InOrder 4096 starts target length
  pieces : PiecesInOrder starts (addr + 8) len

variable {target : Nat}

theorem InOrder_of_touched {length offset : Nat}
    (order : InOrder 4096 (touched starts target length) offset len) :
    InOrder 4096 starts offset len :=
  order.sublist (sublist_append_left _ _)

section

variable {para : Para} {store : Store} {index addr attr len offset length : Nat} {buf : Nat → UInt8}

theorem Holds.byteAt_fits {flat : Nat → UInt8} (holds : Holds (cfgWindow para) flat store)
    {start size : Nat} (fits : Fits (cfgWindow para) start size) (low : start ≤ a)
    (high : a < start + size) : store.byteAt a = flat a := by
  obtain ⟨below, above⟩ := fits
  exact holds.byteAt_eq (cfgWindow_isWindow para) (by omega) (by omega)

theorem cfgGetOffsetByIndex_congr {after : Store} {flat flat' : Nat → UInt8}
    (holds : Holds (cfgWindow para) flat store) (holds' : Holds (cfgWindow para) flat' after)
    (flash : after.flash = store.flash) (fits : Fits (cfgWindow para) (cfgIdxAddr para index) 3)
    (order : InOrder 4096 (phys store.cache) (cfgIdxAddr para index) 3)
    (order' : InOrder 4096 (phys after.cache) (cfgIdxAddr para index) 3)
    (same : ∀ k < 3, flat' (cfgIdxAddr para index + k) = flat (cfgIdxAddr para index + k)) :
    cfgGetOffsetByIndex para after index = cfgGetOffsetByIndex para store index := by
  have base := cfgWindow_isWindow para
  simp only [cfgGetOffsetByIndex, cfgIndexLength, holds.read base fits order,
    holds'.read base fits order', flash, map_some]
  rw [decodeIndex_congr]
  intro k below
  rw [patch_inside _ _ (Nat.zero_le _) (by omega),
    patch_inside _ _ (Nat.zero_le _) (by omega), Nat.sub_zero]
  exact same k below

def rewrittenItem (bytes : Nat → UInt8) (addr len target length : Nat) (buf : Nat → UInt8) :
    Nat → UInt8 :=
  let body := patch bytes target length buf
  patch body addr 8
    { u32Tag := u32 (byteSum body (addr + 8) len)
      u32Len := len : HsCfgHeader }.bytes

section

variable {bytes : Nat → UInt8}

theorem rewrittenItem_outside (inside : offset + length ≤ len)
    (outside : a < addr ∨ addr + 8 + len ≤ a) :
    rewrittenItem bytes addr len (addr + 8 + offset) length buf a = bytes a := by
  unfold rewrittenItem
  rw [patch_outside _ _ (by omega), patch_outside _ _ (by omega)]

theorem rewrittenItem_body (behind : addr + 8 ≤ a) :
    rewrittenItem bytes addr len target length buf a = patch bytes target length buf a := by
  unfold rewrittenItem
  rw [patch_outside _ _ (by omega)]

theorem rewrittenItem_sum (target : Nat) :
    word (rewrittenItem bytes addr len target length buf) addr =
      u32 (byteSum (rewrittenItem bytes addr len target length buf) (addr + 8) len) := by
  have body : byteSum (rewrittenItem bytes addr len target length buf) (addr + 8) len =
      byteSum (patch bytes target length buf) (addr + 8) len :=
    byteSum_congr len fun index _ => rewrittenItem_body (Nat.le_add_right _ _)
  rw [body]
  apply word_eq_of_wordBytes (u32_lt _)
  intro index below
  unfold rewrittenItem
  rw [patch_inside _ _ (Nat.le_add_right _ _) (by omega), Nat.add_sub_cancel_left,
    HsCfgHeader.bytes, if_pos below]

theorem rewrittenItem_len (bounded : len < 2 ^ 32) (target : Nat) :
    word (rewrittenItem bytes addr len target length buf) (addr + 4) = len := by
  apply word_eq_of_wordBytes bounded
  intro index below
  unfold rewrittenItem
  rw [patch_inside _ _ (by omega) (by omega), HsCfgHeader.bytes, if_neg (by omega)]
  exact congrArg _ (by omega)

end

theorem hsCfgSetDataByIndex_accepted (sited : Sited (cfgWindow para) (phys store.cache))
    (succeed : ∀ outcome ∈ store.heap, outcome)
    (item : ItemAt para store index addr attr len) (writable : attr &&& cfgDataWrMask ≠ 0)
    (fits : Fits (cfgWindow para) addr (8 + len)) (accepted : u32 (offset + length) ≤ len)
    (orderly : Orderly para (finalStarts store addr (u32 (offset + (addr + 8))) length) index addr
      len (u32 (offset + (addr + 8))) length) :
    ∃ after, hsCfgSetDataByIndex para store index buf length offset = some (.ok, after) ∧
      Wrote (cfgWindow para) (fun _ => True)
        (rewrittenItem store.byteAt addr len (u32 (offset + (addr + 8))) length buf)
        (finalStarts store addr (u32 (offset + (addr + 8))) length) store after := by
  have base := cfgWindow_isWindow para
  have holds := holds_byteAt base sited
  have bounded := fits.bounded base
  have headerFits : Fits (cfgWindow para) addr 8 := ⟨fits.low, by have := fits.high; omega⟩
  have bodyFits : Fits (cfgWindow para) (addr + 8) len :=
    ⟨by have := fits.low; omega, by have := fits.high; omega⟩
  have header := holds.readHeader base headerFits
    (InOrder_of_touched (InOrder_of_touched orderly.header))
  have dataAddr := @dataAddr_eq addr (by omega)
  obtain ⟨written, dataRun, dataWrote⟩ := @hsCfgWriteS_spec _ _ _ buf base _ _ _ holds orderly.fits
    (InOrder_of_touched (InOrder_of_touched orderly.data)) succeed
  have pieces : PiecesInOrder (phys written.cache) (addr + 8) len := by
    intro piece below
    rw [dataWrote.starts]
    exact InOrder_of_touched (orderly.pieces piece below)
  have summed := (Holds.malloc dataWrote.coherent).sumRounds base bodyFits pieces
    (show 0 < 2 ^ 32 by decide) (lt_succ_self len)
  rw [zero_add] at summed
  have headerOrder : InOrder 4096 (phys written.cache) addr 8 := by
    rw [dataWrote.starts]
    exact InOrder_of_touched orderly.header
  have leftHeap := fun outcome member => dataWrote.heap outcome (mem_of_mem_tail member)
  obtain ⟨after, headerRun, headerWrote⟩ := @hsCfgWriteS_spec _ _ _
    { u32Tag := u32 (byteSum (patch store.byteAt (u32 (offset + (addr + 8))) length buf)
        (addr + 8) len)
      u32Len := len : HsCfgHeader }.bytes
    base { written with heap := written.heap.tail } _ _ (Holds.malloc dataWrote.coherent)
    headerFits headerOrder leftHeap
  refine ⟨after, ?_, ?_⟩
  · have mallocked := malloc_of_heap dataWrote.heap
    rw [item.length] at header
    simp only [hsCfgSetDataByIndex, item.located, bind_some, if_neg writable, header,
      dataAddr, if_neg (not_lt.mpr accepted), dataRun, ne_eq, not_true_eq_false, if_false,
      cfgSetChkData, mallocked, if_true, summed, map_some]
    exact headerRun
  · obtain ⟨flash, heap, coherent, starts⟩ := headerWrote
    refine ⟨flash.trans dataWrote.flash, heap, coherent, ?_⟩
    rw [starts, finalStarts, ← dataWrote.starts]

section

variable {flat : Nat → UInt8} (holds : Holds (cfgWindow para) flat store)
  (succeed : ∀ outcome ∈ store.heap, outcome = true)
  (located : cfgGetOffsetByIndex para store index = some (.ok (addr, attr)))
  (size : word flat (addr + 4) = len) (fits : Fits (cfgWindow para) addr (8 + len))
  (inside : offset + length ≤ len) (header : InOrder 4096 (phys store.cache) addr 8)
  (data : InOrder 4096 (phys store.cache) (addr + 8 + offset) length)
  (pieces : PiecesInOrder (phys store.cache) (addr + 8) len)
include holds succeed located size fits inside header data pieces

theorem hsCfgGetPartDataByIndex_checked (checked : index ≠ soundInfo) (pbuf : Nat → UInt8) :
    hsCfgGetPartDataByIndex para store index pbuf length offset =
      some (if word flat addr = u32 (byteSum flat (addr + 8) len) then
          (.ok, patch pbuf 0 length (fun k => flat (addr + 8 + offset + k)),
            { store with heap := store.heap.tail })
        else (.error, pbuf, { store with heap := store.heap.tail })) := by
  have base := cfgWindow_isWindow para
  have bounded := fits.bounded base
  obtain ⟨low, _⟩ := fits
  have dataAddr := @dataAddr_eq addr (by omega)
  have partAddr : u32 (addr + cfgHeaderSize + offset) = addr + 8 + offset :=
    u32_of_lt (by unfold cfgHeaderSize; omega)
  have dataFits : Fits (cfgWindow para) (addr + 8 + offset) length := ⟨by omega, by omega⟩
  have headerRead := holds.readHeader base ⟨low, by omega⟩ header
  have check := holds.chkData base succeed ⟨by omega, by omega⟩ pieces (word flat addr)
  -- The outcome of the check is fixed before the rest is unfolded.
  by_cases sum : word flat addr = u32 (byteSum flat (addr + 8) len)
  · rw [if_pos sum] at check ⊢
    simp only [hsCfgGetPartDataByIndex, located, bind_some, if_neg checked, headerRead, size,
      dataAddr, check, ne_eq, not_true_eq_false, if_false, partAddr,
      holds.malloc.read base dataFits data, map_some]
  · rw [if_neg sum] at check ⊢
    simp only [hsCfgGetPartDataByIndex, located, bind_some, if_neg checked, headerRead, size,
      dataAddr, check, ne_eq, reduceCtorEq, not_false_eq_true, if_true]

theorem hsCfgGetPartDataByIndex_valid (sum : word flat addr = u32 (byteSum flat (addr + 8) len))
    (pbuf : Nat → UInt8) :
    ∃ last, hsCfgGetPartDataByIndex para store index pbuf length offset =
      some (.ok, patch pbuf 0 length (fun k => flat (addr + 8 + offset + k)), last) := by
  by_cases sound : index = soundInfo
  · have base := cfgWindow_isWindow para
    have bounded := fits.bounded base
    obtain ⟨low, high⟩ := fits
    have partAddr : u32 (addr + cfgHeaderSize + offset) = addr + 8 + offset :=
      u32_of_lt (by unfold cfgHeaderSize; omega)
    have dataFits : Fits (cfgWindow para) (addr + 8 + offset) length := ⟨by omega, by omega⟩
    refine ⟨store, ?_⟩
    simp only [hsCfgGetPartDataByIndex, located, bind_some, if_pos sound, partAddr,
      holds.read base dataFits data, map_some]
  · refine ⟨{ store with heap := store.heap.tail }, ?_⟩
    rw [hsCfgGetPartDataByIndex_checked holds succeed located size fits inside header data pieces
      sound, if_pos sum]

end

section

variable {count : Nat} {after : Store} {starts : List Nat}

theorem Wrote.item_readsBack (table : ValidTable para store count) (listed : index < count)
    (sited : Sited (cfgWindow para) (phys store.cache))
    (item : ItemAt para store index addr attr len) (inside : offset + length ≤ len)
    (orderly : Orderly para (finalStarts store addr (addr + 8 + offset) length) index addr len
      (addr + 8 + offset) length) (wrote : Wrote (cfgWindow para) (fun _ => True)
      (rewrittenItem store.byteAt addr len (addr + 8 + offset) length buf)
      (finalStarts store addr (addr + 8 + offset) length) store after) (pbuf : Nat → UInt8) :
    ∃ last, hsCfgGetPartDataByIndex para after index pbuf length offset =
      some (.ok, patch pbuf 0 length buf, last) := by
  have base := cfgWindow_isWindow para
  have fits := table.itemFits index listed addr attr len item
  have bounded := fits.bounded base
  have holdsAfter := wrote.coherent
  have entryApart := table.tableApart index listed index listed addr attr len item
  have located : cfgGetOffsetByIndex para after index = some (.ok (addr, attr)) := by
    rw [← item.located]
    apply cfgGetOffsetByIndex_congr (holds_byteAt base sited) holdsAfter wrote.flash
      (table.tableFits index listed)
    · exact InOrder_of_touched (InOrder_of_touched orderly.entry)
    · rw [wrote.starts]
      exact orderly.entry
    · exact fun k below => rewrittenItem_outside inside (by omega)
  obtain ⟨last, got⟩ := hsCfgGetPartDataByIndex_valid holdsAfter wrote.heap located
    (rewrittenItem_len (by omega) _) fits inside (wrote.starts ▸ orderly.header)
    (wrote.starts ▸ orderly.data) (wrote.starts ▸ orderly.pieces) (rewrittenItem_sum _) pbuf
  refine ⟨last, got.trans ?_⟩
  rw [patch_congr pbuf fun k below => ?_]
  rw [rewrittenItem_body (by omega), patch_inside _ _ (by omega) (by omega),
    Nat.add_sub_cancel_left]

theorem Wrote.item_sum (fits : Fits (cfgWindow para) addr (8 + len))
    (wrote : Wrote (cfgWindow para) (fun _ => True)
      (rewrittenItem store.byteAt addr len target length buf) starts store after) :
    word after.byteAt addr = u32 (byteSum after.byteAt (addr + 8) len) ∧
      word after.byteAt (addr + 4) = len := by
  have bounded := fits.bounded (cfgWindow_isWindow para)
  have holdsAfter : Holds (cfgWindow para) _ after := wrote.coherent
  have afterBytes {a : Nat} (low : addr ≤ a) (high : a < addr + (8 + len)) :=
    holdsAfter.byteAt_fits fits low high
  have wordAfter (start : Nat) (below : start + 4 ≤ 8) : word after.byteAt (addr + start) =
        word (rewrittenItem store.byteAt addr len target length buf) (addr + start) :=
    word_congr fun k less => afterBytes (by omega) (by omega)
  have sumAfter : byteSum after.byteAt (addr + 8) len =
      byteSum (rewrittenItem store.byteAt addr len target length buf) (addr + 8) len :=
    byteSum_congr len fun k less => afterBytes (by omega) (by omega)
  refine ⟨?_, ?_⟩
  · rw [sumAfter, ← rewrittenItem_sum]
    exact wordAfter 0 (by omega)
  · rw [wordAfter 4 (by omega)]
    exact rewrittenItem_len (by omega) _

theorem itemContract_of_inside (table : ValidTable para store count) (listed : index < count)
    (sited : Sited (cfgWindow para) (phys store.cache)) (succeed : ∀ outcome ∈ store.heap, outcome)
    (item : ItemAt para store index addr attr len) (writable : attr &&& cfgDataWrMask ≠ 0)
    (inside : offset + length ≤ len)
    (orderly : Orderly para (finalStarts store addr (u32 (offset + (addr + 8))) length) index addr
      len (u32 (offset + (addr + 8))) length) :
    ItemContract para store count index buf length offset addr attr len := by
  have fits := table.itemFits index listed addr attr len item
  have bounded := fits.bounded (cfgWindow_isWindow para)
  have target : u32 (offset + (addr + 8)) = addr + 8 + offset := by
    rw [u32_of_lt (by omega)]
    omega
  have accepted : u32 (offset + length) ≤ len := by
    rwa [u32_of_lt (by omega)]
  obtain ⟨after, run, wrote⟩ := @hsCfgSetDataByIndex_accepted _ _ _ _ _ _ _ _ buf sited succeed item
    writable fits accepted orderly
  rw [target] at wrote orderly
  have holdsAfter : Holds (cfgWindow para) _ after := wrote.coherent
  have only : ∀ other, hsCfgSetDataByIndex para store index buf length offset =
      some (.ok, other) → after = other := by
    intro other found
    rw [run] at found
    cases found
    rfl
  refine ⟨fun past => absurd inside (by omega), fun _ _ => ⟨after, run⟩, ?_, ?_, ?_, ?_⟩
  · intro other found
    obtain rfl := only other found
    exact wrote.item_readsBack table listed sited item inside orderly
  · intro other found a low high untouched
    obtain rfl := only other found
    rw [holdsAfter.byteAt_fits fits (by omega) (by omega), rewrittenItem_body low,
      patch_outside _ _ untouched]
  · intro other found
    obtain rfl := only other found
    exact wrote.item_sum fits
  · intro other found second listed' different addr' attr' len' item' a low high
    obtain rfl := only other found
    have fits' := table.itemFits second listed' addr' attr' len' item'
    have apart := table.apart index listed second listed' (Ne.symm different) _ _ _ _ _ _ item item'
    rw [holdsAfter.byteAt_fits fits' low (by omega), rewrittenItem_outside inside (by omega)]

end

theorem hsCfgSetDataByIndex_refused (sited : Sited (cfgWindow para) (phys store.cache))
    (item : ItemAt para store index addr attr len) (fits : Fits (cfgWindow para) addr (8 + len))
    (header : attr &&& cfgDataWrMask ≠ 0 → InOrder 4096 (phys store.cache) addr 8)
    (refused : attr &&& cfgDataWrMask = 0 ∨ len < u32 (offset + length)) :
    ∀ after, hsCfgSetDataByIndex para store index buf length offset ≠ some (.ok, after) := by
  intro after found
  by_cases readOnly : attr &&& cfgDataWrMask = 0
  · simp [hsCfgSetDataByIndex, item.located, readOnly] at found
  · have headerRead := (holds_byteAt (cfgWindow_isWindow para) sited).readHeader
      (cfgWindow_isWindow para) ⟨fits.low, by have := fits.high; omega⟩ (header readOnly)
    rw [item.length] at headerRead
    simp [hsCfgSetDataByIndex, item.located, readOnly, headerRead,
      refused.resolve_left readOnly] at found

end

/-- Setting a part of an item keeps the contract exactly when the item is
read-only or the 32-bit sum of offset and length does not wrap to a value that
passes the bound test. -/
theorem itemContract_iff_not_wrapped (para : Para) (store : Store) (count index : Nat)
    (buf : Nat → UInt8) (length offset addr attr len : Nat) (table : ValidTable para store count)
    (listed : index < count) (sited : Sited (cfgWindow para) (phys store.cache))
    (succeed : ∀ outcome ∈ store.heap, outcome = true)
    (item : ItemAt para store index addr attr len)
    (header : attr &&& cfgDataWrMask ≠ 0 → InOrder 4096 (phys store.cache) addr 8)
    (orderly : attr &&& cfgDataWrMask ≠ 0 → u32 (offset + length) ≤ len →
      Orderly para (finalStarts store addr (u32 (offset + (addr + 8))) length) index addr len
        (u32 (offset + (addr + 8))) length) :
    ItemContract para store count index buf length offset addr attr len ↔
      ¬(attr &&& cfgDataWrMask ≠ 0 ∧ 2 ^ 32 ≤ offset + length ∧
        (offset + length) % 2 ^ 32 ≤ len) := by
  have fits := table.itemFits index listed addr attr len item
  have bounded := fits.bounded (cfgWindow_isWindow para)
  constructor
  · rintro contract ⟨writable, _, accepted⟩
    obtain ⟨after, run, _⟩ := @hsCfgSetDataByIndex_accepted _ _ _ _ _ _ _ _ buf sited succeed item
      writable fits accepted (orderly writable accepted)
    exact contract.rejects (by omega) after run
  · intro condition
    by_cases inside : attr &&& cfgDataWrMask ≠ 0 ∧ offset + length ≤ len
    · have accepted : u32 (offset + length) ≤ len := by
        rw [u32_of_lt (by omega)]
        exact inside.2
      exact itemContract_of_inside table listed sited succeed item inside.1 inside.2
        (orderly inside.1 accepted)
    · have refused : attr &&& cfgDataWrMask = 0 ∨ len < u32 (offset + length) := by
        unfold u32
        omega
      have never := @hsCfgSetDataByIndex_refused _ _ _ _ _ _ _ _ buf sited item fits header refused
      have nothing {claim : Store → Prop} (after : Store)
          (found : hsCfgSetDataByIndex para store index buf length offset = some (.ok, after)) :
          claim after := absurd found (never after)
      exact ⟨fun _ => never, fun writable within => absurd ⟨writable, within⟩ inside, nothing,
        nothing, nothing, nothing⟩

/-! ### Items inside one block -/

theorem touched_aligned (aligned : ∀ start ∈ starts, start % 4096 = 0) (offset len : Nat) :
    ∀ start ∈ touched starts offset len, start % 4096 = 0 := by
  intro start member
  rcases mem_append.mp member with old | new
  · exact aligned start old
  · exact (mem_blocksOf (mem_filter.mp new).1).1

theorem inOrder_of_one_block (aligned : ∀ start ∈ starts, start % 4096 = 0) {offset : Nat}
    (inside : offset % 4096 + len ≤ 4096) : InOrder 4096 starts offset len := by
  apply pairwise_of_forall_mem_list
  intro earlier member _ _
  have earlierAligned := aligned earlier member
  omega

theorem orderly_of_one_block {para : Para} {store : Store} {index length : Nat}
    (sited : Sited (cfgWindow para) (phys store.cache))
    (itemInside : addr % 4096 + (8 + len) ≤ 4096)
    (entryInside : cfgIdxAddr para index % 4096 + 3 ≤ 4096)
    (fits : Fits (cfgWindow para) target length) (low : addr ≤ target)
    (high : target + length ≤ addr + 8 + len) :
    Orderly para (finalStarts store addr target length) index addr len target length := by
  have aligned := touched_aligned (touched_aligned sited.aligned target length) addr 8
  exact
    { fits := fits
      entry := inOrder_of_one_block aligned entryInside
      header := inOrder_of_one_block aligned (by omega)
      data := inOrder_of_one_block aligned (by omega)
      pieces := fun piece below => inOrder_of_one_block aligned (by omega) }

/-! The board of the flush example with one writable item: entry 3 of the index
table, at `0x20100` with a body of 16 zero bytes. -/

def itemStore : Store :=
  { flash := fun a =>
      if a = 0x20009 then 2 else if a = 0x2000a then 4 else if a = 0x2000b then 0
      else if a = 0x20104 then 16 else if 0x20100 ≤ a ∧ a < 0x20118 then 0
      else NorFlash.blank
    cache := []
    heap := [] }

theorem itemStore_item : ItemAt boardPara itemStore 3 0x20100 2 16 := ⟨rfl, rfl⟩

theorem itemStore_only {index attr : Nat} (listed : index < 4)
    (item : ItemAt boardPara itemStore index addr attr len) :
    index = 3 ∧ addr = 0x20100 ∧ len = 16 := by
  obtain ⟨located, length⟩ := item
  match index, listed with
  | 0, _ => cases located
  | 1, _ => cases located
  | 2, _ => cases located
  | 3, _ =>
    have same := itemStore_item.located.symm.trans located
    cases same
    exact ⟨rfl, rfl, length.symm⟩

theorem itemStore_table : ValidTable boardPara itemStore 4 := by
  refine ⟨?_, ?_, ?_, ?_⟩
  · intro index listed
    have address : cfgIdxAddr boardPara index = index * 3 + 0x20000 := u32_of_lt (by
      change index * 3 + 0x20000 < 2 ^ 32
      omega)
    have window : cfgWindow boardPara = 0 := rfl
    exact ⟨by omega, by omega⟩
  · intro index listed addr attr len item
    obtain ⟨_, rfl, rfl⟩ := itemStore_only listed item
    exact ⟨by decide, by decide⟩
  · intro _ listed _ listed' different addr attr len _ _ _ item item'
    exact absurd ((itemStore_only listed item).1.trans (itemStore_only listed' item').1.symm)
      different
  · intro index listed entry listed' addr attr len item
    obtain ⟨_, rfl, rfl⟩ := itemStore_only listed item
    have address : cfgIdxAddr boardPara entry = entry * 3 + 0x20000 := u32_of_lt (by
      change entry * 3 + 0x20000 < 2 ^ 32
      omega)
    omega

theorem itemStore_sited : Sited (cfgWindow boardPara) (phys itemStore.cache) :=
  ⟨by decide, by decide, by decide⟩

theorem itemContract_first_bytes :
    ItemContract boardPara itemStore 4 3 zeroBytes 8 0 0x20100 2 16 := by
  refine (itemContract_iff_not_wrapped boardPara itemStore 4 3 zeroBytes 8 0 0x20100 2 16
    itemStore_table (by decide) itemStore_sited (by decide) itemStore_item
    (fun _ => by decide) ?_).mpr
    (by decide)
  exact fun _ _ => orderly_of_one_block itemStore_sited (by decide) (by decide)
    ⟨by decide, by decide⟩ (by decide) (by decide)

/-- Eight bytes at offset `2 ^ 32 - 8` pass the bound test and overwrite the
header of the item. -/
theorem not_itemContract_wrapped :
    ¬ItemContract boardPara itemStore 4 3 zeroBytes 8 0xfffffff8 0x20100 2 16 := by
  intro contract
  obtain ⟨after, run, _⟩ := @hsCfgSetDataByIndex_accepted _ _ 3 0x20100 2 16
    0xfffffff8 8 _ itemStore_sited (by decide) itemStore_item (by decide)
    ⟨by decide, by decide⟩ (by decide) (orderly_of_one_block itemStore_sited (by decide)
      (by decide) ⟨by decide, by decide⟩ (by decide) (by decide))
  exact contract.rejects (by decide) after run

end Hfirmware.Config
