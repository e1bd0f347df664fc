/-
Setting an item when the heap fails.
-/

import Hfirmware.Config.Items

namespace Hfirmware.Config

open List Nat Option ByteImage BlockWalk

variable {para : Para} {store : Store} {index addr attr len offset length : Nat} {buf : Nat → UInt8}

def hsCfgGetDataByIndex (para : Para) (store : Store) (index : Nat) (buf : Nat → UInt8)
    (length : Nat) : Option (CfgRes × (Nat → UInt8) × Store) :=
  (cfgGetOffsetByIndex para store index).bind fun found =>
    match found with
    | .error enRes => some (enRes, buf, store)
    | .ok (u32BodyAddr, _) =>
      (readHeader store u32BodyAddr).bind fun stHeader =>
        (cfgChkData store stHeader (u32 (u32BodyAddr + cfgHeaderSize))).bind fun (enRes, left) =>
          if enRes ≠ .ok then some (enRes, buf, left)
          else
            (hsCfgReadS left (u32 (u32BodyAddr + cfgHeaderSize)) buf length).map
              fun filled => (.ok, filled, left)

def Store.recovered (store : Store) : Store := { store with heap := [] }

def got (outcome : Option (CfgRes × (Nat → UInt8) × Store)) : Option (CfgRes × (Nat → UInt8)) :=
  outcome.map fun (enRes, buf, _) => (enRes, buf)

structure SameGets (para : Para) (before after : Store) (index : Nat) : Prop where
  whole : ∀ buf length, (∀ addr attr len, ItemAt para before index addr attr len → length ≤ len) →
      got (hsCfgGetDataByIndex para after.recovered index buf length) =
        got (hsCfgGetDataByIndex para before.recovered index buf length)
  part : ∀ buf length offset,
    (∀ addr attr len, ItemAt para before index addr attr len → offset + length ≤ len) →
      got (hsCfgGetPartDataByIndex para after.recovered index buf length offset) =
        got (hsCfgGetPartDataByIndex para before.recovered index buf length offset)

/-- A call that does not return `HS_CFG_OK` has changed nothing that a get shows. -/
def FailsAtomically (para : Para) (store : Store) (count index : Nat) (buf : Nat → UInt8)
    (length offset : Nat) : Prop :=
  ∀ enRes after, hsCfgSetDataByIndex para store index buf length offset = some (enRes, after) →
    enRes ≠ .ok → ∀ other < count, SameGets para store after other

/-- The heap serves all that setting `length` bytes at `target` asks for: the blocks
of the body, the buffer of the sum and the blocks of the header. -/
structure Allocates (store : Store) (addr target length : Nat) : Prop where
  body : firstFailure (missing (phys store.cache) target length) store.heap = none
  sum : (store.heap.drop (missing (phys store.cache) target length).length).headD true = true
  header : firstFailure (missing (touched (phys store.cache) target length) addr 8)
    (store.heap.drop ((missing (phys store.cache) target length).length + 1)) = none

instance (store : Store) (addr target length : Nat) :
    Decidable (Allocates store addr target length) :=
  decidable_of_iff (_ ∧ _ ∧ _)
    ⟨fun ⟨body, sum, header⟩ => ⟨body, sum, header⟩, fun ⟨body, sum, header⟩ => ⟨body, sum, header⟩⟩

structure ReadsInOrder (para : Para) (store : Store) (count : Nat) (starts : List Nat) : Prop where
  entry : ∀ other < count, InOrder 4096 starts (cfgIdxAddr para other) 3
  item : ∀ other < count, ∀ addr attr len, ItemAt para store other addr attr len →
    InOrder 4096 starts addr (8 + len)

theorem ReadsInOrder.sublist {para : Para} {store : Store} {count : Nat} {starts fewer : List Nat}
    (order : ReadsInOrder para store count starts) (sublist : fewer.Sublist starts) :
    ReadsInOrder para store count fewer :=
  { entry := fun other listed => (order.entry other listed).sublist sublist
    item := fun other listed addr attr len item =>
      (order.item other listed addr attr len item).sublist sublist }

def shown (flat : Nat → UInt8) (addr len : Nat) (pbuf : Nat → UInt8) (length offset : Nat) :
    CfgRes × (Nat → UInt8) :=
  if word flat addr = u32 (byteSum flat (addr + 8) len) then
    (.ok, patch pbuf 0 length fun k => flat (addr + 8 + offset + k))
  else (.error, pbuf)

section

variable {flat : Nat → UInt8}

theorem pieces_of_item (order : InOrder 4096 (phys store.cache) addr (8 + len)) :
    PiecesInOrder (phys store.cache) (addr + 8) len :=
  fun piece below => order.mono (by omega) (by omega)

section

variable (holds : Holds (cfgWindow para) flat store)
include holds

theorem got_part (located : cfgGetOffsetByIndex para store index = some (.ok (addr, attr)))
    (checked : index ≠ soundInfo) (size : word flat (addr + 4) = len)
    (fits : Fits (cfgWindow para) addr (8 + len))
    (order : InOrder 4096 (phys store.cache) addr (8 + len)) (pbuf : Nat → UInt8)
    {length offset : Nat} (inside : offset + length ≤ len) :
    got (hsCfgGetPartDataByIndex para store.recovered index pbuf length offset) =
      some (shown flat addr len pbuf length offset) := by
  have run := @hsCfgGetPartDataByIndex_checked para store.recovered index addr attr len offset
    length flat holds nofun located size fits inside (order.mono (by omega) (by omega))
    (order.mono (by omega) (by omega)) (pieces_of_item order) checked pbuf
  rw [run, shown]
  split <;> rfl

theorem got_sound (located : cfgGetOffsetByIndex para store soundInfo = some (.ok (addr, attr)))
    (fits : Fits (cfgWindow para) addr (8 + len))
    (order : InOrder 4096 (phys store.cache) addr (8 + len)) (pbuf : Nat → UInt8)
    {length offset : Nat} (inside : offset + length ≤ len) :
    got (hsCfgGetPartDataByIndex para store.recovered soundInfo pbuf length offset) =
      some (.ok, patch pbuf 0 length fun k => flat (addr + 8 + offset + k)) := by
  have bounded := fits.bounded (cfgWindow_isWindow para)
  obtain ⟨low, high⟩ := fits
  have partAddr : u32 (addr + cfgHeaderSize + offset) = addr + 8 + offset :=
    u32_of_lt (by unfold cfgHeaderSize; omega)
  have found : cfgGetOffsetByIndex para store.recovered soundInfo = some (.ok (addr, attr)) :=
    located
  have bytes := @Holds.read _ flat store.recovered holds (cfgWindow_isWindow para)
    (addr + 8 + offset) length ⟨by omega, by omega⟩ (order.mono (by omega) (by omega)) pbuf
  simp only [hsCfgGetPartDataByIndex, found, bind_some, if_true, partAddr, bytes, map_some, got]

theorem got_whole (located : cfgGetOffsetByIndex para store index = some (.ok (addr, attr)))
    (size : word flat (addr + 4) = len) (fits : Fits (cfgWindow para) addr (8 + len))
    (order : InOrder 4096 (phys store.cache) addr (8 + len)) (pbuf : Nat → UInt8) {length : Nat}
    (inside : length ≤ len) :
    got (hsCfgGetDataByIndex para store.recovered index pbuf length) =
      some (shown flat addr len pbuf length 0) := by
  have base := cfgWindow_isWindow para
  have bounded := fits.bounded base
  obtain ⟨low, _⟩ := fits
  have dataAddr := @dataAddr_eq addr (by omega)
  have found : cfgGetOffsetByIndex para store.recovered index = some (.ok (addr, attr)) := located
  have held : Holds (cfgWindow para) flat store.recovered := holds
  have header := held.readHeader base ⟨low, by omega⟩ (order.mono (.refl) (by omega))
  have check := held.chkData base nofun ⟨by omega, by omega⟩ (pieces_of_item order) (word flat addr)
  have bytes := held.malloc.read base ⟨by omega, by omega⟩
    (order.mono (show addr ≤ addr + 8 by omega) (show addr + 8 + length ≤ _ by omega)) pbuf
  rw [shown]
  by_cases sum : word flat addr = u32 (byteSum flat (addr + 8) len)
  · rw [if_pos sum] at check ⊢
    simp only [hsCfgGetDataByIndex, found, bind_some, header, size, dataAddr, check, ne_eq,
      not_true_eq_false, if_false, bytes, map_some, got, add_zero]
  · rw [if_neg sum] at check ⊢
    simp only [hsCfgGetDataByIndex, found, bind_some, header, size, dataAddr, check, ne_eq,
      reduceCtorEq, not_false_eq_true, if_true, map_some, got]

end

end

def partlyRewritten (bytes : Nat → UInt8) (addr len target : Nat) (buf : Nat → UInt8)
    (body header : Nat) : Nat → UInt8 :=
  patch (patch bytes target body buf) addr header
    { u32Tag := u32 (byteSum (patch bytes target body buf) (addr + 8) len)
      u32Len := len : HsCfgHeader }.bytes

section

variable {bytes : Nat → UInt8} {target body header : Nat}

theorem partlyRewritten_outside (short : header ≤ 8) (low : addr + 8 ≤ target)
    (high : target + body ≤ addr + 8 + len) {a : Nat} (outside : a < addr ∨ addr + 8 + len ≤ a) :
    partlyRewritten bytes addr len target buf body header a = bytes a := by
  unfold partlyRewritten
  rw [patch_outside _ _ (by omega), patch_outside _ _ (by omega)]

theorem partlyRewritten_len (low : addr + 8 ≤ target) (size : word bytes (addr + 4) = len) :
    word (partlyRewritten bytes addr len target buf body header) (addr + 4) = len := by
  rw [← size]
  apply word_congr
  intro index below
  unfold partlyRewritten
  by_cases written : addr + 4 + index < addr + header
  · rw [patch_inside _ _ (by omega) written, HsCfgHeader.bytes, if_neg (by omega)]
    have place : addr + 4 + index - addr - 4 = index := by omega
    rw [place, wordBytes_word _ _ below]
  · rw [patch_outside _ _ (by omega), patch_outside _ _ (by omega)]

theorem partlyRewritten_same (short : header ≤ 8) (size : word bytes (addr + 4) = len)
    (sum : word bytes addr = u32 (byteSum bytes (addr + 8) len))
    (same : ∀ k < body, buf k = bytes (target + k)) :
    partlyRewritten bytes addr len target buf body header = bytes := by
  have bodySame : patch bytes target body buf = bytes := by
    funext a
    by_cases inside : target ≤ a ∧ a < target + body
    · rw [patch_inside _ _ inside.1 inside.2, same _ (by omega),
        add_sub_of_le inside.1]
    · exact patch_outside _ _ inside
  unfold partlyRewritten
  rw [bodySame, ← sum, ← size]
  funext a
  by_cases inside : addr ≤ a ∧ a < addr + header
  · obtain ⟨k, rfl⟩ := Nat.exists_eq_add_of_le inside.1
    rw [patch_inside _ _ inside.1 inside.2, Nat.add_sub_cancel_left, HsCfgHeader.bytes]
    split
    · next tag =>
      rw [wordBytes_word _ _ tag]
    · rw [wordBytes_word _ _ (by omega)]
      exact congrArg bytes (by omega)
  · exact patch_outside _ _ inside

end

structure Stopped (para : Para) (store after : Store) (addr len target length : Nat)
    (buf : Nat → UInt8) : Prop where
  flash : after.flash = store.flash
  starts : (phys after.cache).Sublist (finalStarts store addr target length)
  holds : ∃ header ≤ 8, Holds (cfgWindow para) (partlyRewritten store.byteAt addr len target buf
      (reached (phys store.cache) store.heap target length) header) after

section

theorem hsCfgSetDataByIndex_write (sited : Sited (cfgWindow para) (phys store.cache))
    (item : ItemAt para store index addr attr len) (writable : attr &&& cfgDataWrMask ≠ 0)
    (fits : Fits (cfgWindow para) addr (8 + len)) (inside : offset + length ≤ len)
    (order : InOrder 4096 (phys store.cache) addr (8 + len)) :
    hsCfgSetDataByIndex para store index buf length offset =
      (hsCfgWriteS store (addr + 8 + offset) buf length).bind fun (enRes, written) =>
        if enRes ≠ .ok then some (enRes, written)
        else
          (cfgSetChkData written
            { u32Tag := word store.byteAt addr
              u32Len := len } (addr + 8)).bind fun (outcome, checked) =>
            match outcome with
            | .error enRes => some (enRes, checked)
            | .ok stHeader => hsCfgWriteS checked addr stHeader.bytes 8 := by
  have base := cfgWindow_isWindow para
  have bounded := fits.bounded base
  obtain ⟨low, _⟩ := fits
  have dataAddr := @dataAddr_eq addr (by omega)
  have target : u32 (offset + (addr + 8)) = addr + 8 + offset := by
    rw [u32_of_lt (by omega)]
    omega
  have request : u32 (offset + length) = offset + length := u32_of_lt (by omega)
  have header := (holds_byteAt base sited).readHeader base ⟨low, by omega⟩
    (order.mono (.refl) (by omega))
  rw [item.length] at header
  simp only [hsCfgSetDataByIndex, item.located, bind_some, if_neg writable, header, dataAddr,
    target, request, if_neg (not_lt.mpr inside)]
  rfl

theorem cfgSetChkData_outcome {flat : Nat → UInt8} (holds : Holds (cfgWindow para) flat store)
    (fits : Fits (cfgWindow para) addr len) (pieces : PiecesInOrder (phys store.cache) addr len)
    (tag : Nat) :
    cfgSetChkData store { u32Tag := tag, u32Len := len } addr = some (if store.heap.headD true then
          .ok { u32Tag := u32 (byteSum flat addr len), u32Len := len }
        else .error .error, { store with heap := store.heap.tail }) := by
  have summed := holds.malloc.sumRounds (cfgWindow_isWindow para) fits pieces
    (show 0 < 2 ^ 32 by decide) (lt_succ_self len)
  rw [zero_add] at summed
  simp only [cfgSetChkData, Store.malloc, summed, map_some]
  split <;> rfl

theorem hsCfgSetDataByIndex_stops (sited : Sited (cfgWindow para) (phys store.cache))
    (item : ItemAt para store index addr attr len) (writable : attr &&& cfgDataWrMask ≠ 0)
    (fits : Fits (cfgWindow para) addr (8 + len)) (inside : offset + length ≤ len)
    (order : InOrder 4096 (finalStarts store addr (addr + 8 + offset) length) addr (8 + len)) :
    ∃ after, hsCfgSetDataByIndex para store index buf length offset =
        some (if Allocates store addr (addr + 8 + offset) length then .ok else .error, after) ∧
      Stopped para store after addr len (addr + 8 + offset) length buf := by
  have base := cfgWindow_isWindow para
  have bodyOrder := InOrder_of_touched order
  have itemOrder := InOrder_of_touched bodyOrder
  obtain ⟨low, high⟩ := fits
  obtain ⟨written, bodyRun, wrote⟩ := @hsCfgWriteS_stops _ _ _ buf base store
    (addr + 8 + offset) length (holds_byteAt base sited) ⟨by omega, by omega⟩
    (itemOrder.mono (by omega) (by omega))
  rw [hsCfgSetDataByIndex_write sited item writable ⟨low, high⟩ inside itemOrder, bodyRun,
    bind_some]
  have grown : (phys written.cache).Sublist (finalStarts store addr (addr + 8 + offset) length) :=
    wrote.starts.sublist.trans (sublist_append_left _ _)
  have bodyOnly : Holds (cfgWindow para) (partlyRewritten store.byteAt addr len (addr + 8 + offset)
      buf (reached (phys store.cache) store.heap (addr + 8 + offset) length) 0) written := by
    unfold partlyRewritten
    rw [patch_zero]
    exact wrote.coherent
  by_cases served : firstFailure (missing (phys store.cache) (addr + 8 + offset) length)
      store.heap = none
  · obtain ⟨starts, heap⟩ := wrote.complete served
    have whole := wrote.coherent
    have pieces : PiecesInOrder (phys written.cache) (addr + 8) len := by
      intro piece below
      rw [starts]
      exact bodyOrder.mono (by omega) (by omega)
    have sum := cfgSetChkData_outcome whole ⟨by omega, by omega⟩ pieces (word store.byteAt addr)
    rw [if_pos served]
    dsimp only
    rw [if_neg (fun different : CfgRes.ok ≠ .ok => different rfl), sum, bind_some]
    cases outcome : written.heap.headD true with
    | false =>
      have refused : ¬Allocates store addr (addr + 8 + offset) length := by
        intro allocates
        have available := allocates.sum
        rw [← heap, outcome] at available
        cases available
      rw [if_neg refused]
      exact ⟨_, rfl, wrote.flash, grown, 0, Nat.zero_le _, bodyOnly⟩
    | true =>
      obtain ⟨after, headerRun, headerWrote⟩ := @hsCfgWriteS_stops _ _ _
        { u32Tag := u32 (byteSum (patch store.byteAt (addr + 8 + offset) (reached
            (phys store.cache) store.heap (addr + 8 + offset) length) buf) (addr + 8) len)
          u32Len := len : HsCfgHeader }.bytes base
        { written with heap := written.heap.tail } addr 8 whole ⟨low, by omega⟩
        (by rw [starts]; exact bodyOrder.mono (.refl) (by omega))
      have all : Allocates store addr (addr + 8 + offset) length ↔
          firstFailure (missing (phys written.cache) addr 8) written.heap.tail = none := by
        rw [starts, heap, tail_drop]
        rw [heap] at outcome
        exact ⟨fun allocates => allocates.header, fun header => ⟨served, outcome, header⟩⟩
      refine ⟨after, headerRun.trans ?_, headerWrote.flash.trans wrote.flash, ?_, _, reached_le,
        headerWrote.coherent⟩
      · rw [if_congr all rfl rfl]
      · have final := headerWrote.starts.sublist
        rwa [starts] at final
  · rw [if_neg served, if_neg fun allocates : Allocates _ _ _ _ => served allocates.body]
    exact ⟨written, rfl, wrote.flash, grown, 0, Nat.zero_le _, bodyOnly⟩

end

section

variable {after : Store} {count : Nat}

theorem sameGets_of_holds (table : ValidTable para store count) (listed : index < count)
    (sited : Sited (cfgWindow para) (phys store.cache)) (flash : after.flash = store.flash)
    (holds : Holds (cfgWindow para) store.byteAt after)
    (order : ReadsInOrder para store count (phys store.cache))
    (order' : ReadsInOrder para store count (phys after.cache)) :
    SameGets para store after index := by
  have before := holds_byteAt (cfgWindow_isWindow para) sited
  have located : cfgGetOffsetByIndex para after.recovered index =
      cfgGetOffsetByIndex para store.recovered index :=
    cfgGetOffsetByIndex_congr before holds flash (table.tableFits index listed)
      (order.entry index listed) (order'.entry index listed) fun _ _ => rfl
  cases found : cfgGetOffsetByIndex para store index with
  | none =>
    have lost : cfgGetOffsetByIndex para store.recovered index = none := found
    constructor
    · intro buf length _
      simp only [hsCfgGetDataByIndex, located, lost, bind_none, got]
    · intro buf length offset _
      simp only [hsCfgGetPartDataByIndex, located, lost, bind_none, got]
  | some result =>
    have hit : cfgGetOffsetByIndex para store.recovered index = some result := found
    cases result with
    | error =>
      constructor
      · intro buf length _
        simp only [hsCfgGetDataByIndex, located, hit, bind_some, got, map_some]
      · intro buf length offset _
        simp only [hsCfgGetPartDataByIndex, located, hit, bind_some, got, map_some]
    | ok place =>
      obtain ⟨addr, attr⟩ := place
      have item : ItemAt para store index addr attr (word store.byteAt (addr + 4)) :=
        ⟨found, rfl⟩
      have fits := table.itemFits index listed _ _ _ item
      have reads := order.item index listed _ _ _ item
      have reads' := order'.item index listed _ _ _ item
      have found' : cfgGetOffsetByIndex para after index = some (.ok (addr, attr)) :=
        located.trans hit
      constructor
      · intro buf length inside
        rw [got_whole holds found' rfl fits reads' buf (inside _ _ _ item),
          got_whole before found rfl fits reads buf (inside _ _ _ item)]
      · intro buf length offset inside
        by_cases sound : index = soundInfo
        · subst sound
          rw [got_sound holds found' fits reads' buf (inside _ _ _ item),
            got_sound before found fits reads buf (inside _ _ _ item)]
        · rw [got_part holds found' sound rfl fits reads' buf (inside _ _ _ item),
            got_part before found sound rfl fits reads buf (inside _ _ _ item)]

theorem SameGets.body_eq {flat : Nat → UInt8} (same : SameGets para store after index)
    (sited : Sited (cfgWindow para) (phys store.cache))
    (item : ItemAt para store index addr attr len)
    (sum : word store.byteAt addr = u32 (byteSum store.byteAt (addr + 8) len))
    (fits : Fits (cfgWindow para) addr (8 + len)) (holds : Holds (cfgWindow para) flat after)
    (located : cfgGetOffsetByIndex para after index = some (.ok (addr, attr)))
    (size : word flat (addr + 4) = len) (order : InOrder 4096 (phys store.cache) addr (8 + len))
    (order' : InOrder 4096 (phys after.cache) addr (8 + len)) {k : Nat} (inside : k < len) :
    flat (addr + 8 + k) = store.byteAt (addr + 8 + k) := by
  have before := holds_byteAt (cfgWindow_isWindow para) sited
  have gets := same.part zeroBytes 1 k (by
    intro _ _ _ item'
    cases item.located.symm.trans item'.located
    rw [← item'.length, item.length]
    exact inside)
  have delivered (equal : (some (CfgRes.ok, patch zeroBytes 0 1 fun j => flat (addr + 8 + k + j)) :
        Option (CfgRes × (Nat → UInt8))) =
      some (.ok, patch zeroBytes 0 1 fun j => store.byteAt (addr + 8 + k + j))) :
      flat (addr + 8 + k) = store.byteAt (addr + 8 + k) :=
    congrFun (Prod.mk.inj (some.inj equal)).2 0
  by_cases sound : index = soundInfo
  · subst sound
    rw [got_sound holds located fits order' _ inside,
      got_sound before item.located fits order _ inside] at gets
    exact delivered gets
  · rw [got_part holds located sound size fits order' _ inside,
      got_part before item.located sound item.length fits order _ inside, shown, shown,
      if_pos sum] at gets
    split at gets
    · exact delivered gets
    · cases gets

theorem SameGets.refl : SameGets para store store index :=
  { whole := fun _ _ _ => rfl
    part := fun _ _ _ _ => rfl }

theorem Stopped.located (table : ValidTable para store count) (listed : index < count)
    (sited : Sited (cfgWindow para) (phys store.cache))
    (item : ItemAt para store index addr attr len) (inside : offset + length ≤ len)
    (order : ReadsInOrder para store count (finalStarts store addr (addr + 8 + offset) length))
    (stopped : Stopped para store after addr len (addr + 8 + offset) length buf) :
    cfgGetOffsetByIndex para after index = some (.ok (addr, attr)) := by
  obtain ⟨_, short, holds⟩ := stopped.holds
  have most := @reached_le (phys store.cache) store.heap (addr + 8 + offset) length
  have apart := table.tableApart index listed index listed addr attr len item
  have entry := order.entry index listed
  rw [← item.located]
  apply cfgGetOffsetByIndex_congr (holds_byteAt (cfgWindow_isWindow para) sited) holds stopped.flash
    (table.tableFits index listed)
  · exact InOrder_of_touched (InOrder_of_touched entry)
  · exact entry.sublist stopped.starts
  · exact fun k below => partlyRewritten_outside short (by omega) (by omega) (by omega)

end

/-- The item may be written and the request is inside it, but an allocation fails. -/
def Refuses (para : Para) (store : Store) (index : Nat) (buf : Nat → UInt8) (length offset : Nat) :
    Prop :=
  ∃ addr attr stHeader enRes after, cfgGetOffsetByIndex para store index = some (.ok (addr, attr)) ∧
    attr &&& cfgDataWrMask ≠ 0 ∧ readHeader store addr = some stHeader ∧
    u32 (offset + length) ≤ stHeader.u32Len ∧
    hsCfgSetDataByIndex para store index buf length offset = some (enRes, after) ∧ enRes ≠ .ok

theorem Refuses.inside (refuses : Refuses para store index buf length offset)
    (sited : Sited (cfgWindow para) (phys store.cache))
    (item : ItemAt para store index addr attr len) (fits : Fits (cfgWindow para) addr (8 + len))
    (order : InOrder 4096 (phys store.cache) addr (8 + len)) (bounded : offset + length < 2 ^ 32) :
    attr &&& cfgDataWrMask ≠ 0 ∧ offset + length ≤ len := by
  obtain ⟨_, _, stHeader, _, _, located, writable, header, inside, -⟩ := refuses
  cases item.located.symm.trans located
  have read := (holds_byteAt (cfgWindow_isWindow para) sited).readHeader (cfgWindow_isWindow para)
    ⟨fits.low, by have := fits.high; omega⟩ (order.mono (.refl) (by omega))
  rw [item.length] at read
  cases header.symm.trans read
  rw [u32_of_lt bounded] at inside
  exact ⟨writable, inside⟩

/-- What is not refused has changed nothing, or has succeeded. -/
theorem unchanged_of_not_refuses {enRes : CfgRes} {after : Store}
    (accepted : ¬Refuses para store index buf length offset)
    (run : hsCfgSetDataByIndex para store index buf length offset = some (enRes, after))
    (failed : enRes ≠ .ok) : after = store := by
  have called := run
  cases found : cfgGetOffsetByIndex para store index with
  | none =>
    rw [hsCfgSetDataByIndex, found] at run
    cases run
  | some result =>
    cases result with
    | error =>
      rw [hsCfgSetDataByIndex, found] at run
      cases run
      rfl
    | ok place =>
      obtain ⟨addr, attr⟩ := place
      simp only [hsCfgSetDataByIndex, found, bind_some] at run
      split at run
      · cases run
        rfl
      · rename_i writable
        cases header : readHeader store addr with
        | none =>
          rw [header] at run
          cases run
        | some stHeader =>
          rw [header, bind_some] at run
          split at run
          · cases run
            rfl
          · rename_i inside
            exact absurd ⟨addr, attr, stHeader, enRes, after, found, writable, header,
              not_lt.mp inside, called, failed⟩ accepted

/-- A failed call leaves all items as they were exactly if no allocation refuses it, or what was
written before is what was there; and when its reads are in order, those are the calls that the
heap does not serve. -/
theorem failed_write (para : Para) (store : Store) (count index : Nat) (buf : Nat → UInt8)
    (length offset : Nat) (table : ValidTable para store count) (listed : index < count)
    (sited : Sited (cfgWindow para) (phys store.cache))
    (sum : ∀ addr attr len, ItemAt para store index addr attr len →
      word store.byteAt addr = u32 (byteSum store.byteAt (addr + 8) len))
    (order : Refuses para store index buf length offset → offset + length < 2 ^ 32 ∧
      ∀ addr attr len, ItemAt para store index addr attr len →
        ReadsInOrder para store count (finalStarts store addr (addr + 8 + offset) length)) :
    (FailsAtomically para store count index buf length offset ↔
      (Refuses para store index buf length offset →
        ∀ addr attr len, ItemAt para store index addr attr len →
          ∀ k < reached (phys store.cache) store.heap (addr + 8 + offset) length,
            buf k = store.byteAt (addr + 8 + offset + k))) ∧
      ∀ addr attr len, ItemAt para store index addr attr len → offset + length < 2 ^ 32 →
        ReadsInOrder para store count (finalStarts store addr (addr + 8 + offset) length) →
        (Refuses para store index buf length offset ↔ attr &&& cfgDataWrMask ≠ 0 ∧
          offset + length ≤ len ∧ ¬Allocates store addr (addr + 8 + offset) length) := by
  have ordered {addr : Nat}
      (reads : ReadsInOrder para store count (finalStarts store addr (addr + 8 + offset) length)) :
      ReadsInOrder para store count (phys store.cache) :=
    reads.sublist ((sublist_append_left _ _).trans (sublist_append_left _ _))
  refine ⟨⟨fun atomic refuses addr attr len item k below => ?_, fun condition enRes after run failed
    other otherListed => ?_⟩, fun addr attr len item bounded reads => ?_⟩
  · obtain ⟨bounded, inOrder⟩ := order refuses
    have reads := inOrder addr attr len item
    have fits := table.itemFits index listed addr attr len item
    obtain ⟨writable, inside⟩ := refuses.inside sited item fits
      ((ordered reads).item index listed addr attr len item) bounded
    obtain ⟨_, _, _, enRes, after, -, -, -, -, run, failed⟩ := refuses
    obtain ⟨_, run', stopped⟩ := @hsCfgSetDataByIndex_stops _ _ _ _ _ _ _ _ buf sited item
      writable fits inside (reads.item index listed addr attr len item)
    cases run'.symm.trans run
    obtain ⟨header, short, holds⟩ := stopped.holds
    have most := @reached_le (phys store.cache) store.heap (addr + 8 + offset) length
    have same := (atomic _ _ run failed index listed).body_eq sited item
      (sum addr attr len item) fits holds
      (stopped.located table listed sited item inside reads)
      (partlyRewritten_len (by omega) item.length)
      ((ordered reads).item index listed addr attr len item)
      ((reads.sublist stopped.starts).item index listed addr attr len item)
      (show offset + k < len by omega)
    rwa [← add_assoc, partlyRewritten, patch_outside _ _ (by omega),
      patch_inside _ _ (by omega) (by omega), Nat.add_sub_cancel_left] at same
  · by_cases refuses : Refuses para store index buf length offset
    · obtain ⟨bounded, inOrder⟩ := order refuses
      obtain ⟨addr, attr, -, -, -, located, -⟩ := id refuses
      have item : ItemAt para store index addr attr (word store.byteAt (addr + 4)) := ⟨located, rfl⟩
      have reads := inOrder _ _ _ item
      have fits := table.itemFits index listed _ _ _ item
      obtain ⟨writable, inside⟩ := refuses.inside sited item fits
        ((ordered reads).item index listed _ _ _ item) bounded
      obtain ⟨_, run', stopped⟩ := @hsCfgSetDataByIndex_stops _ _ _ _ _ _ _ _ buf sited
        item writable fits inside (reads.item index listed _ _ _ item)
      cases run'.symm.trans run
      obtain ⟨header, short, holds⟩ := stopped.holds
      rw [partlyRewritten_same short rfl (sum _ _ _ item) (condition refuses _ _ _ item)] at holds
      exact sameGets_of_holds table otherListed sited stopped.flash holds (ordered reads)
        (reads.sublist stopped.starts)
    · rw [unchanged_of_not_refuses refuses run failed]
      exact SameGets.refl
  · have fits := table.itemFits index listed addr attr len item
    have itemOrder := (ordered reads).item index listed addr attr len item
    constructor
    · intro refuses
      obtain ⟨writable, inside⟩ := refuses.inside sited item fits itemOrder bounded
      obtain ⟨_, _, _, enRes, after, -, -, -, -, run, failed⟩ := refuses
      obtain ⟨_, run', -⟩ := @hsCfgSetDataByIndex_stops _ _ _ _ _ _ _ _ buf sited item
        writable fits inside (reads.item index listed addr attr len item)
      refine ⟨writable, inside, fun all => failed ?_⟩
      rw [if_pos all] at run'
      cases run'.symm.trans run
      rfl
    · rintro ⟨writable, inside, refused⟩
      obtain ⟨after, run, -⟩ := @hsCfgSetDataByIndex_stops _ _ _ _ _ _ _ _ buf sited item
        writable fits inside (reads.item index listed addr attr len item)
      rw [if_neg refused] at run
      have header := (holds_byteAt (cfgWindow_isWindow para) sited).readHeader
        (cfgWindow_isWindow para) ⟨fits.low, by have := fits.high; omega⟩
        (itemOrder.mono (.refl) (by omega))
      rw [item.length] at header
      exact ⟨addr, attr, _, .error, after, item.located, writable, header,
        by rwa [u32_of_lt bounded], run, nofun⟩

/-! The item of the flush example on a heap that serves the first block and then
refuses the buffer of the sum. -/

theorem ItemAt.withHeap {para : Para} {store : Store} {index addr attr len : Nat}
    (heap : List Bool) : ItemAt para { store with heap } index addr attr len ↔
      ItemAt para store index addr attr len :=
  ⟨fun item => ⟨item.located, item.length⟩, fun item => ⟨item.located, item.length⟩⟩

theorem ValidTable.withHeap {para : Para} {store : Store} {count : Nat} (heap : List Bool)
    (table : ValidTable para store count) : ValidTable para { store with heap } count := by
  obtain ⟨tableFits, itemFits, apart, tableApart⟩ := table
  constructor
  · exact tableFits
  · exact fun index listed addr attr len item =>
      itemFits index listed addr attr len ((ItemAt.withHeap heap).mp item)
  · exact fun first listed second listed' different addr attr len addr' attr' len' item item' =>
      apart first listed second listed' different addr attr len addr' attr' len'
        ((ItemAt.withHeap heap).mp item) ((ItemAt.withHeap heap).mp item')
  · exact fun index listed entry listed' addr attr len item =>
      tableApart index listed entry listed' addr attr len ((ItemAt.withHeap heap).mp item)

def tightStore : Store := { itemStore with heap := [true, false] }

theorem tightStore_reads {target length : Nat} : ReadsInOrder boardPara tightStore 4
    (finalStarts tightStore 0x20100 target length) := by
  have aligned := touched_aligned (touched_aligned itemStore_sited.aligned target length) 0x20100 8
  constructor
  · intro other listed
    have address : cfgIdxAddr boardPara other = other * 3 + 0x20000 := u32_of_lt (by
      change other * 3 + 0x20000 < 2 ^ 32
      omega)
    have place : (other * 3 + 0x20000) % 4096 = other * 3 := by
      rw [show 0x20000 = 32 * 4096 from rfl, add_mul_mod_self_right]
      exact mod_eq_of_lt (by omega)
    rw [address]
    exact inOrder_of_one_block aligned (by omega)
  · intro other listed _ _ _ item
    obtain ⟨_, rfl, rfl⟩ := itemStore_only listed ((ItemAt.withHeap [true, false]).mp item)
    exact inOrder_of_one_block aligned (by decide)

/-- The zero that is there already may be written although the call fails. -/
theorem failed_write_same_byte : FailsAtomically boardPara tightStore 4 3 zeroBytes 1 0 := by
  have only {addr attr len : Nat} (item : ItemAt boardPara tightStore 3 addr attr len) :=
    itemStore_only (by decide) ((ItemAt.withHeap [true, false]).mp item)
  refine (failed_write boardPara tightStore 4 3 zeroBytes 1 0 (itemStore_table.withHeap _)
    (by decide) itemStore_sited ?_ ?_).1.mpr ?_
  · intro addr attr len item
    obtain ⟨_, rfl, rfl⟩ := only item
    decide +kernel
  · refine fun _ => ⟨by decide, fun addr attr len item => ?_⟩
    obtain ⟨_, rfl, rfl⟩ := only item
    exact tightStore_reads
  · intro _ addr attr len item
    obtain ⟨_, rfl, rfl⟩ := only item
    decide +kernel

/-- Another byte stays in the body while the sum is the old one, and the item that
could be read before the failed call is no longer delivered. -/
theorem failed_write_loses_item : ¬FailsAtomically boardPara tightStore 4 3 (fun _ => 1) 1 0 := by
  intro atomic
  have before : (got (hsCfgGetDataByIndex boardPara tightStore.recovered 3 zeroBytes 1)).map
      Prod.fst = some .ok := by decide +kernel
  have run : (hsCfgSetDataByIndex boardPara tightStore 3 (fun _ => 1) 1 0).map
      (fun (enRes, after) => (enRes, (got (hsCfgGetDataByIndex boardPara after.recovered 3 zeroBytes
        1)).map Prod.fst)) = some (.error, some .error) := by decide +kernel
  obtain ⟨⟨enRes, after⟩, called, outcome⟩ := map_eq_some_iff.mp run
  cases Prod.mk.inj outcome with
  | intro failed unreadable =>
    subst failed
    have same := (atomic .error after called nofun 3 (by decide)).whole zeroBytes 1 (by
      intro _ _ _ item
      obtain ⟨_, _, rfl⟩ := itemStore_only (by decide) ((ItemAt.withHeap [true, false]).mp item)
      decide)
    rw [same, before] at unreadable
    cases unreadable

end Hfirmware.Config
