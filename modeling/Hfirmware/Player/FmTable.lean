/-
The channel table of the FM receiver.
-/

import Hfirmware.GuardedRun
import Hfirmware.Player.Fm

namespace Hfirmware.Player.Fm

open List Nat Option GuardedRun

variable {fm : Receiver}

def InRange (para : Para) (frequency : Int) : Prop :=
  para.freq_min ≤ frequency ∧ frequency ≤ para.freq_max

instance (para : Para) (frequency : Int) : Decidable (InRange para frequency) :=
  inferInstanceAs (Decidable (_ ∧ _))

def Para.range (para : Para) : Int × Int := (para.freq_min, para.freq_max)

structure Range (para : Para) : Prop where
  positive : 0 < para.freq_min
  ordered : para.freq_min ≤ para.freq_max
  room : 0 < para.scan_chns_max
  small : para.scan_chns_max ≤ 255

theorem inRange_wrap {para : Para} (range : Range para) (frequency : Int) :
    InRange para (wrap para frequency) := by
  have ordered := range.ordered
  unfold wrap InRange
  split
  · exact ⟨Int.le_refl _, ordered⟩
  · split
    · exact ⟨ordered, Int.le_refl _⟩
    · omega

structure Tuned (fm : Receiver) : Prop where
  range : Range fm.stPara
  tuned : ∀ frequency ∈ fm.tuned, InRange fm.stPara frequency
  current : InRange fm.stPara fm.freq_current

def Receiver.table (fm : Receiver) : Para × (Nat → Int) × Nat × Option Found :=
  (fm.stPara, fm.fm_tbl_freq, fm.chan_idx, fm.found)

section

theorem Tuned.set (tuned : Tuned fm) {frequency : Int} (inside : InRange fm.stPara frequency) :
    Tuned (fm.fmSetFrequency frequency) := by
  refine ⟨tuned.range, fun other member => ?_, ?_⟩
  · rcases mem_append.mp member with before | new
    · exact tuned.tuned other before
    · obtain rfl := mem_singleton.mp new
      exact inside
  · obtain ⟨low, high⟩ := inside
    change InRange fm.stPara (if _ then _ else _)
    rw [if_neg (by omega), if_neg (by omega)]
    exact ⟨low, high⟩

theorem scanLoop_spec {step freq_end : Int} {waits : List Wait} {scan : Scan} (tuned : Tuned fm)
    (start : InRange fm.stPara freq_end) (frequency : InRange fm.stPara scan.frequency)
    (last : 1 ≤ scan.index → InRange fm.stPara scan.p2.frequency)
    (before : 2 ≤ scan.index → InRange fm.stPara scan.p1.frequency) :
    let after := scanLoop step freq_end waits scan fm
    Tuned after.2 ∧ InRange fm.stPara after.1 ∧ after.2.table = fm.table := by
  induction waits generalizing scan fm with
  | nil => exact ⟨tuned, start, rfl⟩
  | cons wait _ ih =>
    have set := tuned.set frequency
    unfold scanLoop
    cases wait with
    | abort => exact ⟨set, start, rfl⟩
    | reading rssi snr =>
      dsimp only
      -- The third reading is the first that can end the scan.
      have counted : scan.counted ≤ scan.index + 1 := by
        unfold Scan.counted
        split <;> omega
      split
      · rename_i found
        exact ⟨set, last (by omega), rfl⟩
      · split
        · rename_i found
          exact ⟨set, before (by omega), rfl⟩
        · split
          · exact ⟨set, start, rfl⟩
          · exact @ih _
              _ set start
              (inRange_wrap tuned.range _) (fun _ => frequency)
              (fun two => last (le_of_succ_le_succ (le_trans two counted)))

theorem scanAlg_spec (tuned : Tuned fm) (next : Bool) (waits : List Wait) :
    Tuned (scanAlg next waits fm).2 ∧ InRange fm.stPara (scanAlg next waits fm).1 ∧
      (scanAlg next waits fm).2.table = fm.table := by
  obtain ⟨later, inside, table⟩ := @scanLoop_spec fm
    _ _ waits
    ⟨⟨0, 0, 0⟩, ⟨0, 0, 0⟩, ⟨0, 0, 0⟩, 0, fm.freq_current⟩ tuned tuned.current tuned.current
    (fun one => absurd one (not_succ_le_zero _)) (fun two => absurd two (not_succ_le_zero _))
  have para := congrArg (·.1) table
  refine ⟨later.set ?_, inside, table⟩
  rwa [show Receiver.stPara _ = fm.stPara from para]

end

structure Rising (para : Para) (tbl : Nat → Int) (chns : Nat) : Prop where
  inside : ∀ i < chns, InRange para (tbl i)
  rising : ∀ i j, i < j → j < chns → tbl i < tbl j

theorem foldl_fixed {Entry State : Type} {step : State → Entry → State} {entries : List Entry}
    {state : State} (fixed : ∀ entry ∈ entries, step state entry = state) :
    entries.foldl step state = state := by
  induction entries with
  | nil => rfl
  | cons entry _ ih =>
    rw [foldl_cons, fixed entry (.head _)]
    exact ih fun other member => fixed other (.tail _ member)

section

variable {para : Para} {tbl : Nat → Int} {chns : Nat}

section

variable (rising : Rising para tbl chns)
include rising

theorem Rising.clearRedundant : clearRedundant chns tbl = tbl := by
  apply foldl_fixed
  intro ii _
  apply foldl_fixed
  intro jj member
  have bounds := mem_range'_1.mp member
  exact if_neg (Int.ne_of_lt (rising.rising ii jj (by omega) (by omega)))

theorem Rising.nonzero (range : Range para) {i : Nat} (below : i < chns) : tbl i ≠ 0 := by
  have low := (rising.inside i below).1
  have positive := range.positive
  omega

theorem Rising.countChans (range : Range para) : countChans chns tbl = chns := by
  unfold Fm.countChans
  rw [filter_eq_self.mpr, length_range]
  intro _ member
  exact decide_eq_true (rising.nonzero range (mem_range.mp member))

theorem Rising.stripBlank (range : Range para) : stripBlank chns tbl = tbl := by
  apply foldl_fixed
  intro _ member
  exact if_neg (rising.nonzero range (mem_range.mp member))

theorem Rising.bubbleSort : bubbleSort chns tbl = tbl := by
  apply foldl_fixed
  intro _ _
  apply foldl_fixed
  intro jj member
  have below := mem_range.mp member
  exact if_neg (Int.not_lt.mpr (Int.le_of_lt (rising.rising jj (jj + 1) (by omega) (by omega))))

theorem Rising.add {freq : Int} (inside : InRange para freq) (above : ∀ i < chns, tbl i < freq) :
    Rising para (setEntry tbl chns freq) (chns + 1) := by
  have old : ∀ i < chns, setEntry tbl chns freq i = tbl i := fun i below =>
    if_neg (Nat.ne_of_lt below)
  have new : setEntry tbl chns freq chns = freq := if_pos rfl
  constructor
  · intro i below
    rcases Nat.lt_succ_iff_lt_or_eq.mp below with before | rfl
    · rw [old i before]
      exact rising.inside i before
    · rwa [new]
  · intro i j before below
    rcases Nat.lt_succ_iff_lt_or_eq.mp below with inner | rfl
    · rw [old i (lt_trans before inner), old j inner]
      exact rising.rising i j before inner
    · rw [old i before, new]
      exact above i before

end

end

def Receiver.frame (fm : Receiver) : Para × Option Found := (fm.stPara, fm.found)

variable {other : Receiver}

theorem frame_of_table (same : other.table = fm.table) : other.frame = fm.frame := by
  unfold Receiver.table at same
  obtain ⟨para, _, _, found⟩ := by simpa only [Prod.mk.injEq] using same
  unfold Receiver.frame
  rw [para, found]

theorem scanFullLoop_spec {rounds : List Round} {chan_idx : Nat} {freq_last snr_max : Int}
    {fm : Receiver} (tuned : Tuned fm) (room : chan_idx < fm.stPara.scan_chns_max)
    (rising : Rising fm.stPara fm.fm_tbl_freq chan_idx)
    (last : ∀ i < chan_idx, fm.fm_tbl_freq i ≤ freq_last) :
    let result := scanFullLoop rounds chan_idx freq_last snr_max fm
    Tuned result.2 ∧ result.1 ≤ fm.stPara.scan_chns_max ∧
      Rising fm.stPara result.2.fm_tbl_freq result.1 ∧ result.2.frame = fm.frame := by
  induction rounds generalizing chan_idx freq_last snr_max fm with
  | nil => exact ⟨tuned, le_of_lt room, rising, rfl⟩
  | cons round _ ih =>
    obtain ⟨sought, inside, table⟩ := scanAlg_spec tuned true round.waits
    unfold scanFullLoop
    generalize scanAlg true round.waits fm = result at sought inside table
    obtain ⟨freq, later⟩ := result
    have para : later.stPara = fm.stPara := congrArg (·.1) table
    have tbl : later.fm_tbl_freq = fm.fm_tbl_freq := congrArg (·.2.1) table
    have frame := frame_of_table table
    dsimp only
    split
    · dsimp only at sought
      rw [tbl]
      exact ⟨sought, le_of_lt room, rising, frame⟩
    · rename_i higher
      have added := rising.add inside fun i below =>
        Int.lt_of_le_of_lt (last i below) (Int.not_le.mp higher)
      rw [tbl]
      split
      · exact ⟨{ sought with }, room, added, frame⟩
      · rename_i more
        obtain ⟨left, _⟩ := not_or.mp (mt Bool.or_eq_true_iff.mpr more)
        obtain ⟨left, _⟩ := not_or.mp (mt Bool.or_eq_true_iff.mpr left)
        have next := Nat.lt_of_not_le (mt decide_eq_true left)
        have entered : Tuned { later with
            chan_idx := if !round.aborted && decide (snr_max < round.snr) then chan_idx
              else later.chan_idx
            fm_tbl_freq := setEntry fm.fm_tbl_freq chan_idx freq } :=
          { sought with }
        have below : ∀ i < chan_idx + 1, setEntry fm.fm_tbl_freq chan_idx freq i ≤ freq := by
          intro i before
          rcases Nat.lt_succ_iff_lt_or_eq.mp before with inner | rfl
          · have lower := added.rising i chan_idx inner (lt_succ_self _)
            rw [show setEntry fm.fm_tbl_freq chan_idx freq chan_idx = freq from if_pos rfl] at lower
            exact Int.le_of_lt lower
          · exact Int.le_of_eq (if_pos rfl)
        have run := @ih _ freq
          (if !round.aborted && decide (snr_max < round.snr) then round.snr else snr_max) _ entered
          (para.symm ▸ next) (para.symm ▸ added) below
        rw [← para]
        exact ⟨run.1, run.2.1, run.2.2.1, run.2.2.2.trans frame⟩

/-! ### The table and the index -/

structure TableInv (fm : Receiver) : Prop where
  tuned : Tuned fm
  index : fm.chan_idx < max 1 fm.stPara.scan_chns_avail
  avail : fm.stPara.scan_chns_avail ≤ fm.stPara.scan_chns_max
  entries : ∀ i < fm.stPara.scan_chns_avail, InRange fm.stPara (fm.fm_tbl_freq i)
  found : ∀ found, fm.found = some found → InRange fm.stPara found.freq ∧
    found.chan_idx < max 1 fm.stPara.scan_chns_avail

structure Sound (fm : Receiver) : Prop where
  index : fm.chan_idx < max 1 fm.stPara.scan_chns_avail
  avail : fm.stPara.scan_chns_avail ≤ fm.stPara.scan_chns_max
  entries : ∀ i < fm.stPara.scan_chns_avail, fm.fm_tbl_freq i ≠ 0
  tuned : ∀ frequency ∈ fm.tuned, fm.stPara.freq_min ≤ frequency ∧ frequency ≤ fm.stPara.freq_max

theorem TableInv.nonzero (inv : TableInv fm) {i : Nat} (below : i < fm.stPara.scan_chns_avail) :
    fm.fm_tbl_freq i ≠ 0 := by
  have low := (inv.entries i below).1
  have positive := inv.tuned.range.positive
  omega

theorem TableInv.sound (inv : TableInv fm) : Sound fm :=
  ⟨inv.index, inv.avail, fun _ => inv.nonzero, inv.tuned.tuned⟩

def Receiver.seen (fm : Receiver) : (Para × (Nat → Int) × Nat × Option Found) × List Int × Int :=
  (fm.table, fm.tuned, fm.freq_current)

theorem TableInv.of_seen (inv : TableInv fm) (same : other.seen = fm.seen) : TableInv other := by
  obtain ⟨⟨range, tuned, current⟩, index, avail, entries, found⟩ := inv
  obtain ⟨⟨para, tbl, idx, pending⟩, log, freq⟩ := by
    simpa only [Receiver.seen, Receiver.table, Prod.mk.injEq] using same
  rw [← para] at range tuned current index avail entries found
  exact ⟨⟨range, log ▸ tuned, freq ▸ current⟩, idx ▸ index, avail, tbl ▸ entries, pending ▸ found⟩

theorem Range.of_eq {para other : Para} (range : Range para) (bounds : other.range = para.range)
    (room : other.scan_chns_max = para.scan_chns_max) : Range other := by
  obtain ⟨low, high⟩ := Prod.mk.inj bounds
  exact ⟨low ▸ range.positive, low ▸ high ▸ range.ordered, room ▸ range.room, room ▸ range.small⟩

variable {index : Nat}

section

variable (inv : TableInv fm)
include inv

theorem TableInv.play (below : index < fm.stPara.scan_chns_avail) : TableInv (fm.play index) := by
  have tuned : Tuned { fm with stPara := { fm.stPara with frequency := fm.fm_tbl_freq index } } :=
    { inv.tuned with range := inv.tuned.range.of_eq rfl rfl }
  exact { inv with tuned := tuned.set (inv.entries index below) }

theorem TableInv.go (below : index < fm.stPara.scan_chns_avail) :
    TableInv (Receiver.play { fm with chan_idx := index } index) := by
  have moved : TableInv { fm with chan_idx := index } :=
    { inv with
      tuned := ⟨inv.tuned.range, inv.tuned.tuned, inv.tuned.current⟩
      index := lt_of_lt_of_le below (le_max_right _ _) }
  exact moved.play below

theorem TableInv.set {frequency : Int} (inside : InRange fm.stPara frequency) :
    TableInv (fm.fmSetFrequency frequency) :=
  { inv with tuned := inv.tuned.set inside }

theorem TableInv.semi (isNext : Bool) : TableInv (fmScanSemi isNext fm) := by
  have ordered := inv.tuned.range.ordered
  unfold fmScanSemi
  split
  · exact inv
  · dsimp only
    split
    · have inside :
          InRange fm.stPara (if isNext then fm.stPara.freq_min else fm.stPara.freq_max) := by
        cases isNext with
        | true => exact ⟨Int.le_refl _, ordered⟩
        | false => exact ⟨ordered, Int.le_refl _⟩
      exact (inv.set inside).of_seen rfl
    · exact inv.of_seen rfl

theorem TableInv.next : TableInv (fmNext fm) := by
  unfold fmNext
  split
  · exact inv
  · split
    · rename_i channels
      rw [Bool.and_eq_true, Bool.and_eq_true, decide_eq_true_eq] at channels
      apply inv.go
      split <;> omega
    · exact inv.semi true

theorem TableInv.prev : TableInv (fmPrev fm) := by
  have index := inv.index
  unfold fmPrev
  split
  · exact inv
  · split
    · rename_i channels
      rw [Bool.and_eq_true, decide_eq_true_eq] at channels
      apply inv.go
      split <;> omega
    · exact inv.semi false

theorem TableInv.setIdx (u32Idx : Nat) : TableInv (fmSetIdx u32Idx fm) := by
  unfold fmSetIdx
  split
  · exact inv
  · split
    · exact inv
    · rename_i inside
      exact inv.play (by omega)

theorem TableInv.search : TableInv (fmSearch fm) := by
  unfold fmSearch
  split
  · split
    · exact inv
    · exact inv.of_seen rfl
  · exact inv

theorem TableInv.taken : TableInv { fm with signal := none } :=
  inv.of_seen rfl

theorem TableInv.seek (next : Bool) (waits : List Wait) : TableInv (scanSemi next waits fm) := by
  obtain ⟨sought, inside, table⟩ := scanAlg_spec inv.tuned next waits
  unfold scanSemi
  generalize scanAlg next waits fm = result at sought inside table
  obtain ⟨para, tbl, index, _⟩ := by
    simpa only [Receiver.table, Prod.mk.injEq] using table
  refine ⟨{ sought with }, ?_, ?_, ?_, ?_⟩
  · rw [index, para]
    exact inv.index
  · rw [para]
    exact inv.avail
  · rw [para, tbl]
    exact inv.entries
  · intro _ isFound
    obtain rfl := some.inj isFound
    rw [para]
    exact ⟨inside, inv.index⟩

end

theorem sortChan_eq {fm : Receiver} (range : Range fm.stPara)
    (rising : Rising fm.stPara fm.fm_tbl_freq fm.stPara.scan_chns_avail) :
    ∃ chan_vip, sortChan fm = { fm with chan_idx := 0, stPara := { fm.stPara with chan_vip } } := by
  unfold sortChan
  dsimp only
  rw [rising.clearRedundant, rising.countChans range, rising.stripBlank range, rising.bubbleSort]
  exact ⟨_, rfl⟩

theorem TableInv.scan (inv : TableInv fm) (rounds : List Round) (quiet : fm.found = none) :
    TableInv (scanFull rounds fm) := by
  have started := inv.tuned.set ⟨Int.le_refl _, inv.tuned.range.ordered⟩
  obtain ⟨scanned, most, rising, frame⟩ := @scanFullLoop_spec rounds 0 _ (-128) _
    started inv.tuned.range.room ⟨nofun, nofun⟩ nofun
  unfold scanFull
  dsimp only
  generalize scanFullLoop rounds 0 fm.stPara.freq_min (-128) _ = result at scanned most rising frame
  obtain ⟨chns, later⟩ := result
  obtain ⟨para, found⟩ := by simpa only [Receiver.frame, Prod.mk.injEq] using frame
  change later.stPara = fm.stPara at para
  change chns ≤ fm.stPara.scan_chns_max at most
  change Rising fm.stPara later.fm_tbl_freq chns at rising
  rw [← para] at most rising
  obtain ⟨vip, sorted⟩ := @sortChan_eq
    { later with stPara := { later.stPara with scan_chns_avail := chns } }
    (scanned.range.of_eq rfl rfl) ⟨rising.inside, rising.rising⟩
  rw [sorted]
  have first : TableInv { later with
      chan_idx := 0
      stPara := { later.stPara with chan_vip := vip, scan_chns_avail := chns } } := by
    refine ⟨{ scanned with range := scanned.range.of_eq rfl rfl }, ?_, most, rising.inside, ?_⟩
    · exact lt_of_lt_of_le zero_lt_one (le_max_left _ _)
    · intro _ isPending
      rw [show later.found = none from found.trans quiet] at isPending
      cases isPending
  split
  · rename_i some
    exact (first.play some).of_seen rfl
  · exact first.of_seen rfl

/-! ### Guarded runs -/

def KeepsTable (fm : Receiver) : Action → Prop
  | .search | .semi _ | .next | .prev | .setIdx _ | .scan _ | .seek _ => True
  | .invalidate =>
    fm.scan_flag = false → fm.chan_idx = 0 ∧ ∀ found, fm.found = some found → found.chan_idx = 0
  | .enter =>
    ∀ found, fm.found = some found → found.freq ≠ found.freq_last → found.next = true →
      (fm.stPara.scan_chns_avail = 0 → fm.stPara.scan_chns_max ≤ 1) ∧
        (found.chan_idx + 1 = fm.stPara.scan_chns_avail →
          fm.stPara.scan_chns_avail < fm.stPara.scan_chns_max →
            fm.fm_tbl_freq fm.stPara.scan_chns_avail = 0)

section

variable (inv : TableInv fm)
include inv

theorem TableInv.invalidate (fits : KeepsTable fm .invalidate) : TableInv (fmInvalidate fm) := by
  unfold fmInvalidate
  split
  · exact inv
  · rename_i idle
    obtain ⟨first, foundFirst⟩ := fits (Bool.eq_false_iff.mpr idle)
    refine ⟨{ inv.tuned with range := inv.tuned.range.of_eq rfl rfl }, ?_, Nat.zero_le _, nofun, ?_⟩
    · rw [first]
      exact zero_lt_one
    · intro found isFound
      rw [foundFirst found isFound]
      exact ⟨(inv.found found isFound).1, zero_lt_one⟩

theorem TableInv.entered {avail : Nat} {freq : Int}
    (inside : InRange fm.stPara freq) (below : index < max 1 avail)
    (most : avail ≤ fm.stPara.scan_chns_max)
    (others : ∀ i < avail, i ≠ index → i < fm.stPara.scan_chns_avail) : TableInv { fm with
      found := none
      stPara := { fm.stPara with scan_chns_avail := avail }
      fm_tbl_freq := setEntry fm.fm_tbl_freq index freq
      chan_idx := index } := by
  refine ⟨{ inv.tuned with range := inv.tuned.range.of_eq rfl rfl }, below, most, ?_, nofun⟩
  intro i inner
  dsimp only [setEntry]
  split
  · exact inside
  · rename_i other
    exact inv.entries i (others i inner other)

theorem TableInv.enter (fits : KeepsTable fm .enter) {found : Found}
    (isFound : fm.found = some found) : TableInv (fm.enter found) := by
  obtain ⟨inside, _⟩ := inv.found found isFound
  have most := inv.avail
  have room := inv.tuned.range.room
  have small := inv.tuned.range.small
  unfold Receiver.enter
  split
  · exact
      { inv with
        tuned := ⟨inv.tuned.range, inv.tuned.tuned, inv.tuned.current⟩
        found := nofun }
  · rename_i changed
    dsimp only
    cases direction : found.next with
    | true =>
      obtain ⟨_, stale⟩ := fits found isFound changed direction
      unfold Found.entry
      rw [direction, if_pos rfl]
      split
      · by_cases zero : fm.fm_tbl_freq 0 = 0
        · have none : fm.stPara.scan_chns_avail = 0 := by
            by_contra some
            exact inv.nonzero (Nat.pos_of_ne_zero some) zero
          rw [if_pos ⟨rfl, zero⟩, none, show u8 (0 + 1) = 1 from rfl]
          exact inv.entered inside zero_lt_one room fun i below other => by omega
        · rw [if_neg fun both => zero both.2]
          exact inv.entered inside (by omega) most fun i below _ => below
      · by_cases last : found.chan_idx + 1 = fm.stPara.scan_chns_avail
        · have zero := stale last (by omega)
          rw [← last] at zero
          rw [if_pos ⟨rfl, zero⟩, ← last]
          have fitsByte : u8 (found.chan_idx + 1 + 1) = found.chan_idx + 1 + 1 := by
            unfold u8
            omega
          exact inv.entered inside (by omega) (by omega) fun i below other => by omega
        · have within : found.chan_idx + 1 < fm.stPara.scan_chns_avail := by omega
          rw [if_neg fun both => inv.nonzero within both.2]
          exact inv.entered inside (by omega) most fun i below _ => below
    | false =>
      apply inv.entered inside _ most fun i below _ => below
      unfold Found.entry
      rw [direction, if_neg nofun]
      split
      · omega
      · split <;> omega

theorem TableInv.step {action : Action} (fits : KeepsTable fm action) :
    TableInv (fm.step action) := by
  cases action with
  | search => exact inv.search
  | semi isNext => exact inv.semi isNext
  | next => exact inv.next
  | prev => exact inv.prev
  | setIdx u32Idx => exact inv.setIdx u32Idx
  | invalidate => exact inv.invalidate fits
  | scan rounds =>
    unfold Receiver.step
    dsimp only
    split
    · rename_i signalled
      exact inv.taken.scan rounds signalled.1
    · exact inv
  | seek waits =>
    unfold Receiver.step
    dsimp only
    split
    · exact inv.taken.seek _ waits
    · exact inv
  | enter =>
    unfold Receiver.step
    cases isFound : fm.found with
    | none => exact inv
    | some => exact inv.enter fits isFound

end

/-- The saved table: it is there, the frequency to start with is in the range, and so is
each channel that counts, with a vip channel also the first entry. -/
structure Loads (stored : Option Para) (tbl : Nat → Int) : Prop where
  range : Range (paraOf stored)
  frequency : InRange (paraOf stored) (paraOf stored).frequency
  avail : (paraOf stored).scan_chns_avail ≤ (paraOf stored).scan_chns_max
  entries : ∀ i < (paraOf stored).scan_chns_avail, InRange (paraOf stored) (tbl i)
  vip : (paraOf stored).chan_vip ≠ 0xff → InRange (paraOf stored) (tbl 0)

theorem lookup_lt {tbl : Nat → Int} {frequency : Int} (chns : Nat) :
    (List.range chns).foldl (fun idx i => if tbl i = frequency then i else idx) 0 < max 1 chns := by
  induction chns with
  | zero => exact zero_lt_one
  | succ chns _ =>
    rw [range_succ, foldl_append, foldl_cons, foldl_nil]
    split <;> omega

theorem tableInv_create {stored : Option Para} {tbl : Nat → Int} (loads : Loads stored tbl) :
    TableInv (fmCreate stored true (some tbl)) := by
  have range := loads.range
  have index := @lookup_lt tbl (paraOf stored).frequency (paraOf stored).scan_chns_avail
  have avail := loads.avail
  have room := range.room
  unfold fmCreate
  dsimp only
  rw [show (decide ((paraOf stored).scan_chns_max ≠ 0) && true) = true by
    rw [Bool.and_true]
    exact decide_eq_true (ne_of_gt range.room)]
  simp only [isNone_some, Bool.and_false, Bool.false_eq_true, if_false, if_true, getD_some]
  have inside := loads.frequency
  obtain ⟨low, high⟩ := loads.frequency
  refine ⟨⟨range.of_eq rfl rfl, ?_, ?_⟩, ?_, ?_, ?_, nofun⟩
  · intro _ member
    obtain rfl := mem_singleton.mp member
    exact inside
  · change InRange (paraOf stored) (if _ then _ else _)
    rwa [if_neg (by dsimp only; omega), if_neg (by dsimp only; omega)]
  · change (List.range (paraOf stored).scan_chns_avail).foldl _ 0 < max 1 (if _ then _ else _)
    refine lt_of_lt_of_le index ?_
    split <;> omega
  · change (if _ then _ else _) ≤ (paraOf stored).scan_chns_max
    split
    · exact room
    · exact avail
  · intro i below
    split at below
    · rename_i vip
      obtain rfl := lt_one_iff.mp below
      exact loads.vip vip.1
    · exact loads.entries i below

instance (fm : Receiver) (action : Action) : Decidable (KeepsTable fm action) := by
  unfold KeepsTable
  cases action with
  | enter =>
    dsimp only
    cases fm.found with
    | none => exact isTrue nofun
    | some found =>
      exact decidable_of_iff (_ → _ → _ ∧ _)
        ⟨fun all other same => Option.some.inj same ▸ all, fun all => all found rfl⟩
  | invalidate =>
    dsimp only
    cases fm.found with
    | none => exact decidable_of_iff (_ → _) ⟨fun all idle => ⟨all idle, nofun⟩, fun all idle =>
      (all idle).1⟩
    | some found =>
      exact decidable_of_iff (fm.scan_flag = false → fm.chan_idx = 0 ∧ found.chan_idx = 0)
        ⟨fun all idle => ⟨(all idle).1, fun _ same => Option.some.inj same ▸ (all idle).2⟩,
          fun all idle => ⟨(all idle).1, (all idle).2 found rfl⟩⟩
  | search | semi _ | next | prev | setIdx _ | scan _ | seek _ => exact isTrue trivial

theorem fm_table (stored : Option Para) (tbl : Nat → Int) (actions : List Action)
    (loads : Loads stored tbl)
    (fits : Along Receiver.step KeepsTable (fmCreate stored true (some tbl)) actions) :
    Sound (actions.foldl Receiver.step (fmCreate stored true (some tbl))) := by
  have preserved : ∀ fm action, TableInv fm → KeepsTable fm action → TableInv (fm.step action) :=
    fun _ _ inv fits => inv.step fits
  exact (invariant_of_along preserved (tableInv_create loads) fits).sound

def boardPara (chan_vip avail : Nat) : Para :=
  ⟨8, 22, 12, 4, 103900, 100, 108000, 87500, chan_vip, 25, avail⟩

def boardTable : Nat → Int := setEntry (setEntry (fun _ => 0) 0 90000) 1 95000

theorem fm_table_seek :
    Sound ([.next, .next, .prev, .setIdx 1, .semi true, .seek [.reading 0 9, .reading 40 9,
        .reading 0 9, .reading 0 9], .enter, .search, .scan [], .invalidate].foldl Receiver.step
      (fmCreate (some (boardPara 0xff 2)) true (some boardTable))) :=
  fm_table (some (boardPara 0xff 2)) boardTable _
    ⟨⟨by decide, by decide, by decide, by decide⟩, by decide, by decide, by decide,
      by decide⟩ (by decide)

/-- The default configuration with an empty table, an invalidation while the second
channel is played, and a scan forwards from an empty table. -/
theorem fm_table_vip : ¬Sound ([.next].foldl Receiver.step (fmCreate none true none)) ∧
    ¬Sound ([.next, .invalidate].foldl Receiver.step
      (fmCreate (some (boardPara 0xff 2)) true (some boardTable))) ∧
    ¬Sound ([.next, .seek [.reading 0 9, .reading 0 9, .reading 40 9, .reading 0 9],
      .enter].foldl Receiver.step (fmCreate (some (boardPara 0xff 0)) true none)) := by
  refine ⟨fun sound => ?_, fun sound => ?_, fun sound => ?_⟩
  · exact absurd (sound.tuned 0 (by decide)) (by decide)
  · exact absurd sound.index (by decide)
  · exact absurd sound.index (by decide)

end Hfirmware.Player.Fm
