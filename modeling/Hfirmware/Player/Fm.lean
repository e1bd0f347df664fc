/-
The FM receiver: a table of the channels that a scan has found, the index into it, and
the tuner.
-/

import Hfirmware.FixedWidth

namespace Hfirmware.Player.Fm

/-- `hs_fmpara_t`, without the volume, the delay and the thresholds of stereo. -/
structure Para where
  (rssi_th rssi_th_stereo lrhc_th snr_th frequency freq_step : Int)
  (freq_max freq_min : Int)
  (chan_vip scan_chns_max scan_chns_avail : Nat)

inductive Signal where
  | scan
  | semi (next : Bool)
deriving DecidableEq

structure Found where
  next : Bool
  (freq freq_last : Int)
  chan_idx : Nat

/-- `hs_fm_t` of a receiver that is started, and `FMD0`. `fm_tbl` if there is a table. -/
structure Receiver where
  stPara : Para
  fm_tbl : Bool
  fm_tbl_freq : Nat → Int
  chan_idx : Nat
  freq_vip : Int
  (scan_flag scan_1by1 : Bool)
  signal : Option Signal
  found : Option Found
  freq_current : Int
  tuned : List Int

def setEntry (tbl : Nat → Int) (index : Nat) (freq : Int) : Nat → Int :=
  fun i => if i = index then freq else tbl i

def Receiver.fmSetFrequency (fm : Receiver) (frequency : Int) : Receiver :=
  { fm with
    freq_current :=
      if frequency > fm.stPara.freq_max then fm.stPara.freq_max
      else if frequency < fm.stPara.freq_min then fm.stPara.freq_min
      else frequency
    tuned := fm.tuned ++ [frequency] }

structure Point where
  (rssi snr frequency : Int)
deriving DecidableEq

inductive Wait where
  | abort
  | reading (rssi snr : Int)
deriving DecidableEq

structure Scan where
  (p0 p1 p2 : Point)
  index : Nat
  frequency : Int

def Scan.counted (scan : Scan) : Nat := if scan.index < 3 then scan.index + 1 else scan.index

def interfered (frequency : Int) : Bool := frequency = 96000 || frequency = 95900

def peaked (fm : Receiver) (scan : Scan) (rssi : Int) : Bool :=
  (fm.stPara.chan_vip ≠ 0xff && scan.p2.frequency = fm.freq_vip) ||
    (scan.p2.rssi ≥ scan.p0.rssi + fm.stPara.rssi_th && rssi ≤ scan.p2.rssi &&
      scan.p1.rssi ≤ scan.p2.rssi && scan.p2.snr ≥ fm.stPara.snr_th &&
      !interfered scan.p2.frequency)

def peakedBefore (fm : Receiver) (scan : Scan) (rssi : Int) : Bool :=
  scan.p1.rssi ≥ rssi + fm.stPara.rssi_th && scan.p0.rssi ≤ scan.p1.rssi &&
    rssi ≤ scan.p2.rssi && scan.p1.snr ≥ fm.stPara.snr_th && !interfered scan.p1.frequency

def wrap (para : Para) (frequency : Int) : Int :=
  if frequency > para.freq_max then para.freq_min
  else if frequency < para.freq_min then para.freq_max
  else frequency

/-- The loop of `_fm_scan_alg`, which ends where `abort_scan` is seen to be set. -/
def scanLoop (step freq_end : Int) : List Wait → Scan → Receiver → Int × Receiver
  | [], _, fm => (freq_end, fm)
  | wait :: rest, scan, fm =>
    let set := fm.fmSetFrequency scan.frequency
    match wait with
    | .abort => (freq_end, set)
    | .reading rssi snr =>
      if scan.counted = 3 ∧ peaked set scan rssi then (scan.p2.frequency, set)
      else if scan.counted = 3 ∧ peakedBefore set scan rssi then (scan.p1.frequency, set)
      else
        let frequency := wrap fm.stPara (scan.frequency + step)
        if frequency = freq_end then (freq_end, set)
        else
          scanLoop step freq_end rest
            ⟨scan.p1, scan.p2, ⟨rssi, snr, scan.frequency⟩, scan.counted, frequency⟩ set

def scanAlg (next : Bool) (waits : List Wait) (fm : Receiver) : Int × Receiver :=
  let step := if next then fm.stPara.freq_step else -fm.stPara.freq_step
  let start := fm.freq_current
  let (fc_seeked, scanned) :=
    scanLoop step start waits ⟨⟨0, 0, 0⟩, ⟨0, 0, 0⟩, ⟨0, 0, 0⟩, 0, start⟩ fm
  (fc_seeked, scanned.fmSetFrequency fc_seeked)

def clearRedundant (chns : Nat) (tbl : Nat → Int) : Nat → Int :=
  (List.range (chns - 1)).foldl (fun tbl ii =>
      (List.range' (ii + 1) (chns - (ii + 1))).foldl
        (fun cleared jj => if tbl ii = cleared jj then setEntry cleared jj 0 else cleared) tbl)
    tbl

def countChans (chns : Nat) (tbl : Nat → Int) : Nat :=
  ((List.range chns).filter fun ii => tbl ii ≠ 0).length

def stripBlank (chns : Nat) (tbl : Nat → Int) : Nat → Int :=
  (List.range chns).foldl (fun tbl ii =>
      if tbl ii = 0 then
        match (List.range' (ii + 1) (chns - (ii + 1))).find? fun jj => tbl jj ≠ 0 with
        | none => tbl
        | some jj => setEntry (setEntry tbl ii (tbl jj)) jj 0
      else tbl)
    tbl

def bubbleSort (chns : Nat) (tbl : Nat → Int) : Nat → Int :=
  (List.range chns).foldl (fun tbl _ =>
      (List.range (chns - 1)).foldl (fun tbl jj =>
          if tbl jj > tbl (jj + 1) then
            setEntry (setEntry tbl (jj + 1) (tbl jj)) jj (tbl (jj + 1))
          else tbl)
        tbl)
    tbl

/-- `_fm_sort_chan`, which goes to the first channel. -/
def sortChan (fm : Receiver) : Receiver :=
  let old_chns := fm.stPara.scan_chns_avail
  let freq_vip := fm.fm_tbl_freq 0
  let cleared := clearRedundant old_chns fm.fm_tbl_freq
  let new_chns := countChans old_chns cleared
  let sorted := bubbleSort new_chns (stripBlank old_chns cleared)
  let chan_vip :=
    if fm.stPara.chan_vip ≠ 0xff then
      (List.range new_chns).foldl (fun vip ii => if freq_vip = sorted ii then ii else vip) 0
    else fm.stPara.chan_vip
  { fm with
    fm_tbl_freq := sorted
    chan_idx := 0
    stPara := { fm.stPara with chan_vip, scan_chns_avail := new_chns } }

/-- One round of a full scan: the scan, whether it was aborted, whether the wait at
the channel is, and the SNR there. -/
structure Round where
  waits : List Wait
  (aborted signal : Bool)
  snr : Int
deriving DecidableEq

def scanFullLoop : List Round → Nat → Int → Int → Receiver → Nat × Receiver
  | [], chan_idx, _, _, fm => (chan_idx, fm)
  | round :: rest, chan_idx, freq_last, snr_max, fm =>
    let (freq, sought) := scanAlg true round.waits fm
    if freq ≤ freq_last then (chan_idx, sought)
    else
      let better := !round.aborted && decide (snr_max < round.snr)
      let entered :=
        { sought with
          chan_idx := if better then chan_idx else sought.chan_idx
          fm_tbl_freq := setEntry sought.fm_tbl_freq chan_idx freq }
      if chan_idx + 1 ≥ fm.stPara.scan_chns_max || round.aborted || round.signal then
        (chan_idx + 1, entered)
      else
        scanFullLoop rest (chan_idx + 1) freq (if better then round.snr else snr_max) entered

def scanFull (rounds : List Round) (fm : Receiver) : Receiver :=
  let (chan_idx, scanned) :=
    scanFullLoop rounds 0 fm.stPara.freq_min (-128) (fm.fmSetFrequency fm.stPara.freq_min)
  let sorted :=
    sortChan { scanned with stPara := { scanned.stPara with scan_chns_avail := chan_idx } }
  let best :=
    if sorted.stPara.scan_chns_avail > 0 then
      let frequency := sorted.fm_tbl_freq sorted.chan_idx
      Receiver.fmSetFrequency { sorted with stPara := { sorted.stPara with frequency } } frequency
    else sorted
  { best with scan_flag := false, scan_1by1 := false }

/-- The semi-automatic scan of `_fm_thread`, up to the change of the table. -/
def scanSemi (next : Bool) (waits : List Wait) (fm : Receiver) : Receiver :=
  let (freq, sought) := scanAlg next waits fm
  { sought with
    scan_flag := false
    scan_1by1 := false
    found := some ⟨next, freq, fm.freq_current, fm.chan_idx⟩ }

def Found.entry (found : Found) (para : Para) : Nat :=
  if found.next then
    if found.chan_idx + 1 ≥ para.scan_chns_max then 0 else found.chan_idx + 1
  else if found.chan_idx > 0 then found.chan_idx - 1
  else if para.scan_chns_avail > 0 then para.scan_chns_avail - 1
  else found.chan_idx

def Receiver.enter (fm : Receiver) (found : Found) : Receiver :=
  if found.freq = found.freq_last then { fm with found := none }
  else
    let chan_idx := found.entry fm.stPara
    let avail :=
      if found.next ∧ fm.fm_tbl_freq chan_idx = 0 then u8 (fm.stPara.scan_chns_avail + 1)
      else fm.stPara.scan_chns_avail
    { fm with
      found := none
      stPara := { fm.stPara with scan_chns_avail := avail }
      fm_tbl_freq := setEntry fm.fm_tbl_freq chan_idx found.freq
      chan_idx := chan_idx }

def fmScanSemi (isNext : Bool) (fm : Receiver) : Receiver :=
  if fm.scan_flag then fm
  else
    let set :=
      if !fm.scan_1by1 && fm.stPara.scan_chns_avail = 0 then
        fm.fmSetFrequency (if isNext then fm.stPara.freq_min else fm.stPara.freq_max)
      else fm
    { set with scan_1by1 := true, scan_flag := true, signal := some (.semi isNext) }

def Receiver.play (fm : Receiver) (index : Nat) : Receiver :=
  Receiver.fmSetFrequency { fm with stPara := { fm.stPara with frequency := fm.fm_tbl_freq index } }
    (fm.fm_tbl_freq index)

def fmNext (fm : Receiver) : Receiver :=
  if fm.scan_flag then fm
  else if !fm.scan_1by1 && decide (fm.stPara.scan_chns_avail > 0) && fm.fm_tbl then
    let chan_idx :=
      if u8 (fm.chan_idx + 1) ≥ fm.stPara.scan_chns_avail then 0 else u8 (fm.chan_idx + 1)
    Receiver.play { fm with chan_idx } chan_idx
  else fmScanSemi true fm

/-- `hs_fm_prev`, which does not ask for `scan_1by1`. -/
def fmPrev (fm : Receiver) : Receiver :=
  if fm.scan_flag then fm
  else if decide (fm.stPara.scan_chns_avail > 0) && fm.fm_tbl then
    let chan_idx := if fm.chan_idx > 0 then fm.chan_idx - 1 else fm.stPara.scan_chns_avail - 1
    Receiver.play { fm with chan_idx } chan_idx
  else fmScanSemi false fm

/-- `hs_fm_setIdx`, which leaves `chan_idx`. -/
def fmSetIdx (u32Idx : Nat) (fm : Receiver) : Receiver :=
  if fm.scan_flag then fm
  else if u32Idx > fm.stPara.scan_chns_avail ∨ u32Idx = 0 then fm
  else fm.play (u32Idx - 1)

def fmInvalidate (fm : Receiver) : Receiver :=
  if fm.scan_flag then fm else { fm with stPara := { fm.stPara with scan_chns_avail := 0 } }

def fmSearch (fm : Receiver) : Receiver :=
  if fm.stPara.scan_chns_max > 0 ∧ fm.fm_tbl = true then
    if fm.scan_flag then fm else { fm with scan_flag := true, signal := some .scan }
  else fm

/-! ### The receiver as a whole -/

inductive Action where
  | search
  | semi (isNext : Bool)
  | next | prev
  | setIdx (u32Idx : Nat)
  | invalidate
  | scan (rounds : List Round)
  | seek (waits : List Wait)
  | enter

def Receiver.step (fm : Receiver) : Action → Receiver
  | .search => fmSearch fm
  | .semi isNext => fmScanSemi isNext fm
  | .next => fmNext fm
  | .prev => fmPrev fm
  | .setIdx u32Idx => fmSetIdx u32Idx fm
  | .invalidate => fmInvalidate fm
  | .scan rounds =>
    if fm.found = none ∧ fm.signal = some .scan then scanFull rounds { fm with signal := none }
    else fm
  | .seek waits =>
    match fm.found, fm.signal with
    | none, some (.semi next) => scanSemi next waits { fm with signal := none }
    | _, _ => fm
  | .enter =>
    match fm.found with
    | none => fm
    | some found => fm.enter found

def Para.zero : Para := ⟨0, 0, 0, 0, 0, 0, 0, 0, 0, 0, 0⟩

def Para.defaults (para : Para) : Para :=
  { para with
    rssi_th := 8
    rssi_th_stereo := 22
    lrhc_th := 12
    snr_th := 4
    frequency := 0x195DC
    freq_step := 0x64
    freq_max := 0x1a5e0
    freq_min := 0x155cc
    chan_vip := 0
    scan_chns_max := 25 }

def paraOf (stored : Option Para) : Para :=
  match stored with
  | none => Para.zero.defaults
  | some para => if para.rssi_th_stereo = 0 ∨ para.lrhc_th = 0 then para.defaults else para

/-- `_fm_create` with the stored configuration, whether there is memory for the
table, and the saved table; and the first `hs_fm_start`. -/
def fmCreate (stored : Option Para) (memory : Bool) (saved : Option (Nat → Int)) : Receiver :=
  let para := paraOf stored
  let fm_tbl := decide (para.scan_chns_max ≠ 0) && memory
  let tbl := if fm_tbl then saved.getD fun _ => 0 else fun _ => 0
  let avail := if fm_tbl && saved.isNone then 0 else para.scan_chns_avail
  let chan_idx :=
    if fm_tbl then
      (List.range avail).foldl (fun idx i => if tbl i = para.frequency then i else idx) 0
    else 0
  let freq_vip :=
    if fm_tbl && decide (avail > 0) && para.chan_vip ≠ 0xff then tbl para.chan_vip
    else para.frequency
  -- Workaround for the vip channel only.
  let avail := if para.chan_vip ≠ 0xff ∧ avail = 0 then 1 else avail
  Receiver.fmSetFrequency
    { stPara := { para with scan_chns_avail := avail }
      fm_tbl := fm_tbl
      fm_tbl_freq := tbl
      chan_idx := chan_idx
      freq_vip := freq_vip
      scan_flag := false
      scan_1by1 := false
      signal := none
      found := none
      freq_current := 0
      tuned := [] }
    para.frequency

end Hfirmware.Player.Fm
