/-
The data phase towards the host, counted in bytes only: blocks of a READ_10 or one piece
of `cmd_data_buf`.
-/

import Hfirmware.Usb.BulkOnly

namespace Hfirmware.Usb

open List Nat Option Storage

variable {storage : Storage} {datalen unit delivered : Nat}

/-! ### Bytes of data -/

def Packet.size : Packet → Nat
  | .data _ => mmcsdBlockSize
  | .command size => size
  | .csw _ _ => bulkCswSize

def Storage.bytesOut (storage : Storage) : Nat :=
  (storage.host.map Packet.size).sum + (storage.inFlight.map Transmission.txcnt).sum

def ReadThread.work : ReadThread → Nat
  | .fetch => 0
  | .filled => 1
  | .reading => 2
  | .check => 3

def Callback.work : Callback → Nat
  | .idle => 0
  | .posted => 1
  | .posting => 6

def Packet.dataSize : Packet → Nat
  | .data _ => mmcsdBlockSize
  | .command size => size
  | .csw _ _ => 0

def Source.size : Source → Nat
  | .slot _ => mmcsdBlockSize
  | .command size => size
  | .csw => bulkCswSize

def Transmission.dataSent (transmission : Transmission) : Nat :=
  if transmission.source = .csw then 0 else transmission.txcnt

def Storage.dataBytes (storage : Storage) : Nat :=
  (storage.host.map Packet.dataSize).sum + (storage.inFlight.map Transmission.dataSent).sum

variable {txcnt more : Nat}

section

theorem Storage.bytesOut_eq {host : List Packet} {bytes : Nat} {inFlight : List Transmission}
    (delivered : storage.host = host) (flying : storage.inFlight = inFlight)
    (size : (host.map Packet.size).sum = bytes)
    (part : (inFlight.map Transmission.txcnt).sum = txcnt) :
    storage.bytesOut = bytes + txcnt := by
  unfold Storage.bytesOut
  rw [delivered, flying, size, part]

theorem Storage.transmitted_of_data (stage : storage.stage = .stageData) (txcnt : Nat) :
    storage.transmitted txcnt = storage.blockSent txcnt := by
  unfold Storage.transmitted
  rw [stage]

theorem Storage.transmitted_of_cbw (stage : storage.stage = .stageCbw) (txcnt : Nat) :
    storage.transmitted txcnt = storage := by
  unfold Storage.transmitted
  rw [stage]

theorem Storage.step_transmit {driver transmitted : Storage}
    (taken : driver.step (.transmit more) = some transmitted) :
    ∃ transmission rest, driver.inFlight = transmission :: rest ∧ 0 < more ∧
      transmission.txcnt + more ≤ transmission.txsize ∧
      transmitted = usbstorageDataTransmitted driver transmission rest more := by
  unfold Storage.step at taken
  cases flying : driver.inFlight with
  | nil =>
    rw [flying] at taken
    cases taken
  | cons transmission rest =>
    rw [flying] at taken
    obtain ⟨⟨-, positive, fits⟩, ⟨⟩⟩ := ite_none_right_eq_some.mp taken
    exact ⟨transmission, rest, rfl, positive, fits, rfl⟩

end

structure Traffic where
  inFlight : List Transmission
  callback : Callback
  isPaused : Bool
  (count count_done : Nat)
  stage : Stage
  Residue : Nat
  host : List Packet

def Storage.traffic (storage : Storage) : Traffic :=
  { inFlight := storage.inFlight
    callback := storage.callback
    isPaused := storage.g_isPaused
    count := storage.g_read_xfer.count
    count_done := storage.g_read_xfer.count_done
    stage := storage.stage
    Residue := storage.Residue
    host := storage.host }

structure Quiet (traffic : Traffic) : Prop where
  unpaused : traffic.isPaused = false
  begun : 0 < traffic.count_done ∨ traffic.count = 0

/-- A data phase of `datalen` bytes in transmissions of `unit` bytes, of which
`delivered` bytes have reached the host. -/
structure Delivering (datalen unit delivered : Nat) (traffic : Traffic) : Prop where
  stage : traffic.stage = .stageData
  residue : traffic.Residue = datalen - delivered
  more : delivered < datalen
  bounded : datalen < 2 ^ 32
  whole : unit ∣ datalen
  even : unit ∣ delivered
  size : (traffic.host.map Packet.size).sum = delivered
  dataSize : (traffic.host.map Packet.dataSize).sum = delivered

structure Ending (datalen : Nat) (traffic : Traffic) : Prop where
  stage : traffic.stage = .stageCbw
  idle : traffic.callback = .idle
  quiet : Quiet traffic
  dataSize : (traffic.host.map Packet.dataSize).sum = datalen

inductive InPhase (datalen unit delivered : Nat) (traffic : Traffic) : Prop where
  | starting (delivering : Delivering datalen unit delivered traffic)
      (blocks : unit = mmcsdBlockSize) (none : traffic.inFlight = [])
      (idle : traffic.callback = .idle) (unpaused : traffic.isPaused = false)
      (unread : traffic.count_done = 0)
  | sending (delivering : Delivering datalen unit delivered traffic) (source : Source)
      (txcnt : Nat) (isData : source ≠ .csw) (sized : source.size = unit)
      (small : ∀ size, source = .command size → size ≤ bufSizCmddata) (below : txcnt < unit)
      (one : traffic.inFlight = [⟨source, unit, txcnt⟩]) (idle : traffic.callback = .idle)
      (quiet : Quiet traffic)
      (next : unit = mmcsdBlockSize ∧ 0 < traffic.count_done ∨ delivered + unit = datalen)
  | paused (delivering : Delivering datalen unit delivered traffic)
      (blocks : unit = mmcsdBlockSize) (none : traffic.inFlight = [])
      (idle : traffic.callback = .idle) (isPaused : traffic.isPaused = true)
  | inCallback (delivering : Delivering datalen unit delivered traffic)
      (blocks : unit = mmcsdBlockSize) (none : traffic.inFlight = [])
      (running : traffic.callback = .posting ∨ traffic.callback = .posted)
      (unpaused : traffic.isPaused = false) (begun : 0 < traffic.count_done)
  | closing (ending : Ending datalen traffic) (txcnt : Nat) (below : txcnt < bulkCswSize)
      (one : traffic.inFlight = [⟨.csw, bulkCswSize, txcnt⟩])
      (size : (traffic.host.map Packet.size).sum = datalen)
  | finished (ending : Ending datalen traffic) (none : traffic.inFlight = [])
      (csw : ∃ residue status, .csw residue status ∈ traffic.host)

structure DataIn (datalen unit delivered : Nat) (storage : Storage) : Prop where
  phase : InPhase datalen unit delivered storage.traffic
  underway : storage.readThread = .reading ∨ storage.readThread = .filled →
    storage.g_read_xfer.count_done < storage.g_read_xfer.count

def Storage.threadWork (storage : Storage) : Nat :=
  2 * (storage.g_read_xfer.count - storage.g_read_xfer.count_done) + storage.readThread.work +
    4 * storage.g_read_mbox + 5 * storage.cbwPosting.toNat

def Storage.inWork (datalen : Nat) (storage : Storage) : Nat :=
  7 * (datalen + bulkCswSize - storage.bytesOut) + storage.threadWork + storage.callback.work

/-! ### The read thread -/

/-- What a step of the read thread does to the traffic: it counts a block at
most, or it sends one because it is the first or because the callback waits. -/
inductive ThreadTraffic (before : Storage) (tail : Nat) (after : Traffic) : Prop where
  | silent (count_done : Nat) (grows : before.g_read_xfer.count_done ≤ count_done)
      (later : before.g_read_xfer.count_done = 0 → count_done = 0)
      (same : after = { before.traffic with count_done })
  | sends (due : before.g_read_xfer.count_done = 0 ∨ before.g_isPaused = true)
      (more : before.g_read_xfer.count_done < before.g_read_xfer.count)
      (sent : after = { before.traffic with
        count_done := before.g_read_xfer.count_done + 1
        isPaused := false
        inFlight := before.inFlight ++ [⟨.slot tail, mmcsdBlockSize, 0⟩] })

structure ThreadStep (before after : Storage) : Prop where
  traffic : ThreadTraffic before before.r_buf.tail after.traffic
  status : after.Status = before.Status
  underway : after.readThread = .reading ∨ after.readThread = .filled →
    after.g_read_xfer.count_done < after.g_read_xfer.count
  work : after.threadWork < before.threadWork

variable {next : Storage} {action : ReadAction}

section

theorem Storage.continueRead_spec (storage : Storage)
    (bound : storage.g_read_xfer.count_done ≤ storage.g_read_xfer.count) :
    storage.continueRead.traffic = storage.traffic ∧ storage.continueRead.Status = storage.Status ∧
      (storage.continueRead.readThread = .reading ∨ storage.continueRead.readThread = .filled →
        storage.continueRead.g_read_xfer.count_done < storage.continueRead.g_read_xfer.count) ∧
      storage.continueRead.threadWork + storage.readThread.work ≤ storage.threadWork + 2 := by
  unfold continueRead
  split
  case isTrue all =>
    refine ⟨rfl, rfl, fun busy => by simp at busy, ?_⟩
    unfold threadWork
    simp only [ReadThread.work]
    omega
  case isFalse more =>
    split
    case isTrue =>
      refine ⟨rfl, rfl, fun _ => lt_of_le_of_ne bound more, ?_⟩
      unfold threadWork
      simp only [beginRead, setPbuf, ReadThread.work]
      omega
    case isFalse =>
      refine ⟨rfl, rfl, fun busy => by simp at busy, ?_⟩
      unfold threadWork
      simp only [ReadThread.work]
      omega

theorem Storage.threadWork_slotFull
    (more : storage.g_read_xfer.count_done < storage.g_read_xfer.count) :
    storage.slotFull.threadWork + 2 = storage.threadWork := by
  unfold threadWork
  simp only [slotFull, setStatus]
  omega

theorem Storage.threadStep_fill (filled : storage.readThread = .filled)
    (more : storage.g_read_xfer.count_done < storage.g_read_xfer.count) :
    ThreadStep storage storage.fillSlot := by
  have counted := threadWork_slotFull more
  have busy : storage.readThread.work = 1 := congrArg ReadThread.work filled
  unfold fillSlot sendIfDue
  split
  case isTrue due =>
    obtain ⟨traffic, status, underway, work⟩ := storage.slotFull.sendTail.continueRead_spec more
    have sent : storage.slotFull.sendTail.threadWork = storage.slotFull.threadWork := rfl
    have stands : storage.slotFull.sendTail.readThread = storage.readThread := rfl
    rw [sent, stands, busy] at work
    refine ⟨?_, status, underway, by omega⟩
    rw [traffic]
    exact .sends (due.imp_left Nat.succ.inj) more rfl
  case isFalse notDue =>
    obtain ⟨traffic, status, underway, work⟩ := storage.slotFull.continueRead_spec more
    have stands : storage.slotFull.readThread = storage.readThread := rfl
    rw [stands, busy] at work
    refine ⟨?_, status, underway, by omega⟩
    rw [traffic]
    refine .silent _ (le_succ _) (fun first => ?_) rfl
    exact absurd (.inl (congrArg Nat.succ first)) notDue

def ReadAction.OfThread : ReadAction → Prop
  | .fetch | .check | .sdcRead | .fill | .cbwPost => True
  | .transmit _ | .post | .resume => False

theorem Storage.threadStep
    (underway : storage.readThread = .reading ∨ storage.readThread = .filled →
      storage.g_read_xfer.count_done < storage.g_read_xfer.count)
    (ofThread : action.OfThread) (taken : storage.step action = some next) :
    ThreadStep storage next := by
  cases action with
  | fetch =>
    obtain ⟨⟨waiting, _⟩, ⟨⟩⟩ := ite_none_right_eq_some.mp taken
    refine ⟨.silent _ (.refl) id rfl, rfl, fun busy => by simp at busy, ?_⟩
    unfold threadWork
    simp only [waiting, ReadThread.work]
    omega
  | check =>
    obtain ⟨checking, ⟨⟩⟩ := ite_none_right_eq_some.mp taken
    unfold checkRead
    split
    case isTrue more =>
      refine ⟨.silent _ (.refl) id rfl, rfl, fun _ => more.1, ?_⟩
      unfold threadWork
      simp only [beginRead, setPbuf, checking, ReadThread.work]
      omega
    case isFalse =>
      refine ⟨.silent _ (.refl) id rfl, rfl, fun busy => by simp at busy, ?_⟩
      unfold threadWork
      simp only [checking, ReadThread.work]
      omega
  | sdcRead =>
    obtain ⟨reading, ⟨⟩⟩ := ite_none_right_eq_some.mp taken
    refine ⟨.silent _ (.refl) id rfl, rfl, fun _ => underway (.inl reading), ?_⟩
    unfold threadWork
    simp only [Storage.sdcRead, setPbuf, reading, ReadThread.work]
    omega
  | fill =>
    obtain ⟨filled, ⟨⟩⟩ := ite_none_right_eq_some.mp taken
    exact threadStep_fill filled (underway (.inr filled))
  | cbwPost =>
    obtain ⟨⟨posting, _⟩, ⟨⟩⟩ := ite_none_right_eq_some.mp taken
    refine ⟨.silent _ (.refl) id rfl, rfl, underway, ?_⟩
    unfold threadWork
    simp only [posting, Bool.toNat_true, Bool.toNat_false]
    omega
  | transmit | post | resume => exact ofThread.elim

end

section

variable {traffic after : Traffic}

theorem Delivering.unit_le (delivering : Delivering datalen unit delivered traffic) :
    delivered + unit ≤ datalen := by
  have more := delivering.more
  have left := le_of_dvd (Nat.sub_pos_of_lt more) (Nat.dvd_sub delivering.whole delivering.even)
  omega

theorem Delivering.of_eq (delivering : Delivering datalen unit delivered traffic)
    (stage : after.stage = traffic.stage) (residue : after.Residue = traffic.Residue)
    (host : after.host = traffic.host) : Delivering datalen unit delivered after := by
  obtain ⟨isData, left, more, bounded, whole, even, size, dataSize⟩ := delivering
  exact ⟨stage.trans isData, residue.trans left, more, bounded, whole, even, host ▸ size,
    host ▸ dataSize⟩

theorem Quiet.counted (quiet : Quiet traffic) {count_done : Nat}
    (grows : traffic.count_done ≤ count_done) :
    Quiet { traffic with count_done } :=
  ⟨quiet.unpaused, quiet.begun.imp_left fun begun => lt_of_lt_of_le begun grows⟩

theorem Quiet.not_due (quiet : Quiet storage.traffic)
    (due : storage.g_read_xfer.count_done = 0 ∨ storage.g_isPaused)
    (more : storage.g_read_xfer.count_done < storage.g_read_xfer.count) : False := by
  cases due with
  | inl unread =>
    cases quiet.begun with
    | inl begun => exact ne_of_gt begun unread
    | inr nothing => exact Nat.not_lt_zero _ (lt_of_lt_of_eq more nothing)
  | inr isPaused => exact Bool.false_ne_true (quiet.unpaused.symm.trans isPaused)

variable {tail : Nat}

theorem InPhase.thread (phase : InPhase datalen unit delivered storage.traffic)
    (step : ThreadTraffic storage tail after) : InPhase datalen unit delivered after := by
  cases step with
  | silent _ grows later same =>
    subst same
    cases phase with
    | starting delivering blocks none idle unpaused unread =>
      exact .starting (delivering.of_eq rfl rfl rfl) blocks none idle unpaused (later unread)
    | sending delivering source txcnt isData sized small below one idle quiet next =>
      exact .sending (delivering.of_eq rfl rfl rfl) source txcnt isData sized small below one idle
        (quiet.counted grows)
        (next.imp_left fun blocks => ⟨blocks.1, lt_of_lt_of_le blocks.2 grows⟩)
    | paused delivering blocks none idle isPaused =>
      exact .paused (delivering.of_eq rfl rfl rfl) blocks none idle isPaused
    | inCallback delivering blocks none running unpaused begun =>
      exact .inCallback (delivering.of_eq rfl rfl rfl) blocks none running unpaused
        (lt_of_lt_of_le begun grows)
    | closing ending txcnt below one size =>
      exact .closing { ending with quiet := ending.quiet.counted grows } txcnt below one size
    | finished ending none csw =>
      exact .finished { ending with quiet := ending.quiet.counted grows } none csw
  | sends due more sent =>
    have first (delivering : Delivering datalen unit delivered storage.traffic)
        (blocks : unit = mmcsdBlockSize) (none : storage.traffic.inFlight = [])
        (idle : storage.traffic.callback = .idle) : InPhase datalen unit delivered after := by
      subst sent blocks
      refine .sending (delivering.of_eq rfl rfl rfl) (.slot tail) 0 nofun rfl nofun (by decide) ?_
        idle ⟨rfl, .inl (succ_pos _)⟩ (.inl ⟨rfl, succ_pos _⟩)
      exact congrArg (· ++ _) none
    cases phase with
    | starting delivering blocks none idle | paused delivering blocks none idle =>
      exact first delivering blocks none idle
    | sending _ _ _ _ _ _ _ _ _ quiet =>
      exact (quiet.not_due due more).elim
    | inCallback _ _ _ _ unpaused begun =>
      exact (Quiet.not_due ⟨unpaused, .inl begun⟩ due more).elim
    | closing ending | finished ending => exact (ending.quiet.not_due due more).elim

theorem ThreadTraffic.bytesOut
    (step : ThreadTraffic storage tail next.traffic) : next.bytesOut = storage.bytesOut := by
  unfold Storage.bytesOut
  cases step with
  | silent _ _ _ same =>
    rw [show next.host = storage.host from congrArg Traffic.host same,
      show next.inFlight = storage.inFlight from congrArg Traffic.inFlight same]
  | sends _ _ sent =>
    rw [show next.host = storage.host from congrArg Traffic.host sent,
      show next.inFlight = storage.inFlight ++ _ from congrArg Traffic.inFlight sent,
      map_append, List.sum_append]
    rfl

theorem ThreadTraffic.residue (step : ThreadTraffic storage tail after) :
    after.Residue = storage.Residue ∧ after.callback = storage.callback := by
  cases step with
  | silent _ _ _ same => exact same ▸ ⟨rfl, rfl⟩
  | sends _ _ sent => exact sent ▸ ⟨rfl, rfl⟩

theorem DataIn.thread (dataIn : DataIn datalen unit delivered storage)
    (step : ThreadStep storage next) :
    DataIn datalen unit delivered next ∧ next.inWork datalen < storage.inWork datalen ∧
      next.Residue = storage.Residue := by
  obtain ⟨residue, callback⟩ := step.traffic.residue
  have isCallback : next.callback = storage.callback := callback
  refine ⟨⟨dataIn.phase.thread step.traffic, step.underway⟩, ?_, residue⟩
  have less := step.work
  unfold inWork
  rw [step.traffic.bytesOut, isCallback]
  omega

theorem Storage.packet_size (storage : Storage) (source : Source) :
    (storage.packet source).size = source.size := by
  cases source <;> rfl

variable {source : Source}

theorem Storage.packet_dataSize (storage : Storage) (isData : source ≠ .csw) :
    (storage.packet source).dataSize = source.size := by
  cases source with
  | csw => exact absurd rfl isData
  | slot => rfl
  | command => rfl

structure UnitSent (datalen unit delivered : Nat) (storage : Storage) : Prop where
  residue : storage.Residue = datalen - delivered
  most : delivered ≤ datalen
  whole : unit ∣ datalen
  even : unit ∣ delivered
  bounded : datalen < 2 ^ 32
  stage : storage.stage = .stageData
  none : storage.inFlight = []
  idle : storage.callback = .idle
  quiet : Quiet storage.traffic
  next : unit = mmcsdBlockSize ∧ 0 < storage.g_read_xfer.count_done ∨ delivered = datalen
  size : (storage.host.map Packet.size).sum = delivered
  dataSize : (storage.host.map Packet.dataSize).sum = delivered
  underway : storage.readThread = .reading ∨ storage.readThread = .filled →
    storage.g_read_xfer.count_done < storage.g_read_xfer.count

theorem UnitSent.bytesOut (sent : UnitSent datalen unit delivered storage) :
    storage.bytesOut = delivered := by
  unfold Storage.bytesOut
  rw [sent.none, sent.size]
  rfl

theorem UnitSent.proceed (sent : UnitSent datalen unit delivered storage) :
    let after := if storage.Residue = 0 then storage.sendCsw else storage.moveTail
    DataIn datalen unit delivered after ∧ after.inWork datalen ≤ storage.inWork datalen + 6 := by
  obtain ⟨residue, _, whole, even, bounded, stage, none, idle, quiet, next, size, dataSize,
    underway⟩ := id sent
  split
  case isTrue last =>
    have all : delivered = datalen := by omega
    have one : storage.sendCsw.inFlight = [⟨.csw, bulkCswSize, 0⟩] := congrArg (· ++ _) none
    have out : storage.sendCsw.bytesOut = storage.bytesOut := by
      unfold Storage.bytesOut
      rw [one, none]
      rfl
    refine ⟨⟨?_, underway⟩, ?_⟩
    · exact .closing ⟨rfl, idle, ⟨quiet.unpaused, quiet.begun⟩, dataSize.trans all⟩ 0 (by decide)
        one (size.trans all)
    · unfold inWork
      rw [out]
      exact Nat.le_add_right _ _
  case isFalse more =>
    have before : delivered < datalen := by omega
    obtain ⟨blocks, begun⟩ := next.resolve_right (Nat.ne_of_lt before)
    refine ⟨⟨?_, underway⟩, ?_⟩
    · exact .inCallback ⟨stage, residue, before, bounded, whole, even, size, dataSize⟩ blocks none
        (.inl rfl) quiet.unpaused begun
    · have work : storage.moveTail.inWork datalen = 7 * (datalen + bulkCswSize - storage.bytesOut) +
          storage.threadWork + 6 := rfl
      rw [work]
      unfold inWork
      omega

theorem Storage.freeTail_eq {residue : Nat} (left : u32Sub storage.Residue txcnt = residue) :
    storage.freeTail txcnt =
      { storage.setStatus storage.r_buf.tail .bufEmpty with Residue := residue } := by
  unfold freeTail
  rw [left]

theorem Storage.inWork_le {before after : Nat}
    (wasOut : storage.bytesOut = before) (isOut : next.bytesOut = after) (more : before < after)
    (below : before < datalen + bulkCswSize) (thread : next.threadWork = storage.threadWork)
    (callback : next.callback = storage.callback) :
    next.inWork datalen + 7 ≤ storage.inWork datalen := by
  unfold inWork
  rw [thread, callback, wasOut, isOut]
  omega

theorem DataIn.unitSent (dataIn : DataIn datalen unit delivered storage)
    (delivering : Delivering datalen unit delivered storage.traffic)
    (isData : source ≠ .csw) (sized : source.size = unit) (below : txcnt < unit)
    (one : storage.inFlight = [⟨source, unit, txcnt⟩]) (idle : storage.callback = .idle)
    (quiet : Quiet storage.traffic)
    (next : unit = mmcsdBlockSize ∧ 0 < storage.g_read_xfer.count_done ∨
      delivered + unit = datalen) :
    let after := (storage.deliver source []).blockSent unit
    DataIn datalen unit (delivered + unit) after ∧ after.inWork datalen < storage.inWork datalen ∧
      after.Residue ≤ storage.Residue := by
  obtain ⟨stage, residue, _, bounded, whole, even, size, dataSize⟩ := id delivering
  have fits := delivering.unit_le
  have left : u32Sub storage.Residue unit = datalen - (delivered + unit) := by
    rw [show storage.Residue = _ from residue, u32Sub_of_le (by omega) (by omega)]
    omega
  have sizeAfter : ((storage.host ++ [storage.packet source]).map Packet.size).sum =
      delivered + unit := by
    rw [map_append, List.sum_append, show (storage.host.map Packet.size).sum = _ from size]
    simp only [map_cons, map_nil, sum_singleton, packet_size, sized]
  have dataSizeAfter : ((storage.host ++ [storage.packet source]).map Packet.dataSize).sum =
      delivered + unit := by
    rw [map_append, List.sum_append,
      show (storage.host.map Packet.dataSize).sum = _ from dataSize]
    simp only [map_cons, map_nil, sum_singleton, packet_dataSize _ isData, sized]
  have freed : (storage.deliver source []).freeTail unit = _ := freeTail_eq left
  unfold blockSent
  dsimp only
  rw [freed]
  have sent : UnitSent datalen unit (delivered + unit)
      { (storage.deliver source []).setStatus (storage.deliver source []).r_buf.tail .bufEmpty with
        Residue := datalen - (delivered + unit) } :=
    ⟨rfl, fits, whole, Nat.dvd_add even (dvd_refl _), bounded, stage, rfl, idle,
      ⟨quiet.unpaused, quiet.begun⟩, next, sizeAfter, dataSizeAfter, dataIn.underway⟩
  have wasOut : storage.bytesOut = delivered + txcnt := bytesOut_eq rfl one size rfl
  obtain ⟨later, less⟩ := sent.proceed
  have progress : inWork datalen
      { (storage.deliver source []).setStatus (storage.deliver source []).r_buf.tail .bufEmpty with
        Residue := datalen - (delivered + unit) } + 7 ≤ storage.inWork datalen :=
    inWork_le wasOut sent.bytesOut (by omega) (by omega) rfl rfl
  refine ⟨later, by omega, ?_⟩
  have less : datalen - (delivered + unit) ≤ storage.Residue :=
    le_trans (by omega) (le_of_eq residue.symm)
  split <;> exact less

theorem Storage.inWork_lt_of_part {size bytes : Nat}
    (one : storage.inFlight = [⟨source, size, txcnt⟩]) (positive : 0 < more)
    (host : (storage.host.map Packet.size).sum = bytes)
    (below : bytes + txcnt < datalen + bulkCswSize) :
    inWork datalen { storage with inFlight := [⟨source, size, txcnt + more⟩] } <
      storage.inWork datalen := by
  have wasOut : storage.bytesOut = bytes + txcnt := bytesOut_eq rfl one host rfl
  have isOut : Storage.bytesOut { storage with inFlight := [⟨source, size, txcnt + more⟩] } =
      bytes + (txcnt + more) := bytesOut_eq rfl rfl host rfl
  have less : inWork datalen { storage with inFlight := [⟨source, size, txcnt + more⟩] } +
      7 ≤ storage.inWork datalen :=
    inWork_le wasOut isOut (by omega) below rfl rfl
  omega

section

variable (dataIn : DataIn datalen unit delivered storage)
include dataIn

theorem DataIn.cswSent (ending : Ending datalen storage.traffic)
    (below : txcnt < bulkCswSize) (one : storage.inFlight = [⟨.csw, bulkCswSize, txcnt⟩])
    (size : (storage.host.map Packet.size).sum = datalen) :
    DataIn datalen unit delivered (storage.deliver .csw []) ∧
      (storage.deliver .csw []).inWork datalen < storage.inWork datalen := by
  have host : (storage.deliver .csw []).host = storage.host ++ [storage.packet .csw] := rfl
  have dataSize : ((storage.deliver .csw []).host.map Packet.dataSize).sum = datalen := by
    rw [host, map_append, List.sum_append]
    exact ending.dataSize
  have wasOut : storage.bytesOut = datalen + txcnt := bytesOut_eq rfl one size rfl
  have isOut : (storage.deliver .csw []).bytesOut = datalen + bulkCswSize + 0 := by
    refine bytesOut_eq host rfl ?_ rfl
    rw [map_append, List.sum_append, size]
    rfl
  refine ⟨⟨?_, dataIn.underway⟩, ?_⟩
  · exact .finished ⟨ending.stage, ending.idle, ⟨ending.quiet.unpaused, ending.quiet.begun⟩,
      dataSize⟩ rfl ⟨_, _, mem_append_right _ (.head _)⟩
  · have less : (storage.deliver .csw []).inWork datalen + 7 ≤ storage.inWork datalen :=
      inWork_le wasOut isOut (by omega) (by omega) rfl rfl
    omega

theorem DataIn.transmit (taken : storage.step (.transmit more) = some next) :
    (∃ delivered, DataIn datalen unit delivered next) ∧
      next.inWork datalen < storage.inWork datalen ∧
      (storage.stage = .stageData → next.Residue ≤ storage.Residue) := by
  obtain ⟨_, _, flying, positive, fits, rfl⟩ := step_transmit taken
  have nonempty : storage.traffic.inFlight ≠ [] := fun none => nomatch flying.symm.trans none
  unfold usbstorageDataTransmitted
  cases dataIn.phase with
  | starting _ _ none | paused _ _ none | inCallback _ _ none | finished _ none =>
    exact absurd none nonempty
  | sending delivering source txcnt isData sized small below one idle quiet next =>
    obtain ⟨rfl, rfl⟩ := cons.inj (flying.symm.trans one)
    have unit_le := delivering.unit_le
    dsimp only at fits ⊢
    by_cases goesOn : unit > txcnt + more
    · rw [if_pos goesOn]
      refine ⟨⟨delivered, ?_, dataIn.underway⟩, ?_, fun _ => .refl⟩
      · exact .sending (delivering.of_eq rfl rfl rfl) source (txcnt + more) isData sized small
          goesOn rfl idle ⟨quiet.unpaused, quiet.begun⟩ next
      · exact inWork_lt_of_part flying positive delivering.size (by omega)
    · have inData : (storage.deliver source []).stage = .stageData := delivering.stage
      have exactly : txcnt + more = unit := by omega
      obtain ⟨later, less, residue⟩ :=
        dataIn.unitSent delivering isData sized below flying idle quiet next
      rw [if_neg goesOn, transmitted_of_data inData, exactly]
      exact ⟨⟨_, later⟩, less, fun _ => residue⟩
  | closing ending txcnt below one size =>
    obtain ⟨rfl, rfl⟩ := cons.inj (flying.symm.trans one)
    have notData : storage.stage ≠ .stageData := fun isData =>
      nomatch ending.stage.symm.trans isData
    dsimp only at fits ⊢
    by_cases goesOn : bulkCswSize > txcnt + more
    · rw [if_pos goesOn]
      refine ⟨⟨delivered, ?_, dataIn.underway⟩, ?_, fun isData => absurd isData notData⟩
      · exact .closing { ending with quiet := ⟨ending.quiet.unpaused, ending.quiet.begun⟩ }
          (txcnt + more) goesOn rfl size
      · exact inWork_lt_of_part flying positive size (by omega)
    · have isCbw : (storage.deliver .csw []).stage = .stageCbw := ending.stage
      obtain ⟨later, less⟩ := dataIn.cswSent ending below flying size
      rw [if_neg goesOn, transmitted_of_cbw isCbw]
      exact ⟨⟨delivered, later⟩, less, fun isData => absurd isData notData⟩

theorem DataIn.post (posting : storage.callback = .posting) : DataIn datalen unit delivered
    { storage with g_read_mbox := storage.g_read_mbox + 1, callback := .posted } ∧ inWork datalen
          { storage with g_read_mbox := storage.g_read_mbox + 1, callback := .posted } <
        storage.inWork datalen := by
  have notIdle : storage.traffic.callback ≠ .idle := fun idle => nomatch posting.symm.trans idle
  refine ⟨⟨?_, dataIn.underway⟩, ?_⟩
  · cases dataIn.phase with
    | inCallback delivering blocks none _ unpaused begun =>
      exact .inCallback (delivering.of_eq rfl rfl rfl) blocks none (.inr rfl) unpaused begun
    | starting _ _ _ idle | sending _ _ _ _ _ _ _ _ idle | paused _ _ _ idle =>
      exact absurd idle notIdle
    | closing ending | finished ending => exact absurd ending.idle notIdle
  · unfold inWork threadWork Storage.bytesOut
    simp only [posting, Callback.work]
    omega

theorem DataIn.resume (posted : storage.callback = .posted) :
    DataIn datalen unit delivered storage.afterPost ∧
      storage.afterPost.inWork datalen < storage.inWork datalen ∧
      storage.afterPost.Residue = storage.Residue := by
  have notIdle : storage.traffic.callback ≠ .idle := fun idle => nomatch posted.symm.trans idle
  have busy := congrArg Callback.work posted
  cases dataIn.phase with
  | starting _ _ _ idle | sending _ _ _ _ _ _ _ _ idle | paused _ _ _ idle =>
    exact absurd idle notIdle
  | closing ending | finished ending => exact absurd ending.idle notIdle
  | inCallback delivering blocks none _ _ begun =>
    subst blocks
    unfold afterPost
    split
    case isTrue full =>
      have one : storage.sendTail.inFlight =
          [⟨.slot storage.r_buf.tail, mmcsdBlockSize, 0⟩] := congrArg (· ++ _) none
      have out : Storage.bytesOut { storage.sendTail with callback := .idle } =
          storage.bytesOut := by
        unfold Storage.bytesOut
        rw [one, show storage.inFlight = [] from none]
        rfl
      refine ⟨⟨?_, dataIn.underway⟩, ?_, rfl⟩
      · exact .sending (delivering.of_eq rfl rfl rfl) (.slot storage.r_buf.tail) 0 nofun rfl nofun
          (by decide) one rfl ⟨rfl, .inl begun⟩ (.inl ⟨rfl, begun⟩)
      · unfold inWork
        rw [out, busy]
        exact lt_succ_self _
    case isFalse =>
      refine ⟨⟨?_, dataIn.underway⟩, ?_, rfl⟩
      · exact .paused (delivering.of_eq rfl rfl rfl) rfl none rfl rfl
      · unfold inWork
        rw [busy]
        exact lt_succ_self _

theorem DataIn.step (taken : storage.step action = some next) :
    (∃ delivered, DataIn datalen unit delivered next) ∧
      next.inWork datalen < storage.inWork datalen ∧
      (storage.stage = .stageData → next.Residue ≤ storage.Residue) := by
  have ofThread (isThread : action.OfThread) : (∃ delivered, DataIn datalen unit delivered next) ∧
        next.inWork datalen < storage.inWork datalen ∧
        (storage.stage = .stageData → next.Residue ≤ storage.Residue) := by
    obtain ⟨later, less, residue⟩ :=
      dataIn.thread (threadStep dataIn.underway isThread taken)
    exact ⟨⟨delivered, later⟩, less, fun _ => le_of_eq residue⟩
  cases action with
  | transmit => exact dataIn.transmit taken
  | post =>
    obtain ⟨⟨posting, -⟩, ⟨⟩⟩ := ite_none_right_eq_some.mp taken
    obtain ⟨later, less⟩ := dataIn.post posting
    exact ⟨⟨delivered, later⟩, less, fun _ => .refl⟩
  | resume =>
    obtain ⟨posted, ⟨⟩⟩ := ite_none_right_eq_some.mp taken
    obtain ⟨later, less, residue⟩ := dataIn.resume posted
    exact ⟨⟨delivered, later⟩, less, fun _ => le_of_eq residue⟩
  | _ => exact ofThread trivial

end

end

end Hfirmware.Usb
