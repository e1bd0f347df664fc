/-
The three ways a command can go: data to the host, data from the host, and no data at
all.
-/

import Hfirmware.Usb.WritePipeline

namespace Hfirmware.Usb

open List Option BulkStorage Storage GuardedRun

variable {data : Nat → UInt8} {cbw : SignedCbw} {next : BulkStorage}

/-- The device has sent no more data than the command allows, the residue does not
wrap, and no transmission reads past `cmd_data_buf`. -/
structure BulkSafe (data : Nat → UInt8) (cbw : SignedCbw) (storage : BulkStorage) : Prop where
  withinLength : storage.dataBytes ≤ cbw.DataTransferLength
  noWrap : ∀ action next, storage.step data action = some next → storage.stage = .stageData →
    next.Residue ≤ storage.Residue
  withinBuffer : ∀ transmission ∈ storage.inFlight, ∀ size,
    transmission.source = .command size → transmission.txsize ≤ bufSizCmddata

def Storage.CswSent (storage : Storage) : Prop :=
  ∃ residue status, .csw residue status ∈ storage.host

def BulkStorage.AllMoved (storage : BulkStorage) (cbw : SignedCbw) : Prop :=
  storage.dataBytes = cbw.DataTransferLength ∨ storage.supplied = cbw.DataTransferLength

structure Bounding (data : Nat → UInt8) (cbw : SignedCbw) (inv : BulkStorage → Prop)
    (measure : BulkStorage → Nat) : Prop where
  step : ∀ storage action next, inv storage → storage.step data action = some next →
    inv next ∧ measure next < measure storage ∧
      (storage.stage = .stageData → next.Residue ≤ storage.Residue)
  withinLength : ∀ storage, inv storage → storage.dataBytes ≤ cbw.DataTransferLength
  withinBuffer : ∀ storage, inv storage → ∀ transmission ∈ storage.inFlight, ∀ size,
    transmission.source = .command size → transmission.txsize ≤ bufSizCmddata
  done : ∀ storage, inv storage → (∀ action, storage.step data action = none) →
    storage.AllMoved cbw → storage.CswSent

theorem Bounding.run {data : Nat → UInt8} {cbw : SignedCbw} {inv : BulkStorage → Prop}
    {measure : BulkStorage → Nat} (bounding : Bounding data cbw inv measure)
    {storage final : BulkStorage} {actions : List BulkAction} (initial : inv storage)
    (run : runEnabled (BulkStorage.step data) storage actions = some final) :
    BulkSafe data cbw final ∧
      ((∀ action, final.step data action = none) → final.AllMoved cbw → final.CswSent) ∧
      actions.length ≤ measure storage := by
  have preserved (state : BulkStorage) (action : BulkAction) (next : BulkStorage)
      (holds : inv state) (taken : state.step data action = some next) :
      inv next ∧ measure next < measure state :=
    let ⟨later, less, _⟩ := bounding.step state action next holds taken
    ⟨later, less⟩
  obtain ⟨holds, _⟩ := runEnabled_spec preserved initial run
  refine ⟨⟨bounding.withinLength final holds, fun action next taken => ?_,
    bounding.withinBuffer final holds⟩, bounding.done final holds, by omega⟩
  exact (bounding.step final action next holds taken).2.2

structure WriteParked (storage : WriteStorage) : Prop where
  receiver : storage.receiver = .idle
  writer : storage.writer = .fetch
  mail : storage.g_write_mbox = 0

variable {action : WriteAction}

section

variable {storage : WriteStorage}

theorem WriteParked.writerStep (parked : WriteParked storage) (action : WriteAction) :
    storage.writerStep action = none := by
  cases action <;> simp [WriteStorage.writerStep, parked.writer, parked.mail]

theorem WriteParked.step (parked : WriteParked storage)
    {next : WriteStorage} (taken : storage.step data action = some next) :
    (∃ size, action = .packet size ∧ storage.stage = .stageData ∧ 0 < size) ∨
      ∃ more transmitted, action = .transmit more ∧
        storage.toStorage.step (.transmit more) = some transmitted ∧
        next = { storage with toStorage := transmitted } := by
  have received : storage.receiverStep data action = some next := by
    unfold WriteStorage.step at taken
    rwa [parked.writerStep, or_none] at taken
  cases action with
  | packet size =>
    obtain ⟨⟨-, stage, positive, -⟩, -⟩ := ite_none_right_eq_some.mp received
    exact .inl ⟨size, rfl, stage, positive⟩
  | transmit more =>
    obtain ⟨transmitted, sent, rfl⟩ := map_eq_some_iff.mp received
    exact .inr ⟨more, transmitted, rfl, sent, rfl⟩
  | post =>
    obtain ⟨⟨posting, -⟩, -⟩ := ite_none_right_eq_some.mp received
    exact nomatch parked.receiver.symm.trans posting
  | close =>
    obtain ⟨closes, -⟩ := ite_none_right_eq_some.mp received
    exact nomatch parked.receiver.symm.trans closes
  | sync | begin | dmaDone | drain =>
    simp only [WriteStorage.receiverStep, parked.receiver] at received
    cases received
  | _ => cases received

end

theorem BulkStorage.step_of_parked {data : Nat → UInt8} {storage next : BulkStorage}
    (parked : WriteParked storage.toWriteStorage)
    (noData : storage.stage = .stageData → ¬storage.cbw.DirOut) {action : BulkAction}
    (taken : storage.step data action = some next) :
    (∃ readAction transmitted, storage.toStorage.step readAction = some transmitted ∧
        next = { storage with toStorage := transmitted }) ∨
      ∃ count, 0 < count ∧ storage.stage = .stageCsw ∧ storage.MaySend count ∧
        next = storage.wrongPacket count := by
  cases action with
  | read action =>
    obtain ⟨transmitted, sent, rfl⟩ := map_eq_some_iff.mp taken
    exact .inl ⟨action, transmitted, sent, rfl⟩
  | wrongPacket count =>
    obtain ⟨⟨stage, positive, -, maySend⟩, ⟨⟩⟩ := ite_none_right_eq_some.mp taken
    exact .inr ⟨count, positive, stage, maySend, rfl⟩
  | write =>
    obtain ⟨maySend, sent⟩ := ite_none_right_eq_some.mp taken
    obtain ⟨_, stepped, rfl⟩ := map_eq_some_iff.mp sent
    cases parked.step stepped with
    | inl isPacket =>
      obtain ⟨_, rfl, stage, positive⟩ := isPacket
      cases maySend with
      | inl none => exact absurd none positive.ne'
      | inr isOut => exact absurd isOut.1 (noData stage)
    | inr isTransmit =>
      obtain ⟨more, transmitted, rfl, out, rfl⟩ := isTransmit
      exact .inl ⟨.transmit more, transmitted, out, rfl⟩

structure Sending (cbw : SignedCbw) (datalen unit : Nat) (storage : BulkStorage) : Prop where
  isCbw : storage.cbw = cbw
  dirIn : ¬cbw.DirOut
  within : datalen ≤ cbw.DataTransferLength
  positive : 0 < datalen
  parked : WriteParked storage.toWriteStorage
  nothing : storage.supplied = 0
  dataIn : ∃ delivered, DataIn datalen unit delivered storage.toStorage

section

variable {datalen unit delivered : Nat} {storage : BulkStorage}

theorem Sending.step (sending : Sending cbw datalen unit storage) {action : BulkAction}
    (taken : storage.step data action = some next) :
    Sending cbw datalen unit next ∧
      next.toStorage.inWork datalen < storage.toStorage.inWork datalen ∧
      (storage.stage = .stageData → next.Residue ≤ storage.Residue) := by
  obtain ⟨isCbw, dirIn, within, positive, parked, nothing, _, dataIn⟩ := sending
  have notOut : ¬storage.cbw.DirOut := isCbw ▸ dirIn
  cases step_of_parked parked (fun _ => notOut) taken with
  | inl isRead =>
    obtain ⟨_, _, stepped, rfl⟩ := isRead
    obtain ⟨later, less, residue⟩ := dataIn.step stepped
    exact ⟨⟨isCbw, dirIn, within, positive, { parked with }, nothing, later⟩, less, residue⟩
  | inr isWrong =>
    obtain ⟨_, some, -, maySend, -⟩ := isWrong
    cases maySend with
    | inl none => exact absurd none some.ne'
    | inr isOut => exact absurd isOut.1 notOut

theorem InPhase.dataBytes {storage : Storage}
    (phase : InPhase datalen unit delivered storage.traffic) :
    storage.dataBytes < datalen ∨ storage.dataBytes = datalen ∧
      (storage.CswSent ∨ ∃ txcnt, txcnt < bulkCswSize ∧
        storage.inFlight = [⟨.csw, bulkCswSize, txcnt⟩] ∧ storage.callback = .idle) := by
  have none (delivering : Delivering datalen unit delivered storage.traffic)
      (nothing : storage.inFlight = []) : storage.dataBytes < datalen := by
    unfold Storage.dataBytes
    rw [nothing, show (storage.host.map Packet.dataSize).sum = _ from delivering.dataSize]
    exact delivering.more
  cases phase with
  | starting delivering _ nothing | paused delivering _ nothing
  | inCallback delivering _ nothing => exact .inl (none delivering nothing)
  | sending delivering _ txcnt isData _ _ below one =>
    have fits := delivering.unit_le
    refine .inl ?_
    unfold Storage.dataBytes
    rw [show storage.inFlight = _ from one,
      show (storage.host.map Packet.dataSize).sum = _ from delivering.dataSize]
    simp only [map_cons, map_nil, sum_singleton, Transmission.dataSent,
      if_neg isData]
    omega
  | closing ending txcnt below one =>
    have isOne : storage.inFlight = [⟨.csw, bulkCswSize, txcnt⟩] := one
    refine .inr ⟨?_, .inr ⟨txcnt, below, isOne, ending.idle⟩⟩
    unfold Storage.dataBytes
    rw [isOne]
    exact ending.dataSize
  | finished ending nothing csw =>
    have isEmpty : storage.inFlight = [] := nothing
    refine .inr ⟨?_, .inl csw⟩
    unfold Storage.dataBytes
    rw [isEmpty]
    exact ending.dataSize

theorem InPhase.withinBuffer {storage : Storage}
    (phase : InPhase datalen unit delivered storage.traffic) :
    ∀ transmission ∈ storage.inFlight, ∀ size, transmission.source = .command size →
      transmission.txsize ≤ bufSizCmddata := by
  intro transmission flying size isCommand
  have nonempty := ne_nil_of_mem flying
  cases phase with
  | starting _ _ none | paused _ _ none | inCallback _ _ none | finished _ none =>
    exact absurd none nonempty
  | sending _ source _ _ sized small _ one =>
    rw [show storage.inFlight = _ from one, mem_singleton] at flying
    subst flying
    have isSource : source = .command size := isCommand
    rw [← sized, isSource]
    exact small size isSource
  | closing _ _ _ one =>
    rw [show storage.inFlight = _ from one, mem_singleton] at flying
    subst flying
    cases isCommand

theorem Storage.step_transmit_csw {storage : Storage} {source : Source} {size txcnt : Nat}
    {rest : List Transmission} (one : storage.inFlight = ⟨source, size, txcnt⟩ :: rest)
    (below : txcnt < size) (idle : storage.callback = .idle) :
    storage.step (.transmit 1) ≠ none := by
  unfold Storage.step
  rw [one]
  dsimp only
  rw [if_pos ⟨idle, one_pos, below⟩]
  exact some_ne_none _

theorem BulkStorage.read_of_stuck (stuck : ∀ action, storage.step data action = none)
    (action : ReadAction) : storage.toStorage.step action = none :=
  map_eq_none_iff.mp (stuck (.read action))

theorem Sending.bounding (data : Nat → UInt8) (cbw : SignedCbw) (datalen unit : Nat) :
    Bounding data cbw (Sending cbw datalen unit) fun storage =>
      storage.toStorage.inWork datalen where
  step _ _ _ sending taken := sending.step taken
  withinLength storage sending := by
    obtain ⟨delivered, dataIn⟩ := sending.dataIn
    have within := sending.within
    cases dataIn.phase.dataBytes with
    | inl less => omega
    | inr all => omega
  withinBuffer storage sending := by
    obtain ⟨delivered, dataIn⟩ := sending.dataIn
    exact dataIn.phase.withinBuffer
  done storage sending stuck moved := by
    obtain ⟨delivered, dataIn⟩ := sending.dataIn
    have within := sending.within
    have positive := sending.positive
    have taken : storage.dataBytes = cbw.DataTransferLength := by
      cases moved with
      | inl taken => exact taken
      | inr supplied =>
        have nothing := sending.nothing
        omega
    cases dataIn.phase.dataBytes with
    | inl less => omega
    | inr all =>
      cases all.2 with
      | inl sent => exact sent
      | inr flying =>
        obtain ⟨_, below, one, idle⟩ := flying
        exact absurd (read_of_stuck stuck _) (step_transmit_csw one below idle)

end

structure Resting (storage : Storage) : Prop where
  idle : storage.callback = .idle
  quiet : Quiet storage.traffic
  underway : storage.readThread = .reading ∨ storage.readThread = .filled →
    storage.g_read_xfer.count_done < storage.g_read_xfer.count

structure Unseen (before after : Storage) : Prop where
  inFlight : after.inFlight = before.inFlight
  host : after.host = before.host
  stage : after.stage = before.stage
  residue : after.Residue = before.Residue
  status : after.Status = before.Status
  callback : after.callback = before.callback
  work : after.threadWork < before.threadWork

variable {after : Storage} {before : Storage}

theorem Resting.thread (resting : Resting before)
    (step : ThreadStep before after) : Resting after ∧ Unseen before after := by
  cases step.traffic with
  | sends due more => exact (resting.quiet.not_due due more).elim
  | silent _ grows _ same =>
    have callback := congrArg Traffic.callback same
    exact ⟨⟨callback.trans resting.idle, same ▸ resting.quiet.counted grows, step.underway⟩,
      congrArg Traffic.inFlight same, congrArg Traffic.host same, congrArg Traffic.stage same,
      congrArg Traffic.Residue same, step.status, callback, step.work⟩

theorem Resting.step (resting : Resting before) {action : ReadAction}
    (taken : before.step action = some after) :
    (∃ more, action = .transmit more) ∨ Resting after ∧ Unseen before after := by
  cases action with
  | transmit more => exact .inl ⟨more, rfl⟩
  | post =>
    obtain ⟨⟨posting, -⟩, -⟩ := ite_none_right_eq_some.mp taken
    exact nomatch resting.idle.symm.trans posting
  | resume =>
    obtain ⟨posted, -⟩ := ite_none_right_eq_some.mp taken
    exact nomatch resting.idle.symm.trans posted
  | fetch | check | sdcRead | fill | cbwPost =>
    have ofThread := threadStep resting.underway (by trivial) taken
    exact .inr (resting.thread ofThread)

/-! ### Commands without a data phase -/

structure OnlyCsw (storage : Storage) : Prop where
  flying : ∀ transmission ∈ storage.inFlight,
    transmission.source = .csw ∧ transmission.txcnt < transmission.txsize
  host : ∀ packet ∈ storage.host, ∃ residue status, packet = .csw residue status

/-- A command that has been turned down or has no data: the CSW is on its way or
at the host, or it waits for the rest of what the host sends. -/
structure Rejected (cbw : SignedCbw) (storage : BulkStorage) : Prop where
  isCbw : storage.cbw = cbw
  parked : WriteParked storage.toWriteStorage
  resting : Resting storage.toStorage
  onlyCsw : OnlyCsw storage.toStorage
  noData : storage.stage ≠ .stageData
  counted : storage.stage = .stageCsw → storage.error_datalen = storage.supplied
  started : storage.inFlight ≠ [] ∨ storage.host ≠ [] ∨
    storage.stage = .stageCsw ∧ storage.supplied < cbw.DataTransferLength

def Storage.bytesLeft (storage : Storage) : Nat :=
  (storage.inFlight.map fun transmission => transmission.txsize - transmission.txcnt).sum

def BulkStorage.rejectWork (storage : BulkStorage) : Nat :=
  14 * (storage.cbw.DataTransferLength - storage.supplied) + storage.bytesLeft + storage.threadWork

section

variable {storage : BulkStorage}

theorem OnlyCsw.dataBytes {storage : Storage} (onlyCsw : OnlyCsw storage) :
    storage.dataBytes = 0 := by
  unfold Storage.dataBytes
  have flying : (storage.inFlight.map Transmission.dataSent).sum = 0 := by
    refine List.sum_eq_zero_iff_forall_eq_nat.mpr fun size inFlight => ?_
    obtain ⟨transmission, isFlying, rfl⟩ := List.mem_map.mp inFlight
    exact if_pos (onlyCsw.flying transmission isFlying).1
  have host : (storage.host.map Packet.dataSize).sum = 0 := by
    refine List.sum_eq_zero_iff_forall_eq_nat.mpr fun size atHost => ?_
    obtain ⟨packet, isThere, rfl⟩ := List.mem_map.mp atHost
    obtain ⟨_, _, rfl⟩ := onlyCsw.host packet isThere
    rfl
  rw [flying, host]

theorem OnlyCsw.startTransmit {storage : Storage} (onlyCsw : OnlyCsw storage) :
    OnlyCsw (storage.startTransmit .csw bulkCswSize) := by
  refine ⟨fun transmission flying => ?_, onlyCsw.host⟩
  cases mem_append.mp flying with
  | inl old => exact onlyCsw.flying transmission old
  | inr new =>
    obtain rfl := mem_singleton.mp new
    exact ⟨rfl, by decide⟩

theorem Rejected.thread (rejected : Rejected cbw storage)
    (resting : Resting after) (same : Unseen storage.toStorage after) :
    Rejected cbw { storage with toStorage := after } ∧
      rejectWork { storage with toStorage := after } < storage.rejectWork := by
  obtain ⟨isCbw, parked, -, onlyCsw, noData, counted, started⟩ := rejected
  have less := same.work
  refine ⟨⟨isCbw, { parked with }, resting, ⟨?_, ?_⟩, ?_, ?_, ?_⟩, ?_⟩ <;>
    simp only [rejectWork, bytesLeft, same.inFlight, same.host, same.stage]
  exacts [onlyCsw.flying, onlyCsw.host, noData, counted, started, by omega]

theorem Storage.transmitted_of_not_data {storage : Storage} (noData : storage.stage ≠ .stageData)
    (txcnt : Nat) : storage.transmitted txcnt = { storage with stage := .stageCbw } := by
  unfold Storage.transmitted
  cases stage : storage.stage with
  | stageData => exact absurd stage noData
  | stageCsw => rfl
  | stageCbw =>
    dsimp only
    rw [← stage]

section

variable (rejected : Rejected cbw storage)
include rejected

theorem Rejected.transmit {more : Nat}
    (taken : storage.toStorage.step (.transmit more) = some after) :
    Rejected cbw { storage with toStorage := after } ∧
      rejectWork { storage with toStorage := after } < storage.rejectWork := by
  obtain ⟨isCbw, parked, ⟨idle, quiet, underway⟩, onlyCsw, noData, counted, _⟩ := rejected
  obtain ⟨transmission, rest, flying, _, _, rfl⟩ := step_transmit taken
  have isFlying : transmission ∈ storage.inFlight := flying ▸ (.head _)
  have others (other : Transmission) (isOther : other ∈ rest) : other ∈ storage.inFlight :=
    flying ▸ .tail _ isOther
  obtain ⟨isCsw, _⟩ := onlyCsw.flying transmission isFlying
  have left : storage.bytesLeft = transmission.txsize - transmission.txcnt +
      (rest.map fun transmission => transmission.txsize - transmission.txcnt).sum := by
    unfold bytesLeft
    rw [flying, map_cons, sum_cons]
  unfold usbstorageDataTransmitted
  by_cases goesOn : transmission.txsize > transmission.txcnt + more
  · rw [if_pos goesOn]
    refine ⟨⟨isCbw, { parked with },
      ⟨idle, ⟨quiet.unpaused, quiet.begun⟩, underway⟩, ⟨fun other isThere => ?_, onlyCsw.host⟩,
      noData, counted, .inl nofun⟩, ?_⟩
    · cases mem_cons.mp isThere with
      | inl same => exact same ▸ ⟨isCsw, goesOn⟩
      | inr isOther => exact onlyCsw.flying other (others other isOther)
    · unfold rejectWork
      rw [left]
      unfold bytesLeft
      simp only [map_cons, sum_cons]
      exact Nat.add_lt_add_right (Nat.add_lt_add_left (by omega) _) _
  · have delivered : (storage.toStorage.deliver transmission.source rest).stage ≠ .stageData :=
      noData
    rw [if_neg goesOn, transmitted_of_not_data delivered]
    refine ⟨⟨isCbw, { parked with }, ⟨idle, ⟨quiet.unpaused, quiet.begun⟩, underway⟩,
      ⟨fun other isOther => ?_, fun packet isThere => ?_⟩, nofun, nofun, .inr (.inl ?_)⟩, ?_⟩
    · exact onlyCsw.flying other (others other isOther)
    · cases mem_append.mp isThere with
      | inl old => exact onlyCsw.host packet old
      | inr new =>
        rw [mem_singleton.mp new, isCsw]
        exact ⟨_, _, rfl⟩
    · exact append_ne_nil_of_right_ne_nil _ nofun
    · unfold rejectWork
      rw [left]
      exact Nat.add_lt_add_right (Nat.add_lt_add_left (Nat.lt_add_of_pos_left (by omega)) _) _

theorem Rejected.wrongPacket {count : Nat}
    (isCsw : storage.stage = .stageCsw) (positive : 0 < count) (maySend : storage.MaySend count) :
    Rejected cbw (storage.wrongPacket count) ∧
      (storage.wrongPacket count).rejectWork < storage.rejectWork := by
  obtain ⟨rfl, parked, resting, onlyCsw, noData, counted, _⟩ := rejected
  have most := (maySend.resolve_left positive.ne').2
  have bounded := storage.cbw.length32
  have sum : u32 (storage.error_datalen + count) = storage.supplied + count := by
    rw [counted isCsw, u32_of_lt (by omega)]
  unfold BulkStorage.wrongPacket
  rw [sum]
  by_cases all : storage.supplied + count = storage.cbw.DataTransferLength
  · rw [if_pos all]
    have onlyCswAfter := onlyCsw.startTransmit
    refine ⟨⟨rfl, { parked with },
      { resting with quiet := ⟨resting.quiet.unpaused, resting.quiet.begun⟩ },
      ⟨onlyCswAfter.flying, onlyCswAfter.host⟩, nofun, nofun, .inl ?_⟩, ?_⟩
    · exact append_ne_nil_of_right_ne_nil _ nofun
    · unfold rejectWork bytesLeft Storage.threadWork
      simp only [Storage.startTransmit, map_append, sum_append, map_cons,
        map_nil, sum_singleton, bulkCswSize]
      omega
  · rw [if_neg all]
    refine ⟨⟨rfl, { parked with }, resting, onlyCsw, noData, fun _ => rfl,
      .inr (.inr ⟨isCsw, lt_of_le_of_ne most all⟩)⟩, ?_⟩
    unfold rejectWork
    dsimp only
    omega

theorem Rejected.step {action : BulkAction} (taken : storage.step data action = some next) :
    Rejected cbw next ∧ next.rejectWork < storage.rejectWork ∧
      (storage.stage = .stageData → next.Residue ≤ storage.Residue) := by
  suffices holds : Rejected cbw next ∧ next.rejectWork < storage.rejectWork from
    ⟨holds.1, holds.2, fun isData => absurd isData rejected.noData⟩
  cases step_of_parked rejected.parked (fun isData => absurd isData rejected.noData) taken with
  | inl isRead =>
    obtain ⟨_, _, stepped, rfl⟩ := isRead
    cases rejected.resting.step stepped with
    | inl transmits =>
      obtain ⟨_, rfl⟩ := transmits
      exact rejected.transmit stepped
    | inr thread => exact rejected.thread thread.1 thread.2
  | inr isWrong =>
    obtain ⟨_, positive, isCsw, maySend, rfl⟩ := isWrong
    exact rejected.wrongPacket isCsw positive maySend

end

theorem Rejected.bounding (data : Nat → UInt8) (cbw : SignedCbw) :
    Bounding data cbw (Rejected cbw) rejectWork where
  step _ _ _ rejected taken := rejected.step taken
  withinLength storage rejected := rejected.onlyCsw.dataBytes ▸ Nat.zero_le _
  withinBuffer storage rejected transmission flying size isCommand := by
    have isCsw := (rejected.onlyCsw.flying transmission flying).1
    exact nomatch isCsw.symm.trans isCommand
  done storage rejected stuck moved := by
    have nothing := rejected.onlyCsw.dataBytes
    have landed (none : storage.inFlight = []) : storage.host ≠ [] := by
      cases rejected.started with
      | inl flying => exact absurd none flying
      | inr later =>
        cases later with
        | inl host => exact host
        | inr waiting =>
          cases moved with
          | inl taken => omega
          | inr supplied => omega
    cases flying : storage.inFlight with
    | cons transmission =>
      have below := (rejected.onlyCsw.flying transmission (flying ▸ (.head _))).2
      exact absurd (read_of_stuck stuck _) (step_transmit_csw flying below rejected.resting.idle)
    | nil =>
      obtain ⟨packet, isThere⟩ := exists_mem_of_ne_nil _ (landed flying)
      obtain ⟨residue, status, rfl⟩ := rejected.onlyCsw.host packet isThere
      exact ⟨residue, status, isThere⟩

end

/-! ### Data from the host -/

structure ReadSide where
  callback : Callback
  isPaused : Bool
  xfer : BulkDataXfer
  thread : ReadThread
  mail : Nat
  cbwPosting : Bool

def Storage.readSide (storage : Storage) : ReadSide :=
  { callback := storage.callback
    isPaused := storage.g_isPaused
    xfer := storage.g_read_xfer
    thread := storage.readThread
    mail := storage.g_read_mbox
    cbwPosting := storage.cbwPosting }

def Receiver.announced : Receiver → Nat
  | .waitSync size => size
  | .starting size => size
  | _ => 0

structure WriteFrame (before after : WriteStorage) (bytes : Nat) : Prop where
  readSide : after.toStorage.readSide = before.toStorage.readSide
  residue : after.Residue ≤ before.Residue
  supply : after.Residue + before.rxcnt + before.receiver.announced + bytes =
    before.Residue + after.rxcnt + after.receiver.announced

section

variable {block count : Nat} {counts : Counts} {filling : Bool} {arrived onCard size : Nat}
  {storage : WriteStorage}

theorem Storage.readSide_of_transmit {storage next : Storage} {more : Nat}
    (noData : storage.stage ≠ .stageData) (taken : storage.step (.transmit more) = some next) :
    next.readSide = storage.readSide ∧ next.Residue = storage.Residue := by
  obtain ⟨transmission, rest, _, _, _, rfl⟩ := step_transmit taken
  have delivered : (storage.deliver transmission.source rest).stage ≠ .stageData := noData
  unfold usbstorageDataTransmitted
  dsimp only
  split
  case isTrue => exact ⟨rfl, rfl⟩
  case isFalse =>
    rw [transmitted_of_not_data delivered]
    exact ⟨rfl, rfl⟩

section

variable (pipe : WritePipe data block count counts filling arrived onCard storage)
include pipe

theorem WritePipe.packet_frame (idle : storage.receiver = .idle)
    (stage : storage.stage = .stageData) :
    WriteFrame storage (usbstorageDataReceived storage size) size := by
  have receiving := pipe.receiving
  rw [idle] at receiving
  have notAnnounced := congrArg Receiver.announced idle
  unfold usbstorageDataReceived
  cases receiving with
  | between _ empty =>
    have isEmpty : storage.rxcnt = 0 := empty
    rw [if_pos isEmpty]
    split
    case isTrue =>
      refine ⟨rfl, .refl, ?_⟩
      rw [notAnnounced]
      rfl
    case isFalse =>
      refine ⟨rfl, .refl, ?_⟩
      have bytes : (storage.beginReceive size).rxcnt = size := zero_add size
      rw [notAnnounced, bytes, isEmpty]
      rfl
  | midway _ some fits =>
    have nonzero : storage.rxcnt ≠ 0 := some.ne'
    have within : storage.rxcnt < storage.rxsize := fits
    rw [if_neg nonzero, if_pos within]
    refine ⟨rfl, .refl, ?_⟩
    rw [notAnnounced]
    exact add_assoc storage.Residue storage.rxcnt size
  | sending _ _ _ isCbw | finished _ isCbw => exact nomatch isCbw.symm.trans stage

theorem WritePipe.dmaDone_frame (sleeps : storage.receiver = .asleep size) :
    WriteFrame storage (storage.dmaDone data size) 0 := by
  have ordered := pipe.ordered
  have order := ordered.written.trans (ordered.fetched.trans ordered.posted)
  have receiving := pipe.receiving
  rw [sleeps] at receiving
  have notAnnounced := congrArg Receiver.announced sleeps
  cases receiving with
  | asleep _ _ _ part _ whole =>
    have stored := pipe.buffers.stored order part
    unfold WriteStorage.dmaDone WriteStorage.received
    by_cases full : (storage.stored data size).rxcnt = (storage.stored data size).rxsize
    · have isFull : storage.rxcnt = mmcsdBlockSize * bufferBlocks count counts.received :=
        full.trans whole
      have left : storage.Residue =
          mmcsdBlockSize * (count - 4 * (counts.received + 1)) + storage.rxcnt := by
        rw [pipe.buffers.residue, blocks_left count counts.received, mul_add, isFull, add_comm]
      rw [if_pos full, stored.bufferReceived_eq isFull]
      refine ⟨rfl, ?_, ?_⟩
      · rw [left]
        exact Nat.le_add_right _ _
      · rw [left, notAnnounced]
        rfl
    · rw [if_neg full]
      refine ⟨rfl, .refl, ?_⟩
      rw [notAnnounced]
      rfl

theorem WritePipe.receiverStep_frame {next : WriteStorage}
    (taken : storage.receiverStep data action = some next) :
    WriteFrame storage next action.bytes := by
  cases action with
  | packet =>
    obtain ⟨⟨idle, stage, -, -⟩, ⟨⟩⟩ := ite_none_right_eq_some.mp taken
    exact pipe.packet_frame idle stage
  | sync =>
    simp only [WriteStorage.receiverStep] at taken
    split at taken
    case h_1 size msg rest waits messages =>
      cases taken
      refine ⟨rfl, .refl, ?_⟩
      rw [waits]
      rfl
    case h_2 => cases taken
  | begin =>
    simp only [WriteStorage.receiverStep] at taken
    split at taken
    case h_1 size starts =>
      cases taken
      have receiving := pipe.receiving
      rw [starts] at receiving
      cases receiving with
      | starting _ announced =>
        have bytes : (storage.beginReceive size).rxcnt = size := zero_add size
        have empty : storage.rxcnt = 0 := announced.empty
        refine ⟨rfl, .refl, ?_⟩
        rw [starts, bytes, empty]
        rfl
    case h_2 => cases taken
  | dmaDone =>
    simp only [WriteStorage.receiverStep] at taken
    split at taken
    case h_1 size sleeps =>
      cases taken
      exact pipe.dmaDone_frame sleeps
    case h_2 => cases taken
  | post =>
    obtain ⟨⟨posting, -⟩, ⟨⟩⟩ := ite_none_right_eq_some.mp taken
    refine ⟨rfl, .refl, ?_⟩
    rw [posting]
    unfold WriteStorage.posted
    split <;> rfl
  | drain =>
    simp only [WriteStorage.receiverStep] at taken
    split at taken
    case h_1 i msg rest drains messages =>
      cases taken
      refine ⟨rfl, .refl, ?_⟩
      rw [drains]
      split <;> rfl
    case h_2 => cases taken
  | close =>
    obtain ⟨closes, ⟨⟩⟩ := ite_none_right_eq_some.mp taken
    refine ⟨rfl, .refl, ?_⟩
    rw [closes]
    rfl
  | transmit =>
    obtain ⟨_, sent, ⟨⟩⟩ := map_eq_some_iff.mp taken
    obtain ⟨_, rest, flying, -⟩ := step_transmit sent
    have noData : storage.stage ≠ .stageData := by
      cases pipe.receiving.going_or_drained with
      | inl going => cases flying.symm.trans going.inFlight
      | inr drained =>
        intro isData
        cases drained.2.2.symm.trans isData
    obtain ⟨readSide, residue⟩ := readSide_of_transmit noData sent
    refine ⟨readSide, residue.le, ?_⟩
    rw [residue]
    rfl
  | _ => cases taken

theorem WritePipe.step_frame {next : WriteStorage}
    (taken : storage.step data action = some next) : WriteFrame storage next action.bytes := by
  cases or_eq_some_iff.mp taken with
  | inl received => exact pipe.receiverStep_frame received
  | inr written =>
    obtain ⟨driver, rxcnt, receiver⟩ := WriteStorage.writerStep_frame written.2
    have noBytes : action.bytes = 0 := by
      cases action with
      | packet => cases written.2
      | _ => rfl
    refine ⟨congrArg Storage.readSide driver, le_of_eq (congrArg Storage.Residue driver), ?_⟩
    rw [driver, rxcnt, receiver, noBytes]
    rfl

theorem WritePipe.of_driver {driver : Storage}
    (same : WriteStorage.bus { storage with toStorage := driver } = storage.bus)
    (residue : driver.Residue = storage.Residue) :
    WritePipe data block count counts filling arrived onCard
      { storage with toStorage := driver } := by
  refine { pipe with buffers := pipe.buffers.of_eq rfl rfl residue rfl, receiving := ?_ }
  rw [same]
  exact pipe.receiving

end

theorem InWrite.onlyCsw (going : InWrite storage.bus) : OnlyCsw storage.toStorage := by
  have inFlight : storage.inFlight = [] := going.inFlight
  have host : storage.host = [] := going.host
  refine ⟨fun transmission flying => ?_, fun packet isThere => ?_⟩
  · rw [inFlight] at flying
    cases flying
  · rw [host] at isThere
    cases isThere

theorem Receiving.onlyCsw {received synced posted : Nat} {receiver : Receiver}
    (receiving : Receiving count received synced posted storage.bus receiver filling arrived) :
    OnlyCsw storage.toStorage := by
  cases receiving with
  | between going | asleep _ going | midway going | posting going | draining i going
  | closing going => exact going.onlyCsw
  | waiting _ announced | starting _ announced => exact announced.going.onlyCsw
  | sending _ _ below _ one host =>
    refine ⟨fun transmission flying => ?_, fun packet isThere => ?_⟩
    · rw [show storage.inFlight = _ from one] at flying
      obtain rfl := mem_singleton.mp flying
      exact ⟨rfl, below⟩
    · rw [show storage.host = _ from host] at isThere
      cases isThere
  | finished _ _ none host =>
    refine ⟨fun transmission flying => ?_, fun packet isThere => ?_⟩
    · rw [show storage.inFlight = _ from none] at flying
      cases flying
    · rw [show storage.host = _ from host] at isThere
      exact ⟨0, 0, mem_singleton.mp isThere⟩

end

structure Accepting (data : Nat → UInt8) (cbw : SignedCbw) (storage : BulkStorage) : Prop where
  isCbw : storage.cbw = cbw
  inPipe : InPipe data cbw.block cbw.count storage.toWriteStorage
  resting : Resting storage.toStorage
  positive : 0 < cbw.DataTransferLength
  supply : storage.supplied + storage.Residue =
    cbw.DataTransferLength + storage.rxcnt + storage.receiver.announced

def BulkStorage.acceptWork (storage : BulkStorage) : Nat :=
  storage.toWriteStorage.work + storage.threadWork

section

variable {storage : BulkStorage}

section

variable (accepting : Accepting data cbw storage)
include accepting

theorem Accepting.thread (resting : Resting after) (same : Unseen storage.toStorage after) :
    Accepting data cbw { storage with toStorage := after } ∧
      acceptWork { storage with toStorage := after } < storage.acceptWork := by
  obtain ⟨isCbw, ⟨counts, filling, arrived, onCard, pipe⟩, -, positive, supply⟩ := accepting
  have bus : WriteStorage.bus { storage.toWriteStorage with toStorage := after } =
      storage.toWriteStorage.bus := by
    unfold WriteStorage.bus
    simp only [same.stage, same.status, same.callback, same.inFlight, same.host]
  have less := same.work
  refine ⟨⟨isCbw, ⟨counts, filling, arrived, onCard, pipe.of_driver bus same.residue⟩, resting,
    positive, ?_⟩, ?_⟩ <;>
    simp only [acceptWork, WriteStorage.work, bytesOut, same.residue, same.inFlight, same.host]
  exacts [supply, by omega]

theorem Accepting.write
    {after : WriteStorage} (taken : storage.toWriteStorage.step data action = some after) :
    Accepting data cbw { storage with
        toWriteStorage := after
        supplied := storage.supplied + action.bytes } ∧
      acceptWork { storage with
        toWriteStorage := after
        supplied := storage.supplied + action.bytes } < storage.acceptWork ∧
      after.Residue ≤ storage.Residue := by
  obtain ⟨isCbw, inPipe, ⟨idle, quiet, _⟩, positive, _⟩ := accepting
  obtain ⟨_, _, _, _, pipe⟩ := id inPipe
  obtain ⟨later, _⟩ := inPipe.step taken
  have frame := pipe.step_frame taken
  obtain ⟨callback, isPaused, xfer, thread, mail, cbwPosting⟩ := ReadSide.mk.inj frame.readSide
  have threadWork : after.threadWork = storage.threadWork := by
    unfold Storage.threadWork
    rw [xfer, thread, mail, cbwPosting]
  refine ⟨⟨isCbw, later, ⟨callback.trans idle, ⟨isPaused.trans quiet.unpaused, ?_⟩, ?_⟩, positive,
    ?_⟩, ?_, frame.residue⟩
  · dsimp only [traffic]
    rw [xfer]
    exact quiet.begun
  · dsimp only
    rwa [thread, xfer]
  · have := frame.supply
    dsimp only
    omega
  · unfold acceptWork
    dsimp only
    omega

theorem Accepting.step {action : BulkAction} (taken : storage.step data action = some next) :
    Accepting data cbw next ∧ next.acceptWork < storage.acceptWork ∧
      (storage.stage = .stageData → next.Residue ≤ storage.Residue) := by
  cases action with
  | write =>
    obtain ⟨-, sent⟩ := ite_none_right_eq_some.mp taken
    obtain ⟨_, stepped, rfl⟩ := map_eq_some_iff.mp sent
    obtain ⟨later, less, residue⟩ := accepting.write stepped
    exact ⟨later, less, fun _ => residue⟩
  | read action =>
    obtain ⟨transmitted, stepped, rfl⟩ := map_eq_some_iff.mp taken
    cases accepting.resting.step stepped with
    | inl transmits =>
      obtain ⟨more, rfl⟩ := transmits
      have asWrite : storage.toWriteStorage.step data (.transmit more) =
          some { storage.toWriteStorage with toStorage := transmitted } :=
        or_eq_some_iff.mpr (.inl (map_eq_some_iff.mpr ⟨transmitted, stepped, rfl⟩))
      obtain ⟨later, less, residue⟩ := accepting.write asWrite
      exact ⟨later, less, fun _ => residue⟩
    | inr thread =>
      obtain ⟨later, less⟩ := accepting.thread thread.1 thread.2
      exact ⟨later, less, fun _ => thread.2.residue.le⟩
  | wrongPacket =>
    obtain ⟨⟨isCsw, -⟩, -⟩ := ite_none_right_eq_some.mp taken
    obtain ⟨_, _, _, _, pipe⟩ := accepting.inPipe
    cases pipe.receiving.going_or_drained with
    | inl going => exact nomatch isCsw.symm.trans going.stage
    | inr drained => exact nomatch isCsw.symm.trans drained.2.2

end

theorem WritePipe.packetRoom_le {block count : Nat} {counts : Counts} {filling : Bool}
    {arrived onCard : Nat} {storage : WriteStorage}
    (pipe : WritePipe data block count counts filling arrived onCard storage)
    (idle : storage.receiver = .idle) (stage : storage.stage = .stageData) :
    storage.packetRoom ≤ storage.Residue - storage.rxcnt := by
  have receiving := pipe.receiving
  rw [idle] at receiving
  unfold WriteStorage.packetRoom
  cases receiving with
  | between _ empty =>
    have isEmpty : storage.rxcnt = 0 := empty
    rw [if_pos isEmpty, isEmpty]
    exact min_le_right _ _
  | midway _ some _ whole =>
    have nonzero : storage.rxcnt ≠ 0 := some.ne'
    have left : storage.rxsize ≤ storage.Residue := by
      rw [show storage.rxsize = _ from whole, pipe.buffers.residue, blocks_left, mul_add]
      exact Nat.le_add_right _ _
    rw [if_neg nonzero]
    exact Nat.sub_le_sub_right left _
  | sending _ _ _ isCbw | finished _ isCbw => exact nomatch isCbw.symm.trans stage

theorem Accepting.bounding (data : Nat → UInt8) (cbw : SignedCbw) :
    Bounding data cbw (Accepting data cbw) acceptWork where
  step _ _ _ accepting taken := accepting.step taken
  withinLength storage accepting := by
    obtain ⟨counts, filling, arrived, onCard, pipe⟩ := accepting.inPipe
    rw [pipe.receiving.onlyCsw.dataBytes]
    exact Nat.zero_le _
  withinBuffer storage accepting transmission flying size isCommand := by
    obtain ⟨counts, filling, arrived, onCard, pipe⟩ := accepting.inPipe
    have isCsw := (pipe.receiving.onlyCsw.flying transmission flying).1
    exact nomatch isCsw.symm.trans isCommand
  done storage accepting stuck moved := by
    obtain ⟨counts, filling, arrived, onCard, pipe⟩ := accepting.inPipe
    have nothing := pipe.receiving.onlyCsw.dataBytes
    have positive := accepting.positive
    have all : storage.supplied = cbw.DataTransferLength := by
      cases moved with
      | inl taken => omega
      | inr supplied => exact supplied
    have stuckWrite (action : WriteAction) (noBytes : action.bytes = 0) :
        storage.toWriteStorage.step data action = none := by
      have maySend : storage.MaySend action.bytes := .inl noBytes
      have blocked := stuck (.write action)
      unfold BulkStorage.step at blocked
      dsimp only at blocked
      rw [if_pos maySend] at blocked
      exact map_eq_none_iff.mp blocked
    -- All bytes have been sent, so the callback does not wait for a packet.
    have fed : ¬(storage.receiver = .idle ∧ storage.stage = .stageData ∧
        0 < storage.packetRoom) := by
      rintro ⟨idle, stage, _⟩
      have most := pipe.packetRoom_le idle stage
      have supply := accepting.supply
      rw [idle] at supply
      dsimp only [Receiver.announced] at supply
      omega
    obtain ⟨-, host, -⟩ := pipe.done_of_stuck stuckWrite fed
    have isThere : .csw 0 0 ∈ storage.host := host ▸ .head _
    exact ⟨0, 0, isThere⟩

end

end Hfirmware.Usb
