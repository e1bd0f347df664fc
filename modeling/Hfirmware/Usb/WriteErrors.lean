/-
Card errors while the USB mass storage driver writes, and what the host is told about
errors in general.
-/

import Hfirmware.Usb.ReadErrors
import Hfirmware.Usb.WritePipeline

namespace Hfirmware.Usb

open List Option WriteStorage CardResults Storage GuardedRun

def repeatWriteTimes : Nat := 5

structure FaultyWrite where
  driver : WriteStorage
  attempts : List (Nat × Bool)

def WriteStorage.writeAddress (storage : WriteStorage) : Nat :=
  u32 (storage.g_write_xfer.block + storage.g_write_xfer.count_done)

/-- The retry loop of `UsbStorageWriteThread`. When it gives up, the buffer is lost. -/
def FaultyWrite.sdcWrite (result : CardResults) (state : FaultyWrite) : FaultyWrite :=
  let address := state.driver.writeAddress
  { driver :=
      if result.works repeatWriteTimes address then state.driver.sdcWrite
      else { state.driver with writer := .written }
    attempts := state.attempts ++ result.attempts repeatWriteTimes address }

def FaultyWrite.step (result : CardResults) (data : Nat → UInt8) (state : FaultyWrite) :
    WriteAction → Option FaultyWrite
  | .sdcWrite =>
    if state.driver.writer = .writing then some (state.sdcWrite result) else none
  | action => (state.driver.step data action).map fun driver => { state with driver }

def WriteStorage.withCard (card : List (Nat × List (Option UInt8))) (storage : WriteStorage) :
    WriteStorage :=
  { storage with card }

variable {next : WriteStorage}

section

variable {card : List (Nat × List (Option UInt8))} {storage : WriteStorage} {data : Nat → UInt8}

theorem withCard_ite {branch : Prop} [Decidable branch] {yes no yesCard noCard : WriteStorage}
    (whenYes : yesCard = yes.withCard card) (whenNo : noCard = no.withCard card) :
    (if branch then yesCard else noCard) = (if branch then yes else no).withCard card := by
  rw [apply_ite (withCard card), whenYes, whenNo]

theorem withCard_guard {branch : Prop} [Decidable branch] {nextCard : WriteStorage}
    (same : nextCard = next.withCard card) :
    (if branch then some nextCard else none) =
      (if branch then some next else none).map (withCard card) := by
  rw [apply_ite (Option.map (withCard card)), same]
  rfl

theorem withCard_received : (storage.withCard card).received = storage.received.withCard card :=
  withCard_ite rfl rfl

theorem withCard_dataReceived (count : Nat) : usbstorageDataReceived (storage.withCard card) count =
    (usbstorageDataReceived storage count).withCard card :=
  withCard_ite (withCard_ite rfl rfl) (withCard_ite rfl withCard_received)

theorem withCard_receiverStep (action : WriteAction) :
    (storage.withCard card).receiverStep data action =
      (storage.receiverStep data action).map (withCard card) := by
  cases action with
  | packet count => exact withCard_guard (withCard_dataReceived count)
  | sync | drain =>
    dsimp only [receiverStep, withCard]
    cases storage.receiver <;> cases storage.g_write_sync_mbox <;> rfl
  | begin =>
    dsimp only [receiverStep, withCard]
    cases storage.receiver <;> rfl
  | dmaDone =>
    have receiver : (storage.withCard card).receiver = storage.receiver := rfl
    unfold receiverStep
    rw [receiver]
    cases storage.receiver with
    | asleep count =>
      exact congrArg some (@withCard_received card (storage.stored data count))
    | _ => rfl
  | post | close => exact withCard_guard rfl
  | transmit =>
    unfold receiverStep
    rw [Option.map_map]
    rfl
  | _ => rfl

theorem withCard_writerStep {action : WriteAction} (notWrite : action ≠ .sdcWrite) :
    (storage.withCard card).writerStep action =
      (storage.writerStep action).map (withCard card) := by
  cases action with
  | fetch | written | fetchS | recheck => exact withCard_guard rfl
  | check => exact withCard_guard (withCard_ite rfl rfl)
  | sdcWrite => exact absurd rfl notWrite
  | postSync =>
    have writer : (storage.withCard card).writer = storage.writer := rfl
    unfold writerStep
    rw [writer]
    cases storage.writer with
    | posting => exact withCard_guard rfl
    | _ => rfl
  | _ => rfl

theorem withCard_step {action : WriteAction} (notWrite : action ≠ .sdcWrite) :
    (storage.withCard card).step data action = (storage.step data action).map (withCard card) := by
  unfold WriteStorage.step
  rw [withCard_receiverStep, withCard_writerStep notWrite]
  cases storage.receiverStep data action <;> rfl

theorem card_of_step {action : WriteAction} (notWrite : action ≠ .sdcWrite)
    (taken : storage.step data action = some next) : next.card = storage.card := by
  have same := @withCard_step storage.card storage data action notWrite
  change storage.step data action = _ at same
  rw [taken] at same
  have whole := some.inj same
  exact (congrArg WriteStorage.card whole).trans rfl

end

theorem FaultyWrite.step_of_ne {result : CardResults} {data : Nat → UInt8} {state : FaultyWrite}
    {action : WriteAction} (notWrite : action ≠ .sdcWrite) :
    state.step result data action =
      (state.driver.step data action).map fun driver => { state with driver } := by
  cases action with
  | sdcWrite => exact absurd rfl notWrite
  | _ => rfl

/-- The driver on a failing card beside the driver on a good one: a buffer that is on the
second card has been tried on the first. -/
structure WritePair (result : CardResults) (data : Nat → UInt8) (block count : Nat)
    (state : FaultyWrite) (good : WriteStorage) : Prop where
  inPipe : InPipe data block count good
  same : state.driver = good.withCard state.driver.card
  tried : ∀ k, 4 * k < good.card.length →
    result.attempts repeatWriteTimes (u32 (block + 4 * k)) ⊆ state.attempts
  sound : ∀ address, (address, true) ∈ state.attempts → result.works repeatWriteTimes address = true

section

variable {result : CardResults} {data : Nat → UInt8} {block count : Nat} {state : FaultyWrite}
  {good : WriteStorage}

theorem InPipe.writing_at (inPipe : InPipe data block count good)
    (writes : good.writer = .writing) :
    ∃ k, good.card.length = 4 * k ∧ good.sdcWrite.card.length ≤ 4 * (k + 1) ∧
      good.writeAddress = u32 (block + 4 * k) := by
  obtain ⟨counts, _, _, _, pipe⟩ := inPipe
  have writing := pipe.writing
  rw [writes] at writing
  cases writing with
  | writing balance =>
    obtain ⟨before, more⟩ := pipe.before_of_fetched balance
    refine ⟨counts.written, ?_, ?_, ?_⟩
    · rw [pipe.card, length_expectedSectors, blocks_done_of_lt more]
    · rw [pipe.buffers.sdcWrite before more pipe.card, length_expectedSectors]
      exact min_le_left _ _
    · unfold writeAddress
      rw [pipe.buffers.fromBlock, pipe.buffers.done, blocks_done_of_lt more]

section

variable (pair : WritePair result data block count state good)
include pair

theorem WritePair.sdcWrite (writes : good.writer = .writing) :
    WritePair result data block count (state.sdcWrite result) good.sdcWrite := by
  have address : state.driver.writeAddress = good.writeAddress := by
    rw [pair.same]
    rfl
  have attempts : (state.sdcWrite result).attempts =
      state.attempts ++ result.attempts repeatWriteTimes good.writeAddress :=
    congrArg (fun address => state.attempts ++ result.attempts repeatWriteTimes address) address
  obtain ⟨k, _, _, place⟩ := pair.inPipe.writing_at writes
  constructor
  · have taken : good.step data .sdcWrite = some good.sdcWrite := if_pos writes
    exact (pair.inPipe.step taken).1
  · unfold FaultyWrite.sdcWrite
    dsimp only
    rw [pair.same]
    split <;> rfl
  · intro j _
    rw [attempts]
    rcases lt_or_ge (4 * j) good.card.length with before | now
    · exact List.Subset.trans (pair.tried j before) (subset_append_left _ _)
    · obtain rfl : j = k := by omega
      rw [place]
      exact subset_append_right _ _
  · intro other member
    rcases mem_append.mp member with before | now
    · exact pair.sound other before
    · obtain ⟨rfl, success⟩ := mem_attempts.mp now
      exact success

theorem WritePair.other {action : WriteAction} (notWrite : action ≠ .sdcWrite)
    (taken : good.step data action = some next) :
    WritePair result data block count { state with driver := next.withCard state.driver.card }
      next :=
  ⟨(pair.inPipe.step taken).1, rfl, card_of_step notWrite taken ▸ pair.tried, pair.sound⟩

theorem WritePair.step (action : WriteAction) :
    state.step result data action = none ∧ good.step data action = none ∨
      ∃ next goodNext, state.step result data action = some next ∧
        good.step data action = some goodNext ∧
        WritePair result data block count next goodNext := by
  by_cases writes : action = .sdcWrite
  · subst writes
    have guard : state.driver.writer = good.writer := by
      rw [pair.same]
      rfl
    by_cases writing : good.writer = .writing
    · right
      exact ⟨state.sdcWrite result, good.sdcWrite, if_pos (guard.trans writing),
        if_pos writing, pair.sdcWrite writing⟩
    · left
      exact ⟨if_neg (guard ▸ writing), if_neg writing⟩
  · have stepped := @FaultyWrite.step_of_ne result data state action writes
    rw [pair.same, withCard_step writes] at stepped
    cases taken : good.step data action with
    | none =>
      left
      rw [taken] at stepped
      exact ⟨stepped, rfl⟩
    | some next =>
      right
      rw [taken] at stepped
      exact ⟨_, next, stepped, rfl, pair.other writes taken⟩

end

end

def WriteErrorsReported (result : CardResults) (data : Nat → UInt8) (storage : WriteStorage)
    (cbw : BulkCbw) : Prop :=
  ∀ actions final,
    runEnabled (FaultyWrite.step result data) ⟨usbstorageHandleWriteCbw storage cbw, []⟩ actions =
      some final →
    Reported final.driver.host → ∀ k < bufferCount cbw.count,
      (u32 (cbw.block + 4 * k), true) ∈ final.attempts

def WriteWorks (result : CardResults) (cbw : BulkCbw) : Prop :=
  cbw.DataTransferLength = cbw.count * mmcsdBlockSize → 0 < cbw.count → cbw.Flags &&& 0x80 = 0 ∧
      ∀ k < bufferCount cbw.count, ∃ i < repeatWriteTimes, result (u32 (cbw.block + 4 * k)) i = true

section

variable {result : CardResults} {data : Nat → UInt8} {storage : WriteStorage} {cbw : BulkCbw}

theorem WritePair.start (result : CardResults) (data : Nat → UInt8) (idle : WriteIdle storage)
    (positive : 0 < cbw.count) :
    WritePair result data cbw.block cbw.count ⟨storage.startWrite cbw, []⟩
      (storage.startWrite cbw) := by
  refine ⟨(idle.pipe positive data).1, rfl, fun k below => ?_, nofun⟩
  have none : (storage.startWrite cbw).card = [] := idle.card
  rw [none] at below
  cases below

section

variable (idle : WriteIdle storage)
include idle

theorem writeReported_of_works (positive : 0 < cbw.count)
    (works : ∀ k < bufferCount cbw.count, result.works repeatWriteTimes (u32 (cbw.block + 4 * k)))
    {actions : List WriteAction} {final : FaultyWrite}
    (run : runEnabled (FaultyWrite.step result data) ⟨storage.startWrite cbw, []⟩ actions =
      some final) (reported : Reported final.driver.host) :
    ∀ k < bufferCount cbw.count, (u32 (cbw.block + 4 * k), true) ∈ final.attempts := by
  have matched (state : FaultyWrite) (good : WriteStorage) (action : WriteAction)
      (next : FaultyWrite) (pair : WritePair result data cbw.block cbw.count state good)
      (taken : state.step result data action = some next) :
      ∃ answer, good.step data action = some answer ∧
        WritePair result data cbw.block cbw.count next answer := by
    rcases pair.step action with ⟨blocked, -⟩ | ⟨other, answer, same, answered, later⟩
    · cases blocked.symm.trans taken
    · cases same.symm.trans taken
      exact ⟨answer, answered, later⟩
  obtain ⟨good, -, pair⟩ := runEnabled_simulates matched (WritePair.start result data idle positive)
    run
  have card : good.card = expectedSectors data cbw.block cbw.count := by
    apply pair.inPipe.safe.cswLast
    left
    intro empty
    rw [pair.same] at reported
    change Reported good.host at reported
    obtain ⟨_, member⟩ := reported
    rw [empty] at member
    cases member
  intro k below
  refine pair.tried k ?_ (mem_attempts.mpr ⟨rfl, works k below⟩)
  rw [card, length_expectedSectors]
  unfold bufferCount at below
  omega

theorem works_of_writeReported (positive : 0 < cbw.count) (reports : ∀ actions final,
      runEnabled (FaultyWrite.step result data) ⟨storage.startWrite cbw, []⟩ actions = some final →
      Reported final.driver.host → ∀ k < bufferCount cbw.count,
        (u32 (cbw.block + 4 * k), true) ∈ final.attempts) :
    ∀ k < bufferCount cbw.count, result.works repeatWriteTimes (u32 (cbw.block + 4 * k)) := by
  obtain ⟨initial, -⟩ := idle.pipe positive data
  have preserved := InPipe.preserved data cbw.block cbw.count
  obtain ⟨actions, good, goodRun, stuck⟩ := runEnabled_to_end preserved initial
  obtain ⟨inPipe, -⟩ := runEnabled_spec preserved initial goodRun
  have matched (good : WriteStorage) (state : FaultyWrite) (action : WriteAction)
      (next : WriteStorage) (pair : WritePair result data cbw.block cbw.count state good)
      (taken : good.step data action = some next) :
      ∃ answer, state.step result data action = some answer ∧
        WritePair result data cbw.block cbw.count answer next := by
    rcases pair.step action with ⟨-, blocked⟩ | ⟨answer, other, answered, same, later⟩
    · cases blocked.symm.trans taken
    · cases same.symm.trans taken
      exact ⟨answer, answered, later⟩
  obtain ⟨final, run, pair⟩ := runEnabled_simulates matched
    (WritePair.start result data idle positive) goodRun
  have reported : Reported final.driver.host := by
    rw [pair.same]
    change Reported good.host
    rw [(inPipe.complete stuck).2.1]
    exact ⟨0, .head _⟩
  intro k below
  exact pair.sound _ (reports actions final run reported k below)

theorem writeReported_of_refused (refused : cbw.DataTransferLength ≠ cbw.count * mmcsdBlockSize) :
    WriteErrorsReported result data storage cbw := by
  have start : usbstorageHandleWriteCbw storage cbw =
      { storage.prepareWrite cbw with stage := .stageCsw, Status := 1 } := by
    have error : write10 cbw = .error .error2Len := if_neg refused
    unfold usbstorageHandleWriteCbw
    rw [error]
  obtain ⟨receiver, writer, mail, _, _, inFlight, host, _⟩ := idle
  have stuck (action : WriteAction) :
      FaultyWrite.step result data ⟨usbstorageHandleWriteCbw storage cbw, []⟩ action = none := by
    rw [start]
    cases action <;> simp [FaultyWrite.step, WriteStorage.step, receiverStep,
      writerStep, Storage.step, prepareWrite, receiver, writer, mail,
      inFlight]
  intro actions _ run reported
  cases actions with
  | nil =>
    obtain rfl := some.inj run
    have none : (usbstorageHandleWriteCbw storage cbw).host = [] := by
      rwa [start]
    obtain ⟨_, member⟩ := reported
    rw [none] at member
    cases member
  | cons action =>
    obtain ⟨_, taken, -⟩ := bind_eq_some_iff.mp run
    cases (stuck action).symm.trans taken

end

variable {source : Source} {driver : Storage}

theorem Storage.step_whole {size : Nat}
    (one : driver.inFlight = [⟨source, size, 0⟩]) (idle : driver.callback = .idle)
    (bytes : 0 < size) :
    driver.step (.transmit size) = some ((driver.deliver source []).transmitted size) := by
  have fits : 0 + size ≤ size := le_of_eq (zero_add size)
  unfold Storage.step
  rw [one]
  dsimp only
  rw [if_pos ⟨idle, bytes, fits⟩]
  unfold usbstorageDataTransmitted
  dsimp only
  rw [if_neg (by omega), zero_add]

theorem Storage.run_single {size : Nat}
    (one : driver.inFlight = [⟨source, size, 0⟩]) (idle : driver.callback = .idle)
    (bytes : 0 < size) (small : size < 2 ^ 32) (stage : driver.stage = .stageData)
    (residue : driver.Residue = size) :
    ∃ sent final, driver.step (.transmit size) = some sent ∧
      sent.step (.transmit bulkCswSize) = some final ∧ Reported final.host := by
  have left : ((driver.deliver source []).freeTail size).Residue = 0 := by
    change u32Sub driver.Residue size = 0
    rw [residue, u32Sub_of_le small (.refl), Nat.sub_self]
  have first := step_whole one idle bytes
  have delivered : (driver.deliver source []).stage = .stageData := stage
  rw [transmitted_of_data delivered] at first
  unfold blockSent at first
  rw [if_pos left] at first
  refine ⟨_, _, first, step_whole rfl idle (by decide), ?_⟩
  exact ⟨_, mem_append_right _ (.head _)⟩

theorem not_writeReported_of_in (idle : WriteIdle storage) (isIn : cbw.Flags &&& 0x80 ≠ 0)
    (length : cbw.DataTransferLength = cbw.count * mmcsdBlockSize) (positive : 0 < cbw.count) :
    ¬WriteErrorsReported result data storage cbw := by
  intro reports
  have accepted : write10 cbw = .ok (cbw.count * mmcsdBlockSize) := by
    unfold write10
    rw [if_pos length, length]
  have bytes : 0 < cbw.count * mmcsdBlockSize := mul_pos positive (by decide)
  have small : cbw.count * mmcsdBlockSize < 2 ^ 32 := by
    have count := cbw.count_lt
    unfold mmcsdBlockSize
    omega
  have start : usbstorageHandleWriteCbw storage cbw = { storage.prepareWrite cbw with
        toStorage := { storage.toStorage with
          stage := .stageData
          Residue := cbw.count * mmcsdBlockSize
          Status := 0 : Storage }.startTransmit (.command (cbw.count * mmcsdBlockSize))
            (cbw.count * mmcsdBlockSize) } := by
    unfold usbstorageHandleWriteCbw
    rw [accepted]
    dsimp only
    rw [if_neg bytes.ne', if_pos isIn]
    rfl
  have one : (usbstorageHandleWriteCbw storage cbw).inFlight =
      [⟨.command (cbw.count * mmcsdBlockSize), cbw.count * mmcsdBlockSize, 0⟩] := by
    rw [start]
    exact congrArg (· ++ _) idle.inFlight
  have callback : (usbstorageHandleWriteCbw storage cbw).callback = .idle := by
    rw [start]
    exact idle.callback
  obtain ⟨sent, final, first, second, reported⟩ := run_single one callback bytes small
    (by rw [start]; rfl) (by rw [start]; rfl)
  let state : FaultyWrite := ⟨usbstorageHandleWriteCbw storage cbw, []⟩
  let between : FaultyWrite := { state with driver := { state.driver with toStorage := sent } }
  let last : FaultyWrite := { state with driver := { state.driver with toStorage := final } }
  have stepped (driver : WriteStorage) (next : Storage) (more : Nat)
      (taken : driver.toStorage.step (.transmit more) = some next) :
      FaultyWrite.step result data ⟨driver, []⟩ (.transmit more) =
        some ⟨{ driver with toStorage := next }, []⟩ := by
    have received : driver.step data (.transmit more) = some { driver with toStorage := next } := by
      change ((driver.toStorage.step (.transmit more)).map fun transmitted =>
        { driver with toStorage := transmitted }).or _ = _
      rw [taken]
      rfl
    change ((driver.step data (.transmit more)).map fun driver => FaultyWrite.mk driver []) = _
    rw [received]
    rfl
  have run : runEnabled (FaultyWrite.step result data) state
      [.transmit (cbw.count * mmcsdBlockSize), .transmit bulkCswSize] = some last := by
    have early := stepped state.driver sent _ first
    have late := stepped between.driver final _ second
    exact bind_eq_some_iff.mpr ⟨between, early, bind_eq_some_iff.mpr ⟨last, late, rfl⟩⟩
  have more : 0 < bufferCount cbw.count := by
    unfold bufferCount
    omega
  cases reports _ _ run reported 0 more

theorem writeReported_iff (idle : WriteIdle storage) :
    WriteErrorsReported result data storage cbw ↔ WriteWorks result cbw := by
  by_cases length : cbw.DataTransferLength = cbw.count * mmcsdBlockSize
  · rcases Nat.eq_zero_or_pos cbw.count with none | positive
    · refine iff_of_true (fun actions final _ _ k below => ?_) fun _ positive => ?_
      · rw [none] at below
        cases below
      · omega
    · by_cases isOut : cbw.Flags &&& 0x80 = 0
      · unfold WriteErrorsReported
        rw [usbstorageHandleWriteCbw_write storage isOut positive length]
        constructor
        · exact fun reports _ _ => ⟨isOut, fun k below =>
            works_iff.mp (works_of_writeReported idle positive reports k below)⟩
        · intro works actions final run reported
          exact writeReported_of_works idle positive (fun k below =>
            works_iff.mpr ((works length positive).2 k below)) run reported
      · exact iff_of_false (not_writeReported_of_in idle isOut length positive)
          fun works => isOut (works length positive).1
  · exact iff_of_true (writeReported_of_refused idle length) fun same => absurd same length

end

/-- A good CSW is true exactly when the card was: for a read command that announces the length of
all its blocks (of a shorter one nothing is said) and for every write command. -/
theorem error_reporting (storage : WriteStorage) (idle : Idle storage.toStorage)
    (writeIdle : WriteIdle storage) (result : CardResults) (cbw : BulkCbw) :
    (∀ inserted,
      (ReadWorks result cbw inserted → ReadErrorsReported result storage.toStorage cbw inserted) ∧
      (cbw.count * mmcsdBlockSize ≤ cbw.DataTransferLength →
        ReadErrorsReported result storage.toStorage cbw inserted → ReadWorks result cbw inserted)) ∧
    ∀ data, WriteErrorsReported result data storage cbw ↔ WriteWorks result cbw := by
  constructor
  · intro inserted
    exact ⟨readReported_of_readWorks idle, readWorks_of_readReported idle⟩
  · intro data
    exact writeReported_iff writeIdle

theorem freshStorage_idle : Idle freshStorage := ⟨rfl, rfl, by decide, .inl rfl, rfl, rfl, rfl⟩

theorem freshWriteStorage_idle : WriteIdle freshWriteStorage :=
  ⟨rfl, rfl, rfl, rfl, rfl, rfl, rfl, rfl⟩

def slowCard : CardResults := fun _ i => i == 4

theorem error_reporting_slow_card : ReadErrorsReported slowCard freshStorage readTwo true ∧
    WriteErrorsReported slowCard (fun offset => .ofNat offset) freshWriteStorage writeNine := by
  have reading := error_reporting freshWriteStorage freshStorage_idle freshWriteStorage_idle
    slowCard readTwo
  have writing := error_reporting freshWriteStorage freshStorage_idle freshWriteStorage_idle
    slowCard writeNine
  constructor
  · exact (reading.1 true).1 fun _ _ => ⟨by decide, fun _ _ => ⟨4, by decide, rfl⟩⟩
  · exact (writing.2 _).mpr fun _ _ => ⟨by decide, fun _ _ => ⟨4, by decide, rfl⟩⟩

def deadCardFinal : FaultyRead :=
  (runEnabled (FaultyRead.step fun _ _ => false)
    ⟨usbstorageHandleCbw freshStorage readTwo true, []⟩ readTwoActions).getD ⟨freshStorage, []⟩

/-- Ten failed attempts, two packets without a block, and a good CSW. -/
theorem error_reporting_dead_card : deadCardFinal.driver.host = [.data none, .data none, .csw 0 0] ∧
    ¬ReadErrorsReported (fun _ _ => false) freshStorage readTwo true := by
  have run : runEnabled (FaultyRead.step fun _ _ => false)
      ⟨usbstorageHandleCbw freshStorage readTwo true, []⟩ readTwoActions = some deadCardFinal := rfl
  have host : deadCardFinal.driver.host = [.data none, .data none, .csw 0 0] := rfl
  refine ⟨host, fun reports => ?_⟩
  have delivered := (reports _ _ run).delivered
  exact delivered ⟨0, by decide⟩ (by decide)

end Hfirmware.Usb
