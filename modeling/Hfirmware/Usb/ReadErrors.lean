/-
Card errors while the USB mass storage driver reads.
-/

import Hfirmware.Usb.ReadPipeline

namespace Hfirmware.Usb

open List Option Storage Function GuardedRun

def repeatReadTimes : Nat := 5

/-- The results of the attempts that a retry loop makes with `cnt` of them left, when
attempt number `tried` is the next one. -/
def retry (result : Nat → Bool) (tried : Nat) : Nat → List Bool
  | 0 => []
  | cnt + 1 => if result tried then [true] else false :: retry result (tried + 1) cnt

theorem true_mem_retry {result : Nat → Bool} {tried cnt : Nat} :
    true ∈ retry result tried cnt ↔ ∃ i, tried ≤ i ∧ i < tried + cnt ∧ result i := by
  induction cnt generalizing tried with
  | zero =>
    refine iff_of_false nofun ?_
    rintro ⟨i, above, below, _⟩
    omega
  | succ cnt ih =>
    rw [retry]
    split
    · next success =>
      exact iff_of_true (.head _) ⟨tried, .refl, by omega, success⟩
    · next success =>
      rw [mem_cons, ih]
      constructor
      · rintro (impossible | ⟨i, above, below, good⟩)
        · cases impossible
        · exact ⟨i, by omega, by omega, good⟩
      · rintro ⟨i, above, below, good⟩
        refine .inr ⟨i, ?_, by omega, good⟩
        rcases Nat.lt_or_eq_of_le above with later | rfl
        · exact later
        · exact absurd good success

/-- What `sdcRead` or `sdcWrite` answers at attempt `i` for the group that starts at a
block. -/
abbrev CardResults := Nat → Nat → Bool

/-- One of the `times` attempts that may be made for the group at `address` succeeds. -/
def CardResults.works (result : CardResults) (times address : Nat) : Bool :=
  decide (true ∈ retry (result address) 0 times)

variable {result : CardResults}

open CardResults

theorem CardResults.works_iff {times address : Nat} :
    result.works times address ↔ ∃ i, i < times ∧ result address i := by
  unfold CardResults.works
  rw [decide_eq_true_iff, true_mem_retry, zero_add]
  constructor
  · rintro ⟨i, _, below, good⟩
    exact ⟨i, below, good⟩
  · rintro ⟨i, below, good⟩
    exact ⟨i, Nat.zero_le i, below, good⟩

def CardResults.attempts (result : CardResults) (times address : Nat) : List (Nat × Bool) :=
  (retry (result address) 0 times).map fun outcome => (address, outcome)

theorem CardResults.mem_attempts {times address other : Nat} :
    (other, true) ∈ result.attempts times address ↔
      other = address ∧ result.works times address := by
  unfold CardResults.attempts CardResults.works
  rw [List.mem_map, decide_eq_true_iff]
  constructor
  · rintro ⟨_, member, same⟩
    cases same
    exact ⟨rfl, member⟩
  · rintro ⟨rfl, member⟩
    exact ⟨true, member, rfl⟩

structure FaultyRead where
  driver : Storage
  attempts : List (Nat × Bool)

def Storage.readAddress (storage : Storage) : Nat :=
  u32 (storage.g_read_xfer.block + storage.g_read_xfer.count_done)

/-- The retry loop of `UsbStorageReadThread`. When it gives up, the slot holds no block. -/
def FaultyRead.sdcRead (result : CardResults) (state : FaultyRead) : FaultyRead :=
  let address := state.driver.readAddress
  { driver := { state.driver.setPbuf state.driver.r_buf.head
          (if result.works repeatReadTimes address then some address else none) with
        readThread := .filled }
    attempts := state.attempts ++ result.attempts repeatReadTimes address }

def FaultyRead.step (result : CardResults) (state : FaultyRead) : ReadAction → Option FaultyRead
  | .sdcRead =>
    if state.driver.readThread = .reading then some (state.sdcRead result) else none
  | action => (state.driver.step action).map fun driver => { state with driver }

def Packet.masked (works : Nat → Bool) : Packet → Packet
  | .data content => .data (content.filter works)
  | packet => packet

def Storage.masked (works : Nat → Bool) (storage : Storage) : Storage :=
  { storage with
    r_buf := { storage.r_buf with pbuf := fun slot => (storage.r_buf.pbuf slot).filter works }
    host := storage.host.map (Packet.masked works) }

variable {action : ReadAction}

section

variable {works : Nat → Bool} {storage : Storage}

theorem masked_ite {branch : Prop} [Decidable branch] {yes no yesMasked noMasked : Storage}
    (whenYes : yesMasked = yes.masked works) (whenNo : noMasked = no.masked works) :
    (if branch then yesMasked else noMasked) = (if branch then yes else no).masked works := by
  rw [apply_ite (Storage.masked works), whenYes, whenNo]

theorem masked_setPbuf (slot : Nat) (content : Option Nat) :
    (storage.setPbuf slot content).masked works =
      (storage.masked works).setPbuf slot (content.filter works) := by
  have same : (fun index => (update storage.r_buf.pbuf slot content index).filter works) =
      update (fun index => (storage.r_buf.pbuf index).filter works) slot
        (content.filter works) := by
    funext index
    by_cases here : index = slot
    · subst here
      rw [update_self, update_self]
    · rw [update_of_ne here, update_of_ne here]
  unfold Storage.masked setPbuf
  rw [same]

theorem masked_beginRead : (storage.masked works).beginRead = storage.beginRead.masked works := by
  have cleared := @masked_setPbuf works storage storage.r_buf.head none
  exact (congrArg (fun driver : Storage => { driver with readThread := .reading })
    cleared.symm)

theorem masked_sendIfDue : (storage.masked works).sendIfDue = storage.sendIfDue.masked works :=
  masked_ite rfl rfl

theorem masked_continueRead :
    (storage.masked works).continueRead = storage.continueRead.masked works :=
  masked_ite rfl (masked_ite masked_beginRead rfl)

theorem masked_fillSlot : (storage.masked works).fillSlot = storage.fillSlot.masked works := by
  unfold fillSlot
  rw [← masked_continueRead, ← masked_sendIfDue]
  rfl

theorem masked_deliver (source : Source) (rest : List Transmission) :
    (storage.masked works).deliver source rest = (storage.deliver source rest).masked works := by
  have packet : (storage.masked works).packet source = (storage.packet source).masked works := by
    cases source <;> rfl
  unfold deliver
  rw [packet]
  unfold Storage.masked
  rw [map_append]
  rfl

theorem masked_transmitted (txcnt : Nat) :
    (storage.masked works).transmitted txcnt = (storage.transmitted txcnt).masked works := by
  unfold transmitted
  have stage : (storage.masked works).stage = storage.stage := rfl
  rw [stage]
  cases storage.stage with
  | stageData => exact masked_ite rfl rfl
  | stageCsw => rfl
  | stageCbw => rfl

theorem masked_dataTransmitted (transmission : Transmission) (rest : List Transmission)
    (more : Nat) :
    usbstorageDataTransmitted (storage.masked works) transmission rest more =
      (usbstorageDataTransmitted storage transmission rest more).masked works := by
  refine masked_ite rfl ?_
  rw [masked_deliver, masked_transmitted]

theorem masked_guard {branch : Prop} [Decidable branch] {next nextMasked : Storage}
    (same : nextMasked = next.masked works) :
    (if branch then some nextMasked else none) =
      (if branch then some next else none).map (Storage.masked works) := by
  rw [apply_ite (Option.map (Storage.masked works)), same]
  rfl

theorem masked_step (notRead : action ≠ .sdcRead) :
    (storage.masked works).step action = (storage.step action).map (Storage.masked works) := by
  cases action with
  | fetch | cbwPost | post => exact masked_guard rfl
  | check => exact masked_guard (masked_ite masked_beginRead rfl)
  | sdcRead => exact absurd rfl notRead
  | fill => exact masked_guard masked_fillSlot
  | transmit =>
    unfold Storage.step
    have flying : (storage.masked works).inFlight = storage.inFlight := rfl
    rw [flying]
    cases storage.inFlight with
    | nil => rfl
    | cons => exact masked_guard (masked_dataTransmitted _ _ _)
  | resume => exact masked_guard (masked_ite rfl rfl)

end

theorem FaultyRead.step_of_ne {result : CardResults} {state : FaultyRead} {action : ReadAction}
    (notRead : action ≠ .sdcRead) :
    state.step result action =
      (state.driver.step action).map fun driver => { state with driver } := by
  cases action with
  | sdcRead => exact absurd rfl notRead
  | _ => rfl

theorem FaultyRead.step_driver {state : FaultyRead} {good : Storage}
    (same : state.driver = good.masked (result.works repeatReadTimes)) (action : ReadAction) :
    (state.step result action).map FaultyRead.driver =
      (good.step action).map (Storage.masked (result.works repeatReadTimes)) := by
  by_cases reads : action = .sdcRead
  · subst reads
    have filled : (state.sdcRead result).driver =
        good.sdcRead.masked (result.works repeatReadTimes) := by
      have written := @masked_setPbuf (result.works repeatReadTimes) good good.r_buf.head
        (some good.readAddress)
      unfold FaultyRead.sdcRead
      rw [same]
      exact congrArg (fun driver : Storage => { driver with readThread := .filled }) written.symm
    have guard : state.driver.readThread = good.readThread := by
      rw [same]
      rfl
    unfold FaultyRead.step Storage.step
    rw [guard, ← masked_guard filled, apply_ite (Option.map FaultyRead.driver)]
    rfl
  · rw [FaultyRead.step_of_ne reads, Option.map_map, same, masked_step reads]
    cases good.step action <;> rfl

/-! ### The attempts behind the blocks -/

def Storage.Holds (storage : Storage) (address : Nat) : Prop :=
  (∃ slot, storage.r_buf.pbuf slot = some address) ∨ .data (some address) ∈ storage.host

section

variable {storage after : Storage} {address : Nat}

/-- What a step keeps of the status, the packets sent and the blocks in the buffer. -/
structure Storage.Moved (storage : Storage) (action : ReadAction) (after : Storage) : Prop where
  status : storage.stage ≠ .stageData → after.stage ≠ .stageData ∧ after.Status = storage.Status
  host : after.host = storage.host ∨ ∃ source, after.host = storage.host ++ [storage.packet source]
  pbuf : ∀ slot block, after.r_buf.pbuf slot = some block →
    storage.r_buf.pbuf slot = some block ∨ action = .sdcRead ∧ block = storage.readAddress

variable {action : ReadAction}

section

variable (status : after.Status = storage.Status) (stage : after.stage = storage.stage)
  (host : after.host = storage.host)
include status stage host

theorem Storage.Moved.of_eq (pbuf : after.r_buf.pbuf = storage.r_buf.pbuf) :
    storage.Moved action after :=
  ⟨fun settled => ⟨stage ▸ settled, status⟩, .inl host, fun _ _ found => .inl (pbuf ▸ found)⟩

theorem Storage.Moved.of_setPbuf {head : Nat} {content : Option Nat}
    (pbuf : after.r_buf.pbuf = update storage.r_buf.pbuf head content)
    (read : ∀ block, content = some block → action = .sdcRead ∧ block = storage.readAddress) :
    storage.Moved action after := by
  refine ⟨fun settled => ⟨stage ▸ settled, status⟩, .inl host, fun slot block found => ?_⟩
  rw [pbuf] at found
  by_cases here : slot = head
  · rw [here, update_self] at found
    exact .inr (read block found)
  · rw [update_of_ne here] at found
    exact .inl found

end

theorem Storage.moved_of_step (taken : storage.step action = some after) :
    storage.Moved action after := by
  cases action with
  | fetch | cbwPost | post =>
    obtain ⟨-, ⟨⟩⟩ := ite_none_right_eq_some.mp taken
    exact .of_eq rfl rfl rfl rfl
  | check =>
    obtain ⟨-, ⟨⟩⟩ := ite_none_right_eq_some.mp taken
    unfold checkRead
    split
    · exact .of_setPbuf rfl rfl rfl rfl nofun
    · exact .of_eq rfl rfl rfl rfl
  | sdcRead =>
    obtain ⟨-, ⟨⟩⟩ := ite_none_right_eq_some.mp taken
    exact .of_setPbuf rfl rfl rfl rfl fun _ same => ⟨rfl, (some.inj same).symm⟩
  | fill =>
    obtain ⟨-, ⟨⟩⟩ := ite_none_right_eq_some.mp taken
    unfold fillSlot continueRead sendIfDue
    split_ifs <;> first | exact .of_eq rfl rfl rfl rfl | exact .of_setPbuf rfl rfl rfl rfl nofun
  | transmit =>
    obtain ⟨_, _, -, -, -, rfl⟩ := step_transmit taken
    unfold usbstorageDataTransmitted transmitted blockSent
    dsimp only
    split
    · exact .of_eq rfl rfl rfl rfl
    split
    · have data : storage.stage = .stageData := by assumption
      split <;> exact ⟨fun other => absurd data other, .inr ⟨_, rfl⟩, fun _ _ found => .inl found⟩
    · exact ⟨fun _ => ⟨nofun, rfl⟩, .inr ⟨_, rfl⟩, fun _ _ found => .inl found⟩
    · exact ⟨fun settled => ⟨settled, rfl⟩, .inr ⟨_, rfl⟩, fun _ _ found => .inl found⟩
  | resume =>
    obtain ⟨-, ⟨⟩⟩ := ite_none_right_eq_some.mp taken
    unfold afterPost
    split <;> exact .of_eq rfl rfl rfl rfl

theorem Storage.holds_of_step (taken : storage.step action = some after)
    (holds : after.Holds address) :
    storage.Holds address ∨ action = .sdcRead ∧ address = storage.readAddress := by
  have moved := moved_of_step taken
  rcases holds with ⟨slot, found⟩ | delivered
  · exact (moved.pbuf slot address found).imp_left fun before => .inl ⟨slot, before⟩
  · refine .inl ?_
    rcases moved.host with same | ⟨source, more⟩
    · exact .inr (same ▸ delivered)
    · rw [more, mem_append, mem_singleton] at delivered
      rcases delivered with before | last
      · exact .inr before
      · cases source with
        | slot index => exact .inl ⟨index, (Packet.data.inj last).symm⟩
        | command | csw => cases last

end

/-- The driver on a failing card beside the driver on a good one: a block that the second
one holds has been tried by the first. -/
structure ReadPair (result : CardResults) (state : FaultyRead) (good : Storage) : Prop where
  same : state.driver = good.masked (result.works repeatReadTimes)
  tried : ∀ address, good.Holds address → result.attempts repeatReadTimes address ⊆ state.attempts
  sound : ∀ address, (address, true) ∈ state.attempts → result.works repeatReadTimes address = true

section

variable {result : CardResults} {state next : FaultyRead} {good goodNext : Storage}
  {action : ReadAction}

theorem FaultyRead.attempts_of_step (taken : state.step result action = some next) :
    action = .sdcRead ∧ next.attempts =
        state.attempts ++ result.attempts repeatReadTimes state.driver.readAddress ∨
      action ≠ .sdcRead ∧ next.attempts = state.attempts := by
  by_cases reads : action = .sdcRead
  · subst reads
    obtain ⟨-, ⟨⟩⟩ := ite_none_right_eq_some.mp taken
    exact .inl ⟨rfl, rfl⟩
  · rw [FaultyRead.step_of_ne reads] at taken
    obtain ⟨_, -, rfl⟩ := map_eq_some_iff.mp taken
    exact .inr ⟨reads, rfl⟩

section

variable (pair : ReadPair result state good)
include pair

theorem ReadPair.step_both
    (taken : state.step result action = some next) (goodTaken : good.step action = some goodNext) :
    ReadPair result next goodNext := by
  have driver := FaultyRead.step_driver pair.same action
  rw [taken, goodTaken] at driver
  have address : state.driver.readAddress = good.readAddress := by
    rw [pair.same]
    rfl
  constructor
  · exact some.inj driver
  · intro block holds
    rcases FaultyRead.attempts_of_step taken with ⟨reads, attempts⟩ | ⟨notRead, attempts⟩
    · rw [attempts, address]
      rcases holds_of_step goodTaken holds with before | ⟨-, rfl⟩
      · exact List.Subset.trans (pair.tried block before) (subset_append_left _ _)
      · exact subset_append_right _ _
    · rw [attempts]
      rcases holds_of_step goodTaken holds with before | ⟨reads, -⟩
      · exact pair.tried block before
      · exact absurd reads notRead
  · intro block member
    rcases FaultyRead.attempts_of_step taken with ⟨-, attempts⟩ | ⟨-, attempts⟩
    · rw [attempts] at member
      rcases mem_append.mp member with before | now
      · exact pair.sound block before
      · obtain ⟨rfl, success⟩ := mem_attempts.mp now
        exact success
    · rw [attempts] at member
      exact pair.sound block member

theorem ReadPair.good_step (taken : state.step result action = some next) :
    ∃ goodNext, good.step action = some goodNext ∧ ReadPair result next goodNext := by
  have driver := FaultyRead.step_driver pair.same action
  rw [taken] at driver
  obtain ⟨goodNext, goodTaken, -⟩ := map_eq_some_iff.mp driver.symm
  exact ⟨goodNext, goodTaken, pair.step_both taken goodTaken⟩

theorem ReadPair.faulty_step (goodTaken : good.step action = some goodNext) :
    ∃ next, state.step result action = some next ∧ ReadPair result next goodNext := by
  have driver := FaultyRead.step_driver pair.same action
  rw [goodTaken] at driver
  obtain ⟨next, taken, -⟩ := map_eq_some_iff.mp driver
  exact ⟨next, taken, pair.step_both taken goodTaken⟩

end

end

def Reported (host : List Packet) : Prop := ∃ residue, .csw residue 0 ∈ host

structure ReadReport (block count : Nat) (state : FaultyRead) : Prop where
  attempted : Reported state.driver.host → ∀ k < count, (u32 (block + k), true) ∈ state.attempts
  delivered : Reported state.driver.host → .data none ∉ state.driver.host

def ReadErrorsReported (result : CardResults) (storage : Storage) (cbw : BulkCbw)
    (inserted : Bool) : Prop :=
  ∀ actions final,
    runEnabled (FaultyRead.step result) ⟨usbstorageHandleCbw storage cbw inserted, []⟩ actions =
      some final → ReadReport cbw.block cbw.count final

variable {inserted : Bool}

section

variable {result : CardResults} {storage : Storage} {cbw : BulkCbw}

theorem reported_masked {works : Nat → Bool} {host : List Packet} :
    Reported (host.map (Packet.masked works)) ↔ Reported host := by
  constructor
  · rintro ⟨residue, member⟩
    obtain ⟨packet, present, same⟩ := List.mem_map.mp member
    cases packet with
    | data => cases same
    | command => cases same
    | csw =>
      cases same
      exact ⟨residue, present⟩
  · rintro ⟨residue, member⟩
    exact ⟨residue, List.mem_map.mpr ⟨_, member, rfl⟩⟩

theorem ReadPair.start (result : CardResults) (idle : Idle storage) (dirIn : cbw.Flags &&& 0x80 ≠ 0)
    (positive : 0 < cbw.count) (length : cbw.DataTransferLength = cbw.count * mmcsdBlockSize) :
    ReadPair result ⟨usbstorageHandleCbw storage cbw true, []⟩
      (usbstorageHandleCbw storage cbw true) := by
  rw [usbstorageHandleCbw_read storage dirIn positive length]
  constructor
  · unfold Storage.masked
    rw [idle.host]
    rfl
  · rintro address (⟨_, impossible⟩ | delivered)
    · cases impossible
    · change _ ∈ storage.host at delivered
      rw [idle.host] at delivered
      cases delivered
  · intro address impossible
    cases impossible

section

variable (idle : Idle storage) (dirIn : cbw.Flags &&& 0x80 ≠ 0) (positive : 0 < cbw.count)
  (length : cbw.DataTransferLength = cbw.count * mmcsdBlockSize)
include idle dirIn positive length

theorem readReported_of_works
    (works : ∀ k < cbw.count, result.works repeatReadTimes (u32 (cbw.block + k))) :
    ReadErrorsReported result storage cbw true := by
  intro _ final run
  have start := ReadPair.start result idle dirIn positive length
  have matched (state : FaultyRead) (good : Storage) (action : ReadAction) (next : FaultyRead)
      (pair : ReadPair result state good) (taken : state.step result action = some next) :
      ∃ answer, good.step action = some answer ∧ ReadPair result next answer :=
    pair.good_step taken
  obtain ⟨good, goodRun, pair⟩ := runEnabled_simulates matched start run
  obtain ⟨initial, -⟩ := idle.pipe dirIn positive length
  obtain ⟨⟨_, _, pipe⟩, -⟩ :=
    runEnabled_spec (Pipe.preserved cbw.block cbw.count) ⟨0, false, initial⟩ goodRun
  have safe := pipe.safe
  have whole (reported : Reported final.driver.host) :
      good.host = expectedPackets cbw.block cbw.count := by
    rw [pair.same] at reported
    obtain ⟨_, member⟩ := (reported_masked.mp reported)
    rcases prefix_concat_iff.mp safe.inOrder with whole | part
    · exact whole
    · obtain ⟨_, -, impossible⟩ := List.mem_map.mp (part.subset member)
      cases impossible
  constructor
  · intro reported k below
    have holds : good.Holds (u32 (cbw.block + k)) := by
      right
      rw [whole reported]
      exact mem_append_left _ (List.mem_map.mpr ⟨k, mem_range.mpr below, rfl⟩)
    exact pair.tried _ holds (mem_attempts.mpr ⟨rfl, works k below⟩)
  · intro reported missing
    rw [pair.same] at missing
    obtain ⟨_, present, same⟩ := List.mem_map.mp missing
    rw [whole reported] at present
    rcases mem_append.mp present with block | csw
    · obtain ⟨k, below, rfl⟩ := List.mem_map.mp block
      have content := Packet.data.inj same
      rw [filter_some, if_pos (works k (mem_range.mp below))] at content
      cases content
    · rw [mem_singleton.mp csw] at same
      cases same

theorem works_of_readReported (reports : ReadErrorsReported result storage cbw true) :
    ∀ k < cbw.count, result.works repeatReadTimes (u32 (cbw.block + k)) := by
  obtain ⟨initial, -⟩ := idle.pipe dirIn positive length
  have preserved := Pipe.preserved cbw.block cbw.count
  obtain ⟨actions, good, goodRun, stuck⟩ := runEnabled_to_end preserved ⟨0, false, initial⟩
  obtain ⟨⟨_, _, pipe⟩, -⟩ := runEnabled_spec preserved ⟨0, false, initial⟩ goodRun
  have start := ReadPair.start result idle dirIn positive length
  have matched (good : Storage) (state : FaultyRead) (action : ReadAction) (next : Storage)
      (pair : ReadPair result state good) (taken : good.step action = some next) :
      ∃ answer, state.step result action = some answer ∧ ReadPair result answer next :=
    pair.faulty_step taken
  obtain ⟨final, run, pair⟩ := runEnabled_simulates matched start goodRun
  have reported : Reported final.driver.host := by
    rw [pair.same]
    refine reported_masked.mpr ?_
    rw [pipe.host_of_stuck stuck]
    exact ⟨0, mem_append_right _ (.head _)⟩
  intro k below
  exact pair.sound _ ((reports actions final run).attempted reported k below)

end

structure Refused (storage : Storage) : Prop where
  stage : storage.stage ≠ .stageData
  status : storage.Status = 1
  unreported : ¬Reported storage.host

theorem Refused.step (refused : Refused storage) {next : Storage}
    (taken : storage.step action = some next) : Refused next := by
  have moved := moved_of_step taken
  obtain ⟨stage, status⟩ := moved.status refused.stage
  refine ⟨stage, status.trans refused.status, ?_⟩
  rintro ⟨residue, member⟩
  rcases moved.host with same | ⟨source, more⟩
  · exact refused.unreported ⟨residue, same ▸ member⟩
  · rw [more, mem_append, mem_singleton] at member
    rcases member with before | last
    · exact refused.unreported ⟨residue, before⟩
    · cases source with
      | slot | command => cases last
      | csw => cases (Packet.csw.inj last).2.trans refused.status

structure NoBlocks (storage : Storage) : Prop where
  thread : storage.readThread = .fetch ∨ storage.readThread = .check
  count : storage.g_read_xfer.count = 0
  callback : storage.callback = .idle
  stage : storage.stage ≠ .stageData
  flying : ∀ transmission ∈ storage.inFlight, transmission.source = .csw
  host : .data none ∉ storage.host

theorem NoBlocks.transmit (noBlocks : NoBlocks storage) {transmission : Transmission}
    {rest : List Transmission} (flying : storage.inFlight = transmission :: rest) (more : Nat) :
    NoBlocks (usbstorageDataTransmitted storage transmission rest more) := by
  have sources := noBlocks.flying
  rw [flying] at sources
  have source := sources transmission (.head _)
  unfold usbstorageDataTransmitted
  dsimp only
  split
  · refine { noBlocks with flying := ?_ }
    intro other member
    rcases mem_cons.mp member with rfl | later
    · exact source
    · exact sources other (.tail _ later)
  · have host : .data none ∉ (storage.deliver transmission.source rest).host := by
      rw [source]
      intro member
      rcases mem_append.mp member with before | last
      · exact noBlocks.host before
      · cases mem_singleton.mp last
    have later (other : Transmission) (member : other ∈ rest) : other.source = .csw :=
      sources other (.tail _ member)
    unfold transmitted
    split
    · exact absurd ‹_› noBlocks.stage
    · exact { noBlocks with stage := nofun, flying := later, host }
    · exact { noBlocks with flying := later, host }

theorem NoBlocks.step (noBlocks : NoBlocks storage) {next : Storage}
    (taken : storage.step action = some next) : NoBlocks next := by
  obtain ⟨thread, count, callback, stage, flying, host⟩ := id noBlocks
  cases action with
  | fetch =>
    obtain ⟨-, ⟨⟩⟩ := ite_none_right_eq_some.mp taken
    exact ⟨.inr rfl, count, callback, stage, flying, host⟩
  | check =>
    obtain ⟨-, ⟨⟩⟩ := ite_none_right_eq_some.mp taken
    unfold checkRead
    rw [if_neg (by rw [count]; exact fun both => Nat.not_lt_zero _ both.1)]
    exact ⟨.inl rfl, count, callback, stage, flying, host⟩
  | sdcRead =>
    obtain ⟨reading, -⟩ := ite_none_right_eq_some.mp taken
    rcases thread with waits | checks
    · cases waits.symm.trans reading
    · cases checks.symm.trans reading
  | fill =>
    obtain ⟨filled, -⟩ := ite_none_right_eq_some.mp taken
    rcases thread with waits | checks
    · cases waits.symm.trans filled
    · cases checks.symm.trans filled
  | cbwPost =>
    obtain ⟨-, ⟨⟩⟩ := ite_none_right_eq_some.mp taken
    exact ⟨thread, count, callback, stage, flying, host⟩
  | transmit more =>
    obtain ⟨_, _, first, -, -, rfl⟩ := step_transmit taken
    exact noBlocks.transmit first more
  | post =>
    obtain ⟨⟨posting, -⟩, -⟩ := ite_none_right_eq_some.mp taken
    cases callback.symm.trans posting
  | resume =>
    obtain ⟨posted, -⟩ := ite_none_right_eq_some.mp taken
    cases callback.symm.trans posted

theorem FaultyRead.invariant {inv : Storage → Prop}
    (preserved : ∀ storage action next, inv storage → storage.step action = some next → inv next)
    (unread : ∀ storage content, inv storage → storage.readThread = .reading →
      inv { storage.setPbuf storage.r_buf.head content with readThread := .filled })
    {state final : FaultyRead} {actions : List ReadAction} (initial : inv state.driver)
    (run : runEnabled (FaultyRead.step result) state actions = some final) : inv final.driver := by
  have kept (state : FaultyRead) (action : ReadAction) (next : FaultyRead)
      (holds : inv state.driver) (taken : state.step result action = some next) :
      inv next.driver := by
    by_cases reads : action = .sdcRead
    · subst reads
      obtain ⟨reading, ⟨⟩⟩ := ite_none_right_eq_some.mp taken
      exact unread _ _ holds reading
    · rw [FaultyRead.step_of_ne reads] at taken
      obtain ⟨_, moved, rfl⟩ := map_eq_some_iff.mp taken
      exact preserved _ _ _ holds moved
  exact runEnabled_invariant kept initial run

theorem readReported_of_refused (refused : Refused (usbstorageHandleCbw storage cbw inserted)) :
    ReadErrorsReported result storage cbw inserted := by
  intro _ _ run
  have atEnd := FaultyRead.invariant (fun _ _ _ refused taken => Refused.step refused taken)
    (fun _ _ refused _ => { refused with }) refused run
  exact ⟨fun reported => absurd reported atEnd.unreported,
    fun reported => absurd reported atEnd.unreported⟩

theorem readReported_of_noBlocks (noBlocks : NoBlocks (usbstorageHandleCbw storage cbw inserted))
    (none : cbw.count = 0) : ReadErrorsReported result storage cbw inserted := by
  intro _ _ run
  have atEnd := FaultyRead.invariant (fun _ _ _ noBlocks taken => NoBlocks.step noBlocks taken)
    (fun _ _ noBlocks reading => by
      rcases noBlocks.thread with waits | checks
      · cases waits.symm.trans reading
      · cases checks.symm.trans reading) noBlocks run
  refine ⟨fun _ k below => ?_, fun _ => atEnd.host⟩
  rw [none] at below
  cases below

def BulkCbw.whole (cbw : BulkCbw) : BulkCbw :=
  { cbw with DataTransferLength := cbw.count * mmcsdBlockSize }

theorem readErrorsReported_whole (long : cbw.count * mmcsdBlockSize ≤ cbw.DataTransferLength) :
    ReadErrorsReported result storage cbw true ↔
      ReadErrorsReported result storage cbw.whole true := by
  have same : read10 cbw true = read10 cbw.whole true := by
    have count : cbw.whole.count = cbw.count := rfl
    have length : cbw.whole.DataTransferLength = cbw.count * mmcsdBlockSize := rfl
    unfold read10
    rw [count, length, min_eq_right long, min_self]
    rfl
  have handled : usbstorageHandleCbw storage cbw true =
      usbstorageHandleCbw storage cbw.whole true := by
    unfold usbstorageHandleCbw
    rw [same]
  unfold ReadErrorsReported
  rw [handled]
  rfl

def ReadWorks (result : CardResults) (cbw : BulkCbw) (inserted : Bool) : Prop :=
  cbw.Flags &&& 0x80 ≠ 0 → inserted = true → cbw.count * mmcsdBlockSize ≤ cbw.DataTransferLength ∧
      ∀ k < cbw.count, ∃ i < repeatReadTimes, result (u32 (cbw.block + k)) i = true

theorem readReported_of_readWorks (idle : Idle storage) (works : ReadWorks result cbw inserted) :
    ReadErrorsReported result storage cbw inserted := by
  have unreported : ¬Reported storage.host := by
    rw [idle.host]
    rintro ⟨_, impossible⟩
    cases impossible
  by_cases dirIn : cbw.Flags &&& 0x80 = 0
  · apply readReported_of_refused
    have refusal : read10 cbw inserted = .error .error2Len := if_pos dirIn
    unfold usbstorageHandleCbw
    rw [refusal]
    exact ⟨nofun, rfl, unreported⟩
  · cases inserted with
    | false =>
      apply readReported_of_refused
      have refusal : read10 cbw false = .error .error1Len := (if_neg dirIn).trans (if_pos rfl)
      unfold usbstorageHandleCbw
      rw [refusal]
      exact ⟨nofun, rfl, unreported⟩
    | true =>
      obtain ⟨long, each⟩ := works dirIn rfl
      rw [readErrorsReported_whole long]
      rcases Nat.eq_zero_or_pos cbw.count with none | positive
      · have count : cbw.whole.count = 0 := none
        refine readReported_of_noBlocks ?_ count
        have accepted : read10 cbw.whole true =
            .ok ({ block := cbw.block, count := 0, count_done := 0 }, 0) := by
          have isIn : ¬cbw.whole.Flags &&& 0x80 = 0 := dirIn
          unfold read10
          rw [if_neg isIn, if_neg nofun, count, zero_mul, Nat.min_zero]
          rfl
        unfold usbstorageHandleCbw
        rw [accepted]
        refine ⟨idle.thread, rfl, idle.callback, nofun, ?_, ?_⟩
        · intro _ member
          rw [idle.none] at member
          rw [mem_singleton.mp member]
        · change _ ∉ storage.host
          rw [idle.host]
          exact not_mem_nil
      · exact readReported_of_works idle dirIn positive rfl fun k below =>
          works_iff.mpr (each k below)

theorem readWorks_of_readReported (idle : Idle storage)
    (long : cbw.count * mmcsdBlockSize ≤ cbw.DataTransferLength)
    (reports : ReadErrorsReported result storage cbw inserted) : ReadWorks result cbw inserted := by
  rintro dirIn rfl
  refine ⟨long, fun k below => works_iff.mp ?_⟩
  rw [readErrorsReported_whole long] at reports
  exact @works_of_readReported result storage cbw.whole idle dirIn (Nat.zero_lt_of_lt below) rfl
    reports k below

end

end Hfirmware.Usb
