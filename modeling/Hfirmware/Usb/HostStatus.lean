/-
The commands of the USB host to a mass storage device: a CBW, data by DMA, and the CSW.
-/

import Hfirmware.ByteImage
import Hfirmware.FixedWidth

namespace Hfirmware.Usb.HostBulk

open List Nat Option ByteImage

inductive HostState where
  | unknownDev | stop | powered | addressed | ready | suspend | connected | disconnected
deriving DecidableEq

inductive DmaMode where
  | none | mode0 | mode1
deriving DecidableEq

/-- What the host thread finds when it wakes up: the state, the error bits, the packets
that the DMA has stored, and the packet in the FIFO. -/
structure Wake where
  host_state : HostState
  (txError rxError rxPktRdy : Bool)
  moved : List (List UInt8)
  fifo : List UInt8

structure HostCbw where
  (Tag DataTransferLength Flags Lun Length : Nat)
  CDB : List Nat

structure Host where
  host_state : HostState
  (inEpPktSiz outEpPktSiz : Nat)
  cbw : HostCbw
  csw : Nat → UInt8
  (blk_size magicNum : Nat)

def cbwSiz : Nat := 31

def cswSiz : Nat := 13

def Wake.gone (wake : Wake) : Bool :=
  wake.host_state = .disconnected ∨ wake.host_state = .stop

def Wake.rxCount (wake : Wake) : Nat := wake.fifo.length

/-- `usb_packet_read_to_buffer`, with zeros behind the end of the packet. -/
def Wake.read (wake : Wake) (buf : Nat → UInt8) (start count : Nat) : Nat → UInt8 :=
  patch buf start count fun index => wake.fifo.getD index 0

structure Outcome where
  ok : Bool
  host : Host
  buf : Nat → UInt8
  rest : List Wake

def Host.wakeUp (host : Host) (wake : Wake) : Host := { host with host_state := wake.host_state }

/-- The loop of `usb_h_lld_bulk_outep` with `left` bytes to go. There is no outcome while
the thread sleeps. -/
def outLoop (mode : DmaMode) (len : Nat) (buf : Nat → UInt8) :
    List Wake → Nat → Host → Option Outcome
  | [], left, host => if left = 0 then some ⟨true, host, buf, []⟩ else none
  | wake :: rest, left, host =>
    if left = 0 then some ⟨true, host, buf, wake :: rest⟩
    else
      let pktsiz := if left > host.outEpPktSiz then host.outEpPktSiz else left
      match mode with
      | .none =>
        if wake.gone ∨ wake.txError then some ⟨false, host.wakeUp wake, buf, rest⟩
        else outLoop mode len buf rest (left - pktsiz) (host.wakeUp wake)
      | .mode0 =>
        if wake.gone then some ⟨false, host.wakeUp wake, buf, rest⟩
        else
          match rest with
          | [] => none
          | sent :: later =>
            if sent.gone ∨ sent.txError then some ⟨false, host.wakeUp sent, buf, later⟩
            else outLoop mode len buf later (left - pktsiz) (host.wakeUp sent)
      | .mode1 =>
        if wake.gone then some ⟨false, host.wakeUp wake, buf, rest⟩
        else outLoop mode len buf rest (left - len) (host.wakeUp wake)

def usbHLldBulkOutep (host : Host) (buf : Nat → UInt8) (len : Nat) (mode : DmaMode)
    (wakes : List Wake) : Option Outcome :=
  if host.host_state = .stop then some ⟨false, host, buf, wakes⟩
  else outLoop mode len buf wakes len host

/-- `usb_h_lld_bulk_inep_dmamode1`. The status is taken from the FIFO if the last packet has
its size. -/
def usbHLldBulkInepDmamode1 (host : Host) (buf : Nat → UInt8) : List Wake → Option Outcome
  | [] => none
  | wake :: rest =>
    if wake.gone then some ⟨false, host.wakeUp wake, buf, rest⟩
    else
      let stored := patch buf 0 wake.moved.flatten.length fun index =>
        wake.moved.flatten.getD index 0
      let awake := host.wakeUp wake
      let csw := if wake.rxCount = cswSiz then wake.read host.csw 0 cswSiz else host.csw
      some ⟨true, { awake with csw }, stored, rest⟩

/-- The loop of `usb_h_lld_bulk_inep`. The packet size is kept in 8 bits. -/
def inLoop (mode : DmaMode) (len : Nat) : List Wake → Nat → Host → (Nat → UInt8) → Option Outcome
  | [], left, host, buf => if left = 0 then some ⟨true, host, buf, []⟩ else none
  | wake :: rest, left, host, buf =>
    if left = 0 then some ⟨true, host, buf, wake :: rest⟩
    else
      let pktsiz := (if left > host.inEpPktSiz then host.inEpPktSiz else left) % 2 ^ 8
      if wake.gone ∨ wake.rxError ∨ wake.rxPktRdy = false then
        some ⟨false, host.wakeUp wake, buf, rest⟩
      else
        match mode with
        | .none =>
          inLoop mode len rest (left - pktsiz) (host.wakeUp wake)
            (wake.read buf (len - left) pktsiz)
        | .mode0 =>
          match rest with
          | [] => none
          | moved :: later =>
            if moved.gone then some ⟨false, host.wakeUp moved, buf, later⟩
            else
              inLoop mode len later (left - pktsiz) (host.wakeUp moved)
                (wake.read buf (len - left) pktsiz)
        | .mode1 => some ⟨false, host.wakeUp wake, buf, rest⟩

def usbHLldBulkInep (host : Host) (buf : Nat → UInt8) (len : Nat) (mode : DmaMode)
    (wakes : List Wake) : Option Outcome :=
  if host.host_state = .stop then some ⟨false, host, buf, wakes⟩
  else
    match mode with
    | .mode1 => usbHLldBulkInepDmamode1 host buf wakes
    | _ => inLoop mode len wakes len host buf

def cbwDmaMode : DmaMode := .none

def cswDmaMode : DmaMode := .none

def rDmaMode : DmaMode := .mode1

def wDmaMode : DmaMode := .mode1

def scsiRead10 : Nat := 0x28

def scsiWrite10 : Nat := 0x2a

/-- The CBW of a command for `blk_num` blocks from `start_blk`, with the numbers high byte
first, under the next tag. -/
def Host.command (host : Host) (flags operation start_blk blk_num : Nat) : Host :=
  { host with
    magicNum := u32 (host.magicNum + 1)
    cbw :=
      { Tag := host.magicNum
        DataTransferLength := u32 (blk_num * host.blk_size)
        Flags := flags
        Lun := 0
        Length := 0x0A
        CDB := [operation, 0, start_blk / 2 ^ 24 % 256, start_blk / 2 ^ 16 % 256,
          start_blk / 2 ^ 8 % 256, start_blk % 256, 0, blk_num / 2 ^ 8 % 256, blk_num % 256,
          0, 0, 0, 0, 0, 0, 0] } }

def Outcome.next (outcome : Outcome) (transfer : Host → List Wake → Option Outcome) :
    Option Outcome :=
  if outcome.ok then transfer outcome.host outcome.rest else some outcome

def usbHLldSendCbw (host : Host) (buf : Nat → UInt8) (wakes : List Wake) : Option Outcome :=
  usbHLldBulkOutep host buf cbwSiz cbwDmaMode wakes

def usbHLldGetCsw (host : Host) (buf : Nat → UInt8) (wakes : List Wake) : Option Outcome :=
  (usbHLldBulkInep host host.csw cswSiz cswDmaMode wakes).map fun outcome =>
    { outcome with host := { outcome.host with csw := outcome.buf }, buf := buf }

def usbHLldScsiRead10 (host : Host) (start_blk blk_num : Nat) (buf : Nat → UInt8)
    (wakes : List Wake) : Option Outcome :=
  if host.host_state ≠ .ready then some ⟨false, host, buf, wakes⟩
  else
    let len := u32 (blk_num * host.blk_size)
    let len := if rDmaMode = .mode1 then u32 (len + cswSiz) else len
    (usbHLldSendCbw (host.command 0x80 scsiRead10 start_blk blk_num) buf wakes).bind fun sent =>
      sent.next fun host rest =>
        (usbHLldBulkInep host buf len rDmaMode rest).bind fun data =>
          data.next fun host rest =>
            if rDmaMode ≠ .mode1 then usbHLldGetCsw host data.buf rest
            else some { data with ok := true }

def usbHLldScsiWrite10 (host : Host) (start_blk blk_num : Nat) (buf : Nat → UInt8)
    (wakes : List Wake) : Option Outcome :=
  if host.host_state ≠ .ready then some ⟨false, host, buf, wakes⟩
  else
    (usbHLldSendCbw (host.command 0x00 scsiWrite10 start_blk blk_num) buf wakes).bind fun sent =>
      sent.next fun host rest =>
        (usbHLldBulkOutep host buf (u32 (blk_num * host.blk_size)) wDmaMode rest).bind fun data =>
          data.next fun host rest => usbHLldGetCsw host buf rest

def usbHReaddisk (host : Host) (start_blk numBlk : Nat) (buf : Nat → UInt8)
    (wakes : List Wake) : Option Outcome :=
  usbHLldScsiRead10 host start_blk numBlk buf wakes

def usbHWritedisk (host : Host) (start_blk numBlk : Nat) (buf : Nat → UInt8)
    (wakes : List Wake) : Option Outcome :=
  usbHLldScsiWrite10 host start_blk numBlk buf wakes

/-- A transfer of `left` bytes in packets of `size`: whether it was completed, the wakeups
it took and those that are left. -/
def packetLoop (fine : Wake → Bool) (size : Nat) :
    List Wake → Nat → Option (Bool × List Wake × List Wake)
  | [], left => if left = 0 then some (true, [], []) else none
  | wake :: rest, left =>
    if left = 0 then some (true, [], wake :: rest)
    else if fine wake then
      (packetLoop fine size rest (left - min left size)).map fun (ok, seen, later) =>
        (ok, wake :: seen, later)
    else some (false, [wake], rest)

structure Packets (fine : Wake → Bool) (size len : Nat) (wakes : List Wake) : Prop where
  possible : len = 0 ∨ 0 < size
  count : wakes.length = (len + size - 1) / size
  fine : ∀ wake ∈ wakes, fine wake = true

variable {wake : Wake}

section

variable {fine : Wake → Bool} {size left : Nat} {wakes seen rest : List Wake}

theorem packetCount_zero (size : Nat) : (0 + size - 1) / size = 0 := by
  rcases Nat.eq_zero_or_pos size with rfl | positive
  · rfl
  · exact div_eq_of_lt (by omega)

theorem packetCount_next (positive : 0 < size) (some : 0 < left) :
    (left + size - 1) / size = (left - min left size + size - 1) / size + 1 := by
  have one : left + size - 1 = left - 1 + size := by omega
  rw [one, add_div_right _ positive]
  rcases Nat.le_or_ge left size with last | more
  · have none : left - min left size = 0 := by omega
    rw [none, packetCount_zero, div_eq_of_lt (by omega)]
  · have next : left - min left size + size - 1 = left - 1 := by omega
    rw [next]

theorem Packets.nil (size : Nat) : Packets fine size 0 [] :=
  ⟨.inl rfl, (packetCount_zero size).symm, nofun⟩

theorem Packets.eq_nil (packets : Packets fine size 0 seen) : seen = [] := by
  have count := packets.count
  rw [packetCount_zero] at count
  exact length_eq_zero_iff.mp count

theorem Packets.ne_nil (packets : Packets fine size left seen) (some : 0 < left) : seen ≠ [] := by
  rintro rfl
  have count := packets.count
  rw [packetCount_next (packets.possible.resolve_left (by omega)) some] at count
  cases count

theorem Packets.cons_iff (some : 0 < left) : Packets fine size left (wake :: seen) ↔
    fine wake ∧ 0 < size ∧ Packets fine size (left - min left size) seen := by
  constructor
  · intro packets
    have positive := packets.possible.resolve_left (by omega)
    have count := packets.count
    rw [packetCount_next positive some] at count
    exact ⟨packets.fine wake (.head _), positive, .inr positive,
      Nat.succ.inj count, fun other member => packets.fine other (.tail _ member)⟩
  · rintro ⟨here, positive, later⟩
    refine ⟨.inr positive, ?_, ?_⟩
    · rw [packetCount_next positive some, length_cons, later.count]
    · exact forall_mem_cons.mpr ⟨here, later.fine⟩

theorem packetLoop_zero_iff : packetLoop fine size wakes 0 = some (true, seen, rest) ↔
    wakes = seen ++ rest ∧ Packets fine size 0 seen := by
  have zero : packetLoop fine size wakes 0 = some (true, [], wakes) := by
    cases wakes <;> rfl
  rw [zero]
  constructor
  · intro same
    cases same
    exact ⟨rfl, .nil size⟩
  · rintro ⟨split, packets⟩
    obtain rfl := packets.eq_nil
    rw [split]
    rfl

theorem packetLoop_true_iff : packetLoop fine size wakes left = some (true, seen, rest) ↔
    wakes = seen ++ rest ∧ Packets fine size left seen := by
  induction wakes generalizing left seen rest with
  | nil =>
    by_cases none : left = 0
    · subst none
      exact packetLoop_zero_iff
    · rw [packetLoop, if_neg none]
      refine iff_of_false nofun ?_
      rintro ⟨split, packets⟩
      exact packets.ne_nil (Nat.pos_of_ne_zero none) (nil_eq_append_iff.mp split).1
  | cons wake wakes ih =>
    by_cases none : left = 0
    · subst none
      exact packetLoop_zero_iff
    · have some := Nat.pos_of_ne_zero none
      rw [packetLoop, if_neg none]
      cases here : fine wake with
      | false =>
        refine iff_of_false nofun ?_
        rintro ⟨split, packets⟩
        cases seen with
        | nil => exact packets.ne_nil some rfl
        | cons =>
          obtain ⟨rfl, -⟩ := cons.inj split
          cases here.symm.trans ((Packets.cons_iff some).mp packets).1
      | true =>
        rw [if_pos rfl, map_eq_some_iff]
        constructor
        · rintro ⟨⟨_, others, _⟩, run, same⟩
          cases same
          obtain ⟨rfl, packets⟩ := ih.mp run
          refine ⟨rfl, (Packets.cons_iff some).mpr ⟨here, ?_, packets⟩⟩
          rcases packets.possible with last | positive
          · omega
          · exact positive
        · rintro ⟨split, packets⟩
          cases seen with
          | nil => exact absurd rfl (packets.ne_nil some)
          | cons _ others =>
            obtain ⟨rfl, rfl⟩ := cons.inj split
            exact ⟨(true, others, rest),
              ih.mpr ⟨rfl, ((Packets.cons_iff some).mp packets).2.2⟩, rfl⟩

end

def Wake.sent (wake : Wake) : Bool := !wake.gone && !wake.txError

def Wake.got (wake : Wake) : Bool := !wake.gone && !wake.rxError && wake.rxPktRdy

variable {outcome : Outcome}

section

variable {host : Host} {buf : Nat → UInt8} {len left : Nat} {wakes : List Wake}

theorem Wake.sent_iff : wake.sent ↔ ¬(wake.gone ∨ wake.txError) := by
  unfold Wake.sent
  cases wake.gone <;> cases wake.txError <;> decide

theorem Wake.got_iff : wake.got ↔ ¬(wake.gone ∨ wake.rxError ∨ wake.rxPktRdy = false) := by
  unfold Wake.got
  cases wake.gone <;> cases wake.rxError <;> cases wake.rxPktRdy <;> decide

theorem Wake.not_gone_of_sent (sent : wake.sent) : wake.gone = false := by
  cases gone : wake.gone with
  | false => rfl
  | true => exact absurd (.inl gone) (Wake.sent_iff.mp sent)

theorem Wake.not_stop (here : wake.gone = false) : wake.host_state ≠ .stop := by
  intro stopped
  have gone : wake.gone := by
    unfold Wake.gone
    rw [stopped]
    rfl
  cases gone.symm.trans here

theorem outLoop_zero (mode : DmaMode) :
    outLoop mode len buf wakes 0 host = some ⟨true, host, buf, wakes⟩ := by
  cases wakes with
  | nil => rfl
  | cons => rw [outLoop, if_pos rfl]

theorem outLoop_packets : outLoop .none len buf wakes left host =
    (packetLoop Wake.sent host.outEpPktSiz wakes left).map fun (ok, seen, rest) =>
      ⟨ok, seen.foldl Host.wakeUp host, buf, rest⟩ := by
  induction wakes generalizing left host with
  | nil =>
    rw [outLoop, packetLoop]
    split <;> rfl
  | cons wake wakes ih =>
    rw [outLoop, packetLoop]
    by_cases none : left = 0
    · rw [if_pos none, if_pos none]
      rfl
    · have size : (if left > host.outEpPktSiz then host.outEpPktSiz else left) =
          min left host.outEpPktSiz := by
        rw [Nat.min_def]
        split <;> split <;> omega
      rw [if_neg none, if_neg none]
      dsimp only
      by_cases sent : wake.sent
      · rw [if_neg (Wake.sent_iff.mp sent), if_pos sent, ih, size, Option.map_map]
        rfl
      · rw [if_pos (not_not.mp (mt Wake.sent_iff.mpr sent)), if_neg sent]
        rfl

theorem outLoop_mode1 (some : 0 < len) {rest : List Wake} :
    outLoop .mode1 len buf (wake :: rest) len host =
      if wake.gone then .some ⟨false, host.wakeUp wake, buf, rest⟩
      else .some ⟨true, host.wakeUp wake, buf, rest⟩ := by
  rw [outLoop, if_neg (by omega)]
  rw [Nat.sub_self, outLoop_zero]

theorem inLoop_packets (short : left < 2 ^ 8) :
    (inLoop .none len wakes left host buf).map (fun outcome => (outcome.ok, outcome.rest)) =
      (packetLoop Wake.got host.inEpPktSiz wakes left).map fun (ok, _, rest) => (ok, rest) := by
  induction wakes generalizing left host buf with
  | nil =>
    rw [inLoop, packetLoop]
    split <;> rfl
  | cons wake wakes ih =>
    rw [inLoop, packetLoop]
    by_cases none : left = 0
    · rw [if_pos none, if_pos none]
      rfl
    · have size : (if left > host.inEpPktSiz then host.inEpPktSiz else left) % 2 ^ 8 =
          min left host.inEpPktSiz := by
        rw [mod_eq_of_lt (by split <;> omega), Nat.min_def]
        split <;> split <;> omega
      rw [if_neg none, if_neg none]
      by_cases got : wake.got
      · rw [if_neg (Wake.got_iff.mp got), if_pos got, size, Option.map_map]
        exact ih (by omega)
      · rw [if_pos (not_not.mp (mt Wake.got_iff.mpr got)), if_neg got]
        rfl

theorem foldl_wakeUp (seen : List Wake) : seen.foldl Host.wakeUp host =
    { host with host_state := (seen.foldl Host.wakeUp host).host_state } := by
  induction seen generalizing host with
  | nil => rfl
  | cons _ _ ih => exact ih.trans rfl

theorem foldl_wakeUp_not_stop {seen : List Wake} (some : seen ≠ [])
    (here : ∀ wake ∈ seen, wake.gone = false) :
    (seen.foldl Host.wakeUp host).host_state ≠ .stop := by
  induction seen generalizing host with
  | nil => exact absurd rfl some
  | cons wake seen ih =>
    cases seen with
    | nil => exact Wake.not_stop (here wake (.head _))
    | cons =>
      exact ih nofun fun other member =>
        here other (.tail _ member)

theorem sendCbw_true_iff (awake : host.host_state ≠ .stop) :
    usbHLldSendCbw host buf wakes = some outcome ∧ outcome.ok ↔
      ∃ cbw, wakes = cbw ++ outcome.rest ∧ Packets Wake.sent host.outEpPktSiz cbwSiz cbw ∧
        outcome = ⟨true, cbw.foldl Host.wakeUp host, buf, outcome.rest⟩ := by
  unfold usbHLldSendCbw usbHLldBulkOutep cbwDmaMode
  rw [if_neg awake, outLoop_packets, map_eq_some_iff]
  constructor
  · rintro ⟨⟨⟨_, cbw, _⟩, run, rfl⟩, good⟩
    subst good
    obtain ⟨split, packets⟩ := packetLoop_true_iff.mp run
    exact ⟨cbw, split, packets, rfl⟩
  · rintro ⟨cbw, split, packets, same⟩
    rw [same]
    exact ⟨⟨(true, cbw, outcome.rest), packetLoop_true_iff.mpr ⟨split, packets⟩, rfl⟩, rfl⟩

theorem awake_of_cbw {cbw : List Wake} {size : Nat} (packets : Packets Wake.sent size cbwSiz cbw) :
    (cbw.foldl Host.wakeUp host).host_state ≠ .stop :=
  foldl_wakeUp_not_stop (packets.ne_nil (by decide)) fun wake member =>
    Wake.not_gone_of_sent (packets.fine wake member)

theorem getCsw_true_iff (awake : host.host_state ≠ .stop) {rest : List Wake} :
    (∃ outcome, usbHLldGetCsw host buf wakes = some outcome ∧ outcome.ok ∧ outcome.rest = rest) ↔
      ∃ csw, wakes = csw ++ rest ∧ Packets Wake.got host.inEpPktSiz cswSiz csw := by
  have packets := @inLoop_packets host host.csw cswSiz cswSiz wakes (by decide)
  unfold usbHLldGetCsw usbHLldBulkInep cswDmaMode
  rw [if_neg awake]
  dsimp only
  constructor
  · rintro ⟨outcome, run, good, left⟩
    obtain ⟨inner, loop, rfl⟩ := map_eq_some_iff.mp run
    rw [loop] at packets
    obtain ⟨⟨_, csw, _⟩, found, same⟩ := map_eq_some_iff.mp packets.symm
    obtain ⟨rfl, rfl⟩ := Prod.mk.inj same
    subst left
    rw [good] at found
    exact ⟨csw, packetLoop_true_iff.mp found⟩
  · rintro ⟨csw, split, whole⟩
    have found := packetLoop_true_iff.mpr ⟨split, whole⟩
    rw [found] at packets
    obtain ⟨inner, loop, same⟩ := map_eq_some_iff.mp packets
    obtain ⟨good, left⟩ := Prod.mk.inj same
    exact ⟨_, map_eq_some_iff.mpr ⟨inner, loop, rfl⟩, good, left⟩

end

/-! ### What the device has sent -/

def bulkCswSigniture : Nat := 0x53425355

def leBytes (word : Nat) : List UInt8 :=
  [.ofNat word, .ofNat (word / 2 ^ 8), .ofNat (word / 2 ^ 16), .ofNat (word / 2 ^ 24)]

def goodCsw (tag : Nat) : List UInt8 :=
  leBytes bulkCswSigniture ++ leBytes tag ++ leBytes 0 ++ [0]

def Wake.packets (wake : Wake) : List (List UInt8) :=
  wake.moved ++ if wake.rxPktRdy then [wake.fifo] else []

def CswReceived (tag : Nat) (seen : List Wake) : Prop :=
  ∃ before status after, seen.flatMap Wake.packets = before ++ status ++ after ∧
    status.flatten = goodCsw tag

/-- A command that returns `TRUE` has received its good CSW after its CBW. -/
def Truthful (host : Host) (wakes : List Wake) (run : Option Outcome) : Prop :=
  ∀ outcome, run = some outcome → outcome.ok = true →
    ∃ cbw seen, wakes = cbw ++ seen ++ outcome.rest ∧
      cbw.length = (cbwSiz + host.outEpPktSiz - 1) / host.outEpPktSiz ∧
      CswReceived host.magicNum seen

structure ReadUndisturbed (host : Host) (cbw seen : List Wake) : Prop where
  ready : host.host_state = .ready
  command : Packets Wake.sent host.outEpPktSiz cbwSiz cbw
  data : ∃ wake, seen = [wake] ∧ wake.gone = false

structure WriteUndisturbed (host : Host) (blk_num : Nat) (cbw seen : List Wake) : Prop where
  ready : host.host_state = .ready
  command : Packets Wake.sent host.outEpPktSiz cbwSiz cbw
  data : ∃ data csw, seen = data ++ csw ∧
    data.length = (if u32 (blk_num * host.blk_size) = 0 then 0 else 1) ∧
    (∀ wake ∈ data, wake.gone = false) ∧ Packets Wake.got host.inEpPktSiz cswSiz csw

section

variable {host : Host} {buf : Nat → UInt8} {start_blk blk_num : Nat} {wakes rest : List Wake}

def WentWell (rest : List Wake) (run : Option Outcome) : Prop :=
  ∃ outcome, run = some outcome ∧ outcome.ok = true ∧ outcome.rest = rest

theorem wentWell_next {first : Option Outcome}
    {transfer : Outcome → Host → List Wake → Option Outcome} :
    WentWell rest (first.bind fun outcome => outcome.next (transfer outcome)) ↔
      ∃ outcome, first = some outcome ∧ outcome.ok ∧
        WentWell rest (transfer outcome outcome.host outcome.rest) := by
  constructor
  · rintro ⟨last, run, good, left⟩
    obtain ⟨outcome, found, later⟩ := bind_eq_some_iff.mp run
    unfold Outcome.next at later
    split at later
    · next ok =>
      exact ⟨outcome, found, ok, last, later, good, left⟩
    · next ok =>
      cases later
      exact absurd good ok
  · rintro ⟨outcome, found, ok, last, later, good, left⟩
    refine ⟨last, bind_eq_some_iff.mpr ⟨outcome, found, ?_⟩, good, left⟩
    rwa [Outcome.next, if_pos ok]

theorem wentWell_command (ready : host.host_state = .ready) (flags operation : Nat)
    {transfer : Host → List Wake → Option Outcome} :
    WentWell rest ((usbHLldSendCbw (host.command flags operation start_blk blk_num) buf wakes).bind
        fun sent => sent.next transfer) ↔
      ∃ cbw later, wakes = cbw ++ later ∧ Packets Wake.sent host.outEpPktSiz cbwSiz cbw ∧
        WentWell rest (transfer
          (cbw.foldl Host.wakeUp (host.command flags operation start_blk blk_num)) later) := by
  have awake : (host.command flags operation start_blk blk_num).host_state ≠ .stop := by
    change host.host_state ≠ .stop
    rw [ready]
    nofun
  rw [@wentWell_next rest _ fun _ => transfer]
  constructor
  · rintro ⟨outcome, found, ok, later⟩
    obtain ⟨cbw, split, packets, same⟩ := (sendCbw_true_iff awake).mp ⟨found, ok⟩
    rw [same] at later
    exact ⟨cbw, outcome.rest, split, packets, later⟩
  · rintro ⟨cbw, last, split, packets, later⟩
    obtain ⟨found, ok⟩ := (sendCbw_true_iff awake).mpr
      ⟨cbw, split, packets, (rfl : Outcome.mk true _ buf last = _)⟩
    exact ⟨_, found, ok, later⟩

theorem wentWell_inepDma (awake : host.host_state ≠ .stop) (len : Nat) :
    WentWell rest (usbHLldBulkInep host buf len .mode1 wakes) ↔
      ∃ wake, wakes = wake :: rest ∧ wake.gone = false := by
  unfold usbHLldBulkInep
  rw [if_neg awake]
  cases wakes with
  | nil =>
    refine iff_of_false ?_ ?_
    · rintro ⟨outcome, run, -⟩
      cases run
    · rintro ⟨wake, impossible, -⟩
      cases impossible
  | cons wake =>
    rw [usbHLldBulkInepDmamode1]
    cases gone : wake.gone with
    | true =>
      refine iff_of_false ?_ ?_
      · rintro ⟨outcome, run, good, -⟩
        cases run
        cases good
      · rintro ⟨other, same, here⟩
        cases same
        cases gone.symm.trans here
    | false =>
      constructor
      · rintro ⟨outcome, run, -, left⟩
        cases run
        cases left
        exact ⟨wake, rfl, gone⟩
      · rintro ⟨other, same, -⟩
        cases same
        exact ⟨_, rfl, rfl, rfl⟩

theorem outepDma_true_iff (awake : host.host_state ≠ .stop) (len : Nat) :
    usbHLldBulkOutep host buf len .mode1 wakes = some outcome ∧ outcome.ok ↔
      ∃ data, wakes = data ++ outcome.rest ∧ data.length = (if len = 0 then 0 else 1) ∧
        (∀ wake ∈ data, wake.gone = false) ∧
        outcome = ⟨true, data.foldl Host.wakeUp host, buf, outcome.rest⟩ := by
  unfold usbHLldBulkOutep
  rw [if_neg awake]
  rcases Nat.eq_zero_or_pos len with rfl | some
  · rw [outLoop_zero, if_pos rfl]
    constructor
    · rintro ⟨run, -⟩
      cases run
      exact ⟨[], rfl, rfl, nofun, rfl⟩
    · rintro ⟨data, split, none, -, same⟩
      obtain rfl := length_eq_zero_iff.mp none
      rw [same, split]
      exact ⟨rfl, rfl⟩
  · rw [if_neg (by omega)]
    cases wakes with
    | nil =>
      rw [outLoop, if_neg (by omega)]
      refine iff_of_false nofun ?_
      rintro ⟨data, split, one, -⟩
      rw [(nil_eq_append_iff.mp split).1] at one
      cases one
    | cons wake _ =>
      rw [outLoop_mode1 some]
      constructor
      · rintro ⟨run, good⟩
        split at run
        · cases run
          cases good
        · rename_i here
          cases run
          refine ⟨[wake], rfl, rfl, ?_, rfl⟩
          intro _ member
          rw [mem_singleton.mp member]
          exact Bool.eq_false_iff.mpr here
      · rintro ⟨data, split, one, here, same⟩
        obtain ⟨_, rfl⟩ := length_eq_one_iff.mp one
        obtain ⟨rfl, left⟩ := cons.inj split
        have awake := here wake (.head _)
        rw [if_neg (Bool.eq_false_iff.mp awake), same]
        exact ⟨by rw [left]; rfl, rfl⟩

theorem wentWell_read10 : WentWell rest (usbHLldScsiRead10 host start_blk blk_num buf wakes) ↔
    ∃ cbw seen, wakes = cbw ++ seen ++ rest ∧ ReadUndisturbed host cbw seen := by
  unfold usbHLldScsiRead10
  by_cases ready : host.host_state = .ready
  · rw [if_neg (not_not.mpr ready)]
    rw [wentWell_command ready]
    constructor
    · rintro ⟨cbw, _, rfl, packets, run⟩
      obtain ⟨data, found, good, _, ends, -, left⟩ := wentWell_next.mp run
      cases ends
      obtain ⟨wake, same, here⟩ :=
        (wentWell_inepDma (awake_of_cbw packets) _).mp ⟨data, found, good, left⟩
      refine ⟨cbw, [wake], ?_, ready, packets, wake, rfl, here⟩
      rw [same, append_assoc]
      rfl
    · rintro ⟨cbw, seen, split, -, packets, wake, rfl, here⟩
      refine ⟨cbw, wake :: rest, ?_, packets, wentWell_next.mpr ?_⟩
      · rw [split, append_assoc]
        rfl
      · obtain ⟨data, found, good, left⟩ :=
          (wentWell_inepDma (awake_of_cbw packets) _).mpr ⟨wake, rfl, here⟩
        exact ⟨data, found, good, _, rfl, rfl, left⟩
  · rw [if_pos ready]
    refine iff_of_false ?_ ?_
    · rintro ⟨_, run, good, -⟩
      cases run
      cases good
    · rintro ⟨cbw, seen, -, undisturbed⟩
      exact ready undisturbed.ready

theorem wentWell_write10 : WentWell rest (usbHLldScsiWrite10 host start_blk blk_num buf wakes) ↔
    ∃ cbw seen, wakes = cbw ++ seen ++ rest ∧ WriteUndisturbed host blk_num cbw seen := by
  unfold usbHLldScsiWrite10
  by_cases ready : host.host_state = .ready
  · rw [if_neg (not_not.mpr ready), wentWell_command ready]
    have sizes (seen : List Wake) : (seen.foldl Host.wakeUp
          (host.command 0x00 scsiWrite10 start_blk blk_num)).inEpPktSiz = host.inEpPktSiz ∧
        (seen.foldl Host.wakeUp
          (host.command 0x00 scsiWrite10 start_blk blk_num)).blk_size = host.blk_size := by
      rw [foldl_wakeUp]
      exact ⟨rfl, rfl⟩
    have awakeAfter {cbw data : List Wake} (packets : Packets Wake.sent host.outEpPktSiz cbwSiz cbw)
        (here : ∀ wake ∈ data, wake.gone = false) :
        ((cbw ++ data).foldl Host.wakeUp
          (host.command 0x00 scsiWrite10 start_blk blk_num)).host_state ≠ .stop := by
      refine foldl_wakeUp_not_stop (append_ne_nil_of_left_ne_nil
        (packets.ne_nil (by decide)) _) fun wake member => ?_
      rcases mem_append.mp member with inCbw | inData
      · exact Wake.not_gone_of_sent (packets.fine wake inCbw)
      · exact here wake inData
    constructor
    · rintro ⟨cbw, _, rfl, packets, run⟩
      obtain ⟨outcome, found, ok, status⟩ :=
        (@wentWell_next rest _ fun _ host rest => usbHLldGetCsw host buf rest).mp run
      obtain ⟨data, split, count, here, same⟩ :=
        (outepDma_true_iff (awake_of_cbw packets) _).mp ⟨found, ok⟩
      have after : outcome.host = (cbw ++ data).foldl Host.wakeUp
          (host.command 0x00 scsiWrite10 start_blk blk_num) := by
        rw [same, foldl_append]
      rw [after] at status
      obtain ⟨csw, ends, whole⟩ := (getCsw_true_iff (awakeAfter packets here)).mp status
      rw [(sizes _).2] at count
      rw [(sizes _).1] at whole
      refine ⟨cbw, data ++ csw, ?_, ready, packets, data, csw, rfl, count, here, whole⟩
      rw [split, ends, append_assoc, append_assoc]
    · rintro ⟨cbw, seen, split, -, packets, data, csw, rfl, count, here, whole⟩
      refine ⟨cbw, data ++ (csw ++ rest), ?_, packets, ?_⟩
      · rw [split, append_assoc, append_assoc]
      · rw [← (sizes cbw).2] at count
        rw [← (sizes (cbw ++ data)).1] at whole
        obtain ⟨found, ok⟩ := (outepDma_true_iff (awake_of_cbw packets) _).mpr
          ⟨data, rfl, count, here, (rfl : Outcome.mk true _ buf (csw ++ rest) = _)⟩
        refine (@wentWell_next rest _ fun _ host rest => usbHLldGetCsw host buf rest).mpr
          ⟨_, found, ok, ?_⟩
        rw [← foldl_append]
        exact (getCsw_true_iff (awakeAfter packets here)).mpr ⟨csw, rfl, whole⟩
  · rw [if_pos ready]
    refine iff_of_false ?_ ?_
    · rintro ⟨outcome, run, good, -⟩
      cases run
      cases good
    · rintro ⟨cbw, seen, -, undisturbed⟩
      exact ready undisturbed.ready

theorem truthful_iff {run : Option Outcome} {undisturbed : List Wake → List Wake → Prop}
    (went : ∀ rest, WentWell rest run ↔
      ∃ cbw seen, wakes = cbw ++ seen ++ rest ∧ undisturbed cbw seen)
    (command : ∀ cbw seen, undisturbed cbw seen → Packets Wake.sent host.outEpPktSiz cbwSiz cbw) :
    Truthful host wakes run ↔ ∀ cbw seen rest, wakes = cbw ++ seen ++ rest →
      undisturbed cbw seen → CswReceived host.magicNum seen := by
  constructor
  · intro truthful cbw seen rest split fine
    obtain ⟨outcome, found, ok, rfl⟩ := (went rest).mpr ⟨cbw, seen, split, fine⟩
    obtain ⟨other, _, same, count, _⟩ := truthful outcome found ok
    have lengths := (command cbw seen fine).count.trans count.symm
    rw [split, append_assoc, append_assoc] at same
    obtain ⟨-, later⟩ := append_inj same lengths
    rwa [append_cancel_right later]
  · intro honest outcome found ok
    obtain ⟨cbw, seen, split, fine⟩ := (went outcome.rest).mp ⟨outcome, found, ok, rfl⟩
    exact ⟨cbw, seen, split, (command cbw seen fine).count, honest cbw seen _ split fine⟩

end

/-- The two commands return `TRUE` whenever the bus was undisturbed. -/
theorem host_command_status (host : Host) (start_blk blk_num : Nat) (buf : Nat → UInt8)
    (wakes : List Wake) :
    (Truthful host wakes (usbHLldScsiRead10 host start_blk blk_num buf wakes) ∧
        Truthful host wakes (usbHReaddisk host start_blk blk_num buf wakes) ↔
      ∀ cbw seen rest, wakes = cbw ++ seen ++ rest → ReadUndisturbed host cbw seen →
        CswReceived host.magicNum seen) ∧
    (Truthful host wakes (usbHLldScsiWrite10 host start_blk blk_num buf wakes) ∧
        Truthful host wakes (usbHWritedisk host start_blk blk_num buf wakes) ↔
      ∀ cbw seen rest, wakes = cbw ++ seen ++ rest → WriteUndisturbed host blk_num cbw seen →
        CswReceived host.magicNum seen) := by
  unfold usbHReaddisk usbHWritedisk
  rw [and_self, and_self]
  exact ⟨truthful_iff (fun _ => wentWell_read10) fun _ _ fine => fine.command,
    truthful_iff (fun _ => wentWell_write10) fun _ _ fine => fine.command⟩

def readyHost : Host :=
  { host_state := .ready
    inEpPktSiz := 64
    outEpPktSiz := 64
    cbw := { Tag := 0, DataTransferLength := 0, Flags := 0, Lun := 0, Length := 0, CDB := [] }
    csw := fun _ => 0
    blk_size := 512
    magicNum := 0x12345678 }

def quiet : Wake :=
  { host_state := .ready
    txError := false
    rxError := false
    rxPktRdy := false
    moved := []
    fifo := [] }

def packetIn (fifo : List UInt8) : Wake := { quiet with rxPktRdy := true, fifo }

def failedCsw (tag : Nat) : List UInt8 :=
  leBytes bulkCswSigniture ++ leBytes tag ++ leBytes 0 ++ [1]

theorem not_cswReceived_of_failed (tag : Nat) :
    ¬CswReceived tag [quiet, packetIn (failedCsw tag)] := by
  rintro ⟨_, status, _, split, same⟩
  have packets : [quiet, packetIn (failedCsw tag)].flatMap Wake.packets = [failedCsw tag] := rfl
  rw [packets] at split
  have count := congrArg List.length split
  rw [length_append, length_append, length_singleton] at count
  match status, same with
  | [], impossible => cases impossible
  | [packet], same =>
    have member : packet ∈ [failedCsw tag] := by
      rw [split]
      exact mem_append_left _ (mem_append_right _ (.head _))
    have whole := (append_nil packet).symm.trans same
    have last := congrArg getLast? ((mem_singleton.mp member).symm.trans whole)
    cases last
  | first :: second :: others, _ =>
    rw [length_cons, length_cons] at count
    omega

/-- A write that the device has failed with status 1, and a read that it has not answered
at all. -/
theorem host_command_status_failed :
    ¬Truthful readyHost [quiet, quiet, packetIn (failedCsw 0x12345678)]
        (usbHLldScsiWrite10 readyHost 7 1 (fun _ => 0)
          [quiet, quiet, packetIn (failedCsw 0x12345678)]) ∧
      ¬Truthful readyHost [quiet, quiet]
        (usbHLldScsiRead10 readyHost 7 1 (fun _ => 0) [quiet, quiet]) := by
  have command : Packets Wake.sent readyHost.outEpPktSiz cbwSiz [quiet] :=
    ⟨.inr (by decide), by decide, by decide⟩
  constructor
  · rw [truthful_iff (fun _ => wentWell_write10) fun _ _ fine => fine.command]
    intro honest
    refine not_cswReceived_of_failed _ (honest [quiet] _ [] rfl ⟨rfl, command, ?_⟩)
    refine ⟨[quiet], [packetIn (failedCsw 0x12345678)], rfl, by decide, by decide, ?_⟩
    exact ⟨.inr (by decide), by decide, by decide⟩
  · rw [truthful_iff (fun _ => wentWell_read10) fun _ _ fine => fine.command]
    intro honest
    obtain ⟨_, status, _, split, same⟩ :=
      honest [quiet] [quiet] [] rfl ⟨rfl, command, quiet, rfl, rfl⟩
    have none : status = [] := by
      have empty := nil_eq_append_iff.mp split
      exact (append_eq_nil_iff.mp empty.1).2
    rw [none] at same
    cases same

end Hfirmware.Usb.HostBulk
