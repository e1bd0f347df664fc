/-
Framing of the receiving thread.
-/

import Hfirmware.Bluetooth.H4Receive

namespace Hfirmware.Bluetooth.H4

open List Receiver PacketType ByteImage GuardedRun

variable {receiver : Receiver}

def PacketType.lengthLimit : PacketType → Nat
  | .aclData => 2 ^ 16
  | _ => 2 ^ 8

structure Packet where
  type : PacketType
  (low high : UInt8)
  payload : List UInt8
  data : type ≠ .event
  short : payload.length < type.lengthLimit

def Packet.lengthField (packet : Packet) : List UInt8 :=
  match packet.type with
  | .aclData =>
    [UInt8.ofNat packet.payload.length, UInt8.ofNat (packet.payload.length / 2 ^ 8)]
  | _ => [UInt8.ofNat packet.payload.length]

def Packet.header (packet : Packet) : List UInt8 := packet.low :: packet.high :: packet.lengthField

def Packet.encode (packet : Packet) : List UInt8 :=
  packet.type.byte :: packet.header ++ packet.payload

def Packet.total (packet : Packet) : Nat := packet.type.headerEnd + packet.payload.length

def Packet.fits (packet : Packet) : Bool := packet.total ≤ maxPktSize

def Packet.toRx (packet : Packet) : RxPacket :=
  { packet_type := packet.type
    size := packet.payload.length + packet.type.hdrLen
    header := packet.header
    pdu := packet.payload }

def encodeAll (packets : List Packet) : List UInt8 := packets.flatMap Packet.encode

/-- However the stream is delivered, the packets that fit are committed in order
and nothing is written behind the buffer. -/
def Framed (packets : List Packet) : Prop :=
  ∀ reads, Along Receiver.receive Delivers Receiver.start reads →
    reads.flatten = encodeAll packets →
      (Receiver.start.run reads).committed = (packets.filter Packet.fits).map Packet.toRx ∧
        (Receiver.start.run reads).reach ≤ maxPktSize

open Packet

theorem slice_congr {left right : Nat → UInt8} {a b count : Nat}
    (same : ∀ k < count, left (a + k) = right (b + k)) :
    slice left a count = slice right b count := by
  apply map_congr_left
  intro k member
  exact same k (mem_range.mp member)

theorem slice_getD (bytes : List UInt8) :
    slice (fun k => bytes.getD k 0) 0 bytes.length = bytes := by
  unfold slice
  apply ext_getElem
  · simp
  · intro k _ right
    rw [getElem_map, getElem_range, zero_add]
    exact getD_eq_getElem _ _ right

theorem slice_patch (buffer : Nat → UInt8) (offset : Nat) (bytes : List UInt8) :
    slice (patch buffer offset bytes.length fun k => bytes.getD k 0) offset bytes.length =
      bytes := by
  have same := @slice_congr (patch buffer offset bytes.length fun k => bytes.getD k 0)
    (fun k => bytes.getD k 0) offset 0 bytes.length (by
      intro k _
      rw [patch_inside _ _ (Nat.le_add_right _ _) (by omega), Nat.add_sub_cancel_left, zero_add])
  rw [same, slice_getD]

variable {committed : List RxPacket} {reach : Nat}

section

variable {packet : Packet}

theorem Packet.length_header (packet : Packet) :
    packet.header.length = packet.type.headerEnd - 1 := by
  have data := packet.data
  unfold header lengthField
  cases type : packet.type with
  | event => exact absurd type data
  | command => rfl
  | aclData => rfl
  | scoData => rfl

@[simp] theorem PacketType.ofByte_byte (type : PacketType) : ofByte type.byte = some type := by
  cases type <;> rfl

theorem Packet.pduLen_eq {buffer : Nat → UInt8}
    (holds : slice buffer 1 packet.header.length = packet.header) :
    packet.type.pduLen buffer = packet.payload.length := by
  have data := packet.data
  have short := packet.short
  have bytes (k : Nat) (below : k < packet.header.length) :
      buffer (1 + k) = packet.header.getD k 0 := by
    rw [← holds]
    unfold slice
    rw [getD_eq_getElem _ _ (by simpa using below), getElem_map, getElem_range]
  cases type : packet.type with
  | event => exact absurd type data
  | command | scoData =>
    have third := bytes 2 (by simp [header, lengthField, type])
    rw [type] at short
    simp only [header, lengthField, type, getD_cons_succ, getD_cons_zero] at third
    simp only [pduLen, third, UInt8.toNat_ofNat']
    exact Nat.mod_eq_of_lt short
  | aclData =>
    have third := bytes 2 (by simp [header, lengthField, type])
    have fourth := bytes 3 (by simp [header, lengthField, type])
    rw [type] at short
    simp only [header, lengthField, type, getD_cons_succ, getD_cons_zero] at third fourth
    simp only [pduLen, third, fourth, UInt8.toNat_ofNat']
    simp only [lengthLimit] at short
    omega

structure Opened (receiver : Receiver) (type : PacketType) (committed : List RxPacket)
    (reach : Nat) : Prop where
  stage : receiver.stage = .header type
  tot : receiver.tot = 1
  pdu_length : receiver.pdu_length = type.headerEnd
  committed : receiver.committed = committed
  reach : receiver.reach = max reach 1

theorem feed_type (idle : receiver.stage = .packetType) (type : PacketType) :
    Opened (receiver.feed type.byte) type receiver.committed receiver.reach := by
  have first : (receiver.write 0 [type.byte]).s_RxBuffer 0 = type.byte := rfl
  have fed : receiver.feed type.byte = { receiver.write 0 [type.byte] with
        stage := .header type
        tot := 1
        pdu_length := type.headerEnd } := by
    unfold Receiver.feed Receiver.receive
    rw [if_neg nofun, idle]
    simp only [first, ofByte_byte]
  rw [fed]
  exact ⟨rfl, rfl, rfl, rfl, rfl⟩

theorem Opened.feed_header (opened : Opened receiver packet.type committed reach) :
    ∃ filled : Receiver, receiver.feedAll packet.header = filled.headerDone packet.type ∧
      slice filled.s_RxBuffer 1 packet.header.length = packet.header ∧
        filled.tot = packet.type.headerEnd ∧ filled.pdu_length = packet.type.headerEnd ∧
          filled.committed = committed ∧ filled.reach = max reach packet.type.headerEnd := by
  have length := packet.length_header
  have least : 3 ≤ packet.type.headerEnd := by cases packet.type <;> decide
  have some : packet.header ≠ [] := nofun
  have delivers : Delivers receiver packet.header := by
    unfold Delivers requested
    apply le_of_eq
    rw [opened.stage, length, opened.tot, opened.pdu_length]
  refine ⟨{ receiver.write receiver.tot packet.header with
    tot := receiver.tot + packet.header.length },
    ?_, ?_, ?_, opened.pdu_length, opened.committed, ?_⟩
  · rw [← receive_eq_feedAll delivers]
    apply receive_header_rest opened.stage some
    rw [opened.tot, opened.pdu_length]
    omega
  · have stored := slice_patch receiver.s_RxBuffer 1 packet.header
    simp only [write, opened.tot]
    exact stored
  · change receiver.tot + packet.header.length = _
    rw [opened.tot, length]
    omega
  · change max receiver.reach (receiver.tot + packet.header.length) = _
    rw [opened.reach, opened.tot, length]
    omega

structure Between (receiver : Receiver) (committed : List RxPacket) (reach : Nat) : Prop where
  stage : receiver.stage = .packetType
  committed : receiver.committed = committed
  reach : receiver.reach = reach

theorem Between.feed_packet (between : Between receiver committed reach) (packet : Packet)
    (accepted : packet.payload.length ≤ maxPktSize) :
    Between (receiver.feedAll packet.encode) (committed ++ [packet.toRx])
      (max reach packet.total) := by
  have opened := feed_type between.stage packet.type
  rw [between.committed, between.reach] at opened
  obtain ⟨filled, fed, header, tot, pdu_length, same, reached⟩ := opened.feed_header
  have announced := pduLen_eq header
  have length := packet.length_header
  rw [encode, cons_append, feedAll_cons, feedAll_append, fed]
  unfold Receiver.headerDone
  rw [announced]
  dsimp only
  rw [tot, pdu_length, if_neg (by omega)]
  by_cases empty : packet.payload = []
  · have none := length_eq_zero_iff.mpr empty
    rw [if_neg (by omega), empty, feedAll_nil]
    refine ⟨rfl, ?_, ?_⟩
    · simp only [commit, same, toRx, empty, length_nil, slice]
      rw [← length]
      simp only [slice] at header
      rw [header]
      rfl
    · change filled.reach = _
      rw [reached, total, none, add_zero]
  · have some := length_pos_iff.mpr empty
    rw [if_pos (by omega), ← receive_eq_feedAll (by
      unfold Delivers requested
      dsimp only
      omega), receive_payload_rest rfl empty (by dsimp only; omega)]
    refine ⟨rfl, ?_, ?_⟩
    · simp only [commit, write, same, toRx]
      rw [slice_congr fun k below => patch_outside _ _ (by omega), ← length, header,
        Nat.add_sub_cancel, slice_patch]
    · change max filled.reach (packet.type.headerEnd + packet.payload.length) = _
      rw [reached, total]
      omega

end

theorem Between.feed_packets (between : Between receiver committed reach) (packets : List Packet)
    (fits : ∀ packet ∈ packets, packet.total ≤ maxPktSize) (bounded : reach ≤ maxPktSize) :
    ∃ last ≤ maxPktSize, Between (receiver.feedAll (encodeAll packets))
      (committed ++ packets.map toRx) last := by
  induction packets generalizing receiver committed reach with
  | nil =>
    refine ⟨reach, bounded, ?_⟩
    rwa [map_nil, append_nil]
  | cons packet _ ih =>
    have here := fits packet (.head _)
    have least : packet.payload.length ≤ maxPktSize := by
      unfold total at here
      omega
    obtain ⟨last, most, after⟩ := ih (between.feed_packet packet least)
      (fun other member => fits other (.tail _ member)) (by omega)
    refine ⟨last, most, ?_⟩
    rw [encodeAll, flatMap_cons, feedAll_append, map_cons]
    rwa [append_assoc] at after

variable {packets : List Packet}

theorem framed_of_fits (fits : ∀ packet ∈ packets, packet.total ≤ maxPktSize) : Framed packets := by
  intro _ delivered stream
  have between : Between Receiver.start [] 0 := ⟨rfl, rfl, rfl⟩
  obtain ⟨_, most, after⟩ := between.feed_packets packets fits (Nat.zero_le _)
  have all : packets.filter Packet.fits = packets :=
    filter_eq_self.mpr fun packet member => decide_eq_true (fits packet member)
  rw [run_eq_feedAll delivered, stream, all]
  exact ⟨after.committed, after.reach ▸ most⟩

/-! ### Byte by byte -/

def Waiting (receiver : Receiver) : Prop :=
  receiver.stage = .packetType ∨ receiver.tot < receiver.pdu_length

section

theorem Receiver.feed_waiting (receiver : Receiver) (byte : UInt8) :
    Waiting (receiver.feed byte) := by
  unfold Receiver.feed Receiver.receive
  rw [if_neg nofun]
  cases stage : receiver.stage with
  | packetType =>
    dsimp only
    split
    · exact .inl stage
    · rename_i type _
      right
      change 1 < type.headerEnd
      cases type <;> decide
  | header type =>
    dsimp only
    split
    · rename_i short
      exact .inr short
    · unfold Receiver.headerDone
      dsimp only
      split
      · exact .inl rfl
      · split
        · rename_i some
          exact .inr (by dsimp only; omega)
        · exact .inl rfl
  | payload type =>
    dsimp only
    split
    · rename_i short
      exact .inr short
    · exact .inl rfl

theorem Waiting.delivered (waiting : Waiting receiver) (bytes : List UInt8) :
    Along Receiver.receive Delivers receiver (bytes.map fun byte => [byte]) := by
  induction bytes generalizing receiver with
  | nil => trivial
  | cons byte _ ih =>
    refine ⟨?_, ih (receiver.feed_waiting byte)⟩
    unfold Delivers requested
    rw [length_singleton]
    rcases waiting with idle | short
    · apply le_of_eq
      rw [idle]
    · cases receiver.stage with
      | packetType => exact .refl
      | header type | payload type =>
        dsimp only
        omega

theorem Framed.feedAll (framed : Framed packets) :
    let after := Receiver.start.feedAll (encodeAll packets)
    after.committed = (packets.filter Packet.fits).map toRx ∧ after.reach ≤ maxPktSize := by
  have waiting : Waiting Receiver.start := .inl rfl
  have delivered := waiting.delivered (encodeAll packets)
  have stream : ((encodeAll packets).map fun byte => [byte]).flatten = encodeAll packets := by
    induction encodeAll packets with
    | nil => rfl
    | cons _ _ ih => rw [map_cons, flatten_cons, ih, singleton_append]
  have ran := run_eq_feedAll delivered
  rw [stream] at ran
  rw [← ran]
  exact framed _ delivered stream

structure Grown (before after : Receiver) : Prop where
  committed : before.committed <+: after.committed
  reach : before.reach ≤ after.reach

theorem Grown.refl (receiver : Receiver) : Grown receiver receiver :=
  ⟨prefix_refl _, .refl⟩

theorem Grown.trans {first second third : Receiver} (front : Grown first second)
    (back : Grown second third) : Grown first third :=
  ⟨front.committed.trans back.committed, le_trans front.reach back.reach⟩

section

variable (receiver : Receiver)

theorem Grown.headerDone (type : PacketType) : Grown receiver (receiver.headerDone type) := by
  unfold Receiver.headerDone
  dsimp only
  split
  · exact ⟨prefix_refl _, .refl⟩
  · split
    · exact ⟨prefix_refl _, .refl⟩
    · exact ⟨prefix_append _ _, .refl⟩

theorem Grown.feed (byte : UInt8) : Grown receiver (receiver.feed byte) := by
  have written (offset tot : Nat) : Grown receiver { receiver.write offset [byte] with tot } :=
    ⟨prefix_refl _, le_max_left _ _⟩
  unfold Receiver.feed Receiver.receive
  rw [if_neg nofun]
  cases receiver.stage with
  | packetType =>
    dsimp only
    split
    · exact ⟨prefix_refl _, le_max_left _ _⟩
    · exact ⟨prefix_refl _, le_max_left _ _⟩
  | header type =>
    dsimp only
    split
    · exact written _ _
    · exact (written _ _).trans (Grown.headerDone _ type)
  | payload type =>
    dsimp only
    split
    · exact written _ _
    · exact (written _ _).trans ⟨prefix_append _ _, .refl⟩

theorem Grown.feedAll (bytes : List UInt8) : Grown receiver (receiver.feedAll bytes) := by
  induction bytes generalizing receiver with
  | nil => exact Grown.refl receiver
  | cons byte _ ih => exact (Grown.feed receiver byte).trans (ih (receiver.feed byte))

end

end

theorem not_framed_of_overrun {front back : List Packet} {packet : Packet}
    (fits : ∀ other ∈ front, other.total ≤ maxPktSize)
    (accepted : packet.payload.length ≤ maxPktSize) (long : maxPktSize < packet.total) :
    ¬Framed (front ++ packet :: back) := by
  intro framed
  have between : Between Receiver.start [] 0 := ⟨rfl, rfl, rfl⟩
  obtain ⟨_, _, after⟩ := between.feed_packets front fits (Nat.zero_le _)
  have past := after.feed_packet packet accepted
  have grown := Grown.feedAll ((Receiver.start.feedAll (encodeAll front)).feedAll packet.encode)
    (encodeAll back)
  have whole : encodeAll (front ++ packet :: back) =
      encodeAll front ++ (packet.encode ++ encodeAll back) := by
    simp [encodeAll]
  have bounded := framed.feedAll.2
  rw [whole, feedAll_append, feedAll_append] at bounded
  have reached := grown.reach
  rw [past.reach] at reached
  omega

theorem Between.feed_long_header (between : Between receiver committed reach) {packet : Packet}
    (long : maxPktSize < packet.payload.length) :
    ∃ last, Between (receiver.feedAll (packet.type.byte :: packet.header)) committed last := by
  have opened := feed_type between.stage packet.type
  rw [between.committed, between.reach] at opened
  obtain ⟨filled, fed, header, tot, pdu_length, same, _⟩ := opened.feed_header
  have announced := pduLen_eq header
  rw [feedAll_cons, fed]
  unfold Receiver.headerDone
  dsimp only
  rw [tot, pdu_length, if_pos (by omega)]
  exact ⟨filled.reach, rfl, same, rfl⟩

def strayCommand : Packet :=
  { type := .command
    low := 0xff
    high := 0xff
    payload := []
    data := by decide
    short := by decide }

theorem not_framed_of_stray {front back : List Packet} {packet : Packet} {rest : List UInt8}
    (fits : ∀ other ∈ front, other.total ≤ maxPktSize) (long : maxPktSize < packet.payload.length)
    (starts : packet.payload = strayCommand.encode ++ rest)
    (others : ∀ other ∈ back, other.low = 0) : ¬Framed (front ++ packet :: back) := by
  intro framed
  have between : Between Receiver.start [] 0 := ⟨rfl, rfl, rfl⟩
  obtain ⟨_, _, after⟩ := between.feed_packets front fits (Nat.zero_le _)
  obtain ⟨_, dropped⟩ := after.feed_long_header long
  have stray := dropped.feed_packet strayCommand (by decide)
  have whole : encodeAll (front ++ packet :: back) = encodeAll front ++
      ((packet.type.byte :: packet.header) ++
        (strayCommand.encode ++ (rest ++ encodeAll back))) := by
    simp [encodeAll, encode, starts]
  have committed := framed.feedAll.1
  rw [whole, feedAll_append, feedAll_append, feedAll_append] at committed
  have grown := (Grown.feedAll (((Receiver.start.feedAll (encodeAll front)).feedAll
    (packet.type.byte :: packet.header)).feedAll strayCommand.encode)
      (rest ++ encodeAll back)).committed
  have notFits : packet.fits = false := by
    apply decide_eq_false
    unfold total
    omega
  have allFit : front.filter Packet.fits = front :=
    filter_eq_self.mpr fun other member => decide_eq_true (fits other member)
  rw [stray.committed, committed, filter_append, filter_cons_of_neg (by simp [notFits]),
    allFit, map_append, nil_append, prefix_append_right_inj] at grown
  have member := grown.subset (.head _)
  obtain ⟨other, kept, same⟩ := mem_map.mp member
  have header := congrArg (fun packet : RxPacket => packet.header.head?) same
  have low : other.low = 0xff := Option.some.inj header
  rw [others other (mem_filter.mp kept).1] at low
  exact absurd low (by decide)

/-! ### Any bytes -/

def Contained (receiver : Receiver) (bytes : List UInt8) : Prop :=
  match receiver.stage with
  | .header type =>
    receiver.pdu_length ≤ receiver.tot + bytes.length →
      receiver.pdu_length + type.pduLen (receiver.write receiver.tot bytes).s_RxBuffer ≤
          maxPktSize ∨
        maxPktSize < type.pduLen (receiver.write receiver.tot bytes).s_RxBuffer
  | _ => True

structure InBuffer (receiver : Receiver) : Prop where
  reach : receiver.reach ≤ maxPktSize
  next : receiver.stage = .packetType ∨
    (receiver.tot < receiver.pdu_length ∧ receiver.pdu_length ≤ maxPktSize)

theorem InBuffer.headerDone {type : PacketType} (reach : receiver.reach ≤ maxPktSize)
    (complete : receiver.tot = receiver.pdu_length)
    (contained : receiver.pdu_length + type.pduLen receiver.s_RxBuffer ≤ maxPktSize ∨
      maxPktSize < type.pduLen receiver.s_RxBuffer) : InBuffer (receiver.headerDone type) := by
  unfold Receiver.headerDone
  dsimp only
  split
  · exact ⟨reach, .inl rfl⟩
  · rename_i accepted
    split
    · rename_i some
      refine ⟨reach, .inr ⟨?_, ?_⟩⟩
      · dsimp only
        omega
      · dsimp only
        omega
    · exact ⟨reach, .inl rfl⟩

theorem InBuffer.receive (receiver : Receiver) (bytes : List UInt8) (inBuffer : InBuffer receiver)
    (allowed : Delivers receiver bytes ∧ Contained receiver bytes) :
    InBuffer (receiver.receive bytes) := by
  obtain ⟨delivers, contained⟩ := allowed
  obtain ⟨reach, next⟩ := inBuffer
  unfold Delivers at delivers
  by_cases none : bytes = []
  · rw [none, receive_nil]
    exact ⟨reach, next⟩
  by_cases idle : receiver.stage = .packetType
  · unfold requested at delivers
    rw [idle] at delivers
    have written : max receiver.reach (0 + bytes.length) ≤ maxPktSize := by
      unfold maxPktSize at reach ⊢
      dsimp only at delivers
      omega
    unfold Receiver.receive
    rw [if_neg none, idle]
    dsimp only
    split
    · exact ⟨written, .inl idle⟩
    · rename_i type _
      have short : 1 < type.headerEnd ∧ type.headerEnd ≤ maxPktSize := by cases type <;> decide
      exact ⟨written, .inr short⟩
  · obtain ⟨_, bounded⟩ := next.resolve_left idle
    have asked : receiver.requested = receiver.pdu_length - receiver.tot := by
      unfold requested
      cases stage : receiver.stage with
      | packetType => exact absurd stage idle
      | header | payload => rfl
    have written : max receiver.reach (receiver.tot + bytes.length) ≤ maxPktSize := by omega
    by_cases short : bytes.length < receiver.requested
    · rw [receive_part none idle short]
      refine ⟨written, .inr ⟨?_, bounded⟩⟩
      change receiver.tot + bytes.length < receiver.pdu_length
      omega
    · have complete : receiver.tot + bytes.length = receiver.pdu_length := by omega
      cases stage : receiver.stage with
      | packetType => exact absurd stage idle
      | header type =>
        unfold Contained at contained
        rw [stage] at contained
        rw [receive_header_rest stage none (le_of_eq complete.symm)]
        exact InBuffer.headerDone written complete (contained (le_of_eq complete.symm))
      | payload type =>
        rw [receive_payload_rest stage none (le_of_eq complete.symm)]
        exact ⟨written, .inl rfl⟩

def Packet.shape (packet : Packet) : PacketType × Nat := (packet.type, packet.payload.length)

def Packet.plain (packet : Packet) : Packet := { packet with low := 0, high := 0 }

def Packet.disguised (packet : Packet) (long : maxPktSize < packet.payload.length) : Packet :=
  { packet with
    payload := strayCommand.encode ++ List.replicate (packet.payload.length - 4) 0
    short := by
      have short := packet.short
      have size : strayCommand.encode.length = 4 := rfl
      unfold maxPktSize at long
      rw [List.length_append, List.length_replicate, size]
      omega }

theorem Packet.disguised_length (packet : Packet) (long : maxPktSize < packet.payload.length) :
    (packet.disguised long).payload.length = packet.payload.length := by
  have size : strayCommand.encode.length = 4 := rfl
  unfold maxPktSize at long
  change (strayCommand.encode ++ replicate (packet.payload.length - 4) (0 : UInt8)).length = _
  rw [length_append, length_replicate, size]
  omega

theorem fits_of_framed (framed : ∀ others : List Packet, others.map shape = packets.map shape →
      Framed others) : ∀ packet ∈ packets, packet.total ≤ maxPktSize := by
  -- The first packet that does not fit decides.
  cases found : packets.find? fun packet => !packet.fits with
  | none =>
    intro packet member
    have fits := find?_eq_none.mp found packet member
    simpa [Packet.fits] using fits
  | some packet =>
    exfalso
    obtain ⟨notFits, front, back, whole, before⟩ := find?_eq_some_iff_append.mp found
    have fits : ∀ other ∈ front, other.total ≤ maxPktSize := by
      intro other member
      have kept := before other member
      simpa [Packet.fits] using kept
    have long : maxPktSize < packet.total := by simpa [Packet.fits] using notFits
    by_cases accepted : packet.payload.length ≤ maxPktSize
    · apply not_framed_of_overrun fits accepted long
      rw [← whole]
      exact framed packets rfl
    · have longPayload : maxPktSize < packet.payload.length := by omega
      have others : ∀ other ∈ back.map plain, other.low = 0 := by
        intro other member
        obtain ⟨_, _, rfl⟩ := mem_map.mp member
        rfl
      have length := packet.disguised_length longPayload
      refine not_framed_of_stray fits (length.symm ▸ longPayload) rfl others (framed
        (front ++ packet.disguised longPayload :: back.map plain) ?_)
      rw [whole, map_append, map_append, map_cons, map_cons, map_map]
      congr 2
      exact Prod.ext rfl length

/-- Packets are framed correctly, whatever their content, exactly if all of them fit the
buffer; and no run writes behind the buffer unless a header announces a packet that is
too long and a payload that is not. -/
theorem h4_framing (packets : List Packet) (reads : List (List UInt8)) :
    ((∀ others : List Packet, others.map Packet.shape = packets.map Packet.shape →
        Framed others) ↔ ∀ packet ∈ packets, packet.total ≤ maxPktSize) ∧
    (Along Receiver.receive
        (fun receiver bytes => Delivers receiver bytes ∧ Contained receiver bytes)
        Receiver.start reads →
      (Receiver.start.run reads).reach ≤ maxPktSize) := by
  constructor
  · constructor
    · exact fits_of_framed
    · intro fits others same
      apply framed_of_fits
      intro other member
      have shaped := same ▸ mem_map_of_mem member
      obtain ⟨packet, inside, equal⟩ := mem_map.mp shaped
      have type := congrArg Prod.fst equal
      have length := congrArg Prod.snd equal
      have here := fits packet inside
      unfold total at here ⊢
      rwa [← show packet.type = other.type from type,
        ← show packet.payload.length = other.payload.length from length]
  · intro allowed
    have initial : InBuffer Receiver.start := ⟨Nat.zero_le _, .inl rfl⟩
    exact (invariant_of_along InBuffer.receive initial allowed).reach

/-- A reset command and a short ACL packet; and the bytes of the command alone. -/
theorem h4_framing_short : Framed [⟨.command, 0x03, 0x0c, [], by decide, by decide⟩,
      ⟨.aclData, 0x01, 0x20, [0x55], by decide, by decide⟩] ∧
    (Receiver.start.run [[0x01], [], [0x03, 0x0c], [0x00]]).reach ≤ maxPktSize := by
  constructor
  · exact (h4_framing _ []).1.mpr (by decide) _ rfl
  · apply (h4_framing [] _).2
    refine ⟨⟨by decide, trivial⟩, ⟨by decide, ?_⟩, ⟨by decide, ?_⟩, ⟨by decide, ?_⟩, trivial⟩
    · exact fun complete => absurd complete (by decide)
    · exact fun complete => absurd complete (by decide)
    · exact fun _ => .inl (by decide)

def zeroAcl (count : Fin (2 ^ 16)) : Packet :=
  { type := .aclData
    low := 0
    high := 0
    payload := List.replicate count 0
    data := by decide
    short := by
      rw [List.length_replicate]
      exact count.isLt }

theorem zeroAcl_payload_length (count : Fin (2 ^ 16)) :
    (zeroAcl count).payload.length = count := length_replicate

theorem zeroAcl_long : maxPktSize < (zeroAcl 1025).payload.length := by
  rw [zeroAcl_payload_length]
  decide

/-- An ACL packet of 1020 payload bytes is written past the end of the buffer,
and one of 1025 payload bytes that start with a command is taken for the
command. -/
theorem h4_framing_long :
    ¬Framed [zeroAcl 1020] ∧ ¬Framed [(zeroAcl 1025).disguised zeroAcl_long] := by
  constructor
  · apply @not_framed_of_overrun [] []
    · exact nofun
    · rw [zeroAcl_payload_length]
      decide
    · unfold total
      rw [zeroAcl_payload_length]
      decide
  · apply @not_framed_of_stray [] []
    · exact nofun
    · rw [disguised_length]
      exact zeroAcl_long
    · rfl
    · exact nofun

end Hfirmware.Bluetooth.H4
