/-
The receiving thread of the dongle, which asks for the type byte of an H4 packet, the
rest of its header and its payload.
-/

import Hfirmware.ByteImage
import Hfirmware.GuardedRun

namespace Hfirmware.Bluetooth.H4

open List ByteImage GuardedRun

def maxPktSize : Nat := 1024

inductive PacketType where
  | command | aclData | scoData | event
deriving DecidableEq

def PacketType.byte : PacketType → UInt8
  | .command => 0x01
  | .aclData => 0x02
  | .scoData => 0x03
  | .event => 0x04

def PacketType.ofByte (byte : UInt8) : Option PacketType :=
  if byte = 0x01 then some .command
  else if byte = 0x02 then some .aclData
  else if byte = 0x03 then some .scoData
  else if byte = 0x04 then some .event
  else none

/-- The first value of `pdu_length`: the type byte and the header. -/
def PacketType.headerEnd : PacketType → Nat
  | .command => 4
  | .aclData => 5
  | .scoData => 4
  | .event => 3

def PacketType.pduLen (type : PacketType) (s_RxBuffer : Nat → UInt8) : Nat :=
  match type with
  | .command => (s_RxBuffer 3).toNat
  | .aclData => (s_RxBuffer 3).toNat + (s_RxBuffer 4).toNat * 2 ^ 8
  | .scoData => (s_RxBuffer 3).toNat
  | .event => (s_RxBuffer 2).toNat

/-- `hdr_len`: the controller's buffer for a command has room for the header. -/
def PacketType.hdrLen : PacketType → Nat
  | .command => 3
  | _ => 0

/-- A packet as the controller gets it: the arguments of
`HCI_Generic_Get_Rx_Buf`, with the header behind `head_buf`, and what is copied
to the buffer it returns. -/
structure RxPacket where
  packet_type : PacketType
  size : Nat
  (header pdu : List UInt8)

inductive Stage where
  | packetType
  | header (type : PacketType)
  | payload (type : PacketType)
deriving DecidableEq

/-- The thread between two reads. `reach` is the end of the highest write to
`s_RxBuffer`. -/
structure Receiver where
  stage : Stage
  s_RxBuffer : Nat → UInt8
  (tot pdu_length pdu_len : Nat)
  committed : List RxPacket
  reach : Nat

def Receiver.start : Receiver :=
  { stage := .packetType
    s_RxBuffer := fun _ => 0
    tot := 0
    pdu_length := 0
    pdu_len := 0
    committed := []
    reach := 0 }

def Receiver.requested (receiver : Receiver) : Nat :=
  match receiver.stage with
  | .packetType => 1
  | .header _ => receiver.pdu_length - receiver.tot
  | .payload _ => receiver.pdu_length - receiver.tot

def Receiver.write (receiver : Receiver) (offset : Nat) (bytes : List UInt8) : Receiver :=
  { receiver with
    s_RxBuffer := patch receiver.s_RxBuffer offset bytes.length fun k => bytes.getD k 0
    reach := max receiver.reach (offset + bytes.length) }

def slice (buffer : Nat → UInt8) (start count : Nat) : List UInt8 :=
  (List.range count).map fun k => buffer (start + k)

/-- `HCI_Generic_Get_Rx_Buf`, which returns a buffer, the copy and
`HCI_Generic_Commit_Rx_Buf`. -/
def Receiver.commit (receiver : Receiver) (type : PacketType) : Receiver :=
  { receiver with
    stage := .packetType
    committed := receiver.committed ++
      [{ packet_type := type
         size := receiver.pdu_len + type.hdrLen
         header := slice receiver.s_RxBuffer 1 (type.headerEnd - 1)
         pdu := slice receiver.s_RxBuffer (receiver.pdu_length - receiver.pdu_len)
           receiver.pdu_len }] }

def Receiver.headerDone (receiver : Receiver) (type : PacketType) : Receiver :=
  let pdu_len := type.pduLen receiver.s_RxBuffer
  let announced := { receiver with
    pdu_len := pdu_len
    pdu_length := receiver.pdu_length + pdu_len }
  -- The test leaves the header out of account, and the payload is not read away.
  if announced.pdu_length - announced.tot > maxPktSize then
    { announced with stage := .packetType }
  else if announced.pdu_length - announced.tot > 0 then
    { announced with stage := .payload type }
  else announced.commit type

def Receiver.receive (receiver : Receiver) (bytes : List UInt8) : Receiver :=
  if bytes = [] then receiver
  else
    match receiver.stage with
    | .packetType =>
      let filled := receiver.write 0 bytes
      match PacketType.ofByte (filled.s_RxBuffer 0) with
      | none => filled
      | some type =>
        { filled with
          stage := .header type
          tot := 1
          pdu_length := type.headerEnd }
    | .header type =>
      let filled := { receiver.write receiver.tot bytes with tot := receiver.tot + bytes.length }
      if filled.tot < filled.pdu_length then filled else filled.headerDone type
    | .payload type =>
      let filled := { receiver.write receiver.tot bytes with tot := receiver.tot + bytes.length }
      if filled.tot < filled.pdu_length then filled else filled.commit type

def Delivers (receiver : Receiver) (bytes : List UInt8) : Prop :=
  bytes.length ≤ receiver.requested

instance (receiver : Receiver) (bytes : List UInt8) : Decidable (Delivers receiver bytes) :=
  inferInstanceAs (Decidable (_ ≤ _))

def Receiver.run (receiver : Receiver) (reads : List (List UInt8)) : Receiver :=
  reads.foldl Receiver.receive receiver

/-! ### Reads and bytes -/

def Receiver.feed (receiver : Receiver) (byte : UInt8) : Receiver := receiver.receive [byte]

def Receiver.feedAll (receiver : Receiver) (bytes : List UInt8) : Receiver :=
  bytes.foldl Receiver.feed receiver

variable {receiver : Receiver}

open Receiver

@[simp] theorem receive_nil : receiver.receive [] = receiver := if_pos rfl

@[simp] theorem feedAll_nil : receiver.feedAll [] = receiver := rfl

theorem feedAll_cons (byte : UInt8) (rest : List UInt8) :
    receiver.feedAll (byte :: rest) = (receiver.feed byte).feedAll rest := rfl

theorem feedAll_append (front back : List UInt8) :
    receiver.feedAll (front ++ back) = (receiver.feedAll front).feedAll back :=
  foldl_append

theorem write_write (offset : Nat) (first second : List UInt8) :
    (receiver.write offset first).write (offset + first.length) second =
      receiver.write offset (first ++ second) := by
  have buffer : patch (patch receiver.s_RxBuffer offset first.length fun k => first.getD k 0)
      (offset + first.length) second.length (fun k => second.getD k 0) =
        patch receiver.s_RxBuffer offset (first ++ second).length
          fun k => (first ++ second).getD k 0 := by
    rw [length_append, ← patch_append]
    congr 1
    · apply patch_congr
      intro k below
      rw [getD_append _ _ _ _ below]
    · funext k
      rw [getD_append_right _ _ _ _ (Nat.le_add_right _ _), Nat.add_sub_cancel_left]
  simp only [Receiver.write, buffer, length_append, mk.injEq, true_and]
  omega

theorem receive_part {first : List UInt8} (some : first ≠ []) (waits : receiver.stage ≠ .packetType)
    (short : first.length < receiver.requested) :
    receiver.receive first =
      { receiver.write receiver.tot first with tot := receiver.tot + first.length } := by
  unfold receive requested at *
  rw [if_neg some]
  cases stage : receiver.stage with
  | packetType => exact absurd stage waits
  | header type | payload type =>
    rw [stage] at short
    exact if_pos (show receiver.tot + first.length < receiver.pdu_length by
      dsimp only at short; omega)

variable {bytes : List UInt8} {type : PacketType}

theorem receive_header_rest (stage : receiver.stage = .header type) (some : bytes ≠ [])
    (complete : receiver.pdu_length ≤ receiver.tot + bytes.length) :
    receiver.receive bytes = { receiver.write receiver.tot bytes with
        tot := receiver.tot + bytes.length }.headerDone type := by
  unfold receive
  rw [if_neg some, stage]
  exact if_neg (not_lt.mpr complete)

theorem receive_payload_rest (stage : receiver.stage = .payload type) (some : bytes ≠ [])
    (complete : receiver.pdu_length ≤ receiver.tot + bytes.length) :
    receiver.receive bytes = { receiver.write receiver.tot bytes with
        tot := receiver.tot + bytes.length }.commit type := by
  unfold receive
  rw [if_neg some, stage]
  exact if_neg (not_lt.mpr complete)

theorem receive_append {first second : List UInt8}
    (delivers : Delivers receiver (first ++ second)) :
    receiver.receive (first ++ second) = (receiver.receive first).receive second := by
  unfold Delivers at delivers
  rw [length_append] at delivers
  by_cases noFirst : first = []
  · rw [noFirst, nil_append, receive_nil]
  by_cases noSecond : second = []
  · rw [noSecond, append_nil, receive_nil]
  have firstSome := length_pos_iff.mpr noFirst
  have secondSome := length_pos_iff.mpr noSecond
  have waits : receiver.stage ≠ .packetType := by
    intro stage
    unfold requested at delivers
    rw [stage] at delivers
    dsimp only at delivers
    omega
  have both : first ++ second ≠ [] := fun none => noFirst (append_eq_nil_iff.mp none).1
  have filled := @write_write receiver receiver.tot first second
  rw [receive_part noFirst waits (by omega)]
  unfold receive
  rw [if_neg both, if_neg noSecond, ← filled]
  cases stage : receiver.stage with
  | packetType => exact absurd stage waits
  | header | payload =>
    simp only [Receiver.write, stage, length_append, add_assoc]

theorem receive_eq_feedAll (delivers : Delivers receiver bytes) :
    receiver.receive bytes = receiver.feedAll bytes := by
  induction bytes generalizing receiver with
  | nil => rw [receive_nil, feedAll_nil]
  | cons byte rest ih =>
    have split := @receive_append receiver [byte] rest delivers
    rw [singleton_append] at split
    rw [split, feedAll_cons]
    by_cases none : rest = []
    · rw [none, receive_nil]
      rfl
    · apply ih
      have restSome := length_pos_iff.mpr none
      unfold Delivers at delivers ⊢
      rw [length_cons] at delivers
      have waits : receiver.stage ≠ .packetType := by
        intro stage
        unfold requested at delivers
        rw [stage] at delivers
        dsimp only at delivers
        omega
      rw [receive_part (cons_ne_nil _ _) waits (by
        rw [length_singleton]
        omega)]
      unfold requested at delivers ⊢
      cases stage : receiver.stage with
      | packetType => exact absurd stage waits
      | header type | payload type =>
        rw [stage] at delivers
        simp only [Receiver.write, stage, length_singleton]
        dsimp only at delivers
        omega

theorem run_eq_feedAll {reads : List (List UInt8)}
    (delivered : Along receive Delivers receiver reads) :
    receiver.run reads = receiver.feedAll reads.flatten := by
  induction reads generalizing receiver with
  | nil => rfl
  | cons _ _ ih =>
    obtain ⟨here, later⟩ := delivered
    rw [flatten_cons, feedAll_append, ← receive_eq_feedAll here]
    exact ih later

end Hfirmware.Bluetooth.H4
