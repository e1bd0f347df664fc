/-
The path of an A2DP data packet from the Bluetooth thread, with the loss concealment,
through the message queue to the A2DP thread.
-/

import Hfirmware.Ownership

namespace Hfirmware.Bluetooth.A2dp

open Ownership

inductive PlayState where
  | idle | open | start | pause | close
deriving DecidableEq

def btHfpCallStatusConnect : Nat := 2

/-- `BT_I2S_A2DP_PLY_BLOCK_SIZE / 4 * BT_I2S_A2DP_PLY_BLOCK_NUM`. -/
def plyBufferLevel : Nat := 512 / 4 * 48

def hsA2dpPlayThresholdLevel : Nat := plyBufferLevel - 240

def appA2dpConsealDataLen : Nat := 4096

inductive Thread where
  | bt | a2dp
deriving DecidableEq

inductive Message where
  | exit
  | data (len : Nat) (packet : Option Nat)

/-- What `hsc_A2dpThradSendDataMessage` was called for: the packet itself, or a
concealment message with `left` more to send. -/
inductive Job where
  | packet (block len : Nat)
  | conceal (left : Nat)
deriving DecidableEq

def Job.message : Job → Message
  | .packet block len => .data len (some block)
  | .conceal _ => .data 1 none

inductive BtPoint where
  | idle
  | indicated (packet len : Nat)
  | allocating (mcount : Nat) (job : Job)
  | posting (job : Job)
  | concealing (packet len : Nat)

def Job.resume : Job → BtPoint
  | .packet block len => .concealing block len
  | .conceal 0 => .idle
  | .conceal (left + 1) => .allocating 0 (.conceal left)

inductive A2dpPoint where
  | waiting
  | handling (len : Nat) (packet : Option Nat)
  | filling (len : Nat) (packet : Option Nat) (sbc_len : Nat)
  | copying (len : Nat) (packet : Option Nat) (sbc_len : Nat)
  | releasing (len : Nat) (packet : Option Nat)
  | ended
deriving DecidableEq

structure State where
  bt : BtPoint
  a2dp : A2dpPoint
  queue : List Message
  ledger : Ledger Thread
  (s_a2dp_play_queue_num s_a2dp_play_queue_buffer : Nat)
  s_a2dp_data_check_count : Nat

def State.start : State :=
  { bt := .idle
    a2dp := .waiting
    queue := []
    ledger := Ledger.empty
    s_a2dp_play_queue_num := 0
    s_a2dp_play_queue_buffer := 0
    s_a2dp_data_check_count := 0 }

/-- What the calls of one step return. `seen` is what a read of the packet's data
delivers, which is anything once the buffer is freed. -/
structure Surroundings where
  (hfpState spkVol : Nat)
  playState : PlayState
  (audioPlayLocalStop malloc messagePut : Bool)
  (bufferLevel dataBuffer : Nat)
  seen : Nat → UInt8

def Surroundings.playing (around : Surroundings) : Bool :=
  around.hfpState ≤ btHfpCallStatusConnect && 0 < around.spkVol &&
    around.playState = .start && !around.audioPlayLocalStop

/-- The sum over the first ten bytes and the last ones. Its index is a byte; the loop
from 100 down to 110 in between reads nothing. -/
def dataSum (seen : Nat → UInt8) (len : Nat) : Nat :=
  let last := (len - 1) % 2 ^ 8
  ((List.range 10).map fun j => (seen j).toNat).sum +
    ((List.range (last - (len - 10))).map fun j => (seen (last - j)).toNat).sum

def consealMessages (message_count bufferLevel play_queue_num : Nat) : Nat :=
  if message_count < 3 ∧ bufferLevel < plyBufferLevel - 1300 then
    if message_count = 0 then 0 else 1
  else if play_queue_num = 1 then 3 - message_count
  else 0

def sendConceal : Nat → BtPoint
  | 0 => .idle
  | count + 1 => .allocating 0 (.conceal count)

def State.dataLostPacketConseal (state : State) (around : Surroundings) (packet len : Nat) :
    State :=
  let read := { state with ledger := state.ledger.use .bt packet, bt := .idle }
  if around.seen 0 ≠ 0 ∨ len < 10 ∨ around.bufferLevel = 0 then
    { read with s_a2dp_data_check_count := 0 }
  else if dataSum around.seen len ≠ 0 then { read with s_a2dp_data_check_count := 0 }
  else if state.s_a2dp_data_check_count + 1 > 5 then
    { read with
      s_a2dp_data_check_count := 0
      bt := sendConceal (consealMessages state.queue.length around.bufferLevel
        state.s_a2dp_play_queue_num) }
  else { read with s_a2dp_data_check_count := state.s_a2dp_data_check_count + 1 }

def State.btStep (state : State) (around : Surroundings) : State :=
  match state.bt with
  | .idle => state
  | .indicated packet len =>
    if around.playing then
      { state with
        ledger := state.ledger.use .bt packet
        bt := .allocating 0 (.packet packet len) }
    else
      -- FREE(in->data); FREE(in)
      { state with ledger := state.ledger.free .bt packet, bt := .idle }
  | .allocating mcount job =>
    if around.malloc then { state with bt := .posting job }
    -- Both ways out leave the packet to the caller, which does not free it.
    else if mcount > 6 ∨ around.audioPlayLocalStop then { state with bt := job.resume }
    else { state with bt := .allocating (mcount + 1) job }
  | .posting job =>
    if around.messagePut then
      let posted := { state with queue := state.queue ++ [job.message], bt := job.resume }
      match job with
      | .packet packet _ => { posted with ledger := state.ledger.hand packet .a2dp }
      | .conceal _ => posted
    else state
  | .concealing packet len => state.dataLostPacketConseal around packet len

def State.indicate (state : State) (usedDataLen : Nat) : State :=
  match state.bt with
  | .idle =>
    { state with
      ledger := state.ledger.issue .bt
      bt := .indicated state.ledger.issued usedDataLen }
  | _ => state

def packetOf (len : Nat) (packet : Option Nat) : Option Nat := if len > 1 then packet else none

def useOf (ledger : Ledger Thread) (packet : Option Nat) : Ledger Thread :=
  match packet with
  | some packet => ledger.use .a2dp packet
  | none => ledger

def freeOf (ledger : Ledger Thread) (packet : Option Nat) : Ledger Thread :=
  match packet with
  | some packet => ledger.free .a2dp packet
  | none => ledger

def State.handleData (state : State) (around : Surroundings) (len : Nat) (packet : Option Nat) :
    State :=
  let sbc_len := if len > 1 then len else appA2dpConsealDataLen
  let opened := { state with ledger := useOf state.ledger (packetOf len packet) }
  if around.playing then
    if state.s_a2dp_play_queue_num = 0 then
      if state.s_a2dp_play_queue_buffer + sbc_len < hsA2dpPlayThresholdLevel * 4 then
        { opened with
          s_a2dp_play_queue_buffer := state.s_a2dp_play_queue_buffer + sbc_len
          a2dp := .copying len packet sbc_len }
      else { opened with a2dp := .filling len packet sbc_len }
    else { opened with a2dp := .copying len packet sbc_len }
  else { opened with a2dp := .releasing len packet }

def State.a2dpStep (state : State) (around : Surroundings) : State :=
  match state.a2dp with
  | .waiting =>
    match state.queue with
    | [] => state
    | .exit :: rest => { state with queue := rest, a2dp := .ended }
    | .data len packet :: rest => { state with queue := rest, a2dp := .handling len packet }
  | .handling len packet => state.handleData around len packet
  | .filling len packet sbc_len =>
    if state.queue.length < 5 then state
    else
      { state with
        s_a2dp_play_queue_buffer := 0
        s_a2dp_play_queue_num := 1
        a2dp := .copying len packet sbc_len }
  | .copying len packet sbc_len =>
    if sbc_len = 0 then { state with a2dp := .releasing len packet }
    else
      -- audioPlyGetDataBuffer grants no more than it is asked for.
      let temp_len := min around.dataBuffer sbc_len
      let copied := { state with ledger := useOf state.ledger (packetOf len packet) }
      if temp_len = 0 ∨ around.audioPlayLocalStop then
        { copied with a2dp := .releasing len packet }
      else { copied with a2dp := .copying len packet (sbc_len - temp_len) }
  | .releasing len packet =>
    { state with ledger := freeOf state.ledger (packetOf len packet), a2dp := .waiting }
  | .ended => state

inductive Action where
  | indicate (usedDataLen : Nat)
  | bt (around : Surroundings)
  | a2dp (around : Surroundings)
  | clearThreshold | threadExit

def State.step (state : State) : Action → State
  | .indicate usedDataLen => state.indicate usedDataLen
  | .bt around => state.btStep around
  | .a2dp around => state.a2dpStep around
  | .clearThreshold => { state with s_a2dp_play_queue_num := 0, s_a2dp_play_queue_buffer := 0 }
  | .threadExit => { state with queue := state.queue ++ [.exit] }

def State.run (state : State) (actions : List Action) : State := actions.foldl State.step state

end Hfirmware.Bluetooth.A2dp
