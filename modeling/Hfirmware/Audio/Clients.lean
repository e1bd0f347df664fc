/-
The clients of the playback driver. A start interrupts the running client and pushes an
event node; a stop pops it and calls the next client with a callback.
-/

import Hfirmware.Audio.Playback

namespace Hfirmware.Audio.Clients

inductive AudioEvent where
  | stopped | resume
deriving DecidableEq

variable {Client Env : Type}

/-- `hs_audio_event_cb_t`. `owner` is the client that the node was taken for; the driver
has no such field. -/
structure EventCb (Client : Type) where
  pfnCallback : Option Client
  pstNextCB : Option Nat
  owner : Client

/-- The heap of the event nodes. A freed cell keeps its contents until it is
allocated again; freeing what is not allocated is a fault. -/
structure Heap (Client : Type) where
  cell : Nat → EventCb Client
  live : Nat → Bool
  (allocs frees faults : Nat)

def Heap.alloc (heap : Heap Client) (addr : Nat) (event : EventCb Client) : Heap Client :=
  { heap with
    cell := Function.update heap.cell addr event
    live := Function.update heap.live addr true
    allocs := heap.allocs + 1 }

def Heap.free (heap : Heap Client) (addr : Nat) : Heap Client :=
  if heap.live addr then
    { heap with
      live := Function.update heap.live addr false
      frees := heap.frees + 1 }
  else { heap with faults := heap.faults + 1 }

/-- The part of `g_audio_info` that the clients share, and the events that have
been delivered. -/
structure Driver (Client : Type) where
  state : AudioState
  prompt_dis : Bool
  tx_event : Option Nat
  heap : Heap Client
  events : List (Client × AudioEvent)

structure World (Client Env : Type) where
  driver : Driver Client
  env : Env

/-- What the environment answers to a start: whether `i2s_lld_play_start`
succeeds, and the node that `chHeapAlloc` returns. -/
structure StartOutcome where
  play_start : Bool
  node : Option Nat
deriving DecidableEq

def StartOutcome.ok (outcome : StartOutcome) : Bool := outcome.play_start && outcome.node.isSome

def World.log (world : World Client Env) (client : Client) (event : AudioEvent) :
    World Client Env :=
  { world with
    driver := { world.driver with events := world.driver.events ++ [(client, event)] } }

/-- `_audio_new_event` and the callback that `audioPlayStart` writes into it. -/
def audioNewEvent (driver : Driver Client) (owner : Client) (event_fun : Option Client)
    (node : Nat) : Driver Client :=
  { driver with
    heap := driver.heap.alloc node ⟨event_fun, driver.tx_event, owner⟩
    tx_event := some node }

/-- `_audio_do_event` with `AUDIO_EVENT_STOPPED`; `stopped` is what the callback
does. -/
def audioDoStopped (stopped : Client → World Client Env → World Client Env)
    (world : World Client Env) : World Client Env :=
  match world.driver.tx_event with
  | none => world
  | some head =>
    match (world.driver.heap.cell head).pfnCallback with
    | none => world
    | some client => stopped client (world.log client .stopped)

/-- The loop over nodes without a callback. The next pointer is read from the freed
node. -/
def skipUnregistered : Nat → Heap Client → Nat → Heap Client × Nat
  | 0, heap, tmpEvent => (heap, tmpEvent)
  | fuel + 1, heap, tmpEvent =>
    match (heap.cell tmpEvent).pfnCallback, (heap.cell tmpEvent).pstNextCB with
    | none, some next => skipUnregistered fuel (heap.free tmpEvent) next
    | _, _ => (heap, tmpEvent)

def resumeNode (resume : Client → World Client Env → World Client Env)
    (event : EventCb Client) (world : World Client Env) : World Client Env :=
  match event.pfnCallback with
  | none => world
  | some client => resume client (world.log client .resume)

def World.free (world : World Client Env) (node : Nat) : World Client Env :=
  { world with driver := { world.driver with heap := world.driver.heap.free node } }

def audioDoResume (resume : Client → World Client Env → World Client Env)
    (world : World Client Env) : World Client Env :=
  let driver := world.driver
  match driver.tx_event with
  | none => world
  | some this =>
    match (driver.heap.cell this).pstNextCB with
    | none =>
      { world with
        driver := { driver with tx_event := none, heap := driver.heap.free this } }
    | some next =>
      let skipped := skipUnregistered driver.heap.allocs driver.heap next
      let event := skipped.1.cell skipped.2
      let unlinked : World Client Env :=
        { world with
          driver :=
            { driver with tx_event := event.pstNextCB, heap := skipped.1.free this } }
      (resumeNode resume event unlinked).free skipped.2

def audioPlyStop (world : World Client Env) : World Client Env :=
  { world with driver := { world.driver with state := .ready } }

def audioPlayStart (stopped : Client → World Client Env → World Client Env) (owner : Client)
    (event_fun : Option Client) (outcome : StartOutcome) (world : World Client Env) :
    Bool × World Client Env :=
  let state := world.driver.state
  if state ≠ .ready ∧ world.driver.prompt_dis then (false, world)
  else if state ≠ .ready ∧ state.belowPrepare then (false, world)
  else
    let idle := if state ≠ .ready then audioPlyStop (audioDoStopped stopped world) else world
    if !outcome.play_start then (false, idle)
    else
      -- `_i2s_setup_hwparams` enables prompts again.
      let driver := { idle.driver with prompt_dis := false }
      match outcome.node with
      | none => (false, audioPlyStop { idle with driver })
      | some node =>
        (true, { idle with
            driver := { audioNewEvent driver owner event_fun node with state := .prepare } })

def audioPlayPromptDisable (world : World Client Env) : World Client Env :=
  { world with driver := { world.driver with prompt_dis := true } }

def audioPlayStop (resume : Client → World Client Env → World Client Env)
    (world : World Client Env) : World Client Env :=
  audioDoResume resume { world with driver := { world.driver with state := .ready } }

def Driver.running (driver : Driver Client) : Option Client :=
  if driver.state.belowPrepare then none
  else driver.tx_event.map fun node => (driver.heap.cell node).owner

def Driver.ready (cell : Nat → EventCb Client) : Driver Client :=
  { state := .ready
    prompt_dis := false
    tx_event := none
    heap := ⟨cell, fun _ => false, 0, 0, 0⟩
    events := [] }

end Hfirmware.Audio.Clients
