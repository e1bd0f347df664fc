/-
Tones over Bluetooth. The driver and the two players are always in one of four phases:
idle, Bluetooth, a tone alone, or a tone over an interrupted Bluetooth.
-/

import Hfirmware.Audio.Bluetooth
import Hfirmware.Audio.ClientStack

namespace Hfirmware.Audio.Clients

open List World GuardedRun LinkedChain

variable {node : Nat}

section

variable {Client Env : Type} {world : World Client Env} {driver later : Driver Client}
  {clients : List Client} {held : List Nat} {client next : Client}
  {stopped resume : Client → World Client Env → World Client Env} {owner : Client}
  {event_fun : Option Client} {outcome : StartOutcome}

/-- The chain is that of `clients`, all with their callbacks. -/
def Serves (driver : Driver Client) (clients : List Client) (held : List Nat) : Prop :=
  ∃ nodes, Chained (fun _ => true) driver nodes held ∧ owners driver.heap nodes = clients

theorem Serves.congr (serves : Serves driver clients held) (heap : later.heap = driver.heap)
    (tx_event : later.tx_event = driver.tx_event) : Serves later clients held := by
  obtain ⟨nodes, chained, owned⟩ := serves
  refine ⟨nodes, ⟨?_, ?_, ?_⟩, ?_⟩
  · rw [heap, tx_event]
    exact chained.linked
  · rw [heap]
    exact chained.owns
  · rw [heap]
    exact chained.callbacks
  · rwa [heap]

theorem Serves.started (serves : Serves world.driver clients held)
    (unused : world.driver.heap.live node = false) :
    Serves (Clients.started client (some client) node world).driver (client :: clients) held := by
  obtain ⟨nodes, chained, owned⟩ := serves
  have fresh : node ∉ nodes ++ held := by
    intro member
    rw [(chained.owns.live node).mpr member] at unused
    cases unused
  have pushed := chained.push fresh client
  refine ⟨node :: nodes, { pushed with }, ?_⟩
  rw [← owned]
  exact owners_push (fun member => fresh (mem_append_left _ member)) _

theorem Serves.free {last : Nat} (serves : Serves world.driver clients [last]) :
    Serves (world.free last).driver clients [] := by
  obtain ⟨nodes, chained, owned⟩ := serves
  obtain ⟨freed, clients⟩ := chained.free
  exact ⟨nodes, freed, clients.trans owned⟩

theorem Serves.nothing_live (serves : Serves driver [] []) (node : Nat) :
    driver.heap.live node = false := by
  obtain ⟨nodes, chained, owned⟩ := serves
  obtain rfl : nodes = [] := map_eq_nil_iff.mp owned
  apply Bool.eq_false_iff.mpr
  intro live
  cases (chained.owns.live node).mp live

/-- The driver when a client is called back: the node of the client that stops is free. -/
def Driver.popped (driver : Driver Client) : Driver Client :=
  match driver.tx_event with
  | none => driver
  | some this => { driver with heap := driver.heap.free this }

theorem Serves.popped_last (serves : Serves driver [client] []) (node : Nat) :
    driver.popped.heap.live node = false := by
  obtain ⟨nodes, chained, owned⟩ := serves
  obtain ⟨this, rest, rfl, _, alone⟩ := map_eq_cons_iff.mp owned
  obtain rfl : rest = [] := map_eq_nil_iff.mp alone
  unfold Driver.popped
  rw [chained.linked.1]
  apply Bool.eq_false_iff.mpr
  intro live
  cases (chained.owns.free.live node).mp live

theorem Serves.stop_last (serves : Serves world.driver [client] []) :
    ∃ later, audioPlayStop resume world = { world with driver := later } ∧
      Serves later [] [] ∧ later.state = .ready := by
  obtain ⟨nodes, chained, owned⟩ := serves
  obtain ⟨node, rest, rfl, _, alone⟩ := map_eq_cons_iff.mp owned
  obtain rfl : rest = [] := map_eq_nil_iff.mp alone
  have result := @audioDoResume_last _ _ (audioPlyStop world) resume node chained.linked
  exact ⟨_, result, ⟨[], ⟨rfl, chained.owns.free, nofun⟩, rfl⟩, rfl⟩

theorem Serves.stop_next (serves : Serves world.driver (client :: next :: clients) []) :
    ∃ last later, Serves later clients [last] ∧ later.state = .ready ∧
      (∀ node, world.driver.popped.heap.live node = false → later.heap.live node = false) ∧
      audioPlayStop resume world =
        (resume next (log { world with driver := later } next .resume)).free last := by
  obtain ⟨nodes, chained, owned⟩ := serves
  obtain ⟨this, node, rest, rfl⟩ : ∃ this node rest, nodes = this :: node :: rest := by
    rcases nodes with _ | ⟨this, _ | ⟨node, rest⟩⟩
    · cases owned
    · cases owned
    · exact ⟨this, node, rest, rfl⟩
  have owns := chained.owns
  rw [append_nil] at owns
  obtain ⟨front, last, _, heap, split, result, cells, left, linked, silent, _⟩ :=
    @audioDoResume_uncovers _ _ (audioPlyStop world) resume this _ chained.linked owns nofun
  -- Every client has a callback, so nothing is skipped.
  obtain rfl : front = [] := by
    cases front with
    | nil => rfl
    | cons skipped =>
      have member : skipped ∈ this :: node :: rest := by
        rw [split]
        exact .tail _ (.head _)
      have registered := chained.callbacks skipped member
      rw [show (world.driver.heap.cell skipped).pfnCallback = none from
        silent skipped (.head _)] at registered
      cases registered
  obtain ⟨rfl, rfl⟩ := cons.inj split
  obtain ⟨_, tail⟩ := cons.inj owned
  obtain ⟨isNext, others⟩ := cons.inj tail
  have calls : (world.driver.heap.cell node).pfnCallback = some next := by
    rw [chained.callbacks node (.tail _ (.head _)), ← isNext]
    rfl
  refine ⟨node, { world.driver with state := .ready, tx_event := rest.head?, heap },
    ⟨rest, ⟨linked, left.perm (perm_append_singleton node rest).symm, ?_⟩, ?_⟩, rfl, ?_, ?_⟩
  · intro other member
    rw [cells]
    exact chained.callbacks other (mem_cons_of_mem _ (.tail _ member))
  · rw [← others]
    rw [owners, cells]
    rfl
  · intro addr unused
    apply Bool.eq_false_iff.mpr
    intro live
    unfold Driver.popped at unused
    rw [chained.linked.1] at unused
    rw [(owns.free.live addr).mpr ((left.live addr).mp live)] at unused
    cases unused
  · change audioDoResume resume (audioPlyStop world) = _
    rw [result, resumeNode]
    simp only [audioPlyStop, calls]

theorem audioPlayStart_idle (ready : world.driver.state = .ready) :
    (outcome.ok ∧ ∃ node, outcome.node = some node ∧
      audioPlayStart stopped owner event_fun outcome world =
        (true, started owner event_fun node world)) ∨
    (outcome.ok = false ∧ ∃ prompt_dis, audioPlayStart stopped owner event_fun outcome world =
      (false, { world with driver := { world.driver with prompt_dis } })) := by
  unfold StartOutcome.ok
  cases plays : outcome.play_start with
  | false =>
    have unchanged : audioPlayStart stopped owner event_fun outcome world = (false, world) := by
      simp [audioPlayStart, ready, plays]
    exact .inr ⟨rfl, world.driver.prompt_dis, unchanged⟩
  | true =>
    cases got : outcome.node with
    | some node => exact .inl ⟨rfl, node, rfl, audioPlayStart_ready ready plays got⟩
    | none =>
      refine .inr ⟨rfl, false, ?_⟩
      simp [audioPlayStart, ready, plays, got, audioPlyStop]

theorem audioPlayStart_over (busy : world.driver.state ≠ .ready)
    (used : world.driver.state.belowPrepare = false) (enabled : world.driver.prompt_dis = false)
    (plays : outcome.play_start) (got : outcome.node = some node) :
    audioPlayStart stopped owner event_fun outcome world =
      (true, started owner event_fun node (audioPlyStop (audioDoStopped stopped world))) := by
  simp [audioPlayStart, busy, used, enabled, plays, got, started]

theorem Serves.interrupts (serves : Serves world.driver (client :: clients) held) :
    audioDoStopped stopped world = stopped client (world.log client .stopped) := by
  obtain ⟨nodes, chained, owned⟩ := serves
  obtain ⟨node, rest, rfl, owner, _⟩ := map_eq_cons_iff.mp owned
  have head := chained.linked.1
  have calls : (world.driver.heap.cell node).pfnCallback = some client := by
    rw [chained.callbacks node (.head _), ← owner]
    rfl
  unfold audioDoStopped
  rw [head]
  dsimp only
  rw [calls]

theorem audioPlayStart_refused (busy : world.driver.state ≠ .ready)
    (disabled : world.driver.prompt_dis) :
    audioPlayStart stopped owner event_fun outcome world = (false, world) := by
  rw [audioPlayStart, if_pos ⟨busy, disabled⟩]

end

/-! ### Phases -/

/-- Who plays. Over an interrupted Bluetooth, `wanted` says whether it will go on. -/
inductive Phase where
  | idle | bluetooth | tone
  | both (wanted : Bool)
deriving DecidableEq

def Phase.clients : Phase → List PlayClient
  | .idle => []
  | .bluetooth => [.bluetooth]
  | .tone => [.tone]
  | .both _ => [.tone, .bluetooth]

def Phase.toneActive : Phase → Bool
  | .tone | .both _ => true
  | .idle | .bluetooth => false

def Phase.audioStart : Phase → Bool
  | .bluetooth => true
  | .both wanted => wanted
  | .idle | .tone => false

def Phase.localClose : Phase → Bool
  | .both _ => true
  | .idle | .bluetooth | .tone => false

def Phase.remoteClose : Phase → Bool
  | .both wanted => !wanted
  | .idle | .bluetooth | .tone => false

structure Flags (bt : BtAudio) (phase : Phase) : Prop where
  start : bt.app_fsm_audio_start = phase.audioStart
  close : bt.app_fsm_play_local_close = phase.localClose
  remote : bt.app_fsm_play_remote_close = phase.remoteClose

/-- The driver, the tone player and the flags are as the phase says. `held` are
nodes that the present call is still to free. -/
structure InPhase (held : List Nat) (phase : Phase) (system : System) : Prop where
  serves : Serves system.driver phase.clients held
  ready : system.driver.state = .ready ↔ phase = .idle
  used : phase ≠ .idle → system.driver.state.belowPrepare = false
  prompt : phase ≠ .idle → system.driver.prompt_dis = phase.toneActive
  tone : system.env.g_u8PlyRunning = phase.toneActive
  flags : Flags system.env.bt phase
  toned : system.env.interrupted .tone = false
  interrupted : system.env.interrupted .bluetooth = true → phase.localClose = true

section

variable {system : System} {phase : Phase} {outcome resumed : StartOutcome} {request : BtRequest}
  {held : List Nat}

open InPhase

theorem InPhase.of_ready (serves : Serves system.driver [] held)
    (ready : system.driver.state = .ready) (tone : system.env.g_u8PlyRunning = false)
    (flags : Flags system.env.bt .idle) (quiet : ∀ client, system.env.interrupted client = false) :
    InPhase held .idle system where
  serves := serves
  ready := ⟨fun _ => rfl, fun _ => ready⟩
  used := fun busy => absurd rfl busy
  prompt := fun busy => absurd rfl busy
  tone := tone
  flags := flags
  toned := quiet .tone
  interrupted := fun waits => by
    rw [quiet .bluetooth] at waits
    cases waits

theorem InPhase.of_started {playing : System} {client : PlayClient}
    {world : System} (serves : Serves playing.driver phase.clients held)
    (same : playing.driver = { (started client (some client) node world).driver with
      prompt_dis := phase.toneActive }) (busy : phase ≠ .idle)
    (tone : playing.env.g_u8PlyRunning = phase.toneActive) (flags : Flags playing.env.bt phase)
    (toned : playing.env.interrupted .tone = false)
    (interrupted : playing.env.interrupted .bluetooth → phase.localClose) :
    InPhase held phase playing := by
  have state : playing.driver.state = .prepare := by
    rw [same]
    rfl
  exact
    { serves := serves
      ready := by
        rw [state]
        exact ⟨nofun, fun idle => absurd idle busy⟩
      used := fun _ => by
        rw [state]
        rfl
      prompt := fun _ => by rw [same]
      tone := tone
      flags := flags
      toned := toned
      interrupted := interrupted }

theorem World.note_self (system : System) (client : PlayClient) (interrupted : Bool) :
    (system.note client interrupted).env.interrupted client = interrupted :=
  Function.update_self _ _ _

theorem World.note_of_ne (system : System) {client other : PlayClient} (apart : other ≠ client)
    (interrupted : Bool) :
    (system.note client interrupted).env.interrupted other = system.env.interrupted other :=
  Function.update_of_ne apart _ _

section

variable (inPhase : InPhase held phase system)
include inPhase

theorem InPhase.noted (client : PlayClient) : InPhase held phase (system.note client false) := by
  have toned := inPhase.toned
  have interrupted := inPhase.interrupted
  refine { inPhase with toned := ?_, interrupted := ?_ }
  · cases client with
    | bluetooth =>
      exact (note_of_ne system (show PlayClient.tone ≠ .bluetooth by decide) _).trans toned
    | tone => exact note_self _ _ _
  · intro waits
    cases client with
    | bluetooth =>
      cases waits
    | tone =>
      exact interrupted waits

theorem InPhase.runs (prepared : system.driver.state = .prepare) :
    InPhase held phase { system with driver := { system.driver with state := .runing } } := by
  have busy : phase ≠ .idle := fun idle => by
    have ready := inPhase.ready.mpr idle
    rw [prepared] at ready
    cases ready
  exact
    { inPhase with
      serves := inPhase.serves.congr rfl rfl
      ready := ⟨nofun, fun idle => absurd idle busy⟩
      used := fun _ => rfl }

theorem InPhase.kick : InPhase held phase (Clients.kick system) := by
  unfold Clients.kick
  split
  case isFalse => exact inPhase
  case isTrue prepared => exact inPhase.runs prepared.2

end

section

variable {wanted : Bool} (serves : Serves system.driver [] held)
  (ready : system.driver.state = .ready)
  (tone : system.env.g_u8PlyRunning = false)
  (quiet : ∀ client, system.env.interrupted client = false)
  (unused : ∀ node ∈ outcome.node, system.driver.heap.live node = false)
include serves ready tone quiet unused

theorem InPhase.bluetooth_started (failing playing : BtAudio → BtAudio)
    (fails : Flags (failing system.env.bt) .idle)
    (plays : Flags (playing system.env.bt) .bluetooth) :
    InPhase held (if outcome.ok then .bluetooth else .idle)
      (match audioPlayStart onStopped .bluetooth (some .bluetooth) outcome system with
        | (false, failed) => failed.setBt (failing failed.env.bt)
        | (true, started) => Clients.kick (started.setBt (playing started.env.bt))) := by
  rcases @audioPlayStart_idle _ _ system _ _ _ outcome ready with
    ⟨ok, node, got, result⟩ | ⟨failed, prompt_dis, result⟩
  · rw [if_pos ok, result]
    apply InPhase.kick
    have chain : Serves (started .bluetooth (some .bluetooth) node system).driver [.bluetooth]
        held := serves.started (unused node got)
    exact of_started (chain.congr rfl rfl) rfl nofun tone plays (quiet .tone) fun waits => by
        have none := quiet .bluetooth
        rw [show system.env.interrupted .bluetooth = true from waits] at none
        cases none
  · rw [if_neg (by rw [failed]; exact nofun), result]
    exact of_ready (serves.congr rfl rfl) ready tone fails quiet

theorem InPhase.bluetooth_starts (remote : system.env.bt.app_fsm_play_remote_close = false) :
    InPhase held (if outcome.ok then .bluetooth else .idle) (appAudioStarted outcome system) :=
  bluetooth_started serves ready tone quiet unused
    (fun bt => { bt with app_fsm_play_local_close := false, app_fsm_audio_start := false })
    (fun bt =>
      { bt with
        app_fsm_audio_start := true
        app_fsm_play_remote_close := false
        app_fsm_play_local_close := false })
    ⟨rfl, rfl, remote⟩ ⟨rfl, rfl, rfl⟩

theorem InPhase.called_back (flags : Flags system.env.bt (.both wanted)) :
    InPhase held (if wanted && outcome.ok then .bluetooth else .idle)
      (appAudioPlayCb outcome system) := by
  unfold appAudioPlayCb
  cases wanted with
  | false =>
    have declines : system.env.bt.app_fsm_play_remote_close := flags.remote
    rw [if_pos declines]
    apply InPhase.kick
    exact of_ready serves ready tone ⟨flags.start, rfl, rfl⟩ quiet
  | true =>
    have goesOn := flags.remote
    have notClosed : ¬system.env.bt.app_fsm_play_remote_close := by
      rw [goesOn]
      exact nofun
    rw [if_neg notClosed]
    exact bluetooth_started serves ready tone quiet unused
      (fun bt => { bt with app_fsm_play_local_close := false, app_fsm_audio_start := false })
      (fun bt => { bt with app_fsm_play_local_close := false, app_fsm_audio_start := true })
      ⟨rfl, rfl, goesOn⟩ ⟨rfl, rfl, goesOn⟩

end

theorem InPhase.free {last : Nat} (inPhase : InPhase [last] phase system) :
    InPhase [] phase (system.free last) :=
  { inPhase with serves := inPhase.serves.free }

theorem InPhase.stop_over {client : PlayClient} {wanted : Bool}
    (serves : Serves system.driver [client, .bluetooth] [])
    (tone : system.env.g_u8PlyRunning = false) (toned : system.env.interrupted .tone = false)
    (unused : Unused system.driver.popped resumed)
    (flags : Flags system.env.bt (.both wanted)) :
    InPhase [] (if wanted && resumed.ok then .bluetooth else .idle)
      (audioPlayStop (onResume resumed) system) := by
  obtain ⟨_, _, chain, ready, shrinks, result⟩ :=
    @Serves.stop_next _ _ system [] client _ _ serves
  rw [result]
  apply InPhase.free
  refine called_back (chain.congr rfl rfl) ready tone ?_
    (fun node got => shrinks node (unused node got)) flags
  intro client
  cases client with
  | bluetooth => exact note_self _ _ _
  | tone => exact (note_of_ne _ (show PlayClient.tone ≠ .bluetooth by decide) _).trans toned

theorem InPhase.stop_alone {client : PlayClient} (serves : Serves system.driver [client] [])
    (tone : system.env.g_u8PlyRunning = false)
    (quiet : ∀ client, system.env.interrupted client = false) (flags : Flags system.env.bt .idle) :
    InPhase [] .idle (audioPlayStop (onResume resumed) system) := by
  obtain ⟨_, result, chain, ready⟩ :=
    @Serves.stop_last _ _ system client _ serves
  rw [result]
  exact of_ready chain ready tone flags quiet

theorem InPhase.quiet (inPhase : InPhase held phase system) (alone : phase.localClose = false) :
    ∀ client, system.env.interrupted client = false := by
  intro client
  cases client with
  | tone => exact inPhase.toned
  | bluetooth =>
    apply Bool.eq_false_iff.mpr
    intro waits
    have closed := inPhase.interrupted waits
    rw [alone] at closed
    cases closed

theorem InPhase.busy (inPhase : InPhase held phase system) (active : phase ≠ .idle) :
    system.driver.state ≠ .ready := fun ready => active (inPhase.ready.mp ready)

/-! ### The actions, phase by phase -/

def Phase.btStart (phase : Phase) (plays : Bool) : Phase :=
  match phase with
  | .idle | .bluetooth => if plays then .bluetooth else .idle
  | .tone => .tone
  | .both _ => .both true

def Phase.btStop : Phase → Phase
  | .idle | .bluetooth => .idle
  | .tone => .tone
  | .both _ => .both false

def Phase.toneStart (phase : Phase) (ok : Bool) : Phase :=
  match phase with
  | .idle => if ok then .tone else .idle
  | .bluetooth => .both true
  | .tone => .tone
  | .both wanted => .both wanted

def Phase.toneStop (phase : Phase) (ok : Bool) : Phase :=
  match phase with
  | .idle => .idle
  | .bluetooth => .bluetooth
  | .tone => .idle
  | .both wanted => if wanted && ok then .bluetooth else .idle

theorem InPhase.toneStop (inPhase : InPhase [] phase system) (streamed : Bool)
    (unused : Unused system.driver.popped resumed) :
    InPhase [] (phase.toneStop resumed.ok) (playerStep system (.toneStop streamed resumed)) := by
  have flags := inPhase.flags
  have tone := inPhase.tone
  apply noted
  unfold hsCfgToneAudioStop
  cases phase with
  | idle | bluetooth =>
    have off : system.env.g_u8PlyRunning = false := tone
    rw [off, if_neg (by simp)]
    exact { inPhase with serves := inPhase.serves.congr rfl rfl, tone := rfl }
  | tone =>
    have on : system.env.g_u8PlyRunning := tone
    rw [on, if_pos (by simp)]
    exact stop_alone (inPhase.serves.congr rfl rfl) rfl (inPhase.quiet rfl) { flags with }
  | both =>
    have on : system.env.g_u8PlyRunning := tone
    rw [on, if_pos (by simp)]
    exact stop_over (inPhase.serves.congr rfl rfl) rfl inPhase.toned unused flags

/-- A request over an interrupted Bluetooth changes only what it wants. -/
theorem InPhase.asked {old wanted : Bool} {bt : BtAudio} (inPhase : InPhase [] (.both old) system)
    (flags : Flags bt (.both wanted)) : InPhase [] (.both wanted) (system.setBt bt) :=
  { inPhase with
    serves := inPhase.serves.congr rfl rfl
    ready := inPhase.ready.trans ⟨nofun, nofun⟩
    used := fun _ => inPhase.used nofun
    prompt := fun _ => inPhase.prompt nofun
    flags }

theorem InPhase.btStop (inPhase : InPhase [] phase system) :
    InPhase [] phase.btStop (playerStep system (.btStop resumed)) := by
  have flags := inPhase.flags
  have start := flags.start
  have close := flags.close
  apply noted
  unfold appAudioStop
  cases phase with
  | idle | tone =>
    rw [if_neg (by rw [start]; exact nofun)]
    exact inPhase
  | bluetooth =>
    have on : system.env.bt.app_fsm_audio_start := start
    rw [if_pos on, if_neg (by rw [close]; exact nofun)]
    exact stop_alone (inPhase.serves.congr rfl rfl) inPhase.tone (inPhase.quiet rfl)
      ⟨rfl, close, flags.remote⟩
  | both wanted =>
    cases wanted with
    | false =>
      rw [if_neg (by rw [start]; exact nofun)]
      exact inPhase
    | true =>
      have on : system.env.bt.app_fsm_audio_start := start
      have closed : system.env.bt.app_fsm_play_local_close := close
      rw [if_pos on, if_pos closed]
      exact inPhase.asked ⟨rfl, close, rfl⟩

theorem InPhase.bluetooth_refused (inPhase : InPhase [] .tone system) :
    InPhase [] .tone (appAudioStarted outcome (system.setBt
      (system.env.bt.configured request))) := by
  have refused := @audioPlayStart_refused _ _
    (system.setBt (system.env.bt.configured request)) onStopped .bluetooth (some .bluetooth)
    outcome (inPhase.busy nofun) (inPhase.prompt nofun)
  unfold appAudioStarted
  rw [refused]
  exact
    { inPhase with
      serves := inPhase.serves.congr rfl rfl
      flags := ⟨rfl, rfl, inPhase.flags.remote⟩ }

section

variable (inPhase : InPhase [] phase system)
include inPhase

theorem InPhase.btStart (unused : ∀ calls, appAudioStartBegin request resumed system = .inl calls →
    Unused calls.driver outcome) : ∃ plays, (outcome.ok → plays = true) ∧
      InPhase [] (phase.btStart plays)
        (playerStep system (.btStart request outcome resumed)) := by
  have flags := inPhase.flags
  have start := flags.start
  have close := flags.close
  change ∃ plays, _ ∧ InPhase [] _ (appAudioStart request outcome resumed system)
  unfold appAudioStart
  unfold appAudioStartBegin at unused ⊢
  cases phase with
  | idle =>
    refine ⟨outcome.ok, id, ?_⟩
    rw [if_neg (by rw [close]; exact nofun),
      if_neg (by rw [start]; exact nofun)] at unused ⊢
    have unused := unused _ rfl
    exact bluetooth_starts inPhase.serves (inPhase.ready.mpr rfl) inPhase.tone
      (inPhase.quiet rfl) unused flags.remote
  | tone =>
    refine ⟨true, fun _ => rfl, ?_⟩
    rw [if_neg (by rw [close]; exact nofun),
      if_neg (by rw [start]; exact nofun)]
    exact inPhase.bluetooth_refused
  | both =>
    refine ⟨true, fun _ => rfl, ?_⟩
    have closed : system.env.bt.app_fsm_play_local_close := close
    rw [if_pos closed]
    exact inPhase.asked ⟨rfl, close, rfl⟩
  | bluetooth =>
    have on : system.env.bt.app_fsm_audio_start := start
    rw [if_neg (by rw [close]; exact nofun), if_pos on]
    by_cases calling : request.inCall ∧ request.sample ≠ 8000
    · rw [if_pos calling]
      exact ⟨true, fun _ => rfl, inPhase⟩
    · rw [if_neg calling]
      by_cases changes : request.sample ≠ system.env.bt.sample_rate ∨
          request.mono ≠ system.env.bt.mono
      · -- The stream is stopped first, and nobody is below.
        obtain ⟨_, result, chain, ready⟩ :=
          @Serves.stop_last _ _ system _ _ inPhase.serves
        rw [if_pos changes, result]
        exact ⟨outcome.ok, id, bluetooth_starts (chain.congr rfl rfl) ready inPhase.tone
          (inPhase.quiet rfl) (fun node _ => chain.nothing_live node) flags.remote⟩
      · rw [if_neg changes]
        exact ⟨true, fun _ => rfl, inPhase⟩

theorem InPhase.toneStart (unused : Unused system.driver outcome)
    (interrupts : phase = .bluetooth → outcome.ok) :
    InPhase [] (phase.toneStart outcome.ok) (playerStep system (.toneStart outcome)) := by
  have flags := inPhase.flags
  change InPhase [] _ (hsCfgToneAudioStart outcome system)
  unfold hsCfgToneAudioStart
  cases phase with
  | idle =>
    rcases @audioPlayStart_idle _ _ system _ .tone _ outcome
      (inPhase.ready.mpr rfl) with ⟨ok, node, got, result⟩ | ⟨failed, prompt_dis, result⟩
    · rw [result, ok]
      have chain : Serves (started .tone (some .tone) node system).driver [.tone] [] :=
        inPhase.serves.started (unused node got)
      exact of_started (chain.congr rfl rfl) rfl nofun rfl
        { flags with } inPhase.toned inPhase.interrupted
    · rw [result, failed]
      exact
        { inPhase with
          serves := inPhase.serves.congr rfl rfl
          prompt := fun busy => absurd rfl busy }
  | tone | both =>
    rwa [audioPlayStart_refused (inPhase.busy nofun) (inPhase.prompt nofun)]
  | bluetooth =>
    obtain ⟨plays, gets⟩ := Bool.and_eq_true_iff.mp (interrupts rfl)
    obtain ⟨node, got⟩ := Option.isSome_iff_exists.mp gets
    have told := @Serves.interrupts _ _ system [] [] _ onStopped inPhase.serves
    rw [audioPlayStart_over (inPhase.busy nofun) (inPhase.used nofun) (inPhase.prompt nofun)
      plays got, told]
    have below : Serves (audioPlyStop (onStopped .bluetooth
        (system.log .bluetooth .stopped))).driver [.bluetooth] [] :=
      inPhase.serves.congr rfl rfl
    have chain : Serves (started .tone (some .tone) node (audioPlyStop (onStopped .bluetooth
        (system.log .bluetooth .stopped)))).driver [.tone, .bluetooth] [] :=
      below.started (unused node got)
    refine of_started (chain.congr rfl rfl) rfl nofun rfl
      { flags with close := rfl } ?_ fun _ => rfl
    exact (note_of_ne system (show PlayClient.tone ≠ .bluetooth by decide) true).trans
      inPhase.toned

theorem InPhase.trigger : InPhase [] phase (playerStep system .trigger) := by
  rw [playerStep]
  split
  case isFalse => exact inPhase
  case isTrue prepared => exact inPhase.runs prepared

theorem InPhase.running : system.driver.running = phase.clients.head? := by
  obtain ⟨_, chained, owned⟩ := inPhase.serves
  unfold Driver.running
  by_cases idle : phase = .idle
  · subst idle
    rw [inPhase.ready.mpr rfl]
    rfl
  · rw [inPhase.used idle, chained.linked.head_eq, ← owned, owners, head?_map]
    rfl

end

theorem InPhase.initial (cell : Nat → EventCb PlayClient) :
    InPhase [] .idle (playersReady cell) := by
  have owns : (playersReady cell).driver.heap.Owns [] :=
    ⟨.nil, fun _ => by simp [playersReady, Driver.ready], rfl, rfl⟩
  exact of_ready ⟨[], ⟨rfl, owns, by simp⟩, rfl⟩ rfl rfl ⟨rfl, rfl, rfl⟩ fun _ => rfl

end

end Hfirmware.Audio.Clients
