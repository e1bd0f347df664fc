/-
The clients form a stack.
-/

import Hfirmware.Audio.Clients
import Hfirmware.LinkedChain

namespace Hfirmware.Audio.Clients

open List Nat GuardedRun LinkedChain

variable {Client Env : Type}

/-! ### Chains of event nodes

What the driver does to its nodes, whoever the clients are. -/

/-- The allocated nodes are `nodes`; every other one has been freed. -/
structure Heap.Owns (heap : Heap Client) (nodes : List Nat) : Prop where
  nodup : nodes.Nodup
  live : ∀ addr, heap.live addr = true ↔ addr ∈ nodes
  counts : heap.allocs = heap.frees + nodes.length
  faults : heap.faults = 0

def Heap.next (heap : Heap Client) (addr : Nat) : Option Nat := (heap.cell addr).pstNextCB

section

variable {heap : Heap Client} {nodes front back : List Nat} {addr : Nat}

theorem Heap.Owns.perm (owns : heap.Owns nodes) (same : nodes.Perm back) : heap.Owns back where
  nodup := same.nodup_iff.mp owns.nodup
  live := fun addr => (owns.live addr).trans same.mem_iff
  counts := by rw [owns.counts, same.length_eq]
  faults := owns.faults

@[simp] theorem Heap.free_cell (heap : Heap Client) (addr : Nat) :
    (heap.free addr).cell = heap.cell := by
  unfold Heap.free
  split <;> rfl

theorem Heap.Owns.free (owns : heap.Owns (addr :: nodes)) : (heap.free addr).Owns nodes := by
  have here := (owns.live addr).mpr (.head _)
  obtain ⟨fresh, nodup⟩ := nodup_cons.mp owns.nodup
  rw [Heap.free, if_pos here]
  constructor
  · exact nodup
  · intro other
    by_cases same : other = addr
    · subst other
      simp [fresh]
    · simp [owns.live other, same]
  · have counts := owns.counts
    rw [length_cons] at counts
    dsimp only
    omega
  · exact owns.faults

theorem Heap.Owns.alloc (owns : heap.Owns nodes) (fresh : addr ∉ nodes)
    (event : EventCb Client) : (heap.alloc addr event).Owns (addr :: nodes) := by
  constructor
  · exact nodup_cons.mpr ⟨fresh, owns.nodup⟩
  · intro other
    by_cases same : other = addr
    · subst other
      simp [Heap.alloc]
    · simp [Heap.alloc, owns.live other, same]
  · have counts := owns.counts
    change heap.allocs + 1 = heap.frees + (nodes.length + 1)
    omega
  · exact owns.faults

theorem Heap.alloc_segment {head tail : Option Nat} (segment : Segment heap.next head nodes tail)
    (fresh : addr ∉ nodes) (event : EventCb Client) :
    Segment (heap.alloc addr event).next head nodes tail := by
  apply segment.congr
  intro node member
  have apart : node ≠ addr := fun same => fresh (same ▸ member)
  simp [Heap.next, Heap.alloc, Function.update_of_ne apart]

theorem skipUnregistered_spec {fuel tmpEvent : Nat} {kept : List Nat}
    (segment : Segment heap.next (some tmpEvent) nodes none)
    (owns : heap.Owns (nodes ++ kept)) (enough : nodes.length ≤ fuel) :
    ∃ front last back later, nodes = front ++ last :: back ∧
      skipUnregistered fuel heap tmpEvent = (later, last) ∧
      later.cell = heap.cell ∧ later.Owns (last :: back ++ kept) ∧
      (∀ node ∈ front, (heap.cell node).pfnCallback = none) ∧
      ((heap.cell last).pfnCallback = none → back = []) := by
  induction fuel generalizing heap nodes tmpEvent with
  | zero =>
    obtain rfl : nodes = [] := length_eq_zero_iff.mp (le_zero.mp enough)
    cases segment
  | succ _ ih =>
    cases nodes with
    | nil => cases segment
    | cons node rest =>
      obtain ⟨here, later⟩ := segment
      obtain rfl : tmpEvent = node := Option.some.inj here
      have link : (heap.cell tmpEvent).pstNextCB = rest.head? := later.head_eq
      unfold skipUnregistered
      cases callback : (heap.cell tmpEvent).pfnCallback with
      | some =>
        exact ⟨[], tmpEvent, rest, heap, rfl, rfl, rfl, owns, by simp, by simp [callback]⟩
      | none =>
        cases rest with
        | nil =>
          rw [link]
          exact ⟨[], tmpEvent, [], heap, rfl, rfl, rfl, owns, by simp, fun _ => rfl⟩
        | cons next others =>
          rw [link]
          have freed := owns.free
          have links : (heap.free tmpEvent).next = heap.next := by
            funext node
            simp [Heap.next]
          have chain : Segment (heap.free tmpEvent).next (some next) (next :: others)
              none := by
            rw [links]
            exact ⟨rfl, later.2⟩
          obtain ⟨front, last, back, after, split, result, cells, left, skipped, ends⟩ :=
            ih chain freed (le_of_succ_le_succ enough)
          rw [Heap.free_cell] at cells skipped ends
          refine ⟨tmpEvent :: front, last, back, after, by rw [split, cons_append],
            result, cells, left, fun node member => ?_, ends⟩
          rcases mem_cons.mp member with rfl | member
          · exact callback
          · exact skipped node member

theorem audioDoResume_uncovers {world : World Client Env}
    {resume : Client → World Client Env → World Client Env} {this : Nat} {rest : List Nat}
    (segment : Segment world.driver.heap.next world.driver.tx_event (this :: rest) none)
    (owns : world.driver.heap.Owns (this :: rest)) (more : rest ≠ []) :
    ∃ front last back heap, rest = front ++ last :: back ∧ audioDoResume resume world =
        (resumeNode resume (world.driver.heap.cell last)
          { world with
            driver := { world.driver with tx_event := back.head?, heap } }).free last ∧
      heap.cell = world.driver.heap.cell ∧ heap.Owns (last :: back) ∧
      Segment heap.next back.head? back none ∧
      (∀ node ∈ front, (world.driver.heap.cell node).pfnCallback = none) ∧
      ((world.driver.heap.cell last).pfnCallback = none → back = []) := by
  obtain ⟨top, below⟩ := segment
  obtain ⟨next, others, rfl⟩ := exists_cons_of_ne_nil more
  have link : (world.driver.heap.cell this).pstNextCB = some next := below.1
  have chain : Segment world.driver.heap.next (some next) (next :: others) none := ⟨rfl, below.2⟩
  have enough : (next :: others).length ≤ world.driver.heap.allocs := by
    have counts := owns.counts
    rw [length_cons] at counts
    omega
  obtain ⟨front, last, back, heap, split, skips, cells, left, skipped, ends⟩ :=
    skipUnregistered_spec chain (owns.perm (perm_append_singleton this _).symm) enough
  have remains := left.perm (perm_append_singleton this (last :: back))
  have links : (heap.free this).next = world.driver.heap.next := by
    funext node
    simp [Heap.next, cells]
  rw [split] at chain
  have pointer : (world.driver.heap.cell last).pstNextCB = back.head? := chain.next_eq
  obtain ⟨_, _, _, tail⟩ := segment_append.mp chain
  refine ⟨front, last, back, heap.free this, split, ?_, by simp [cells], remains.free, ?_,
    skipped, ends⟩
  · unfold audioDoResume
    dsimp only
    rw [top]
    dsimp only
    rw [link]
    dsimp only
    rw [skips]
    rw [cells, pointer]
  · rw [links]
    have head : world.driver.heap.next last = back.head? := pointer
    rwa [head] at tail

theorem audioDoResume_last {world : World Client Env}
    {resume : Client → World Client Env → World Client Env} {this : Nat}
    (segment : Segment world.driver.heap.next world.driver.tx_event [this] none) :
    audioDoResume resume world =
      { world with
        driver :=
          { world.driver with tx_event := none, heap := world.driver.heap.free this } } := by
  obtain ⟨top, below⟩ := segment
  have link : (world.driver.heap.cell this).pstNextCB = none := below
  unfold audioDoResume
  dsimp only
  rw [top]
  dsimp only
  rw [link]

end

/-! ### The stack -/

structure Plays (Client : Type) where
  stack : List Client
  events : List (Client × AudioEvent)

def Plays.start (registered : Client → Bool) (client : Client) (plays : Plays Client) :
    Plays Client :=
  match plays.stack with
  | [] => { plays with stack := [client] }
  | top :: rest =>
    if registered top then
      { stack := client :: top :: rest
        events := plays.events ++ [(top, .stopped)] }
    else { plays with stack := client :: rest }

def Plays.stop (plays : Plays Client) : Plays Client :=
  match plays.stack with
  | _ :: next :: rest =>
    { stack := next :: rest
      events := plays.events ++ [(next, .resume)] }
  | _ => { plays with stack := [] }

section

variable (registered : Client → Bool)

def eventFun (client : Client) : Option Client :=
  if registered client then some client else none

def noted (_ : Client) (world : World Client Env) : World Client Env := world

def restarts (outcome : StartOutcome) (client : Client) (world : World Client Env) :
    World Client Env :=
  (audioPlayStart noted client (eventFun registered client) outcome world).2

inductive ClientAction (Client : Type) where
  | start (client : Client) (outcome : StartOutcome)
  | trigger
  | stop (client : Client) (outcome : StartOutcome)

def World.step (world : World Client Env) : ClientAction Client → World Client Env
  | .start client outcome =>
    (audioPlayStart noted client (eventFun registered client) outcome world).2
  | .trigger =>
    if world.driver.state = .prepare then
      { world with driver := { world.driver with state := .runing } }
    else world
  | .stop _ outcome => audioPlayStop (restarts registered outcome) world

def Plays.step (plays : Plays Client) : ClientAction Client → Plays Client
  | .start client _ => plays.start registered client
  | .trigger => plays
  | .stop _ _ => plays.stop

def Unused (driver : Driver Client) (outcome : StartOutcome) : Prop :=
  ∀ node ∈ outcome.node, driver.heap.live node = false

def MayAct (world : World Client Env) : ClientAction Client → Prop
  | .start client outcome =>
    (audioPlayStart noted client (eventFun registered client) outcome world).1 = true ∧
      Unused world.driver outcome
  | .trigger => True
  | .stop client outcome =>
    world.driver.running = some client ∧ outcome.play_start = true ∧
      outcome.node.isSome ∧ Unused world.driver outcome

/-- The nodes from `tx_event` on, each with the callback of its client. -/
structure Chained (driver : Driver Client) (nodes held : List Nat) : Prop where
  linked : Segment driver.heap.next driver.tx_event nodes none
  owns : driver.heap.Owns (nodes ++ held)
  callbacks : ∀ node ∈ nodes,
    (driver.heap.cell node).pfnCallback = eventFun registered (driver.heap.cell node).owner

def owners (heap : Heap Client) (nodes : List Nat) : List Client :=
  nodes.map fun node => (heap.cell node).owner

/-- The nodes below the first that have no callback are on the chain until a stop
frees them, but their clients are out. -/
def visible : List Client → List Client
  | [] => []
  | top :: rest => top :: rest.filter registered

def InUse (state : AudioState) (nodes : List Nat) : Prop :=
  nodes = [] ∧ state = .ready ∨ nodes ≠ [] ∧ (state = .prepare ∨ state = .runing)

structure StackInv (world : World Client Env) (plays : Plays Client) (nodes held : List Nat) :
    Prop where
  chained : Chained registered world.driver nodes held
  stack : visible registered (owners world.driver.heap nodes) = plays.stack
  used : InUse world.driver.state nodes
  events : world.driver.events = plays.events

variable {registered} {world idle : World Client Env} {plays : Plays Client}
  {nodes held : List Nat} {driver : Driver Client}
  {stopped : Client → World Client Env → World Client Env}
  {owner : Client} {event_fun : Option Client} {outcome : StartOutcome}

def started (owner : Client) (event_fun : Option Client) (node : Nat)
    (world : World Client Env) : World Client Env :=
  { world with
    driver :=
      { audioNewEvent { world.driver with prompt_dis := false } owner event_fun node with
        state := .prepare } }

variable {node : Nat}

open StackInv

theorem audioPlayStart_ready (ready : world.driver.state = .ready)
    (plays : outcome.play_start) (got : outcome.node = some node) :
    audioPlayStart stopped owner event_fun outcome world =
      (true, started owner event_fun node world) := by
  simp [audioPlayStart, ready, plays, got, started]

theorem audioPlayStart_ok (ok : (audioPlayStart stopped owner event_fun outcome world).1) :
    ∃ node, outcome.play_start ∧ outcome.node = some node ∧
      (audioPlayStart stopped owner event_fun outcome world).2 = started owner event_fun node
          (if world.driver.state ≠ .ready then audioPlyStop (audioDoStopped stopped world)
            else world) := by
  unfold audioPlayStart at ok ⊢
  dsimp only at ok ⊢
  split at ok
  case isTrue => cases ok
  case isFalse allowed =>
    rw [if_neg allowed]
    split at ok
    case isTrue => cases ok
    case isFalse usable =>
      rw [if_neg usable]
      split at ok
      case isTrue => cases ok
      case isFalse plays =>
        rw [if_neg plays]
        cases got : outcome.node with
        | none =>
          rw [got] at ok
          cases ok
        | some node => exact ⟨node, by simpa using plays, rfl, rfl⟩

theorem InUse.of_running {state : AudioState} (used : InUse state nodes)
    (busy : state.belowPrepare = false) : nodes ≠ [] := by
  rcases used with ⟨_, ready⟩ | ⟨some, _⟩
  · rw [ready] at busy
    cases busy
  · exact some

theorem Chained.unused (chained : Chained registered driver nodes [])
    (unused : Unused driver outcome) (got : outcome.node = some node) : node ∉ nodes := by
  intro member
  have live := (chained.owns.live node).mpr (mem_append_left _ member)
  rw [unused node got] at live
  cases live

theorem Chained.push (chained : Chained registered driver nodes held)
    (fresh : node ∉ nodes ++ held) (client : Client) :
    Chained registered (audioNewEvent driver client (eventFun registered client) node)
      (node :: nodes) held := by
  constructor
  · refine ⟨rfl, ?_⟩
    have link : (audioNewEvent driver client (eventFun registered client) node).heap.next node =
        driver.tx_event := by
      simp [audioNewEvent, Heap.next, Heap.alloc]
    rw [link]
    exact Heap.alloc_segment chained.linked (fun member => fresh (mem_append_left _ member)) _
  · exact chained.owns.alloc fresh _
  · intro other member
    by_cases same : other = node
    · subst other
      simp [audioNewEvent, Heap.alloc]
    · have before : other ∈ nodes := (mem_cons.mp member).resolve_left same
      have kept := chained.callbacks other before
      simpa [audioNewEvent, Heap.alloc, same] using kept

theorem owners_push {heap : Heap Client} (fresh : node ∉ nodes) (event : EventCb Client) :
    owners (heap.alloc node event) (node :: nodes) = event.owner :: owners heap nodes := by
  unfold owners
  rw [map_cons]
  congr 1
  · simp [Heap.alloc]
  · apply map_congr_left
    intro other member
    have apart : other ≠ node := fun same => fresh (same ▸ member)
    simp [Heap.alloc, apart]

theorem StackInv.pushed (linked : Chained registered idle.driver nodes held)
    (fresh : node ∉ nodes ++ held) {client : Client}
    (stack : client :: (owners idle.driver.heap nodes).filter registered = plays.stack)
    (events : idle.driver.events = plays.events) :
    StackInv registered (started client (eventFun registered client) node idle) plays
      (node :: nodes) held := by
  have chained := linked.push fresh client
  refine ⟨{ chained with }, ?_, .inr ⟨nofun, .inl rfl⟩, events⟩
  have clients : owners (started client (eventFun registered client) node idle).driver.heap
      (node :: nodes) = client :: owners idle.driver.heap nodes :=
    owners_push (fun member => fresh (mem_append_left _ member)) _
  rwa [clients]

variable {last : Nat}

theorem Chained.free (chained : Chained registered world.driver nodes [last]) :
    Chained registered (world.free last).driver nodes [] ∧
      owners (world.free last).driver.heap nodes = owners world.driver.heap nodes := by
  have cells : (world.free last).driver.heap.cell = world.driver.heap.cell :=
    Heap.free_cell _ _
  have links : (world.free last).driver.heap.next = world.driver.heap.next := by
    funext node
    rw [Heap.next, Heap.next, cells]
  refine ⟨⟨links ▸ chained.linked, ?_, cells ▸ chained.callbacks⟩, by rw [owners, owners, cells]⟩
  rw [append_nil]
  exact (chained.owns.perm (perm_append_singleton last nodes)).free

theorem StackInv.free (inv : StackInv registered world plays nodes [last]) :
    StackInv registered (world.free last) plays nodes [] := by
  obtain ⟨chained, clients⟩ := inv.chained.free
  refine ⟨chained, ?_, inv.used, inv.events⟩
  rw [clients]
  exact inv.stack

theorem Chained.interrupted {top : Nat} {rest : List Nat}
    (chained : Chained registered world.driver (top :: rest) held) :
    audioDoStopped noted world =
      if registered (world.driver.heap.cell top).owner then
        world.log (world.driver.heap.cell top).owner .stopped
      else world := by
  have head := chained.linked.1
  have callback := chained.callbacks top (.head _)
  unfold eventFun at callback
  unfold audioDoStopped
  rw [head]
  dsimp only
  by_cases known : registered (world.driver.heap.cell top).owner
  · rw [if_pos known] at callback ⊢
    rw [callback]
    rfl
  · rw [if_neg known] at callback ⊢
    rw [callback]

theorem StackInv.start (inv : StackInv registered world plays nodes []) {client : Client}
    (may : MayAct registered world (.start client outcome)) :
    ∃ later, StackInv registered (world.step registered (.start client outcome))
      (plays.start registered client) later [] := by
  obtain ⟨ok, unused⟩ := may
  obtain ⟨node, _, got, result⟩ := audioPlayStart_ok ok
  have chained := inv.chained
  have fresh : node ∉ nodes ++ [] := by
    rw [append_nil]
    exact chained.unused unused got
  have stack := inv.stack
  refine ⟨node :: nodes, ?_⟩
  change StackInv registered (audioPlayStart noted client (eventFun registered client) outcome
    world).2 _ _ _
  rw [result]
  rcases inv.used with ⟨rfl, ready⟩ | ⟨busy, playing⟩
  · have empty : plays.stack = [] := stack.symm
    rw [if_neg (by simp [ready]), Plays.start, empty]
    exact pushed chained fresh rfl inv.events
  · obtain ⟨top, rest, rfl⟩ := exists_cons_of_ne_nil busy
    have notReady : world.driver.state ≠ .ready := by
      rcases playing with prepared | running
      · rw [prepared]; decide
      · rw [running]; decide
    rw [if_pos notReady, chained.interrupted, Plays.start, ← stack]
    change StackInv registered _ (if registered (world.driver.heap.cell top).owner
      then _ else _) _ _
    by_cases known : registered (world.driver.heap.cell top).owner
    · rw [if_pos known, if_pos known]
      have logged : Chained registered
          (audioPlyStop (world.log (world.driver.heap.cell top).owner .stopped)).driver
          (top :: rest) [] := { chained with }
      exact pushed logged fresh (congrArg (client :: ·) (filter_cons_of_pos known))
        (congrArg (· ++ [((world.driver.heap.cell top).owner, AudioEvent.stopped)]) inv.events)
    · rw [if_neg known, if_neg known]
      have idled := { chained with }
      exact pushed idled fresh (congrArg (client :: ·) (filter_cons_of_neg known)) inv.events

theorem filter_owners_eq_nil {heap : Heap Client} (callbacks : ∀ node ∈ nodes,
      (heap.cell node).pfnCallback = eventFun registered (heap.cell node).owner)
    (silent : ∀ node ∈ nodes, (heap.cell node).pfnCallback = none) :
    (owners heap nodes).filter registered = [] := by
  apply filter_eq_nil_iff.mpr
  intro _ member
  obtain ⟨node, here, rfl⟩ := mem_map.mp member
  have none := (callbacks node here).symm.trans (silent node here)
  unfold eventFun at none
  split at none
  case isTrue => cases none
  case isFalse unknown => exact unknown

theorem filter_owners_split {heap : Heap Client} {front back : List Nat}
    (callbacks : ∀ node ∈ front ++ last :: back,
      (heap.cell node).pfnCallback = eventFun registered (heap.cell node).owner)
    (silent : ∀ node ∈ front, (heap.cell node).pfnCallback = none) :
    (owners heap (front ++ last :: back)).filter registered =
      ((heap.cell last).owner :: owners heap back).filter registered := by
  have dropped := filter_owners_eq_nil (fun node member =>
    callbacks node (mem_append_left _ member)) silent
  rw [owners, map_append, filter_append]
  change (owners heap front).filter registered ++ _ = _
  rw [dropped, nil_append]
  rfl

variable {actions : List (ClientAction Client)}

section

variable (inv : StackInv registered world plays nodes [])
include inv

theorem StackInv.stop {client : Client} (may : MayAct registered world (.stop client outcome)) :
    ∃ later, StackInv registered (world.step registered (.stop client outcome))
      plays.stop later [] := by
  obtain ⟨runs, starts, gets, unused⟩ := may
  obtain ⟨node, got⟩ := Option.isSome_iff_exists.mp gets
  have busy : nodes ≠ [] := by
    apply inv.used.of_running
    unfold Driver.running at runs
    split at runs
    case isTrue => cases runs
    case isFalse playing => exact Bool.eq_false_iff.mpr playing
  obtain ⟨this, rest, rfl⟩ := exists_cons_of_ne_nil busy
  have stack := inv.stack
  have chained := inv.chained
  have owns := chained.owns
  rw [append_nil] at owns
  change ∃ later, StackInv registered
    (audioDoResume (restarts registered outcome) (audioPlyStop world)) _ later []
  by_cases single : rest = []
  · subst single
    have alone : plays.stop = { plays with stack := [] } := by
      rw [Plays.stop, ← stack]
      rfl
    have result := @audioDoResume_last _ _ (audioPlyStop world) (restarts registered outcome) _
      chained.linked
    rw [result, alone]
    exact ⟨[], ⟨⟨rfl, owns.free, nofun⟩, rfl, .inl ⟨rfl, rfl⟩, inv.events⟩⟩
  · obtain ⟨front, last, back, heap, rfl, result, cells, left, linked, silent, ends⟩ :=
      @audioDoResume_uncovers _ _ (audioPlyStop world) _ _ _ chained.linked owns single
    have below : ∀ node ∈ front ++ last :: back, (world.driver.heap.cell node).pfnCallback =
          eventFun registered (world.driver.heap.cell node).owner := fun node member =>
      chained.callbacks node (.tail _ member)
    have callback := below last (mem_append_right _ (.head _))
    have shown := (congrArg ((world.driver.heap.cell this).owner :: ·)
      (filter_owners_split below silent)).symm.trans stack
    have fresh : node ∉ back ++ [last] := fun member =>
      chained.unused unused got (mem_cons_of_mem _ (mem_append_right _
        ((perm_append_singleton last back).mem_iff.mp member)))
    have clients : owners heap back = owners world.driver.heap back := by
      rw [owners, cells]
      rfl
    have again : ∀ (owner : Client) (idle : World Client Env), idle.driver.state = .ready →
        restarts registered outcome owner idle =
          started owner (eventFun registered owner) node idle := fun _ _ ready =>
      congrArg Prod.snd (audioPlayStart_ready ready starts got)
    rw [result]
    by_cases known : registered (world.driver.heap.cell last).owner
    · have calls : ((audioPlyStop world).driver.heap.cell last).pfnCallback =
          some (world.driver.heap.cell last).owner := callback.trans (if_pos known)
      rw [filter_cons_of_pos known] at shown
      rw [resumeNode, calls, Plays.stop, ← shown]
      dsimp only
      rw [again _ _ rfl]
      refine ⟨node :: back, StackInv.free (pushed ?_ fresh ?_ ?_)⟩
      · refine ⟨linked, left.perm (perm_append_singleton last back).symm, ?_⟩
        intro other member
        change (heap.cell other).pfnCallback = eventFun registered (heap.cell other).owner
        rw [cells]
        exact below other (mem_append_right _ (.tail _ member))
      · change _ :: (owners heap back).filter registered = _
        rw [clients]
      · exact congrArg (· ++ [((world.driver.heap.cell last).owner, AudioEvent.resume)]) inv.events
    · have silentLast : ((audioPlyStop world).driver.heap.cell last).pfnCallback = none :=
        callback.trans (if_neg known)
      obtain rfl := ends silentLast
      rw [filter_cons_of_neg known] at shown
      rw [resumeNode, silentLast, Plays.stop, ← shown]
      exact ⟨[], ⟨⟨rfl, left.free, nofun⟩, rfl, .inl ⟨rfl, rfl⟩, inv.events⟩⟩

theorem StackInv.trigger : StackInv registered (world.step registered .trigger) plays nodes [] := by
  have chained := inv.chained
  rw [World.step]
  split
  case isFalse => exact inv
  case isTrue prepared =>
    have busy : nodes ≠ [] := inv.used.of_running (by rw [prepared]; rfl)
    exact ⟨{ chained with }, inv.stack, .inr ⟨busy, .inr rfl⟩, inv.events⟩

theorem StackInv.step {action : ClientAction Client} (may : MayAct registered world action) :
    ∃ later, StackInv registered (world.step registered action) (plays.step registered action)
      later [] := by
  cases action with
  | start => exact inv.start may
  | trigger => exact ⟨nodes, inv.trigger⟩
  | stop => exact inv.stop may

theorem StackInv.run (guarded : Along (World.step registered) (MayAct registered) world actions) :
    ∃ later, StackInv registered (actions.foldl (World.step registered) world)
      (actions.foldl (Plays.step registered) plays) later [] := by
  induction actions generalizing world plays nodes with
  | nil => exact ⟨nodes, inv⟩
  | cons _ _ ih =>
    obtain ⟨may, guarded⟩ := guarded
    obtain ⟨later, inv⟩ := inv.step may
    exact ih inv guarded

end

/-! ### Each stop of a client is answered -/

section

variable [DecidableEq Client]

def Plays.Answered (plays : Plays Client) : Prop :=
  ∀ client, plays.events.count (client, .stopped) =
    plays.events.count (client, .resume) + plays.stack.tail.count client

section

variable (answered : plays.Answered)
include answered

theorem Plays.Answered.start (client : Client) : (plays.start registered client).Answered := by
  intro other
  have before := answered other
  unfold Plays.start
  cases stack : plays.stack with
  | nil => simpa [stack] using before
  | cons top rest =>
    dsimp only
    split
    case isTrue =>
      grind
    case isFalse => simpa [stack] using before

theorem Plays.Answered.stop : plays.stop.Answered := by
  intro other
  have before := answered other
  unfold Plays.stop
  cases stack : plays.stack with
  | nil => simpa [stack] using before
  | cons _ rest =>
    cases rest with
    | nil => simpa [stack] using before
    | cons next below =>
      grind

theorem Plays.Answered.run : (actions.foldl (Plays.step registered) plays).Answered := by
  induction actions generalizing plays with
  | nil => exact answered
  | cons action _ ih =>
    apply ih
    cases action with
    | start client => exact answered.start client
    | trigger => exact answered
    | stop => exact answered.stop

end

/-- The driver runs the client on top of the stack, has delivered the events that it
asks for, and has freed every node off its chain, once. -/
structure StackSafe (world : World Client Env) (plays : Plays Client) : Prop where
  running : world.driver.running = plays.stack.head?
  ready : world.driver.state = .ready ↔ plays.stack = []
  events : world.driver.events = plays.events
  answered : plays.Answered
  faults : world.driver.heap.faults = 0
  chain : ∃ nodes, Segment world.driver.heap.next world.driver.tx_event nodes none ∧
    nodes.Nodup ∧ (∀ addr, world.driver.heap.live addr = true ↔ addr ∈ nodes) ∧
    world.driver.heap.allocs = world.driver.heap.frees + nodes.length
  freed : plays.stack = [] → world.driver.heap.frees = world.driver.heap.allocs

theorem StackInv.safe (inv : StackInv registered world plays nodes [])
    (answered : plays.Answered) : StackSafe world plays := by
  have owns := inv.chained.owns
  rw [append_nil] at owns
  have chain := inv.chained.linked
  have counts := owns.counts
  have stack := inv.stack
  have empty : plays.stack = [] ↔ nodes = [] := by
    rw [← stack]
    cases nodes with
    | nil => exact ⟨fun _ => rfl, fun _ => rfl⟩
    | cons => exact ⟨nofun, nofun⟩
  refine
    { running := ?_
      ready := ?_
      events := inv.events
      answered := answered
      faults := owns.faults
      chain := ⟨nodes, chain, owns.nodup, owns.live, counts⟩
      freed := fun none => by
        rw [empty.mp none, length_nil, add_zero] at counts
        exact counts.symm }
  · rw [Driver.running, chain.head_eq, ← stack]
    rcases inv.used with ⟨rfl, ready⟩ | ⟨busy, playing⟩
    · rw [ready]
      rfl
    · obtain ⟨_, _, rfl⟩ := exists_cons_of_ne_nil busy
      rcases playing with prepared | running
      · rw [prepared]
        rfl
      · rw [running]
        rfl
  · rw [empty]
    rcases inv.used with ⟨none, ready⟩ | ⟨busy, playing⟩
    · exact ⟨fun _ => none, fun _ => ready⟩
    · refine ⟨fun ready => ?_, fun none => absurd none busy⟩
      rw [ready] at playing
      rcases playing with prepared | running
      · cases prepared
      · cases running

/-- Any clients, in any order of starts that succeed and stops by the running client. -/
theorem client_stack (registered : Client → Bool) (cell : Nat → EventCb Client) (env : Env)
    (actions : List (ClientAction Client))
    (guarded : Along (World.step registered) (MayAct registered) ⟨Driver.ready cell, env⟩ actions) :
    StackSafe (actions.foldl (World.step registered) ⟨Driver.ready cell, env⟩)
      (actions.foldl (Plays.step registered) ⟨[], []⟩) := by
  have initial : StackInv registered (⟨Driver.ready cell, env⟩ : World Client Env) ⟨[], []⟩ [] [] :=
    ⟨⟨rfl, ⟨.nil, fun _ => by simp [Driver.ready], rfl, rfl⟩, nofun⟩, rfl,
      .inl ⟨rfl, rfl⟩, rfl⟩
  have asked : (⟨[], []⟩ : Plays Client).Answered := fun _ => rfl
  obtain ⟨_, inv⟩ := initial.run guarded
  exact inv.safe asked.run

end

end

def threeClients : List (ClientAction Nat) :=
  [.start 0 ⟨true, some 100⟩, .trigger, .start 1 ⟨true, some 101⟩, .start 2 ⟨true, some 102⟩,
    .start 3 ⟨true, some 103⟩, .stop 3 ⟨true, some 104⟩, .stop 2 ⟨true, some 103⟩]

instance (registered : Nat → Bool) (world : World Nat Unit) (action : ClientAction Nat) :
    Decidable (MayAct registered world action) := by
  cases action <;> unfold MayAct Unused <;> infer_instance

theorem client_stack_three : StackSafe (threeClients.foldl (World.step fun client => client != 1)
      (⟨Driver.ready fun _ => ⟨none, none, 0⟩, ()⟩ : World Nat Unit)) ⟨[0],
    [(0, .stopped), (2, .stopped), (2, .resume), (0, .resume)]⟩ :=
  client_stack (fun client => client != 1) (fun _ => ⟨none, none, 0⟩) () threeClients (by decide)

end Hfirmware.Audio.Clients
