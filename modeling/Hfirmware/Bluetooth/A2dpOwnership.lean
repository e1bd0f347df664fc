/-
Who may touch and free an A2DP data packet.
-/

import Hfirmware.GuardedRun
import Hfirmware.Bluetooth.A2dpData

namespace Hfirmware.Bluetooth.A2dp

open List State Ownership GuardedRun Ledger

def BtPoint.holds : BtPoint → List Nat
  | .indicated packet _ => [packet]
  | .allocating _ (.packet packet _) => [packet]
  | .posting (.packet packet _) => [packet]
  | _ => []

def Message.holds : Message → List Nat
  | .exit => []
  | .data len packet => (packetOf len packet).toList

def A2dpPoint.holds : A2dpPoint → List Nat
  | .handling len packet => (packetOf len packet).toList
  | .filling len packet _ => (packetOf len packet).toList
  | .copying len packet _ => (packetOf len packet).toList
  | .releasing len packet => (packetOf len packet).toList
  | _ => []

def pending : A2dpPoint → List Message → List Nat
  | .ended, _ => []
  | point, queue => point.holds ++ queue.flatMap Message.holds

def State.held (state : State) : Thread → List Nat
  | .bt => state.bt.holds
  | .a2dp => pending state.a2dp state.queue

def State.Clean (state : State) : Prop := Ownership.Clean state.ledger state.held

def NotPlaying (state : State) : Action → Prop
  | .bt around =>
    match state.bt with
    | .indicated _ _ => around.playing = false
    | _ => True
  | _ => True

/-- A packet for the A2DP thread has at least two bytes and gets its message, and
the thread is not asked to exit. -/
def Supplied (state : State) : Action → Prop
  | .bt around =>
    match state.bt with
    | .indicated _ len => around.playing = true → 1 < len
    | .allocating mcount (.packet _ _) =>
      around.malloc = true ∨ mcount ≤ 6 ∧ around.audioPlayLocalStop = false
    | _ => True
  | .threadExit => False
  | _ => True

variable {state : State} {around : Surroundings}

@[simp, grind =] theorem held_bt : state.held .bt = state.bt.holds := rfl

@[simp, grind =] theorem held_a2dp : state.held .a2dp = pending state.a2dp state.queue := rfl

variable {packet : Nat}

theorem mem_held (holds : state.bt.holds = [packet]) : packet ∈ state.held .bt := by
  simp [holds]

@[simp] theorem holds_idle : BtPoint.idle.holds = [] := rfl

@[simp] theorem holds_resume_packet (packet len : Nat) :
    (Job.packet packet len).resume.holds = [] := rfl

@[simp] theorem holds_resume_conceal (left : Nat) : (Job.conceal left).resume.holds = [] := by
  cases left <;> rfl

@[simp] theorem holds_sendConceal (count : Nat) : (sendConceal count).holds = [] := by
  cases count <;> rfl

variable {point : A2dpPoint}

theorem pending_append (running : point ≠ .ended) (queue : List Message) (message : Message) :
    pending point (queue ++ [message]) = pending point queue ++ message.holds := by
  cases point with
  | ended => exact absurd rfl running
  | _ => simp [pending]

theorem dataLostPacketConseal_spec (state : State) (around : Surroundings) (packet len : Nat) :
    let after := state.dataLostPacketConseal around packet len
    after.ledger = state.ledger.use .bt packet ∧ after.bt.holds = [] ∧ after.queue = state.queue ∧
      after.a2dp = state.a2dp := by
  unfold dataLostPacketConseal
  split_ifs <;> simp

theorem handleData_spec (len : Nat) (packet : Option Nat) :
    let after := state.handleData around len packet
    after.ledger = useOf state.ledger (packetOf len packet) ∧ after.queue = state.queue ∧
      after.bt = state.bt ∧ after.a2dp ≠ .ended ∧
      after.a2dp.holds = (packetOf len packet).toList := by
  unfold handleData
  generalize (if len > 1 then len else appA2dpConsealDataLen) = sbc_len
  dsimp only
  split_ifs <;> exact ⟨rfl, rfl, rfl, nofun, rfl⟩

def BtPoint.Long : BtPoint → Prop
  | .allocating _ (.packet _ len) => 1 < len
  | .posting (.packet _ len) => 1 < len
  | _ => True

structure Accounted (state : State) : Prop where
  balanced : Balanced state.ledger state.held
  long : state.bt.Long
  running : state.a2dp ≠ .ended
  noExit : .exit ∉ state.queue
  strays : ∀ stray ∈ state.ledger.strays, stray.1 = .bt

theorem accounted_start : Accounted start where
  balanced := by
    have nothing : start.held = fun _ => [] := by
      funext thread
      cases thread <;> rfl
    rw [nothing]
    exact balanced_empty
  long := trivial
  running := nofun
  noExit := nofun
  strays := nofun

theorem balanced_indicated (balanced : Balanced state.ledger state.held)
    (idle : state.bt = .idle) (len : Nat) :
    Balanced (state.indicate len).ledger (state.indicate len).held := by
  have issued := balanced.issue .bt
  have before : state.held .bt = [] := congrArg BtPoint.holds idle
  rw [before] at issued
  unfold State.indicate
  rw [idle]
  convert issued using 1
  funext thread
  cases thread <;> rfl

theorem balanced_released (balanced : Balanced state.ledger state.held)
    (holds : state.held .bt = [packet]) :
    Balanced (state.ledger.free .bt packet)
      { state with ledger := state.ledger.free .bt packet, bt := .idle }.held := by
  convert balanced.free holds using 1
  funext thread
  cases thread <;> rfl

section

variable (accounted : Accounted state)
include accounted

theorem Accounted.issue (len : Nat) : Accounted (state.indicate len) := by
  have balanced := fun idle => balanced_indicated accounted.balanced idle len
  unfold State.indicate at balanced ⊢
  cases point : state.bt with
  | idle =>
    rw [point] at balanced
    exact { accounted with balanced := balanced rfl, long := trivial }
  | _ => exact accounted

theorem Accounted.atPoint (next : BtPoint) (equal : next.holds = state.bt.holds)
    (long : next.Long) :
    Accounted { state with bt := next } := by
  refine { accounted with balanced := ?_, long }
  convert accounted.balanced using 1
  funext thread
  cases thread with
  | bt => exact equal
  | a2dp => rfl

theorem Accounted.released (holds : state.held .bt = [packet]) :
    Accounted { state with ledger := state.ledger.free .bt packet, bt := .idle } := by
  have owned := (accounted.balanced.owner packet .bt).mpr (holds ▸ (.head _))
  refine ⟨balanced_released accounted.balanced holds, trivial, accounted.running,
    accounted.noExit, ?_⟩
  rw [free_strays, use_of_owner owned]
  exact accounted.strays

theorem Accounted.handed {len : Nat} (long : 1 < len) (holds : state.held .bt = [packet]) :
    Accounted { state with
      queue := state.queue ++ [(Job.packet packet len).message]
      bt := (Job.packet packet len).resume
      ledger := state.ledger.hand packet .a2dp } := by
  refine ⟨?_, trivial, accounted.running, ?_, accounted.strays⟩
  · convert accounted.balanced.hand .a2dp (by decide) holds using 1
    funext thread
    cases thread with
    | bt => rfl
    | a2dp =>
      have message : (Job.packet packet len).message.holds = [packet] := by
        change (packetOf len (some packet)).toList = [packet]
        rw [packetOf, if_pos long]
        rfl
      have appended := pending_append accounted.running state.queue (Job.packet packet len).message
      rwa [message] at appended
  · simp [accounted.noExit, Job.message]

theorem Accounted.concealPosted {left : Nat} (holds : state.bt.holds = []) : Accounted { state with
      queue := state.queue ++ [(Job.conceal left).message]
      bt := (Job.conceal left).resume } := by
  refine ⟨?_, ?_, accounted.running, ?_, accounted.strays⟩
  · convert accounted.balanced using 1
    funext thread
    cases thread with
    | bt => exact (holds_resume_conceal left).trans holds.symm
    | a2dp =>
      exact (pending_append accounted.running state.queue (.data 1 none)).trans (append_nil _)
  · cases left <;> trivial
  · simp [accounted.noExit, Job.message]

end

theorem long_of_holds_nil {point : BtPoint} (holds : point.holds = []) : point.Long := by
  cases point with
  | allocating _ job | posting job =>
    cases job with
    | packet => cases holds
    | conceal => trivial
  | _ => trivial

theorem Accounted.conceal (accounted : Accounted state) (around : Surroundings) {len : Nat}
    (holds : state.bt.holds = []) :
    Accounted (state.dataLostPacketConseal around packet len) := by
  obtain ⟨ledger, after, queue, thread⟩ := dataLostPacketConseal_spec state around packet len
  refine ⟨?_, long_of_holds_nil after, thread ▸ accounted.running, queue ▸ accounted.noExit, ?_⟩
  · rw [ledger]
    convert accounted.balanced.use .bt packet using 1
    funext party
    cases party with
    | bt => exact after.trans holds.symm
    | a2dp => exact congrArg₂ pending thread queue
  · rw [ledger]
    intro stray member
    by_cases owned : state.ledger.owner packet = some .bt
    · rw [use_of_owner owned] at member
      exact accounted.strays stray member
    · rw [use_of_not_owner owned] at member
      cases member with
      | head => rfl
      | tail _ earlier => exact accounted.strays stray earlier

theorem Accounted.btStep (accounted : Accounted state) (supplied : Supplied state (.bt around)) :
    Accounted (state.btStep around) := by
  unfold Supplied at supplied
  unfold State.btStep
  have long := accounted.long
  cases point : state.bt with
  | idle => exact accounted
  | indicated packet _ =>
    rw [point] at supplied
    have holds : state.held .bt = [packet] := congrArg BtPoint.holds point
    have owned := (accounted.balanced.owner packet .bt).mpr (holds ▸ (.head _))
    dsimp only
    split
    · rename_i playing
      rw [use_of_owner owned]
      exact accounted.atPoint _ holds.symm (supplied playing)
    · exact accounted.released holds
  | allocating mcount job =>
    rw [point] at supplied long
    have goOn : ∀ next : BtPoint, next.holds = (BtPoint.allocating mcount job).holds →
        next.Long → Accounted { state with bt := next } := fun next equal =>
      accounted.atPoint next (equal.trans (congrArg BtPoint.holds point).symm)
    dsimp only
    split
    · cases job with
      | packet => exact goOn _ rfl long
      | conceal => exact goOn _ rfl trivial
    · rename_i failed
      split
      · rename_i given
        cases job with
        | packet =>
          -- The ways out without a message are those the guard excludes.
          cases supplied with
          | inl success => exact absurd success failed
          | inr kept =>
            obtain ⟨few, playing⟩ := kept
            rw [playing] at given
            cases given with
            | inl many => exact absurd many (not_lt.mpr few)
            | inr stopped => cases stopped
        | conceal left =>
          have holds := holds_resume_conceal left
          exact goOn _ holds (long_of_holds_nil holds)
      · cases job with
        | packet => exact goOn _ rfl long
        | conceal => exact goOn _ rfl trivial
  | posting job =>
    rw [point] at long
    dsimp only
    split
    · cases job with
      | packet => exact accounted.handed long (congrArg BtPoint.holds point)
      | conceal => exact accounted.concealPosted (congrArg BtPoint.holds point)
    · exact accounted
  | concealing => exact accounted.conceal around (congrArg BtPoint.holds point)

variable {next : State}

theorem Accounted.atA2dp (accounted : Accounted state)
    (ledger : next.ledger = state.ledger) (bt : next.bt = state.bt)
    (running : next.a2dp ≠ .ended) (noExit : .exit ∉ next.queue)
    (same : pending next.a2dp next.queue = pending state.a2dp state.queue) :
    Accounted next := by
  refine ⟨?_, bt ▸ accounted.long, running, noExit, ledger ▸ accounted.strays⟩
  convert accounted.balanced using 1
  funext thread
  cases thread with
  | bt => exact congrArg BtPoint.holds bt
  | a2dp => exact same

theorem pending_of_running (running : point ≠ .ended) (queue : List Message) :
    pending point queue = point.holds ++ queue.flatMap Message.holds := by
  cases point with
  | ended => exact absurd rfl running
  | _ => rfl

section

variable (accounted : Accounted state)
include accounted

theorem Accounted.useOf {packet : Option Nat}
    (holds : state.a2dp.holds = packet.toList) : useOf state.ledger packet = state.ledger := by
  cases packet with
  | none => rfl
  | some =>
    apply use_of_owner
    rw [accounted.balanced.owner, held_a2dp, pending_of_running accounted.running, holds]
    exact .head _

theorem Accounted.freed {packet : Option Nat} (holds : state.a2dp.holds = packet.toList) :
    Accounted { state with ledger := freeOf state.ledger packet, a2dp := .waiting } := by
  have whole : state.held .a2dp = packet.toList ++ state.queue.flatMap Message.holds :=
    (pending_of_running accounted.running state.queue).trans (congrArg (· ++ _) holds)
  cases packet with
  | none => exact accounted.atA2dp rfl rfl nofun accounted.noExit whole.symm
  | some block =>
    have owned : state.ledger.owner block = some .a2dp := by
      apply (accounted.balanced.owner block .a2dp).mpr
      rw [whole]
      exact .head _
    refine ⟨?_, accounted.long, nofun, accounted.noExit, ?_⟩
    · have freed := accounted.balanced.free whole
      change Balanced (state.ledger.free .a2dp block) _
      convert freed using 1
      funext thread
      cases thread <;> rfl
    · change ∀ stray ∈ (state.ledger.free .a2dp block).strays, _
      rw [free_strays, use_of_owner owned]
      exact accounted.strays

theorem Accounted.a2dpStep (around : Surroundings) : Accounted (state.a2dpStep around) := by
  unfold State.a2dpStep
  cases point : state.a2dp with
  | waiting =>
    have noExit := accounted.noExit
    cases queue : state.queue with
    | nil => exact accounted
    | cons message =>
      rw [queue] at noExit
      cases message with
      | exit => exact absurd (.head _) noExit
      | data =>
        refine accounted.atA2dp rfl rfl nofun (fun member => noExit (.tail _ member)) ?_
        rw [point, queue]
        rfl
  | handling len packet =>
    obtain ⟨ledger, queue, bt, running, holds⟩ := @handleData_spec state around len packet
    have before : state.a2dp.holds = (packetOf len packet).toList := by rw [point]; rfl
    refine accounted.atA2dp (ledger.trans (accounted.useOf before)) bt running
      (queue ▸ accounted.noExit) ?_
    rw [pending_of_running running, pending_of_running accounted.running, holds, before, queue]
  | filling =>
    dsimp only
    split
    · exact accounted
    · refine accounted.atA2dp rfl rfl nofun accounted.noExit ?_
      rw [point]
      rfl
  | copying len packet =>
    have before : state.a2dp.holds = (packetOf len packet).toList := by rw [point]; rfl
    have same : ∀ next : A2dpPoint, next ≠ .ended →
        next.holds = (packetOf len packet).toList → Accounted { state with a2dp := next } := by
      intro next running holds
      refine accounted.atA2dp rfl rfl running accounted.noExit ?_
      rw [pending_of_running running, pending_of_running accounted.running, holds, before]
    dsimp only
    rw [accounted.useOf before]
    split
    · exact same _ nofun rfl
    · split
      · exact same _ nofun rfl
      · exact same _ nofun rfl
  | releasing => exact accounted.freed (by rw [point]; rfl)
  | ended => exact absurd point accounted.running

end

theorem Accounted.step (state : State) (action : Action) (accounted : Accounted state)
    (supplied : Supplied state action) : Accounted (state.step action) := by
  cases action with
  | indicate len => exact accounted.issue len
  | bt => exact accounted.btStep supplied
  | a2dp around => exact accounted.a2dpStep around
  | clearThreshold =>
    exact accounted.atA2dp rfl rfl accounted.running accounted.noExit rfl
  | threadExit => exact supplied.elim

/-! ### Runs in which nothing is played -/

structure Quiet (state : State) : Prop where
  balanced : Balanced state.ledger state.held
  strays : state.ledger.strays = []
  bt : state.bt = .idle ∨ ∃ packet len, state.bt = .indicated packet len
  a2dp : state.a2dp = .waiting ∨ state.a2dp = .ended
  queue : ∀ message ∈ state.queue, message = .exit

theorem quiet_start : Quiet start where
  balanced := accounted_start.balanced
  strays := rfl
  bt := .inl rfl
  a2dp := .inl rfl
  queue := nofun

theorem pending_of_exits (rests : point = .waiting ∨ point = .ended)
    {queue : List Message} (exits : ∀ message ∈ queue, message = .exit) :
    pending point queue = [] := by
  have nothing : queue.flatMap Message.holds = [] := by
    rw [flatMap_eq_nil_iff]
    intro message member
    rw [exits message member]
    rfl
  cases rests with
  | inl waiting =>
    rwa [waiting]
  | inr ended =>
    rw [ended]
    rfl

section

variable (quiet : Quiet state)
include quiet

theorem Quiet.clean : state.Clean :=
  ⟨quiet.strays, fun _ below => quiet.balanced.once below⟩

theorem Quiet.btStep (guard : NotPlaying state (.bt around)) : Quiet (state.btStep around) := by
  unfold NotPlaying at guard
  unfold State.btStep
  cases quiet.bt with
  | inl idle =>
    rwa [idle]
  | inr indicated =>
    obtain ⟨packet, _, point⟩ := indicated
    rw [point] at guard ⊢
    have holds : state.held .bt = [packet] := congrArg BtPoint.holds point
    have owned := (quiet.balanced.owner packet .bt).mpr (holds ▸ (.head _))
    dsimp only
    rw [if_neg (ne_true_of_eq_false guard)]
    refine ⟨balanced_released quiet.balanced holds, ?_, .inl rfl, quiet.a2dp, quiet.queue⟩
    rw [free_strays, use_of_owner owned]
    exact quiet.strays

theorem Quiet.elsewhere (ledger : next.ledger = state.ledger)
    (bt : next.bt = state.bt) (a2dp : next.a2dp = .waiting ∨ next.a2dp = .ended)
    (queue : ∀ message ∈ next.queue, message = .exit) : Quiet next := by
  refine ⟨?_, ledger ▸ quiet.strays, bt ▸ quiet.bt, a2dp, queue⟩
  convert quiet.balanced using 1
  funext thread
  cases thread with
  | bt => exact congrArg BtPoint.holds bt
  | a2dp =>
    exact (pending_of_exits a2dp queue).trans (pending_of_exits quiet.a2dp quiet.queue).symm

theorem Quiet.a2dpStep (around : Surroundings) : Quiet (state.a2dpStep around) := by
  unfold State.a2dpStep
  cases quiet.a2dp with
  | inl waiting =>
    rw [waiting]
    have exits := quiet.queue
    cases queue : state.queue with
    | nil => exact quiet
    | cons message =>
      rw [queue] at exits
      cases exits message (.head _)
      exact quiet.elsewhere rfl rfl (.inr rfl) fun message member =>
        exits message (.tail _ member)
  | inr ended =>
    rwa [ended]

theorem Quiet.issue (len : Nat) : Quiet (state.indicate len) := by
  have balanced := fun idle => balanced_indicated quiet.balanced idle len
  unfold State.indicate at balanced ⊢
  cases point : state.bt with
  | idle =>
    rw [point] at balanced
    exact { quiet with balanced := balanced rfl, bt := .inr ⟨_, _, rfl⟩ }
  | _ => exact quiet

end

theorem Quiet.step (state : State) (action : Action) (quiet : Quiet state)
    (guard : NotPlaying state action) : Quiet (state.step action) := by
  cases action with
  | indicate len => exact quiet.issue len
  | bt => exact quiet.btStep guard
  | a2dp around => exact quiet.a2dpStep around
  | clearThreshold => exact quiet.elsewhere rfl rfl quiet.a2dp quiet.queue
  | threadExit =>
    refine quiet.elsewhere rfl rfl quiet.a2dp ?_
    intro message member
    cases mem_append.mp member with
    | inl earlier => exact quiet.queue message earlier
    | inr new => exact mem_singleton.mp new

inductive Change (state next : State) : Prop where
  | used (thread : Thread) (packet : Option Nat)
      (ledger : next.ledger = (packet.elim state.ledger fun block => state.ledger.use thread block))
      (held : ∀ party, next.held party ⊆ state.held party)
  | issued (ledger : next.ledger = state.ledger.issue .bt)
      (bt : next.held .bt = [state.ledger.issued]) (a2dp : next.held .a2dp = state.held .a2dp)
  | released (packet : Nat) (member : packet ∈ state.held .bt)
      (ledger : next.ledger = state.ledger.free .bt packet)
      (bt : next.held .bt = []) (a2dp : next.held .a2dp = state.held .a2dp)
  | handed (packet : Nat) (member : packet ∈ state.held .bt)
      (ledger : next.ledger = state.ledger.hand packet .a2dp)
      (bt : next.held .bt = []) (a2dp : next.held .a2dp ⊆ state.held .a2dp ++ [packet])
  | freed (packet : Nat) (member : packet ∈ state.held .a2dp)
      (ledger : next.ledger = state.ledger.free .a2dp packet)
      (held : ∀ party, next.held party ⊆ state.held party)

theorem Change.same (ledger : next.ledger = state.ledger) (bt : next.bt.holds ⊆ state.bt.holds)
    (a2dp : pending next.a2dp next.queue ⊆ pending state.a2dp state.queue) :
    Change state next := by
  refine .used .bt none ledger fun party => ?_
  cases party with
  | bt => exact bt
  | a2dp => exact a2dp

theorem useOf_eq (ledger : Ledger Thread) (packet : Option Nat) :
    useOf ledger packet = packet.elim ledger fun block => ledger.use .a2dp block := by
  cases packet <;> rfl

theorem pending_append_subset (point : A2dpPoint) (queue : List Message) (message : Message) :
    pending point (queue ++ [message]) ⊆ pending point queue ++ message.holds := by
  by_cases running : point = .ended
  · rw [running]
    exact nil_subset _
  · rw [pending_append running]
    exact List.Subset.refl _

theorem change_bt (state : State) (around : Surroundings) : Change state (state.btStep around) := by
  unfold State.btStep
  cases point : state.bt with
  | idle => exact .same rfl (by simp) (by simp)
  | indicated packet =>
    have holds := congrArg BtPoint.holds point
    dsimp only
    split
    · refine .used .bt (some packet) rfl fun party => ?_
      cases party with
      | bt =>
        rw [held_bt, held_bt, holds]
        exact List.Subset.refl _
      | a2dp => exact List.Subset.refl _
    · exact .released packet (mem_held holds) rfl rfl rfl
  | allocating mcount job =>
    have goOn : ∀ next : BtPoint, next.holds ⊆ (BtPoint.allocating mcount job).holds →
        Change state { state with bt := next } := fun next subset =>
      .same rfl (point ▸ subset) (by simp)
    dsimp only
    split_ifs
    · exact goOn _ (by cases job <;> exact List.Subset.refl _)
    · exact goOn _ (by cases job <;> simp)
    · exact goOn _ (by cases job <;> exact List.Subset.refl _)
  | posting job =>
    dsimp only
    split
    · cases job with
      | packet packet len =>
        refine .handed packet (mem_held (congrArg BtPoint.holds point)) rfl rfl ?_
        have message : (Job.packet packet len).message.holds ⊆ [packet] := by
          change (packetOf len (some packet)).toList ⊆ [packet]
          unfold packetOf
          split <;> simp
        grind [pending_append_subset]
      | conceal left =>
        refine .same rfl (by simp) ?_
        exact List.Subset.trans (pending_append_subset state.a2dp state.queue _)
          (by simp [Job.message, Message.holds, packetOf])
    · exact .same rfl (by simp) (by simp)
  | concealing packet len =>
    obtain ⟨ledger, holds, queue, thread⟩ := dataLostPacketConseal_spec state around packet len
    refine .used .bt (some packet) ledger fun party => ?_
    cases party <;> simp [holds, thread, queue]

theorem change_a2dp (state : State) (around : Surroundings) :
    Change state (state.a2dpStep around) := by
  unfold State.a2dpStep
  cases point : state.a2dp with
  | waiting =>
    cases queue : state.queue with
    | nil => exact .same rfl (by simp) (by simp)
    | cons message =>
      cases message with
      | exit => exact .same rfl (by simp) (nil_subset _)
      | data => exact .same rfl (by simp) (by rw [point, queue]; exact List.Subset.refl _)
  | handling len packet =>
    obtain ⟨ledger, queue, bt, running, holds⟩ := @handleData_spec state around len packet
    refine .used .a2dp (packetOf len packet) (ledger.trans (useOf_eq _ _)) fun party => ?_
    cases party with
    | bt => simp [bt]
    | a2dp =>
      rw [held_a2dp, pending_of_running running, holds, queue, held_a2dp, point]
      exact List.Subset.refl _
  | filling =>
    dsimp only
    split
    · exact .same rfl (by simp) (by simp)
    · exact .same rfl (by simp) (by rw [point]; exact List.Subset.refl _)
  | copying len packet =>
    have held : (packetOf len packet).toList ++ state.queue.flatMap Message.holds ⊆
        state.held .a2dp := by
      rw [held_a2dp, point]
      exact List.Subset.refl _
    dsimp only
    split
    · exact .same rfl (by simp) held
    · split <;>
      · refine .used .a2dp (packetOf len packet) (useOf_eq _ _) fun party => ?_
        cases party with
        | bt => exact List.Subset.refl _
        | a2dp => exact held
  | releasing len packet =>
    have held : (packetOf len packet).toList ++ state.queue.flatMap Message.holds ⊆
        state.held .a2dp := by
      rw [held_a2dp, point]
      exact List.Subset.refl _
    dsimp only
    cases owned : packetOf len packet with
    | none =>
      rw [owned] at held
      exact .same rfl (by simp) held
    | some block =>
      rw [owned] at held
      refine .freed block (held (.head _)) rfl fun party => ?_
      cases party with
      | bt => exact List.Subset.refl _
      | a2dp => exact List.Subset.trans (subset_append_right _ _) held
  | ended => exact .same rfl (by simp) (by simp)

theorem change_step (state : State) (action : Action) : Change state (state.step action) := by
  cases action with
  | indicate len =>
    change Change state (state.indicate len)
    unfold State.indicate
    cases point : state.bt with
    | idle => exact .issued rfl rfl rfl
    | _ => exact .same rfl (List.Subset.refl _) (List.Subset.refl _)
  | bt around => exact change_bt state around
  | a2dp around => exact change_a2dp state around
  | clearThreshold => exact .same rfl (List.Subset.refl _) (List.Subset.refl _)
  | threadExit =>
    refine .same rfl (List.Subset.refl _) ?_
    exact List.Subset.trans (pending_append_subset state.a2dp state.queue .exit)
      (by simp [Message.holds])

/-! ### Every packet for the A2DP thread is misused -/

/-- Where packets stand in any run: those held were issued, and those of the
Bluetooth thread are neither freed nor held by the other thread. -/
structure Sound (state : State) : Prop where
  below : ∀ party, ∀ packet ∈ state.held party, packet < state.ledger.issued
  fresh : ∀ packet, state.ledger.issued ≤ packet → state.ledger.frees packet = 0
  apart : ∀ packet ∈ state.held .bt, state.ledger.frees packet = 0 ∧ packet ∉ state.held .a2dp

theorem sound_start : Sound start where
  below := fun party => by cases party <;> exact nofun
  fresh := fun _ _ => rfl
  apart := nofun

theorem elim_use_issued (ledger : Ledger Thread) (thread : Thread) (packet : Option Nat) :
    (packet.elim ledger fun block => ledger.use thread block).issued = ledger.issued ∧
      (packet.elim ledger fun block => ledger.use thread block).frees = ledger.frees := by
  cases packet with
  | none => exact ⟨rfl, rfl⟩
  | some => exact ⟨use_issued, use_frees⟩

theorem Sound.step (sound : Sound state) (action : Action) : Sound (state.step action) := by
  have below := sound.below
  have fresh := sound.fresh
  have apart := sound.apart
  cases change_step state action with
  | used thread packet ledger held =>
    obtain ⟨issued, _⟩ := elim_use_issued state.ledger thread packet
    have bt := held .bt
    have a2dp := held .a2dp
    constructor <;> grind
  | issued ledger bt a2dp | handed packet member ledger bt a2dp =>
    refine ⟨fun party => ?_, by grind, by grind⟩
    cases party <;> grind
  | released packet member ledger bt a2dp =>
    refine ⟨fun party => ?_, by grind, by grind⟩
    cases party <;> grind
  | freed packet member ledger held =>
    have bt := held .bt
    have a2dp := held .a2dp
    -- A packet of the other thread is not the one that is freed.
    constructor <;> grind

theorem step_strays (state : State) (action : Action) :
    state.ledger.strays ⊆ (state.step action).ledger.strays := by
  cases change_step state action with
  | used _ packet ledger =>
    rw [ledger]
    cases packet with
    | none => exact List.Subset.refl _
    | some => exact strays_subset_use
  | issued ledger | handed _ _ ledger =>
    rw [ledger]
    exact List.Subset.refl _
  | released _ _ ledger | freed _ _ ledger =>
    rw [ledger]
    exact strays_subset_use

theorem leaked_step (leaked : Leaked state.ledger state.held packet) (action : Action) :
    Leaked (state.step action).ledger (state.step action).held packet := by
  obtain ⟨issued, _, lost⟩ := leaked
  have bt := lost .bt
  have a2dp := lost .a2dp
  cases change_step state action with
  | used thread used _ held =>
    obtain ⟨sameIssued, sameFrees⟩ := elim_use_issued state.ledger thread used
    exact ⟨by grind, by grind, fun party member => lost party (held party member)⟩
  | issued | released | handed =>
    refine ⟨by grind, by grind, fun party => ?_⟩
    cases party <;> grind
  | freed _ _ _ held =>
    exact ⟨by grind, by grind, fun party member => lost party (held party member)⟩

/-- The Bluetooth thread is past the decision to hand its packet over, or is about
to read one that is no longer its own. -/
def Committed (state : State) : Prop :=
  match state.bt with
  | .allocating _ (.packet _ _) => True
  | .posting (.packet _ _) => True
  | .concealing packet _ => state.ledger.owner packet ≠ some .bt
  | _ => False

inductive Doomed (state : State) : Prop where
  | strayed (some : state.ledger.strays ≠ [])
  | leaked (packet : Nat) (leaked : Leaked state.ledger state.held packet)
  | committed (committed : Committed state)

theorem Doomed.not_clean (doomed : Doomed state) (idle : state.bt = .idle) : ¬state.Clean := by
  intro clean
  cases doomed with
  | strayed some => exact some clean.strays
  | leaked packet leaked => exact clean.not_leaked packet leaked
  | committed committed =>
    unfold Committed at committed
    rwa [idle] at committed

theorem useOf_owner (ledger : Ledger Thread) (packet : Option Nat) :
    (useOf ledger packet).owner = ledger.owner := by
  cases packet with
  | none => rfl
  | some => exact use_owner

theorem a2dpStep_owner (owned : (state.a2dpStep around).ledger.owner packet = some .bt) :
    state.ledger.owner packet = some .bt := by
  unfold State.a2dpStep at owned
  split at owned
  · split at owned <;> exact owned
  · rwa [(handleData_spec ..).1, useOf_owner] at owned
  · split at owned <;> exact owned
  · dsimp only at owned
    split_ifs at owned
    · exact owned
    · rwa [useOf_owner] at owned
    · rwa [useOf_owner] at owned
  · dsimp only at owned
    unfold freeOf at owned
    split at owned
    · grind
    · exact owned
  · exact owned

theorem a2dpStep_bt (state : State) (around : Surroundings) :
    (state.a2dpStep around).bt = state.bt := by
  unfold State.a2dpStep
  split
  · split <;> rfl
  · exact (handleData_spec ..).2.2.1
  · split <;> rfl
  · dsimp only
    split_ifs <;> rfl
  · rfl
  · rfl

theorem committed_a2dpStep (committed : Committed state) (around : Surroundings) :
    Committed (state.a2dpStep around) := by
  unfold Committed at committed ⊢
  rw [a2dpStep_bt]
  cases point : state.bt with
  | concealing =>
    rw [point] at committed
    exact fun owned => committed (a2dpStep_owner owned)
  | allocating _ job | posting job =>
    rw [point] at committed
    cases job <;> exact committed
  | _ =>
    rwa [point] at committed

theorem doomed_btStep (sound : Sound state) (committed : Committed state) (around : Surroundings) :
    Doomed (state.btStep around) := by
  unfold Committed at committed
  unfold State.btStep
  cases point : state.bt with
  | idle | indicated =>
    rw [point] at committed
    exact committed.elim
  | allocating _ job =>
    rw [point] at committed
    cases job with
    | conceal => exact committed.elim
    | packet packet =>
      dsimp only
      split
      · exact .committed trivial
      · split
        · -- The packet is neither posted nor freed.
          have member : packet ∈ state.held .bt := by
            change packet ∈ state.bt.holds
            rw [point]
            exact .head _
          obtain ⟨unfreed, apart⟩ := sound.apart packet member
          refine .leaked packet ⟨sound.below .bt packet member, unfreed, fun party => ?_⟩
          cases party with
          | bt => exact nofun
          | a2dp => exact apart
        · exact .committed trivial
  | posting job =>
    rw [point] at committed
    cases job with
    | conceal => exact committed.elim
    | packet packet =>
      dsimp only
      split
      · refine .committed ?_
        change Function.update state.ledger.owner packet (some Thread.a2dp) packet ≠ some .bt
        rw [Function.update_self]
        exact nofun
      · refine .committed ?_
        unfold Committed
        rw [point]
        trivial
  | concealing =>
    rw [point] at committed
    refine .strayed ?_
    rw [(dataLostPacketConseal_spec ..).1, use_of_not_owner committed]
    exact nofun

theorem Doomed.step (doomed : Doomed state) (sound : Sound state) (action : Action) :
    Doomed (state.step action) := by
  cases doomed with
  | strayed some =>
    refine .strayed fun none => some ?_
    have subset := step_strays state action
    rw [none] at subset
    exact subset_nil.mp subset
  | leaked packet leaked => exact .leaked packet (leaked_step leaked action)
  | committed committed =>
    cases action with
    | indicate len =>
      refine .committed ?_
      change Committed (state.indicate len)
      have busy : state.bt ≠ .idle := by
        intro idle
        unfold Committed at committed
        rwa [idle] at committed
      unfold State.indicate
      cases point : state.bt with
      | idle => exact absurd point busy
      | _ => exact committed
    | bt around => exact doomed_btStep sound committed around
    | a2dp around => exact .committed (committed_a2dpStep committed around)
    | clearThreshold | threadExit => exact .committed committed

theorem doomed_of_playing {action : Action} (playing : ¬NotPlaying state action) :
    Doomed (state.step action) := by
  cases action with
  | bt around =>
    unfold NotPlaying at playing
    refine .committed ?_
    change Committed (state.btStep around)
    unfold State.btStep
    cases point : state.bt with
    | indicated =>
      rw [point] at playing
      dsimp only
      rw [if_pos (eq_true_of_ne_false playing)]
      trivial
    | _ =>
      rw [point] at playing
      exact absurd trivial playing
  | _ => exact absurd trivial playing

theorem Doomed.run (doomed : Doomed state) (sound : Sound state) (actions : List Action) :
    Doomed (state.run actions) := by
  induction actions generalizing state with
  | nil => exact doomed
  | cons action _ ih => exact ih (doomed.step sound action) (sound.step action)

theorem notPlaying_of_clean (sound : Sound state) (actions : List Action)
    (idle : (state.run actions).bt = .idle) (clean : (state.run actions).Clean) :
    Along State.step NotPlaying state actions := by
  induction actions generalizing state with
  | nil => trivial
  | cons action rest ih =>
    refine ⟨?_, ih (sound.step action) idle clean⟩
    by_contra playing
    exact ((doomed_of_playing playing).run (sound.step action) rest).not_clean idle clean

/-- A run is clean as long as no indication finds the stream playing; one that ends with the
Bluetooth thread idle is clean only then. -/
theorem packet_ownership (actions : List Action) :
    (Along State.step NotPlaying State.start actions → (State.start.run actions).Clean) ∧
    ((State.start.run actions).bt = .idle →
      ((State.start.run actions).Clean ↔ Along State.step NotPlaying State.start actions)) ∧
    (Along State.step Supplied State.start actions →
      (∀ packet, packet < (State.start.run actions).ledger.issued →
        (State.start.run actions).ledger.frees packet = 1 ∨
          (State.start.run actions).ledger.frees packet = 0 ∧
            ∃ thread, packet ∈ (State.start.run actions).held thread) ∧
      ∀ stray ∈ (State.start.run actions).ledger.strays, stray.1 = .bt) := by
  have sufficient : Along State.step NotPlaying start actions →
      (start.run actions).Clean := fun guarded =>
    (invariant_of_along Quiet.step quiet_start guarded).clean
  refine ⟨sufficient, ?_, ?_⟩
  · intro idle
    exact ⟨notPlaying_of_clean sound_start actions idle, sufficient⟩
  · intro supplied
    have accounted := invariant_of_along Accounted.step accounted_start supplied
    exact ⟨fun packet below => accounted.balanced.once below, accounted.strays⟩

def streaming (malloc : Bool) : Surroundings :=
  { hfpState := btHfpCallStatusConnect
    spkVol := 1
    playState := .start
    audioPlayLocalStop := false
    malloc := malloc
    messagePut := true
    bufferLevel := 0
    dataBuffer := 100
    seen := fun _ => 0 }

def paused : Surroundings := { streaming true with playState := .pause }

def delivery (len : Nat) : List Action :=
  [.indicate len, .bt (streaming true), .bt (streaming true), .bt (streaming true),
    .a2dp (streaming true), .a2dp (streaming true), .a2dp (streaming true),
    .a2dp (streaming true), .a2dp (streaming true)]

theorem packet_ownership_paused : (State.start.run [.indicate 100, .bt paused]).Clean ∧
      (State.start.run (delivery 100)).ledger.frees 0 = 1 := by
  constructor
  · exact (packet_ownership _).1 ⟨trivial, rfl, trivial⟩
  · have supplied : Along State.step Supplied start (delivery 100) :=
      ⟨trivial, fun _ => by decide, .inl rfl, trivial, trivial, trivial, trivial, trivial,
        trivial, trivial⟩
    cases ((packet_ownership _).2.2 supplied).1 0 (by decide) with
    | inl freed => exact freed
    | inr kept => exact absurd kept.1 (by decide)

/-- A packet of 100 bytes is read after the A2DP thread has freed it; a packet of
one byte and a packet without a message are never freed. -/
theorem packet_ownership_streaming : ((State.start.run (delivery 100)).ledger.frees 0 = 1 ∧
      (State.start.run (delivery 100 ++ [.bt (streaming true)])).ledger.strays = [(.bt, 0)]) ∧
    ¬(State.start.run (delivery 1)).Clean ∧
    ¬(State.start.run ([.indicate 100, .bt (streaming true)] ++
      List.replicate 9 (.bt (streaming false)))).Clean := by
  refine ⟨⟨by decide, by decide⟩, fun clean => ?_, fun clean => ?_⟩
  · refine clean.not_leaked 0 ⟨by decide, by decide, fun party => ?_⟩
    cases party <;> decide
  · refine clean.not_leaked 0 ⟨by decide, by decide, fun party => ?_⟩
    cases party <;> decide

/-! ### Concealment -/

/-- The bytes that the concealment adds up. -/
def consealReads (len : Nat) : List Nat :=
  let last := (len - 1) % 2 ^ 8
  List.range 10 ++ (List.range (last - (len - 10))).map (last - ·)

/-- What the two tests of the concealment take for a silent packet. -/
def Silent (around : Surroundings) (len : Nat) : Prop :=
  ¬(around.seen 0 ≠ 0 ∨ len < 10 ∨ around.bufferLevel = 0) ∧ dataSum around.seen len = 0

theorem dataSum_eq (seen : Nat → UInt8) (len : Nat) :
    dataSum seen len = ((consealReads len).map fun j => (seen j).toNat).sum := by
  unfold dataSum consealReads
  dsimp only
  rw [map_append, sum_append, map_map]
  rfl

/-- The index of the tail is cut to a byte, below all of the tail of a packet over 256 bytes. -/
theorem consealReads_long {len : Nat} (long : 256 < len) : consealReads len = List.range 10 := by
  unfold consealReads
  dsimp only
  rw [show (len - 1) % 2 ^ 8 - (len - 10) = 0 by omega]
  rfl

theorem mem_consealReads {len j : Nat} (short : len ≤ 256) (below : j < len)
    (within : j < 10 ∨ len - 9 ≤ j) : j ∈ consealReads len := by
  unfold consealReads
  rw [mem_append, mem_range, mem_map]
  by_cases first : j < 10
  · exact .inl first
  · refine .inr ⟨len - 1 - j, mem_range.mpr ?_, ?_⟩ <;> omega

theorem silent_packet (state : State) (packet len : Nat) (long : 10 ≤ len) :
    (∀ around, ¬Silent around len → state.dataLostPacketConseal around packet len = { state with
        ledger := state.ledger.use .bt packet, bt := .idle, s_a2dp_data_check_count := 0 }) ∧
      ((∀ around, Silent around len → ∀ j < len, j < 10 ∨ len - 9 ≤ j → around.seen j = 0) ↔
        len ≤ 256) ∧
      ∀ j ∈ consealReads len, j < len := by
  refine ⟨fun around loud => ?_, ⟨fun tells => ?_, fun short around silent j below within => ?_⟩,
    fun j member => ?_⟩
  · unfold dataLostPacketConseal
    dsimp only
    split
    · rfl
    · rename_i quiet
      exact if_pos fun zero => loud ⟨quiet, zero⟩
  · -- Otherwise a packet whose last byte alone is not zero is taken for silent.
    by_contra short
    have silent : Silent { streaming true with
        bufferLevel := 1, seen := fun j => if j = len - 1 then 1 else 0 } len := by
      constructor
      · rintro (first | small | empty)
        · exact first (if_neg (by omega))
        · omega
        · cases empty
      · rw [dataSum_eq, consealReads_long (by omega)]
        refine List.sum_eq_zero_iff_forall_eq_nat.mpr fun value member => ?_
        obtain ⟨j, below, rfl⟩ := mem_map.mp member
        have head := mem_range.mp below
        dsimp only
        rw [if_neg (by omega)]
        rfl
    have last := tells _ silent (len - 1) (by omega) (.inr (by omega))
    dsimp only at last
    rw [if_pos rfl] at last
    cases last
  · have none := silent.2
    rw [dataSum_eq] at none
    have zero := List.sum_eq_zero_iff_forall_eq_nat.mp none _
      (mem_map_of_mem (mem_consealReads short below within))
    exact UInt8.toNat_inj.mp zero
  · unfold consealReads at member
    rw [mem_append, mem_range, mem_map] at member
    rcases member with first | ⟨i, -, rfl⟩ <;> omega

theorem silent_packet_ten : { streaming true with bufferLevel := 1 }.seen 9 = 0 :=
  (silent_packet start 0 10 (by decide)).2.1.mpr (by decide)
    { streaming true with bufferLevel := 1 }
    ⟨by decide, by decide⟩ 9 (by decide) (.inl (by decide))

/-- The index of the last bytes of a packet of 300 bytes starts at 43. -/
theorem silent_packet_long :
    let around :=
      { streaming true with bufferLevel := 1, seen := fun j => if j = 299 then 1 else 0 }
    Silent around 300 ∧ around.seen 299 ≠ 0 :=
  ⟨⟨by decide, by decide⟩, by decide⟩

end Hfirmware.Bluetooth.A2dp
