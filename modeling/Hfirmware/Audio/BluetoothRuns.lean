/-
Whole runs of Bluetooth and the tone player.
-/

import Hfirmware.Audio.Interruption

namespace Hfirmware.Audio.Clients

open GuardedRun

variable {phase : Phase}

/-- `chHeapAlloc` returns a node that is not in use when it is called: after a change of the rate
or in a callback, the node of what has been stopped may come again. -/
def AllocatesUnused (system : System) : PlayerAction → Prop
  | .btStart request outcome resumed =>
    ∀ calls ∈ (appAudioStartBegin request resumed system).getLeft?, Unused calls.driver outcome
  | .toneStart outcome => Unused system.driver outcome
  | .toneStop _ resumed => Unused system.driver.popped resumed
  -- Nobody is below Bluetooth.
  | .btStop _ | .trigger => True

def InterruptsSucceed (system : System) : PlayerAction → Prop
  | .toneStart outcome =>
    system.driver.state ≠ .ready → system.driver.prompt_dis = false → outcome.ok = true
  | _ => True

/-- The driver is not idle while a client waits to be called back, and an idle
driver can be started by Bluetooth. -/
structure NobodyForgotten (system : System) : Prop where
  waits : ¬(system.driver.state = .ready ∧ ∃ client, system.env.interrupted client = true)
  restarts : system.driver.state = .ready → ∀ request outcome resumed, outcome.ok = true →
    Unused system.driver outcome →
      (playerStep system (.btStart request outcome resumed)).driver.running = some .bluetooth

variable {action : PlayerAction}

section

variable {system : System}

theorem AllocatesUnused.btStart {request : BtRequest} {outcome resumed : StartOutcome}
    (unused : AllocatesUnused system (.btStart request outcome resumed)) (calls : System)
    (begins : appAudioStartBegin request resumed system = .inl calls) :
    Unused calls.driver outcome :=
  unused calls (congrArg Sum.getLeft? begins)

theorem InPhase.step (inPhase : InPhase [] phase system)
    (unused : AllocatesUnused system action) (succeeds : InterruptsSucceed system action) :
    ∃ later, InPhase [] later (playerStep system action) := by
  cases action with
  | btStart =>
    obtain ⟨_, _, after⟩ := inPhase.btStart unused.btStart
    exact ⟨_, after⟩
  | btStop => exact ⟨_, inPhase.btStop⟩
  | toneStart =>
    refine ⟨_, inPhase.toneStart unused ?_⟩
    rintro rfl
    exact succeeds (inPhase.busy nofun) (inPhase.prompt nofun)
  | toneStop streamed => exact ⟨_, inPhase.toneStop streamed unused⟩
  | trigger => exact ⟨_, inPhase.trigger⟩

/-- Every run of Bluetooth and tones, with starts that fail and callbacks that
decline, as long as no tone fails after it has interrupted Bluetooth. -/
theorem nobody_forgotten (cell : Nat → EventCb PlayClient) (actions : List PlayerAction)
    (guarded : Along playerStep
      (fun system action => AllocatesUnused system action ∧ InterruptsSucceed system action)
      (playersReady cell) actions) :
    NobodyForgotten (actions.foldl playerStep (playersReady cell)) := by
  obtain ⟨phase, inPhase⟩ := invariant_of_along
    (fun system action (reached : ∃ phase, InPhase [] phase system) may =>
      reached.elim fun _ inPhase => inPhase.step may.1 may.2) ⟨.idle, InPhase.initial cell⟩ guarded
  constructor
  · rintro ⟨ready, client, waits⟩
    obtain rfl := inPhase.ready.mp ready
    rw [inPhase.quiet rfl client] at waits
    cases waits
  · intro ready _ _ _ ok unused
    obtain rfl := inPhase.ready.mp ready
    obtain ⟨_, started, after⟩ := inPhase.btStart fun calls begins => by
      rw [appAudioStartBegin, if_neg (by rw [inPhase.flags.close]; exact nofun),
        if_neg (by rw [inPhase.flags.start]; exact nofun)] at begins
      cases begins
      exact unused
    rw [after.running, started ok]
    rfl

end

instance (system : System) (action : PlayerAction) : Decidable (AllocatesUnused system action) := by
  cases action <;> unfold AllocatesUnused <;> try unfold Unused
  all_goals infer_instance

instance (system : System) (action : PlayerAction) :
    Decidable (InterruptsSucceed system action) := by
  cases action <;> unfold InterruptsSucceed <;> infer_instance

def blankCell (_ : Nat) : EventCb PlayClient := ⟨none, none, .tone⟩

def stereo48 : BtRequest := ⟨48000, false, 0, false⟩

/-- Bluetooth goes on with the node of the first tone, and is stopped under the second. -/
def toneOverBluetooth : List PlayerAction :=
  [.btStart stereo48 ⟨true, some 100⟩ ⟨true, some 101⟩, .toneStart ⟨true, some 101⟩,
    .toneStop true ⟨true, some 101⟩, .toneStart ⟨true, some 100⟩, .btStop ⟨true, some 102⟩,
    .toneStop true ⟨true, some 102⟩, .toneStart ⟨false, none⟩]

theorem nobody_forgotten_declines :
    NobodyForgotten (toneOverBluetooth.foldl playerStep (playersReady blankCell)) :=
  nobody_forgotten blankCell toneOverBluetooth (by decide)

def toneFails : List PlayerAction :=
  [.btStart stereo48 ⟨true, some 100⟩ ⟨true, some 101⟩, .toneStart ⟨false, none⟩]

theorem nobody_forgotten_fails :
    Along playerStep AllocatesUnused (playersReady blankCell) toneFails ∧
      (toneFails.foldl playerStep (playersReady blankCell)).driver.state = .ready ∧
      (toneFails.foldl playerStep (playersReady blankCell)).env.interrupted .bluetooth = true ∧
      (playerStep (toneFails.foldl playerStep (playersReady blankCell))
        (.btStart stereo48 ⟨true, some 101⟩ ⟨true, some 102⟩)).driver.running = none ∧
      ¬NobodyForgotten (toneFails.foldl playerStep (playersReady blankCell)) := by
  refine ⟨by decide, by decide, by decide, by decide, fun safe => safe.waits ⟨by decide, ?_⟩⟩
  exact ⟨.bluetooth, by decide⟩

/-- The players, and which of `App_AudioStart` and `App_AudioStop` came last
since the tone began. -/
structure Session where
  system : System
  requested : Option Bool

def Session.step (session : Session) (action : PlayerAction) : Session :=
  { system := playerStep session.system action
    requested :=
      match action, session.system.env.g_u8PlyRunning with
      | .btStart _ _ _, true => some true
      | .btStop _, true => some false
      | .toneStart _, false => none
      | _, _ => session.requested }

/-- `i2s_lld_play_start` and `chHeapAlloc` succeed in every start of the action. -/
def StartsSucceed : PlayerAction → Prop
  | .btStart _ outcome _ | .toneStart outcome => outcome.ok = true
  | .btStop resumed | .toneStop _ resumed => resumed.ok = true
  | .trigger => True

/-- Without a tone the flags say whether the driver plays for Bluetooth, with one
the last request says whether it will. -/
structure FlagsAgree (session : Session) : Prop where
  plays : session.system.env.g_u8PlyRunning = false →
    (session.system.driver.running = some .bluetooth ↔
      session.system.env.bt.app_fsm_audio_start = true ∧
        session.system.env.bt.app_fsm_play_local_close = false)
  closed : session.system.env.bt.app_fsm_play_local_close = true →
    session.system.env.g_u8PlyRunning = true
  decided : ∀ start, session.requested = some start →
    session.system.env.g_u8PlyRunning = true → ∀ streamed resumed,
      resumed.ok = true → Unused session.system.driver.popped resumed →
        ((session.step (.toneStop streamed resumed)).system.driver.running = some .bluetooth ↔
          start = true)

section

variable {session : Session}

/-- The last request was an `App_AudioStart` under a tone that has interrupted nothing: the driver
refuses it, and nothing remembers it. -/
def Forgotten (session : Session) : Prop :=
  session.system.env.g_u8PlyRunning = true ∧
    session.system.env.bt.app_fsm_play_local_close = false ∧ session.requested = some true

structure SessionInv (phase : Phase) (session : Session) : Prop where
  inPhase : InPhase [] phase session.system
  decided : ∀ wanted start, phase = .both wanted → session.requested = some start → wanted = start

section

variable (inv : SessionInv phase session)
include inv

theorem SessionInv.forgotten (forgotten : Forgotten session) : phase = .tone := by
  obtain ⟨active, opened, -⟩ := forgotten
  rw [inv.inPhase.tone] at active
  rw [inv.inPhase.flags.close] at opened
  cases phase with
  | tone => rfl
  | idle | bluetooth => cases active
  | both => cases opened

theorem SessionInv.agree (remembered : ¬Forgotten session) : FlagsAgree session := by
  have inPhase := inv.inPhase
  have flags := inPhase.flags
  have running := inPhase.running
  have tone := inPhase.tone
  constructor
  · rw [tone, flags.start, flags.close, running]
    cases phase with
    | idle => decide
    | bluetooth => decide
    | tone => exact nofun
    | both => exact nofun
  · rw [flags.close, tone]
    cases phase with
    | both => exact fun _ => rfl
    | idle => exact nofun
    | bluetooth => exact nofun
    | tone => exact nofun
  · intro start last active streamed resumed ok unused
    have after := inPhase.toneStop streamed unused
    change (playerStep session.system (.toneStop streamed resumed)).driver.running = _ ↔ _
    rw [after.running, ok]
    cases phase with
    | idle | bluetooth =>
      rw [tone] at active
      cases active
    | tone =>
      refine ⟨nofun, fun starts => absurd ⟨active, flags.close, ?_⟩ remembered⟩
      rw [last, starts]
    | both wanted =>
      rw [← inv.decided wanted start rfl last]
      cases wanted <;> decide

theorem SessionInv.agree_iff : FlagsAgree session ↔ ¬Forgotten session := by
  refine ⟨fun agree forgotten => ?_, inv.agree⟩
  obtain rfl := inv.forgotten forgotten
  have inPhase := inv.inPhase
  have unused : Unused session.system.driver.popped ⟨true, some 0⟩ :=
    fun node _ => inPhase.serves.popped_last node
  have plays :=
    (agree.decided true forgotten.2.2 forgotten.1 false ⟨true, some 0⟩ rfl unused).mpr rfl
  have after := inPhase.toneStop false unused
  change (playerStep session.system (.toneStop false ⟨true, some 0⟩)).driver.running = _ at plays
  rw [after.running] at plays
  cases plays

theorem SessionInv.step (unused : AllocatesUnused session.system action)
    (succeeds : StartsSucceed action) : ∃ later, SessionInv later (session.step action) := by
  have inPhase := inv.inPhase
  have tone := inPhase.tone
  cases action with
  | btStart =>
    obtain ⟨plays, _, after⟩ := inPhase.btStart unused.btStart
    refine ⟨_, after, fun wanted start isBoth last => ?_⟩
    cases phase with
    | idle | bluetooth => cases plays <;> cases isBoth
    | tone => cases isBoth
    | both =>
      cases isBoth
      unfold Session.step at last
      rw [show session.system.env.g_u8PlyRunning = true from tone] at last
      exact Option.some.inj last
  | btStop =>
    refine ⟨_, inPhase.btStop, fun wanted start isBoth last => ?_⟩
    cases phase with
    | idle | bluetooth | tone => cases isBoth
    | both =>
      cases isBoth
      unfold Session.step at last
      rw [show session.system.env.g_u8PlyRunning = true from tone] at last
      exact Option.some.inj last
  | toneStart outcome =>
    refine ⟨_, inPhase.toneStart unused fun _ => succeeds, fun wanted start isBoth last => ?_⟩
    unfold Session.step at last
    rw [tone] at last
    cases phase with
    | idle => cases last
    | bluetooth => cases last
    | tone => cases isBoth
    | both => exact inv.decided wanted start isBoth last
  | toneStop streamed resumed =>
    refine ⟨_, inPhase.toneStop streamed unused, fun wanted start isBoth last => ?_⟩
    cases phase with
    | idle | bluetooth | tone => cases isBoth
    | both goesOn =>
      rw [show resumed.ok = true from succeeds] at isBoth
      cases goesOn <;> cases isBoth
  | trigger => exact ⟨phase, inPhase.trigger, inv.decided⟩

end

/-- Every order of requests and tones from an idle system in which the hardware and the heap serve
every start. -/
theorem bluetooth_flags_agree (cell : Nat → EventCb PlayClient) (actions : List PlayerAction)
    (guarded : Along Session.step
      (fun session action => AllocatesUnused session.system action ∧ StartsSucceed action)
      ⟨playersReady cell, none⟩ actions) :
    FlagsAgree (actions.foldl Session.step ⟨playersReady cell, none⟩) ↔
      ¬Forgotten (actions.foldl Session.step ⟨playersReady cell, none⟩) := by
  have initial : SessionInv .idle ⟨playersReady cell, none⟩ := ⟨InPhase.initial cell, nofun⟩
  obtain ⟨phase, inv⟩ := invariant_of_along
    (fun session action (⟨phase, inv⟩ : ∃ phase, SessionInv phase session) may =>
      inv.step may.1 may.2) ⟨.idle, initial⟩ guarded
  exact inv.agree_iff

end

instance (action : PlayerAction) : Decidable (StartsSucceed action) := by
  cases action <;> unfold StartsSucceed <;> infer_instance

def requestsUnderTone : List PlayerAction :=
  [.btStart stereo48 ⟨true, some 100⟩ ⟨true, some 101⟩, .toneStart ⟨true, some 101⟩,
    .btStop ⟨true, some 102⟩, .btStart ⟨44100, false, 0, false⟩ ⟨true, some 102⟩ ⟨true, some 103⟩]

theorem bluetooth_flags_agree_requests :
    FlagsAgree (requestsUnderTone.foldl Session.step ⟨playersReady blankCell, none⟩) ∧
      (requestsUnderTone.foldl Session.step ⟨playersReady blankCell, none⟩).requested = some true :=
  ⟨(bluetooth_flags_agree blankCell requestsUnderTone (by decide)).mpr fun ⟨_, opened, _⟩ =>
    absurd opened (by decide), by decide⟩

/-- A tone on an idle driver, and Bluetooth under it. -/
def requestUnderLoneTone : List PlayerAction :=
  [.toneStart ⟨true, some 100⟩, .btStart stereo48 ⟨true, some 101⟩ ⟨true, some 102⟩]

theorem bluetooth_flags_agree_forgets :
    let session := requestUnderLoneTone.foldl Session.step ⟨playersReady blankCell, none⟩
    session.requested = some true ∧ (session.step
        (.toneStop true ⟨true, some 101⟩)).system.driver.running = none ∧ ¬FlagsAgree session := by
  refine ⟨by decide, by decide, fun agree => ?_⟩
  have plays := (agree.decided true (by decide) (by decide) true ⟨true, some 101⟩ rfl
    (by unfold Unused; decide)).mpr rfl
  exact absurd plays (by decide)

end Hfirmware.Audio.Clients
