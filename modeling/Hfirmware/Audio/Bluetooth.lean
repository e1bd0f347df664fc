/-
The two players of the playback driver: Bluetooth, with three flags beside the driver's
state, and the tone player.
-/

import Hfirmware.Audio.Clients

namespace Hfirmware.Audio.Clients

inductive PlayClient where
  | bluetooth | tone
deriving DecidableEq

/-- The flags of `app_fsm.c`, of which only 0 and 1 are used, and the part of
`app_fsm_i2sCfg` that a start compares. -/
structure BtAudio where
  (app_fsm_audio_start app_fsm_play_local_close : Bool)
  app_fsm_play_remote_close : Bool
  sample_rate : Nat
  mono : Bool
  app_fsm_audio_play_size : Nat

/-- Bluetooth, `g_u8PlyRunning`, and a note of who has been stopped and not been called
back. -/
structure Players where
  bt : BtAudio
  g_u8PlyRunning : Bool
  interrupted : PlayClient → Bool

abbrev System : Type := World PlayClient Players

def World.setBt (system : System) (bt : BtAudio) : System :=
  { system with env := { system.env with bt } }

def World.note (system : System) (client : PlayClient) (interrupted : Bool) : System :=
  { system with
    env :=
      { system.env with
        interrupted := Function.update system.env.interrupted client interrupted } }

def onStopped : PlayClient → System → System
  | .bluetooth, system =>
    (system.setBt { system.env.bt with app_fsm_play_local_close := true }).note .bluetooth true
  | .tone, system =>
    World.note { system with env := { system.env with g_u8PlyRunning := false } } .tone true

def kick (system : System) : System :=
  if system.env.bt.app_fsm_audio_play_size = 0 ∧ system.driver.state = .prepare then
    { system with driver := { system.driver with state := .runing } }
  else system

def appAudioPlayCb (outcome : StartOutcome) (system : System) : System :=
  let bt := system.env.bt
  if bt.app_fsm_play_remote_close then
    kick (system.setBt
      { bt with app_fsm_play_remote_close := false, app_fsm_play_local_close := false })
  else
    match audioPlayStart onStopped .bluetooth (some .bluetooth) outcome system with
    | (false, failed) =>
      failed.setBt
        { failed.env.bt with app_fsm_play_local_close := false, app_fsm_audio_start := false }
    | (true, playing) =>
      kick (playing.setBt
        { playing.env.bt with app_fsm_play_local_close := false, app_fsm_audio_start := true })

def onResume (outcome : StartOutcome) : PlayClient → System → System
  | .bluetooth, system => appAudioPlayCb outcome (system.note .bluetooth false)
  | .tone, system => system.note .tone false

/-- The arguments of `App_AudioStart`; `inCall` is `hfpState >
BT_HFP_CALL_STATUS_CONNECT`. -/
structure BtRequest where
  sample : Nat
  mono : Bool
  size : Nat
  inCall : Bool
deriving DecidableEq

def BtAudio.configured (bt : BtAudio) (request : BtRequest) : BtAudio :=
  { bt with
    sample_rate := request.sample
    mono := request.mono
    app_fsm_audio_play_size := request.size }

/-- `App_AudioStart` up to `audioPlayStart`: the state in which that is called, or
the state in which the function returns before it. -/
def appAudioStartBegin (request : BtRequest) (resumed : StartOutcome) (system : System) :
    System ⊕ System :=
  let bt := system.env.bt
  if bt.app_fsm_play_local_close then
    .inr (system.setBt { bt.configured request with
        app_fsm_audio_start := true
        app_fsm_play_remote_close := false })
  else if bt.app_fsm_audio_start then
    if request.inCall ∧ request.sample ≠ 8000 then .inr system
    else if request.sample ≠ bt.sample_rate ∨ request.mono ≠ bt.mono then
      let idle := audioPlayStop (onResume resumed) system
      .inl (idle.setBt (idle.env.bt.configured request))
    else .inr system
  else .inl (system.setBt (bt.configured request))

def appAudioStarted (outcome : StartOutcome) (system : System) : System :=
  match audioPlayStart onStopped .bluetooth (some .bluetooth) outcome system with
  | (false, failed) =>
    failed.setBt
      { failed.env.bt with app_fsm_play_local_close := false, app_fsm_audio_start := false }
  | (true, playing) =>
    kick (playing.setBt { playing.env.bt with
        app_fsm_audio_start := true
        app_fsm_play_remote_close := false
        app_fsm_play_local_close := false })

def appAudioStart (request : BtRequest) (outcome resumed : StartOutcome) (system : System) :
    System :=
  match appAudioStartBegin request resumed system with
  | .inl calls => appAudioStarted outcome calls
  | .inr returns => returns

def appAudioStop (resumed : StartOutcome) (system : System) : System :=
  let bt := system.env.bt
  if bt.app_fsm_audio_start then
    if bt.app_fsm_play_local_close then
      system.setBt { bt with app_fsm_audio_start := false, app_fsm_play_remote_close := true }
    else
      audioPlayStop (onResume resumed) (system.setBt { bt with app_fsm_audio_start := false })
  else system

def hsCfgToneAudioStart (outcome : StartOutcome) (system : System) : System :=
  match audioPlayStart onStopped .tone (some .tone) outcome system with
  | (false, failed) => failed
  | (true, playing) =>
    let disabled := audioPlayPromptDisable playing
    { disabled with env := { disabled.env with g_u8PlyRunning := true } }

def hsCfgToneAudioStop (u8Interrupt : Bool) (resumed : StartOutcome) (system : System) : System :=
  let u8state := system.env.g_u8PlyRunning
  let ended := { system with env := { system.env with g_u8PlyRunning := false } }
  if !u8Interrupt ∧ u8state then audioPlayStop (onResume resumed) ended else ended

inductive PlayerAction where
  | btStart (request : BtRequest) (outcome resumed : StartOutcome)
  | btStop (resumed : StartOutcome)
  | toneStart (outcome : StartOutcome)
  /-- The tone player ends; `streamed` if its last act was `hs_cfg_toneTxStream`,
  whose error is passed on as `u8Interrupt`. -/
  | toneStop (streamed : Bool) (resumed : StartOutcome)
  | trigger

def playerStep (system : System) : PlayerAction → System
  | .btStart request outcome resumed => appAudioStart request outcome resumed system
  | .btStop resumed => (appAudioStop resumed system).note .bluetooth false
  | .toneStart outcome => hsCfgToneAudioStart outcome system
  | .toneStop streamed resumed =>
    -- `hs_cfg_toneTxStream` fails if `g_u8PlyRunning` is `CFG_AUDIO_STOP`.
    (hsCfgToneAudioStop (streamed && !system.env.g_u8PlyRunning) resumed system).note .tone false
  | .trigger =>
    if system.driver.state = .prepare then
      { system with driver := { system.driver with state := .runing } }
    else system

def playersReady (cell : Nat → EventCb PlayClient) : System :=
  { driver := Driver.ready cell
    env :=
      { bt := ⟨false, false, false, 0, false, 0⟩
        g_u8PlyRunning := false
        interrupted := fun _ => false } }

end Hfirmware.Audio.Clients
